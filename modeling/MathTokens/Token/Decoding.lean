import MathTokens.Json.Decoding
import MathTokens.Token
/-! Tokens and places as JSON, and back. -/
namespace MathTokens

def Position.json (p : Position) : Json :=
  .object [("offset", .integer p.offset), ("line", .integer p.line), ("column", .integer p.column)]

def Position.ofJson? (j : Json) : Option Position := do
  match ← j.fields? ["offset", "line", "column"] with
  | [some offset, some line, some column] =>
    some ⟨← offset.natural? UInt64.size, ← line.natural? UInt32.size,
      ← column.natural? UInt32.size⟩
  | _ => none

def Span.json (s : Span) : Json := .object [("start", s.start.json), ("end", s.stop.json)]

def Span.ofJson? (j : Json) : Option Span := do
  match ← j.fields? ["start", "end"] with
  | [some start, some stop] => some ⟨← Position.ofJson? start, ← Position.ofJson? stop⟩
  | _ => none

def Token.ofJson? : Json → Option Token
  | .object [("Name", value)] => value.string?.map .name
  | .object [("Number", value)] => value.double?.map .number
  | .object [("StringLiteral", value)] => value.string?.map .string
  | .object [("Symbol", value)] => value.character?.map .symbol
  | _ => none

def Kind.json (k : Kind) : Json := .string k.text

def Kind.ofJson? (j : Json) : Option Kind := do
  match ← j.constant? with
  | "Name" => some .name
  | "String" => some .string
  | "Number" => some .number
  | "Symbol" => some .symbol
  | _ => none

namespace LocatedToken

def json (t : LocatedToken) : Json := .object [("value", t.value.json), ("span", t.span.json)]

def ofJson? (j : Json) : Option LocatedToken := do
  match ← j.fields? ["value", "span"] with
  | [some value, some span] => some ⟨← Token.ofJson? value, ← Span.ofJson? span⟩
  | _ => none

end LocatedToken
end MathTokens
