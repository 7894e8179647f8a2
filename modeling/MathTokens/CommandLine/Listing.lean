import MathTokens.Scanner.Pass
/-! What the program prints: a list of tokens, plain or as JSON, or a report of the first failure. The
fields of a line have fixed widths, counted in characters. -/
namespace MathTokens

namespace Text

inductive Alignment where
  | left | right | center
  deriving DecidableEq, Repr

def spaces (n : Nat) : String := String.ofList (List.replicate n ' ')

def pad (a : Alignment) (width : Nat) (s : String) : String :=
  let missing := width - s.length
  match a with
  | .left => s ++ spaces missing
  | .right => spaces missing ++ s
  | .center => spaces (missing / 2) ++ s ++ spaces (missing - missing / 2)

end Text

namespace CommandLine

def positionJson (p : Position) : Json :=
  .ofMembers [("offset", .integer p.offset), ("line", .integer p.line), ("column", .integer p.column)]

def spanJson (s : Span) : Json :=
  .ofMembers [("start", positionJson s.start), ("end", positionJson s.stop)]

def tokenJson (withSpan : Bool) (t : LocatedToken) : Json :=
  .ofMembers <|
    [("kind", .string t.value.kind.text), ("text", .string t.value.text), ("token", t.value.json)]
    ++ if withSpan then [("span", spanJson t.span)] else []

def tokenLine (withSpan : Bool) (t : LocatedToken) : String :=
  if withSpan then
    Text.pad .left 8 t.span.text ++ " " ++ Text.pad .left 10 t.value.kind.text ++ " "
      ++ t.value.text ++ "\n"
  else Text.pad .left 7 t.value.kind.text ++ " " ++ t.value.text ++ "\n"

def listing (json withSpans : Bool) (tokens : List LocatedToken) : String :=
  if json then (Json.array (tokens.map (tokenJson withSpans))).prettyText ++ "\n"
  else tokens.foldl (fun out t => out ++ tokenLine withSpans t) ""

def failureReport (source : List Char) (e : LexError) : String :=
  (LineIndex.ofChars source).explain e.span e.message
    ++ (match e.cause? with
      | some defect => "  caused by: " ++ defect.message ++ "\n"
      | none => "")
    ++ "  [" ++ e.code.text ++ "] " ++ e.code.category ++ "\n"

end CommandLine
end MathTokens
