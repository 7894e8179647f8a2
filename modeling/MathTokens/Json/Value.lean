import MathTokens.Number.Text
/-! JSON values and their text, compact and indented. -/
namespace MathTokens

inductive Json where
  | null
  | bool (b : Bool)
  | integer (n : Int)
  | double (d : Double)
  | string (s : String)
  /-- A value whose own text holds an unpaired surrogate: it can be skipped, but not used. -/
  | unpaired
  | array (items : List Json)
  | object (members : List (String × Json))
  deriving Repr

namespace Json

def insertMember (key : String) (value : Json) : List (String × Json) → List (String × Json)
  | [] => [(key, value)]
  | (k, v) :: rest =>
    if key < k then (key, value) :: (k, v) :: rest
    else if key = k then (key, value) :: rest
    else (k, v) :: insertMember key value rest

def ofMembers (members : List (String × Json)) : Json :=
  .object (members.foldl (fun sorted (k, v) => insertMember k v sorted) [])

def hexDigit (n : Nat) : Char := Nat.digitChar n

def escapeChar (c : Char) : List Char :=
  match c with
  | '"' => ['\\', '"']
  | '\\' => ['\\', '\\']
  | '\x08' => ['\\', 'b']
  | '\x0c' => ['\\', 'f']
  | '\n' => ['\\', 'n']
  | '\r' => ['\\', 'r']
  | '\t' => ['\\', 't']
  | c =>
    if c.toNat < 0x20 then ['\\', 'u', '0', '0', hexDigit (c.toNat / 16), hexDigit (c.toNat % 16)]
    else [c]

def quoted (s : String) : String := String.ofList ('"' :: (s.toList.flatMap escapeChar ++ ['"']))

structure Layout where
  indented : Bool
  deriving DecidableEq, Repr

namespace Layout

def compact : Layout := ⟨false⟩

def pretty : Layout := ⟨true⟩

def lineBreak (l : Layout) (depth : Nat) : String :=
  if l.indented then "\n" ++ String.ofList (List.replicate (2 * depth) ' ') else ""

def colon (l : Layout) : String := if l.indented then ": " else ":"

end Layout

def leafText : Json → String
  | .bool b => if b then "true" else "false"
  | .integer n => toString n
  | .double d => d.jsonText
  | .string s => quoted s
  | _ => "null"

mutual

def write (l : Layout) (depth : Nat) (out : String) : Json → String
  | .array items =>
    if items.isEmpty then out ++ "[]"
    else writeItems l (depth + 1) (out ++ "[" ++ l.lineBreak (depth + 1)) items
      ++ l.lineBreak depth ++ "]"
  | .object members =>
    if members.isEmpty then out ++ "\x7b\x7d"
    else writeMembers l (depth + 1) (out ++ "\x7b" ++ l.lineBreak (depth + 1)) members
      ++ l.lineBreak depth ++ "\x7d"
  | leaf => out ++ leafText leaf

def writeItems (l : Layout) (depth : Nat) (out : String) : List Json → String
  | [] => out
  | item :: rest =>
    let written := write l depth out item
    writeItems l depth (if rest.isEmpty then written else written ++ "," ++ l.lineBreak depth) rest

def writeMembers (l : Layout) (depth : Nat) (out : String) : List (String × Json) → String
  | [] => out
  | (key, value) :: rest =>
    let written := write l depth (out ++ quoted key ++ l.colon) value
    writeMembers l depth (if rest.isEmpty then written else written ++ "," ++ l.lineBreak depth) rest

end

def compactText (j : Json) : String := write .compact 0 "" j

def prettyText (j : Json) : String := write .pretty 0 "" j

end Json
end MathTokens
