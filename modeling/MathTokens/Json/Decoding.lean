import MathTokens.Json.Value
/-! Records out of JSON values. A record is an object, in which the order of members is free and unknown
members are passed over, or an array of its fields in order. -/
namespace MathTokens.Json

def member? (name : String) (members : List (String × Json)) : Option Json :=
  (members.find? (·.1 == name)).map (·.2)

/-- The values of the named fields. A named member that occurs twice, or an item beyond the fields, is
an error; a missing field is not. -/
def fields? (names : List String) : Json → Option (List (Option Json))
  | .object members =>
    if names.all fun name => decide (members.countP (·.1 == name) ≤ 1) then
      some (names.map (member? · members))
    else none
  | .array items =>
    if items.length ≤ names.length then
      some (items.map some ++ List.replicate (names.length - items.length) none)
    else none
  | _ => none

def natural? (limit : Nat) : Json → Option Nat
  | .integer (.ofNat n) => if n < limit then some n else none
  | _ => none

def double? : Json → Option Double
  | .integer n => some (if n < 0 then (Double.ofNat n.natAbs).negate else .ofNat n.natAbs)
  | .double d => if d.isFinite then some d else none
  | _ => none

def string? : Json → Option String
  | .string s => some s
  | _ => none

def bool? : Json → Option Bool
  | .bool b => some b
  | _ => none

def character? (j : Json) : Option Char := do
  match (← j.string?).toList with
  | [c] => some c
  | _ => none

def constant? : Json → Option String
  | .string s => some s
  | .object [(name, .null)] => some name
  | _ => none

end MathTokens.Json
