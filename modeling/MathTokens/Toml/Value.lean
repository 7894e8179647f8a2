import MathTokens.Number.Double
/-! What a TOML document holds. -/
namespace MathTokens

inductive Toml where
  | text (s : String)
  | integer (n : Int)
  | float (d : Double)
  | boolean (b : Bool)
  | moment
  | array (items : List Toml)
  | table (entries : List (String × Toml))
  deriving Repr

namespace Toml

def find? (name : String) (entries : List (String × Toml)) : Option Toml :=
  (entries.find? (·.1 == name)).map (·.2)

/-- The values of the named fields of a record: a table, in which other keys are passed over, or an
array of the fields in order, in which further items are. A moment has no field of any name. -/
def fields? (names : List String) : Toml → Option (List (Option Toml))
  | .table entries => some (names.map (find? · entries))
  | .array items =>
    some ((items.map some ++ List.replicate names.length none).take names.length)
  | .moment => some (names.map fun _ => none)
  | _ => none

def natural? : Toml → Option Nat
  | .integer (.ofNat n) => some n
  | _ => none

def bool? : Toml → Option Bool
  | .boolean b => some b
  | _ => none

def constant? : Toml → Option String
  | .text s => some s
  | .table [(name, .table [])] => some name
  | .table [(name, .array [])] => some name
  | _ => none

end Toml
end MathTokens
