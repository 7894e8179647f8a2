import MathTokens.Number.Rounding
/-! Decimal text to binary64 numbers. A number is an optional sign and then `inf`, `infinity` or `nan`
in any case, or digits with an optional point, at least one digit, and an optional exponent. -/
namespace MathTokens

inductive NumeralError where
  | empty
  | malformed
  deriving DecidableEq, Repr

def NumeralError.message : NumeralError → String
  | .empty => "cannot parse float from empty string"
  | .malformed => "invalid float literal"

def digitsValue (cs : List Char) : Nat := cs.foldl (fun n c => 10 * n + (c.toNat - '0'.toNat)) 0

def isDigit (c : Char) : Bool := decide ('0' ≤ c ∧ c ≤ '9')

def readSign : List Char → Bool × List Char
  | '-' :: cs => (true, cs)
  | '+' :: cs => (false, cs)
  | cs => (false, cs)

/-- The size of an exponent. It stops growing once it reaches 65536. -/
def exponentValue (cs : List Char) : Nat :=
  cs.foldl (fun n c => if n < 65536 then 10 * n + (c.toNat - '0'.toNat) else n) 0

def readExponent : List Char → Option Int
  | [] => some 0
  | c :: cs =>
    if c = 'e' ∨ c = 'E' then
      let (negative, digits) := readSign cs
      if digits = [] ∨ !digits.all isDigit then none
      else some (if negative then -(exponentValue digits : Int) else exponentValue digits)
    else none

def readFraction : List Char → List Char × List Char
  | '.' :: cs => (cs.takeWhile isDigit, cs.dropWhile isDigit)
  | cs => ([], cs)

namespace Double

def readFinite (negative : Bool) (cs : List Char) : Option Double := do
  let whole := cs.takeWhile isDigit
  let (fraction, rest) := readFraction (cs.dropWhile isDigit)
  if whole = [] ∧ fraction = [] then none
  let exponent ← readExponent rest
  some (ofDecimal negative (digitsValue (whole ++ fraction)) (exponent - fraction.length))

def readMagnitude (negative : Bool) (cs : List Char) : Option Double :=
  let word := String.ofList (cs.map Char.toLower)
  if word = "inf" ∨ word = "infinity" then some (.infinite negative)
  else if word = "nan" then some .nan
  else readFinite negative cs

def read (cs : List Char) : Except NumeralError Double :=
  match cs with
  | [] => .error .empty
  | cs =>
    let (negative, magnitude) := readSign cs
    match readMagnitude negative magnitude with
    | some d => .ok d
    | none => .error .malformed

end Double
end MathTokens
