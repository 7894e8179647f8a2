import MathTokens.Number.Shortest
/-! How numbers are written: in full, as JSON, and with a fixed count of places. -/
namespace MathTokens

namespace Decimal

def digitChars (d : Decimal) : List Char := Nat.toDigits 10 d.digits

def magnitude (d : Decimal) : Int := d.exponent + d.digitChars.length - 1

def positional (d : Decimal) : List Char :=
  let digits := d.digitChars
  match d.exponent with
  | .ofNat e => digits ++ List.replicate e '0'
  | .negSucc e =>
    let places := e + 1
    if places < digits.length then
      digits.take (digits.length - places) ++ '.' :: digits.drop (digits.length - places)
    else '0' :: '.' :: (List.replicate (places - digits.length) '0' ++ digits)

def scientific (d : Decimal) : List Char :=
  let fraction := match d.digitChars with
    | [] => []
    | [first] => [first]
    | first :: rest => first :: '.' :: rest
  let power := d.magnitude
  fraction ++ 'e' :: (if power < 0 then '-' else '+') :: Nat.toDigits 10 power.natAbs

end Decimal

namespace Double

def signed (negative : Bool) (cs : List Char) : String :=
  String.ofList (if negative then '-' :: cs else cs)

def text : Double → String
  | .nan => "NaN"
  | .infinite negative => signed negative ['i', 'n', 'f']
  | .finite negative rank => signed negative (shortest .upward rank).positional

/-- JSON numbers are positional from 10^-5 up to below 10^16, then with at least one place, and
scientific elsewhere. JSON has no word for the others but `null`. -/
def jsonText : Double → String
  | .finite negative rank =>
    let d := shortest .toEven rank
    signed negative <|
      if -5 ≤ d.magnitude ∧ d.magnitude ≤ 15 then
        d.positional ++ (if 0 ≤ d.exponent then ['.', '0'] else [])
      else d.scientific
  | _ => "null"

def fixedText (places : Nat) : Double → String
  | .finite negative rank =>
    let scaled := Nat.toDigits 10 (roundHalfEven (units rank * Nat.pow 10 places) unitsPerOne)
    let padded := List.replicate (places + 1 - scaled.length) '0' ++ scaled
    let whole := padded.length - places
    signed negative (padded.take whole ++ (if places = 0 then [] else '.' :: padded.drop whole))
  | d => d.text

end Double
end MathTokens
