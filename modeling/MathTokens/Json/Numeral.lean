import MathTokens.Json.Value
import MathTokens.Number.Arithmetic
import MathTokens.Number.Reading
/-! Numbers in JSON. Integers of 64 bits stay integers. Any other number is scaled in two steps: as many
digits as fit 64 bits are taken as an integer and rounded, and the result is multiplied or divided by
a rounded power of ten. -/
namespace MathTokens.Json

def absorb (significand : Nat) : List Char → Nat × List Char
  | [] => (significand, [])
  | c :: cs =>
    let grown := 10 * significand + (c.toNat - '0'.toNat)
    if grown < UInt64.size then absorb grown cs else (significand, c :: cs)

def powerOfTen (n : Nat) : Double := .ofDecimal false 1 n

/-- Scales by a power of ten. Above the range the answer is infinite; below, steps of 10^308 lead to
zero before `fuel` ends. -/
def scale (fuel : Nat) (d : Double) (exponent : Int) : Double :=
  if exponent.natAbs ≤ 308 then
    if 0 ≤ exponent then d.mul (powerOfTen exponent.natAbs) else d.div (powerOfTen exponent.natAbs)
  else if !d.isPositive then d
  else if 0 ≤ exponent then .infinite false
  else match fuel with
    | 0 => .zero
    | fuel + 1 => scale fuel (d.div (powerOfTen 308)) (exponent + 308)

def scaled (negative : Bool) (significand : Nat) (exponent : Int) : Json :=
  let magnitude := scale 3 (.ofNat significand) exponent
  .double (if negative then magnitude.negate else magnitude)

def ofSignificand (negative : Bool) (significand : Nat) : Json :=
  if !negative then .integer significand
  else if 0 < significand ∧ 2 * significand ≤ UInt64.size then .integer (-(significand : Int))
  else scaled true significand 0

def readPower (negative : Bool) (significand : Nat) (shift : Int) (cs : List Char) :
    Option (Json × List Char) :=
  let (below, rest) := readSign cs
  let digits := rest.takeWhile isDigit
  if digits.isEmpty then none
  else
    let power := digitsValue digits
    let exponent := if below then shift - power else shift + power
    some (scaled negative significand exponent, rest.dropWhile isDigit)

def isExponentMark (c : Char) : Bool := c == 'e' || c == 'E'

def readTail (negative : Bool) (significand : Nat) (shift : Int) : List Char → Option (Json × List Char)
  | [] => some (scaled negative significand shift, [])
  | c :: cs =>
    if isExponentMark c then readPower negative significand shift cs
    else some (scaled negative significand shift, c :: cs)

def readPlaces (negative : Bool) (significand : Nat) (shift : Int) (cs : List Char) :
    Option (Json × List Char) :=
  let digits := cs.takeWhile isDigit
  if digits.isEmpty then none
  else
    let (grown, dropped) := absorb significand digits
    readTail negative grown (shift - (digits.length - dropped.length : Nat)) (cs.dropWhile isDigit)

/-- An unsigned number: `0` or digits that do not begin with it, places, an exponent. Digits of the
integer that no longer fit count as powers of ten. -/
def readUnsigned (negative : Bool) (cs : List Char) : Option (Json × List Char) :=
  let digits := cs.takeWhile isDigit
  let rest := cs.dropWhile isDigit
  if digits.isEmpty ∨ (digits.head? = some '0' ∧ 1 < digits.length) then none
  else
    let (significand, dropped) := absorb 0 digits
    match rest with
    | '.' :: places => readPlaces negative significand dropped.length places
    | c :: _ =>
      if isExponentMark c ∨ !dropped.isEmpty then readTail negative significand dropped.length rest
      else some (ofSignificand negative significand, rest)
    | [] =>
      if dropped.isEmpty then some (ofSignificand negative significand, [])
      else some (scaled negative significand dropped.length, [])

def readNumber : List Char → Option (Json × List Char)
  | '-' :: cs => readUnsigned true cs
  | cs => readUnsigned false cs

end MathTokens.Json
