import MathTokens.Number.Rounding
/-! The fewest decimal digits that still round to a given binary64 number. A magnitude is measured in
grains, decimal units so small that the magnitude is an integer of them. -/
namespace MathTokens

structure Decimal where
  digits : Nat
  exponent : Int
  deriving DecidableEq, Repr

inductive Tie where
  | upward | toEven
  deriving DecidableEq, Repr

namespace Double

def exactPlaces (rank : Nat) : Nat := 1074 - (rank / blockSize - 1)

def grains (rank : Nat) : Nat :=
  units rank * Nat.pow 5 (exactPlaces rank) / Nat.pow 2 (1074 - exactPlaces rank)

def roundsTo (rank grains : Nat) : Bool :=
  rankOf (grains * unitsPerOne) (Nat.pow 10 (exactPlaces rank)) == rank

def digitCount (n : Nat) : Nat := (Nat.toDigits 10 n).length

def nearestMultiple? (tie : Tie) (fits : Nat → Bool) (exact step : Nat) : Option Nat :=
  let low := exact / step
  match fits (low * step), fits ((low + 1) * step) with
  | false, false => none
  | true, false => some low
  | false, true => some (low + 1)
  | true, true =>
    let excess := exact % step
    some (if 2 * excess < step then low
      else if step < 2 * excess then low + 1
      else match tie with
        | .upward => low + 1
        | .toEven => low + low % 2)

def candidate? (tie : Tie) (rank zeros : Nat) : Option Decimal :=
  (nearestMultiple? tie (roundsTo rank) (grains rank) (Nat.pow 10 zeros)).map fun n =>
    ⟨n, (zeros : Int) - exactPlaces rank⟩

def dropZeros : Nat → Decimal → Decimal
  | 0, d => d
  | fuel + 1, d =>
    if d.digits ≠ 0 ∧ d.digits % 10 = 0 then dropZeros fuel ⟨d.digits / 10, d.exponent + 1⟩ else d

/-- Tries one digit, then two, and so on up to all digits of the exact value, which always succeeds. -/
def shortest (tie : Tie) (rank : Nat) : Decimal :=
  if rank = 0 then ⟨0, 0⟩
  else
    let exact := grains rank
    let length := digitCount exact
    let found := (List.range length).findSome? fun i => candidate? tie rank (length - (i + 1))
    dropZeros length (found.getD ⟨exact, -exactPlaces rank⟩)

end Double
end MathTokens
