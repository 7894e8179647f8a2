import MathTokens.Number.Double
/-! From an exact ratio to the nearest binary64 number, a tie going to the even rank. -/
namespace MathTokens

def roundHalfEven (num den : Nat) : Nat :=
  let q := num / den
  let r := num % den
  if 2 * r < den then q else if den < 2 * r then q + 1 else q + q % 2

namespace Double

/-- The rank nearest to `num / den` units. Below 2^53 units every integer has a rank; above, the ratio
is first divided by the step of its block. A carry into the next block needs no care, since ranks run
on from block to block. -/
def rankOf (num den : Nat) : Nat :=
  let q := num / den
  if q < 2 * blockSize then roundHalfEven num den
  else
    let shift := q.log2 - 52
    shift * blockSize + roundHalfEven num (den * Nat.pow 2 shift)

def ofRank (negative : Bool) (rank : Nat) : Double :=
  if h : rank < rankCount then .finite negative ⟨rank, h⟩ else .infinite negative

def ofRatio (negative : Bool) (num den : Nat) : Double :=
  ofRank negative (rankOf (num * unitsPerOne) den)

def ofNat (n : Nat) : Double := ofRatio false n 1

/-- The number nearest to `digits * 10 ^ exponent`. Far outside the range the answer is settled
without computing the power. -/
def ofDecimal (negative : Bool) (digits : Nat) (exponent : Int) : Double :=
  if digits = 0 then ofRank negative 0
  else match exponent with
    | .ofNat e => if 400 < e then .infinite negative else ofRatio negative (digits * Nat.pow 10 e) 1
    | .negSucc e =>
      if digits.log2 + 400 < e + 1 then ofRank negative 0 else ofRatio negative digits (Nat.pow 10 (e + 1))

end Double
end MathTokens
