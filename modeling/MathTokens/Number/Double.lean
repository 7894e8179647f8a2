/-! Binary64 numbers. The finite magnitudes are counted upward from zero: the one of rank `r` is the
`r`-th of them, so the order of ranks is the order of values and the next number is the next rank.
The unit of magnitudes is the least positive one, 2^-1074. -/
namespace MathTokens

abbrev blockSize : Nat := Nat.pow 2 52

abbrev rankCount : Nat := 2047 * blockSize

inductive Double where
  | finite (negative : Bool) (rank : Fin rankCount)
  | infinite (negative : Bool)
  | nan
  deriving DecidableEq, Repr

namespace Double

def unitsPerOne : Nat := Nat.pow 2 1074

def units (rank : Nat) : Nat :=
  if rank < blockSize then rank
  else (blockSize + rank % blockSize) * Nat.pow 2 (rank / blockSize - 1)

def zero : Double := .finite false ⟨0, by decide⟩

def isFinite : Double → Bool
  | .finite .. => true
  | _ => false

def isNegative : Double → Bool
  | .finite negative _ => negative
  | .infinite negative => negative
  | .nan => false

def signBit : Nat := Nat.pow 2 63

def bits : Double → Nat
  | .finite negative rank => negative.toNat * signBit + rank
  | .infinite negative => negative.toNat * signBit + rankCount
  | .nan => rankCount + blockSize / 2

def equal : Double → Double → Bool
  | .finite m a, .finite n b => a == b && (m == n || a.val == 0)
  | .infinite m, .infinite n => m == n
  | _, _ => false

def negate : Double → Double
  | .finite negative rank => .finite (!negative) rank
  | .infinite negative => .infinite (!negative)
  | .nan => .nan

end Double
end MathTokens
