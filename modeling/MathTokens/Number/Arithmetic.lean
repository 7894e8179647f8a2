import MathTokens.Number.Rounding
/-! Sums, products and quotients of binary64 numbers: the exact result, rounded once. -/
namespace MathTokens.Double

def signedUnits (negative : Bool) (rank : Nat) : Int :=
  if negative then -(units rank : Int) else units rank

def add : Double → Double → Double
  | .nan, _ | _, .nan => .nan
  | .infinite m, .infinite n => if m = n then .infinite m else .nan
  | .infinite m, _ | _, .infinite m => .infinite m
  | .finite m a, .finite n b =>
    let sum := signedUnits m a + signedUnits n b
    if sum = 0 then ofRank (m && n) 0 else ofRank (decide (sum < 0)) (rankOf sum.natAbs 1)

def mul : Double → Double → Double
  | .nan, _ | _, .nan => .nan
  | .infinite m, .infinite n => .infinite (m ^^ n)
  | .infinite m, .finite n b => if b.val = 0 then .nan else .infinite (m ^^ n)
  | .finite m a, .infinite n => if a.val = 0 then .nan else .infinite (m ^^ n)
  | .finite m a, .finite n b => ofRank (m ^^ n) (rankOf (units a * units b) unitsPerOne)

def div : Double → Double → Double
  | .nan, _ | _, .nan => .nan
  | .infinite _, .infinite _ => .nan
  | .infinite m, .finite n _ => .infinite (m ^^ n)
  | .finite m _, .infinite n => ofRank (m ^^ n) 0
  | .finite m a, .finite n b =>
    if b.val = 0 then (if a.val = 0 then .nan else .infinite (m ^^ n))
    else ofRank (m ^^ n) (rankOf (units a * unitsPerOne) (units b))

def isPositive : Double → Bool
  | .finite negative rank => !negative && rank.val != 0
  | .infinite negative => !negative
  | .nan => false

def atLeast (a b : Double) : Bool :=
  match a, b with
  | .finite _ a, .finite _ b => decide (b ≤ a)
  | .infinite _, .finite .. | .infinite _, .infinite _ => true
  | _, _ => false

end MathTokens.Double
