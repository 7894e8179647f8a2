import Mathlib.Order.Monotone.Basic
import MathTokens.Number.Arithmetic
import MathTokens.Proofs.Matching
import MathTokens.Proofs.Wholes

/-! The number that a run of digits denotes. It is the binary64 number nearest to the integer, the even
one of two that are equally near, and there is none exactly from half a step beyond the greatest. -/
namespace MathTokens

def distance (target value : Int) : Nat := (value - target).natAbs

theorem roundHalfEvenNearest (num : Nat) {den : Nat} (positive : 0 < den) (j : Nat) :
    distance num (roundHalfEven num den * den : Nat) ≤ distance num (j * den : Nat) ∧
      (distance num (j * den : Nat) = distance num (roundHalfEven num den * den : Nat) →
        j ≠ roundHalfEven num den → roundHalfEven num den % 2 = 0) := by
  have parts : num / den * den + num % den = num := by
    rw [Nat.mul_comm]
    exact Nat.div_add_mod num den
  have inside : num % den < den := Nat.mod_lt _ positive
  have next : (num / den + 1) * den = num / den * den + den := Nat.succ_mul ..
  have below (less : j < num / den) : j * den + den ≤ num / den * den := by
    rw [← Nat.succ_mul]
    exact Nat.mul_le_mul_right den less
  have above (more : num / den + 1 < j) : (num / den + 1) * den + den ≤ j * den := by
    rw [← Nat.succ_mul]
    exact Nat.mul_le_mul_right den more
  obtain ⟨sides, even⟩ := roundHalfEvenCases num den
  generalize roundHalfEven num den = m at sides even ⊢
  have rounded : m = num / den ∧ m * den = num / den * den ∧ 2 * (num % den) ≤ den ∨
      m = num / den + 1 ∧ m * den = num / den * den + den ∧ den ≤ 2 * (num % den) := by
    rcases sides with ⟨same, near⟩ | ⟨same, near⟩
    · exact .inl ⟨same, by rw [same], near⟩
    · exact .inr ⟨same, by rw [same, next], near⟩
  have place : j < num / den ∨ j = num / den ∨ j = num / den + 1 ∨ num / den + 1 < j := by omega
  unfold distance
  rcases place with less | rfl | rfl | more
  · have := below less
    omega
  · omega
  · omega
  · have := above more
    omega

namespace Double

theorem unitsMonotone : StrictMono units := by
  refine strictMono_nat_of_lt_succ fun rank => ?_
  rcases Nat.lt_or_ge rank blockSize with small | large
  · rw [unitsSmall (by omega), unitsSmall (by omega)]
    exact Nat.lt_succ_self rank
  · obtain ⟨k, m, rfl, low, high⟩ := rankParts large
    rw [Nat.add_assoc, unitsStep low (by omega), unitsStep (by omega) (by omega), Nat.succ_mul]
    exact Nat.lt_add_of_pos_right (Nat.two_pow_pos k)

theorem stepDivides {k rank : Nat} (large : k * blockSize + blockSize ≤ rank) :
    ∃ j, units rank = j * Nat.pow 2 k := by
  obtain ⟨k', m, rfl, low, high⟩ := rankParts (Nat.le_trans (Nat.le_add_left ..) large)
  have blocks : (k + 1) * blockSize < (k' + 2) * blockSize := by
    rw [Nat.succ_mul, Nat.add_mul]
    omega
  have coarser : k ≤ k' := by
    have := Nat.lt_of_mul_lt_mul_right blocks
    omega
  obtain ⟨more, rfl⟩ := Nat.exists_eq_add_of_le coarser
  have halves : Nat.pow 2 (k + more) = Nat.pow 2 k * Nat.pow 2 more := Nat.pow_add 2 k more
  rw [unitsStep low (Nat.le_of_lt high), halves]
  exact ⟨m * Nat.pow 2 more, by ac_rfl⟩

theorem evenBlocks (k m : Nat) : (k * blockSize + m) % 2 = m % 2 := by
  have halves : blockSize = 2 * Nat.pow 2 51 := Nat.pow_succ'
  rw [halves, Nat.mul_left_comm, Nat.mul_add_mod]

/- No rank is nearer to a magnitude than the one it is rounded to. Below the block of that rank
magnitudes may lie closer together, but all of them are further away than the first of the block. -/
theorem rankOfNearest (q rank : Nat) :
    distance q (units (rankOf q 1)) ≤ distance q (units rank) ∧
      (distance q (units rank) = distance q (units (rankOf q 1)) → units rank ≠ units (rankOf q 1) →
        rankOf q 1 % 2 = 0) := by
  rcases Nat.lt_or_ge q (2 * blockSize) with small | large
  · have exact : units (rankOf q 1) = q := by
      rw [rankOf, Nat.div_one, if_pos small, roundHalfEvenWhole, unitsSmall small]
    rw [exact]
    unfold distance
    omega
  · have floor := stepFloor large
    obtain ⟨m, rounded, low, high, steps⟩ := rankOfSteps large
    rw [steps, unitsStep low high, evenBlocks]
    generalize q.log2 - 52 = k at rounded floor
    have positive : 0 < Nat.pow 2 k := Nat.two_pow_pos k
    have nearest := roundHalfEvenNearest q positive
    rw [rounded]
    rcases Nat.lt_or_ge rank (k * blockSize + blockSize) with lower | upper
    · have first : units (k * blockSize + blockSize) = blockSize * Nat.pow 2 k :=
        unitsStep (Nat.le_refl _) (by omega) k
      have further := unitsMonotone lower
      obtain ⟨near, _⟩ := nearest blockSize
      rw [first] at further
      unfold distance at near ⊢
      omega
    · obtain ⟨j, multiple⟩ := stepDivides upper
      rw [multiple]
      obtain ⟨near, even⟩ := nearest j
      exact ⟨near, fun tie other => even tie fun same => other (by rw [same])⟩

theorem rankOfNearestSigned (q : Nat) (negative : Bool) (rank : Nat) :
    distance q (units (rankOf q 1)) ≤ distance q (signedUnits negative rank) ∧
      (distance q (signedUnits negative rank) = distance q (units (rankOf q 1)) →
        signedUnits negative rank ≠ units (rankOf q 1) → rankOf q 1 % 2 = 0) := by
  cases negative with
  | false =>
    obtain ⟨near, even⟩ := rankOfNearest q rank
    exact ⟨near, fun tie other => even tie fun same => other (congrArg Nat.cast same)⟩
  | true =>
    have zero : units 0 = 0 := unitsSmall (by decide)
    obtain ⟨near, even⟩ := rankOfNearest q 0
    rw [zero] at near even
    have below : signedUnits true rank = -(units rank : Int) := rfl
    rw [below]
    unfold distance at near even ⊢
    omega

theorem rankOfMonotone {a b : Nat} (h : a ≤ b) : rankOf a 1 ≤ rankOf b 1 := by
  refine Nat.le_of_not_lt fun more => ?_
  have above := unitsMonotone more
  obtain ⟨left, _⟩ := rankOfNearest a (rankOf b 1)
  obtain ⟨right, _⟩ := rankOfNearest b (rankOf a 1)
  have same : a = b := by
    unfold distance at left right
    omega
  rw [same] at more
  exact Nat.lt_irrefl _ more

/-! The greatest finite number is 2^1024 - 2^971, and its step is 2^971. -/

def overflowBound : Nat := Nat.pow 2 1024 - Nat.pow 2 970

theorem rankOfBound : rankOf (overflowBound * unitsPerOne) 1 = rankCount := by decide +kernel

theorem rankBelowBound : rankOf ((overflowBound - 1) * unitsPerOne) 1 < rankCount := by
  decide +kernel

theorem rankCountLe (n : Nat) :
    rankCount ≤ rankOf (n * unitsPerOne) 1 ↔ overflowBound ≤ n := by
  constructor
  · intro reached
    refine Nat.le_of_not_lt fun below => ?_
    have least := rankOfMonotone (Nat.mul_le_mul_right unitsPerOne (Nat.le_sub_one_of_lt below))
    have finite := rankBelowBound
    omega
  · intro beyond
    rw [← rankOfBound]
    exact rankOfMonotone (Nat.mul_le_mul_right unitsPerOne beyond)

theorem ofNatFinite {n : Nat} (below : n < overflowBound) :
    ∃ h : rankOf (n * unitsPerOne) 1 < rankCount, ofNat n = .finite false ⟨_, h⟩ := by
  have inside : rankOf (n * unitsPerOne) 1 < rankCount :=
    Nat.lt_of_not_le fun reached => Nat.not_le.mpr below ((rankCountLe n).mp reached)
  exact ⟨inside, dif_pos inside⟩

theorem wholeMagnitude {n total : Nat} (small : n ≤ 2 * blockSize) (wide : 52 ≤ total) :
    ∃ rank, units rank = n * Nat.pow 2 total := by
  rcases Nat.eq_zero_or_pos n with rfl | positive
  · exact ⟨0, by rw [unitsSmall (by decide), Nat.zero_mul]⟩
  · obtain ⟨gap, low, high, bound⟩ : ∃ gap, blockSize ≤ n * Nat.pow 2 gap ∧
        n * Nat.pow 2 gap ≤ 2 * blockSize ∧ gap ≤ total := by
      rcases Nat.lt_or_ge n (2 * blockSize) with below | full
      · have few : n.log2 < 53 := (Nat.log2_lt (Nat.ne_of_gt positive)).mpr below
        obtain ⟨gap, fill⟩ := Nat.exists_eq_add_of_le (Nat.le_of_lt_succ few)
        have floor : 2 ^ n.log2 ≤ n := Nat.log2_self_le (Nat.ne_of_gt positive)
        have ceiling : n < 2 ^ (n.log2 + 1) := Nat.lt_log2_self
        refine ⟨gap, ?_, Nat.le_of_lt ?_, by omega⟩
        · calc
            blockSize = 2 ^ n.log2 * 2 ^ gap := by rw [← Nat.pow_add, ← fill]
            _ ≤ n * Nat.pow 2 gap := Nat.mul_le_mul_right _ floor
        · calc
            n * Nat.pow 2 gap < 2 ^ (n.log2 + 1) * Nat.pow 2 gap :=
              Nat.mul_lt_mul_of_pos_right ceiling (Nat.two_pow_pos gap)
            _ = 2 ^ (n.log2 + 1 + gap) := (Nat.pow_add 2 _ gap).symm
            _ = 2 * blockSize := by rw [Nat.add_right_comm, ← fill, Nat.pow_succ']
      · have one : n * Nat.pow 2 0 = n := Nat.mul_one n
        exact ⟨0, by omega, by omega, Nat.zero_le _⟩
    obtain ⟨rest, rfl⟩ := Nat.exists_eq_add_of_le bound
    have split : Nat.pow 2 (gap + rest) = Nat.pow 2 gap * Nat.pow 2 rest := Nat.pow_add 2 gap rest
    exact ⟨rest * blockSize + n * Nat.pow 2 gap, by rw [unitsStep low high, split, Nat.mul_assoc]⟩

theorem wholeExact {n : Nat} (small : n ≤ Nat.pow 2 53) :
    units (rankOf (n * unitsPerOne) 1) = n * unitsPerOne := by
  have wide : 52 ≤ 1074 := by decide
  unfold unitsPerOne
  generalize 1074 = total at wide ⊢
  obtain ⟨rank, exact⟩ := wholeMagnitude small wide
  rw [← exact, rankOfUnits]

theorem ofNatFiniteIff (n : Nat) : (ofNat n).isFinite ↔ n < overflowBound := by
  constructor
  · intro finite
    refine Nat.lt_of_not_le fun beyond => ?_
    have infinite : ofNat n = .infinite false :=
      dif_neg (Nat.not_lt.mpr ((rankCountLe n).mpr beyond))
    rw [infinite] at finite
    cases finite
  · intro below
    obtain ⟨_, same⟩ := ofNatFinite below
    rw [same]
    rfl

def value? : Double → Option Int
  | .finite negative rank => some (signedUnits negative rank)
  | .infinite _ => none
  | .nan => none

structure Nearest (target : Int) (d : Double) (value : Int) : Prop where
  holds : d.value? = some value
  nearest : ∀ (e : Double) (other : Int), e.value? = some other →
    distance target value ≤ distance target other
  even : ∀ (e : Double) (other : Int), e.value? = some other →
    distance target other = distance target value → other ≠ value → d.bits % 2 = 0

structure Denotes (n : Nat) (d : Double) (value : Int) : Prop where
  nearest : Nearest (n * unitsPerOne : Nat) d value
  unsigned : d.isNegative = false ∧ 0 ≤ value
  whole : (unitsPerOne : Int) ∣ value
  exact : n ≤ Nat.pow 2 53 → value = (n * unitsPerOne : Nat)

theorem ofNatDenotes {n : Nat} (below : n < overflowBound) :
    Denotes n (ofNat n) (units (rankOf (n * unitsPerOne) 1)) := by
  obtain ⟨inside, same⟩ := ofNatFinite below
  have whole := ofNatWhole ((ofNatFiniteIff n).mpr below)
  rw [same] at whole ⊢
  have pattern : (finite false ⟨_, inside⟩).bits = rankOf (n * unitsPerOne) 1 := by
    rw [bits, Bool.toNat_false, Nat.zero_mul, Nat.zero_add]
  refine ⟨⟨rfl, ?_, ?_⟩, ⟨rfl, Int.natCast_nonneg _⟩, Int.natCast_dvd_natCast.mpr whole,
    fun small => by rw [wholeExact small]⟩
  · intro e other value
    cases e with
    | finite negative rank =>
      cases value
      exact (rankOfNearestSigned _ negative rank).1
    | infinite | nan => cases value
  · intro e other value tie apart
    rw [pattern]
    cases e with
    | finite negative rank =>
      cases value
      exact (rankOfNearestSigned _ negative rank).2 tie apart
    | infinite | nan => cases value

end Double

theorem zerosValue (zeros : Nat) (ds : List Char) :
    digitsValue (List.replicate zeros '0' ++ ds) = digitsValue ds := by
  induction zeros with
  | zero => rfl
  | succ zeros ih => rw [List.replicate_succ, List.cons_append, ← ih]; rfl

theorem buildDigits (limits : Limits.Lexical) {ds : List Char} (nonempty : ds ≠ [])
    (digits : ∀ c ∈ ds, isDigit c) :
    buildNumber limits ds =
      if limits.numberLength < ds.length then
        .error (.numberTooLong ds.length limits.numberLength)
      else if digitsValue ds < Double.overflowBound then
        .ok (.number (Double.ofNat (digitsValue ds)))
      else .error (.numberOutOfRange ds.length) := by
  simp only [buildNumber, digitsLength digits, Double.readDigits nonempty digits,
    Double.ofNatFiniteIff]

theorem buildTooLongIff {limits : Limits.Lexical} {ds : List Char} (nonempty : ds ≠ [])
    (digits : ∀ c ∈ ds, isDigit c) (length limit : Nat) :
    buildNumber limits ds = .error (.numberTooLong length limit) ↔
      limits.numberLength < ds.length ∧ length = ds.length ∧ limit = limits.numberLength := by
  rw [buildDigits limits nonempty digits]
  split
  · next long => simp [long, eq_comm]
  · next short => split <;> simp [short]

theorem buildOutOfRangeIff {limits : Limits.Lexical} {ds : List Char} (nonempty : ds ≠ [])
    (digits : ∀ c ∈ ds, isDigit c) (length : Nat) :
    buildNumber limits ds = .error (.numberOutOfRange length) ↔
      ds.length ≤ limits.numberLength ∧ Double.overflowBound ≤ digitsValue ds ∧
        length = ds.length := by
  rw [buildDigits limits nonempty digits]
  split
  · next long => simp [Nat.not_le.mpr long]
  · next short =>
    split
    · next below => simp [Nat.not_le.mpr below]
    · next beyond => simp [Nat.not_lt.mp short, Nat.not_lt.mp beyond, eq_comm]

theorem buildPadded {limits : Limits.Lexical} {ds : List Char} (nonempty : ds ≠ [])
    (digits : ∀ c ∈ ds, isDigit c) {zeros : Nat} (room : zeros + ds.length ≤ limits.numberLength)
    (t : Token) :
    buildNumber limits (List.replicate zeros '0' ++ ds) = .ok t ↔ buildNumber limits ds = .ok t := by
  have padded : ∀ c ∈ List.replicate zeros '0' ++ ds, isDigit c := by
    intro c member
    rcases List.mem_append.mp member with zero | digit
    · rw [(List.mem_replicate.mp zero).2]
      decide
    · exact digits c digit
  have length : (List.replicate zeros '0' ++ ds).length = zeros + ds.length := by simp
  have short : ¬limits.numberLength < ds.length := by omega
  rw [buildDigits limits nonempty digits, if_neg short,
    buildDigits limits (List.append_ne_nil_of_right_ne_nil _ nonempty) padded, length,
    if_neg (Nat.not_lt.mpr room), zerosValue]
  split <;> simp

theorem numberBuilt {limits : Limits.Lexical} {ds : List Char} {d : Double} (nonempty : ds ≠ [])
    (digits : ∀ c ∈ ds, isDigit c) (built : buildNumber limits ds = .ok (.number d)) :
    Double.Denotes (digitsValue ds) d (Double.units
      (Double.rankOf (digitsValue ds * Double.unitsPerOne) 1)) := by
  obtain ⟨_, finite, same⟩ := (buildDigitsIff nonempty digits).mp built
  cases same
  exact Double.ofNatDenotes ((Double.ofNatFiniteIff _).mp finite)

theorem digitRunsRounded (limits : Limits.Lexical) {ds : List Char} (nonempty : ds ≠ [])
    (digits : ∀ c ∈ ds, isDigit c) :
    let n := digitsValue ds
    let built := buildNumber limits ds
    (∀ length limit, built = .error (.numberTooLong length limit) ↔
      limits.numberLength < ds.length ∧ length = ds.length ∧ limit = limits.numberLength) ∧
    (∀ length, built = .error (.numberOutOfRange length) ↔
      ds.length ≤ limits.numberLength ∧ Double.overflowBound ≤ n ∧ length = ds.length) ∧
    (ds.length ≤ limits.numberLength → n < Double.overflowBound →
      ∃ d value, built = .ok (.number d) ∧ d.Denotes n value) ∧
    (∀ zeros, zeros + ds.length ≤ limits.numberLength →
      ∀ t, buildNumber limits (List.replicate zeros '0' ++ ds) = .ok t ↔ built = .ok t) ∧
    ∀ es, es ≠ [] → (∀ c ∈ es, isDigit c) → n ≤ digitsValue es →
      ∀ d e, built = .ok (.number d) → buildNumber limits es = .ok (.number e) →
        ∃ value value', d.value? = some value ∧ e.value? = some value' ∧ value ≤ value' := by
  intro n built
  refine ⟨buildTooLongIff nonempty digits, buildOutOfRangeIff nonempty digits, fun short below => ?_,
    fun zeros room => buildPadded nonempty digits room,
    fun es nonempty' digits' less d e first second => ?_⟩
  · refine ⟨Double.ofNat n, _, ?_, Double.ofNatDenotes below⟩
    have outcome : built = _ := buildDigits limits nonempty digits
    rw [outcome, if_neg (Nat.not_lt.mpr short), if_pos below]
  · have lower := (numberBuilt nonempty digits first).nearest.holds
    have upper := (numberBuilt nonempty' digits' second).nearest.holds
    have ranks := Double.rankOfMonotone (Nat.mul_le_mul_right Double.unitsPerOne less)
    exact ⟨_, _, lower, upper, Int.ofNat_le.mpr (Double.unitsMonotone.monotone ranks)⟩

theorem halfWayRounded :
    let ds := "9007199254740993".toList
    let d := Double.ofNat 9007199254740992
    ds ≠ [] ∧ (∀ c ∈ ds, isDigit c) ∧
      buildNumber Limits.production.lexical ds = .ok (.number d) ∧
      buildNumber Limits.production.lexical (List.replicate 4000 '0' ++ ds) = .ok (.number d) ∧
      ∃ value, d.Denotes 9007199254740993 value ∧ d.bits % 2 = 0 := by
  intro ds d
  have nonempty : ds ≠ [] := by decide
  have digits : ∀ c ∈ ds, isDigit c := List.all_eq_true.mp (by decide)
  obtain ⟨_, _, number, zeros, _⟩ := digitRunsRounded Limits.production.lexical nonempty digits
  have built : buildNumber Limits.production.lexical ds = .ok (.number d) := by decide +kernel
  obtain ⟨d', value, built', denotes⟩ := number (by decide) (by decide +kernel)
  obtain rfl : d = d' := Token.number.inj (Except.ok.inj (built.symm.trans built'))
  exact ⟨nonempty, digits, built, (zeros 4000 (by decide) _).mpr built, value, denotes,
    by decide +kernel⟩

end MathTokens
