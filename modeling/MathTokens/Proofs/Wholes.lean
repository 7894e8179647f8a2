import MathTokens.Number.Text
import MathTokens.Proofs.Numerals
import MathTokens.Proofs.Rounding

/-! The text of a whole number. The search for the fewest digits reaches the exact value while it is
still a multiple of one, so the text is a plain run of digits, and read again it gives the number. -/
namespace MathTokens

theorem tenfoldHalvings (n : Nat) {places total : Nat} (bound : places ≤ total) :
    n * Nat.pow 2 total * Nat.pow 5 places / Nat.pow 2 (total - places) =
      n * Nat.pow 10 places := by
  obtain ⟨unused, rfl⟩ := Nat.exists_eq_add_of_le bound
  have halves : Nat.pow 2 (places + unused) = Nat.pow 2 places * Nat.pow 2 unused :=
    Nat.pow_add 2 places unused
  have tens : Nat.pow 10 places = Nat.pow 2 places * Nat.pow 5 places := Nat.mul_pow 2 5 places
  rw [Nat.add_sub_cancel_left, halves, tens]
  refine Nat.div_eq_of_eq_mul_left (Nat.two_pow_pos unused) ?_
  ac_rfl

theorem toDigitsDigits (n : Nat) : ∀ c ∈ Nat.toDigits 10 n, isDigit c := by
  intro c member
  have digit : c.isDigit := Nat.isDigit_of_mem_toDigits (by decide) (by decide) member
  simp only [Char.isDigit, Bool.and_eq_true, decide_eq_true_eq] at digit
  exact decide_eq_true digit

namespace Double

def IsWhole : Double → Prop
  | .finite false rank => unitsPerOne ∣ units rank
  | _ => False
instance (d : Double) : Decidable d.IsWhole := by
  unfold IsWhole; split <;> infer_instance

theorem ofNatWhole {n : Nat} (finite : (ofNat n).isFinite) : (ofNat n).IsWhole := by
  have whole : unitsPerOne ∣ units (rankOf (n * unitsPerOne) 1) := by
    unfold unitsPerOne
    generalize 1074 = total
    exact unitsOfWhole n total
  rw [ofNat, ofRatio, ofRank] at finite ⊢
  split at finite
  · next inside =>
    rw [dif_pos inside]
    exact whole
  · cases finite

theorem grainsWhole {rank n : Nat} (exact : units rank = n * unitsPerOne) :
    grains rank = n * Nat.pow 10 (exactPlaces rank) := by
  have bound : exactPlaces rank ≤ 1074 := Nat.sub_le _ _
  unfold grains
  rewrite [exact]
  unfold unitsPerOne
  -- With the exponent in place the last step would compute the power.
  generalize 1074 = total at bound ⊢
  exact tenfoldHalvings n bound

theorem roundsToWhole (rank k e : Nat) :
    roundsTo rank (k * Nat.pow 10 (e + exactPlaces rank)) ↔
      rankOf (k * Nat.pow 10 e * unitsPerOne) 1 = rank := by
  have positive : 0 < Nat.pow 10 (exactPlaces rank) := Nat.pow_pos (by decide)
  have scaled := rankOfScaled (k * Nat.pow 10 e * unitsPerOne) 1 positive
  have grown : Nat.pow 10 (e + exactPlaces rank) =
      Nat.pow 10 e * Nat.pow 10 (exactPlaces rank) := Nat.pow_add 10 e _
  have same : k * Nat.pow 10 (e + exactPlaces rank) * unitsPerOne =
      k * Nat.pow 10 e * unitsPerOne * Nat.pow 10 (exactPlaces rank) := by
    rw [grown, ← Nat.mul_assoc, Nat.mul_right_comm]
  rw [roundsTo, same, ← scaled, Nat.one_mul, beq_iff_eq]

theorem nearestMultipleFits {tie : Tie} {fits : Nat → Bool} {exact step k : Nat}
    (h : nearestMultiple? tie fits exact step = some k) : fits (k * step) := by
  cases low : fits (exact / step * step) with
  | false =>
    cases high : fits ((exact / step + 1) * step) with
    | false => simp [nearestMultiple?, low, high] at h
    | true =>
      simp only [nearestMultiple?, low, high, Option.some.injEq] at h
      rw [← h, high]
  | true =>
    cases high : fits ((exact / step + 1) * step) with
    | false =>
      simp only [nearestMultiple?, low, high, Option.some.injEq] at h
      rw [← h, low]
    | true =>
      have neighbour : k = exact / step ∨ k = exact / step + 1 := by
        simp only [nearestMultiple?, low, high, Option.some.injEq] at h
        split at h
        · exact .inl h.symm
        · split at h
          · exact .inr h.symm
          · cases tie with
            | upward => exact .inr h.symm
            | toEven =>
              simp only at h
              omega
      rcases neighbour with rfl | rfl
      · exact low
      · exact high

theorem nearestMultipleExact {tie : Tie} {fits : Nat → Bool} {k step : Nat} (positive : 0 < step)
    (here : fits (k * step)) : nearestMultiple? tie fits (k * step) step ≠ none := by
  have low : k * step / step = k := Nat.mul_div_cancel k positive
  simp only [nearestMultiple?, low, here]
  cases fits ((k + 1) * step) <;> simp

def Reads (rank : Nat) (d : Decimal) : Prop :=
  ∃ e : Nat, d.exponent = e ∧ rankOf (d.digits * Nat.pow 10 e * unitsPerOne) 1 = rank

theorem dropZerosReads {rank : Nat} {d : Decimal} (h : Reads rank d) (fuel : Nat) :
    Reads rank (dropZeros fuel d) := by
  induction fuel generalizing d with
  | zero => exact h
  | succ fuel ih =>
    rw [dropZeros]
    split
    · next zero =>
      obtain ⟨e, exponent, value⟩ := h
      refine ih ⟨e + 1, by simp [exponent], ?_⟩
      have tens : Nat.pow 10 (e + 1) = 10 * Nat.pow 10 e := Nat.pow_succ'
      have whole : d.digits / 10 * 10 = d.digits :=
        Nat.div_mul_cancel (Nat.dvd_of_mod_eq_zero zero.2)
      rw [tens, ← Nat.mul_assoc, whole, value]
    · exact h

theorem placesLtDigitCount {n : Nat} (positive : 0 < n) (places : Nat) :
    places < digitCount (n * Nat.pow 10 places) := by
  refine Nat.lt_of_not_le fun few => ?_
  cases places with
  | zero => exact absurd Nat.length_toDigits_pos (Nat.not_lt_of_le few)
  | succ places =>
    have below := (Nat.length_toDigits_le_iff (by decide) (Nat.succ_pos places)).mp few
    exact absurd below (Nat.not_lt_of_le (Nat.le_mul_of_pos_left _ positive))

theorem findSomeRange {f : Nat → Option Decimal} {n i : Nat} (inside : i < n)
    (hit : f i ≠ none) :
    ∃ j d, j ≤ i ∧ f j = some d ∧ (List.range n).findSome? f = some d := by
  induction n with
  | zero => exact absurd inside (Nat.not_lt_zero i)
  | succ n ih =>
    rw [List.range_succ, List.findSome?_append]
    rcases Nat.lt_or_eq_of_le (Nat.le_of_lt_succ inside) with earlier | rfl
    · obtain ⟨j, d, bound, found, first⟩ := ih earlier
      exact ⟨j, d, bound, found, by rw [first, Option.some_or]⟩
    · cases before : (List.range i).findSome? f with
      | none =>
        obtain ⟨d, found⟩ := Option.ne_none_iff_exists'.mp hit
        exact ⟨i, d, Nat.le_refl i, found, by simp [found]⟩
      | some d =>
        obtain ⟨j, member, found⟩ := List.exists_of_findSome?_eq_some before
        exact ⟨j, d, Nat.le_of_lt (List.mem_range.mp member), found, rfl⟩

theorem zeroReads : Reads 0 ⟨0, 0⟩ :=
  ⟨0, rfl, by simp only [Nat.zero_mul, rankOfZero]⟩

theorem candidateReads {tie : Tie} {rank zeros : Nat} {d : Decimal}
    (h : candidate? tie rank zeros = some d) (noPlaces : exactPlaces rank ≤ zeros) :
    Reads rank d := by
  obtain ⟨e, rfl⟩ := Nat.exists_eq_add_of_le' noPlaces
  obtain ⟨k, near, rfl⟩ := Option.map_eq_some_iff.mp h
  refine ⟨e, by simp, ?_⟩
  exact (roundsToWhole rank k e).mp (nearestMultipleFits near)

theorem candidateExact (tie : Tie) {rank n : Nat} (exact : units rank = n * unitsPerOne) :
    candidate? tie rank (exactPlaces rank) ≠ none := by
  have one : n * Nat.pow 10 0 = n := Nat.mul_one n
  have value : rankOf (n * Nat.pow 10 0 * unitsPerOne) 1 = rank := by
    rw [one, ← exact, rankOfUnits]
  have fits := (roundsToWhole rank n 0).mpr value
  rw [Nat.zero_add] at fits
  rw [candidate?, grainsWhole exact, ne_eq, Option.map_eq_none_iff]
  exact nearestMultipleExact (Nat.pow_pos (by decide)) fits

/- The search goes from many zeros to few. The exact value is a candidate while the zeros still reach
past the point, so the search never goes on to decimals with places. -/
theorem shortestReads (tie : Tie) {rank : Nat} (whole : unitsPerOne ∣ units rank) :
    Reads rank (shortest tie rank) := by
  obtain ⟨n, same⟩ := whole
  have exact : units rank = n * unitsPerOne := by rw [same, Nat.mul_comm]
  unfold shortest
  split
  · next zero =>
    rw [zero]
    exact zeroReads
  · next nonzero =>
    have positive : 0 < n := by
      refine Nat.pos_of_ne_zero fun none => nonzero ?_
      rw [← rankOfUnits rank, exact, none, Nat.zero_mul, rankOfZero]
    have few := placesLtDigitCount positive (exactPlaces rank)
    rw [← grainsWhole exact] at few
    simp only
    generalize digitCount (grains rank) = length at few
    have inside : length - 1 - exactPlaces rank < length := by omega
    have zeros : length - (length - 1 - exactPlaces rank + 1) = exactPlaces rank := by omega
    have hit := candidateExact tie exact
    rw [← zeros] at hit
    obtain ⟨j, d, bound, found, first⟩ := findSomeRange
      (f := fun i => candidate? tie rank (length - (i + 1))) inside hit
    rw [first, Option.getD_some]
    exact dropZerosReads (candidateReads found (by omega)) length

/-! As text such a decimal is its digits and the zeros of its exponent. -/

theorem positionalWhole {d : Decimal} {e : Nat} (exponent : d.exponent = e) :
    d.positional = Nat.toDigits 10 d.digits ++ List.replicate e '0' := by
  simp only [Decimal.positional, exponent, Decimal.digitChars]

theorem positionalDigits {d : Decimal} {e : Nat} (exponent : d.exponent = e) :
    ∀ c ∈ d.positional, isDigit c := by
  rw [positionalWhole exponent]
  intro c member
  rcases List.mem_append.mp member with digit | zero
  · exact toDigitsDigits _ c digit
  · rw [(List.mem_replicate.mp zero).2]
    decide

theorem positionalValue {d : Decimal} {e : Nat} (exponent : d.exponent = e) :
    digitsValue d.positional = d.digits * Nat.pow 10 e := by
  have fold (cs : List Char) : digitsValue cs = Nat.ofDigitChars 10 cs 0 :=
    Nat.ofDigitChars_eq_foldl.symm
  rw [positionalWhole exponent, fold, Nat.ofDigitChars_append, Nat.ofDigitChars_ten_toDigits,
    Nat.ofDigitChars_replicate_zero, Nat.mul_comm]
  rfl

theorem positionalLength {d : Decimal} {e k : Nat} (exponent : d.exponent = e)
    (positive : 0 < d.digits) (small : d.digits * Nat.pow 10 e < Nat.pow 10 k) :
    d.positional.length ≤ k := by
  have zeros : e < k := by
    refine Nat.lt_of_not_le fun many => ?_
    have grown : Nat.pow 10 k ≤ Nat.pow 10 e := Nat.pow_le_pow_right (by decide) many
    have larger : Nat.pow 10 e ≤ d.digits * Nat.pow 10 e := Nat.le_mul_of_pos_left _ positive
    omega
  obtain ⟨room, rfl⟩ := Nat.exists_eq_add_of_lt zeros
  have split : Nat.pow 10 (e + room + 1) = Nat.pow 10 (room + 1) * Nat.pow 10 e := by
    rw [Nat.add_assoc, Nat.mul_comm]
    exact Nat.pow_add 10 e (room + 1)
  rw [split] at small
  have below : d.digits < Nat.pow 10 (room + 1) := Nat.lt_of_mul_lt_mul_right small
  have digits := (Nat.length_toDigits_le_iff (by decide) (Nat.succ_pos room)).mpr below
  rw [positionalWhole exponent, List.length_append, List.length_replicate]
  omega

/- 309 is the number of digits of the greatest finite number. -/
theorem wholeLength {rank : Nat} (finite : rank < rankCount) {d : Decimal} (reads : Reads rank d)
    (nonzero : rank ≠ 0) : d.positional.length ≤ 309 := by
  obtain ⟨e, exponent, value⟩ := reads
  have positive : 0 < d.digits := by
    refine Nat.pos_of_ne_zero fun none => nonzero ?_
    rw [← value, none, Nat.zero_mul, Nat.zero_mul, rankOfZero]
  have small : d.digits * Nat.pow 10 e < Nat.pow 2 1024 := by
    refine Nat.lt_of_not_le fun large => ?_
    have beyond := rankOfLarge large
    omega
  have wide : Nat.pow 2 1024 ≤ Nat.pow 10 309 := by decide +kernel
  have below := Nat.lt_of_lt_of_le small wide
  generalize 309 = k at below ⊢
  exact positionalLength exponent positive below

structure WholeText (d : Double) (cs : List Char) : Prop where
  nonempty : cs ≠ []
  digits : ∀ c ∈ cs, isDigit c
  length : cs.length ≤ 309
  value : ofNat (digitsValue cs) = d

theorem wholeText {d : Double} (whole : d.IsWhole) : WholeText d d.text.toList := by
  cases d with
  | infinite negative => cases whole
  | nan => cases whole
  | finite negative rank =>
    cases negative with
    | true => cases whole
    | false =>
      have reads := shortestReads .upward whole
      have written : (text (.finite false rank)).toList = (shortest .upward rank).positional := by
        simp [text, signed]
      rw [written]
      obtain ⟨e, exponent, value⟩ := id reads
      refine ⟨?_, positionalDigits exponent, ?_, ?_⟩
      · rw [positionalWhole exponent]
        exact List.append_ne_nil_of_left_ne_nil Nat.toDigits_ne_nil _
      · by_cases zero : rank.val = 0
        · rw [zero]
          decide
        · exact wholeLength rank.isLt reads zero
      · rw [positionalValue exponent, ofNat, ofRatio, value]
        exact dif_pos rank.isLt

end Double
end MathTokens
