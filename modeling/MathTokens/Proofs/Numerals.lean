import MathTokens.Number.Reading

/-! Runs of digits as numbers. A run has no sign, point or exponent, so reading it comes down to
rounding the integer that it denotes. -/
namespace MathTokens

theorem digitRange {c : Char} (h : isDigit c) : 48 ≤ c.toNat ∧ c.toNat ≤ 57 := by
  have range : '0' ≤ c ∧ c ≤ '9' := of_decide_eq_true h
  exact range

theorem digitLower {c : Char} (h : isDigit c) : c.toLower = c := by
  have small : ¬(65 ≤ c.toNat) := by
    have := digitRange h
    omega
  exact dif_neg fun upper => small upper.1

theorem readSignDigit {c : Char} (h : isDigit c) (cs : List Char) :
    readSign (c :: cs) = (false, c :: cs) := by
  unfold readSign
  split
  · next same => cases same; exact absurd h (by decide)
  · next same => cases same; exact absurd h (by decide)
  · rfl

theorem takeDigits {ds : List Char} (digits : ∀ c ∈ ds, isDigit c) : ds.takeWhile isDigit = ds := by
  have taken : (ds ++ []).takeWhile isDigit = _ := List.takeWhile_append_of_pos digits
  simpa using taken

theorem dropDigits {ds : List Char} (digits : ∀ c ∈ ds, isDigit c) : ds.dropWhile isDigit = [] := by
  have dropped : (ds ++ []).dropWhile isDigit = _ := List.dropWhile_append_of_pos digits
  simpa using dropped

namespace Double

theorem rankOfZero : rankOf 0 1 = 0 := by
  simp [rankOf, roundHalfEven]

theorem ofDecimalWhole (n : Nat) : ofDecimal false n 0 = ofNat n := by
  unfold ofDecimal
  split
  · next zero =>
    subst zero
    rw [ofNat, ofRatio, Nat.zero_mul, rankOfZero]
  · have one : n * Nat.pow 10 0 = n := Nat.mul_one n
    change (if 400 < 0 then _ else ofRatio false (n * Nat.pow 10 0) 1) = _
    rw [if_neg (by decide), one, ofNat]

theorem readFiniteDigits {ds : List Char} (nonempty : ds ≠ []) (digits : ∀ c ∈ ds, isDigit c) :
    readFinite false ds = some (ofNat (digitsValue ds)) := by
  simp [readFinite, takeDigits digits, dropDigits digits, readFraction, readExponent, nonempty,
    ofDecimalWhole]

theorem readMagnitudeDigits {ds : List Char} (nonempty : ds ≠ []) (digits : ∀ c ∈ ds, isDigit c) :
    readMagnitude false ds = some (ofNat (digitsValue ds)) := by
  have same : ds.map Char.toLower = ds :=
    (List.map_congr_left fun c member => digitLower (digits c member)).trans (List.map_id ds)
  have noWord (word : List Char) (letter : ∃ c ∈ word, isDigit c = false) :
      String.ofList ds ≠ String.ofList word := by
    intro equal
    obtain ⟨c, member, other⟩ := letter
    have digit := digits c (by rwa [String.ofList_injective equal])
    rw [other] at digit
    cases digit
  simp only [readMagnitude, same]
  rw [if_neg, if_neg, readFiniteDigits nonempty digits]
  · exact noWord ['n', 'a', 'n'] ⟨'n', by simp, by decide⟩
  · rintro (inf | infinity)
    · exact noWord ['i', 'n', 'f'] ⟨'i', by simp, by decide⟩ inf
    · exact noWord ['i', 'n', 'f', 'i', 'n', 'i', 't', 'y'] ⟨'i', by simp, by decide⟩ infinity

theorem readDigits {ds : List Char} (nonempty : ds ≠ []) (digits : ∀ c ∈ ds, isDigit c) :
    read ds = .ok (ofNat (digitsValue ds)) := by
  cases ds with
  | nil => exact absurd rfl nonempty
  | cons c cs =>
    have sign := readSignDigit (digits c (by simp)) cs
    simp only [read, sign, readMagnitudeDigits nonempty digits]

end Double
end MathTokens
