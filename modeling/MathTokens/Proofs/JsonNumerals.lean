import MathTokens.Json.Numeral
import MathTokens.Proofs.NearestNumber
import MathTokens.Proofs.Spelling

/-! Numbers as JSON has them. A natural number of 64 bits is its digits. A whole double is its digits and a
zero behind the point; the reader takes that zero into the integer, which it then divides by ten, and
below 10^15 nothing is lost on the way. -/
namespace MathTokens

theorem toDigitsTens {n : Nat} (positive : 0 < n) (e : Nat) :
    Nat.toDigits 10 (n * Nat.pow 10 e) = Nat.toDigits 10 n ++ List.replicate e '0' := by
  induction e with
  | zero => simp
  | succ e ih =>
    have tens : n * Nat.pow 10 (e + 1) = 10 * (n * Nat.pow 10 e) + 0 := by
      have power : Nat.pow 10 (e + 1) = 10 * Nat.pow 10 e := Nat.pow_succ'
      rw [power, Nat.mul_left_comm, Nat.add_zero]
    have inner : 0 < n * Nat.pow 10 e := Nat.mul_pos positive (Nat.pow_pos (by decide))
    rw [tens, ← Nat.toDigits_append_toDigits (by decide) inner (by decide), ih, List.append_assoc,
      List.replicate_succ']
    rfl

theorem toDigitsLead {n : Nat} (positive : 0 < n) : (Nat.toDigits 10 n).head? ≠ some '0' := by
  induction n using Nat.strongRecOn with
  | _ n ih =>
    rcases Nat.lt_or_ge n 10 with small | large
    · rw [Nat.toDigits_of_lt_base small, List.head?_cons, ne_eq, Option.some.injEq,
        Nat.digitChar_eq_zero]
      exact Nat.ne_of_gt positive
    · have fewer := ih (n / 10) (by omega) (by omega)
      obtain ⟨d, ds, digits⟩ := List.exists_cons_of_ne_nil (@Nat.toDigits_ne_nil (n / 10) 10)
      rw [Nat.toDigits_of_base_le (by decide) large, digits]
      rwa [digits] at fewer

theorem ofDigitCharsGrows (n : Nat) (ds : List Char) : n ≤ Nat.ofDigitChars 10 ds n := by
  induction ds generalizing n with
  | nil => exact Nat.le_refl n
  | cons d ds ih =>
    rw [Nat.ofDigitChars_cons]
    exact Nat.le_trans (by omega) (ih _)

namespace Double

theorem evenExact {m : Nat} (small : m ≤ Nat.pow 2 53) :
    units (rankOf (2 * m * unitsPerOne) 1) = 2 * m * unitsPerOne := by
  have wide : 52 ≤ 1074 + 1 := by decide
  unfold unitsPerOne
  generalize 1074 = total at wide ⊢
  obtain ⟨rank, exact⟩ := wholeMagnitude small wide
  have double : m * Nat.pow 2 (total + 1) = 2 * m * Nat.pow 2 total := by
    have power : Nat.pow 2 (total + 1) = 2 * Nat.pow 2 total := Nat.pow_succ'
    rw [power, Nat.mul_left_comm, Nat.mul_assoc]
  rw [← double, ← exact, rankOfUnits]

theorem oneUnits : 0 < unitsPerOne := by
  unfold unitsPerOne
  generalize 1074 = total
  exact Nat.two_pow_pos total

theorem wholeUnique {m n : Nat} (small : n < Nat.pow 2 53)
    (same : rankOf (m * unitsPerOne) 1 = rankOf (n * unitsPerOne) 1) : m = n := by
  have exact := wholeExact (Nat.le_of_lt small)
  rcases Nat.le_or_ge m (Nat.pow 2 53) with few | many
  · rw [← same, wholeExact few] at exact
    exact Nat.mul_right_cancel oneUnits exact
  · have ranks := rankOfMonotone (Nat.mul_le_mul_right unitsPerOne many)
    have magnitudes := unitsMonotone.monotone ranks
    rw [same, exact, wholeExact (Nat.le_refl _)] at magnitudes
    exact absurd (Nat.le_of_mul_le_mul_right magnitudes oneUnits) (Nat.not_le.mpr small)

theorem wholeDigits {n : Nat} (small : n < Nat.pow 2 53) (tie : Tie) :
    ∃ e : Nat, (shortest tie (rankOf (n * unitsPerOne) 1)).exponent = e ∧
      Nat.toDigits 10 n =
        (shortest tie (rankOf (n * unitsPerOne) 1)).digitChars ++ List.replicate e '0' := by
  have whole : unitsPerOne ∣ units (rankOf (n * unitsPerOne) 1) := by
    rw [wholeExact (Nat.le_of_lt small)]
    exact Nat.dvd_mul_left _ n
  rcases Nat.eq_zero_or_pos n with rfl | positive
  · rw [Nat.zero_mul, rankOfZero]
    exact ⟨0, by simp [shortest], by simp [shortest, Decimal.digitChars]⟩
  · obtain ⟨e, exponent, value⟩ := shortestReads tie whole
    have same := wholeUnique small value
    refine ⟨e, exponent, ?_⟩
    rw [Decimal.digitChars, ← toDigitsTens (Nat.pos_of_mul_pos_right (same ▸ positive)), same]

def whole (negative : Bool) (n : Nat) : Double := if negative then (ofNat n).negate else ofNat n

theorem wholeFinite (negative : Bool) {n : Nat} (small : n < Nat.pow 10 15) :
    ∃ rank : Fin rankCount, ofNat n = finite false rank ∧ whole negative n = finite negative rank := by
  have wide : Nat.pow 10 15 ≤ overflowBound := by decide +kernel
  obtain ⟨inside, same⟩ := ofNatFinite (Nat.lt_of_lt_of_le small wide)
  refine ⟨⟨_, inside⟩, same, ?_⟩
  rw [whole, same]
  cases negative <;> rfl

def signChars (negative : Bool) : List Char := if negative then ['-'] else []

theorem jsonTextSigned (negative : Bool) (rank : Fin rankCount) :
    (finite negative rank).jsonText.toList = signChars negative ++ (finite false rank).jsonText.toList := by
  cases negative with
  | false => rfl
  | true =>
    simp only [jsonText, signed, signChars]
    simp

theorem jsonTextNatural {n : Nat} (small : n < Nat.pow 10 15) :
    (ofNat n).jsonText.toList = Nat.toDigits 10 n ++ ['.', '0'] := by
  have wide : Nat.pow 10 15 ≤ overflowBound := by decide +kernel
  have exact : Nat.pow 10 15 ≤ Nat.pow 2 53 := by decide
  obtain ⟨inside, same⟩ := ofNatFinite (Nat.lt_of_lt_of_le small wide)
  obtain ⟨e, exponent, digits⟩ := wholeDigits (Nat.lt_of_lt_of_le small exact) .toEven
  have few := (Nat.length_toDigits_le_iff (by decide) (by decide)).mpr small
  have some := @Nat.length_toDigits_pos 10 (shortest .toEven (rankOf (n * unitsPerOne) 1)).digits
  rw [same]
  simp only [jsonText, signed]
  generalize shortest .toEven (rankOf (n * unitsPerOne) 1) = d at exponent digits some ⊢
  have length := congrArg List.length digits
  rw [List.length_append, List.length_replicate] at length
  have range : -5 ≤ d.magnitude ∧ d.magnitude ≤ 15 := by
    unfold Decimal.magnitude
    unfold Decimal.digitChars at length ⊢
    omega
  have point : 0 ≤ d.exponent := by omega
  rw [if_pos range, if_pos point, positionalWhole exponent, digits]
  simp [Decimal.digitChars]

theorem jsonTextWhole (negative : Bool) {n : Nat} (small : n < Nat.pow 10 15) :
    (whole negative n).jsonText.toList = signChars negative ++ (Nat.toDigits 10 n ++ ['.', '0']) := by
  obtain ⟨inside, positive, signed⟩ := wholeFinite negative small
  rw [signed, jsonTextSigned, ← positive, jsonTextNatural small]

/- Ten times the number has one bit more than a magnitude, but that bit is zero. -/
theorem tenthExact {n : Nat} (small : n < Nat.pow 10 15) :
    (ofNat (10 * n)).div (ofNat 10) = ofNat n := by
  have wide : 10 * Nat.pow 10 15 ≤ overflowBound := by decide +kernel
  have half : 5 * Nat.pow 10 15 ≤ Nat.pow 2 53 := by decide
  have tenfold : 10 * n = 2 * (5 * n) := by omega
  obtain ⟨inside, dividend⟩ := ofNatFinite (show 10 * n < overflowBound by omega)
  obtain ⟨inside', divisor⟩ := ofNatFinite (show 10 < overflowBound by decide +kernel)
  have above : units (rankOf (10 * n * unitsPerOne) 1) = 10 * n * unitsPerOne := by
    rw [tenfold]
    exact evenExact (by omega)
  have below : units (rankOf (10 * unitsPerOne) 1) = 10 * unitsPerOne := wholeExact (by decide)
  have nonzero : rankOf (10 * unitsPerOne) 1 ≠ 0 := by
    intro zero
    have none := oneUnits
    rw [zero] at below
    have : units 0 = 0 := unitsSmall (by decide)
    omega
  have quotient : rankOf (10 * n * unitsPerOne * unitsPerOne) (10 * unitsPerOne) =
      rankOf (n * unitsPerOne) 1 := by
    have scaled := rankOfScaled (n * unitsPerOne) 1 (Nat.mul_pos (by decide : 0 < 10) oneUnits)
    have regroup (unit : Nat) : 10 * n * unit * unit = n * unit * (10 * unit) := by ac_rfl
    rwa [Nat.one_mul, ← regroup] at scaled
  rw [dividend, divisor, div, if_neg nonzero, above, below, quotient, ofNat, ofRatio, Bool.xor_self]

end Double

namespace Json

theorem absorbAll {n : Nat} {ds : List Char} (small : Nat.ofDigitChars 10 ds n < UInt64.size) :
    absorb n ds = (Nat.ofDigitChars 10 ds n, []) := by
  induction ds generalizing n with
  | nil => rfl
  | cons d ds ih =>
    rw [Nat.ofDigitChars_cons] at small ⊢
    rw [absorb, if_pos (Nat.lt_of_le_of_lt (ofDigitCharsGrows _ ds) small), ih small]

theorem absorbDigits {n : Nat} (small : n < UInt64.size) : absorb 0 (Nat.toDigits 10 n) = (n, []) := by
  have whole := @absorbAll 0 (Nat.toDigits 10 n) (by rwa [Nat.ofDigitChars_ten_toDigits])
  rwa [Nat.ofDigitChars_ten_toDigits] at whole

theorem readNumberDigits (n : Nat) (rest : List Char) :
    readNumber (Nat.toDigits 10 n ++ rest) = readUnsigned false (Nat.toDigits 10 n ++ rest) := by
  obtain ⟨d, ds, first⟩ := List.exists_cons_of_ne_nil (@Nat.toDigits_ne_nil n 10)
  have digit : isDigit d := toDigitsDigits n d (by simp [first])
  rw [first, List.cons_append]
  unfold readNumber
  split
  · next same =>
    cases same
    exact absurd digit (by decide)
  · rfl

theorem digitsUnpadded (n : Nat) :
    ¬((Nat.toDigits 10 n).isEmpty = true ∨
      (Nat.toDigits 10 n).head? = some '0' ∧ 1 < (Nat.toDigits 10 n).length) := by
  rintro (none | ⟨zero, more⟩)
  · exact Nat.toDigits_ne_nil (List.isEmpty_iff.mp none)
  · rcases Nat.eq_zero_or_pos n with rfl | positive
    · simp at more
    · exact toDigitsLead positive zero

structure Closed (rest : List Char) : Prop where
  digit : Stops isDigit rest
  point : rest.head? ≠ some '.'
  exponent : Stops isExponentMark rest

theorem readNatural {n : Nat} (small : n < UInt64.size) {rest : List Char} (closed : Closed rest) :
    readNumber (Nat.toDigits 10 n ++ rest) = some (.integer n, rest) := by
  have digits := toDigitsDigits n
  rw [readNumberDigits, readUnsigned, takeStops digits closed.digit, dropStops digits closed.digit]
  simp only [if_neg (digitsUnpadded n), absorbDigits small]
  cases rest with
  | nil => rfl
  | cons c cs =>
    have point : c ≠ '.' := fun same => closed.point (congrArg some same)
    have exponent : isExponentMark c = false := closed.exponent c rfl
    split
    · next same => exact absurd (List.cons.inj same).1 point
    · next same =>
      cases same
      simp [exponent, ofSignificand]
    · next same => cases same

theorem readTailEnds {negative : Bool} {n : Nat} {shift : Int} {rest : List Char}
    (stop : Stops isExponentMark rest) :
    readTail negative n shift rest = some (scaled negative n shift, rest) := by
  cases rest with
  | nil => rfl
  | cons c cs => rw [readTail, stop c rfl, if_neg Bool.false_ne_true]

theorem powerOfTenOne : powerOfTen 1 = .ofNat 10 := by
  have ten : 1 * Nat.pow 10 1 = 10 := by decide
  rw [powerOfTen, Double.ofDecimal.eq_def, if_neg (by decide)]
  change (if 400 < 1 then _ else Double.ofRatio false (1 * Nat.pow 10 1) 1) = _
  rw [if_neg (by decide), ten, Double.ofNat]

theorem scaledTenth (negative : Bool) {n : Nat} (small : n < Nat.pow 10 15) :
    scaled negative (10 * n) (-1) = .double (.whole negative n) := by
  have power : (-1 : Int).natAbs = 1 := rfl
  have scales : scale 3 (.ofNat (10 * n)) (-1) = .ofNat n := by
    rw [scale, if_pos (by decide), if_neg (by decide), power, powerOfTenOne, Double.tenthExact small]
  rw [scaled, scales, Double.whole]

theorem readUnsignedWhole (negative : Bool) {n : Nat} (small : n < Nat.pow 10 15) {rest : List Char}
    (closed : Closed rest) :
    readUnsigned negative (Nat.toDigits 10 n ++ '.' :: '0' :: rest) =
      some (.double (.whole negative n), rest) := by
  have digits := toDigitsDigits n
  have wide : 10 * Nat.pow 10 15 ≤ UInt64.size := by decide
  have stop : Stops isDigit ('.' :: '0' :: rest) := by simp [Stops, isDigit]
  have taken : ('0' :: rest).takeWhile isDigit = ['0'] :=
    @takeStops isDigit ['0'] rest (eachDecided rfl) closed.digit
  have dropped : ('0' :: rest).dropWhile isDigit = rest :=
    @dropStops isDigit ['0'] rest (eachDecided rfl) closed.digit
  have absorbed : absorb n ['0'] = (10 * n, []) :=
    @absorbAll n ['0'] (show 10 * n + 0 < UInt64.size by omega)
  rw [readUnsigned, takeStops digits stop, dropStops digits stop]
  simp only [if_neg (digitsUnpadded n), absorbDigits (show n < UInt64.size by omega), readPlaces, taken,
    dropped, absorbed]
  rw [if_neg (by decide), readTailEnds closed.exponent]
  exact congrArg (fun value => some (value, rest)) (scaledTenth negative small)

theorem readWhole (negative : Bool) {n : Nat} (small : n < Nat.pow 10 15) {rest : List Char}
    (closed : Closed rest) :
    readNumber (Double.signChars negative ++ (Nat.toDigits 10 n ++ '.' :: '0' :: rest)) =
      some (.double (.whole negative n), rest) := by
  cases negative with
  | false => exact (readNumberDigits n _).trans (readUnsignedWhole false small closed)
  | true => exact readUnsignedWhole true small closed

end Json
end MathTokens
