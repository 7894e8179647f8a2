import MathTokens.Proofs.Rows

/-! Line and column as a coordinate of a source. Between two characters of one source, places are in
reading order exactly as their offsets are, and line and column lead back to the offset. -/
namespace MathTokens

namespace Text

theorem sliceSource {start stop : Nat} {cs mid : List Char} (h : slice? start stop cs = some mid) :
    ∃ front back, cs = front ++ (mid ++ back) ∧ byteLength front = start ∧
      byteLength (front ++ mid) = stop := by
  unfold slice? at h
  split at h
  · next ordered =>
    cases first : splitAtByte? start cs with
    | none => simp [first, bind, Option.bind] at h
    | some cut =>
      obtain ⟨front, rest⟩ := cut
      obtain ⟨rfl, below⟩ := splitAtByteWhole first
      cases second : splitAtByte? (stop - start) rest with
      | none => simp [first, second, bind, Option.bind] at h
      | some cut =>
        obtain ⟨text, back⟩ := cut
        obtain ⟨rfl, length⟩ := splitAtByteWhole second
        simp only [first, second, bind, Option.bind, Option.some.injEq] at h
        subst h
        refine ⟨front, back, rfl, below, ?_⟩
        rw [byteLengthAppend]
        omega
  · cases h

end Text

namespace Position

def Precedes (p q : Position) : Prop := p.line < q.line ∨ p.line = q.line ∧ p.column < q.column
instance (p q : Position) : Decidable (p.Precedes q) := by unfold Precedes; infer_instance

def readingOrder (p q : Position) : Ordering :=
  (compare p.line q.line).then (compare p.column q.column)

theorem precedesTrans {p q r : Position} (one : p.Precedes q) (two : q.Precedes r) :
    p.Precedes r := by
  unfold Precedes at *
  omega

theorem precedesApart {p q : Position} (h : p.Precedes q) :
    ¬q.Precedes p ∧ ¬(p.line = q.line ∧ p.column = q.column) := by
  unfold Precedes at *
  omega

theorem advancePrecedes (p : Position) (c : Char) : p.Precedes (p.advance c) := by
  unfold advance
  split
  · exact .inl (Nat.lt_succ_self _)
  · exact .inr ⟨rfl, Nat.lt_succ_self _⟩

theorem advanceOverPrecedes (p : Position) {cs : List Char} (nonempty : cs ≠ []) :
    p.Precedes (p.advanceOver cs) := by
  induction cs generalizing p with
  | nil => exact absurd rfl nonempty
  | cons c cs ih =>
    rw [advanceOverCons]
    cases cs with
    | nil => exact advancePrecedes p c
    | cons d cs => exact precedesTrans (advancePrecedes p c) (ih _ (List.cons_ne_nil d cs))

theorem readingOrderBefore {p q : Position} (h : p.Precedes q) : p.readingOrder q = .lt := by
  rcases h with line | ⟨line, column⟩
  · rw [readingOrder, Nat.compare_eq_lt.mpr line]
    rfl
  · rw [readingOrder, Nat.compare_eq_eq.mpr line, Nat.compare_eq_lt.mpr column]
    rfl

theorem readingOrderBehind {p q : Position} (h : q.Precedes p) : p.readingOrder q = .gt := by
  rcases h with line | ⟨line, column⟩
  · rw [readingOrder, Nat.compare_eq_gt.mpr line]
    rfl
  · rw [readingOrder, Nat.compare_eq_eq.mpr line.symm, Nat.compare_eq_gt.mpr column]
    rfl

theorem frontsPrecede {front back front' back' : List Char} (same : front ++ back = front' ++ back')
    (less : Text.byteLength front < Text.byteLength front') :
    (start.advanceOver front).Precedes (start.advanceOver front') := by
  rcases List.append_eq_append_iff.mp same with ⟨mid, rfl, _⟩ | ⟨mid, rfl, _⟩
  · rw [advanceOverAppend]
    refine advanceOverPrecedes _ fun none => ?_
    simp [none] at less
  · simp only [Text.byteLengthAppend] at less
    omega

end Position

def offsetAt (source : List Char) (line column : Nat) : Nat :=
  let rows := source.splitOn '\n'
  Text.byteLength (fedRows (rows.take (line - 1))) +
    Text.byteLength ((rows.getD (line - 1) []).take (column - 1))

theorem offsetAtFront (front back : List Char) :
    let p := Position.start.advanceOver front
    offsetAt (front ++ back) p.line p.column = Text.byteLength front := by
  obtain ⟨above, line, rfl, fed, plain⟩ := lastLine front
  obtain ⟨upper, tail, row⟩ := rowsBelow fed plain back
  have place := Position.lineAdvanceOverFed fed plain
  simp only [place, offsetAt, Nat.add_sub_cancel, List.append_assoc, upper, row,
    List.getD_eq_getElem?_getD, Option.getD_some, List.take_left, Text.byteLengthAppend]

namespace LineIndex

theorem positionAtClamped (source : List Char) (offset : Nat) :
    (ofChars source).positionAt? (min offset (Text.byteLength source)) =
      (ofChars source).positionAt? offset := by
  rw [positionAt?, positionAt?, ofChars, Nat.min_assoc, Nat.min_self]

theorem positionAtIff {source : List Char} {offset : Nat} {p : Position} :
    (ofChars source).positionAt? offset = some p ↔
      ∃ front back, source = front ++ back ∧
        Text.byteLength front = min offset (Text.byteLength source) ∧
        p = Position.start.advanceOver front := by
  constructor
  · intro found
    have cut := found
    simp only [positionAt?, bind, Option.bind_eq_some_iff] at cut
    obtain ⟨line, _, start, _, before, sliced, _⟩ := cut
    obtain ⟨front, back, whole, _, length⟩ := Text.sliceSource sliced
    have inner : source = (front ++ before) ++ back := by rw [List.append_assoc, ← whole, ofChars]
    refine ⟨front ++ before, back, inner, length, ?_⟩
    have walked := positionAtFront (front ++ before) back
    rw [← inner, length, ofChars] at walked
    rw [← positionAtClamped] at found
    exact Option.some.inj (found.symm.trans walked)
  · rintro ⟨front, back, rfl, length, rfl⟩
    rw [← positionAtClamped, ← length, positionAtFront]

theorem positionAtSome (source : List Char) (offset : Nat) :
    ((ofChars source).positionAt? offset).isSome ↔
      (Text.splitAtByte? (min offset (Text.byteLength source)) source).isSome := by
  rw [Option.isSome_iff_exists, Option.isSome_iff_exists]
  constructor
  · rintro ⟨p, found⟩
    obtain ⟨front, back, whole, length, _⟩ := positionAtIff.mp found
    refine ⟨(front, back), ?_⟩
    rw [← length]
    exact whole ▸ Text.splitAtByteAppend front back
  · rintro ⟨⟨front, back⟩, cut⟩
    obtain ⟨whole, length⟩ := Text.splitAtByteWhole cut
    exact ⟨_, positionAtIff.mpr ⟨front, back, whole, length, rfl⟩⟩

theorem positionsCompare {source : List Char} {offset offset' : Nat} {p q : Position}
    (inside : offset ≤ Text.byteLength source) (inside' : offset' ≤ Text.byteLength source)
    (found : (ofChars source).positionAt? offset = some p)
    (found' : (ofChars source).positionAt? offset' = some q) :
    (offset < offset' → p.Precedes q) ∧ (offset = offset' → p = q) ∧ p.offset = offset := by
  obtain ⟨front, back, whole, length, rfl⟩ := positionAtIff.mp found
  obtain ⟨front', back', whole', length', rfl⟩ := positionAtIff.mp found'
  rw [Nat.min_eq_left inside] at length
  rw [Nat.min_eq_left inside'] at length'
  refine ⟨fun less => ?_, ?_, ?_⟩
  · rw [← length, ← length'] at less
    exact Position.frontsPrecede (whole.symm.trans whole') less
  · rintro rfl
    exact Option.some.inj (found.symm.trans found')
  · rw [Position.startOffset, length]

section

variable {source : List Char} {offset offset' : Nat} {p q : Position}
  (inside : offset ≤ Text.byteLength source) (inside' : offset' ≤ Text.byteLength source)
  (found : (ofChars source).positionAt? offset = some p)
  (found' : (ofChars source).positionAt? offset' = some q)
include inside inside' found found'

theorem positionsPrecede : offset < offset' ↔ p.Precedes q := by
  obtain ⟨before, same, _⟩ := positionsCompare inside inside' found found'
  obtain ⟨behind, _, _⟩ := positionsCompare inside' inside found' found
  refine ⟨before, fun precedes => Nat.lt_of_not_le fun late => ?_⟩
  rcases Nat.lt_or_eq_of_le late with more | equal
  · exact (Position.precedesApart precedes).1 (behind more)
  · obtain rfl := same equal.symm
    exact (Position.precedesApart precedes).1 precedes

theorem positionsApart (line : p.line = q.line) (column : p.column = q.column) :
    offset = offset' := by
  have first := positionsPrecede inside inside' found found'
  have second := positionsPrecede inside' inside found' found
  unfold Position.Precedes at first second
  omega

theorem positionsOrder : p.order q = p.readingOrder q := by
  obtain ⟨before, same, here⟩ := positionsCompare inside inside' found found'
  obtain ⟨behind, _, there⟩ := positionsCompare inside' inside found' found
  rcases Nat.lt_trichotomy offset offset' with less | rfl | more
  · rw [Position.readingOrderBefore (before less), Position.order, here, there,
      Nat.compare_eq_lt.mpr less]
    rfl
  · obtain rfl := same rfl
    simp [Position.order, Position.readingOrder]
  · rw [Position.readingOrderBehind (behind more), Position.order, here, there,
      Nat.compare_eq_gt.mpr more]
    rfl

end

end LineIndex

theorem placesFollowReading (source : List Char) (small : Addressable source) :
    let x := LineIndex.ofChars source
    let size := Text.byteLength source
    (∀ offset, (x.positionAt? offset).isSome ↔
      (Text.splitAtByte? (min offset size) source).isSome) ∧
    (∀ offset, size ≤ offset → x.positionAt? offset = x.positionAt? size) ∧
    (∀ offset p, x.positionAt? offset = some p → Marks source p ∧
      p.offset = min offset size ∧ offsetAt source p.line p.column = p.offset) ∧
    ∀ offset offset' p q, offset ≤ size → offset' ≤ size →
      x.positionAt? offset = some p → x.positionAt? offset' = some q →
        (offset < offset' ↔ p.Precedes q) ∧
        (p.line = q.line ∧ p.column = q.column → offset = offset') ∧
        p.order q = p.readingOrder q := by
  intro x size
  refine ⟨LineIndex.positionAtSome source, fun offset beyond => ?_, fun offset p found => ?_, ?_⟩
  · rw [← LineIndex.positionAtClamped source offset, Nat.min_eq_right beyond]
  · obtain ⟨front, back, rfl, length, rfl⟩ := LineIndex.positionAtIff.mp found
    have place := Position.startOffset front
    exact ⟨frontMarks small rfl, place.trans length, (offsetAtFront front back).trans place.symm⟩
  · intro offset offset' p q inside inside' found found'
    refine ⟨?_, fun ⟨line, column⟩ => ?_, ?_⟩
    · exact LineIndex.positionsPrecede inside inside' found found'
    · exact LineIndex.positionsApart inside inside' found found' line column
    · exact LineIndex.positionsOrder inside inside' found found'

theorem emptyLinePlaced :
    let source := "π;\n\n\rx".toList
    let x := LineIndex.ofChars source
    Addressable source ∧ x.positionAt? 4 = some ⟨4, 2, 1⟩ ∧
      x.positionAt? 6 = some ⟨6, 3, 2⟩ ∧ Position.Precedes ⟨4, 2, 1⟩ ⟨6, 3, 2⟩ ∧
      offsetAt source 3 2 = 6 ∧ x.positionAt? 70 = x.positionAt? 7 ∧
      (x.positionAt? 1).isSome = false := by
  intro source x
  have small : Addressable source := by decide
  obtain ⟨defined, beyond, back, ordered⟩ := placesFollowReading source small
  have upper : x.positionAt? 4 = some ⟨4, 2, 1⟩ := by decide +kernel
  have lower : x.positionAt? 6 = some ⟨6, 3, 2⟩ := by decide +kernel
  obtain ⟨reading, _, _⟩ := ordered 4 6 _ _ (by decide) (by decide) upper lower
  have inside : ¬(x.positionAt? 1).isSome := fun found =>
    absurd ((defined 1).mp found) (by decide +kernel)
  exact ⟨small, upper, lower, reading.mp (by decide), (back 6 _ lower).2.2, beyond 70 (by decide),
    Bool.eq_false_iff.mpr inside⟩

end MathTokens
