import MathTokens.Proofs.Lines
import MathTokens.Source.LineIndex

/-! The table of line starts against a walk from the start of the source. Both give the same line and
column for every offset between two characters. -/
namespace MathTokens

namespace Text

theorem sliceAppend (front mid back : List Char) :
    slice? (byteLength front) (byteLength (front ++ mid)) (front ++ (mid ++ back)) = some mid := by
  have length : byteLength (front ++ mid) - byteLength front = byteLength mid := by simp
  have ordered : byteLength front ≤ byteLength (front ++ mid) := by simp
  simp only [slice?, if_pos ordered, splitAtByteAppend, length, bind, Option.bind]

theorem trimEndKeeps (p : Char → Bool) {xs : List Char} (kept : ∀ c ∈ xs.getLast?, p c = false)
    (ys : List Char) : trimEnd p (xs ++ ys) = xs ++ trimEnd p ys := by
  have stays : xs.reverse.dropWhile p = xs.reverse := by
    rw [List.getLast?_eq_head?_reverse] at kept
    cases first : xs.reverse with
    | nil => rfl
    | cons c cs =>
      rw [first] at kept
      exact List.dropWhile_cons_of_neg (by simp [kept c rfl])
  rw [trimEnd, List.reverse_append, List.dropWhile_append, stays, trimEnd]
  split
  · next gone => simp [List.isEmpty_iff.mp gone]
  · simp

theorem trimEndLast (p : Char → Bool) (cs : List Char) :
    ∀ c ∈ (trimEnd p cs).getLast?, p c = false := by
  intro c last
  rw [trimEnd, List.getLast?_reverse] at last
  exact stopsDropped p cs.reverse c last

end Text

/- What stands before a line: nothing, or a text that ends in a line feed. -/
def Fed (cs : List Char) : Prop := cs = [] ∨ ∃ lines, cs = lines ++ ['\n']

theorem lastLine (cs : List Char) : ∃ above line, cs = above ++ line ∧ Fed above ∧ '\n' ∉ line := by
  induction cs with
  | nil => exact ⟨[], [], rfl, .inl rfl, by simp⟩
  | cons c cs ih =>
    obtain ⟨above, line, rfl, rfl | ⟨lines, rfl⟩, plain⟩ := ih
    · by_cases feed : c = '\n'
      · exact ⟨[c], line, rfl, .inr ⟨[], by simp [feed]⟩, plain⟩
      · exact ⟨[], c :: line, rfl, .inl rfl, by simp [plain, Ne.symm feed]⟩
    · exact ⟨c :: (lines ++ ['\n']), line, rfl, .inr ⟨c :: lines, rfl⟩, plain⟩

namespace Position

theorem startOffset (front : List Char) :
    (start.advanceOver front).offset = Text.byteLength front := by
  rw [advanceOverOffset]
  exact Nat.zero_add _

theorem plainAdvanceOver (p : Position) {line : List Char} (plain : '\n' ∉ line) :
    p.advanceOver line = ⟨p.offset + Text.byteLength line, p.line, p.column + line.length⟩ := by
  induction line generalizing p with
  | nil => rfl
  | cons c line ih =>
    rw [List.mem_cons, not_or] at plain
    rw [advanceOverCons, ih _ plain.2, advance, if_neg (Ne.symm plain.1)]
    simp only [Text.byteLengthCons, List.length_cons, mk.injEq, true_and]
    omega

theorem fedAdvanceOver {above : List Char} (fed : Fed above) :
    start.advanceOver above = ⟨Text.byteLength above, above.count '\n' + 1, 1⟩ := by
  rcases fed with rfl | ⟨lines, rfl⟩
  · rfl
  · have feed : '\n'.utf8Size = 1 := rfl
    rw [startBelow]
    simp [shift, start, feed, Nat.add_comm]

theorem lineAdvanceOverFed {above line : List Char} (fed : Fed above) (plain : '\n' ∉ line) :
    start.advanceOver (above ++ line) =
      ⟨Text.byteLength (above ++ line), above.count '\n' + 1, line.length + 1⟩ := by
  rw [advanceOverAppend, fedAdvanceOver fed, plainAdvanceOver _ plain]
  simp [Nat.add_comm]

theorem columnAdvanceOver (p : Position) (cs : List Char) :
    (p.advanceOver cs).column ≤ p.column + cs.length := by
  induction cs generalizing p with
  | nil => exact Nat.le_refl _
  | cons c cs ih =>
    have later := ih (p.advance c)
    have here : (p.advance c).column ≤ p.column + 1 := by
      unfold advance
      split <;> simp
    rw [advanceOverCons, List.length_cons]
    omega

end Position

namespace LineIndex

def startsFrom (n : Nat) : List Char → List Nat
  | [] => []
  | c :: cs =>
    let later := startsFrom (n + c.utf8Size) cs
    if c = '\n' then (n + c.utf8Size) :: later else later

theorem foldMark (cs : List Char) (n : Nat) (before : List Nat) :
    (cs.foldl mark (n, before)).2 = (startsFrom n cs).reverse ++ before := by
  induction cs generalizing n before with
  | nil => rfl
  | cons c cs ih =>
    rw [List.foldl_cons, mark, ih, startsFrom]
    split <;> simp

theorem lineStartsFrom (cs : List Char) : lineStarts cs = 0 :: startsFrom 0 cs := by
  simp [lineStarts, foldMark]

theorem startsFromAppend (n : Nat) (xs ys : List Char) :
    startsFrom n (xs ++ ys) = startsFrom n xs ++ startsFrom (n + Text.byteLength xs) ys := by
  induction xs generalizing n with
  | nil => rfl
  | cons x xs ih =>
    simp only [List.cons_append, startsFrom, ih, Text.byteLengthCons, Nat.add_assoc]
    split <;> rfl

theorem startsFromPlain (n : Nat) {line : List Char} (plain : '\n' ∉ line) :
    startsFrom n line = [] := by
  induction line generalizing n with
  | nil => rfl
  | cons c line ih =>
    rw [List.mem_cons, not_or] at plain
    rw [startsFrom, if_neg (Ne.symm plain.1), ih _ plain.2]

theorem startsFromCount (n : Nat) (cs : List Char) :
    (startsFrom n cs).length = cs.count '\n' := by
  induction cs generalizing n with
  | nil => rfl
  | cons c cs ih =>
    rw [startsFrom, List.count_cons]
    split
    · next feed => simp [ih, feed]
    · next other => simp [ih, other]

theorem startsFromLater {n s : Nat} {cs : List Char} (h : s ∈ startsFrom n cs) : n < s := by
  induction cs generalizing n with
  | nil => cases h
  | cons c cs ih =>
    have positive := c.utf8Size_pos
    rw [startsFrom] at h
    split at h
    · rcases List.mem_cons.mp h with rfl | later
      · omega
      · have := ih later
        omega
    · have := ih h
      omega

theorem startsFromSorted (n : Nat) (cs : List Char) : (startsFrom n cs).Pairwise (· < ·) := by
  induction cs generalizing n with
  | nil => exact .nil
  | cons c cs ih =>
    rw [startsFrom]
    split
    · exact .cons (fun s later => startsFromLater later) (ih _)
    · exact ih _

theorem lineStartsSorted (cs : List Char) : (lineStarts cs).Pairwise (· < ·) := by
  rw [lineStartsFrom]
  exact .cons (fun s later => startsFromLater later) (startsFromSorted 0 cs)

theorem lineStartsAround {above line : List Char} (fed : Fed above) (plain : '\n' ∉ line)
    (back : List Char) :
    ∃ earlier, earlier.length = above.count '\n' ∧
      lineStarts (above ++ (line ++ back)) =
        earlier ++ Text.byteLength above :: startsFrom (Text.byteLength (above ++ line)) back := by
  rw [lineStartsFrom, startsFromAppend, startsFromAppend, startsFromPlain _ plain]
  rcases fed with rfl | ⟨lines, rfl⟩
  · exact ⟨[], rfl, by simp [startsFrom]⟩
  · refine ⟨0 :: startsFrom 0 lines, by simp [startsFromCount], ?_⟩
    have last (n : Nat) : startsFrom n ['\n'] = [n + '\n'.utf8Size] := rfl
    simp [startsFromAppend, last, Nat.add_assoc]

theorem lineAtSorted {x : LineIndex} {earlier later : List Nat} {start offset : Nat}
    (table : x.starts = earlier ++ start :: later) (sorted : x.starts.Pairwise (· < ·))
    (low : start ≤ offset) (high : ∀ s ∈ later, offset < s) :
    x.lineAt? offset = some earlier.length := by
  rw [table, List.pairwise_append] at sorted
  have before : earlier.countP (fun s => decide (s ≤ offset)) = earlier.length := by
    refine List.countP_eq_length.mpr fun s member => decide_eq_true ?_
    have := sorted.2.2 s member start (by simp)
    omega
  have behind : later.countP (fun s => decide (s ≤ offset)) = 0 := by
    refine List.countP_eq_zero.mpr fun s member => ?_
    simpa using high s member
  have here : x.starts.countP (fun s => decide (s ≤ offset)) = earlier.length + 1 := by
    simp [table, before, behind, low]
  rw [lineAt?, here]

theorem positionAtFront (front back : List Char) :
    (ofChars (front ++ back)).positionAt? (Text.byteLength front) =
      some (Position.start.advanceOver front) := by
  obtain ⟨above, line, rfl, fed, plain⟩ := lastLine front
  obtain ⟨earlier, count, table⟩ := lineStartsAround fed plain back
  have place : Position.start.advanceOver (above ++ line) =
      ⟨Text.byteLength (above ++ line), earlier.length + 1, line.length + 1⟩ := by
    rw [Position.lineAdvanceOverFed fed plain, count]
  rw [List.append_assoc, place]
  generalize index : ofChars (above ++ (line ++ back)) = x
  have source : x.source = above ++ (line ++ back) := by rw [← index, ofChars]
  have starts : x.starts = lineStarts (above ++ (line ++ back)) := by rw [← index, ofChars]
  have inside : min (Text.byteLength (above ++ line)) (Text.byteLength x.source) =
      Text.byteLength (above ++ line) := by simp [source]
  have low : Text.byteLength above ≤ Text.byteLength (above ++ line) := by simp
  have found := lineAtSorted (starts.trans table) (starts ▸ lineStartsSorted _) low
    fun s => startsFromLater
  have start : x.starts[earlier.length]? = some (Text.byteLength above) := by
    simp [starts, table]
  have before : Text.slice? (Text.byteLength above) (Text.byteLength (above ++ line)) x.source =
      some line := by rw [source, Text.sliceAppend]
  simp only [positionAt?, inside, found, start, before, bind, Option.bind]

def lineEnd (x : LineIndex) (n : Nat) : Nat :=
  (x.starts[n + 1]?.map (· - 1)).getD (Text.byteLength x.source)

theorem lineRead (x : LineIndex) (n : Nat) :
    x.line? (n + 1) = x.starts[n]?.bind fun start =>
      (Text.slice? start (x.lineEnd n) x.source).map (Text.trimEnd (· == '\r')) := by
  rw [line?, lineEnd]
  cases x.starts[n]? with
  | none => rfl
  | some start =>
    cases x.starts[n + 1]? with
    | none =>
      simp only [bind, Option.bind, Option.map, Option.getD]
      cases Text.slice? start (Text.byteLength x.source) x.source <;> rfl
    | some next =>
      simp only [bind, Option.bind, Option.map, Option.getD]
      cases Text.slice? start (next - 1) x.source <;> rfl

theorem lineBounds {above line back : List Char} (fed : Fed above) (plain : '\n' ∉ line)
    (ends : ∀ c ∈ back.head?, c = '\n') :
    let x := ofChars (above ++ (line ++ back))
    x.starts[above.count '\n']? = some (Text.byteLength above) ∧
      x.lineEnd (above.count '\n') = Text.byteLength (above ++ line) := by
  intro x
  obtain ⟨earlier, count, table⟩ := lineStartsAround fed plain back
  have starts : x.starts = earlier ++ Text.byteLength above ::
      startsFrom (Text.byteLength (above ++ line)) back := table
  have next : x.starts[above.count '\n' + 1]? =
      (startsFrom (Text.byteLength (above ++ line)) back)[0]? := by
    rw [starts, ← count, List.getElem?_append_right (Nat.le_add_right ..),
      Nat.add_sub_cancel_left, List.getElem?_cons_succ]
  refine ⟨by simp [starts, ← count], ?_⟩
  rw [lineEnd, next]
  cases back with
  | nil => simp [startsFrom, x, ofChars]
  | cons c back =>
    obtain rfl : c = '\n' := ends c rfl
    have feed : '\n'.utf8Size = 1 := rfl
    simp [startsFrom, feed]

theorem lineAround {above line back : List Char} (fed : Fed above) (plain : '\n' ∉ line)
    (ends : ∀ c ∈ back.head?, c = '\n') :
    (ofChars (above ++ (line ++ back))).line? (above.count '\n' + 1) =
      some (Text.trimEnd (· == '\r') line) := by
  obtain ⟨start, stop⟩ := lineBounds fed plain ends
  have text : Text.slice? (Text.byteLength above) (Text.byteLength (above ++ line))
      (ofChars (above ++ (line ++ back))).source = some line := Text.sliceAppend above line back
  rw [lineRead, start, Option.bind_some, stop, text, Option.map_some]

end LineIndex
end MathTokens
