import MathTokens.Proofs.ReadingOrder

/-! Searches in a table of line starts. A lookup steps back from the place where its offset would have
to go, which is safe only in a table that begins with zero and grows. The table of a source is one. The
index of no source has no entry to step back to, so nothing is answered from it. -/
namespace MathTokens

namespace LineIndex

structure Tabled (x : LineIndex) : Prop where
  first : x.starts.head? = some 0
  sorted : x.starts.Pairwise (· < ·)
  feeds : ∀ s, s ∈ x.starts ↔ s = 0 ∨
    ∃ front back, x.source = front ++ '\n' :: back ∧ s = Text.byteLength (front ++ ['\n'])

theorem startsFeed {n s : Nat} {cs : List Char} (h : s ∈ startsFrom n cs) :
    ∃ front back, cs = front ++ '\n' :: back ∧ s = n + Text.byteLength (front ++ ['\n']) := by
  induction cs generalizing n with
  | nil => cases h
  | cons c cs ih =>
    have further (later : s ∈ startsFrom (n + c.utf8Size) cs) : ∃ front back,
        c :: cs = front ++ '\n' :: back ∧ s = n + Text.byteLength (front ++ ['\n']) := by
      obtain ⟨front, back, rfl, rfl⟩ := ih later
      exact ⟨c :: front, back, rfl, by simp [Nat.add_assoc]⟩
    rw [startsFrom] at h
    split at h
    · next feed =>
      subst feed
      rcases List.mem_cons.mp h with rfl | later
      · exact ⟨[], cs, rfl, rfl⟩
      · exact further later
    · exact further h

theorem feedStarts (n : Nat) (front back : List Char) :
    n + Text.byteLength (front ++ ['\n']) ∈ startsFrom n (front ++ '\n' :: back) := by
  rw [startsFromAppend, startsFrom]
  simp [Nat.add_assoc]

theorem ofCharsTabled (source : List Char) : (ofChars source).Tabled := by
  have starts : (ofChars source).starts = 0 :: startsFrom 0 source := lineStartsFrom source
  refine ⟨by rw [starts]; rfl, lineStartsSorted source, fun s => ?_⟩
  rw [starts, List.mem_cons]
  refine or_congr_right ⟨fun later => ?_, ?_⟩
  · obtain ⟨front, back, whole, place⟩ := startsFeed later
    exact ⟨front, back, whole, by rw [place, Nat.zero_add]⟩
  · rintro ⟨front, back, whole, rfl⟩
    have member := feedStarts 0 front back
    rwa [Nat.zero_add, ← whole] at member

inductive Sought (table : List Nat) (offset : Nat) : Except Nat Nat → Prop where
  | found {n} (here : table[n]? = some offset) : Sought table offset (.ok n)
  | missed {n} (inside : n ≤ table.length) (below : ∀ s ∈ table.take n, s < offset)
      (behind : ∀ s ∈ table.drop n, offset < s) : Sought table offset (.error n)

def entryOf : Except Nat Nat → Option Nat
  | .ok n => some n
  | .error 0 => none
  | .error (n + 1) => some n

theorem soughtSome {table : List Nat} (sorted : table.Pairwise (· < ·)) (offset : Nat) :
    ∃ r, Sought table offset r := by
  induction sorted with
  | nil => exact ⟨_, .missed (n := 0) (Nat.le_refl _) nofun nofun⟩
  | @cons s table later sorted ih =>
    -- Only an offset behind the first entry has to be looked for further on.
    rcases Nat.lt_trichotomy s offset with less | rfl | more
    · obtain ⟨r, sought⟩ := ih
      cases sought with
      | @found n here => exact ⟨_, .found (n := n + 1) here⟩
      | @missed n inside below behind =>
        refine ⟨_, .missed (n := n + 1) (Nat.succ_le_succ inside) ?_ behind⟩
        exact List.forall_mem_cons.mpr ⟨less, below⟩
    · exact ⟨_, .found (n := 0) rfl⟩
    · refine ⟨_, .missed (n := 0) (Nat.zero_le _) nofun ?_⟩
      exact List.forall_mem_cons.mpr ⟨more, fun t member => Nat.lt_trans more (later t member)⟩

theorem soughtSplit {table : List Nat} {offset line : Nat} {r : Except Nat Nat}
    (sorted : table.Pairwise (· < ·)) (h : Sought table offset r) (entry : entryOf r = some line) :
    ∃ start, table = table.take line ++ start :: table.drop (line + 1) ∧ start ≤ offset ∧
      ∀ s ∈ table.drop (line + 1), offset < s := by
  have parts (inside : line < table.length) :
      table = table.take line ++ table[line] :: table.drop (line + 1) := by
    rw [← List.drop_eq_getElem_cons inside, List.take_append_drop]
  cases h with
  | found here =>
    cases entry
    obtain ⟨inside, rfl⟩ := List.getElem?_eq_some_iff.mp here
    have sorted := List.pairwise_append.mp (parts inside ▸ sorted)
    exact ⟨_, parts inside, Nat.le_refl _, (List.pairwise_cons.mp sorted.2.1).1⟩
  | @missed n inside below behind =>
    cases n with
    | zero => cases entry
    | succ n =>
      cases entry
      have member : table[line] ∈ table.take (line + 1) :=
        List.mem_take_iff_getElem.mpr ⟨line, by omega, rfl⟩
      exact ⟨_, parts inside, Nat.le_of_lt (below _ member), behind⟩

theorem soughtEntry {x : LineIndex} (tabled : x.Tabled) {offset : Nat} {r : Except Nat Nat}
    (h : Sought x.starts offset r) : ∃ line, entryOf r = some line := by
  cases h with
  | @found n here => exact ⟨n, rfl⟩
  | @missed n inside below behind =>
    cases n with
    | zero =>
      have zero : 0 ∈ x.starts := List.mem_of_head? tabled.first
      exact absurd (behind 0 zero) (Nat.not_lt_zero _)
    | succ n => exact ⟨n, rfl⟩

theorem soughtLine {x : LineIndex} {offset line : Nat} {r : Except Nat Nat}
    (sorted : x.starts.Pairwise (· < ·)) (h : Sought x.starts offset r)
    (entry : entryOf r = some line) :
    x.lineAt? offset = some line ∧ line < x.lineCount ∧
      (∃ start, x.starts[line]? = some start ∧ start ≤ offset) ∧
      ∀ next, x.starts[line + 1]? = some next → offset < next := by
  obtain ⟨start, table, low, high⟩ := soughtSplit sorted h entry
  have length : (x.starts.take line).length = line := by
    have whole := congrArg List.length table
    simp only [List.length_append, List.length_cons, List.length_take, List.length_drop] at whole ⊢
    omega
  have here : x.starts[line]? = some start := by
    rw [table, List.getElem?_append_right (Nat.le_of_eq length), length, Nat.sub_self]
    rfl
  have found := lineAtSorted table sorted low high
  rw [length] at found
  refine ⟨found, (List.getElem?_eq_some_iff.mp here).1, ⟨start, here, low⟩, fun next after => ?_⟩
  refine high next (List.mem_of_getElem? (i := 0) ?_)
  rwa [List.getElem?_drop]

structure Served (x : LineIndex) (offset line : Nat) : Prop where
  sought : ∃ r, Sought x.starts offset r
  entry : ∀ r, Sought x.starts offset r → entryOf r = some line
  found : x.lineAt? offset = some line
  inside : line < x.lineCount
  start : ∃ start, x.starts[line]? = some start ∧ start ≤ offset
  next : ∀ next, x.starts[line + 1]? = some next → offset < next

theorem tabledServes {x : LineIndex} (tabled : x.Tabled) (offset : Nat) :
    ∃ line, x.Served offset line := by
  obtain ⟨r, sought⟩ := soughtSome tabled.sorted offset
  obtain ⟨line, entry⟩ := soughtEntry tabled sought
  obtain ⟨found, inside, start, next⟩ := soughtLine tabled.sorted sought entry
  refine ⟨line, ⟨r, sought⟩, fun r' other => ?_, found, inside, start, next⟩
  obtain ⟨line', entry'⟩ := soughtEntry tabled other
  obtain ⟨found', _⟩ := soughtLine tabled.sorted other entry'
  rw [entry', ← found', found]

theorem tabledCounts {x : LineIndex} (tabled : x.Tabled) : 1 ≤ x.lineCount :=
  List.length_pos_of_mem (List.mem_of_head? tabled.first)

theorem emptySought {offset : Nat} {r : Except Nat Nat} :
    Sought empty.starts offset r ↔ r = .error 0 := by
  constructor
  · intro h
    cases h with
    | found here => cases here
    | missed inside below behind => rw [Nat.le_zero.mp inside]
  · rintro rfl
    exact .missed (Nat.le_refl _) nofun nofun

theorem emptyNotTabled : ¬empty.Tabled := fun h => nomatch h.first

inductive Origin where
  | source (cs : List Char)
  | nothing
  deriving DecidableEq, Repr

def Origin.index : Origin → LineIndex
  | .source cs => ofChars cs
  | .nothing => empty

end LineIndex

/- For lookups it matters only that some source was read; an offset inside a character is then the one
reason for no answer. -/
theorem sourcedTablesServe (o : LineIndex.Origin) :
    let x := o.index
    (∀ source, o = .source source → x.source = source) ∧
    (x.Tabled ↔ o ≠ .nothing) ∧ (1 ≤ x.lineCount ↔ o ≠ .nothing) ∧
    ∀ offset,
      ((∃ line, x.Served offset line) ↔ o ≠ .nothing) ∧
      ((x.positionAt? offset).isSome ↔ o ≠ .nothing ∧
        (Text.splitAtByte? (min offset (Text.byteLength x.source)) x.source).isSome) ∧
      (o = .nothing → ∀ r, LineIndex.Sought x.starts offset r ↔ r = .error 0) := by
  intro x
  cases o with
  | source cs =>
    have tabled : x.Tabled := LineIndex.ofCharsTabled cs
    have sourced : LineIndex.Origin.source cs ≠ .nothing := nofun
    refine ⟨?_, iff_of_true tabled sourced, iff_of_true (LineIndex.tabledCounts tabled) sourced, ?_⟩
    · rintro source ⟨⟩
      rfl
    · intro offset
      refine ⟨iff_of_true (LineIndex.tabledServes tabled offset) sourced, ?_, nofun⟩
      exact (LineIndex.positionAtSome cs offset).trans (and_iff_right sourced).symm
  | nothing =>
    have sourceless : ¬LineIndex.Origin.nothing ≠ .nothing := fun other => other rfl
    refine ⟨nofun, iff_of_false LineIndex.emptyNotTabled sourceless,
      iff_of_false (Nat.not_lt_zero 0) sourceless, ?_⟩
    intro offset
    refine ⟨iff_of_false ?_ sourceless, ?_, fun _ r => LineIndex.emptySought⟩
    · rintro ⟨line, served⟩
      exact Nat.not_lt_zero line served.inside
    · exact iff_of_false nofun fun ⟨other, _⟩ => sourceless other

theorem emptyIndexUnserved :
    ¬LineIndex.empty.Tabled ∧ LineIndex.empty.lineCount = 0 ∧
      LineIndex.empty.positionAt? 0 = none ∧
      LineIndex.empty.source = (LineIndex.ofString "").source ∧
      (LineIndex.ofString "").lineCount = 1 ∧
      (LineIndex.ofString "").positionAt? 0 = some .start := by
  exact ⟨LineIndex.emptyNotTabled, rfl, rfl, rfl, rfl, by decide +kernel⟩

end MathTokens
