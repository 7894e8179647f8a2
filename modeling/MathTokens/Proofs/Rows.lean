import MathTokens.Proofs.Excerpt

/-! The lines of a source as the table of line starts cuts them. They are the pieces between the line
feeds, from the first to the last, so every line is found and nothing of the source is lost. -/
namespace MathTokens

theorem rowsCount (source : List Char) :
    (source.splitOn '\n').length = source.count '\n' + 1 := by
  induction source with
  | nil => rfl
  | cons c cs ih =>
    rw [List.splitOn_cons_eq_if_modifyHead, List.count_cons]
    split
    · simp [ih]
    · simp [ih]

theorem rowsPlain (source : List Char) : ∀ row ∈ source.splitOn '\n', '\n' ∉ row := by
  induction source with
  | nil => simp
  | cons c cs ih =>
    rw [List.splitOn_cons_eq_if_modifyHead]
    split
    · exact List.forall_mem_cons.mpr ⟨by simp, ih⟩
    · next other =>
      cases rows : cs.splitOn '\n' with
      | nil => exact absurd rows (List.splitOn_ne_nil '\n' cs)
      | cons row rows' =>
        rw [rows] at ih
        obtain ⟨first, later⟩ := List.forall_mem_cons.mp ih
        refine List.forall_mem_cons.mpr ⟨fun feed => ?_, later⟩
        rcases List.mem_cons.mp feed with same | inside
        · exact other (by simp [← same])
        · exact first inside

def fedRows (rows : List (List Char)) : List Char := rows.flatMap (· ++ ['\n'])

@[simp] theorem fedRowsNil : fedRows [] = [] := rfl

@[simp] theorem fedRowsCons (row : List Char) (rows : List (List Char)) :
    fedRows (row :: rows) = row ++ '\n' :: fedRows rows := by
  simp [fedRows]

theorem fedRowsFed (rows : List (List Char)) : Fed (fedRows rows) := by
  induction rows with
  | nil => exact .inl rfl
  | cons row rows ih =>
    right
    rw [fedRowsCons]
    rcases ih with none | ⟨lines, above⟩
    · exact ⟨row, by rw [none]⟩
    · exact ⟨row ++ '\n' :: lines, by simp [above]⟩

theorem fedRowsCount {rows : List (List Char)} (plain : ∀ row ∈ rows, '\n' ∉ row) :
    (fedRows rows).count '\n' = rows.length := by
  induction rows with
  | nil => rfl
  | cons row rows ih =>
    obtain ⟨first, later⟩ := List.forall_mem_cons.mp plain
    rw [fedRowsCons, List.count_append, List.count_eq_zero_of_not_mem first, List.count_cons_self,
      ih later, List.length_cons, Nat.zero_add]

theorem fedRowsSplit {rows : List (List Char)} (plain : ∀ row ∈ rows, '\n' ∉ row) :
    (fedRows rows).splitOn '\n' = rows ++ [[]] := by
  induction rows with
  | nil => rfl
  | cons row rows ih =>
    obtain ⟨first, later⟩ := List.forall_mem_cons.mp plain
    rw [fedRowsCons, List.splitOn_append_cons_self_of_not_mem first, ih later, List.cons_append]

theorem joinedAround {rows : List (List Char)} {n : Nat} {row : List Char}
    (found : rows[n]? = some row) :
    ∃ back, ['\n'].intercalate rows = fedRows (rows.take n) ++ (row ++ back) ∧
      ∀ c ∈ back.head?, c = '\n' := by
  induction rows generalizing n with
  | nil => cases found
  | cons first rows ih =>
    cases rows with
    | nil =>
      cases n with
      | zero =>
        cases found
        exact ⟨[], by simp, by simp⟩
      | succ n => cases found
    | cons second rows =>
      have whole : ['\n'].intercalate (first :: second :: rows) =
          first ++ '\n' :: ['\n'].intercalate (second :: rows) := by
        simp [List.intercalate]
      rw [whole]
      cases n with
      | zero =>
        cases found
        exact ⟨'\n' :: ['\n'].intercalate (second :: rows), by simp, by simp⟩
      | succ n =>
        obtain ⟨back, inner, ends⟩ := ih found
        refine ⟨back, ?_, ends⟩
        rw [inner, List.take_succ_cons, fedRowsCons, List.append_assoc, List.cons_append]

theorem rowAround {source : List Char} {n : Nat} {row : List Char}
    (found : (source.splitOn '\n')[n]? = some row) :
    let above := fedRows ((source.splitOn '\n').take n)
    ∃ back, source = above ++ (row ++ back) ∧ Fed above ∧ above.count '\n' = n ∧ '\n' ∉ row ∧
      ∀ c ∈ back.head?, c = '\n' := by
  intro above
  obtain ⟨back, whole, ends⟩ := joinedAround found
  rw [List.intercalate_splitOn] at whole
  refine ⟨back, whole, fedRowsFed _, ?_, rowsPlain source row (List.mem_of_getElem? found), ends⟩
  obtain ⟨inside, _⟩ := List.getElem?_eq_some_iff.mp found
  have plain : ∀ other ∈ (source.splitOn '\n').take n, '\n' ∉ other :=
    fun other member => rowsPlain source other (List.mem_of_mem_take member)
  rw [fedRowsCount plain, List.length_take, Nat.min_eq_left (Nat.le_of_lt inside)]

theorem fedRowsJoined {rows : List (List Char)} (nonempty : rows ≠ []) :
    fedRows rows = ['\n'].intercalate rows ++ ['\n'] := by
  induction rows with
  | nil => exact absurd rfl nonempty
  | cons row rows ih =>
    cases rows with
    | nil => simp
    | cons next rows =>
      rw [fedRowsCons, ih (List.cons_ne_nil _ _)]
      simp [List.intercalate]

theorem firstRow {line : List Char} (plain : '\n' ∉ line) (back : List Char) :
    ∃ tail others, (line ++ back).splitOn '\n' = (line ++ tail) :: others := by
  induction line with
  | nil =>
    cases rows : back.splitOn '\n' with
    | nil => exact absurd rows (List.splitOn_ne_nil '\n' back)
    | cons row others => exact ⟨row, others, rows⟩
  | cons c line ih =>
    rw [List.mem_cons, not_or] at plain
    obtain ⟨tail, others, rows⟩ := ih plain.2
    have other : ¬(c == '\n') = true := by simpa using Ne.symm plain.1
    refine ⟨tail, others, ?_⟩
    rw [List.cons_append, List.splitOn_cons_eq_if_modifyHead, if_neg other, rows]
    rfl

theorem rowsBelow {above line : List Char} (fed : Fed above) (plain : '\n' ∉ line)
    (back : List Char) :
    let rows := (above ++ (line ++ back)).splitOn '\n'
    fedRows (rows.take (above.count '\n')) = above ∧
      ∃ tail, rows[above.count '\n']? = some (line ++ tail) := by
  intro rows
  obtain ⟨tail, others, below⟩ := firstRow plain back
  rcases fed with rfl | ⟨lines, rfl⟩
  · exact ⟨rfl, tail, by simp [rows, below]⟩
  · have parts : rows = lines.splitOn '\n' ++ (line ++ tail) :: others := by
      rw [← below, ← List.splitOn_append_cons_self]
      simp [rows]
    have count : (lines ++ ['\n']).count '\n' = (lines.splitOn '\n').length := by
      simp [rowsCount]
    rw [parts, count]
    refine ⟨?_, tail, by simp⟩
    rw [List.take_left, fedRowsJoined (List.splitOn_ne_nil '\n' lines), List.intercalate_splitOn]

theorem returnsTrimmed (row : List Char) :
    (∃ count, row = Text.trimEnd (· == '\r') row ++ List.replicate count '\r') ∧
      (Text.trimEnd (· == '\r') row).getLast? ≠ some '\r' := by
  refine ⟨⟨(row.reverse.takeWhile (· == '\r')).length, ?_⟩, fun last => ?_⟩
  · have returns : row.reverse.takeWhile (· == '\r') =
        List.replicate (row.reverse.takeWhile (· == '\r')).length '\r' :=
      List.eq_replicate_of_mem fun c member => by simpa using takenAll (· == '\r') _ c member
    rw [← List.reverse_replicate, ← returns, Text.trimEnd, ← List.reverse_append,
      List.takeWhile_append_dropWhile, List.reverse_reverse]
  · cases Text.trimEndLast (· == '\r') row _ last

namespace LineIndex

theorem lineCountRows (source : List Char) :
    (ofChars source).lineCount = (source.splitOn '\n').length := by
  rw [lineCount, ofChars, lineStartsFrom, List.length_cons, startsFromCount, rowsCount]

structure RowAt (source : List Char) (n : Nat) (row : List Char) : Prop where
  start : (ofChars source).starts[n]? =
    some (Text.byteLength (fedRows ((source.splitOn '\n').take n)))
  slice : Text.slice? (Text.byteLength (fedRows ((source.splitOn '\n').take n)))
    ((ofChars source).lineEnd n) source = some row
  line : (ofChars source).line? (n + 1) = some (Text.trimEnd (· == '\r') row)

theorem rowAt {source : List Char} {n : Nat} {row : List Char}
    (found : (source.splitOn '\n')[n]? = some row) : RowAt source n row := by
  obtain ⟨back, whole, fed, count, plain, ends⟩ := rowAround found
  obtain ⟨start, stop⟩ := lineBounds fed plain ends
  have line := lineAround fed plain ends
  rw [← whole, count] at start stop line
  have text := Text.sliceAppend (fedRows ((source.splitOn '\n').take n)) row back
  rw [← whole, ← stop] at text
  exact ⟨start, text, line⟩

theorem lineBeyond {source : List Char} {n : Nat}
    (beyond : n = 0 ∨ (ofChars source).lineCount < n) : (ofChars source).line? n = none := by
  cases n with
  | zero => rfl
  | succ n =>
    have off : (ofChars source).starts.length ≤ n :=
      Nat.le_of_lt_succ (beyond.resolve_left (Nat.succ_ne_zero n))
    rw [lineRead, List.getElem?_eq_none off, Option.bind_none]

theorem lineFoundIff (source : List Char) (n : Nat) :
    ((ofChars source).line? n).isSome ↔ 1 ≤ n ∧ n ≤ (ofChars source).lineCount := by
  constructor
  · intro found
    by_contra outside
    have beyond : n = 0 ∨ (ofChars source).lineCount < n := by omega
    rw [lineBeyond beyond] at found
    cases found
  · rintro ⟨first, last⟩
    obtain ⟨n, rfl⟩ := Nat.exists_eq_add_of_le' first
    rw [lineCountRows] at last
    rw [(rowAt (List.getElem?_eq_getElem last)).line]
    rfl

theorem explainBare {x : LineIndex} {span : Span} (missing : x.line? span.start.line = none)
    (message : String) :
    x.explain span message = printed ["Error: " ++ message, "  --> " ++ span.start.text] := by
  have arrow : ("\n  --> " : String) = "\n" ++ "  --> " := rfl
  have same (s : String) : toString s = s := rfl
  simp only [explain, missing, printedCons, printedNil, same, arrow, String.append_assoc,
    String.append_empty]

theorem edgeZeroIff (line : List Char) : edge line = 0 ↔ (line.length + 1) % UInt32.size = 0 := by
  have sum : (edge line).toNat = (line.length + 1) % UInt32.size := by
    simp [edge, UInt32.toNat_add, UInt32.size]
  rw [← UInt32.toNat_inj, sum]
  rfl

theorem lineSomeIff {source : List Char} {n : Nat} {line : List Char} :
    (ofChars source).line? n = some line ↔
      ∃ m row, (source.splitOn '\n')[m]? = some row ∧ n = m + 1 ∧
        line = Text.trimEnd (· == '\r') row := by
  constructor
  · intro found
    obtain ⟨first, last⟩ := (lineFoundIff source n).mp (Option.isSome_of_eq_some found)
    obtain ⟨m, rfl⟩ := Nat.exists_eq_add_of_le' first
    rw [lineCountRows] at last
    have row := List.getElem?_eq_getElem (show m < (source.splitOn '\n').length from last)
    exact ⟨m, _, row, rfl, Option.some.inj (found.symm.trans (rowAt row).line)⟩
  · rintro ⟨m, row, found, rfl, rfl⟩
    exact (rowAt found).line

/- A span goes on behind a row that fills the columns there are, or fills them several times. -/
def Overflowing (source : List Char) (span : Span) : Prop :=
  span.start.line ≠ span.stop.line ∧
    ∃ n row, (source.splitOn '\n')[n]? = some row ∧ span.start.line = n + 1 ∧
      ((Text.trimEnd (· == '\r') row).length + 1) % UInt32.size = 0

theorem explainStopsIff (source : List Char) (span : Span) (message : String) :
    (ofChars source).explain? span message = none ↔ Overflowing source span := by
  have stops : (ofChars source).explain? span message = none ↔
      ∃ line, (ofChars source).line? span.start.line = some line ∧ overflows line span := by
    simp [explain?, Option.any_eq_true]
  simp only [stops, lineSomeIff, overflows, Bool.and_eq_true, bne_iff_ne, beq_iff_eq, edgeZeroIff]
  constructor
  · rintro ⟨_, ⟨n, row, found, place, rfl⟩, apart, full⟩
    exact ⟨apart, n, row, found, place, full⟩
  · rintro ⟨apart, n, row, found, place, full⟩
    exact ⟨_, ⟨n, row, found, place, rfl⟩, apart, full⟩

theorem explainedSame {x : LineIndex} {span : Span} {message report : String}
    (shown : x.explain? span message = some report) : report = x.explain span message := by
  unfold explain? at shown
  split at shown
  · cases shown
  · exact (Option.some.inj shown).symm

theorem addressableFlows {source : List Char} (small : Addressable source) (span : Span) :
    ¬Overflowing source span := by
  rintro ⟨_, n, row, found, _, full⟩
  obtain ⟨back, whole, _⟩ := rowAround found
  obtain ⟨tail, trimmed⟩ := Text.trimEndAppend (· == '\r') row
  have shorter : (Text.trimEnd (· == '\r') row).length ≤ source.length := by
    have outer := congrArg List.length whole
    have inner := congrArg List.length trimmed
    simp only [List.length_append] at outer inner
    omega
  have fits : Addressable (Text.trimEnd (· == '\r') row) := addressableShorter small shorter
  rw [Nat.mod_eq_of_lt fits] at full
  cases full

theorem tableSplitsSource (source : List Char) :
    (ofChars source).lineCount = source.count '\n' + 1 ∧
    (source.splitOn '\n').length = (ofChars source).lineCount ∧
    (∀ row ∈ source.splitOn '\n', '\n' ∉ row) ∧
    ['\n'].intercalate (source.splitOn '\n') = source ∧
    (∀ n, ((ofChars source).line? n).isSome ↔ 1 ≤ n ∧ n ≤ (ofChars source).lineCount) ∧
    (∀ n row, (source.splitOn '\n')[n]? = some row → RowAt source n row ∧
      (∃ count, row = Text.trimEnd (· == '\r') row ++ List.replicate count '\r') ∧
      (Text.trimEnd (· == '\r') row).getLast? ≠ some '\r') ∧
    ∀ span message,
      (∀ n row, (source.splitOn '\n')[n]? = some row → span.start.line = n + 1 →
        let line := Text.trimEnd (· == '\r') row
        (ofChars source).explain span message =
          printed (explainedLines line span (caretCount line span) message)) ∧
      (span.start.line = 0 ∨ (ofChars source).lineCount < span.start.line →
        (ofChars source).explain span message =
          printed ["Error: " ++ message, "  --> " ++ span.start.text]) ∧
      ((ofChars source).explain? span message = none ↔ Overflowing source span) ∧
      (∀ report, (ofChars source).explain? span message = some report →
        report = (ofChars source).explain span message) ∧
      (Addressable source →
        (ofChars source).explain? span message = some ((ofChars source).explain span message)) := by
  have count := lineCountRows source
  refine ⟨count.trans (rowsCount source), count.symm, rowsPlain source,
    List.intercalate_splitOn '\n', lineFoundIff source, fun n row found => ?_,
    fun span message => ⟨fun n row found place => ?_, fun beyond => ?_,
      explainStopsIff source span message, fun report => explainedSame, fun small => ?_⟩⟩
  · exact ⟨rowAt found, returnsTrimmed row⟩
  · exact explainPrinted (place ▸ (rowAt found).line) message
  · exact explainBare (lineBeyond beyond) message
  · cases shown : (ofChars source).explain? span message with
    | none =>
      have overflowing := (explainStopsIff source span message).mp shown
      exact absurd overflowing (addressableFlows small span)
    | some report => rw [explainedSame shown]

theorem fullRowStops {n : Nat} (full : (n + 1) % UInt32.size = 0) {span : Span}
    (first : span.start.line = 1) (apart : span.start.line ≠ span.stop.line) (message : String) :
    (ofChars (List.replicate n 'a')).explain? span message = none := by
  have plain : '\n' ∉ List.replicate n 'a' := by simp [List.mem_replicate]
  have kept : Text.trimEnd (· == '\r') (List.replicate n 'a') = List.replicate n 'a' := by
    have letters : ∀ c ∈ (List.replicate n 'a').getLast?, (c == '\r') = false := fun c last => by
      rw [List.eq_of_mem_replicate (List.mem_of_getLast? last)]
      rfl
    have whole := Text.trimEndKeeps (· == '\r') letters []
    have empty : Text.trimEnd (· == '\r') [] = [] := rfl
    rwa [empty, List.append_nil] at whole
  refine (explainStopsIff _ span message).mpr ⟨apart, 0, List.replicate n 'a', ?_, first, ?_⟩
  · rw [List.splitOn_eq_singleton plain, List.getElem?_cons_zero]
  · rwa [kept, List.length_replicate]

theorem widestRowStops :
    (ofChars (List.replicate (UInt32.size - 1) 'a')).explain? ⟨⟨0, 1, 1⟩, ⟨0, 2, 1⟩⟩ "" = none :=
  fullRowStops (by decide) rfl (by decide) ""

end LineIndex

end MathTokens
