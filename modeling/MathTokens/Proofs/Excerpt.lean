import MathTokens.Proofs.Cursor
import MathTokens.CommandLine.Listing

/-! What a report shows of a source. A stretch that ends before the line feed of its line, and before
the carriage returns in front of it, is found again in the line that is shown, right above its carets. -/
namespace MathTokens

def printed (lines : List String) : String := (lines.map (· ++ "\n")).foldr (· ++ ·) ""

@[simp] theorem printedNil : printed [] = "" := rfl

@[simp] theorem printedCons (line : String) (lines : List String) :
    printed (line :: lines) = line ++ "\n" ++ printed lines := rfl

theorem printedAppend (lines more : List String) :
    printed (lines ++ more) = printed lines ++ printed more := by
  induction lines with
  | nil => simp
  | cons line lines ih => simp [ih, String.append_assoc]

namespace LineIndex

def excerptLines (line : List Char) (span : Span) (carets : Nat) : List String :=
  let number := toString span.start.line
  let gutter := Text.spaces number.length
  [gutter ++ " |", number ++ " | " ++ String.ofList line,
    gutter ++ " | " ++ Text.spaces (span.start.column - 1)
      ++ String.ofList (List.replicate carets '^')]

def explainedLines (line : List Char) (span : Span) (carets : Nat) (message : String) :
    List String :=
  ("Error: " ++ message) :: ("  --> " ++ span.start.text) :: excerptLines line span carets

theorem excerptPrinted (line : List Char) (span : Span) :
    sourceExcerpt line span = printed (excerptLines line span (caretCount line span)) := by
  have bar : (" |\n" : String) = " |" ++ "\n" := rfl
  simp only [sourceExcerpt, excerptLines, printedCons, printedNil, Text.spaces, bar,
    String.append_assoc, String.append_empty]

theorem explainPrinted {x : LineIndex} {span : Span} {line : List Char}
    (found : x.line? span.start.line = some line) (message : String) :
    x.explain span message =
      printed (explainedLines line span (caretCount line span) message) := by
  have arrow : ("\n  --> " : String) = "\n" ++ "  --> " := rfl
  have same (s : String) : toString s = s := rfl
  simp only [explain, found, excerptPrinted, explainedLines, printedCons, same, arrow,
    String.append_assoc]

end LineIndex

/- A text that ends before the line feed of its line and before the carriage returns in front of it. -/
structure Clear (text : List Char) : Prop where
  nonempty : text ≠ []
  line : '\n' ∉ text
  last : text.getLast? ≠ some '\r'

inductive Underlines : List Char → List Char → Prop where
  | whole {text} (clear : Clear text) : Underlines text text
  | first {c} (clear : Clear [c]) : Underlines [c] []

namespace Underlines

variable {marked text : List Char}

theorem clear (h : Underlines marked text) : Clear marked := by
  cases h with
  | whole clear => exact clear
  | first clear => exact clear

theorem width (h : Underlines marked text) : marked.length = max 1 text.length := by
  cases h with
  | whole clear =>
    have := List.length_pos_iff.mpr clear.nonempty
    omega
  | first => rfl

theorem front (h : Underlines marked text) : ∃ rest, marked = text ++ rest := by
  cases h with
  | whole => exact ⟨[], (List.append_nil _).symm⟩
  | @first c => exact ⟨[c], rfl⟩

end Underlines

structure Pinpoints (source : List Char) (span : Span) (line text : List Char) : Prop where
  spans : Spans source span
  sameLine : span.stop.line = span.start.line
  textFound : (LineIndex.ofChars source).spanText? span = some text
  lineFound : (LineIndex.ofChars source).line? span.start.line = some line
  plain : '\n' ∉ line
  columns : ∃ before after, line = before ++ (text ++ after) ∧
    span.start.column = before.length + 1 ∧ span.stop.column = span.start.column + text.length
  inside : span.start.column - 1 + max 1 text.length ≤ line.length
  explained : ∀ message, (LineIndex.ofChars source).explain span message =
    printed (LineIndex.explainedLines line span (max 1 text.length) message)

def Pinpointed (source : List Char) (span : Span) : Prop :=
  ∃ line text, Pinpoints source span line text

theorem clearLine {marked : List Char} (clear : Clear marked)
    {above before : List Char} (fed : Fed above) (early : '\n' ∉ before) (back : List Char) :
    ∃ after, '\n' ∉ before ++ (marked ++ after) ∧
      (LineIndex.ofChars (above ++ (before ++ (marked ++ back)))).line? (above.count '\n' + 1) =
        some (before ++ (marked ++ after)) := by
  let tail := back.takeWhile (· != '\n')
  have late : '\n' ∉ tail := fun feed => by simpa using takenAll (· != '\n') back _ feed
  have ends : ∀ c ∈ (back.dropWhile (· != '\n')).head?, c = '\n' := fun c first => by
    simpa using stopsDropped (· != '\n') back c first
  have plain : '\n' ∉ before ++ marked ++ tail := by
    simp [early, late, clear.line]
  have kept : ∀ c ∈ (before ++ marked).getLast?, (c == '\r') = false := by
    intro c last
    rw [List.getLast?_append_of_ne_nil _ clear.nonempty] at last
    exact beq_false_of_ne fun same => clear.last (same ▸ last)
  have found := LineIndex.lineAround fed plain ends
  rw [Text.trimEndKeeps _ kept, List.append_assoc, List.append_assoc, List.append_assoc,
    List.takeWhile_append_dropWhile] at found
  obtain ⟨cut, trimmed⟩ := Text.trimEndAppend (· == '\r') tail
  refine ⟨_, fun feed => late ?_, found⟩
  rw [trimmed]
  exact List.mem_append_left _ (by simpa [early, clear.line] using feed)

theorem underlinedPinpoints {source front marked text back : List Char}
    (small : Addressable source) (whole : source = front ++ (marked ++ back))
    (underlines : Underlines marked text) :
    Pinpointed source (.covering (Position.start.advanceOver front) text) := by
  obtain ⟨above, before, rfl, fed, early⟩ := lastLine front
  obtain ⟨after, plain, found⟩ := clearLine underlines.clear fed early back
  rw [← List.append_assoc above, ← whole] at found
  obtain ⟨rest, written⟩ := underlines.front
  have feedless : '\n' ∉ text := fun feed => underlines.clear.line (by simp [written, feed])
  have start := Position.lineAdvanceOverFed fed early
  have stop := Position.plainAdvanceOver (Position.start.advanceOver (above ++ before)) feedless
  have inner : source = above ++ before ++ (text ++ (rest ++ back)) := by
    rw [whole, written, List.append_assoc text]
  have carets : LineIndex.caretCount (before ++ (marked ++ after))
      (.covering (Position.start.advanceOver (above ++ before)) text) = max 1 text.length := by
    rw [LineIndex.caretCount, Span.covering, stop]
    simp
  refine ⟨before ++ (marked ++ after), text, coveringSpans small inner, ?_, coveringText inner, ?_,
    plain, ⟨before, rest ++ after, ?_, ?_, ?_⟩, ?_, fun message => ?_⟩
  · rw [Span.covering, stop]
  · rw [Span.covering, start]
    exact found
  · rw [written, List.append_assoc]
  · rw [Span.covering, start]
  · rw [Span.covering, stop]
  · have column : (Position.start.advanceOver (above ++ before)).column = before.length + 1 := by
      rw [start]
    simp only [Span.covering, column, List.length_append, underlines.width]
    omega
  · rw [← carets]
    refine LineIndex.explainPrinted ?_ message
    rw [Span.covering, start]
    exact found

end MathTokens
