import MathTokens.Proofs.ByteScans
import MathTokens.Proofs.LineTable
import MathTokens.Proofs.Pulling

/-! Where a scanner stands. Whatever was called before, the cursor is at the start of a token or at
the end, and it and every span on the way are places of the source that the table of lines confirms. -/
namespace MathTokens

/- A place between two characters of a source, by a walk from the start and by the table of lines. -/
structure Marks (source : List Char) (p : Position) : Prop where
  boundary : ∃ front back, Text.splitAtByte? p.offset source = some (front, back) ∧
    p = Position.start.advanceOver front
  inside : p.offset ≤ Text.byteLength source
  indexed : (LineIndex.ofChars source).positionAt? p.offset = some p
  fits : p.Fits

theorem frontFits {front : List Char} (small : Addressable front) :
    (Position.start.advanceOver front).Fits := by
  unfold Addressable at small
  have sizes : 4 * UInt32.size ≤ UInt64.size := by decide
  refine ⟨?_, ?_, ?_⟩
  · have bytes := Text.bytesLeLength front
    rw [Position.startOffset]
    omega
  · have feeds := front.count_le_length (a := '\n')
    rw [Position.lineAdvanceOver]
    simp only [Position.start]
    omega
  · have column := Position.columnAdvanceOver Position.start front
    simp only [Position.start] at column ⊢
    omega

theorem frontMarks {source front back : List Char} (small : Addressable source)
    (whole : source = front ++ back) : Marks source (Position.start.advanceOver front) := by
  subst whole
  have offset := Position.startOffset front
  have shorter : front.length ≤ (front ++ back).length := by simp
  refine ⟨⟨front, back, ?_, rfl⟩, ?_, ?_, frontFits (addressableShorter small shorter)⟩
  · rw [offset, Text.splitAtByteAppend]
  · simp [offset]
  · rw [offset, LineIndex.positionAtFront]

structure Spans (source : List Char) (span : Span) : Prop where
  start : Marks source span.start
  stop : Marks source span.stop
  text : ∃ text, (LineIndex.ofChars source).spanText? span = some text ∧
    span = .covering span.start text

theorem coveringText {source front text back : List Char}
    (whole : source = front ++ (text ++ back)) :
    (LineIndex.ofChars source).spanText? (.covering (Position.start.advanceOver front) text) =
      some text := by
  have first := Position.startOffset front
  have last := Position.startOffset (front ++ text)
  rw [Position.advanceOverAppend] at last
  simp only [LineIndex.spanText?, LineIndex.ofChars, Span.slice?, Span.covering, first, last, whole,
    Text.sliceAppend]

theorem coveringSpans {source front text back : List Char}
    (small : Addressable source) (whole : source = front ++ (text ++ back)) :
    Spans source (.covering (Position.start.advanceOver front) text) := by
  have longer : source = (front ++ text) ++ back := by rw [whole, List.append_assoc]
  have stop := frontMarks small longer
  rw [Position.advanceOverAppend] at stop
  exact ⟨frontMarks small whole, stop, text, coveringText whole, rfl⟩

namespace Scanner

structure Placed (s : Scanner) : Prop where
  front : ∃ front, s.source = front ++ s.rest ∧ s.position = Position.start.advanceOver front
  stops : Stops isSeparator s.rest

theorem startPlaced (rules : List Rule) (limits : Limits) (settings : Settings.Lexical)
    (source : List Char) : (startWith rules limits settings source).Placed :=
  ⟨⟨source.takeWhile isSeparator, List.takeWhile_append_dropWhile.symm, rfl⟩,
    stopsDropped isSeparator source⟩

theorem nextPlaced {s : Scanner} (h : s.Placed) {t : LocatedToken}
    (answer : s.next.answer = .ok (some t)) :
    s.next.scanner.Placed ∧ s.position.offset < s.next.scanner.position.offset := by
  obtain ⟨lexeme, stepped, rfl⟩ := nextTokenIff.mp answer
  rw [nextScanner stepped]
  obtain ⟨_, rule, text, after, token, found, _, rfl⟩ := Lexing.stepTokenIff.mp stepped
  obtain ⟨whole, nonempty⟩ := Lexing.firstMatchWhole found
  obtain ⟨front, source, place⟩ := h.front
  refine ⟨⟨⟨front ++ (text ++ after.takeWhile isSeparator), ?_, ?_⟩,
    stopsDropped isSeparator after⟩, ?_⟩
  · simp only [take, source, whole, List.append_assoc, List.takeWhile_append_dropWhile]
  · simp only [take, place, Position.advanceOverAppend]
  · cases text with
    | nil => exact absurd rfl nonempty
    | cons c text =>
      have positive := c.utf8Size_pos
      simp only [take, Position.advanceOverOffset, List.cons_append, Text.byteLengthCons]
      omega

def Covers (s : Scanner) (span : Span) : Prop :=
  ∃ text after, s.rest = text ++ after ∧ span = .covering s.position text

theorem coversSpans {s : Scanner} (h : s.Placed) (small : Addressable s.source)
    {span : Span} (covers : s.Covers span) : Spans s.source span := by
  obtain ⟨text, after, rest, rfl⟩ := covers
  obtain ⟨front, source, place⟩ := h.front
  rw [place]
  exact coveringSpans small (by rw [source, rest])

theorem nextCovers {s : Scanner} {t : LocatedToken} (h : s.next.answer = .ok (some t)) :
    s.Covers t.span := by
  obtain ⟨lexeme, stepped, rfl⟩ := nextTokenIff.mp h
  obtain ⟨_, rule, text, after, token, found, _, rfl⟩ := Lexing.stepTokenIff.mp stepped
  exact ⟨text, after, (Lexing.firstMatchWhole found).1, rfl⟩

theorem pullPlaced {s : Scanner} (h : s.Placed) (p : Pull) :
    (s.pull p).scanner.Placed ∧
      ((s.pull p).answer.isToken → s.position.offset < (s.pull p).scanner.position.offset) ∧
      ∀ span ∈ (s.pull p).answer.span?, s.Covers span := by
  have call := pulled s p
  generalize (s.pull p).answer = reply, (s.pull p).scanner = after at call ⊢
  cases call with
  | past => exact ⟨h, nofun, nofun⟩
  | ended => exact ⟨h, nofun, nofun⟩
  | failed answer =>
    refine ⟨⟨h.front, h.stops⟩, nofun, ?_⟩
    rintro span ⟨⟩
    exact Lexing.failureCovers (nextFailedIff.mp answer)
  | @token t answer =>
    obtain ⟨placed, forward⟩ := nextPlaced h answer
    refine ⟨placed, fun _ => forward, ?_⟩
    intro span shown
    cases p with
    | located => cases shown; exact nextCovers answer
    | token | reader | iterate => cases shown

theorem pullsPlaced (rules : List Rule) (limits : Limits) (settings : Settings.Lexical)
    (source : List Char) (calls : List Pull) :
    ((startWith rules limits settings source).pulls calls).scanner.Placed :=
  (pullsKeep (I := Placed) (Q := fun _ _ => True) (fun _ p h => ⟨(pullPlaced h p).1, trivial⟩)
    (startPlaced rules limits settings source) calls).1

theorem pullsSpans {s : Scanner} (h : s.Placed) (small : Addressable s.source)
    (calls : List Pull) :
    ∀ call ∈ (s.pulls calls).answer, ∀ span ∈ call.2.span?, Spans s.source span := by
  refine (pullsKeep (I := fun t => s.Akin t ∧ t.Placed)
    (Q := fun _ reply => ∀ span ∈ reply.span?, Spans s.source span) ?_ ⟨akinSelf s, h⟩ calls).2
  rintro t p ⟨akin, placed⟩
  obtain ⟨later, _, covers⟩ := pullPlaced placed p
  refine ⟨⟨akinTrans akin (pullAkin t p), later⟩, fun span shown => ?_⟩
  rw [← akin.source] at small ⊢
  exact coversSpans placed small (covers span shown)

end Scanner

theorem cursorAgreesWithTable (limits : Limits) (settings : Settings.Lexical)
    (source : List Char) (small : Addressable source) (calls : List Pull) :
    let turn := (Scanner.start limits settings source).pulls calls
    let s := turn.scanner
    Marks source s.position ∧
      Text.slice? s.position.offset (Text.byteLength source) source = some s.rest ∧
      Stops isSeparator s.rest ∧
      (∀ p, (s.pull p).answer.isToken → s.position.offset < (s.pull p).scanner.position.offset) ∧
      (∀ call ∈ turn.answer, ∀ span ∈ call.2.span?, Spans source span) ∧
      ∀ cs, Bytes.Cuts cs := by
  intro turn s
  have placed : s.Placed := Scanner.pullsPlaced Rule.table limits settings source calls
  have akin : (Scanner.start limits settings source).Akin s := Scanner.pullsAkin _ calls
  have same : s.source = source := akin.source
  obtain ⟨front, whole, place⟩ := placed.front
  rw [same] at whole
  refine ⟨?_, ?_, placed.stops, fun p => (Scanner.pullPlaced placed p).2.1, ?_, Bytes.cuts⟩
  · rw [place]
    exact frontMarks small whole
  · have offset : s.position.offset = Text.byteLength front := by
      rw [place, Position.startOffset]
    have cut := Text.sliceAppend front s.rest []
    rwa [List.append_nil, ← whole, ← offset] at cut
  · exact Scanner.pullsSpans (s := .start limits settings source) (Scanner.startPlaced ..) small calls

theorem stuckCursorAgrees :
    let source := "ab \"π\"\r\n\t7_".toList
    let turn := (Scanner.start .production (.ofEnvironment []) source).pulls
      [.located, .iterate, .reader, .located]
    turn.scanner.position = ⟨11, 2, 3⟩ ∧ Marks source ⟨11, 2, 3⟩ ∧
      (.located, .failed (.unexpectedCharacter '_' ⟨⟨11, 2, 3⟩, ⟨12, 2, 4⟩⟩)) ∈ turn.answer ∧
      Spans source ⟨⟨11, 2, 3⟩, ⟨12, 2, 4⟩⟩ := by
  intro source turn
  have small : Addressable source := by decide
  obtain ⟨marks, _, _, _, spans, _⟩ := cursorAgreesWithTable .production (.ofEnvironment []) source
    small [.located, .iterate, .reader, .located]
  have stand : turn.scanner.position = ⟨11, 2, 3⟩ := by decide +kernel
  have failed : (.located, .failed (.unexpectedCharacter '_' ⟨⟨11, 2, 3⟩, ⟨12, 2, 4⟩⟩)) ∈
      turn.answer := by decide +kernel
  exact ⟨stand, stand ▸ marks, failed, spans _ failed _ rfl⟩

end MathTokens
