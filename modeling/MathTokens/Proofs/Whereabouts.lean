import MathTokens.Proofs.Chronicle

/-! What a report still tells of the place of a failure when places are to be left out. Span, line and
column are gone from the event, but the message has been written before, and it names line and column. -/
namespace MathTokens

theorem toDigitsInjective {m n : Nat} (same : Nat.toDigits 10 m = Nat.toDigits 10 n) : m = n := by
  have value := congrArg (Nat.ofDigitChars 10 · 0) same
  simpa only [Nat.ofDigitChars_ten_toDigits] using value

namespace Position

theorem textChars (p : Position) :
    p.text.toList = Nat.toDigits 10 p.line ++ ':' :: Nat.toDigits 10 p.column := by
  rw [text]
  simp only [toString, String.toList_append, Nat.toList_repr]
  simp

theorem textIff (p q : Position) : p.text = q.text ↔ p.line = q.line ∧ p.column = q.column := by
  have free (n : Nat) : ':' ∉ Nat.toDigits 10 n := fun colon =>
    absurd (toDigitsDigits n ':' colon) (by decide)
  have digits (m n : Nat) : Nat.toDigits 10 m = Nat.toDigits 10 n ↔ m = n :=
    ⟨toDigitsInjective, congrArg (Nat.toDigits 10)⟩
  rw [← String.toList_inj, textChars, textChars, markIff (free _) (free _), digits, digits]

end Position

namespace LexError

def movedTo (span : Span) : LexError → LexError
  | .construction kind excerpt _ defect => .construction kind excerpt span defect
  | .unexpectedCharacter c _ => .unexpectedCharacter c span
  | .unterminatedString _ => .unterminatedString span
  | .unbalancedQuotes word _ => .unbalancedQuotes word span
  | .tooManyTokens limit _ => .tooManyTokens limit span

def opening : LexError → String
  | .construction kind excerpt _ _ => "Invalid " ++ kind.text ++ " token '" ++ excerpt ++ "' at "
  | .unexpectedCharacter c _ => "Unexpected character '" ++ String.singleton c ++ "' at "
  | .unterminatedString _ => "Unterminated string literal at "
  | .unbalancedQuotes word _ => "Unbalanced quotes after '" ++ word ++ "' at "
  | .tooManyTokens limit _ => s!"Too many tokens: limit of {limit} reached at "

def closing : LexError → String
  | .construction _ _ _ defect => ": " ++ defect.message
  | .unexpectedCharacter .. | .unterminatedString _ | .unbalancedQuotes ..
  | .tooManyTokens .. => ""

theorem messageParts (e : LexError) :
    e.message = e.opening ++ e.span.start.text ++ e.closing := by
  unfold message opening
  cases e with
  | construction kind excerpt span defect => simp only [closing, String.append_assoc]
  | unexpectedCharacter c span => simp only [closing, String.append_empty]
  | unterminatedString span => simp only [closing, String.append_empty]
  | unbalancedQuotes word span => simp only [closing, String.append_empty]
  | tooManyTokens limit span => simp only [closing, String.append_empty]; rfl

theorem movedSpan (e : LexError) (span : Span) : (e.movedTo span).span = span := by
  cases e <;> rfl

theorem movedCode (e : LexError) (span : Span) : (e.movedTo span).code = e.code := by
  cases e <;> rfl

theorem movedOpening (e : LexError) (span : Span) : (e.movedTo span).opening = e.opening := by
  cases e <;> rfl

theorem movedClosing (e : LexError) (span : Span) : (e.movedTo span).closing = e.closing := by
  cases e <;> rfl

theorem movedMessageIff (e : LexError) (span : Span) :
    (e.movedTo span).message = e.message ↔
      span.start.line = e.span.start.line ∧ span.start.column = e.span.start.column := by
  rw [messageParts, messageParts, movedOpening, movedClosing, movedSpan, String.append_left_inj,
    String.append_right_inj, Position.textIff]

end LexError

structure Unplaced (limits : Limits) (given : Nat) (e : LexError) (event : Event) : Prop where
  timestamp : event.timestamp = 0
  level : event.level = .error
  code : event.code = e.code
  span : event.span = none
  context : event.context = [("tokens_emitted", toString given)]
  message : event.message = Event.truncate limits.logging.messageLength
    (e.opening ++ e.span.start.text ++ e.closing)

theorem unplacedEvent (limits : Limits) (given : Nat) (e : LexError) :
    Unplaced limits given e (e.event limits.logging false given) := by
  obtain ⟨level, code, message, span, _⟩ := failureEvent limits.logging false given e
  refine ⟨rfl, level, code, span, rfl, ?_⟩
  rw [message, e.messageParts]

theorem unplacedAlike {limits : Limits} {given : Nat} {e : LexError} {span : Span}
    {event event' : Event} (h : Unplaced limits given e event)
    (moved : Unplaced limits given (e.movedTo span) event') :
    event' = { event with message := event'.message } := by
  obtain ⟨timestamp, level, code, message, place, context⟩ := event
  obtain ⟨timestamp', level', code', message', place', context'⟩ := event'
  have times := moved.timestamp.trans h.timestamp.symm
  have levels := moved.level.trans h.level.symm
  have codes := moved.code.trans ((e.movedCode span).trans h.code.symm)
  have places := moved.span.trans h.span.symm
  have contexts := moved.context.trans h.context.symm
  simp only at times levels codes places contexts
  subst times levels codes places contexts
  rfl

namespace Scanner

theorem pullsWithin (limits : Limits) (settings : Settings.Lexical) (source : List Char)
    (calls : List Pull) : ((start limits settings source).pulls calls).scanner.Within source :=
  (pullsKeep (I := fun s => s.Within source) (Q := fun _ _ => True)
    (fun _ p h => ⟨pullWithin h p, trivial⟩) (startWithin limits settings source) calls).1

theorem failureUnplaced (limits : Limits) {settings : Settings.Lexical}
    (off : settings.positionInErrors = false) (source : List Char) (calls : List Pull) :
    let s := ((start limits settings source).pulls calls).scanner
    ∀ {e : LexError}, s.next.answer = .error e →
      ∃ event, s.next.events = [event] ∧ Unplaced limits s.emitted e event ∧
        (Roomy limits source → event.message = e.message) := by
  intro s e answer
  have akin := pullsAkin (start limits settings source) calls
  have limited : s.limits = limits := akin.limits
  have silent : s.settings.positionInErrors = false := akin.settings ▸ off
  have told := unplacedEvent limits s.emitted e
  refine ⟨_, ?_, told, fun roomy => ?_⟩
  · rw [failureEvents answer, limited, silent]
  · have fits := failureFits (pullsWithin limits settings source calls) roomy limited answer
    rw [told.message, ← e.messageParts, Event.truncateFits (fitsMore fits roomy.message)]

end Scanner

/- Two failures with the same words after as many tokens, met anywhere in any two sources. All that
their events can differ in is the message, and it differs whenever line or column do, unless it is so
long that it is cut. -/
theorem unplacedReportsTellPlace {limits : Limits} {settings settings' : Settings.Lexical}
    (off : settings.positionInErrors = false) (off' : settings'.positionInErrors = false)
    (source source' : List Char) (calls calls' : List Pull) :
    let s := ((Scanner.start limits settings source).pulls calls).scanner
    let t := ((Scanner.start limits settings' source').pulls calls').scanner
    ∀ {e : LexError} {span : Span}, s.next.answer = .error e →
      t.next.answer = .error (e.movedTo span) → t.emitted = s.emitted →
      ∃ event event', s.next.events = [event] ∧ t.next.events = [event'] ∧
        Unplaced limits s.emitted e event ∧ Unplaced limits s.emitted (e.movedTo span) event' ∧
        event' = { event with message := event'.message } ∧
        (Roomy limits source → Roomy limits source' →
          (event' = event ↔
            span.start.line = e.span.start.line ∧ span.start.column = e.span.start.column)) := by
  intro s t e span answer answer' emitted
  obtain ⟨event, events, told, uncut⟩ := Scanner.failureUnplaced limits off source calls answer
  obtain ⟨event', events', told', uncut'⟩ :=
    Scanner.failureUnplaced limits off' source' calls' answer'
  rw [emitted] at told'
  have alike := unplacedAlike told told'
  refine ⟨event, event', events, events', told, told', alike, fun roomy roomy' => ?_⟩
  rw [← e.movedMessageIff, ← uncut roomy, ← uncut' roomy']
  constructor
  · intro same
    rw [same]
  · intro same
    rw [alike, same]

theorem brokenLineToldApart :
    let settings : Settings.Lexical :=
      { collectMetrics := true, logEachToken := false, positionInErrors := false }
    let s := ((Scanner.start .development settings ['1', ' ', '_']).pulls [.token]).scanner
    let t := ((Scanner.start .development settings ['1', '\n', '_']).pulls [.token]).scanner
    ∃ event event', s.next.events = [event] ∧ t.next.events = [event'] ∧
      event.span = none ∧ event'.span = none ∧ event.context = event'.context ∧ event' ≠ event := by
  intro settings s t
  let e : LexError := .unexpectedCharacter '_' (.covering ⟨2, 1, 3⟩ ['_'])
  let span : Span := .covering ⟨2, 2, 1⟩ ['_']
  have off : settings.positionInErrors = false := rfl
  have answer : s.next.answer = .error e := by decide +kernel
  have answer' : t.next.answer = .error (e.movedTo span) := by decide +kernel
  obtain ⟨event, event', events, events', told, told', _, apart⟩ :=
    unplacedReportsTellPlace off off _ _ [.token] [.token] answer answer' (by decide +kernel)
  refine ⟨event, event', events, events', told.span, told'.span,
    told.context.trans told'.context.symm, fun same => ?_⟩
  have room (cs : List Char) (small : Text.byteLength cs < UInt64.size) : Roomy .development cs :=
    profilesRoomy (by simp) small
  have placed := (apart (room _ (by decide)) (room _ (by decide))).mp same
  exact absurd placed.1 (by decide)

theorem unplacedReportsDiffer :
    ¬ ∀ (limits : Limits) (settings settings' : Settings.Lexical) (source source' : List Char)
      (calls calls' : List Pull) (e : LexError) (span : Span),
      let s := ((Scanner.start limits settings source).pulls calls).scanner
      let t := ((Scanner.start limits settings' source').pulls calls').scanner
      settings.positionInErrors = false → settings'.positionInErrors = false →
        s.next.answer = .error e → t.next.answer = .error (e.movedTo span) →
        t.emitted = s.emitted → t.next.events = s.next.events := by
  intro alike
  let off : Settings.Lexical :=
    { collectMetrics := true, logEachToken := false, positionInErrors := false }
  let e : LexError := .unexpectedCharacter '_' (.covering ⟨0, 1, 1⟩ ['_'])
  have same := alike .development off off ['_'] [' ', '_'] [] [] e (.covering ⟨1, 1, 2⟩ ['_'])
    rfl rfl (by decide +kernel) (by decide +kernel) rfl
  exact absurd same (by decide +kernel)

end MathTokens
