import MathTokens.Proofs.MessageSize
import MathTokens.Scanner.Session

/-! What the log tells of a run. Read beside the replies it has one event for each failure, with all of
its text, and one for each token where tokens are to be logged; a pass adds one event when it is done. -/
namespace MathTokens

structure Reports (limits : Limits) (settings : Settings.Lexical) (source : List Char) (given : Nat)
    (e : LexError) (event : Event) : Prop where
  level : event.level = .error
  code : event.code = e.code
  message : Roomy limits source → event.message = e.message
  span : event.span = if settings.positionInErrors then some e.span else none
  count : event.context.lookup "tokens_emitted" = some (toString given)

structure Shows (source : List Char) (t : LocatedToken) (event : Event) : Prop where
  level : event.level = .debug
  code : event.code = .plainDebug
  kind : event.context.lookup "kind" = some t.value.kind.text
  text : ∃ text, (LineIndex.ofChars source).spanText? t.span = some text ∧
    event.context.lookup "text" = some (String.ofList text)
  position : event.context.lookup "position" = some t.span.start.text

def Listed (settings : Settings.Lexical) (source : List Char) (ts : List LocatedToken)
    (events : List Event) : Prop :=
  if settings.logEachToken then List.Forall₂ (Shows source) ts events else events = []

section
variable (limits : Limits) (settings : Settings.Lexical) (source : List Char)

inductive Chronicle : Nat → List LocatedToken → List (Pull × Reply) → List Event → Prop where
  | nil {given} : Chronicle given [] [] []
  | ended {given ts p replies events} (later : Chronicle given ts replies events) :
      Chronicle given ts ((p, .ended) :: replies) events
  | failed {given ts p e event replies events}
      (reports : Reports limits settings source given e event)
      (later : Chronicle given ts replies events) :
      Chronicle given ts ((p, .failed e) :: replies) (event :: events)
  | token {given t ts p here replies events} (listed : Listed settings source [t] here)
      (later : Chronicle (given + 1) ts replies events) :
      Chronicle given (t :: ts) ((p, .token t.value (p.shown t)) :: replies) (here ++ events)

/- What a pass leaves in the log: its tokens, where they are to be logged, and one last event, which
announces the tape or reports the failure. -/
inductive Announced : Except LexError Tape → List Event → Prop where
  | finished {ts tape lines last} (delivers : (Scanner.start limits settings source).Delivers ts none)
      (tokens : tape.tokens.toList = ts) (listed : Listed settings source ts lines)
      (plain : ∀ line ∈ lines, line.level = .debug ∧ line.code = .plainDebug)
      (level : last.level = .info) (code : last.code = .tokenizationComplete) :
      Announced (.ok tape) (lines ++ [last])
  | stopped {ts e lines last}
      (delivers : (Scanner.start limits settings source).Delivers ts (some e))
      (listed : Listed settings source ts lines)
      (plain : ∀ line ∈ lines, line.level = .debug ∧ line.code = .plainDebug)
      (reports : Reports limits settings source ts.length e last)
      (code : last.code ≠ .tokenizationComplete) :
      Announced (.error e) (lines ++ [last])

end

theorem Event.truncateFits {limit : Nat} {message : String} (fits : Fits limit message) :
    truncate limit message = message :=
  if_pos fits

theorem failureEvent (limits : Limits.Logging) (withPlace : Bool) (emitted : Nat) (e : LexError) :
    let event := e.event limits withPlace emitted
    event.level = .error ∧ event.code = e.code ∧
      event.message = Event.truncate limits.messageLength e.message ∧
      event.span = (if withPlace then some e.span else none) ∧
      event.context.lookup "tokens_emitted" = some (toString emitted) := by
  cases withPlace with
  | true =>
    refine ⟨rfl, rfl, rfl, rfl, ?_⟩
    simp [LexError.event]
  | false =>
    refine ⟨rfl, rfl, rfl, rfl, ?_⟩
    simp [LexError.event]

theorem tokenEventShows {source front back : List Char} {lexeme : Lexing.Lexeme}
    (limits : Limits.Logging) (whole : source = front ++ (lexeme.text ++ back))
    (span : lexeme.token.span = .covering (Position.start.advanceOver front) lexeme.text) :
    Shows source lexeme.token (Scanner.tokenEvent limits lexeme) where
  level := rfl
  code := rfl
  kind := by simp [Scanner.tokenEvent]
  text := by
    refine ⟨lexeme.text, ?_, ?_⟩
    · rw [span]
      exact coveringText whole
    · simp [Scanner.tokenEvent]
  position := by simp [Scanner.tokenEvent]

theorem listedNil (settings : Settings.Lexical) (source : List Char) :
    Listed settings source [] [] := by
  rw [Listed]
  split
  · exact .nil
  · rfl

theorem listedAppend {settings : Settings.Lexical} {source : List Char} {ts us : List LocatedToken}
    {here later : List Event} (first : Listed settings source ts here)
    (second : Listed settings source us later) :
    Listed settings source (ts ++ us) (here ++ later) := by
  rw [Listed] at first second ⊢
  split
  · next on =>
    rw [if_pos on] at first second
    exact List.rel_append first second
  · next off =>
    rw [if_neg off] at first second
    rw [first, second]
    rfl

theorem listedDebug {settings : Settings.Lexical} {source : List Char} {ts : List LocatedToken}
    {lines : List Event} (h : Listed settings source ts lines) :
    ∀ line ∈ lines, line.level = .debug ∧ line.code = .plainDebug := by
  rw [Listed] at h
  split at h
  · induction h with
    | nil => simp
    | cons shows _ ih => exact List.forall_mem_cons.mpr ⟨⟨shows.level, shows.code⟩, ih⟩
  · subst h
    simp

namespace Scanner

structure Underway (s : Scanner) (limits : Limits) (settings : Settings.Lexical)
    (source : List Char) (given : Nat) : Prop where
  within : s.Within source
  limits : s.limits = limits
  settings : s.settings = settings
  emitted : s.emitted = given

theorem startUnderway (limits : Limits) (settings : Settings.Lexical) (source : List Char) :
    (start limits settings source).Underway limits settings source 0 :=
  ⟨startWithin limits settings source, rfl, rfl, rfl⟩

theorem failedUnderway {s : Scanner} {limits : Limits} {settings : Settings.Lexical}
    {source : List Char} {given : Nat} (h : s.Underway limits settings source given) (met : Bool) :
    Underway { s with failed := met } limits settings source given :=
  ⟨⟨h.within.rules, h.within.source, ⟨h.within.placed.front, h.within.placed.stops⟩⟩, h.limits,
    h.settings, h.emitted⟩

theorem pullEvents (s : Scanner) (p : Pull) :
    (s.pull p).events = if p = .iterate ∧ s.failed then [] else s.next.events := by
  cases p with
  | located | token | reader => rfl
  | iterate =>
    cases met : s.failed with
    | true => rw [pullOver met, if_pos ⟨rfl, rfl⟩]
    | false =>
      rw [if_neg (fun past => nomatch past.2), pull, iterate, met, nextToken]
      generalize s.next = turn
      obtain ⟨answer, after, events⟩ := turn
      rcases answer with e | _ | t
      · rfl
      · rfl
      · rfl

theorem failureEvents {s : Scanner} {e : LexError} (answer : s.next.answer = .error e) :
    s.next.events = [e.event s.limits.logging s.settings.positionInErrors s.emitted] := by
  rw [next, nextFailedIff.mp answer]

section
variable {s : Scanner} {limits : Limits} {settings : Settings.Lexical} {source : List Char}
  {given : Nat} (h : s.Underway limits settings source given)
include h

theorem nextUnderway {t : LocatedToken} (answer : s.next.answer = .ok (some t)) :
    s.next.scanner.Underway limits settings source (given + 1) :=
  have akin := nextAkin s
  ⟨nextWithin h.within answer, akin.limits.trans h.limits, akin.settings.trans h.settings,
    (nextCounts answer).trans (congrArg (· + 1) h.emitted)⟩

theorem nextReports {e : LexError} (answer : s.next.answer = .error e) :
    ∃ event, s.next.events = [event] ∧ Reports limits settings source given e event := by
  obtain ⟨level, code, message, span, count⟩ :=
    failureEvent limits.logging settings.positionInErrors given e
  refine ⟨e.event limits.logging settings.positionInErrors given, ?_, level, code, ?_, span, count⟩
  · rw [failureEvents answer, h.limits, h.settings, h.emitted]
  · intro roomy
    have fits := failureFits h.within roomy h.limits answer
    exact message.trans (Event.truncateFits (fitsMore fits roomy.message))

theorem nextListed {t : LocatedToken} (answer : s.next.answer = .ok (some t)) :
    Listed settings source [t] s.next.events := by
  obtain ⟨lexeme, stepped, rfl⟩ := nextTokenIff.mp answer
  have told : s.next.events =
      if settings.logEachToken then [tokenEvent limits.logging lexeme] else [] := by
    rw [next, stepped, h.limits, h.settings]
  rw [told, Listed]
  split
  · obtain ⟨front, whole, place⟩ := h.within.placed.front
    obtain ⟨_, rule, text, after, token, found, _, rfl⟩ := Lexing.stepTokenIff.mp stepped
    rw [h.within.source, (Lexing.firstMatchWhole found).1] at whole
    refine .cons (tokenEventShows limits.logging whole ?_) .nil
    rw [place]
  · rfl

end

theorem nextSilent {s : Scanner} (answer : s.next.answer = .ok none) : s.next.events = [] := by
  rw [next, nextEndedIff.mp answer, Lexing.step]

theorem pullsChronicle {s : Scanner} {limits : Limits} {settings : Settings.Lexical}
    {source : List Char} {given : Nat} (h : s.Underway limits settings source given)
    {ts : List LocatedToken} {failure : Option LexError} (ahead : s.Ahead ts failure)
    (calls : List Pull) :
    ∃ told left, ts = told ++ left ∧
      Chronicle limits settings source given told (s.pulls calls).answer
        (s.pulls calls).events := by
  -- along the calls, with the tokens still ahead; each call adds its events in front of the later ones
  induction calls generalizing s given ts with
  | nil => exact ⟨[], ts, rfl, .nil⟩
  | cons p calls ih =>
    have call := pulled s p
    have events := pullEvents s p
    have later := (pullAhead ahead p).2.1
    rw [pulls]
    generalize (s.pull p).answer = reply, (s.pull p).scanner = after,
      (s.pull p).events = here at call events later
    cases call with
    | past iterating met =>
      obtain ⟨told, left, split, chronicle⟩ := ih h ahead
      rw [events, if_pos ⟨iterating, met⟩]
      exact ⟨told, left, split, .ended chronicle⟩
    | ended answer =>
      obtain ⟨told, left, split, chronicle⟩ := ih h ahead
      rw [events, nextSilent answer, ite_self]
      exact ⟨told, left, split, .ended chronicle⟩
    | failed answer first =>
      obtain ⟨rfl, _⟩ := deliversUnique ahead.delivers (.failed answer)
      obtain ⟨event, same, reports⟩ := nextReports h answer
      obtain ⟨told, left, split, chronicle⟩ := ih (failedUnderway h _) later
      rw [events, if_neg (fun past => by simp [first past.1] at past), same]
      exact ⟨told, left, split, .failed reports chronicle⟩
    | @token t answer first =>
      obtain ⟨us, other, delivers⟩ := s.next.scanner.deliversExists
      obtain ⟨rfl, rfl⟩ := deliversUnique ahead.delivers (.token answer delivers)
      obtain ⟨told, left, split, chronicle⟩ := ih (nextUnderway h answer) later
      rw [events, if_neg (fun past => by simp [first past.1] at past)]
      exact ⟨t :: told, left, congrArg (t :: ·) split, .token (nextListed h answer) chronicle⟩

theorem gatheredEvents (g : Gathered) (events : List Event) :
    (g.addEvents events).events.reverse = g.events.reverse ++ events := by
  simp [Gathered.addEvents]

theorem gatherChronicle {limits : Limits} {settings : Settings.Lexical} {source : List Char}
    {s : Scanner} {ts : List LocatedToken} {failure : Option LexError}
    (delivers : s.Delivers ts failure) {given : Nat}
    (h : s.Underway limits settings source given) {fuel : Nat} (enough : ts.length < fuel)
    (g : Gathered) :
    ∃ lines last, (s.gather fuel g).events = g.events.reverse ++ (lines ++ last) ∧
      Listed settings source ts lines ∧
      List.Forall₂ (Reports limits settings source (given + ts.length)) failure.toList last := by
  induction delivers generalizing given fuel g with
  | ended answer =>
    obtain ⟨fuel, rfl⟩ := Nat.exists_eq_succ_of_ne_zero (Nat.ne_of_gt enough)
    refine ⟨[], [], ?_, listedNil settings source, .nil⟩
    simp only [gather, answer, gatheredEvents, nextSilent answer, List.append_nil]
  | failed answer =>
    obtain ⟨fuel, rfl⟩ := Nat.exists_eq_succ_of_ne_zero (Nat.ne_of_gt enough)
    obtain ⟨event, same, reports⟩ := nextReports h answer
    refine ⟨[], [event], ?_, listedNil settings source, .cons reports .nil⟩
    simp only [gather, answer, gatheredEvents, same, List.nil_append]
  | @token s t ts failure answer later ih =>
    cases fuel with
    | zero => cases enough
    | succ fuel =>
      rw [List.length_cons, Nat.succ_lt_succ_iff] at enough
      obtain ⟨lines, last, events, listed, reports⟩ :=
        ih (nextUnderway h answer) enough ((g.addEvents s.next.events).addToken t)
      refine ⟨s.next.events ++ lines, last, ?_, listedAppend (nextListed h answer) listed, ?_⟩
      · simp only [gather, answer]
        rw [events]
        change (g.addEvents s.next.events).events.reverse ++ _ = _
        rw [gatheredEvents, List.append_assoc, List.append_assoc]
      · rwa [List.length_cons, Nat.add_comm ts.length, ← Nat.add_assoc]

end Scanner

theorem LexError.codeOther (e : LexError) : e.code ≠ .tokenizationComplete := by
  have others : ∀ code ∈ Startup.lexicalCodes, code ≠ .tokenizationComplete := by decide
  exact others e.code e.codeRegistered

theorem Pass.runAnnounced (limits : Limits) (settings : Settings.Lexical) (elapsed : Nat)
    (source : List Char) :
    Announced limits settings source (run limits settings elapsed source).result
      (run limits settings elapsed source).events := by
  obtain ⟨ts, failure, delivers⟩ := (Scanner.start limits settings source).deliversExists
  have enough : ts.length < (Scanner.start limits settings source).rest.length + 1 :=
    Nat.lt_succ_of_le (Scanner.deliversLength delivers)
  obtain ⟨lines, last, events, listed, reports⟩ := Scanner.gatherChronicle delivers
    (Scanner.startUnderway limits settings source) enough .none
  have told : (scan limits settings source).events = lines ++ last := events
  have answer : (scan limits settings source).answer = _ := Scanner.drainDelivers delivers
  rw [run, conclude, answer]
  cases failure with
  | none =>
    cases reports
    rw [List.append_nil] at told
    simp only [Scanner.settled, told]
    exact .finished delivers rfl listed (listedDebug listed) rfl rfl
  | some e =>
    cases reports with
    | cons reports none =>
      cases none
      rw [Nat.zero_add] at reports
      simp only [Scanner.settled, told]
      exact .stopped delivers listed (listedDebug listed) reports (reports.code ▸ e.codeOther)

/- Of any logger that takes events of every level. Both profiles leave room for all messages. -/
theorem logTellsRun {σ : Type} (limits : Limits) (settings : Settings.Lexical)
    (source : List Char) (receive : σ → Event → σ) (state : σ) :
    let log : Option (Service σ) := some ⟨.debug, receive, state⟩
    let after (events : List Event) : Option (Service σ) :=
      some ⟨.debug, receive, events.foldl receive state⟩
    (∀ calls,
      let run := (Session.start limits settings source log).pulls calls
      ∃ given left failure events,
        (Scanner.start limits settings source).Delivers (given ++ left) failure ∧
        Chronicle limits settings source 0 given run.1 events ∧ run.2.log = after events) ∧
    (∀ elapsed,
      let pass := Pass.logged limits settings elapsed source log
      ∃ events, Announced limits settings source pass.1 events ∧ pass.2 = after events) ∧
    (limits ∈ [.development, .production] → Text.byteLength source < UInt64.size →
      Roomy limits source) := by
  intro log after
  have taken (events : List Event) : log.map (·.logAll events) = after events :=
    congrArg some (Service.logAllDebug receive state events)
  refine ⟨fun calls => ?_, fun elapsed => ?_, fun profile small => profilesRoomy profile small⟩
  · obtain ⟨ts, failure, delivers⟩ := (Scanner.start limits settings source).deliversExists
    obtain ⟨given, left, rfl, chronicle⟩ := Scanner.pullsChronicle
      (Scanner.startUnderway limits settings source) ⟨delivers, nofun⟩ calls
    rw [Session.pullsScanner]
    exact ⟨given, left, failure, _, delivers, chronicle, taken _⟩
  · exact ⟨_, Pass.runAnnounced limits settings elapsed source, taken _⟩

theorem longNameReported :
    let source := List.replicate 129 'x'
    let journal := Journal.empty 1000 .debug
    let run := (Session.start .production (.ofEnvironment []) source
      (some (.ofJournal journal))).pulls [.iterate, .iterate, .token]
    Text.byteLength source < UInt64.size ∧ ∃ e first last,
      run.1 = [(.iterate, .failed e), (.iterate, .ended), (.token, .failed e)] ∧
      run.2.log = some (.ofJournal (journal.logAll [first, last])) ∧
      first.message = "Invalid Name token 'xxxxxxxxxxxxxxxxxxxxxxxxxxxxxxxx...' at 1:1: " ++
        "Name too long: 129 characters (max 128)" ∧
      last.message = first.message := by
  intro source journal run
  have small : Text.byteLength source < UInt64.size := by decide +kernel
  obtain ⟨calls, _, profiles⟩ :=
    logTellsRun .production (.ofEnvironment []) source Journal.keep journal
  have roomy : Roomy .production source := profiles (by simp) small
  obtain ⟨given, left, failure, events, _, chronicle, log⟩ := calls [.iterate, .iterate, .token]
  let e : LexError := .construction .name (excerpt source) (.covering .start source)
    (.nameTooLong 129 128)
  have replies : run.1 = [(.iterate, .failed e), (.iterate, .ended), (.token, .failed e)] := by
    decide +kernel
  change Chronicle _ _ _ _ _ run.1 _ at chronicle
  rw [replies] at chronicle
  cases chronicle with
  | @failed _ _ _ _ first _ _ reports later =>
    cases later with
    | ended later =>
      cases later with
      | @failed _ _ _ _ last _ _ reports' later =>
        cases later
        have text : e.message = "Invalid Name token 'xxxxxxxxxxxxxxxxxxxxxxxxxxxxxxxx...' at 1:1: " ++
            "Name too long: 129 characters (max 128)" := by decide +kernel
        refine ⟨small, e, first, last, replies, ?_, (reports.message roomy).trans text, ?_⟩
        · rw [← Service.logAllOfJournal, Service.ofJournal]
          exact log.trans (congrArg some (Service.logAllDebug Journal.keep journal _).symm)
        · rw [reports.message roomy, reports'.message roomy]

end MathTokens
