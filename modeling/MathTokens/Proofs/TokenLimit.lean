import MathTokens.Proofs.Cursor
import MathTokens.Proofs.Summary

/-! What the limit on the number of tokens does to a run. Below the limit a scanner goes as it would go
without one; at the limit it stops for good in front of the next text, whatever that text is. -/
namespace MathTokens

def Limits.allowing (limits : Limits) (count : Nat) : Limits :=
  { limits with lexical := { limits.lexical with tokenCount := count } }

structure Course where
  tokens : List LocatedToken
  failure : Option LexError
  deriving DecidableEq, Repr

def Course.Below (c : Course) (count : Nat) : Prop :=
  c.tokens.length < count ∨ c.tokens.length = count ∧ c.failure = none

theorem Course.belowCons {t : LocatedToken} {ts : List LocatedToken} {failure : Option LexError}
    {count : Nat} : Below ⟨t :: ts, failure⟩ (count + 1) ↔ Below ⟨ts, failure⟩ count := by
  simp only [Below, List.length_cons, Nat.add_lt_add_iff_right, Nat.add_right_cancel_iff]

namespace Lexing

def unlimited (rules : List Rule) (limits : Limits.Lexical) (p : Position) (input : List Char) :
    Course :=
  match _ : unlimitedStep rules limits p input with
  | .error e => ⟨[], some e⟩
  | .ok none => ⟨[], none⟩
  | .ok (some lexeme) =>
    let later := unlimited rules limits lexeme.next lexeme.rest
    ⟨lexeme.token :: later.tokens, later.failure⟩
termination_by input.length
decreasing_by exact unlimitedShorter ‹_›

theorem unlimitedStepped (rules : List Rule) (limits : Limits.Lexical) (p : Position)
    (input : List Char) :
    unlimited rules limits p input = match unlimitedStep rules limits p input with
      | .error e => ⟨[], some e⟩
      | .ok none => ⟨[], none⟩
      | .ok (some lexeme) =>
        let later := unlimited rules limits lexeme.next lexeme.rest
        ⟨lexeme.token :: later.tokens, later.failure⟩ := by
  rw [unlimited]
  split
  · next stepped => rw [stepped]
  · next stepped => rw [stepped]
  · next stepped => rw [stepped]

theorem tableUncounted (limits : Limits) (count : Nat) : ∀ rule ∈ Rule.table, ∀ text,
    rule.build (limits.allowing count).lexical text = rule.build limits.lexical text := by
  simp only [Rule.table, List.forall_mem_cons]
  exact ⟨fun _ => rfl, fun _ => rfl, fun _ => rfl, fun _ => rfl, by simp⟩

theorem stepUncounted (limits : Limits) (count : Nat) (p : Position) (input : List Char) :
    unlimitedStep Rule.table (limits.allowing count).lexical p input =
      unlimitedStep Rule.table limits.lexical p input := by
  cases input with
  | nil => rfl
  | cons first others =>
    rw [unlimitedStep, unlimitedStep]
    cases found : firstMatch? Rule.table (first :: others) with
    | none => rfl
    | some hit =>
      obtain ⟨rule, text, after⟩ := hit
      have same := tableUncounted limits count rule (firstMatchSource found).1 text
      simp only [accept, same]

theorem unlimitedUncounted (limits : Limits) (count : Nat) (p : Position) (input : List Char) :
    unlimited Rule.table (limits.allowing count).lexical p input =
      unlimited Rule.table limits.lexical p input := by
  rw [unlimitedStepped, stepUncounted, unlimitedStepped]
  cases stepped : unlimitedStep Rule.table limits.lexical p input with
  | error e => rfl
  | ok found =>
    cases found with
    | none => rfl
    | some lexeme =>
      have shorter := unlimitedShorter stepped
      simp only [unlimitedUncounted limits count lexeme.next lexeme.rest]
termination_by input.length

end Lexing

structure Resumes (source : List Char) (stop p : Position) (rest : List Char) : Prop where
  behind : ∃ front gap, source = front ++ (gap ++ rest) ∧ stop = Position.start.advanceOver front ∧
    p = Position.start.advanceOver (front ++ gap) ∧ ∀ c ∈ gap, isSeparator c
  stops : Stops isSeparator rest

def lastStop (stop : Position) (ts : List LocatedToken) : Position :=
  ts.foldl (fun _ t => t.span.stop) stop

namespace Scanner

def unlimited (s : Scanner) : Course :=
  Lexing.unlimited s.rules s.limits.lexical s.position s.rest

theorem startResumes (limits : Limits) (settings : Settings.Lexical) (source : List Char) :
    let s := start limits settings source
    Resumes s.source .start s.position s.rest where
  behind := ⟨[], source.takeWhile isSeparator, List.takeWhile_append_dropWhile.symm, rfl, rfl,
    takenAll isSeparator source⟩
  stops := stopsDropped isSeparator source

theorem nextResumes {s : Scanner} {stop : Position} (h : Resumes s.source stop s.position s.rest)
    {t : LocatedToken} (answer : s.next.answer = .ok (some t)) :
    let after := s.next.scanner
    Resumes after.source t.span.stop after.position after.rest := by
  obtain ⟨lexeme, stepped, rfl⟩ := nextTokenIff.mp answer
  rw [nextScanner stepped]
  obtain ⟨_, rule, text, after, token, found, _, rfl⟩ := Lexing.stepTokenIff.mp stepped
  obtain ⟨front, gap, source, _, place, _⟩ := h.behind
  refine ⟨⟨front ++ (gap ++ text), after.takeWhile isSeparator, ?_, ?_, ?_,
    takenAll isSeparator after⟩, stopsDropped isSeparator after⟩
  · simp only [take, source, (Lexing.firstMatchWhole found).1, List.append_assoc,
      List.takeWhile_append_dropWhile]
  · simp only [Span.covering, place, ← Position.advanceOverAppend, List.append_assoc]
  · simp only [take, place, ← Position.advanceOverAppend, List.append_assoc]

section
variable {s : Scanner} (room : s.emitted < s.limits.lexical.tokenCount)
include room

theorem aheadFailed {e : LexError} (answer : s.next.answer = .error e) :
    s.unlimited = ⟨[], some e⟩ := by
  have stepped := nextFailedIff.mp answer
  rw [Lexing.stepWithin room] at stepped
  rw [unlimited, Lexing.unlimitedStepped, stepped]

theorem aheadToken {t : LocatedToken} (answer : s.next.answer = .ok (some t)) :
    s.unlimited = ⟨t :: s.next.scanner.unlimited.tokens, s.next.scanner.unlimited.failure⟩ := by
  obtain ⟨lexeme, stepped, rfl⟩ := nextTokenIff.mp answer
  rw [nextScanner stepped]
  rw [Lexing.stepWithin room] at stepped
  rw [unlimited, Lexing.unlimitedStepped, stepped]
  rfl

end

theorem aheadEndedIff {s : Scanner} : s.unlimited = ⟨[], none⟩ ↔ s.rest = [] := by
  have ended : Lexing.unlimitedStep s.rules s.limits.lexical s.position s.rest = .ok none ↔ _ :=
    Lexing.unlimitedEndIff
  rw [← ended, unlimited, Lexing.unlimitedStepped]
  split <;> simp [*]

theorem nextFull {s : Scanner} {first : Char} {others : List Char}
    (full : s.emitted = s.limits.lexical.tokenCount) (rest : s.rest = first :: others) :
    s.next.answer =
      .error (.tooManyTokens s.limits.lexical.tokenCount ⟨s.position, s.position⟩) := by
  refine nextFailedIff.mpr ?_
  rw [rest]
  exact Lexing.stepFull (Nat.le_of_eq full.symm) s.rules s.position first others

theorem limitCuts {s : Scanner} {stop : Position} {room : Nat}
    (resumes : Resumes s.source stop s.position s.rest)
    (counted : s.emitted + room = s.limits.lexical.tokenCount) :
    (s.unlimited.Below room ∧ s.Delivers s.unlimited.tokens s.unlimited.failure) ∨
      (¬s.unlimited.Below room ∧ ∃ p first others,
        Resumes s.source (lastStop stop (s.unlimited.tokens.take room)) p (first :: others) ∧
        s.Delivers (s.unlimited.tokens.take room)
          (some (.tooManyTokens s.limits.lexical.tokenCount ⟨p, p⟩))) := by
  -- on the number of tokens that are still allowed
  induction room generalizing s stop with
  | zero =>
    cases rest : s.rest with
    | nil =>
      rw [aheadEndedIff.mpr rest]
      exact .inl ⟨.inr ⟨rfl, rfl⟩, .ended (nextEndedIff.mpr rest)⟩
    | cons first others =>
      rw [rest] at resumes
      refine .inr ⟨?_, s.position, first, others, resumes, .failed (nextFull counted rest)⟩
      rintro (fewer | ⟨given, ended⟩)
      · cases fewer
      · have done : s.unlimited = ⟨[], none⟩ := by
          rw [← ended, ← List.length_eq_zero_iff.mp given]
        cases rest.symm.trans (aheadEndedIff.mp done)
  | succ room ih =>
    have space : s.emitted < s.limits.lexical.tokenCount := by omega
    cases answer : s.next.answer with
    | error e =>
      rw [aheadFailed space answer]
      exact .inl ⟨.inl (Nat.succ_pos room), .failed answer⟩
    | ok found =>
      cases found with
      | none =>
        rw [aheadEndedIff.mpr (nextEndedIff.mp answer)]
        exact .inl ⟨.inl (Nat.succ_pos room), .ended answer⟩
      | some t =>
        have akin := nextAkin s
        have later := ih (nextResumes resumes answer)
          (by rw [nextCounts answer, akin.limits]; omega)
        rw [akin.limits, akin.source] at later
        rw [aheadToken space answer]
        rcases later with ⟨below, delivers⟩ | ⟨above, p, first, others, place, delivers⟩
        · exact .inl ⟨Course.belowCons.mpr below, .token answer delivers⟩
        · exact .inr ⟨mt Course.belowCons.mp above, p, first, others, place,
            .token answer delivers⟩

theorem pullsWithinLimit {s : Scanner} (within : s.emitted ≤ s.limits.lexical.tokenCount)
    (calls : List Pull) : (s.pulls calls).scanner.emitted ≤ s.limits.lexical.tokenCount := by
  have akin := pullsAkin s calls
  rw [← akin.limits]
  refine (pullsKeep (I := fun s => s.emitted ≤ s.limits.lexical.tokenCount)
    (Q := fun _ _ => True) (fun s p h => ⟨?_, trivial⟩) within calls).1
  have call := pulled s p
  generalize (s.pull p).answer = reply, (s.pull p).scanner = after at call
  cases call with
  | past | ended | failed => exact h
  | token answer =>
    obtain ⟨lexeme, stepped, _⟩ := nextTokenIff.mp answer
    rw [nextCounts answer, (nextAkin s).limits]
    exact (Lexing.stepTokenIff.mp stepped).1

theorem pullsEmitted (limits : Limits) (settings : Settings.Lexical) (source : List Char)
    {calls : List Pull} {given : List LocatedToken}
    (gives : List.Forall₂ Gives
      (((start limits settings source).pulls calls).answer.filter (·.2.isToken)) given) :
    ((start limits settings source).pulls calls).scanner.emitted = given.length := by
  have emitted := (pullsGiven (startGiven limits settings source) calls).emitted
  rwa [List.nil_append, givesTokens gives, List.length_map] at emitted

theorem stuckStays {s : Scanner} {e : LexError} (h : s.Ahead [] (some e)) (calls : List Pull) :
    let last := (s.pulls calls).scanner
    last.next.answer = .error e ∧ last.position = e.span.start := by
  obtain ⟨given, left, none, _, ahead, _⟩ := pullsAhead h calls
  obtain ⟨rfl, rfl⟩ := List.append_eq_nil_iff.mp none.symm
  cases ahead.delivers with
  | failed answer =>
    refine ⟨answer, ?_⟩
    obtain ⟨text, after, _, span⟩ := Lexing.failureCovers (nextFailedIff.mp answer)
    rw [span]
    rfl

end Scanner

theorem tokenLimitOnlyCuts (limits : Limits) (settings : Settings.Lexical) (source : List Char) :
    let free := (Scanner.start limits settings source).unlimited
    ∀ count,
      let s := Scanner.start (limits.allowing count) settings source
      (free.Below count → s.Delivers free.tokens free.failure) ∧
      (¬free.Below count → ∃ p first others, (free.tokens.take count).length = count ∧
        Resumes source (lastStop .start (free.tokens.take count)) p (first :: others) ∧
        let e := .tooManyTokens count ⟨p, p⟩
        s.Delivers (free.tokens.take count) (some e) ∧
        ∀ calls,
          let t := (s.pulls calls).scanner
          t.emitted = count → ∀ more,
            let last := (t.pulls more).scanner
            last.next.answer = .error e ∧ last.position = p) ∧
      ∀ calls, (s.pulls calls).scanner.emitted ≤ count := by
  intro free count s
  have same : s.unlimited = free := Lexing.unlimitedUncounted limits count _ _
  have cuts := Scanner.limitCuts (s := s)
    (Scanner.startResumes (limits.allowing count) settings source) (Nat.zero_add count)
  rw [same] at cuts
  refine ⟨fun below => ?_, fun above => ?_, Scanner.pullsWithinLimit (Nat.zero_le count)⟩
  · exact (cuts.resolve_right fun other => other.1 below).2
  · obtain ⟨p, first, others, place, delivers⟩ := (cuts.resolve_left fun other => above other.1).2
    have length : (free.tokens.take count).length = count := by
      refine List.length_take_of_le (Nat.le_of_not_lt fun fewer => above (.inl fewer))
    refine ⟨p, first, others, length, place, delivers, ?_⟩
    intro calls t reached more
    obtain ⟨given, left, whole, gives, ahead, _⟩ := Scanner.pullsAhead ⟨delivers, nofun⟩ calls
    have none : left = [] := by
      have emitted : t.emitted = given.length :=
        Scanner.pullsEmitted (limits.allowing count) settings source gives
      have lengths := congrArg List.length whole
      rw [List.length_append, length] at lengths
      exact List.length_eq_zero_iff.mp (by omega)
    subst none
    exact Scanner.stuckStays ahead more

example :
    let s := Scanner.start (Limits.development.allowing 1) (.ofEnvironment []) "a _".toList
    s.drain.answer = .error (.tooManyTokens 1 ⟨⟨2, 1, 3⟩, ⟨2, 1, 3⟩⟩) := by decide +kernel

end MathTokens
