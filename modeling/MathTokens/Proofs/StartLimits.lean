import Mathlib.Logic.Basic
import MathTokens.CommandLine.Run
import MathTokens.Limits.Build

/-! Limits that a build accepts, and limits that a program starts with. The bounds of the build are not
those of the start: three of the start's own are asked for nowhere before. -/
namespace MathTokens

namespace Limits

structure Accepted (profile : String) (l : Limits) : Prop where
  fileSize : l.files.fileSize ≤ 1000000000
  tokenCount : l.lexical.tokenCount ≤ 100000000
  nameLength : 0 < l.lexical.nameLength
  stringSize : 0 < l.lexical.stringSize
  numberLength : 0 < l.lexical.numberLength
  bufferedEvents : 100 ≤ l.logging.bufferedEvents
  production : profile = "production" → l.files.fileSize ≤ 50000000

theorem acceptedIff (profile : String) (l : Limits) :
    refusal? profile l = none ↔ Accepted profile l := by
  simp only [refusal?, ite_eq_iff, reduceCtorEq, and_false, false_or, and_true, not_or, not_and,
    Nat.not_lt]
  constructor
  · intro ⟨fileSize, tokenCount, ⟨name, string, number⟩, buffered, production⟩
    exact ⟨fileSize, tokenCount, Nat.pos_of_ne_zero name, Nat.pos_of_ne_zero string,
      Nat.pos_of_ne_zero number, buffered, production⟩
  · intro accepted
    exact ⟨accepted.fileSize, accepted.tokenCount, ⟨Nat.ne_of_gt accepted.nameLength,
      Nat.ne_of_gt accepted.stringSize, Nat.ne_of_gt accepted.numberLength⟩,
      accepted.bufferedEvents, accepted.production⟩

end Limits

namespace Startup

theorem codesRegistered :
    checkDescribed requiredCodes = .ok () ∧ checkRegistered "File processor" fileCodes = .ok () ∧
      checkRegistered "Lexical" lexicalCodes = .ok () :=
  ⟨rfl, rfl, rfl⟩

theorem allChecked (l : Limits) : ∃ events, all l =
    if 100000 < l.logging.bufferedEvents then .error (.bufferTooLarge l.logging.bufferedEvents)
    else if l.logging.messageLength < 64 then .error (.messageTooShort l.logging.messageLength)
    else if l.lexical.tokenCount = 0 ∨ l.lexical.nameLength = 0 ∨ l.lexical.numberLength = 0 then
      .error .zeroLimit
    else .ok events := by
  obtain ⟨described, files, lexical⟩ := codesRegistered
  simp only [all, initLogging, initFiles, initLexical, described, files, lexical, checkLogging,
    checkLexical]
  by_cases large : 100000 < l.logging.bufferedEvents
  · simp only [if_pos large]
    exact ⟨[], rfl⟩
  simp only [if_neg large]
  by_cases short : l.logging.messageLength < 64
  · simp only [if_pos short]
    exact ⟨[], rfl⟩
  simp only [if_neg short]
  by_cases zero : l.lexical.tokenCount = 0 ∨ l.lexical.nameLength = 0 ∨ l.lexical.numberLength = 0
  · simp only [if_pos zero]
    exact ⟨[], rfl⟩
  · simp only [if_neg zero]
    exact ⟨_, rfl⟩

structure Startable (l : Limits) : Prop where
  bufferedEvents : l.logging.bufferedEvents ≤ 100000
  messageLength : 64 ≤ l.logging.messageLength
  tokenCount : 0 < l.lexical.tokenCount
  nameLength : 0 < l.lexical.nameLength
  numberLength : 0 < l.lexical.numberLength

theorem startsIff (l : Limits) : (∃ events, all l = .ok events) ↔ Startable l := by
  obtain ⟨events, checked⟩ := allChecked l
  rw [checked]
  constructor
  · intro ⟨_, started⟩
    split at started <;> try contradiction
    split at started <;> try contradiction
    split at started <;> try contradiction
    next large short zero =>
    rw [not_or, not_or] at zero
    exact ⟨Nat.not_lt.mp large, Nat.not_lt.mp short, Nat.pos_of_ne_zero zero.1,
      Nat.pos_of_ne_zero zero.2.1, Nat.pos_of_ne_zero zero.2.2⟩
  · intro startable
    have zero : ¬(l.lexical.tokenCount = 0 ∨ l.lexical.nameLength = 0 ∨ l.lexical.numberLength = 0) := by
      rw [not_or, not_or]
      exact ⟨Nat.ne_of_gt startable.tokenCount, Nat.ne_of_gt startable.nameLength,
        Nat.ne_of_gt startable.numberLength⟩
    rw [if_neg (Nat.not_lt.mpr startable.bufferedEvents),
      if_neg (Nat.not_lt.mpr startable.messageLength), if_neg zero]
    exact ⟨events, rfl⟩

theorem refusedBy {l : Limits} {e : StartupError} (refused : all l = .error e) :
    e ∈ [.bufferTooLarge l.logging.bufferedEvents, .messageTooShort l.logging.messageLength,
      .zeroLimit] := by
  obtain ⟨events, checked⟩ := allChecked l
  rw [checked] at refused
  split at refused
  · cases refused
    simp
  split at refused
  · cases refused
    simp
  split at refused
  · cases refused
    simp
  · contradiction

end Startup

namespace CommandLine

theorem launchRefused {l : Limits} {e : StartupError} (refused : Startup.all l = .error e) (w : World)
    (options : Options) (input : Input) (settings : Settings) :
    launch l w options input settings =
      .finished ⟨1, "", "Error: " ++ Text.inspect e.message ++ "\n"⟩ := by
  rw [launch, refused]

theorem readyStarted {l : Limits} {build : BuildInfo} {w : World} {args : List String} {job : Job}
    (ready : start l build w args = .ready job) : ∃ events, Startup.all l = .ok events := by
  cases started : Startup.all l with
  | ok events => exact ⟨events, rfl⟩
  | error e =>
    rw [start] at ready
    split at ready <;> try contradiction
    split at ready <;> try contradiction
    dsimp only at ready
    split at ready <;> try contradiction
    rw [launchRefused started] at ready
    contradiction

theorem expressionReady {l : Limits} {events : List Event} (started : Startup.all l = .ok events)
    (build : BuildInfo) (w : World) (source : String) :
    start l build w ["--expr", source] =
      .ready ⟨l, ⟨some (.expression source), none, false, false, false⟩, .ofEnvironment w.environment,
        w.now, source.toList, events⟩ := by
  have parsed : Options.parse ["--expr", source] =
    .ok ⟨some (.expression source), none, false, false, false⟩ := rfl
  simp only [start, parsed, launch, started, readInput, List.append_nil, Bool.false_eq_true, if_false]

theorem startsReadyIff (l : Limits) :
    (∃ build w args job, start l build w args = .ready job) ↔ Startup.Startable l := by
  rw [← Startup.startsIff]
  constructor
  · intro ⟨_, _, _, _, ready⟩
    exact readyStarted ready
  · intro ⟨_, started⟩
    exact ⟨_, _, _, _, expressionReady started .development ⟨"", [], fun _ => .nothing, 0, 0⟩ ""⟩

end CommandLine

theorem acceptedLimitsStart {profile : String} {l : Limits}
    (accepted : Limits.refusal? profile l = none) :
    let fits := l.logging.bufferedEvents ≤ 100000 ∧ 64 ≤ l.logging.messageLength ∧
      0 < l.lexical.tokenCount
    ((∃ events, Startup.all l = .ok events) ↔ fits) ∧
    ((∃ build w args job, CommandLine.start l build w args = .ready job) ↔ fits) ∧
    ∀ e, Startup.all l = .error e →
      e ∈ [.bufferTooLarge l.logging.bufferedEvents, .messageTooShort l.logging.messageLength,
        .zeroLimit] ∧
      ∀ w options input settings, CommandLine.launch l w options input settings =
        .finished ⟨1, "", "Error: " ++ Text.inspect e.message ++ "\n"⟩ := by
  intro fits
  have accepted := (Limits.acceptedIff profile l).mp accepted
  have startable : Startup.Startable l ↔ fits := by
    constructor
    · intro startable
      exact ⟨startable.bufferedEvents, startable.messageLength, startable.tokenCount⟩
    · intro ⟨buffered, message, tokens⟩
      exact ⟨buffered, message, tokens, accepted.nameLength, accepted.numberLength⟩
  rw [Startup.startsIff, CommandLine.startsReadyIff]
  refine ⟨startable, startable, fun e refused => ⟨Startup.refusedBy refused, fun w => ?_⟩⟩
  exact CommandLine.launchRefused refused w

theorem productionStarts :
    Limits.refusal? "production" .production = none ∧
      ∃ build w args job, CommandLine.start .production build w args = .ready job := by
  have accepted : Limits.refusal? "production" .production = none := by decide
  exact ⟨accepted, (acceptedLimitsStart accepted).2.1.mpr (by decide)⟩

theorem acceptedLimitsRefused :
    let l := { Limits.development with
      lexical := { Limits.development.lexical with tokenCount := 0 } }
    Limits.refusal? "development" l = none ∧ Startup.all l = .error .zeroLimit ∧
      ¬∃ build w args job, CommandLine.start l build w args = .ready job := by
  intro l
  have refused : Startup.all l = .error .zeroLimit := rfl
  refine ⟨by decide, refused, fun ⟨_, _, _, _, ready⟩ => ?_⟩
  obtain ⟨events, started⟩ := CommandLine.readyStarted ready
  rw [refused] at started
  contradiction

end MathTokens
