import MathTokens.Proofs.Pulling
import MathTokens.Scanner.Session

/-! What settings and logs cannot change. Two scanners that differ in nothing else stay abreast of each
other along any calls, and what they give and refuse is the same. -/
namespace MathTokens

namespace Scanner

/- Two scanners at the same place of the same source, under the same rules and limits. Settings and
metrics are left open. -/
structure Abreast (s t : Scanner) : Prop where
  rules : t.rules = s.rules
  limits : t.limits = s.limits
  source : t.source = s.source
  position : t.position = s.position
  rest : t.rest = s.rest
  emitted : t.emitted = s.emitted
  failed : t.failed = s.failed

theorem startAbreast (limits : Limits) (settings settings' : Settings.Lexical)
    (source : List Char) :
    (start limits settings source).Abreast (start limits settings' source) :=
  ⟨rfl, rfl, rfl, rfl, rfl, rfl, rfl⟩

section
variable {s t : Scanner} (h : s.Abreast t)
include h

theorem failedAbreast (met : Bool) : Abreast { s with failed := met } { t with failed := met } :=
  ⟨h.rules, h.limits, h.source, h.position, h.rest, h.emitted, rfl⟩

theorem takeAbreast (lexeme : Lexing.Lexeme) : (s.take lexeme).Abreast (t.take lexeme) :=
  ⟨h.rules, h.limits, h.source, rfl, rfl, congrArg (· + 1) h.emitted, h.failed⟩

theorem stepAbreast :
    Lexing.step t.rules t.limits.lexical t.emitted t.position t.rest =
      Lexing.step s.rules s.limits.lexical s.emitted s.position s.rest := by
  rw [h.rules, h.limits, h.emitted, h.position, h.rest]

theorem nextAbreast :
    t.next.answer = s.next.answer ∧ s.next.scanner.Abreast t.next.scanner := by
  have same := stepAbreast h
  rw [next, next, same]
  rcases Lexing.step s.rules s.limits.lexical s.emitted s.position s.rest with e | _ | lexeme
  · exact ⟨rfl, h⟩
  · exact ⟨rfl, h⟩
  · exact ⟨rfl, takeAbreast h lexeme⟩

theorem pullAbreast (p : Pull) :
    (t.pull p).answer = (s.pull p).answer ∧ (s.pull p).scanner.Abreast (t.pull p).scanner := by
  obtain ⟨answer, after⟩ := nextAbreast h
  by_cases iterating : p = .iterate
  · subst iterating
    cases met : s.failed with
    | true =>
      rw [pullOver met, pullOver (h.failed.trans met)]
      exact ⟨rfl, h⟩
    | false =>
      obtain ⟨same, moved⟩ := pullFirst met
      obtain ⟨same', moved'⟩ := pullFirst (h.failed.trans met)
      rw [same, moved, same', moved', answer]
      refine ⟨rfl, ?_⟩
      cases s.next.answer with
      | error e => exact failedAbreast after true
      | ok found => exact after
  · obtain ⟨same, moved⟩ := pullThrough s iterating
    obtain ⟨same', moved'⟩ := pullThrough t iterating
    rw [same, moved, same', moved', answer]
    exact ⟨rfl, after⟩

end

theorem pullsAbreast {s t : Scanner} (h : s.Abreast t) (calls : List Pull) :
    (t.pulls calls).answer = (s.pulls calls).answer ∧
      (s.pulls calls).scanner.Abreast (t.pulls calls).scanner := by
  induction calls generalizing s t with
  | nil => exact ⟨rfl, h⟩
  | cons p calls ih =>
    obtain ⟨reply, after⟩ := pullAbreast h p
    obtain ⟨replies, last⟩ := ih after
    refine ⟨?_, last⟩
    rw [pulls, pulls, reply, replies]

theorem deliversAbreast {s t : Scanner} {ts : List LocatedToken} {failure : Option LexError}
    (delivers : s.Delivers ts failure) (h : s.Abreast t) : t.Delivers ts failure := by
  induction delivers generalizing t with
  | ended answer => exact .ended ((nextAbreast h).1.trans answer)
  | failed answer => exact .failed ((nextAbreast h).1.trans answer)
  | token answer later ih =>
    obtain ⟨same, after⟩ := nextAbreast h
    exact .token (same.trans answer) (ih after)

end Scanner

theorem Pass.runAbreast (limits : Limits) (settings settings' : Settings.Lexical)
    (elapsed elapsed' : Nat) (source : List Char) :
    (run limits settings' elapsed' source).result = (run limits settings elapsed source).result := by
  obtain ⟨ts, failure, delivers⟩ := (Scanner.start limits settings source).deliversExists
  have delivers' := Scanner.deliversAbreast delivers
    (Scanner.startAbreast limits settings settings' source)
  cases failure with
  | none =>
    rw [runOkIff.mpr ⟨ts, delivers', rfl⟩, runOkIff.mpr ⟨ts, delivers, rfl⟩]
  | some e =>
    rw [runFailedIff.mpr ⟨ts, delivers'⟩, runFailedIff.mpr ⟨ts, delivers⟩]

theorem settingsAndLogsInvisible {σ τ : Type} (limits : Limits)
    (settings settings' : Settings.Lexical) (log : Option (Service σ)) (log' : Option (Service τ))
    (source : List Char) :
    (∀ others others' calls,
      let one := (Session.start limits settings source log).disturbed others calls
      let two := (Session.start limits settings' source log').disturbed others' calls
      two.1 = one.1 ∧ one.2.scanner.Abreast two.2.scanner) ∧
    ∀ elapsed elapsed',
      (Pass.logged limits settings' elapsed' source log').1 =
        (Pass.logged limits settings elapsed source log).1 := by
  refine ⟨?_, fun elapsed elapsed' => ?_⟩
  · intro others others' calls one two
    obtain ⟨replies, last⟩ :=
      (Session.start limits settings source log).disturbedScanner others calls
    obtain ⟨replies', last'⟩ :=
      (Session.start limits settings' source log').disturbedScanner others' calls
    simp only [one, two, replies, last, replies', last']
    exact Scanner.pullsAbreast (Scanner.startAbreast limits settings settings' source) calls
  · exact Pass.runAbreast limits settings settings' elapsed elapsed' source

end MathTokens
