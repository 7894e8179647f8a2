import Mathlib.Data.List.Forall2
import MathTokens.Proofs.Delivery
import MathTokens.Scanner.Pull

/-! Calls of every kind on one scanner, in any order. They all move the one cursor along the one
sequence that the scanner delivers; only the iterating form remembers that it has failed. -/
namespace MathTokens

def Reply.heard (p : Pull) : Except LexError (Option LocatedToken) → Reply
  | .ok (some t) => .token t.value (p.shown t)
  | .ok none => .ended
  | .error e => .failed e

namespace Scanner

/- All that a call can do. The failures of the iterating form are its own: after one of them it is
over, and no other call notices. -/
inductive Pulled (s : Scanner) (p : Pull) : Reply → Scanner → Prop where
  | past (iterating : p = .iterate) (met : s.failed) : Pulled s p .ended s
  | ended (answer : s.next.answer = .ok none) : Pulled s p .ended s
  | failed {e} (answer : s.next.answer = .error e) (first : p = .iterate → s.failed = false) :
      Pulled s p (.failed e) { s with failed := s.failed || p == .iterate }
  | token {t} (answer : s.next.answer = .ok (some t)) (first : p = .iterate → s.failed = false) :
      Pulled s p (.token t.value (p.shown t)) s.next.scanner

theorem nextUnmoved {s : Scanner} (h : ∀ t, s.next.answer ≠ .ok (some t)) : s.next.scanner = s := by
  rw [next] at h ⊢
  split
  · rfl
  · rfl
  · next lexeme stepped =>
    rw [stepped] at h
    exact absurd rfl (h lexeme.token)

theorem pullOver {s : Scanner} (met : s.failed) : s.pull .iterate = ⟨.ended, s, []⟩ := by
  have past : s.iterate = ⟨none, s, []⟩ := if_pos met
  rw [pull, past]
  rfl

theorem pullFirst {s : Scanner} (first : s.failed = false) :
    (s.pull .iterate).answer = .heard .iterate s.next.answer ∧
      (s.pull .iterate).scanner =
        match s.next.answer with
        | .error _ => { s.next.scanner with failed := true }
        | .ok _ => s.next.scanner := by
  unfold pull iterate nextToken
  rw [first]
  generalize s.next = turn
  obtain ⟨answer, after, events⟩ := turn
  rcases answer with e | _ | t
  · exact ⟨rfl, rfl⟩
  · exact ⟨rfl, rfl⟩
  · exact ⟨rfl, rfl⟩

theorem pullThrough (s : Scanner) {p : Pull} (plain : p ≠ .iterate) :
    (s.pull p).answer = .heard p s.next.answer ∧ (s.pull p).scanner = s.next.scanner := by
  cases p with
  | iterate => exact absurd rfl plain
  | located =>
    refine ⟨?_, rfl⟩
    change Reply.ofLocated s.next.answer = _
    rcases s.next.answer with e | _ | t <;> rfl
  | token | reader =>
    refine ⟨?_, rfl⟩
    change Reply.ofToken (s.next.answer.map _) = _
    rcases s.next.answer with e | _ | t <;> rfl

theorem pulledHeard {s after : Scanner} {p : Pull} (first : p = .iterate → s.failed = false)
    (moved : after = match s.next.answer with
      | .error _ => { s.next.scanner with failed := s.failed || p == .iterate }
      | .ok _ => s.next.scanner) :
    Pulled s p (.heard p s.next.answer) after := by
  subst moved
  cases answer : s.next.answer with
  | error e =>
    rw [nextUnmoved (by simp [answer])]
    exact .failed answer first
  | ok found =>
    cases found with
    | none =>
      rw [nextUnmoved (by simp [answer])]
      exact .ended answer
    | some t => exact .token answer first

theorem pulled (s : Scanner) (p : Pull) : Pulled s p (s.pull p).answer (s.pull p).scanner := by
  by_cases iterating : p = .iterate
  · subst iterating
    cases met : s.failed with
    | true =>
      rw [pullOver met]
      exact .past rfl met
    | false =>
      obtain ⟨same, moved⟩ := pullFirst met
      rw [same]
      exact pulledHeard (fun _ => met) (by simpa using moved)
  · obtain ⟨same, moved⟩ := pullThrough s iterating
    rw [same]
    refine pulledHeard (fun other => absurd other iterating) ?_
    rw [moved]
    have kept : (s.failed || p == .iterate) = s.failed := by simp [iterating]
    cases answer : s.next.answer with
    | error e => rw [kept, nextUnmoved (by simp [answer])]
    | ok found => rfl

theorem pullUnmoved {s : Scanner} {p : Pull} (h : (s.pull p).answer.isToken = false) :
    ∃ met, (s.pull p).scanner = { s with failed := met } := by
  have call := pulled s p
  generalize (s.pull p).answer = reply, (s.pull p).scanner = after at call h
  cases call with
  | past => exact ⟨s.failed, rfl⟩
  | ended => exact ⟨s.failed, rfl⟩
  | failed => exact ⟨_, rfl⟩
  | token => cases h

structure Akin (s t : Scanner) : Prop where
  rules : t.rules = s.rules
  limits : t.limits = s.limits
  settings : t.settings = s.settings
  source : t.source = s.source

theorem nextAkin (s : Scanner) : s.Akin s.next.scanner := by
  rw [next]
  split
  · exact ⟨rfl, rfl, rfl, rfl⟩
  · exact ⟨rfl, rfl, rfl, rfl⟩
  · exact ⟨rfl, rfl, rfl, rfl⟩

theorem pullAkin (s : Scanner) (p : Pull) : s.Akin (s.pull p).scanner := by
  have call := pulled s p
  generalize (s.pull p).answer = reply, (s.pull p).scanner = after at call
  cases call with
  | past => exact ⟨rfl, rfl, rfl, rfl⟩
  | ended => exact ⟨rfl, rfl, rfl, rfl⟩
  | failed => exact ⟨rfl, rfl, rfl, rfl⟩
  | token => exact nextAkin s

theorem akinSelf (s : Scanner) : s.Akin s := ⟨rfl, rfl, rfl, rfl⟩

theorem akinTrans {s t u : Scanner} (one : s.Akin t) (two : t.Akin u) : s.Akin u :=
  ⟨two.rules.trans one.rules, two.limits.trans one.limits, two.settings.trans one.settings,
    two.source.trans one.source⟩

theorem pullsKeep {I : Scanner → Prop} {Q : Pull → Reply → Prop}
    (step : ∀ s p, I s → I (s.pull p).scanner ∧ Q p (s.pull p).answer) {s : Scanner} (h : I s)
    (calls : List Pull) :
    I (s.pulls calls).scanner ∧ ∀ call ∈ (s.pulls calls).answer, Q call.1 call.2 := by
  induction calls generalizing s with
  | nil => exact ⟨h, by simp [pulls]⟩
  | cons p calls ih =>
    obtain ⟨kept, here⟩ := step s p h
    obtain ⟨final, later⟩ := ih kept
    exact ⟨final, List.forall_mem_cons.mpr ⟨here, later⟩⟩

theorem pullsAkin (s : Scanner) (calls : List Pull) : s.Akin (s.pulls calls).scanner :=
  (pullsKeep (I := s.Akin) (Q := fun _ _ => True)
    (fun t p akin => ⟨akinTrans akin (pullAkin t p), trivial⟩) (akinSelf s) calls).1

/-! The sequence ahead of a scanner, and what is told of it by each call. -/

structure Ahead (s : Scanner) (ts : List LocatedToken) (failure : Option LexError) : Prop where
  delivers : s.Delivers ts failure
  past : s.failed → ts = [] ∧ failure ≠ none

def foretold (failure : Option LexError) (met : Bool) (p : Pull) : List LocatedToken → Reply
  | t :: _ => .token t.value (p.shown t)
  | [] => match failure with
    | none => .ended
    | some e => if p = .iterate ∧ met then .ended else .failed e

theorem nextMet (s : Scanner) : s.next.scanner.failed = s.failed := by
  rw [next]
  split <;> rfl

theorem pullAhead {s : Scanner} {ts : List LocatedToken} {failure : Option LexError}
    (h : s.Ahead ts failure) (p : Pull) :
    (s.pull p).answer = foretold failure s.failed p ts ∧
      (s.pull p).scanner.Ahead ts.tail failure ∧
      ((s.pull p).scanner.failed ↔
        s.failed ∨ ∃ e, (p, (s.pull p).answer) = (.iterate, .failed e)) := by
  have call := pulled s p
  generalize (s.pull p).answer = reply, (s.pull p).scanner = after at call
  cases call with
  | past iterating met =>
    obtain ⟨rfl, failed⟩ := h.past met
    obtain ⟨e, rfl⟩ := Option.ne_none_iff_exists'.mp failed
    exact ⟨by simp [foretold, iterating, met], h, by simp⟩
  | ended answer =>
    obtain ⟨rfl, rfl⟩ := deliversUnique h.delivers (.ended answer)
    exact ⟨rfl, h, by simp⟩
  | @failed e answer first =>
    obtain ⟨rfl, rfl⟩ := deliversUnique h.delivers (.failed answer)
    have again := nextFailedIff.mp answer
    refine ⟨?_, ⟨.failed (nextFailedIff.mpr again), by simp⟩, by simp⟩
    have fresh : ¬(p = .iterate ∧ s.failed) := fun h => by simp [first h.1] at h
    simp [foretold, fresh]
  | @token t answer first =>
    cases h with
    | mk delivers past =>
      cases delivers with
      | ended other => cases answer.symm.trans other
      | failed other => cases answer.symm.trans other
      | token other later =>
        cases answer.symm.trans other
        have fresh : ¬s.failed := fun met => nomatch (past met).1
        refine ⟨rfl, ⟨later, fun met => ?_⟩, ?_⟩
        · rw [nextMet] at met
          exact absurd met fresh
        · simp [nextMet]

def Gives (call : Pull × Reply) (t : LocatedToken) : Prop :=
  call.2 = .token t.value (call.1.shown t)

theorem foretoldSilent (failure : Option LexError) (met : Bool) (p : Pull) :
    (foretold failure met p []).isToken = false := by
  cases failure with
  | none => rfl
  | some e =>
    rw [foretold]
    split <;> rfl

theorem pullsAhead {s : Scanner} {ts : List LocatedToken} {failure : Option LexError}
    (h : s.Ahead ts failure) (calls : List Pull) :
    ∃ given left, ts = given ++ left ∧
      List.Forall₂ Gives ((s.pulls calls).answer.filter (·.2.isToken)) given ∧
      (s.pulls calls).scanner.Ahead left failure ∧
      ((s.pulls calls).scanner.failed ↔
        s.failed ∨ ∃ e, (.iterate, .failed e) ∈ (s.pulls calls).answer) := by
  -- What is ahead gets shorter by the token a call gives, and stays as it is from the failure on.
  induction calls generalizing s ts with
  | nil => exact ⟨[], ts, rfl, .nil, h, by simp [pulls]⟩
  | cons p calls ih =>
    obtain ⟨reply, ahead, met⟩ := pullAhead h p
    obtain ⟨given, left, tail, gives, final, later⟩ := ih ahead
    have flag : (s.pulls (p :: calls)).scanner.failed ↔
        s.failed ∨ ∃ e, (.iterate, .failed e) ∈ (s.pulls (p :: calls)).answer := by
      simp only [pulls, later, met, List.mem_cons, or_assoc, exists_or, eq_comm]
    cases ts with
    | nil =>
      obtain ⟨rfl, rfl⟩ := List.append_eq_nil_iff.mp tail.symm
      have silent := foretoldSilent failure s.failed p
      rw [← reply] at silent
      exact ⟨[], [], rfl, by simpa [pulls, silent] using gives, final, flag⟩
    | cons t ts =>
      have loud : (s.pull p).answer.isToken := by
        rw [reply]
        rfl
      refine ⟨t :: given, left, congrArg (t :: ·) tail, ?_, final, flag⟩
      simpa [pulls, loud] using ⟨reply, gives⟩

theorem pullsFailure {s : Scanner} {ts : List LocatedToken} {failure : Option LexError}
    (h : s.Ahead ts failure) (calls : List Pull) :
    ∀ call ∈ (s.pulls calls).answer, ∀ e, call.2 = .failed e → failure = some e := by
  refine (pullsKeep (I := fun s => ∃ ts, s.Ahead ts failure)
    (Q := fun _ reply => ∀ e, reply = .failed e → failure = some e) ?_ ⟨ts, h⟩ calls).2
  rintro s p ⟨ts, ahead⟩
  obtain ⟨reply, later, _⟩ := pullAhead ahead p
  refine ⟨⟨_, later⟩, fun e failed => ?_⟩
  rw [reply] at failed
  unfold foretold at failed
  split at failed
  · cases failed
  · split at failed
    · cases failed
    · split at failed <;> cases failed
      rfl

theorem pullsFailOnce (s : Scanner) (calls : List Pull) (e : LexError) :
    (s.pulls calls).answer.count (.iterate, .failed e) ≤ if s.failed then 0 else 1 := by
  induction calls generalizing s with
  | nil => simp [pulls]
  | cons p calls ih =>
    have later := ih (s.pull p).scanner
    have call := pulled s p
    rw [pulls, List.count_cons]
    generalize (s.pull p).answer = reply, (s.pull p).scanner = after at call later ⊢
    cases call with
    | past => simpa using later
    | ended => simpa using later
    | @failed e' answer first =>
      by_cases iterating : p = .iterate
      · have past : (s.failed || p == .iterate) = true := by simp [iterating]
        have here : (if s.failed then 0 else 1) = 1 := by simp [first iterating]
        have none := Nat.le_trans later (Nat.le_of_eq (if_pos past))
        rw [here]
        split <;> omega
      · simpa [iterating] using later
    | token => simpa [nextMet] using later

end Scanner

theorem pullsShareOneSequence (limits : Limits) (settings : Settings.Lexical)
    (source : List Char) :
    ∃ ts failure, (Scanner.start limits settings source).Delivers ts failure ∧
      ∀ calls : List Pull,
        let turn := (Scanner.start limits settings source).pulls calls
        ∃ given left, ts = given ++ left ∧
          List.Forall₂ Scanner.Gives (turn.answer.filter (·.2.isToken)) given ∧
          (∀ e, turn.answer.count (.iterate, .failed e) ≤ 1) ∧
          ∀ p,
            let last := turn.scanner.pull p
            (∀ t ∈ left.head?, last.answer = .token t.value (p.shown t)) ∧
            (left = [] → failure = none → last.answer = .ended) ∧
            (∀ e, left = [] → failure = some e → last.answer =
              if p = .iterate ∧ (.iterate, .failed e) ∈ turn.answer then .ended else .failed e) ∧
            (last.answer.isToken = false → last.scanner.position = turn.scanner.position ∧
              last.scanner.emitted = turn.scanner.emitted ∧
              last.scanner.metrics = turn.scanner.metrics) := by
  obtain ⟨ts, failure, delivers⟩ := (Scanner.start limits settings source).deliversExists
  refine ⟨ts, failure, delivers, fun calls => ?_⟩
  have start : (Scanner.start limits settings source).Ahead ts failure := ⟨delivers, nofun⟩
  obtain ⟨given, left, whole, gives, ahead, flag⟩ := Scanner.pullsAhead start calls
  have own := Scanner.pullsFailure start calls
  have once := Scanner.pullsFailOnce (Scanner.start limits settings source) calls
  generalize (Scanner.start limits settings source).pulls calls = turn at gives ahead flag own once
  refine ⟨given, left, whole, gives, once, fun p => ?_⟩
  obtain ⟨reply, _, _⟩ := Scanner.pullAhead ahead p
  refine ⟨?_, ?_, ?_, ?_⟩
  · intro t first
    cases left with
    | nil => cases first
    | cons u left =>
      cases first
      exact reply
  · rintro rfl rfl
    exact reply
  · rintro e rfl rfl
    have met : turn.scanner.failed ↔ (.iterate, .failed e) ∈ turn.answer := by
      refine flag.trans ⟨?_, fun member => .inr ⟨e, member⟩⟩
      rintro (early | ⟨e', member⟩)
      · cases early
      · cases own _ member e' rfl
        exact member
    rw [reply, Scanner.foretold]
    simp only [met]
  · intro silent
    obtain ⟨met, same⟩ := Scanner.pullUnmoved silent
    rw [same]
    exact ⟨rfl, rfl, rfl⟩

end MathTokens
