import MathTokens.Proofs.Cursor
import MathTokens.Proofs.Grammar
import MathTokens.Proofs.Walking

/-! A finished tape that is read token by token, beside a scanner that is asked for the same tokens
only now. No reader can tell the one from the other, neither on the way nor past the end. -/
namespace MathTokens

namespace Scanner

theorem deliversHere {s : Scanner} {ts : List LocatedToken} (h : s.Delivers ts none) :
    ts.head?.map (·.span.start) = if s.isExhausted then none else some s.position := by
  cases h with
  | ended answer => simp [isExhausted, nextEndedIff.mp answer]
  | token answer later =>
    obtain ⟨text, after, _, cover⟩ := nextCovers answer
    have more : s.rest ≠ [] := fun empty => by
      rw [nextEndedIff.mpr empty] at answer
      cases answer
    rw [isExhausted, if_neg (by simpa using more), List.head?_cons, Option.map_some, cover,
      Span.covering]

end Scanner

structure Mirrors (tape : Tape) (s : Scanner) : Prop where
  ahead : s.Delivers tape.remaining none
  count : tape.position = s.emitted

theorem readMirrors {tape : Tape} {s : Scanner} (h : Mirrors tape s) :
    s.nextToken.answer = .ok tape.nextToken.1 ∧ Mirrors tape.nextToken.2 s.nextToken.scanner := by
  obtain ⟨ahead, count⟩ := h
  have current := tape.showsRemaining.current
  have moved : tape.advance.remaining = tape.remaining.tail := tape.remainingAdvance
  unfold Scanner.nextToken Tape.nextToken
  generalize tape.remaining = left at ahead current moved
  cases ahead with
  | ended answer =>
    have rests : tape.advance = tape := Tape.advanceEnded current
    rw [rests] at moved ⊢
    refine ⟨?_, ?_, ?_⟩
    · simp only [answer, current]
      rfl
    · rw [moved, Scanner.nextUnmoved (by simp [answer])]
      exact .ended answer
    · rw [Scanner.nextUnmoved (by simp [answer])]
      exact count
  | token answer later =>
    refine ⟨?_, ?_, ?_⟩
    · simp only [answer, current]
      rfl
    · rw [moved]
      exact later
    · change tape.advance.position = s.next.scanner.emitted
      rw [Scanner.nextCounts answer, ← count]
      exact Tape.advanceNext (Tape.currentInside current)

theorem readsMirror {tape : Tape} {s : Scanner} (h : Mirrors tape s) (k : Nat) :
    Mirrors (tape.performs (List.replicate k .read)).2
      (s.pulls (List.replicate k .reader)).scanner := by
  induction k generalizing tape s with
  | zero => exact h
  | succ k ih => exact ih (readMirrors h).2

theorem readsRemaining (tape : Tape) (k : Nat) :
    (tape.performs (List.replicate k .read)).2.remaining = tape.remaining.drop k := by
  induction k generalizing tape with
  | zero => rfl
  | succ k ih =>
    rw [← List.drop_tail, ← tape.remainingAdvance]
    exact ih tape.advance

theorem tapeReplaysScanner (limits : Limits) (settings settings' : Settings.Lexical)
    (elapsed : Nat) (source : List Char) (tape : Tape)
    (read : (Pass.run limits settings elapsed source).result = .ok tape) (k : Nat) :
    let live := ((Scanner.start limits settings' source).pulls (List.replicate k .reader)).scanner
    let replay := (tape.performs (List.replicate k .read)).2
    live.nextToken.answer = .ok replay.nextToken.1 ∧
      replay.nextToken.1 = tape.tokens[k]?.map Located.value ∧
      replay.position = live.emitted ∧
      replay.current?.map (·.span.start) =
        if live.isExhausted then none else some live.position := by
  intro live replay
  obtain ⟨d, valid, rfl, rfl⟩ := Pass.runLayoutIff.mp read
  have fresh : Mirrors (Tape.ofList d.tokens (some (LineIndex.ofChars d.chars)))
      (Scanner.start limits settings' d.chars) :=
    ⟨Layout.validDelivered valid settings', rfl⟩
  have mirrors : Mirrors replay live := readsMirror fresh k
  refine ⟨(readMirrors mirrors).1, ?_, mirrors.count, ?_⟩
  · rw [Tape.nextToken, replay.showsRemaining.current, readsRemaining]
    simp [Tape.ofList, Tape.remaining]
  · rw [replay.showsRemaining.current]
    exact Scanner.deliversHere mirrors.ahead

theorem secondLineReplayed :
    let source := "x\r\n\"π\"".toList
    let live k := ((Scanner.start .production (.ofEnvironment []) source).pulls
      (List.replicate k .reader)).scanner
    ∃ tape, (Pass.run .production (.ofEnvironment []) 0 source).result = .ok tape ∧
      let replay k := (tape.performs (List.replicate k .read)).2
      (live 1).nextToken.answer = .ok (some (.string "π")) ∧
      (replay 1).nextToken.1 = some (.string "π") ∧
      (replay 1).position = (live 1).emitted ∧
      (replay 1).current?.map (·.span.start) = some (live 1).position ∧
      (live 3).nextToken.answer = .ok none ∧ (replay 3).nextToken.1 = none := by
  intro source live
  have scanned : (Scanner.start .production (.ofEnvironment []) source).drain.answer =
      .ok [⟨.name "x", ⟨⟨0, 1, 1⟩, ⟨1, 1, 2⟩⟩⟩, ⟨.string "π", ⟨⟨3, 2, 1⟩, ⟨7, 2, 4⟩⟩⟩] := by
    decide +kernel
  have more : (live 1).isExhausted = false := by decide +kernel
  have read : (Pass.run .production (.ofEnvironment []) 0 source).result = .ok _ :=
    Pass.runOkIff.mpr ⟨_, Scanner.drainOkIff.mp scanned, rfl⟩
  obtain ⟨answer, same, count, place⟩ :=
    tapeReplaysScanner .production (.ofEnvironment []) (.ofEnvironment []) 0 source _ read 1
  obtain ⟨answer', same', _⟩ :=
    tapeReplaysScanner .production (.ofEnvironment []) (.ofEnvironment []) 0 source _ read 3
  rw [same] at answer
  rw [same'] at answer'
  exact ⟨_, read, answer, same, count, place.trans (if_neg (ne_true_of_eq_false more)), answer', same'⟩

end MathTokens
