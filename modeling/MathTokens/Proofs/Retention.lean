import Mathlib.Data.List.DropRight
import MathTokens.Event.Journal

/-! What a journal still holds. However many events were logged, refused and cleared away before, it
holds the last ones that were accepted since, as many as there is room for. -/
namespace MathTokens

namespace Journal

def loggedSince (limits : Limits.Logging) (moves : List Move) : List Event :=
  (moves.rtakeWhile (· != .clear)).filterMap (Move.event? limits)

theorem loggedClear (limits : Limits.Logging) (moves : List Move) :
    loggedSince limits (moves ++ [.clear]) = [] := by
  rw [loggedSince, List.rtakeWhile_concat_neg _ _ _ (by simp)]
  rfl

theorem loggedEvent {limits : Limits.Logging} {m : Move} {e : Event}
    (made : m.event? limits = some e) (moves : List Move) :
    loggedSince limits (moves ++ [m]) = loggedSince limits moves ++ [e] := by
  have other : m ≠ .clear := by
    rintro rfl
    cases made
  rw [loggedSince, List.rtakeWhile_concat_pos _ _ _ (by simpa using other), List.filterMap_append,
    loggedSince]
  simp [made]

structure Holds (j : Journal) (accepted : List Event) : Prop where
  kept : j.events.toList = accepted.rtake j.capacity

theorem emptyHolds (capacity : Nat) (threshold : Level) : (empty capacity threshold).Holds [] :=
  ⟨by rw [List.rtake_nil]; rfl⟩

theorem clearHolds (j : Journal) : j.clear.Holds [] := ⟨by rw [List.rtake_nil]; rfl⟩

section
variable {j : Journal} {accepted : List Event} (h : j.Holds accepted)
include h

theorem holdsSize : j.events.size = min j.capacity accepted.length := by
  rw [← Array.length_toList, h.kept, List.rtake, List.length_drop]
  omega

theorem surplusInside (positive : 1 ≤ j.capacity) (full : j.capacity ≤ j.events.size) :
    j.surplus ≤ j.events.size := by
  have size := holdsSize h
  rw [surplus]
  omega

theorem makeRoomHolds {room : Nat} (capacity : j.capacity = room + 1) :
    j.makeRoom.toList = accepted.rtake room := by
  have size := holdsSize h
  have held := h.kept
  rw [List.rtake, capacity] at held
  rw [makeRoom, List.rtake]
  split
  · next full =>
    have one : accepted.length - (room + 1) + j.surplus = accepted.length - room := by
      rw [surplus]
      omega
    rw [Array.toList_extract, List.extract_eq_take_drop, List.take_of_length_le (by simp), held,
      List.drop_drop, one]
  · next free =>
    have all : accepted.length - (room + 1) = accepted.length - room := by omega
    rw [held, all]

theorem keepHolds (positive : 1 ≤ j.capacity) (e : Event) : (j.keep e).Holds (accepted ++ [e]) := by
  obtain ⟨room, capacity⟩ := Nat.exists_eq_succ_of_ne_zero (Nat.ne_of_gt positive)
  refine ⟨?_⟩
  rw [keep, Array.toList_push, makeRoomHolds h capacity, capacity, List.rtake_concat_succ]

end

structure Keeps (j : Journal) (capacity : Nat) (threshold : Level) (logged : List Event) : Prop where
  room : j.capacity = capacity
  bound : j.threshold = threshold
  holds : j.Holds (logged.filter (·.level.within threshold))

section
variable {j : Journal} {capacity : Nat} {threshold : Level} {logged : List Event}

theorem logKeeps (h : j.Keeps capacity threshold logged) (positive : 1 ≤ capacity) (e : Event) :
    (j.log e).Keeps capacity threshold (logged ++ [e]) := by
  rw [log, h.bound]
  split
  · next inside =>
    have accepted : (logged ++ [e]).filter (·.level.within threshold) =
        logged.filter (·.level.within threshold) ++ [e] := by simp [inside]
    refine ⟨h.room, h.bound, ?_⟩
    rw [accepted]
    exact keepHolds h.holds (h.room ▸ positive) e
  · next outside =>
    have refused : (logged ++ [e]).filter (·.level.within threshold) =
        logged.filter (·.level.within threshold) := by simp [outside]
    refine ⟨h.room, h.bound, ?_⟩
    rw [refused]
    exact h.holds

theorem performKeeps {limits : Limits.Logging} {moves : List Move}
    (h : j.Keeps capacity threshold (loggedSince limits moves)) (positive : 1 ≤ capacity)
    (m : Move) :
    (j.perform limits m).Keeps capacity threshold (loggedSince limits (moves ++ [m])) := by
  rw [perform]
  split
  · next e made =>
    rw [loggedEvent made]
    exact logKeeps h positive e
  · next none =>
    have clears : m = .clear := by
      cases m with
      | clear => rfl
      | event | error | success | info | debug => cases none
    rw [clears, loggedClear]
    exact ⟨h.room, h.bound, clearHolds j⟩

end

theorem performsKeep {limits : Limits.Logging} {capacity : Nat} (positive : 1 ≤ capacity)
    (threshold : Level) (moves : List Move) :
    ((empty capacity threshold).performs limits moves).Keeps capacity threshold
      (loggedSince limits moves) := by
  -- from the end of the moves, since the last clear decides what counts
  induction moves using List.reverseRecOn with
  | nil => exact ⟨rfl, rfl, emptyHolds capacity threshold⟩
  | append_singleton moves m ih =>
    rw [performs, List.foldl_append]
    exact performKeeps ih positive m

theorem anyWithIff (j : Journal) (level : Level) (code : Code) :
    (j.events.any fun e => e.level == level && e.code == code) ↔
      ∃ e ∈ j.events.toList, e.level = level ∧ e.code = code := by
  rw [← Array.any_toList, List.any_eq_true]
  simp

end Journal

theorem journalKeepsLatest (limits : Limits.Logging) (positive : 1 ≤ limits.bufferedEvents)
    (threshold : Level) (moves : List Journal.Move) :
    let j := (Journal.empty limits.bufferedEvents threshold).performs limits moves
    let accepted := (Journal.loggedSince limits moves).filter (·.level.within threshold)
    let kept := accepted.rtake limits.bufferedEvents
    j.events.toList = kept ∧ j.events.size = kept.length ∧
      j.events.size ≤ limits.bufferedEvents ∧
      j.errors.toList = kept.filter (·.level = .error) ∧
      (∀ code, j.hasErrorWith code ↔ ∃ e ∈ kept, e.level = .error ∧ e.code = code) ∧
      (∀ code, j.hasSuccessWith code ↔ ∃ e ∈ kept, e.level = .info ∧ e.code = code) ∧
      (j.capacity ≤ j.events.size → j.surplus ≤ j.events.size) := by
  intro j accepted kept
  have keeps : j.Keeps limits.bufferedEvents threshold (Journal.loggedSince limits moves) :=
    Journal.performsKeep positive threshold moves
  have events : j.events.toList = kept := by
    rw [keeps.holds.kept, keeps.room]
  refine ⟨events, ?_, ?_, ?_, ?_, ?_, ?_⟩
  · rw [← events, Array.length_toList]
  · rw [Journal.holdsSize keeps.holds, keeps.room]
    exact Nat.min_le_left _ _
  · rw [Journal.errors, Array.toList_filter, events]
    rfl
  · intro code
    rw [Journal.hasErrorWith, Journal.anyWithIff, events]
  · intro code
    rw [Journal.hasSuccessWith, Journal.anyWithIff, events]
  · exact Journal.surplusInside keeps.holds (keeps.room ▸ positive)

theorem twoLatestKept :
    let limits : Limits.Logging := ⟨2, 64⟩
    let moves : List Journal.Move := [.error .unexpectedCharacter "a", .clear, .info "b",
      .error .unterminatedString "c", .debug "d", .success .tokenizationComplete "e"]
    let j := (Journal.empty 2 .info).performs limits moves
    1 ≤ limits.bufferedEvents ∧
      j.events.toList = [.error limits .unterminatedString "c",
        .success limits .tokenizationComplete "e"] ∧
      j.errors.toList = [.error limits .unterminatedString "c"] ∧
      j.hasErrorWith .unexpectedCharacter = false ∧ j.hasSuccessWith .tokenizationComplete = true ∧
      j.surplus ≤ j.events.size := by
  intro limits moves j
  have positive : 1 ≤ limits.bufferedEvents := by decide
  obtain ⟨events, _, _, errors, failed, done, surplus⟩ :=
    journalKeepsLatest limits positive .info moves
  have kept : ((Journal.loggedSince limits moves).filter (·.level.within .info)).rtake 2 =
      [.error limits .unterminatedString "c", .success limits .tokenizationComplete "e"] := by
    decide +kernel
  have full : j.capacity ≤ j.events.size := by
    rw [← Array.length_toList, events, kept]
    decide
  refine ⟨positive, events.trans kept, ?_, ?_, ?_, surplus full⟩
  · rw [errors, kept]
    rfl
  · rw [Bool.eq_false_iff, ne_eq, failed, kept]
    decide
  · rw [done, kept]
    exact ⟨.success limits .tokenizationComplete "e", by simp, rfl, rfl⟩

end MathTokens
