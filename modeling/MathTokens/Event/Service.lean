import MathTokens.Event.Journal
/-! Where events go. A service hands the events up to its threshold to a logger, of which it knows only
how it takes one more. -/
namespace MathTokens

structure Service (σ : Type) where
  threshold : Level
  receive : σ → Event → σ
  state : σ

namespace Service
variable {σ : Type}

def log (s : Service σ) (e : Event) : Service σ :=
  if e.level.within s.threshold then { s with state := s.receive s.state e } else s

def logAll (s : Service σ) (events : List Event) : Service σ := events.foldl log s

def ofJournal (j : Journal) : Service Journal := ⟨j.threshold, Journal.keep, j⟩

theorem logAllAppend (s : Service σ) (xs ys : List Event) :
    s.logAll (xs ++ ys) = (s.logAll xs).logAll ys :=
  List.foldl_append

theorem logAllDebug (receive : σ → Event → σ) (state : σ) (events : List Event) :
    logAll ⟨.debug, receive, state⟩ events = ⟨.debug, receive, events.foldl receive state⟩ := by
  induction events generalizing state with
  | nil => rfl
  | cons e events ih =>
    have within : e.level.within .debug := by cases e.level <;> rfl
    rw [logAll, List.foldl_cons, log, if_pos within]
    exact ih (receive state e)

theorem logAllOfJournal (j : Journal) (events : List Event) :
    (ofJournal j).logAll events = ofJournal (j.logAll events) := by
  induction events generalizing j with
  | nil => rfl
  | cons e events ih =>
    have first : (ofJournal j).log e = ofJournal (j.log e) := by
      rw [log, Journal.log]
      by_cases within : e.level.within j.threshold
      · rw [if_pos within]
        exact if_pos within
      · rw [if_neg within]
        exact if_neg within
    rw [logAll, List.foldl_cons, first]
    exact ih (j.log e)

end Service
end MathTokens
