import MathTokens.Event.Service
import MathTokens.Scanner.Pass
import MathTokens.Scanner.Pull
/-! Scanners and passes with the log they write to. Before a log is set up, what is written is lost. -/
namespace MathTokens

structure Session (σ : Type) where
  scanner : Scanner
  log : Option (Service σ)

namespace Session
variable {σ : Type}

def start (limits : Limits) (settings : Settings.Lexical) (source : List Char)
    (log : Option (Service σ)) : Session σ :=
  ⟨.start limits settings source, log⟩

def pull (s : Session σ) (p : Pull) : Reply × Session σ :=
  let turn := s.scanner.pull p
  (turn.answer, ⟨turn.scanner, s.log.map (·.logAll turn.events)⟩)

/-- Calls one after the other. In between, others may use the log or set it up. -/
def disturbed (s : Session σ) (others : Nat → Option (Service σ) → Option (Service σ)) :
    List Pull → List (Pull × Reply) × Session σ
  | [] => ([], s)
  | p :: calls =>
    let (reply, after) := pull ⟨s.scanner, others 0 s.log⟩ p
    let (replies, last) := after.disturbed (fun n => others (n + 1)) calls
    ((p, reply) :: replies, last)

def pulls (s : Session σ) (calls : List Pull) : List (Pull × Reply) × Session σ :=
  s.disturbed (fun _ log => log) calls

theorem pullsScanner (s : Session σ) (calls : List Pull) :
    s.pulls calls = ((s.scanner.pulls calls).answer, ⟨(s.scanner.pulls calls).scanner,
      s.log.map (·.logAll (s.scanner.pulls calls).events)⟩) := by
  induction calls generalizing s with
  | nil =>
    obtain ⟨scanner, log⟩ := s
    cases log <;> rfl
  | cons p calls ih =>
    have later (after : Session σ) : after.disturbed (fun _ log => log) calls = _ := ih after
    rw [pulls, disturbed, Scanner.pulls, pull]
    simp only [later, Option.map_map, Function.comp_def, Service.logAllAppend]

theorem disturbedScanner (s : Session σ) (others : Nat → Option (Service σ) → Option (Service σ))
    (calls : List Pull) :
    (s.disturbed others calls).1 = (s.scanner.pulls calls).answer ∧
      (s.disturbed others calls).2.scanner = (s.scanner.pulls calls).scanner := by
  induction calls generalizing s others with
  | nil => exact ⟨rfl, rfl⟩
  | cons p calls ih =>
    obtain ⟨replies, last⟩ := ih (pull ⟨s.scanner, others 0 s.log⟩ p).2 (fun n => others (n + 1))
    exact ⟨congrArg _ replies, last⟩

end Session

def Pass.logged {σ : Type} (limits : Limits) (settings : Settings.Lexical) (elapsed : Nat)
    (source : List Char) (log : Option (Service σ)) :
    Except LexError Tape × Option (Service σ) :=
  let outcome := run limits settings elapsed source
  (outcome.result, log.map (·.logAll outcome.events))

end MathTokens
