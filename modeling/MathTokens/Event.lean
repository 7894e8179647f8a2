import MathTokens.Code
import MathTokens.Event.Stamp
import MathTokens.Json.Value
import MathTokens.Limits
import MathTokens.Source.Span
/-! What the log records: a coded message of some level, perhaps about a span, with pairs of context
in the order of their keys. An event is written as a line of text or as a JSON object on one line. -/
namespace MathTokens

inductive Level where
  | error | warning | info | debug
  deriving DecidableEq, Repr

namespace Level

def rank : Level → Nat
  | .error => 0
  | .warning => 1
  | .info => 2
  | .debug => 3

def text : Level → String
  | .error => "ERROR"
  | .warning => "WARN"
  | .info => "INFO"
  | .debug => "DEBUG"

def within (l threshold : Level) : Bool := decide (l.rank ≤ threshold.rank)

end Level

/-- Context pairs, their keys in increasing order. -/
abbrev Context := List (String × String)

def Context.insert (key value : String) : Context → Context
  | [] => [(key, value)]
  | (k, v) :: rest =>
    if key < k then (key, value) :: (k, v) :: rest
    else if key = k then (key, value) :: rest
    else (k, v) :: Context.insert key value rest

theorem Context.lookupCons (key value : String) (rest : Context) (k : String) :
    List.lookup k ((key, value) :: rest) = if k = key then some value else rest.lookup k := by
  by_cases same : k = key
  · simp [same]
  · have other : (k == key) = false := beq_eq_false_iff_ne.mpr same
    rw [List.lookup_cons, other, if_neg same]

@[simp] theorem Context.lookupInsert (key value : String) (context : Context) (k : String) :
    (Context.insert key value context).lookup k =
      if k = key then some value else context.lookup k := by
  induction context with
  | nil => exact lookupCons key value [] k
  | cons first rest ih =>
    obtain ⟨other, v⟩ := first
    rw [insert]
    split
    · exact lookupCons key value _ k
    · split
      · next same =>
        rw [lookupCons, lookupCons, same]
        split <;> rfl
      · next unlike =>
        rw [lookupCons, lookupCons, ih]
        split
        · next here => rw [if_neg (fun found => unlike (found.symm.trans here))]
        · rfl

structure Event where
  /-- Milliseconds from the start of 1970, set by whoever writes the event out. -/
  timestamp : Int
  level : Level
  code : Code
  message : String
  span : Option Span
  context : Context
  deriving DecidableEq, Repr

namespace Event

def truncate (limit : Nat) (message : String) : String :=
  if message.utf8ByteSize ≤ limit then message
  else String.ofList (Text.takeBytes limit message.toList) ++ "..."

variable (limits : Limits.Logging)

def ofLevel (level : Level) (code : Code) (message : String) : Event :=
  ⟨0, level, code, truncate limits.messageLength message, none, []⟩

def error (code : Code) (message : String) : Event := ofLevel limits .error code message

def warning (message : String) : Event := ofLevel limits .warning .plainWarning message

def info (message : String) : Event := ofLevel limits .info .plainInfo message

def success (code : Code) (message : String) : Event := ofLevel limits .info code message

def debug (message : String) : Event := ofLevel limits .debug .plainDebug message

variable {limits}

def withSpan (e : Event) (s : Span) : Event := { e with span := some s }

def withContext (e : Event) (key value : String) : Event :=
  { e with context := Context.insert key value e.context }

def withPairs (e : Event) (pairs : List (String × String)) : Event :=
  pairs.foldl (fun e (key, value) => e.withContext key value) e

@[simp] theorem withContextPairs (e : Event) (key value : String) :
    (e.withContext key value).context = Context.insert key value e.context := rfl

@[simp] theorem withPairsNil (e : Event) : e.withPairs [] = e := rfl

@[simp] theorem withPairsCons (e : Event) (key value : String) (pairs : List (String × String)) :
    e.withPairs ((key, value) :: pairs) = (e.withContext key value).withPairs pairs := rfl

@[simp] theorem withPairsLevel (e : Event) (pairs : List (String × String)) :
    (e.withPairs pairs).level = e.level := by
  induction pairs generalizing e with
  | nil => rfl
  | cons pair pairs ih => exact ih (e.withContext pair.1 pair.2)

@[simp] theorem withPairsCode (e : Event) (pairs : List (String × String)) :
    (e.withPairs pairs).code = e.code := by
  induction pairs generalizing e with
  | nil => rfl
  | cons pair pairs ih => exact ih (e.withContext pair.1 pair.2)

def stamped (e : Event) (milliseconds : Int) : Event := { e with timestamp := milliseconds }

def line (e : Event) : String :=
  let place := match e.span with
    | some s => " at " ++ s.start.text
    | none => ""
  e.context.foldl (fun out (key, value) => out ++ " " ++ key ++ "=" ++ value)
    ("[" ++ e.level.text ++ "] " ++ e.code.text ++ " - " ++ e.message ++ place)

def spanJson (s : Span) : Json :=
  .ofMembers [("start_line", .integer s.start.line), ("start_column", .integer s.start.column),
    ("end_line", .integer s.stop.line), ("end_column", .integer s.stop.column)]

def errorJson (code : Code) : Json :=
  .ofMembers [("requires_halt", .bool code.requiresHalt), ("description", .string code.description),
    ("recommended_action", .string code.action)]

def contextJson (context : Context) : Json :=
  .object (context.map fun (key, value) => (key, .string value))

def json (e : Event) : Json :=
  .ofMembers <|
    [("timestamp", .string (stampText e.timestamp)), ("level", .string e.level.text),
      ("code", .string e.code.text), ("message", .string e.message),
      ("category", .string e.code.category), ("severity", .string e.code.severity.text)]
    ++ (if e.level = .error then [("error_metadata", errorJson e.code)] else [])
    ++ (match e.span with
      | some s => [("span", spanJson s)]
      | none => [])
    ++ (if e.context.isEmpty then [] else [("context", contextJson e.context)])

def structuredLine (e : Event) : String := e.json.compactText

end Event
end MathTokens
