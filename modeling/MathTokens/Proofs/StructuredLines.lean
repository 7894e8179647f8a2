import Mathlib.Data.List.Nodup
import Mathlib.Data.String.Basic
import MathTokens.Event
import MathTokens.Proofs.ByteScans
import MathTokens.Proofs.TokenJson

/-! An event as a line of JSON. Nothing in an event can break the line or stand in for another member, and
its text can be read back. Context is kept by key, so the order of adding different keys is lost. -/
namespace MathTokens

theorem Bytes.encodeVisible {cs : List Char} (each : ∀ c ∈ cs, 0x20 ≤ c.toNat) :
    ∀ b ∈ encode cs, 0x20 ≤ b.toNat := by
  intro b member
  obtain ⟨c, inside, byte⟩ := List.mem_flatMap.mp member
  have visible := each c inside
  rcases charBytes c with ⟨small, single⟩ | ⟨wide, several⟩
  · rw [single, List.mem_singleton] at byte
    have value : (UInt8.ofNat c.toNat).toNat = c.toNat := Nat.mod_eq_of_lt (by omega)
    rwa [byte, value]
  · exact Nat.le_trans (by decide) (several b byte)

namespace Context

def keys (context : Context) : List String := context.map (·.1)

def Ordered (context : Context) : Prop := context.keys.Pairwise (· < ·)

instance (context : Context) : Decidable context.Ordered := by unfold Ordered; infer_instance

theorem keysInserted (key value : String) (context : Context) (k : String) :
    k ∈ (Context.insert key value context).keys ↔ k = key ∨ k ∈ context.keys := by
  induction context with
  | nil => simp [insert, keys]
  | cons first rest ih =>
    have head (pair : String × String) (more : Context) : keys (pair :: more) = pair.1 :: more.keys := rfl
    grind [Context.insert]

theorem insertOrdered {context : Context} (ordered : context.Ordered) (key value : String) :
    (Context.insert key value context).Ordered := by
  induction context with
  | nil => exact List.pairwise_singleton _ _
  | cons first rest ih =>
    obtain ⟨k, v⟩ := first
    obtain ⟨least, later⟩ := List.pairwise_cons.mp ordered
    rw [insert]
    split
    · next below =>
      refine List.pairwise_cons.mpr ⟨fun other member => ?_, ordered⟩
      rcases List.mem_cons.mp member with rfl | inside
      · exact below
      · exact lt_trans below (least other inside)
    · split
      · next same => exact List.pairwise_cons.mpr ⟨same ▸ least, later⟩
      · next above unlike =>
        refine List.pairwise_cons.mpr ⟨fun other member => ?_, ih later⟩
        rcases (keysInserted key value rest other).mp member with rfl | inside
        · exact lt_of_le_of_ne (not_lt.mp above) (Ne.symm unlike)
        · exact least other inside

theorem insertCommutes {k k' : String} (below : k < k') (v v' : String) (context : Context) :
    Context.insert k v (Context.insert k' v' context) =
      Context.insert k' v' (Context.insert k v context) := by
  induction context with
  | nil => grind [Context.insert]
  | cons first rest ih => grind [Context.insert]

end Context

namespace Event

theorem withContextOrder (e : Event) {k k' : String} (unlike : k ≠ k') (v v' : String) :
    (e.withContext k v).withContext k' v' = (e.withContext k' v').withContext k v := by
  rcases lt_or_gt_of_ne unlike with below | above
  · simp only [withContext, Context.insertCommutes below]
  · simp only [withContext, Context.insertCommutes above]

theorem withPairsOrder (e : Event) {pairs pairs' : List (String × String)} (order : pairs.Perm pairs')
    (apart : (pairs.map (·.1)).Nodup) : e.withPairs pairs = e.withPairs pairs' := by
  refine order.foldl_eq' (fun (k, v) inside (k', v') inside' e => ?_) e
  by_cases same : k = k'
  · have one := List.inj_on_of_nodup_map apart inside inside' same
    rw [one]
  · exact e.withContextOrder same v v'

theorem withPairsKeep (e : Event) (pairs : List (String × String)) (key : String) :
    (e.withPairs pairs).context.lookup key = (pairs.reverse.lookup key).or (e.context.lookup key) := by
  induction pairs generalizing e with
  | nil => rfl
  | cons pair pairs ih =>
    obtain ⟨k, v⟩ := pair
    rw [withPairsCons, ih, withContextPairs, Context.lookupInsert, List.reverse_cons,
      List.lookup_append, Context.lookupCons, Option.or_assoc]
    split <;> rfl

structure WellFormed (e : Event) : Prop where
  context : e.context.Ordered
  span : ∀ s, e.span = some s → s.Fits

theorem withContextWellFormed {e : Event} (sound : e.WellFormed) (key value : String) :
    (e.withContext key value).WellFormed :=
  ⟨Context.insertOrdered sound.context key value, sound.span⟩

theorem withPairsWellFormed {e : Event} (sound : e.WellFormed) (pairs : List (String × String)) :
    (e.withPairs pairs).WellFormed := by
  induction pairs generalizing e with
  | nil => exact sound
  | cons pair pairs ih => exact ih (withContextWellFormed sound pair.1 pair.2)

def fixedParts (e : Event) : List (String × Json) :=
  [("timestamp", .string (stampText e.timestamp)), ("level", .string e.level.text),
    ("code", .string e.code.text), ("message", .string e.message),
    ("category", .string e.code.category), ("severity", .string e.code.severity.text)]

def errorParts (e : Event) : List (String × Json) :=
  if e.level = .error then [("error_metadata", errorJson e.code)] else []

def spanParts (e : Event) : List (String × Json) :=
  match e.span with
  | some s => [("span", spanJson s)]
  | none => []

def contextParts (e : Event) : List (String × Json) :=
  if e.context.isEmpty then [] else [("context", contextJson e.context)]

def parts (e : Event) : List (String × Json) :=
  e.fixedParts ++ e.errorParts ++ e.spanParts ++ e.contextParts

theorem jsonParts (e : Event) : e.json = .ofMembers e.parts := rfl

theorem spanJsonMembers (s : Span) :
    spanJson s = .object [("end_column", .integer s.stop.column), ("end_line", .integer s.stop.line),
      ("start_column", .integer s.start.column), ("start_line", .integer s.start.line)] := by
  rfl

theorem errorJsonMembers (code : Code) :
    errorJson code = .object [("description", .string code.description),
      ("recommended_action", .string code.action), ("requires_halt", .bool code.requiresHalt)] := by
  rfl

def names : List String :=
  ["timestamp", "level", "code", "message", "category", "severity", "error_metadata", "span", "context"]

theorem partsNamed (e : Event) : (e.parts.map (·.1)).Sublist names := by
  have error : (e.errorParts.map (·.1)).Sublist ["error_metadata"] := by unfold errorParts; split <;> simp
  have span : (e.spanParts.map (·.1)).Sublist ["span"] := by unfold spanParts; split <;> simp
  have context : (e.contextParts.map (·.1)).Sublist ["context"] := by unfold contextParts; split <;> simp
  rw [parts, List.map_append, List.map_append, List.map_append]
  exact (((List.Sublist.refl _).append error).append span).append context

theorem partsApart (e : Event) : (e.parts.map (·.1)).Nodup := e.partsNamed.nodup (by decide)

theorem partsPlain {e : Event} (sound : e.WellFormed) : ∀ part ∈ e.parts, Json.Plain part.2 := by
  have wide : UInt32.size ≤ UInt64.size := by decide
  have small {n : Nat} (inside : n < UInt32.size) : Json.Plain (.integer n) :=
    .natural (Nat.lt_of_lt_of_le inside wide)
  intro part member
  rw [parts, List.mem_append, List.mem_append, List.mem_append] at member
  rcases member with ((fixed | error) | span) | context
  · simp only [fixedParts, List.mem_cons, List.not_mem_nil, or_false] at fixed
    rcases fixed with rfl | rfl | rfl | rfl | rfl | rfl <;> exact .string _
  · unfold errorParts at error
    split at error
    · rw [List.mem_singleton.mp error, errorJsonMembers]
      exact .object (by simpa using ⟨.string _, .string _, .bool _⟩)
    · cases error
  · unfold spanParts at span
    split at span
    · next s place =>
      have fits := sound.span s place
      rw [List.mem_singleton.mp span, spanJsonMembers]
      exact .object (by simpa using
        ⟨small fits.stop.column, small fits.stop.line, small fits.start.column, small fits.start.line⟩)
    · cases span
  · unfold contextParts at context
    split at context
    · cases context
    · rw [List.mem_singleton.mp context]
      refine .object fun pair inside => ?_
      obtain ⟨_, _, rfl⟩ := List.mem_map.mp inside
      exact .string _

theorem partsError (e : Event) :
    Json.member? "error_metadata" e.parts =
      if e.level = .error then some (errorJson e.code) else none := by
  have fixed : Json.member? "error_metadata" e.fixedParts = none := rfl
  have span : Json.member? "error_metadata" e.spanParts = none := by unfold spanParts; split <;> rfl
  have context : Json.member? "error_metadata" e.contextParts = none := by
    unfold contextParts
    split <;> rfl
  simp only [parts, Json.memberAppend, fixed, span, context, Option.or_none, Option.none_or]
  unfold errorParts
  split <;> rfl

theorem partsSpan (e : Event) : Json.member? "span" e.parts = e.span.map spanJson := by
  have fixed : Json.member? "span" e.fixedParts = none := rfl
  have error : Json.member? "span" e.errorParts = none := by unfold errorParts; split <;> rfl
  have context : Json.member? "span" e.contextParts = none := by unfold contextParts; split <;> rfl
  simp only [parts, Json.memberAppend, fixed, error, context, Option.or_none, Option.none_or]
  unfold spanParts
  cases e.span <;> rfl

theorem partsContext (e : Event) :
    Json.member? "context" e.parts = if e.context = [] then none else some (contextJson e.context) := by
  have fixed : Json.member? "context" e.fixedParts = none := rfl
  have error : Json.member? "context" e.errorParts = none := by unfold errorParts; split <;> rfl
  have span : Json.member? "context" e.spanParts = none := by unfold spanParts; split <;> rfl
  simp only [parts, Json.memberAppend, fixed, error, span, Option.none_or]
  unfold contextParts
  cases e.context <;> rfl

structure Tells (e : Event) (members : List (String × Json)) : Prop where
  apart : (members.map (·.1)).Nodup
  timestamp : Json.member? "timestamp" members = some (.string (stampText e.timestamp))
  level : Json.member? "level" members = some (.string e.level.text)
  code : Json.member? "code" members = some (.string e.code.text)
  message : Json.member? "message" members = some (.string e.message)
  category : Json.member? "category" members = some (.string e.code.category)
  severity : Json.member? "severity" members = some (.string e.code.severity.text)
  error : Json.member? "error_metadata" members =
    if e.level = .error then
      some (.object [("description", .string e.code.description),
        ("recommended_action", .string e.code.action), ("requires_halt", .bool e.code.requiresHalt)])
    else none
  span : Json.member? "span" members = e.span.map fun s =>
    .object [("end_column", .integer s.stop.column), ("end_line", .integer s.stop.line),
      ("start_column", .integer s.start.column), ("start_line", .integer s.start.line)]
  context : Json.member? "context" members =
    if e.context = [] then none
    else some (.object (e.context.map fun (key, value) => (key, .string value)))
  contextApart : e.context.keys.Nodup
  named : ∀ name ∈ members.map (·.1), name ∈ names

theorem tellsParts {e : Event} (sound : e.WellFormed) {members : List (String × Json)}
    (order : members.Perm e.parts) : e.Tells members := by
  have found := Json.memberReordered order e.partsApart
  exact {
    apart := (order.map _).nodup_iff.mpr e.partsApart
    timestamp := by rw [found]; rfl
    level := by rw [found]; rfl
    code := by rw [found]; rfl
    message := by rw [found]; rfl
    category := by rw [found]; rfl
    severity := by rw [found]; rfl
    error := by rw [found, partsError, errorJsonMembers]
    span := by rw [found, partsSpan, funext spanJsonMembers]
    context := by rw [found, partsContext, contextJson]
    contextApart := sound.context.imp ne_of_lt
    named := fun name member => e.partsNamed.subset ((order.map _).mem_iff.mp member) }

theorem lineReads {e : Event} (sound : e.WellFormed) :
    ∃ members, Json.parse? e.structuredLine.toList = some (.object members) ∧ e.Tells members := by
  obtain ⟨members, object, order⟩ := Json.ofMembersOrder e.partsApart
  have plain : Json.Plain (.object members) := Json.plainReordered order (partsPlain sound)
  refine ⟨members, ?_, tellsParts sound order⟩
  rw [structuredLine, Json.compactText, jsonParts, object, Json.parseWritten .compact plain]

theorem lineVisible {e : Event} (sound : e.WellFormed) :
    ∀ b ∈ Bytes.encode e.structuredLine.toList, 0x20 ≤ b.toNat := by
  obtain ⟨members, object, order⟩ := Json.ofMembersOrder e.partsApart
  have plain : Json.Plain (.object members) := Json.plainReordered order (partsPlain sound)
  have text : e.structuredLine.toList = Json.chars .compact 0 (.object members) := by
    rw [structuredLine, Json.compactText, jsonParts, object, Json.writeChars, String.toList_empty,
      List.nil_append]
  rw [text]
  exact Bytes.encodeVisible (Json.compactVisible plain 0)

end Event

theorem structuredLineTellsEvent {e : Event} (sound : e.WellFormed) :
    (∀ b ∈ Bytes.encode e.structuredLine.toList, 0x20 ≤ b.toNat) ∧
    (∃ members, Json.parse? e.structuredLine.toList = some (.object members) ∧ e.Tells members) ∧
    (∀ pairs : List (String × String), (e.withPairs pairs).WellFormed ∧
      ∀ key, (e.withPairs pairs).context.lookup key =
        (pairs.reverse.lookup key).or (e.context.lookup key)) ∧
    (∀ {pairs pairs' : List (String × String)}, (pairs.map (·.1)).Nodup → pairs.Perm pairs' →
      (e.withPairs pairs).structuredLine = (e.withPairs pairs').structuredLine) := by
  refine ⟨Event.lineVisible sound, Event.lineReads sound, fun pairs => ?_, fun apart order => ?_⟩
  · exact ⟨Event.withPairsWellFormed sound pairs, e.withPairsKeep pairs⟩
  · rw [e.withPairsOrder order apart]

def quotingError : Event :=
  ⟨0, .error, .invalidNumber, "a \"b\"\n", some .dummy, [("level", "\\"), ("line\n1", "\x7d,")]⟩

theorem quotingErrorTold :
    quotingError.WellFormed ∧
    ∃ members, Json.parse? quotingError.structuredLine.toList = some (.object members) ∧
      Json.member? "message" members = some (.string "a \"b\"\n") := by
  have sound : quotingError.WellFormed := ⟨by decide, fun s same => Option.some.inj same ▸ by decide⟩
  obtain ⟨members, read, tells⟩ := (structuredLineTellsEvent sound).2.1
  exact ⟨sound, members, read, tells.message⟩

end MathTokens
