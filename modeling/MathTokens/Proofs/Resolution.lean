import MathTokens.Proofs.LetterCase
import MathTokens.Settings.Document

/-! Where each setting comes from: the document, or else its variable, or else the default built in. The
tables of a document may be given or not, and any of their keys. -/
namespace MathTokens

inductive Settles {α : Type} (reads : String → α → Prop) (named : Option String) (default : α)
    (told : Option (Option α)) : α → Prop
  | told {x : α} (gives : told = some (some x)) : Settles reads named default told x
  | named {x : α} {word : String} (silent : told = none) (found : named = some word)
      (fits : reads word x) : Settles reads named default told x
  | default (silent : told = none) (none : ∀ word x, named = some word → ¬reads word x) :
      Settles reads named default told default

namespace Settings

structure Flag where
  table : String
  key : String
  name : String
  default : Bool
  get : Settings → Bool

def flags : List Flag := [
  ⟨"file_processor", "require_mlang_extension", "MATHLANG_REQUIRE_MLANG_EXTENSION", false,
    (·.files.requireExtension)⟩,
  ⟨"file_processor", "enable_performance_logging", "MATHLANG_ENABLE_PERFORMANCE_LOGGING", true,
    (·.files.logPerformance)⟩,
  ⟨"lexical", "collect_metrics", "MATHLANG_LEXICAL_COLLECT_METRICS", true, (·.lexical.collectMetrics)⟩,
  ⟨"lexical", "log_each_token", "MATHLANG_LEXICAL_LOG_EACH_TOKEN", false, (·.lexical.logEachToken)⟩,
  ⟨"lexical", "include_position_in_errors", "MATHLANG_LEXICAL_INCLUDE_POSITIONS", true,
    (·.lexical.positionInErrors)⟩,
  ⟨"logging", "use_structured_logging", "MATHLANG_LOGGING_USE_STRUCTURED", false, (·.logging.structured)⟩,
  ⟨"logging", "enable_console_logging", "MATHLANG_LOGGING_ENABLE_CONSOLE", false, (·.logging.console)⟩]

def tables : List String := ["file_processor", "lexical", "logging"]

theorem flagsWhole {s s' : Settings} (same : ∀ f ∈ flags, f.get s = f.get s')
    (level : s.logging.threshold = s'.logging.threshold) : s = s' := by
  obtain ⟨⟨_, _⟩, ⟨_, _, _⟩, ⟨_, _, _⟩⟩ := s
  obtain ⟨⟨_, _⟩, ⟨_, _, _⟩, ⟨_, _, _⟩⟩ := s'
  simp only [flags, List.forall_mem_cons, List.not_mem_nil, false_implies, implies_true, and_true]
    at same level
  obtain ⟨rfl, rfl, rfl, rfl, rfl, rfl, rfl⟩ := same
  rw [level]

def flagWord (b : Bool) : String := if b then "true" else "false"

theorem flagSettled (env : Environment) (name : String) (default : Bool) :
    Settles (fun word b => word = flagWord b) (env.get? name) default none (env.flag name default) := by
  rw [Environment.flag]
  split
  · next named => exact .named rfl named rfl
  · next named => exact .named rfl named rfl
  · next on off =>
    refine .default rfl fun word b named same => ?_
    cases b with
    | true => exact on (named.trans (congrArg some same))
    | false => exact off (named.trans (congrArg some same))

theorem flagDefaults (env : Environment) :
    ∀ f ∈ flags, f.get (ofEnvironment env) = env.flag f.name f.default := by
  simp only [flags, List.forall_mem_cons, List.not_mem_nil, false_implies, implies_true, and_true]
  exact ⟨rfl, rfl, rfl, rfl, rfl, rfl, rfl⟩

def levelName : String := "MATHLANG_LOGGING_MIN_LEVEL"

theorem levelSettled (env : Environment) :
    Settles (fun word level => Text.lowercase word ∈ Level.words level) (env.get? levelName) .info none
      (ofEnvironment env).logging.threshold := by
  change Settles _ (env.get? levelName) .info none (((env.get? levelName).bind Level.ofName?).getD .info)
  cases named : env.get? levelName with
  | none => exact .default rfl (by simp)
  | some word =>
    rw [Option.bind_some]
    cases read : Level.ofName? word with
    | some level => exact .named rfl rfl ((Level.ofNameIff word level).mp read)
    | none =>
      refine .default rfl fun word' level same fits => ?_
      cases same
      rw [(Level.ofNameIff word level).mpr fits] at read
      cases read

/-! A notation: how its text and its records are read. A record that is no array has its fields by name. -/

structure Language (V : Type) where
  reader : Reader V
  parse? : List Char → Option V
  field? : String → V → Option V
  isArray : V → Bool
  byName : ∀ {names : List String} {v : V} {fields : List (Option V)}, isArray v = false →
    reader.fields? names v = some fields → fields = names.map (field? · v)

namespace Language

variable {V : Type} (d : Language V)

def read? (env : Environment) (cs : List Char) : Option Settings :=
  (d.parse? cs).bind (d.reader.settings? (ofEnvironment env))

def given? (v : V) (table key : String) : Option V := (d.field? table v).bind (d.field? key)

structure Tabular (v : V) : Prop where
  whole : d.isArray v = false
  inner : ∀ table ∈ tables, ∀ v', d.field? table v = some v' → d.isArray v' = false

variable {d} {v : V}

theorem filesSource {start s : Files} (named : d.isArray v = false)
    (read : d.reader.files? start v = some s) :
    orDefault d.reader.bool? start.requireExtension (d.field? "require_mlang_extension" v) =
      some s.requireExtension ∧
    orDefault d.reader.bool? start.logPerformance (d.field? "enable_performance_logging" v) =
      some s.logPerformance := by
  simp only [Reader.files?, bind, Option.bind_eq_some_iff] at read
  obtain ⟨fields, found, read⟩ := read
  obtain rfl := d.byName named found
  simp only [List.map_cons, List.map_nil, Option.bind_eq_some_iff] at read
  obtain ⟨require, first, log, second, last⟩ := read
  cases Option.some.inj last
  exact ⟨first, second⟩

theorem lexicalSource {start s : Lexical} (named : d.isArray v = false)
    (read : d.reader.lexical? start v = some s) :
    orDefault d.reader.bool? start.collectMetrics (d.field? "collect_metrics" v) = some s.collectMetrics ∧
    orDefault d.reader.bool? start.logEachToken (d.field? "log_each_token" v) = some s.logEachToken ∧
    orDefault d.reader.bool? start.positionInErrors (d.field? "include_position_in_errors" v) =
      some s.positionInErrors := by
  simp only [Reader.lexical?, bind, Option.bind_eq_some_iff] at read
  obtain ⟨fields, found, read⟩ := read
  obtain rfl := d.byName named found
  simp only [List.map_cons, List.map_nil, Option.bind_eq_some_iff] at read
  obtain ⟨collect, first, log, second, position, third, last⟩ := read
  cases Option.some.inj last
  exact ⟨first, second, third⟩

theorem loggingSource {start s : Logging} (named : d.isArray v = false)
    (read : d.reader.logging? start v = some s) :
    orDefault d.reader.bool? start.structured (d.field? "use_structured_logging" v) = some s.structured ∧
    orDefault d.reader.bool? start.console (d.field? "enable_console_logging" v) = some s.console ∧
    orDefault d.reader.level? start.threshold (d.field? "min_log_level" v) = some s.threshold := by
  simp only [Reader.logging?, bind, Option.bind_eq_some_iff] at read
  obtain ⟨fields, found, read⟩ := read
  obtain rfl := d.byName named found
  simp only [List.map_cons, List.map_nil, Option.bind_eq_some_iff] at read
  obtain ⟨structured, first, console, second, level, third, last⟩ := read
  cases Option.some.inj last
  exact ⟨first, second, third⟩

theorem settingsSource {start s : Settings} (named : d.isArray v = false)
    (read : d.reader.settings? start v = some s) :
    orDefault (d.reader.files? start.files) start.files (d.field? "file_processor" v) = some s.files ∧
    orDefault (d.reader.lexical? start.lexical) start.lexical (d.field? "lexical" v) = some s.lexical ∧
    orDefault (d.reader.logging? start.logging) start.logging (d.field? "logging" v) = some s.logging := by
  simp only [Reader.settings?, bind, Option.bind_eq_some_iff] at read
  obtain ⟨fields, found, read⟩ := read
  obtain rfl := d.byName named found
  simp only [List.map_cons, List.map_nil, Option.bind_eq_some_iff] at read
  obtain ⟨files, first, lexical, second, logging, third, last⟩ := read
  cases Option.some.inj last
  exact ⟨first, second, third⟩

theorem keySource {P α : Type} {part? : V → Option P} {start s : P} {table key : String} {get : P → α}
    {readKey : V → Option α} (read : orDefault part? start (d.field? table v) = some s)
    (source : ∀ v', d.field? table v = some v' → part? v' = some s →
      orDefault readKey (get start) (d.field? key v') = some (get s)) :
    orDefault readKey (get start) (d.given? v table key) = some (get s) := by
  rw [given?]
  cases found : d.field? table v with
  | none =>
    rw [found] at read
    cases read
    rfl
  | some v' =>
    rw [found] at read
    exact source v' found read

theorem flagSource {start s : Settings} (tabular : d.Tabular v)
    (read : d.reader.settings? start v = some s) :
    ∀ f ∈ flags, orDefault d.reader.bool? (f.get start) (d.given? v f.table f.key) = some (f.get s) := by
  obtain ⟨files, lexical, logging⟩ := settingsSource tabular.whole read
  have inner (table : String) (one : table ∈ tables) {v' : V} (found : d.field? table v = some v') :
    d.isArray v' = false := tabular.inner table one v' found
  simp only [flags, List.forall_mem_cons, List.not_mem_nil, false_implies, implies_true, and_true]
  exact ⟨keySource files fun v' found read => (filesSource (inner _ (by decide) found) read).1,
    keySource files fun v' found read => (filesSource (inner _ (by decide) found) read).2,
    keySource lexical fun v' found read => (lexicalSource (inner _ (by decide) found) read).1,
    keySource lexical fun v' found read => (lexicalSource (inner _ (by decide) found) read).2.1,
    keySource lexical fun v' found read => (lexicalSource (inner _ (by decide) found) read).2.2,
    keySource logging fun v' found read => (loggingSource (inner _ (by decide) found) read).1,
    keySource logging fun v' found read => (loggingSource (inner _ (by decide) found) read).2.1⟩

theorem levelSource {start s : Settings} (tabular : d.Tabular v)
    (read : d.reader.settings? start v = some s) :
    orDefault d.reader.level? start.logging.threshold (d.given? v "logging" "min_log_level") =
      some s.logging.threshold :=
  keySource (settingsSource tabular.whole read).2.2 fun v' found read =>
    (loggingSource (tabular.inner "logging" (by decide) v' found) read).2.2

end Language

/-! Whether a document can be read does not depend on the defaults. -/

theorem orDefaultSome {V α : Type} (read : V → Option α) (default : α) (given : Option V) :
    (orDefault read default given).isSome = given.all fun v => (read v).isSome := by
  cases given <;> rfl

theorem anyConstant {α : Type} (o : Option α) (b : Bool) : o.any (fun _ => b) = (o.isSome && b) := by
  cases o <;> simp

section
variable {V : Type} (n : Reader V) (v : V)

theorem filesParse (start start' : Files) : (n.files? start v).isSome = (n.files? start' v).isSome := by
  unfold Reader.files?
  cases n.fields? _ v with
  | none => rfl
  | some fields =>
    simp only [bind, Option.bind_some]
    split <;> simp only [Option.isSome_bind, anyConstant, orDefaultSome, Option.isSome_some]

theorem lexicalParse (start start' : Lexical) :
    (n.lexical? start v).isSome = (n.lexical? start' v).isSome := by
  unfold Reader.lexical?
  cases n.fields? _ v with
  | none => rfl
  | some fields =>
    simp only [bind, Option.bind_some]
    split <;> simp only [Option.isSome_bind, anyConstant, orDefaultSome, Option.isSome_some]

theorem loggingParse (start start' : Logging) :
    (n.logging? start v).isSome = (n.logging? start' v).isSome := by
  unfold Reader.logging?
  cases n.fields? _ v with
  | none => rfl
  | some fields =>
    simp only [bind, Option.bind_some]
    split <;> simp only [Option.isSome_bind, anyConstant, orDefaultSome, Option.isSome_some]

theorem settingsParse (start start' : Settings) :
    (n.settings? start v).isSome = (n.settings? start' v).isSome := by
  unfold Reader.settings?
  cases n.fields? _ v with
  | none => rfl
  | some fields =>
    simp only [bind, Option.bind_some]
    split
    · simp only [Option.isSome_bind, anyConstant, orDefaultSome, Option.isSome_some,
        filesParse n _ start.files start'.files, lexicalParse n _ start.lexical start'.lexical,
        loggingParse n _ start.logging start'.logging]
    · rfl

end

/-! What can be read -/

def flagKeys (table : String) : List String := (flags.filter (·.table == table)).map (·.key)

def levelKeys (table : String) : List String := if table = "logging" then ["min_log_level"] else []

namespace Language

variable {V : Type} (d : Language V)

structure LegibleTable (table : String) (v : V) : Prop where
  record : (d.reader.fields? (flagKeys table ++ levelKeys table) v).isSome
  flags : ∀ key ∈ flagKeys table, ∀ x, d.field? key v = some x → (d.reader.bool? x).isSome
  level : ∀ key ∈ levelKeys table, ∀ x, d.field? key v = some x → (d.reader.level? x).isSome

structure Legible (v : V) : Prop where
  record : (d.reader.fields? tables v).isSome
  inner : ∀ table ∈ tables, ∀ v', d.field? table v = some v' → d.LegibleTable table v'

variable {d} {v : V}

theorem legibleIff (table : String) : d.LegibleTable table v ↔
    (d.reader.fields? (flagKeys table ++ levelKeys table) v).isSome ∧
    (∀ key ∈ flagKeys table, ∀ x, d.field? key v = some x → (d.reader.bool? x).isSome) ∧
    (∀ key ∈ levelKeys table, ∀ x, d.field? key v = some x → (d.reader.level? x).isSome) :=
  ⟨fun legible => ⟨legible.record, legible.flags, legible.level⟩,
    fun ⟨record, flags, level⟩ => ⟨record, flags, level⟩⟩

theorem filesLegible (start : Files) (named : d.isArray v = false) :
    (d.reader.files? start v).isSome ↔ d.LegibleTable "file_processor" v := by
  have flags : flagKeys "file_processor" = ["require_mlang_extension", "enable_performance_logging"] := rfl
  have level : levelKeys "file_processor" = [] := rfl
  rw [legibleIff, flags, level]
  unfold Reader.files?
  cases found : d.reader.fields? _ v with
  | none => simp [found]
  | some fields =>
    obtain rfl := d.byName named found
    simp [found, orDefaultSome, anyConstant, Option.isSome_bind, Option.all_eq_true]

theorem lexicalLegible (start : Lexical) (named : d.isArray v = false) :
    (d.reader.lexical? start v).isSome ↔ d.LegibleTable "lexical" v := by
  have flags : flagKeys "lexical" =
      ["collect_metrics", "log_each_token", "include_position_in_errors"] := rfl
  have level : levelKeys "lexical" = [] := rfl
  rw [legibleIff, flags, level]
  unfold Reader.lexical?
  cases found : d.reader.fields? _ v with
  | none => simp [found]
  | some fields =>
    obtain rfl := d.byName named found
    simp [found, orDefaultSome, anyConstant, Option.isSome_bind, Option.all_eq_true]

theorem loggingLegible (start : Logging) (named : d.isArray v = false) :
    (d.reader.logging? start v).isSome ↔ d.LegibleTable "logging" v := by
  have flags : flagKeys "logging" = ["use_structured_logging", "enable_console_logging"] := rfl
  have level : levelKeys "logging" = ["min_log_level"] := rfl
  rw [legibleIff, flags, level]
  unfold Reader.logging?
  cases found : d.reader.fields? _ v with
  | none => simp [found]
  | some fields =>
    obtain rfl := d.byName named found
    simp [found, orDefaultSome, anyConstant, Option.isSome_bind, Option.all_eq_true, and_assoc]

theorem settingsLegible (start : Settings) (tabular : d.Tabular v) :
    (d.reader.settings? start v).isSome ↔ d.Legible v := by
  have legible : d.Legible v ↔ (d.reader.fields? tables v).isSome ∧
      ∀ table ∈ tables, ∀ v', d.field? table v = some v' → d.LegibleTable table v' :=
    ⟨fun legible => ⟨legible.record, legible.inner⟩, fun ⟨record, inner⟩ => ⟨record, inner⟩⟩
  have inner := tabular.inner
  rw [legible]
  unfold Reader.settings?
  simp only [tables, List.forall_mem_cons, List.not_mem_nil, false_implies, implies_true, and_true]
    at inner ⊢
  obtain ⟨files, lexical, logging⟩ := inner
  cases found : d.reader.fields? _ v with
  | none => simp
  | some fields =>
    obtain rfl := d.byName tabular.whole found
    simp only [bind, Option.bind_some, List.map_cons, List.map_nil, Option.isSome_bind, anyConstant,
      orDefaultSome, Option.isSome_some, Bool.and_true, Bool.and_eq_true, Option.all_eq_true, true_and]
    -- the three tables one by one, each legible by its own keys
    refine and_congr ?_ (and_congr ?_ ?_)
    · exact forall_congr' fun v' => imp_congr_right fun given => filesLegible start.files (files v' given)
    · exact forall_congr' fun v' => imp_congr_right fun given => lexicalLegible start.lexical (lexical v' given)
    · exact forall_congr' fun v' => imp_congr_right fun given => loggingLegible start.logging (logging v' given)

end Language

/-! Both notations -/

def tomlLanguage : Language Toml where
  reader := tomlReader
  parse? := Toml.parse?
  field? name v := match v with
    | .table entries => Toml.find? name entries
    | _ => none
  isArray v := match v with
    | .array _ => true
    | _ => false
  byName {names v fields} named read := by
    cases v with
    | table entries => exact (Option.some.inj read).symm
    | moment => exact (Option.some.inj read).symm
    | array items => cases named
    | _ => cases read

def jsonLanguage : Language Json where
  reader := jsonReader
  parse? := Json.parse?
  field? name v := match v with
    | .object members => Json.member? name members
    | _ => none
  isArray v := match v with
    | .array _ => true
    | _ => false
  byName {names v fields} named read := by
    cases v with
    | object members =>
      simp only [jsonReader, Json.fields?] at read
      split at read
      · exact (Option.some.inj read).symm
      · cases read
    | array items => cases named
    | _ => cases read

namespace Language

variable {V : Type} (d : Language V)

def told? {α : Type} (readKey : V → Option α) (cs : List Char) (table key : String) : Option (Option α) :=
  ((d.parse? cs).bind (d.given? · table key)).map readKey

def ObjectForm (cs : List Char) : Prop := ∀ v, d.parse? cs = some v → d.Tabular v

structure Resolved (env : Environment) (cs : List Char) (s : Settings) : Prop where
  each : ∀ f ∈ flags, Settles (fun word b => word = flagWord b) (env.get? f.name) f.default
    (d.told? d.reader.bool? cs f.table f.key) (f.get s)
  level : Settles (fun word level => Text.lowercase word ∈ Level.words level) (env.get? levelName) .info
    (d.told? d.reader.level? cs "logging" "min_log_level") s.logging.threshold

structure SameTold (cs : List Char) (s s' : Settings) : Prop where
  each : ∀ f ∈ flags, f.get s ≠ f.get s' → d.told? d.reader.bool? cs f.table f.key = none
  level : s.logging.threshold ≠ s'.logging.threshold →
    d.told? d.reader.level? cs "logging" "min_log_level" = none

variable {d} {env env' : Environment} {cs : List Char} {s s' : Settings}

theorem settlesTaken {α : Type} {reads : String → α → Prop} {named : Option String} {default start x : α}
    {readKey : V → Option α} {given : Option V} (missing : Settles reads named default none start)
    (taken : orDefault readKey start given = some x) :
    Settles reads named default (given.map readKey) x := by
  cases given with
  | none =>
    cases taken
    exact missing
  | some v => exact .told (congrArg some taken)

theorem resolved (read : d.read? env cs = some s) (tabular : d.ObjectForm cs) : d.Resolved env cs s := by
  obtain ⟨v, parsed, read⟩ := Option.bind_eq_some_iff.mp read
  have table := tabular v parsed
  refine ⟨fun f one => ?_, ?_⟩
  · have taken := flagSource table read f one
    rw [flagDefaults env f one] at taken
    rw [told?, parsed, Option.bind_some]
    exact settlesTaken (flagSettled env f.name f.default) taken
  · rw [told?, parsed, Option.bind_some]
    exact settlesTaken (levelSettled env) (levelSource table read)

theorem takenSame {α : Type} {start start' x x' : α} {readKey : V → Option α} {given : Option V}
    (taken : orDefault readKey start given = some x) (taken' : orDefault readKey start' given = some x')
    (differ : x ≠ x') : given.map readKey = none := by
  cases given with
  | none => rfl
  | some v => exact absurd (Option.some.inj (taken.symm.trans taken')) differ

theorem sameTold (read : d.read? env cs = some s) (read' : d.read? env' cs = some s')
    (tabular : d.ObjectForm cs) : d.SameTold cs s s' := by
  obtain ⟨v, parsed, read⟩ := Option.bind_eq_some_iff.mp read
  obtain ⟨v', parsed', read'⟩ := Option.bind_eq_some_iff.mp read'
  rw [parsed] at parsed'
  cases parsed'
  have table := tabular v parsed
  refine ⟨fun f one differ => ?_, fun differ => ?_⟩
  · rw [told?, parsed, Option.bind_some]
    exact takenSame (flagSource table read f one) (flagSource table read' f one) differ
  · rw [told?, parsed, Option.bind_some]
    exact takenSame (levelSource table read) (levelSource table read') differ

/- An array has its fields by place, so this is told of tables only. -/
theorem parsesIff (env : Environment) (tabular : d.ObjectForm cs) :
    (d.read? env cs).isSome ↔ ∃ v, d.parse? cs = some v ∧ d.Legible v := by
  unfold read?
  cases parsed : d.parse? cs with
  | none => simp
  | some v =>
    rw [Option.bind_some, settingsLegible (ofEnvironment env) (tabular v parsed)]
    simp

variable (d) in
theorem parsesAlike (env env' : Environment) (cs : List Char) :
    (d.read? env cs).isSome = (d.read? env' cs).isSome := by
  unfold read?
  cases d.parse? cs with
  | none => rfl
  | some v => exact settingsParse d.reader v _ _

end Language
end Settings
end MathTokens
