import MathTokens.Json.Decoding
import MathTokens.Json.Parser
import MathTokens.Settings
import MathTokens.Toml.Document
/-! Settings from a document. A document gives some of the settings; the others keep their defaults. TOML
and JSON differ only in what counts as a record, a flag or a word. -/
namespace MathTokens.Settings

structure Reader (V : Type) where
  fields? : List String → V → Option (List (Option V))
  bool? : V → Option Bool
  word? : V → Option String

def tomlReader : Reader Toml := ⟨Toml.fields?, Toml.bool?, Toml.constant?⟩

def jsonReader : Reader Json := ⟨Json.fields?, Json.bool?, Json.constant?⟩

def levelOfWord? : String → Option Level
  | "error" => some .error
  | "warning" => some .warning
  | "info" => some .info
  | "debug" => some .debug
  | _ => none

def orDefault {V α : Type} (read : V → Option α) (default : α) : Option V → Option α
  | none => some default
  | some v => read v

variable {V : Type} (n : Reader V)

def Reader.files? (d : Files) (v : V) : Option Files := do
  match ← n.fields? ["require_mlang_extension", "enable_performance_logging"] v with
  | [require, log] =>
    some ⟨← orDefault n.bool? d.requireExtension require, ← orDefault n.bool? d.logPerformance log⟩
  | _ => none

def Reader.lexical? (d : Lexical) (v : V) : Option Lexical := do
  match ← n.fields? ["collect_metrics", "log_each_token", "include_position_in_errors"] v with
  | [collect, log, position] =>
    some ⟨← orDefault n.bool? d.collectMetrics collect, ← orDefault n.bool? d.logEachToken log,
      ← orDefault n.bool? d.positionInErrors position⟩
  | _ => none

def Reader.level? (v : V) : Option Level := (n.word? v).bind levelOfWord?

def Reader.logging? (d : Logging) (v : V) : Option Logging := do
  match ← n.fields? ["use_structured_logging", "enable_console_logging", "min_log_level"] v with
  | [structured, console, level] =>
    some ⟨← orDefault n.bool? d.structured structured, ← orDefault n.bool? d.console console,
      ← orDefault n.level? d.threshold level⟩
  | _ => none

def Reader.settings? (d : Settings) (v : V) : Option Settings := do
  match ← n.fields? ["file_processor", "lexical", "logging"] v with
  | [files, lexical, logging] =>
    some ⟨← orDefault (n.files? d.files) d.files files,
      ← orDefault (n.lexical? d.lexical) d.lexical lexical,
      ← orDefault (n.logging? d.logging) d.logging logging⟩
  | _ => none

def ofToml? (env : Environment) (cs : List Char) : Option Settings :=
  (Toml.parse? cs).bind (tomlReader.settings? (ofEnvironment env))

def ofJson? (env : Environment) (cs : List Char) : Option Settings :=
  (Json.parse? cs).bind (jsonReader.settings? (ofEnvironment env))

end MathTokens.Settings
