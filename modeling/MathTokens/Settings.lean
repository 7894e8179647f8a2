import MathTokens.Event
import MathTokens.Json.Value
/-! What a user may tune without rebuilding. Every setting has a default, which an environment variable
may change; a document read later goes before both. -/
namespace MathTokens

structure Settings.Files where
  requireExtension : Bool
  logPerformance : Bool
  deriving DecidableEq, Repr

structure Settings.Lexical where
  collectMetrics : Bool
  logEachToken : Bool
  positionInErrors : Bool
  deriving DecidableEq, Repr

structure Settings.Logging where
  structured : Bool
  console : Bool
  threshold : Level
  deriving DecidableEq, Repr

structure Settings where
  files : Settings.Files
  lexical : Settings.Lexical
  logging : Settings.Logging
  deriving DecidableEq, Repr

abbrev Environment := List (String × String)

namespace Environment

def get? (env : Environment) (name : String) : Option String :=
  (env.find? (·.1 == name)).map (·.2)

def flag (env : Environment) (name : String) (default : Bool) : Bool :=
  match env.get? name with
  | some "true" => true
  | some "false" => false
  | _ => default

end Environment

/-- A level by name in any letter case, or by number. ASCII letters are enough: no letter of these words
is the lower case of one outside ASCII. -/
def Level.ofName? (name : String) : Option Level :=
  match String.ofList (name.toList.map Char.toLower) with
  | "error" | "0" => some .error
  | "warning" | "warn" | "1" => some .warning
  | "info" | "2" => some .info
  | "debug" | "3" => some .debug
  | _ => none

namespace Settings

def variableNames : List String :=
  ["MATHLANG_REQUIRE_MLANG_EXTENSION", "MATHLANG_ENABLE_PERFORMANCE_LOGGING",
    "MATHLANG_LEXICAL_COLLECT_METRICS", "MATHLANG_LEXICAL_LOG_EACH_TOKEN",
    "MATHLANG_LEXICAL_INCLUDE_POSITIONS", "MATHLANG_LOGGING_USE_STRUCTURED",
    "MATHLANG_LOGGING_ENABLE_CONSOLE", "MATHLANG_LOGGING_MIN_LEVEL"]

def Files.ofEnvironment (env : Environment) : Files :=
  ⟨env.flag "MATHLANG_REQUIRE_MLANG_EXTENSION" false,
    env.flag "MATHLANG_ENABLE_PERFORMANCE_LOGGING" true⟩

def Lexical.ofEnvironment (env : Environment) : Lexical :=
  ⟨env.flag "MATHLANG_LEXICAL_COLLECT_METRICS" true, env.flag "MATHLANG_LEXICAL_LOG_EACH_TOKEN" false,
    env.flag "MATHLANG_LEXICAL_INCLUDE_POSITIONS" true⟩

def Logging.ofEnvironment (env : Environment) : Logging :=
  ⟨env.flag "MATHLANG_LOGGING_USE_STRUCTURED" false, env.flag "MATHLANG_LOGGING_ENABLE_CONSOLE" false,
    ((env.get? "MATHLANG_LOGGING_MIN_LEVEL").bind Level.ofName?).getD .info⟩

def ofEnvironment (env : Environment) : Settings :=
  ⟨.ofEnvironment env, .ofEnvironment env, .ofEnvironment env⟩

def Logging.effectiveThreshold (l : Logging) : Level := if l.console then l.threshold else .error

def levelWord : Level → String
  | .error => "error"
  | .warning => "warning"
  | .info => "info"
  | .debug => "debug"

def Files.json (s : Files) : Json :=
  .object [("require_mlang_extension", .bool s.requireExtension),
    ("enable_performance_logging", .bool s.logPerformance)]

def Lexical.json (s : Lexical) : Json :=
  .object [("collect_metrics", .bool s.collectMetrics), ("log_each_token", .bool s.logEachToken),
    ("include_position_in_errors", .bool s.positionInErrors)]

def Logging.json (s : Logging) : Json :=
  .object [("use_structured_logging", .bool s.structured), ("enable_console_logging", .bool s.console),
    ("min_log_level", .string (levelWord s.threshold))]

def json (s : Settings) : Json :=
  .object [("file_processor", s.files.json), ("lexical", s.lexical.json), ("logging", s.logging.json)]

end Settings
end MathTokens
