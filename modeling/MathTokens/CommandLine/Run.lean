import MathTokens.CommandLine.Listing
import MathTokens.CommandLine.Options
import MathTokens.File.Intake
import MathTokens.Settings.Document
import MathTokens.Startup
/-! The program as a function of its arguments and of what it finds outside: variables, files and clocks.
It answers with a status, what goes to the output and what goes to the error output. -/
namespace MathTokens.CommandLine

structure Exit where
  status : Nat
  output : String
  errors : String
  deriving DecidableEq, Repr

structure World where
  program : String
  environment : Environment
  find : String → Found
  now : Int
  readElapsed : Nat

def usage (program : String) (e : UsageError) : Exit :=
  ⟨2, "", "Error: " ++ e.message ++ "\nUsage: " ++ program ++ " <input.mlang> [--json] [--spans]\n       "
    ++ program ++ " --help\n"⟩

def helpText (limits : Limits) (build : BuildInfo) (program : String) : String :=
  "MathLang Lexer v" ++ build.version
    ++ "\nTokenizes MathLang source into names, numbers, strings and symbols\n\nUSAGE:\n    " ++ program
    ++ " <input.mlang> [options]\n    " ++ program ++ " --expr \"<source>\" [options]\n\nOPTIONS:\n"
    ++ "    --help              Show this help message\n"
    ++ "    --expr <source>     Tokenize the given text instead of a file\n"
    ++ "    --json              Print the token stream as a JSON array\n"
    ++ "    --spans             Include line:column spans in the output\n"
    ++ "    --config <file>     Load runtime preferences from a TOML file\n\nBUILD CONFIGURATION:\n    "
    ++ build.sourceInfo
    ++ s!"\n    Max file size: {limits.files.fileSize} bytes, max tokens: {limits.lexical.tokenCount}"
    ++ "\n\nEXAMPLES:\n    " ++ program ++ " area.mlang --spans\n    " ++ program
    ++ " --expr 'x = \"hi\" + 3' --json\n"

inductive ConfigError where
  | missing (path : String)
  | directory (path : String)
  | encoding (path : String)
  | malformed
  deriving DecidableEq, Repr

def ConfigError.message : ConfigError → String
  | .missing path => about path
      "Os \x7b code: 2, kind: NotFound, message: \"No such file or directory\" \x7d"
  | .directory path => about path "Os \x7b code: 21, kind: IsADirectory, message: \"Is a directory\" \x7d"
  | .encoding path => about path
      "Error \x7b kind: InvalidData, message: \"stream did not contain valid UTF-8\" \x7d"
  | .malformed => "Parse"
where
  about (path source : String) : String :=
    "Io \x7b path: " ++ Text.inspect path ++ ", source: " ++ source ++ " \x7d"

def loadSettings (w : World) (path : String) : Except ConfigError Settings :=
  match w.find path with
  | .nothing => .error (.missing path)
  | .notAFile => .error (.directory path)
  | .file _ _ bytes =>
    match String.fromUTF8? bytes with
    | none => .error (.encoding path)
    | some document =>
      match Settings.ofToml? w.environment document.toList with
      | none => .error .malformed
      | some settings => .ok settings

def logText (s : Settings.Logging) (now : Int) (events : List Event) : String :=
  (events.filter fun e => e.level.within s.effectiveThreshold).foldl (fun out e =>
    let e := e.stamped now
    out ++ (if s.structured then e.structuredLine else e.line) ++ "\n") ""

def fileReport (e : FileError) : String :=
  "File processing failed:\n  " ++ e.message ++ "\n  [" ++ e.code.text ++ "] " ++ e.code.action ++ "\n"

structure Job where
  limits : Limits
  options : Options
  settings : Settings
  now : Int
  source : List Char
  events : List Event

inductive Start where
  | finished (exit : Exit)
  | ready (job : Job)

def readInput (limits : Limits) (settings : Settings.Files) (w : World) :
    Input → Outcome FileError String
  | .expression source => ⟨.ok source, []⟩
  | .file path =>
    let outcome := Intake.run limits settings w.readElapsed path (w.find path)
    ⟨outcome.result.map (·.source), outcome.events⟩

def launch (limits : Limits) (w : World) (options : Options) (input : Input) (settings : Settings) :
    Start :=
  match Startup.all limits with
  | .error e => .finished ⟨1, "", "Error: " ++ Text.inspect e.message ++ "\n"⟩
  | .ok started =>
    let read := readInput limits settings.files w input
    let events := started ++ read.events
    match read.result with
    | .error e => .finished ⟨1, "", logText settings.logging w.now events ++ fileReport e⟩
    | .ok source => .ready ⟨limits, options, settings, w.now, source.toList, events⟩

def start (limits : Limits) (build : BuildInfo) (w : World) (args : List String) : Start :=
  match Options.parse args with
  | .error e => .finished (usage w.program e)
  | .ok options =>
    if options.help then .finished ⟨0, helpText limits build w.program, ""⟩
    else
      let settings := match options.config with
        | some path => loadSettings w path
        | none => .ok (.ofEnvironment w.environment)
      match settings, options.input with
      | .error e, _ => .finished ⟨1, "", "Error: " ++ e.message ++ "\n"⟩
      | .ok settings, some input => launch limits w options input settings
      | .ok _, none => .finished (usage w.program .noInput)

def Job.scan (job : Job) : Pass.Scan := Pass.scan job.limits job.settings.lexical job.source

def Job.finish (job : Job) (elapsed : Nat) (scan : Pass.Scan) : Exit :=
  let outcome := Pass.conclude job.limits elapsed job.source scan
  let log := logText job.settings.logging job.now (job.events ++ outcome.events)
  match outcome.result with
  | .ok tape => ⟨0, listing job.options.json job.options.spans tape.tokens.toList, log⟩
  | .error e => ⟨1, "", log ++ failureReport job.source e⟩

def run (limits : Limits) (build : BuildInfo) (w : World) (elapsed : Nat) (args : List String) : Exit :=
  match start limits build w args with
  | .finished exit => exit
  | .ready job => job.finish elapsed job.scan

end MathTokens.CommandLine
