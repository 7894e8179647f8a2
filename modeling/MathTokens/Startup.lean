import MathTokens.Settings
import MathTokens.Text.Characters
/-! What happens before the first token: checks on the limits and on the registry of codes, the events
that announce them, and texts that describe the build and the log. -/
namespace MathTokens

structure BuildInfo where
  version : String
  directory : String
  profile : String
  deriving DecidableEq, Repr

namespace BuildInfo

def development : BuildInfo := ⟨"0.1.0", "config", "development"⟩

def sourceInfo (b : BuildInfo) : String :=
  "Generated from " ++ b.directory ++ "/" ++ b.profile ++ ".toml"

end BuildInfo

inductive StartupError where
  | bufferTooLarge (events : Nat)
  | messageTooShort (bytes : Nat)
  | alreadyInitialized
  | undescribed (code : Code)
  | unregistered (area : String) (code : Code)
  | zeroLimit
  deriving DecidableEq, Repr

def StartupError.message : StartupError → String
  | .bufferTooLarge n => s!"Configuration validation failed: Log buffer size too large: {n}"
  | .messageTooShort n => s!"Configuration validation failed: Max log message length too small: {n}"
  | .alreadyInitialized => "Global logger already initialized"
  | .undescribed code => "Missing metadata for error code: " ++ code.text
  | .unregistered area code => area ++ " error code " ++ code.text ++ " not found in metadata registry"
  | .zeroLimit => "Lexical limits must be non-zero"

namespace Startup

def checkLogging (l : Limits.Logging) : Except StartupError Unit :=
  if 100000 < l.bufferedEvents then .error (.bufferTooLarge l.bufferedEvents)
  else if l.messageLength < 64 then .error (.messageTooShort l.messageLength)
  else .ok ()

def requiredCodes : List Code :=
  [.internalError, .fileNotFound, .unexpectedCharacter, .tooManyTokens]

def checkDescribed (codes : List Code) : Except StartupError Unit :=
  match codes.find? (·.description == "Unknown error") with
  | some code => .error (.undescribed code)
  | none => .ok ()

def fileCodes : List Code :=
  [.fileNotFound, .invalidExtension, .fileTooLarge, .invalidEncoding, .ioError, .invalidPath]

def lexicalCodes : List Code :=
  [.unexpectedCharacter, .unterminatedString, .invalidNumber, .nameTooLong, .stringTooLarge,
    .unbalancedQuotes, .tooManyTokens]

def checkRegistered (area : String) (codes : List Code) : Except StartupError Unit :=
  match codes.find? (·.record?.isNone) with
  | some code => .error (.unregistered area code)
  | none => .ok ()

def checkLexical (l : Limits.Lexical) : Except StartupError Unit :=
  if l.tokenCount = 0 ∨ l.nameLength = 0 ∨ l.numberLength = 0 then .error .zeroLimit else .ok ()

def initLogging (limits : Limits) (initialized : Bool) : Except StartupError (List Event) := do
  checkLogging limits.logging
  if initialized then .error .alreadyInitialized
  checkDescribed requiredCodes
  .ok [.success limits.logging .systemInitialized "Global logging system initialized"]

def initFiles (limits : Limits) : Except StartupError (List Event) := do
  checkRegistered "File processor" fileCodes
  .ok [(Event.debug limits.logging "File processor compile-time configuration loaded").withPairs
    [("max_file_size", toString limits.files.fileSize),
      ("max_line_count", toString limits.files.lineCount)]]

def initLexical (limits : Limits) : Except StartupError (List Event) := do
  checkRegistered "Lexical" lexicalCodes
  checkLexical limits.lexical
  .ok [(Event.debug limits.logging "Lexical limits initialized").withPairs
    [("max_token_count", toString limits.lexical.tokenCount),
      ("max_name_length", toString limits.lexical.nameLength),
      ("max_string_size", toString limits.lexical.stringSize),
      ("max_number_length", toString limits.lexical.numberLength)]]

def all (limits : Limits) : Except StartupError (List Event) := do
  .ok ((← initLogging limits false) ++ (← initFiles limits) ++ (← initLexical limits))

def levelTitle : Level → String
  | .error => "Error"
  | .warning => "Warning"
  | .info => "Info"
  | .debug => "Debug"

def summary (l : Limits.Logging) (s : Settings.Logging) : String :=
  s!"Logging Configuration:\n=== Compile-time ===\n- Log buffer size: {l.bufferedEvents}\n"
    ++ s!"- Max message length: {l.messageLength}\n=== Runtime ===\n"
    ++ s!"- Min log level: {levelTitle s.threshold}\n- Structured logging: {s.structured}\n"
    ++ s!"- Console logging: {s.console}"

def diagnostics (l : Limits.Logging) (s : Settings.Logging) (threshold : Option Level) : String :=
  s!"=== Logging System Diagnostics ===\nInitialized: {threshold.isSome}\n"
    ++ (match threshold with
      | some level => "Active level: " ++ level.text ++ "\n"
      | none => "")
    ++ "\n" ++ summary l s

end Startup
end MathTokens
