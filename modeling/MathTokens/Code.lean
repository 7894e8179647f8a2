/-! Codes that name what happened, and what is known about the codes of errors. -/
namespace MathTokens

structure Code where
  text : String
  deriving DecidableEq, Repr

inductive Severity where
  | critical | high | medium | low
  deriving DecidableEq, Repr

namespace Severity

def rank : Severity → Nat
  | .critical => 0
  | .high => 1
  | .medium => 2
  | .low => 3

def text : Severity → String
  | .critical => "Critical"
  | .high => "High"
  | .medium => "Medium"
  | .low => "Low"

end Severity

structure CodeRecord where
  code : Code
  category : String
  severity : Severity
  recoverable : Bool
  requiresHalt : Bool
  description : String
  action : String
  deriving DecidableEq, Repr

namespace Code

def internalError : Code := ⟨"ERR001"⟩
def initializationFailure : Code := ⟨"ERR002"⟩
def fileNotFound : Code := ⟨"E005"⟩
def invalidExtension : Code := ⟨"E006"⟩
def fileTooLarge : Code := ⟨"E007"⟩
def invalidEncoding : Code := ⟨"E010"⟩
def ioError : Code := ⟨"E011"⟩
def invalidPath : Code := ⟨"E012"⟩
def unexpectedCharacter : Code := ⟨"E020"⟩
def unterminatedString : Code := ⟨"E021"⟩
def invalidNumber : Code := ⟨"E022"⟩
def nameTooLong : Code := ⟨"E023"⟩
def stringTooLarge : Code := ⟨"E024"⟩
def unbalancedQuotes : Code := ⟨"E025"⟩
def tooManyTokens : Code := ⟨"E027"⟩
def systemInitialized : Code := ⟨"I004"⟩
def fileProcessed : Code := ⟨"I006"⟩
def tokenizationComplete : Code := ⟨"I020"⟩
def plainWarning : Code := ⟨"W000"⟩
def plainInfo : Code := ⟨"I000"⟩
def plainDebug : Code := ⟨"D000"⟩

def fatal (code : Code) (category : String) (severity : Severity) (description action : String) :
    CodeRecord := ⟨code, category, severity, false, true, description, action⟩

def registry : List CodeRecord := [
  fatal internalError "System" .critical "Critical internal system error"
    "File a bug report with the failing input",
  fatal initializationFailure "System" .critical "System initialization failed"
    "Check runtime configuration and environment variables",
  fatal fileNotFound "FileProcessing" .high "Source file not found"
    "Verify the file path exists and is accessible",
  fatal invalidExtension "FileProcessing" .medium "Source file does not have the .mlang extension"
    "Rename the file or disable MATHLANG_REQUIRE_MLANG_EXTENSION",
  fatal fileTooLarge "FileProcessing" .high "Source file exceeds compile-time size limits"
    "Split the input or rebuild with a larger profile limit",
  fatal invalidEncoding "FileProcessing" .high "Source file is not valid UTF-8"
    "Re-encode the file as UTF-8",
  fatal ioError "FileProcessing" .high "I/O error while reading source file"
    "Check file permissions and disk health",
  fatal invalidPath "FileProcessing" .medium "Invalid source file path"
    "Provide a path to a regular file",
  fatal unexpectedCharacter "Lexical" .high "Input matched none of the token rules"
    "Remove the unexpected character",
  fatal unterminatedString "Lexical" .high "String literal is never closed on its line"
    "Add the closing double quote",
  fatal invalidNumber "Lexical" .critical "Digit run could not be converted to a number"
    "Shorten the numeric literal",
  fatal nameTooLong "Lexical" .high "Name exceeds the maximum length" "Use a shorter name",
  fatal stringTooLarge "Lexical" .high "String literal exceeds the maximum size"
    "Split the string into smaller literals",
  fatal unbalancedQuotes "Lexical" .high "Name is followed by an unclosed quoted region"
    "Close every string literal in the input",
  fatal tooManyTokens "Lexical" .high "Input produces more tokens than allowed"
    "Split the input into smaller programs"]

def record? (code : Code) : Option CodeRecord := registry.find? (·.code == code)

/-! A code without a record is of medium severity, can be recovered from and halts nothing. -/

def severity (code : Code) : Severity := (code.record?.map (·.severity)).getD .medium

def recoverable (code : Code) : Bool := (code.record?.map (·.recoverable)).getD true

def requiresHalt (code : Code) : Bool := (code.record?.map (·.requiresHalt)).getD false

def description (code : Code) : String := (code.record?.map (·.description)).getD "Unknown error"

def action (code : Code) : String :=
  (code.record?.map (·.action)).getD "No specific action available"

def category (code : Code) : String := (code.record?.map (·.category)).getD "Unknown"

end Code
end MathTokens
