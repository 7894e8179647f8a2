import MathTokens.Limits
import MathTokens.Toml.Document
/-! Limits from a build's document: reading them, the bounds on bounds, and the constants they become. -/
namespace MathTokens.Limits

def naturals? (names : List String) (v : Toml) : Option (List Nat) := do
  (← v.fields? names).mapM fun field => field.bind Toml.natural?

def Files.ofToml? (v : Toml) : Option Files := do
  match ← naturals? ["max_file_size", "max_line_count"] v with
  | [size, lines] => some ⟨size, lines⟩
  | _ => none

def Lexical.ofToml? (v : Toml) : Option Lexical := do
  match ← naturals? ["max_token_count", "max_name_length", "max_string_size", "max_number_length"] v with
  | [tokens, name, string, number] => some ⟨tokens, name, string, number⟩
  | _ => none

def Logging.ofToml? (v : Toml) : Option Logging := do
  match ← naturals? ["log_buffer_size", "max_log_message_length"] v with
  | [buffer, message] => some ⟨buffer, message⟩
  | _ => none

def ofToml? (v : Toml) : Option Limits := do
  match ← v.fields? ["file_processing", "lexical", "logging"] with
  | [some files, some lexical, some logging] =>
    some ⟨← Files.ofToml? files, ← Lexical.ofToml? lexical, ← Logging.ofToml? logging⟩
  | _ => none

inductive Refusal where
  | fileSize | tokenCount | zeroLength | smallBuffer | productionFileSize
  deriving DecidableEq, Repr

def Refusal.message : Refusal → String
  | .fileSize => "SECURITY: max_file_size exceeds absolute maximum"
  | .tokenCount => "SECURITY: max_token_count exceeds absolute maximum"
  | .zeroLength => "Lexical limits must be non-zero"
  | .smallBuffer => "log_buffer_size too small (min: 100)"
  | .productionFileSize => "PRODUCTION: max_file_size too high for production"

def refusal? (profile : String) (l : Limits) : Option Refusal :=
  if 1000000000 < l.files.fileSize then some .fileSize
  else if 100000000 < l.lexical.tokenCount then some .tokenCount
  else if l.lexical.nameLength = 0 ∨ l.lexical.stringSize = 0 ∨ l.lexical.numberLength = 0 then
    some .zeroLength
  else if l.logging.bufferedEvents < 100 then some .smallBuffer
  else if profile = "production" ∧ 50000000 < l.files.fileSize then some .productionFileSize
  else none

def constant (type name : String) (value : Nat) : String :=
  "        pub const " ++ name ++ ": " ++ type ++ " = " ++ toString value ++ ";\n"

def group (name : String) (constants : List String) : String :=
  "    pub mod " ++ name ++ " \x7b\n" ++ String.join constants ++ "    \x7d\n"

def constants (profile : String) (l : Limits) : String :=
  "\n// Generated compile-time constants from TOML configuration\n// Profile: " ++ profile
    ++ "\n// DO NOT EDIT - Generated by build.rs\n\npub mod compile_time \x7b\n"
    ++ group "file_processing" [constant "u64" "MAX_FILE_SIZE" l.files.fileSize,
        constant "usize" "MAX_LINE_COUNT" l.files.lineCount] ++ "\n"
    ++ group "lexical" [constant "usize" "MAX_TOKEN_COUNT" l.lexical.tokenCount,
        constant "usize" "MAX_NAME_LENGTH" l.lexical.nameLength,
        constant "usize" "MAX_STRING_SIZE" l.lexical.stringSize,
        constant "usize" "MAX_NUMBER_LENGTH" l.lexical.numberLength] ++ "\n"
    ++ group "logging" [constant "usize" "LOG_BUFFER_SIZE" l.logging.bufferedEvents,
        constant "usize" "MAX_LOG_MESSAGE_LENGTH" l.logging.messageLength]
    ++ "\x7d\n"

inductive BuildError where
  | unreadable
  | refused (why : Refusal)
  deriving DecidableEq, Repr

def build (profile : String) (document : List Char) : Except BuildError Limits :=
  match (Toml.parse? document).bind ofToml? with
  | none => .error .unreadable
  | some limits =>
    match refusal? profile limits with
    | some why => .error (.refused why)
    | none => .ok limits

end MathTokens.Limits
