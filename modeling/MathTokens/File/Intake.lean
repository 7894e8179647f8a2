import MathTokens.File.Tree
import MathTokens.Number.Text
import MathTokens.Scanner.Pass
import MathTokens.Text.Characters
import MathTokens.Text.Lowercase
/-! Taking in a source file. The checks come in a fixed order, and the first one that fails decides: the
path, whether it names a file, its size, its extension, its encoding and the number of its lines. -/
namespace MathTokens

inductive FileError where
  | notFound (path : String)
  | invalidExtension (extension : Option String)
  | tooLarge (size limit : Nat)
  | tooManyLines (lines limit : Nat)
  | invalidEncoding (path : String)
  | unreadable (reason : String)
  | invalidPath (path : String)
  deriving DecidableEq, Repr

def sourceExtension : String := "mlang"

namespace FileError

def message : FileError → String
  | .notFound path => "File not found: " ++ path
  | .invalidExtension found =>
    "Invalid file extension: expected ." ++ sourceExtension ++ ", found "
      ++ match found with
        | none => "None"
        | some extension => "Some(" ++ Text.inspect extension ++ ")"
  | .tooLarge size limit => s!"File too large: {size} bytes (max: {limit})"
  | .tooManyLines lines limit => s!"File exceeds maximum line count: {lines} (max: {limit})"
  | .invalidEncoding path => "Invalid UTF-8 encoding in file: " ++ path
  | .unreadable reason => "I/O error reading file: " ++ reason
  | .invalidPath path => "Invalid file path: " ++ path

def code : FileError → Code
  | .notFound _ => .fileNotFound
  | .invalidExtension _ => .invalidExtension
  | .tooLarge .. | .tooManyLines .. => .fileTooLarge
  | .invalidEncoding _ => .invalidEncoding
  | .unreadable _ => .ioError
  | .invalidPath _ => .invalidPath

end FileError

def scaleSize (size : Double) (unit : String) : List String → Double × String
  | [] => (size, unit)
  | next :: others =>
    if size.atLeast (.ofNat 1024) then scaleSize (size.div (.ofNat 1024)) next others else (size, unit)

def sizeText (bytes : Nat) : String :=
  let (size, unit) := scaleSize (.ofNat bytes) "B" ["KB", "MB", "GB"]
  if unit = "B" then s!"{bytes} B" else size.fixedText 2 ++ " " ++ unit

/-- A line feed ends a line; text after the last one is a line too. -/
def lineCount (cs : List Char) : Nat :=
  cs.count '\n' + match cs.getLast? with
    | none => 0
    | some c => if c = '\n' then 0 else 1

structure SourceFile where
  source : String
  path : String
  size : Nat
  extension : Option String
  lineCount : Nat
  elapsed : Nat
  deriving DecidableEq, Repr

namespace SourceFile

def hasSourceExtension (f : SourceFile) : Bool := f.extension == some sourceExtension

def charCount (f : SourceFile) : Nat := f.source.length

def isEffectivelyEmpty (f : SourceFile) : Bool := f.source.toList.all Text.isBlank

def rate (f : SourceFile) : Double :=
  let duration := millisecondsOf f.elapsed
  if duration.isPositive then (Double.ofNat f.charCount).div duration else .zero

end SourceFile

namespace Intake

abbrev Failure := FileError × Event

variable (limits : Limits)

def fail (e : FileError) (message : String) (pairs : List (String × String)) : Failure :=
  (e, (Event.error limits.logging e.code message).withPairs pairs)

def debug (message : String) (pairs : List (String × String)) : Event :=
  (Event.debug limits.logging message).withPairs pairs

structure Candidate where
  path : String
  extension : Option String
  size : Nat
  bytes : ByteArray

def candidate (place : List String) (size : Nat) (bytes : ByteArray) : Candidate :=
  ⟨placeText place, (place.getLast?.bind extension?).map Text.lowercase, size, bytes⟩

def locate (path : String) (found : Found) : Except Failure Candidate :=
  if path.isEmpty then .error (fail limits (.invalidPath "") "Empty file path provided" [])
  else match found with
    | .nothing => .error (fail limits (.notFound path) "File not found" [("path", path)])
    | .notAFile => .error (fail limits (.invalidPath path) "Path is not a file" [("path", path)])
    | .file place size bytes => .ok (candidate place size bytes)

def screen (settings : Settings.Files) (path : String) (c : Candidate) : Except Failure Unit :=
  if limits.files.fileSize < c.size then
    .error (fail limits (.tooLarge c.size limits.files.fileSize)
      "File exceeds compile-time maximum size limit"
      [("file", path), ("size_bytes", toString c.size), ("size_human", sizeText c.size),
        ("limit_human", sizeText limits.files.fileSize)])
  else if settings.requireExtension ∧ c.extension ≠ some sourceExtension then
    .error (fail limits (.invalidExtension c.extension) "File does not have required extension"
      [("file", path), ("extension", c.extension.getD "none"), ("required", sourceExtension)])
  else .ok ()

def decode (path : String) (c : Candidate) : Except Failure String :=
  match String.fromUTF8? c.bytes with
  | some source => .ok source
  | none => .error (fail limits (.invalidEncoding c.path) "Invalid UTF-8 encoding in file" [("file", path)])

def checkLines (path source : String) : Except Failure Nat :=
  let lines := lineCount source.toList
  if limits.files.lineCount < lines then
    .error (fail limits (.tooManyLines lines limits.files.lineCount) "File exceeds maximum line count"
      [("file", path), ("lines", toString lines), ("max_lines", toString limits.files.lineCount)])
  else .ok lines

def startEvent (path : String) : Event := debug limits "Starting file processing" [("file", path)]

def locatedEvent (c : Candidate) : Event :=
  debug limits "Path validation successful" [("canonical_path", c.path)]

def candidateEvent (c : Candidate) : Event :=
  debug limits "File metadata collected"
    [("size_bytes", toString c.size), ("size_human", sizeText c.size),
      ("extension", c.extension.getD "none"),
      ("is_mlang", toString (c.extension == some sourceExtension))]

def readEvent (path source : String) : Event :=
  debug limits "File content read successfully"
    [("file", path), ("bytes", toString source.utf8ByteSize)]

def doneEvent (settings : Settings.Files) (path : String) (f : SourceFile) : Event :=
  let duration := ("duration_ms", (millisecondsOf f.elapsed).fixedText 2)
  let known := [("file", path), ("size_bytes", toString f.size), ("lines", toString f.lineCount), duration]
  if settings.logPerformance then
    (Event.success limits.logging .fileProcessed
      "File processed successfully with performance metrics").withPairs <|
      known ++ [("size_human", sizeText f.size), ("chars", toString f.charCount),
        ("chars_per_ms", f.rate.fixedText 2), ("max_size_bytes", toString limits.files.fileSize)]
  else (Event.success limits.logging .fileProcessed "File processed successfully").withPairs known

def run (settings : Settings.Files) (elapsed : Nat) (path : String) (found : Found) :
    Outcome FileError SourceFile :=
  let started := [startEvent limits path]
  match locate limits path found with
  | .error (e, event) => ⟨.error e, started ++ [event]⟩
  | .ok c =>
    let seen := started ++ [locatedEvent limits c, candidateEvent limits c]
    match screen limits settings path c with
    | .error (e, event) => ⟨.error e, seen ++ [event]⟩
    | .ok () =>
      match decode limits path c with
      | .error (e, event) => ⟨.error e, seen ++ [event]⟩
      | .ok source =>
        let read := seen ++ [readEvent limits path source]
        match checkLines limits path source with
        | .error (e, event) => ⟨.error e, read ++ [event]⟩
        | .ok lines =>
          let f : SourceFile := ⟨source, c.path, c.size, c.extension, lines, elapsed⟩
          ⟨.ok f, read ++ [doneEvent limits settings path f]⟩

end Intake

def SourceFile.passEvent (limits : Limits) (f : SourceFile) : Event :=
  (Event.debug limits.logging "Starting lexical analysis").withPairs
    [("file", f.path), ("char_count", toString f.charCount), ("line_count", toString f.lineCount),
      ("max_tokens_allowed", toString limits.lexical.tokenCount)]

def Pass.runFile (limits : Limits) (settings : Settings.Lexical) (elapsed : Nat) (f : SourceFile) :
    Outcome LexError Tape :=
  let outcome := Pass.run limits settings elapsed f.source.toList
  { outcome with events := f.passEvent limits :: outcome.events }

end MathTokens
