/-! Bounds that a build fixes: on files, on tokens and on the log. -/
namespace MathTokens

structure Limits.Files where
  fileSize : Nat
  lineCount : Nat
  deriving DecidableEq, Repr

structure Limits.Lexical where
  tokenCount : Nat
  nameLength : Nat
  stringSize : Nat
  numberLength : Nat
  deriving DecidableEq, Repr

structure Limits.Logging where
  bufferedEvents : Nat
  messageLength : Nat
  deriving DecidableEq, Repr

structure Limits where
  files : Limits.Files
  lexical : Limits.Lexical
  logging : Limits.Logging
  deriving DecidableEq, Repr

namespace Limits

def development : Limits :=
  ⟨⟨10485760, 100000⟩, ⟨1000000, 255, 1048576, 100000⟩, ⟨10000, 4096⟩⟩

def production : Limits :=
  ⟨⟨1048576, 20000⟩, ⟨250000, 128, 65536, 4096⟩, ⟨1000, 1024⟩⟩

end Limits
end MathTokens
