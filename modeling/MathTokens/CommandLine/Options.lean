/-! The arguments of the program. -/
namespace MathTokens.CommandLine

inductive Input where
  | file (path : String)
  | expression (source : String)
  deriving DecidableEq, Repr

structure Options where
  input : Option Input
  config : Option String
  json : Bool
  spans : Bool
  help : Bool
  deriving DecidableEq, Repr

inductive UsageError where
  | missingExpression
  | missingConfig
  | unknownOption (name : String)
  | secondInput
  | noInput
  deriving DecidableEq, Repr

def UsageError.message : UsageError → String
  | .missingExpression => "--expr requires a source string"
  | .missingConfig => "--config requires a path"
  | .unknownOption name => "Unknown option '" ++ name ++ "'"
  | .secondInput => "only one input (file or --expr) may be given"
  | .noInput => "expected an input file or --expr"

namespace Options

def none : Options := ⟨.none, .none, false, false, false⟩

def setInput (o : Options) (input : Input) : Except UsageError Options :=
  if o.input.isSome then .error .secondInput else .ok { o with input := some input }

def looksLikeOption (arg : String) : Bool := ['-', '-'].isPrefixOf arg.toList

def read (o : Options) : List String → Except UsageError Options
  | [] => .ok o
  | arg :: args =>
    if arg = "--help" ∨ arg = "-h" then read { o with help := true } args
    else if arg = "--json" then read { o with json := true } args
    else if arg = "--spans" then read { o with spans := true } args
    else if arg = "--expr" then
      match args with
      | [] => .error .missingExpression
      | source :: args =>
        match o.setInput (.expression source) with
        | .ok o => read o args
        | .error e => .error e
    else if arg = "--config" then
      match args with
      | [] => .error .missingConfig
      | path :: args => read { o with config := some path } args
    else if looksLikeOption arg then .error (.unknownOption arg)
    else
      match o.setInput (.file arg) with
      | .ok o => read o args
      | .error e => .error e

def parse (args : List String) : Except UsageError Options :=
  match read .none args with
  | .error e => .error e
  | .ok o => if o.input.isNone ∧ ¬o.help then .error .noInput else .ok o

end Options
end MathTokens.CommandLine
