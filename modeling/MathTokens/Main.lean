import MathTokens.CommandLine.Run
import Std.Time.DateTime.Timestamp
/-! The program: gathers what `CommandLine.run` is a function of, takes the time, and prints. -/
namespace MathTokens

def look (path : String) : IO Found := do
  try
    let real ← IO.FS.realPath path
    if (← real.metadata).type == .file then
      let bytes ← IO.FS.readBinFile real
      return .file ((real.toString.splitOn "/").drop 1) bytes.size bytes
    else return .notAFile
  catch _ => return .nothing

def environment : IO Environment :=
  Settings.variableNames.filterMapM fun name => do return (← IO.getEnv name).map (name, ·)

def pathsOf (args : List String) : List String :=
  match CommandLine.Options.parse args with
  | .error _ => []
  | .ok o =>
    o.config.toList ++ match o.input with
      | some (.file path) => [path]
      | _ => []

def survey (args : List String) : IO CommandLine.World := do
  let program := (← IO.appPath).fileName.getD "mathlang"
  let began ← IO.monoNanosNow
  let known ← (pathsOf args).mapM fun path => do return (path, ← look path)
  let ended ← IO.monoNanosNow
  let now ← Std.Time.Timestamp.now
  return ⟨program, ← environment, fun path => ((known.find? (·.1 == path)).map (·.2)).getD .nothing,
    now.toMillisecondsSinceUnixEpoch.toInt, ended - began⟩

def report (exit : CommandLine.Exit) : IO UInt32 := do
  IO.print exit.output
  IO.eprint exit.errors
  return exit.status.toUInt32

end MathTokens

open MathTokens in
def main (args : List String) : IO UInt32 := do
  let world ← survey args
  match CommandLine.start .development .development world args with
  | .finished exit => report exit
  | .ready job =>
    let began ← IO.monoNanosNow
    let scan ← IO.lazyPure fun () => job.scan
    let ended ← IO.monoNanosNow
    report (job.finish (ended - began) scan)
