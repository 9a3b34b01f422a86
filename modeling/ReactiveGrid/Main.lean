import ReactiveGrid.CommandLine
import ReactiveGrid.CommandLine.Options
import ReactiveGrid.Log.Filter

/-!
# The executable

Reads the arguments, the script and the environment, carries out the request, and writes the report.
The variable `RUST_LOG` holds the log filter.
-/

namespace ReactiveGrid.CommandLine

def readFault : IO.Error → ReadFault
  | .noFileOrDirectory .. => .notFound
  | .inappropriateType .. => .isDirectory
  | .permissionDenied .. => .refused "Permission denied" 13
  | e => .refused e.toString 5

partial def readAll (stream : IO.FS.Stream) (before : ByteArray) : IO ByteArray := do
  let bytes ← stream.read 65536
  if bytes.isEmpty then return before else readAll stream (before ++ bytes)

def readSource (source : Option String) : IO (Except ReadFault String) := do
  try
    let bytes ← match source with
      | some file => IO.FS.readBinFile file
      | none => readAll (← IO.getStdin) ByteArray.empty
    return decode bytes
  catch e => return .error (readFault e)

def readFilter : IO (Option Log.Filter) := do
  match ← IO.getEnv "RUST_LOG" with
  | some text => return Log.Filter.parse? text
  | none => return some Log.Filter.onlyErrors

def Report.write (r : Report) (filter : Log.Filter) : IO UInt32 := do
  IO.print r.output
  IO.eprint (r.errorText filter.lines)
  return r.code.toUInt32

def UsageError.write : UsageError → IO UInt32
  | .misuse => do
    IO.eprint helpText
    return 2
  | .assignment cause => do
    IO.eprintln cause.message
    return 2

end ReactiveGrid.CommandLine

open ReactiveGrid.CommandLine in
/-- The program. A log filter that cannot be read stops it at once. -/
def main (args : List String) : IO UInt32 := do
  match ← readFilter with
  | none =>
    IO.eprintln "the log filter cannot be read"
    return 101
  | some filter =>
    match Request.ofArguments args with
    | .error e => e.write
    | .ok request =>
      let source ← match request.source? with
        | some source => readSource source
        | none => pure (.ok "")
      (request.run source).write filter
