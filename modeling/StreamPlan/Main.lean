import StreamPlan.Pipeline.Command

/-! The command line: `compile-transformations` reads statements from standard input,
`compile-config FILE` a configuration, with the data-structure document in the file. -/

set_option autoImplicit false

namespace StreamPlan.Command

partial def readAll (stream : IO.FS.Stream) (read : String) : IO String := do
  let line ← stream.getLine
  if line.isEmpty then return read else readAll stream (read ++ line)

def emit (outcome : Outcome) : IO UInt32 := do
  (← IO.getStdout).putStr outcome.output
  (← IO.getStderr).putStr outcome.errors
  return outcome.exitCode.toUInt32

def runConfig (path : String) : IO UInt32 := do
  match ← (IO.FS.readFile path).toBaseIO with
  | .error cause => emit (failure ("Unable to read file: " ++ path) (some (toString cause)))
  | .ok document =>
    match Schema.ofDocument document with
    | .error error => emit (failure error.message none)
    | .ok _ => emit (compileConfig (some document) (← readAll (← IO.getStdin) ""))

end StreamPlan.Command

open StreamPlan.Command in
def main (args : List String) : IO UInt32 := do
  match args with
  | ["compile-transformations"] =>
    emit (compileTransformations (← readAll (← IO.getStdin) ""))
  | "compile-config" :: path :: _ => runConfig path
  | ["compile-config"] => emit (compileConfig none "")
  | _ => emit (failure "Usage: compile-transformations | compile-config FILE" none)
