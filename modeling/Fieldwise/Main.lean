import Fieldwise.Cli.Run

/-!
# The program

Reads what a run can learn from outside, and does what comes of it.
-/

namespace Fieldwise.Cli

/-- The files that a call reads. -/
def Call.inputs (c : Call) : List String :=
  match c.command with
  | .apply rules values _ _ _ => rules :: values.toList
  | .check rules => [rules]
  | .encode rules _ _ => [rules]
  | .decode input _ => input.toList

/-- Whether a call reads the input of the program. -/
def Call.readsInput (c : Call) : Bool :=
  match c.command with
  | .decode none _ => true
  | _ => false

/-- An error of the file system. -/
def fileError : IO.Error → FileError
  | .noFileOrDirectory .. => .missing
  | .inappropriateType _ 20 _ => .notDirectory
  | .inappropriateType _ 21 _ => .isDirectory
  | e => .unusable (toString e)

/-- Reads a file. -/
def readFile (path : String) : IO (Except FileError (List UInt8)) := do
  try
    return .ok (← IO.FS.readBinFile path).toList
  catch e => return .error (fileError e)

/-- Reads a stream to its end. -/
partial def readStream (s : IO.FS.Stream) (done : ByteArray) : IO ByteArray := do
  let bytes ← s.read 65536
  if bytes.isEmpty then return done else readStream s (done ++ bytes)

/-- Reads the input of the program. -/
def readInput : IO (Except FileError (List UInt8)) := do
  try
    return .ok (← readStream (← IO.getStdin) .empty).toList
  catch e => return .error (fileError e)

/-- What a call can learn from outside before it writes anything. -/
def Call.world (c : Call) : IO World := do
  let files ← c.inputs.mapM fun path => return (path, ← readFile path)
  let input ← if c.readsInput then readInput else pure (.ok [])
  let settings ← ["RUST_LOG", "FIELDSUB_ALLOW_DEBUG_PII"].mapM fun name =>
    return (name, ← IO.getEnv name)
  return {
    read := fun path => (files.lookup path).getD (.error .missing)
    writeFault? := fun _ => none
    input := input.toOption.getD []
    setting? := fun name => (settings.lookup name).join
    inputFault? := match input with
      | .ok _ => none
      | .error e => some e }

/-- Writes files, and yields the first that cannot be written with the reason. -/
def writeFiles : List (String × List UInt8) → IO (Option (String × FileError))
  | [] => return none
  | (path, bytes) :: rest => do
    try
      IO.FS.writeBinFile path ⟨bytes.toArray⟩
      writeFiles rest
    catch e => return some (path, fileError e)

/-- Prints what comes of a run, and yields its exit code. -/
def Result.print (r : Result) : IO UInt32 := do
  (← IO.getStdout).write ⟨r.output.toArray⟩
  (← IO.getStderr).putStr r.messages
  return r.exitCode.toUInt32

/-- Does what comes of a call. Whether a file can be written is found out by writing it: if it cannot, what
comes of the call is what comes of it in a world that is known to be so. -/
def Call.perform (c : Call) : IO UInt32 := do
  let w ← c.world
  let r := c.result w
  match ← writeFiles r.written with
  | none => r.print
  | some (path, e) =>
    Result.print (c.result { w with writeFault? := fun other => if other = path then some e else none })

end Fieldwise.Cli

open Fieldwise.Cli in
/-- Runs the program. -/
def main (arguments : List String) : IO UInt32 :=
  match Call.parse arguments with
  | .error e => e.result.print
  | .ok c => c.perform
