import Invocation.Program.Commands

/-!
# The executable

Reads what the program finds, has it computed, and writes what it came to.
-/

namespace Invocation.Program

/-- Opens a file. -/
def readFile (name : String) : IO File := do
  try
    return .bytes (← IO.FS.readBinFile name).toList
  catch
    | .noFileOrDirectory .. => return .unreadable noSuchFile
    | e => return .unreadable (toString e)

/-- The file that the arguments name, if they name one. -/
def namedFile (args : List String) : IO (String → File) := do
  match Intent.ofArguments args with
  | .command (some name) _ =>
    let file ← readFile name
    return fun _ => file
  | _ => return fun _ => .unreadable noSuchFile

/-- The arguments ask for an invocation, whose input has to be read. -/
def wantsInput (args : List String) : Bool :=
  match Intent.ofArguments args with
  | .command _ (.run ..) => true
  | _ => false

/-- Reads a stream to its end. -/
partial def readAll (stream : IO.FS.Stream) (got : ByteArray) : IO ByteArray := do
  let chunk ← stream.read 65536
  if chunk.isEmpty then return got else readAll stream (got ++ chunk)

end Invocation.Program

open Invocation Program

/-- Runs the program. -/
def main (args : List String) : IO UInt32 := do
  let file ← namedFile args
  let filter ← IO.getEnv Subscriber.environmentVariable
  let input ←
    if wantsInput args then readAll (← IO.getStdin) .empty else pure .empty
  let result := start args { file, filter, input := input.toList }
  for report in result.reports do
    match report with
    | .line s => IO.eprint s
    | .object v => IO.eprintln v.text
  match result.failure with
  | some text => IO.eprintln text
  | none => pure ()
  let output ← IO.getStdout
  output.write ⟨result.output.toArray⟩
  output.flush
  return result.status.toUInt32
