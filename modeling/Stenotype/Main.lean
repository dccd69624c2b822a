import Stenotype.Session
import Stenotype.Settings.Paths

/-!
# The program

Reads events from standard input, a line each, and prints the instructions for each of them before
it reads the next.
-/

set_option autoImplicit false

open Stenotype

partial def readLineBytes (input : IO.FS.Stream) (seen : List UInt8) : IO (Option (List UInt8)) := do
  match (← input.read 1).toList with
  | [] => return if seen.isEmpty then none else some seen.reverse
  | b :: _ => if b = 0x0a then return some seen.reverse else readLineBytes input (b :: seen)

/-- Handles lines up to the end of the input, or to one that is not text. -/
partial def serve (input output : IO.FS.Stream) (s : Session) : IO Unit := do
  match (← readLineBytes input []).bind Text.ofUtf8? with
  | none => return
  | some line =>
    let (s, out) := s.handleLine line
    output.putStr (String.ofList out)
    output.flush
    serve input output s

def textVariable (name : String) : IO (Option Text) := do
  return (← IO.getEnv name).map String.toList

def main : IO UInt32 := do
  let paths := SettingsPaths.ofEnvironment (← textVariable "STENO_FORMAT_CONFIG_DIR")
    (← textVariable "XDG_CONFIG_HOME") (← textVariable "HOME")
  let file ← try pure (some (← IO.FS.readBinFile (String.ofList paths.file)).toList)
    catch _ => pure none
  match Session.start paths.file file with
  | .error _ =>
    (← IO.getStderr).putStrLn (String.ofList Session.refusal)
    return 1
  | .ok s =>
    serve (← IO.getStdin) (← IO.getStdout) s
    return 0
