import Stenotype.Json
import Stenotype.Orthography.Build
import Stenotype.Service
import Stenotype.Settings.File
import Stenotype.Sink

/-!
# Sessions

A session reads lines and prints instructions. A line is a translation in JSON, `*` to take back the
newest translation, or `!reset` to forget them all; other lines are passed over. The session keeps
the translations that it has submitted, so that it knows what a `*` takes back.
-/

set_option autoImplicit false

namespace Stenotype

inductive Event
  | translation (t : Translation)
  | takeBack
  | reset

namespace Event

/-- A translation is an object with `strokes` and perhaps `english`, or an array of the two. -/
def translationOf? : Json → Option Translation
  | .object members => do
    let members ← members.mapM fun (key, v) => key.map fun key => (key, v)
    let strokes ← Json.member? "strokes" members
    let english ← Json.member? "english" members
    return Translation.ofOutlines (← strokes.bind Json.texts?)
      (← (english.getD .null).optionalText?)
  | .array [strokes] => do return Translation.ofOutlines (← strokes.texts?) none
  | .array [strokes, english] => do
    return Translation.ofOutlines (← strokes.texts?) (← english.optionalText?)
  | _ => none

def ofLine? (line : Text) : Option Event :=
  let s := Text.trim line
  if s = ['*'] then some takeBack
  else if s = "!reset".toList then some reset
  else ((Json.read? s).bind translationOf?).map translation

end Event

/-- The lines of an input up to the first that is not text. -/
def readableLines (input : List UInt8) : List Text :=
  ((Text.splitOn 0x0a input).map Text.ofUtf8?).takeWhile Option.isSome |>.flatMap Option.toList

structure Session where
  service : Service
  /-- What was submitted and not taken back, newest first. -/
  submitted : List Translation := []

namespace Session

def ofFormatter (f : Formatter) : Session := ⟨Service.ofFormatter f, []⟩

/-- The command that an event calls for, and what is left of the translations submitted before. -/
def command : List Translation → Event → Option ServiceCommand × List Translation
  | ts, .translation t => (some (.format { new := [t], prev := ts.head? }), t :: ts)
  | t :: ts, .takeBack => (some (.format { undo := [t], prev := ts.head? }), ts)
  | [], .takeBack => (none, [])
  | _, .reset => (some .reset, [])

def print (is : List Instruction) : Text := (printer.sendEach [] is).1

def handle (s : Session) (e : Event) : Session × Text :=
  match command s.submitted e with
  | (none, ts) => ({ s with submitted := ts }, [])
  | (some c, ts) =>
    let (batches, service) := (s.service.handle c).collect
    (⟨service, ts⟩, print batches.flatten)

def handleLine (s : Session) (line : Text) : Session × Text :=
  match Event.ofLine? line with
  | some e => s.handle e
  | none => (s, [])

def handleLines : Session → List Text → Session × Text
  | s, [] => (s, [])
  | s, line :: lines =>
    let (s, out) := s.handleLine line
    let (s, rest) := s.handleLines lines
    (s, out ++ rest)

/-- A session with the settings of a file, or with the default ones if the file is no good. -/
def start (path : Text) (file : Option (List UInt8)) : Except InvalidPattern Session := do
  let settings := match Settings.load path file with
    | .ok s => s
    | .error _ => {}
  return ofFormatter (← Formatter.ofSettings settings)

def refusal : Text := "Error: invalid orthography rule in settings".toList

def transcript (path : Text) (file : Option (List UInt8)) (input : List UInt8) :
    Except InvalidPattern Text := do
  return ((← start path file).handleLines (readableLines input)).2

end Session
end Stenotype
