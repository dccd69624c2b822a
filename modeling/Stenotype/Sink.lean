import Stenotype.Formatter

/-!
# Sinks

A sink takes instructions one by one and may refuse any of them. An edit is offered to it whole:
what follows a refused instruction is offered all the same, and the first refusal is reported.
-/

set_option autoImplicit false

namespace Stenotype

inductive OutputError
  | io
  | badCombo (combo : Text) (e : KeyComboError)
  | rejected (reason : Text)
  deriving DecidableEq, Repr

namespace OutputError

def message : OutputError → Text
  | io => "output I/O failed: failed to write whole buffer".toList
  | badCombo combo e => "bad key combination: ".toList ++ e.message combo
  | rejected reason => "output rejected: ".toList ++ reason

end OutputError

structure Sink (σ : Type) where
  send : σ → Instruction → σ × Option OutputError

namespace Sink

def sendEach {σ : Type} (sink : Sink σ) : σ → List Instruction → σ × List (Option OutputError)
  | s, [] => (s, [])
  | s, i :: is =>
    let (s, answer) := sink.send s i
    let (s, answers) := sink.sendEach s is
    (s, answer :: answers)

/-- Sends all instructions; the first refusal. -/
def sendAll {σ : Type} (sink : Sink σ) (s : σ) (is : List Instruction) : σ × Option OutputError :=
  let (s, answers) := sink.sendEach s is
  (s, answers.findSome? id)

end Sink

/-- What has been taken, and the text on screen. -/
structure Capture where
  instructions : List Instruction := []
  text : Text := []
  deriving DecidableEq, Repr

namespace Capture

def add (c : Capture) (i : Instruction) : Capture := ⟨c.instructions ++ [i], i.replay c.text⟩

def drain (c : Capture) : List Instruction × Capture :=
  (c.instructions, { c with instructions := [] })

def sink : Sink Capture := ⟨fun c i => (c.add i, none)⟩

def textSink : Sink Capture where
  send c i := match i with
    | .backspaces _ => (c.add i, none)
    | .string _ => (c.add i, none)
    | .keyCombo combo => (c, some (.rejected ("combo ".toList ++ combo)))
    | .engineCommand name => (c, some (.rejected ("command ".toList ++ name)))

end Capture

def printer : Sink Text where
  send out i := match i.printed with
    | .ok line => (out ++ line, none)
    | .error (combo, e) => (out, some (.badCombo combo e))

/-- Prints into a medium of `capacity` bytes; of a line that does not fit the beginning is kept. -/
def boundedPrinter (capacity : Nat) : Sink (List UInt8) where
  send out i := match i.printed with
    | .ok line =>
      let out := out ++ (String.ofList line).toUTF8.toList
      if out.length ≤ capacity then (out, none) else (out.take capacity, some .io)
    | .error (combo, e) => (out, some (.badCombo combo e))

def Formatter.formatTo {σ : Type} (f : Formatter) (sink : Sink σ) (s : σ)
    (undo new : List Translation) (prev : Option Translation) :
    Formatter × σ × Option OutputError :=
  let (f, is) := f.format undo new prev
  (f, sink.sendAll s is)

end Stenotype
