import Mathlib.Algebra.BigOperators.Fin
import Stenotype.Service

/-!
# Exchanges

A service runs among senders, which submit commands over one channel, and a receiver, which takes
edits from another. A channel keeps order, has room for some messages, and loses none unless the side
that takes them is gone. Whoever can take a step may take the next one, and the receiver may leave at
any moment.
-/

set_option autoImplicit false

namespace Stenotype

inductive Task
  | waiting
  | formatting (r : Request)
  | delivering (edit : List Instruction)
  /-- It takes no more commands, but they can still be submitted. -/
  | stopping
  | ended

namespace Task

def owing (edit : List Instruction) : Task :=
  if edit.isEmpty then waiting else delivering edit

def isRunning : Task → Bool
  | stopping | ended => false
  | _ => true

end Task

structure Exchange (n : Nat) where
  /-- What each sender has left to submit, unless it has hung up. -/
  senders : Fin n → Option (List ServiceCommand)
  queue : List ServiceCommand := []
  task : Task := .waiting
  service : Service
  output : List (List Instruction) := []
  /-- Submissions that entered the queue, in their order. -/
  accepted : List (Fin n × ServiceCommand) := []
  /-- Submissions that were answered with an error. -/
  refused : List (Fin n × ServiceCommand) := []
  handled : List ServiceCommand := []
  received : List (List Instruction) := []

namespace Exchange
variable {n : Nat}

def start (f : Formatter) (lists : Fin n → List ServiceCommand) : Exchange n where
  senders i := some (lists i)
  service := Service.ofFormatter f

def setSender (x : Exchange n) (i : Fin n) (s : Option (List ServiceCommand)) : Exchange n :=
  { x with senders := Function.update x.senders i s }

def beginRequest (x : Exchange n) (r : Request) : Exchange n :=
  { x with
    task := .formatting r
    service := { x.service with status := { x.service.status with phase := .formatting } } }

def complete (x : Exchange n) (c : ServiceCommand) : Exchange n :=
  let (s, edit) := x.service.perform c
  { x with
    service := s, handled := x.handled ++ [c]
    task := Task.owing edit }

def leave (x : Exchange n) : Exchange n :=
  { x with service := x.service.dropReceiver, output := [] }

/-- The steps of senders, service and receiver, with channels of the given room. -/
inductive Step (commandRoom editRoom : Nat) : Exchange n → Exchange n → Prop
  | submit {x : Exchange n} {i : Fin n} {c : ServiceCommand} {cs : List ServiceCommand}
      (next : x.senders i = some (c :: cs)) (taken : x.task ≠ .ended)
      (room : x.queue.length < commandRoom) :
      Step commandRoom editRoom x
        { x.setSender i (some cs) with
          queue := x.queue ++ [c], accepted := x.accepted ++ [(i, c)] }
  | refuse {x : Exchange n} {i : Fin n} {c : ServiceCommand} {cs : List ServiceCommand}
      (next : x.senders i = some (c :: cs)) (ended : x.task = .ended) :
      Step commandRoom editRoom x
        { x.setSender i (some cs) with refused := x.refused ++ [(i, c)] }
  | hangUp {x : Exchange n} {i : Fin n} (done : x.senders i = some []) :
      Step commandRoom editRoom x (x.setSender i none)
  | take {x : Exchange n} {r : Request} {cs : List ServiceCommand} (idle : x.task = .waiting)
      (next : x.queue = .format r :: cs) :
      Step commandRoom editRoom x { x.beginRequest r with queue := cs }
  | format {x : Exchange n} {r : Request} (busy : x.task = .formatting r) :
      Step commandRoom editRoom x (x.complete (.format r))
  | reset {x : Exchange n} {cs : List ServiceCommand} (idle : x.task = .waiting)
      (next : x.queue = .reset :: cs) :
      Step commandRoom editRoom x { x.complete .reset with queue := cs }
  | deliver {x : Exchange n} {edit : List Instruction} (ready : x.task = .delivering edit)
      (heard : x.service.isHeard = true) (room : x.output.length < editRoom) :
      Step commandRoom editRoom x
        { x with
          task := .waiting, service := x.service.deliver edit, output := x.output ++ [edit] }
  | fail {x : Exchange n} {edit : List Instruction} (ready : x.task = .delivering edit)
      (unheard : x.service.isHeard = false) :
      Step commandRoom editRoom x
        { x with task := .stopping, service := x.service.reportUnheard }
  | close {x : Exchange n} (idle : x.task = .waiting) (empty : x.queue = [])
      (quiet : ∀ i, x.senders i = none) :
      Step commandRoom editRoom x { x with task := .stopping }
  /-- Commands that are still in the queue are lost. -/
  | stop {x : Exchange n} (leaving : x.task = .stopping) :
      Step commandRoom editRoom x
        { x with task := .ended, service := x.service.stop, queue := [] }
  | receive {x : Exchange n} {edit : List Instruction} {rest : List (List Instruction)}
      (next : x.output = edit :: rest) :
      Step commandRoom editRoom x
        { x with output := rest, received := x.received ++ [edit] }

inductive Reached (commandRoom editRoom : Nat) (f : Formatter) (lists : Fin n → List ServiceCommand) :
    Exchange n → Prop
  | start : Reached commandRoom editRoom f lists (start f lists)
  | step {x y : Exchange n} (reached : Reached commandRoom editRoom f lists x)
      (next : Step commandRoom editRoom x y) : Reached commandRoom editRoom f lists y
  | leave {x : Exchange n} (reached : Reached commandRoom editRoom f lists x) :
      Reached commandRoom editRoom f lists x.leave

end Exchange
end Stenotype
