import Stenotype.Formatter

/-!
# The formatting service

The service handles commands in the order in which they arrive and delivers the edit of each
request, unless it is empty. When nobody receives its output any more it stops at the first edit
that cannot be delivered.
-/

set_option autoImplicit false

namespace Stenotype

structure Request where
  undo : List Translation := []
  new : List Translation := []
  prev : Option Translation := none

namespace Request

def push (t : Translation) : Request := { new := [t] }

def takeBack (t : Translation) : Request := { undo := [t] }

end Request

inductive ServiceCommand
  | format (r : Request)
  | reset

inductive Phase
  | idle
  | formatting
  | stopped
  deriving DecidableEq, Repr

structure Status where
  phase : Phase := .idle
  renderedText : Text := []
  historyLength : Nat := 0
  /-- How many commands were handled. It is a natural number for a counter of 64 bits, so it tells
  their number as long as that stays below 2^64. -/
  requests : Nat := 0
  errorMessage : Option Text := none
  deriving DecidableEq, Repr

def Status.afterCommand (s : Status) (f : Formatter) : Status where
  phase := .idle
  renderedText := f.rendered.text
  historyLength := f.history.entries.length
  requests := s.requests + 1
  errorMessage := none

structure Service where
  formatter : Formatter
  status : Status := {}
  delivered : List (List Instruction) := []
  isHeard : Bool := true

namespace Service

def ofFormatter (f : Formatter) : Service := { formatter := f }

def isRunning (s : Service) : Bool := s.status.phase ≠ .stopped

def unheard : Text := "output receiver dropped".toList

def perform (s : Service) : ServiceCommand → Service × List Instruction
  | .format r =>
    let (f, is) := s.formatter.format r.undo r.new r.prev
    ({ s with formatter := f, status := s.status.afterCommand f }, is)
  | .reset =>
    let f := s.formatter.reset
    ({ s with formatter := f, status := s.status.afterCommand f }, [])

def reportUnheard (s : Service) : Service :=
  { s with status := { s.status with errorMessage := some unheard } }

def stop (s : Service) : Service := { s with status := { s.status with phase := .stopped } }

def deliver (s : Service) (is : List Instruction) : Service :=
  { s with delivered := s.delivered ++ [is] }

/-- Delivers an edit that is not empty, or stops. -/
def finish (s : Service) (is : List Instruction) : Service :=
  if is.isEmpty then s
  else if s.isHeard then s.deliver is
  else s.reportUnheard.stop

def handle (s : Service) (c : ServiceCommand) : Service :=
  if !s.isRunning then s
  else
    let (s, is) := s.perform c
    s.finish is

def handleAll (s : Service) (cs : List ServiceCommand) : Service := cs.foldl handle s

def collect (s : Service) : List (List Instruction) × Service :=
  (s.delivered, { s with delivered := [] })

def dropReceiver (s : Service) : Service := { s with isHeard := false }

inductive SubmitError
  | closed
  deriving DecidableEq, Repr

def SubmitError.message : SubmitError → Text
  | closed => "formatting service is not running".toList

def submit (s : Service) (c : ServiceCommand) : Except SubmitError Service :=
  if s.isRunning then .ok (s.handle c) else .error .closed

end Service
end Stenotype
