import Stenotype.Resolution

/-!
# History

The newest translations with the slots they were resolved to, oldest first. When a new one does not
fit any more, the oldest leaves.
-/

set_option autoImplicit false

namespace Stenotype

structure Entry where
  translation : Translation
  slots : List Slot

namespace Entry

def firstLiteral (e : Entry) : Text := e.translation.firstLiteral

def actionsOf (next : Option Text) : List Slot → List Action
  | [] => []
  | [s] => [s.action next]
  | s :: ss => s.action none :: actionsOf next ss

def actions (e : Entry) (next : Option Text) : List Action := actionsOf next e.slots

end Entry

structure History where
  entries : List Entry
  capacity : Nat

namespace History

/-- An empty history; it has room for one entry at least. -/
def ofCapacity (n : Nat) : History := ⟨[], max n 1⟩

def clear (h : History) : History := { h with entries := [] }

/-- Adds an entry; the one that leaves for it. -/
def push (h : History) (e : Entry) : Option Entry × History :=
  match h.entries ++ [e] with
  | first :: rest =>
    if h.capacity < (first :: rest).length then (some first, { h with entries := rest })
    else (none, { h with entries := first :: rest })
  | [] => (none, h)

def pop (h : History) : Option Entry × History :=
  (h.entries.getLast?, { h with entries := h.entries.dropLast })

def popMany (h : History) (n : Nat) : History :=
  { h with entries := h.entries.take (h.entries.length - n) }

/-- The newest entries are those of `ts`, whatever they were resolved to. -/
def endsWith (h : History) (ts : List Translation) : Bool :=
  ts.length ≤ h.entries.length &&
    ((h.entries.drop (h.entries.length - ts.length)).zip ts).all fun (e, t) => e.translation.same t

/-- The text that follows what comes before `es`: of their first, or `next` if there is none. -/
def following (next : Option Text) : List Entry → Option Text
  | [] => next
  | e :: _ => some e.firstLiteral

def actionsOf (next : Option Text) : List Entry → List Action
  | [] => []
  | e :: es => e.actions (following next es) ++ actionsOf next es

end History
end Stenotype
