import Stenotype.Text.Case
import Stenotype.Text.Quoted

/-!
# Key combinations

A combination is a row of key names. A name with parentheses holds its key while the keys inside
are struck, so no key inside may have the same name. Names are in lower case whatever way they are
written.
-/

set_option autoImplicit false

namespace Stenotype

inductive KeyEvent
  | press (key : Text)
  | release (key : Text)
  deriving DecidableEq, Repr

/-- Positions are in bytes of UTF-8. -/
inductive KeyComboError
  | unbalancedClose (position : Nat)
  | unbalancedOpen
  | invalidCharacter (c : Char) (position : Nat)
  | alreadyPressed (key : Text)
  deriving DecidableEq, Repr

def Text.utf8Length (s : Text) : Nat := s.foldl (fun n c => n + c.utf8Size) 0

namespace KeyCombo

def isKeyChar (c : Char) : Bool := Text.isAlphanumeric c || c = '_'

/-- Parts of a combination. Where an error may be reported, `left` is the length of the text from
there on. -/
inductive Token
  | strike (key : Text)
  | hold (key : Text)
  | close (left : Nat)
  | invalid (c : Char) (left : Nat)
  deriving DecidableEq, Repr

def tokens : Text → List Token
  | [] => []
  | c :: r =>
    if Text.isBlank c then tokens r
    else if isKeyChar c then
      let key := Text.lower (c :: r.takeWhile isKeyChar)
      match _opens : (r.dropWhile isKeyChar).dropWhile Text.isBlank with
      | '(' :: rest => .hold key :: tokens rest
      | _ => .strike key :: tokens (r.dropWhile isKeyChar)
    else if c = ')' then .close (Text.utf8Length (c :: r)) :: tokens r
    else .invalid c (Text.utf8Length (c :: r)) :: tokens r
  termination_by s => s.length
  decreasing_by
    · simp
    · have h := (List.dropWhile_sublist Text.isBlank (l := r.dropWhile isKeyChar)).length_le
      have h' := (List.dropWhile_sublist isKeyChar (l := r)).length_le
      rw [_opens] at h
      simp only [List.length_cons] at h ⊢
      omega
    · have h := (List.dropWhile_sublist isKeyChar (l := r)).length_le
      simp only [List.length_cons]
      omega
    · simp
    · simp

/-- The events of the parts, with the held keys, the innermost first, in a combination of the
given length. -/
def events (length : Nat) : List Text → List Token → Except KeyComboError (List KeyEvent)
  | [], [] => .ok []
  | _ :: _, [] => .error .unbalancedOpen
  | held, .strike key :: ts =>
    if key ∈ held then .error (.alreadyPressed key)
    else do return .press key :: .release key :: (← events length held ts)
  | held, .hold key :: ts =>
    if key ∈ held then .error (.alreadyPressed key)
    else do return .press key :: (← events length (key :: held) ts)
  | [], .close left :: _ => .error (.unbalancedClose (length - left))
  | key :: held, .close _ :: ts => do return .release key :: (← events length held ts)
  | _, .invalid c left :: _ => .error (.invalidCharacter c (length - left))

def parse (combo : Text) : Except KeyComboError (List KeyEvent) :=
  events (Text.utf8Length combo) [] (tokens combo)

end KeyCombo

def KeyComboError.message (combo : Text) : KeyComboError → Text
  | unbalancedClose position =>
    "unbalanced \")\" at ".toList ++ Text.ofNat position ++ " in ".toList ++ Text.quoted combo
  | unbalancedOpen => "unbalanced \"(\" in ".toList ++ Text.quoted combo
  | invalidCharacter c position =>
    "invalid character ".toList ++ Text.quotedChar c ++ " at ".toList ++ Text.ofNat position ++
      " in ".toList ++ Text.quoted combo
  | alreadyPressed key =>
    "key ".toList ++ Text.quoted key ++ " already pressed in ".toList ++ Text.quoted combo

def KeyEvent.printed : KeyEvent → Text
  | press key => '+' :: key
  | release key => '-' :: key

end Stenotype
