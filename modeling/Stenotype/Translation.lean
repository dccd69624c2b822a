import Stenotype.Stroke
import Stenotype.Action

/-!
# Translations

A translation is a run of strokes with the English text they stand for, if any. It may carry the
slots that it was formatted to before; translations that differ only in these are the same.
-/

set_option autoImplicit false

namespace Stenotype

structure Translation where
  strokes : List Stroke
  english : Option Text
  formatting : Option (List Slot) := none
  deriving DecidableEq

namespace Translation

def ofOutlines (outlines : List Text) (english : Option Text) : Translation :=
  { strokes := outlines.map Stroke.ofOutline, english := english }

def outline (t : Translation) : Text := Text.joinWith ['/'] (t.strokes.map Stroke.outline)

def isCorrection (t : Translation) : Bool := t.strokes.any Stroke.isCorrection

def plain (t : Translation) : Translation := { t with formatting := none }

/-- The same strokes with the same text. -/
def same (t u : Translation) : Bool := t.strokes == u.strokes && t.english == u.english

theorem same_refl (t : Translation) : t.same t = true := by simp [same]

@[simp] theorem same_plain (t u : Translation) : t.plain.same u = t.same u := rfl

end Translation
end Stenotype
