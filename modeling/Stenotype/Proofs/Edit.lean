import Stenotype.Sink

/-!
# Edits

An edit leads from one screen to another. Replayed on the old text it ends with the new one, takes
back nothing of what both share, and sends every effect of the new screen that the old one has not
sent, once and in order, as soon as the text before it stands.
-/

set_option autoImplicit false

namespace Stenotype

namespace Instruction

def isEffect : Instruction → Bool
  | keyCombo _ => true
  | engineCommand _ => true
  | _ => false

def backspaceCount : List Instruction → Nat
  | [] => 0
  | backspaces n :: is => n + backspaceCount is
  | _ :: is => backspaceCount is

/-- The effects among the instructions, each with the text on screen when it is sent. -/
def effectScreens (screen : Text) : List Instruction → List (Instruction × Text)
  | [] => []
  | i :: is =>
    let rest := effectScreens (i.replay screen) is
    if i.isEffect then (i, screen) :: rest else rest

theorem replayAll_append (screen : Text) (is js : List Instruction) :
    replayAll screen (is ++ js) = replayAll (replayAll screen is) js := by
  simp [replayAll]

theorem backspaceCount_append (is js : List Instruction) :
    backspaceCount (is ++ js) = backspaceCount is + backspaceCount js := by
  induction is with
  | nil => simp [backspaceCount]
  | cons i is ih => cases i <;> simp [backspaceCount, ih, Nat.add_assoc]

theorem effectScreens_append (screen : Text) (is js : List Instruction) :
    effectScreens screen (is ++ js) =
      effectScreens screen is ++ effectScreens (replayAll screen is) js := by
  induction is generalizing screen with
  | nil => rfl
  | cons i is ih =>
    simp only [List.cons_append, effectScreens, ih, replayAll, List.foldl_cons]
    split <;> rfl

theorem take_prefix_replayAll (screen : Text) (is : List Instruction) :
    screen.take (screen.length - backspaceCount is) <+: replayAll screen is := by
  induction is generalizing screen with
  | nil => exact List.take_prefix _ _
  | cons i is ih =>
    refine List.IsPrefix.trans ?_ (ih (i.replay screen))
    cases i with
    | backspaces n =>
      simp only [backspaceCount, replay, Text.dropLast, List.take_take, List.length_take]
      exact List.take_prefix_take_left (by omega)
    | string s =>
      have front : screen.take (screen.length - backspaceCount is) =
          (screen ++ s).take (screen.length - backspaceCount is) :=
        (List.take_append_of_le_length (Nat.sub_le _ _)).symm
      simp only [backspaceCount, replay, List.length_append]
      rw [front]
      exact List.take_prefix_take_left (by omega)
    | keyCombo _ | engineCommand _ => exact List.prefix_rfl

theorem map_fst_effectScreens (screen : Text) (is : List Instruction) :
    (effectScreens screen is).map Prod.fst = is.filter isEffect := by
  induction is generalizing screen with
  | nil => rfl
  | cons i is ih =>
    simp only [effectScreens, List.filter_cons]
    split <;> simp [ih]

theorem isEffect_instruction (e : Effect) : e.instruction.isEffect = true := by
  cases e <;> rfl

theorem replay_effect (screen : Text) (e : Effect) : e.instruction.replay screen = screen := by
  cases e <;> rfl

end Instruction

namespace Capture

theorem sendEach_sink (c : Capture) (is : List Instruction) :
    sink.sendEach c is =
      (⟨c.instructions ++ is, Instruction.replayAll c.text is⟩, is.map fun _ => none) := by
  induction is generalizing c with
  | nil => simp [Sink.sendEach, Instruction.replayAll]
  | cons i is ih =>
    have step : sink.send c i = (c.add i, none) := rfl
    simp only [Sink.sendEach, step, ih, add, List.map_cons, Instruction.replayAll, List.foldl_cons,
      List.append_assoc, List.singleton_append]

theorem sendAll_sink (c : Capture) (is : List Instruction) :
    sink.sendAll c is = (⟨c.instructions ++ is, Instruction.replayAll c.text is⟩, none) := by
  have quiet : (is.map fun _ => (none : Option OutputError)).findSome? id = none := by simp
  simp only [Sink.sendAll, sendEach_sink, quiet]

end Capture

namespace Screen
open Instruction

theorem foldl_min_le (es : List Scheduled) (n : Nat) :
    es.foldl (fun kept e => min kept e.offset) n ≤ n ∧
      ∀ e ∈ es, es.foldl (fun kept e => min kept e.offset) n ≤ e.offset := by
  induction es generalizing n with
  | nil => simp
  | cons d es ih =>
    obtain ⟨start, each⟩ := ih (min n d.offset)
    rw [List.foldl_cons]
    refine ⟨by omega, ?_⟩
    intro e he
    rcases List.mem_cons.1 he with rfl | he
    · omega
    · exact each e he

theorem keptLength_le_commonLength (old new : Screen) :
    keptLength old new ≤ Text.commonLength old.text new.text :=
  (foldl_min_le _ _).1

theorem keptLength_le_offset {old new : Screen} {e : Scheduled} (h : e ∈ unsent old new) :
    keptLength old new ≤ e.offset :=
  (foldl_min_le _ _).2 e (List.mem_append_right _ h)

theorem keptLength_le_old (old new : Screen) : keptLength old new ≤ old.text.length :=
  Nat.le_trans (keptLength_le_commonLength old new) (Text.commonLength_le_left _ _)

theorem take_keptLength (old new : Screen) :
    old.text.take (keptLength old new) = new.text.take (keptLength old new) := by
  have le := keptLength_le_commonLength old new
  have common := congrArg (List.take (keptLength old new))
    (Text.take_commonLength old.text new.text)
  rwa [List.take_take, List.take_take, Nat.min_eq_left le] at common

theorem filter_unsent (old new : Screen) :
    ((unsent old new).filter fun e => keptLength old new ≤ e.offset) = unsent old new := by
  rw [List.filter_eq_self]
  intro e he
  exact decide_eq_true (keptLength_le_offset he)

theorem replayAll_typed (screen s : Text) : replayAll screen (typed s) = screen ++ s := by
  cases s <;> simp [typed, replayAll, replay]

theorem effectScreens_typed (screen s : Text) : effectScreens screen (typed s) = [] := by
  cases s <;> rfl

theorem backspaceCount_typed (s : Text) : backspaceCount (typed s) = 0 := by
  cases s <;> rfl

theorem take_append_drop_take (text : Text) {n m : Nat} (h : n ≤ m) :
    text.take n ++ (text.take m).drop n = text.take m := by
  have front : text.take n = (text.take m).take n := by rw [List.take_take, Nat.min_eq_left h]
  rw [front, List.take_append_drop]

theorem replayAll_append_typeFrom (front text : Text) (done : Nat) (es : List Scheduled) :
    replayAll (front ++ text.take done) (typeFrom text done es) = front ++ text := by
  induction es generalizing done with
  | nil => rw [typeFrom, replayAll_typed, List.append_assoc, List.take_append_drop]
  | cons e es ih =>
    rw [typeFrom, replayAll_append, replayAll_typed, List.append_assoc,
      take_append_drop_take _ (by omega)]
    change replayAll (e.effect.instruction.replay _) _ = front ++ text
    rw [replay_effect, ih]

theorem backspaceCount_typeFrom (text : Text) (done : Nat) (es : List Scheduled) :
    backspaceCount (typeFrom text done es) = 0 := by
  induction es generalizing done with
  | nil => exact backspaceCount_typed _
  | cons e es ih =>
    rw [typeFrom, backspaceCount_append, backspaceCount_typed]
    cases h : e.effect <;> simp [Effect.instruction, backspaceCount, ih]

/-- How far the text stands once the last of `es` is sent, `done` of it before the first. -/
def dueAfter (text : Text) (done : Nat) (es : List Scheduled) : Nat :=
  (es.map fun e => min e.offset text.length).foldl max done

theorem effectScreens_typeFrom (text : Text) (done : Nat) (es : List Scheduled) :
    effectScreens (text.take done) (typeFrom text done es) =
      es.mapIdx fun i e => (e.effect.instruction, text.take (dueAfter text done (es.take (i + 1)))) := by
  induction es generalizing done with
  | nil => exact effectScreens_typed _ _
  | cons e es ih =>
    rw [typeFrom, effectScreens_append, effectScreens_typed, replayAll_typed,
      take_append_drop_take _ (by omega), List.nil_append, effectScreens, isEffect_instruction,
      if_pos rfl, replay_effect, ih, List.mapIdx_cons]
    rfl

def erase (n : Nat) : List Instruction := if n = 0 then [] else [.backspaces n]

theorem diff_eq (old new : Screen) :
    diff old new =
      erase (old.text.length - keptLength old new) ++
        typeFrom new.text (keptLength old new) (unsent old new) := by
  rw [diff, filter_unsent, erase]

theorem replayAll_erase (s : Text) (n : Nat) : replayAll s (erase n) = s.take (s.length - n) := by
  unfold erase
  split
  · next h => simp [h, replayAll]
  · rfl

theorem backspaceCount_erase (n : Nat) : backspaceCount (erase n) = n := by
  unfold erase
  split
  · next h => simp [h, backspaceCount]
  · rfl

theorem effectScreens_erase (screen : Text) (n : Nat) : effectScreens screen (erase n) = [] := by
  unfold erase
  split <;> rfl

theorem replayAll_append_erase (front s : Text) {n : Nat} (le : n ≤ s.length) :
    replayAll (front ++ s) (erase n) = front ++ s.take (s.length - n) := by
  have kept : (front ++ s).length - n = front.length + (s.length - n) := by
    rw [List.length_append]
    omega
  rw [replayAll_erase, kept, List.take_length_add_append]

theorem replayAll_append_diff (front : Text) (old new : Screen) :
    replayAll (front ++ old.text) (diff old new) = front ++ new.text := by
  have le := keptLength_le_old old new
  have kept : old.text.length - (old.text.length - keptLength old new) = keptLength old new := by
    omega
  rw [diff_eq, replayAll_append, replayAll_append_erase front _ (Nat.sub_le _ _), kept,
    take_keptLength, replayAll_append_typeFrom]

theorem replayAll_erase_kept (old new : Screen) :
    replayAll old.text (erase (old.text.length - keptLength old new)) =
      new.text.take (keptLength old new) := by
  have le := keptLength_le_old old new
  rw [replayAll_erase, ← take_keptLength]
  congr 1
  omega

theorem replayAll_diff (old new : Screen) : replayAll old.text (diff old new) = new.text :=
  replayAll_append_diff [] old new

theorem backspaceCount_diff (old new : Screen) :
    backspaceCount (diff old new) = old.text.length - keptLength old new := by
  rw [diff_eq, backspaceCount_append, backspaceCount_erase, backspaceCount_typeFrom, Nat.add_zero]

theorem commonLength_append {α : Type} [DecidableEq α] (a b : List α) :
    Text.commonLength a (a ++ b) = a.length := by
  refine Nat.le_antisymm (Text.commonLength_le_left _ _) (Text.le_commonLength (Nat.le_refl _) ?_ ?_)
  · rw [List.length_append]
    omega
  · rw [List.take_length, List.take_left]

theorem diff_append (a b : Text) (es : List Scheduled) : diff ⟨a, es⟩ ⟨a ++ b, es⟩ = typed b := by
  have kept : keptLength ⟨a, es⟩ ⟨a ++ b, es⟩ = a.length := by
    simp [keptLength, Text.commonLength_self, commonLength_append]
  have nothing : unsent ⟨a, es⟩ ⟨a ++ b, es⟩ = [] := by
    simp [unsent, Text.commonLength_self]
  rw [diff_eq, kept, nothing, Nat.sub_self, erase, if_pos rfl, List.nil_append, typeFrom,
    List.drop_left]

theorem diff_self (s : Screen) : diff s s = [] := by
  have same := diff_append s.text [] s.schedule
  rw [List.append_nil] at same
  exact same

theorem take_kept_prefix_replayAll (old new : Screen) (n : Nat) :
    old.text.take (keptLength old new) <+: replayAll old.text ((diff old new).take n) := by
  have le := keptLength_le_old old new
  have parts := backspaceCount_append ((diff old new).take n) ((diff old new).drop n)
  rw [List.take_append_drop, backspaceCount_diff] at parts
  refine List.IsPrefix.trans ?_ (take_prefix_replayAll _ _)
  exact List.take_prefix_take_left (by omega)

theorem effectScreens_diff (old new : Screen) :
    effectScreens old.text (diff old new) =
      (unsent old new).mapIdx fun i e => (e.effect.instruction,
        new.text.take (dueAfter new.text (keptLength old new) ((unsent old new).take (i + 1)))) := by
  rw [diff_eq, effectScreens_append, effectScreens_erase, replayAll_erase_kept,
    effectScreens_typeFrom, List.nil_append]

theorem filter_isEffect_diff (old new : Screen) :
    (diff old new).filter isEffect = (unsent old new).map fun e => e.effect.instruction := by
  rw [← map_fst_effectScreens old.text, effectScreens_diff]
  apply List.ext_getElem?
  intro i
  rw [List.getElem?_map, List.getElem?_mapIdx, List.getElem?_map, Option.map_map]
  rfl

/-- Replayed on the old text an edit ends with the new one. It takes back `old.text` down to a
beginning that both texts share and never more; its effects are those after the longest common
beginning of the schedules, and each is sent when the text stands as far as the effects up to it
are due. -/
theorem diff_replays_to_new (old new : Screen) (taken : List Instruction) :
    let edit := diff old new
    let kept := old.text.length - backspaceCount edit
    let fresh := new.schedule.drop (Text.commonLength old.schedule new.schedule)
    (Capture.sink.sendAll ⟨taken, old.text⟩ edit).1.text = new.text ∧
      backspaceCount edit ≤ old.text.length ∧
      old.text.take kept = new.text.take kept ∧
      (∀ n, old.text.take kept <+: replayAll old.text (edit.take n)) ∧
      edit.filter isEffect = fresh.map (fun e => e.effect.instruction) ∧
      effectScreens old.text edit = fresh.mapIdx fun i e => (e.effect.instruction, new.text.take
        (((fresh.take (i + 1)).map fun e => min e.offset new.text.length).foldl max kept)) := by
  intro edit kept fresh
  have le := keptLength_le_old old new
  have count : backspaceCount edit = old.text.length - keptLength old new :=
    backspaceCount_diff old new
  have kept_eq : kept = keptLength old new := by
    change old.text.length - backspaceCount edit = _
    omega
  rw [kept_eq]
  refine ⟨?_, by omega, take_keptLength old new, take_kept_prefix_replayAll old new,
    filter_isEffect_diff old new, effectScreens_diff old new⟩
  rw [Capture.sendAll_sink]
  exact replayAll_diff old new

end Screen
end Stenotype
