import Mathlib.Data.List.Chain
import Mathlib.Order.Bounds.Defs
import Stenotype.Proofs.Edit

/-!
# Normal edits

An edit takes back at most once, before all else, and types neither nothing nor the same text in two
pieces. It keeps all of the old text that it can: what both texts begin with, up to the first effect
that only one of the screens has. So it is empty exactly if nothing is left to type or to send.
-/

set_option autoImplicit false

namespace Stenotype

theorem Text.commonLength_eq_length_right_iff {α : Type} [DecidableEq α] {a b : List α} :
    commonLength a b = b.length ↔ b <+: a := by
  constructor
  · intro all
    have front := take_commonLength a b
    rw [all, List.take_length] at front
    exact front ▸ List.take_prefix _ _
  · rintro ⟨rest, rfl⟩
    refine Nat.le_antisymm (commonLength_le_right _ _) (le_commonLength ?_ (Nat.le_refl _) ?_)
    · rw [List.length_append]
      exact Nat.le_add_right _ _
    · rw [List.take_left, List.take_length]

namespace Instruction

def isTyping : Instruction → Bool
  | string _ => true
  | _ => false

/-- Takes back at most once and only at the beginning, and types no empty text and no text in two
pieces. -/
structure IsNormal (is : List Instruction) : Prop where
  takesBackFirst : ∀ i n, is[i]? = some (backspaces n) → i = 0 ∧ 0 < n
  typesSome : string [] ∉ is
  typesAtOnce : is.IsChain fun i j => i.isTyping = true → j.isTyping = false

theorem isTyping_instruction (e : Effect) : e.instruction.isTyping = false := by
  cases e <;> rfl

end Instruction

namespace Screen
open Instruction

theorem mem_typed {s : Text} {i : Instruction} (h : i ∈ typed s) : s ≠ [] ∧ i = .string s := by
  cases s with
  | nil => simp [typed] at h
  | cons c r => simpa [typed] using h

theorem mem_typeFrom {text : Text} {done : Nat} {es : List Scheduled} {i : Instruction}
    (h : i ∈ typeFrom text done es) : i.isEffect = true ∨ ∃ s ≠ [], i = .string s := by
  induction es generalizing done with
  | nil => exact .inr ⟨_, mem_typed h⟩
  | cons e es ih =>
    rw [typeFrom, List.mem_append, List.mem_cons] at h
    rcases h with before | rfl | after
    · exact .inr ⟨_, mem_typed before⟩
    · exact .inl (isEffect_instruction e.effect)
    · exact ih after

theorem isChain_typeFrom (text : Text) (done : Nat) (es : List Scheduled) :
    (typeFrom text done es).IsChain fun i j => i.isTyping = true → j.isTyping = false := by
  induction es generalizing done with
  | nil =>
    rw [typeFrom, typed]
    split
    · exact .nil
    · exact .singleton _
  | cons e es ih =>
    have effect : e.effect.instruction.isTyping = false := isTyping_instruction e.effect
    let due := max done (min e.offset text.length)
    have later : (e.effect.instruction :: typeFrom text due es).IsChain
        fun i j => i.isTyping = true → j.isTyping = false :=
      List.isChain_cons.2 ⟨fun j _ typing => absurd typing (by simp [effect]), ih due⟩
    rw [typeFrom, typed]
    split
    · exact later
    · exact List.isChain_cons_cons.2 ⟨fun _ => effect, later⟩

theorem isNormal_diff (old new : Screen) : IsNormal (diff old new) := by
  let typing := typeFrom new.text (keptLength old new) (unsent old new)
  have typingOnly (n : Nat) : Instruction.backspaces n ∉ typing := by
    intro mem
    rcases mem_typeFrom mem with effect | ⟨s, _, same⟩
    · cases effect
    · cases same
  have typingSome : Instruction.string [] ∉ typing := by
    intro mem
    rcases mem_typeFrom mem with effect | ⟨s, ne, same⟩
    · cases effect
    · cases same
      exact ne rfl
  have atOnce := isChain_typeFrom new.text (keptLength old new) (unsent old new)
  rw [diff_eq, erase]
  split
  · exact ⟨fun i n here => absurd (List.mem_of_getElem? here) (typingOnly n), typingSome, atOnce⟩
  · next some_erased =>
    rw [List.singleton_append]
    refine ⟨fun i n here => ?_, ?_, ?_⟩
    · cases i with
      | zero =>
        cases here
        exact ⟨rfl, Nat.pos_of_ne_zero some_erased⟩
      | succ i =>
        rw [List.getElem?_cons_succ] at here
        exact absurd (List.mem_of_getElem? here) (typingOnly n)
    · simpa using typingSome
    · exact List.isChain_cons.2 ⟨fun _ _ typing => absurd typing Bool.false_ne_true, atOnce⟩

/-- The effects of either screen after those that both share. -/
def changed (old new : Screen) : List Scheduled :=
  let shared := Text.commonLength old.schedule new.schedule
  old.schedule.drop shared ++ new.schedule.drop shared

theorem le_foldl_min {es : List Scheduled} {n k : Nat} (start : k ≤ n) (each : ∀ e ∈ es, k ≤ e.offset) :
    k ≤ es.foldl (fun kept e => min kept e.offset) n := by
  induction es generalizing n with
  | nil => exact start
  | cons e es ih =>
    exact ih (Nat.le_min.2 ⟨start, each e (List.mem_cons_self ..)⟩) fun d mem =>
      each d (List.mem_cons_of_mem e mem)

theorem le_keptLength_iff {old new : Screen} {k : Nat} :
    k ≤ keptLength old new ↔
      k ≤ Text.commonLength old.text new.text ∧ ∀ e ∈ changed old new, k ≤ e.offset := by
  have least := foldl_min_le (changed old new) (Text.commonLength old.text new.text)
  constructor
  · intro le
    exact ⟨le.trans least.1, fun e mem => le.trans (least.2 e mem)⟩
  · rintro ⟨start, each⟩
    exact le_foldl_min start each

theorem typeFrom_eq_nil_iff {text : Text} {done : Nat} {es : List Scheduled} :
    typeFrom text done es = [] ↔ es = [] ∧ text.length ≤ done := by
  cases es with
  | nil => simp [typeFrom, typed]
  | cons e es => simp [typeFrom]

theorem unsent_eq_nil_iff {old new : Screen} :
    unsent old new = [] ↔ new.schedule <+: old.schedule := by
  rw [unsent, List.drop_eq_nil_iff, ← Text.commonLength_eq_length_right_iff]
  exact ⟨Nat.le_antisymm (Text.commonLength_le_right _ _), Nat.le_of_eq ∘ Eq.symm⟩

theorem changed_eq_drop {old new : Screen} (sent : new.schedule <+: old.schedule) :
    changed old new = old.schedule.drop new.schedule.length := by
  simp only [changed, Text.commonLength_eq_length_right_iff.2 sent, List.drop_length, List.append_nil]

theorem diff_eq_nil_iff {old new : Screen} :
    diff old new = [] ↔
      old.text = new.text ∧ new.schedule <+: old.schedule ∧
        ∀ e ∈ old.schedule.drop new.schedule.length, new.text.length ≤ e.offset := by
  have nothing : diff old new = [] ↔
      old.text.length ≤ keptLength old new ∧ new.text.length ≤ keptLength old new ∧
        new.schedule <+: old.schedule := by
    rw [diff_eq, List.append_eq_nil_iff, typeFrom_eq_nil_iff, unsent_eq_nil_iff, erase,
      and_comm (a := _ <+: _)]
    simp [Nat.sub_eq_zero_iff_le]
  rw [nothing]
  constructor
  · rintro ⟨allOld, allNew, sent⟩
    have same := take_keptLength old new
    rw [List.take_of_length_le allOld, List.take_of_length_le allNew] at same
    refine ⟨same, sent, fun e dropped => ?_⟩
    rw [← changed_eq_drop sent] at dropped
    exact (le_keptLength_iff.1 allNew).2 e dropped
  · rintro ⟨same, sent, late⟩
    have all : new.text.length ≤ keptLength old new := by
      refine le_keptLength_iff.2 ⟨?_, fun e dropped => ?_⟩
      · rw [same, Text.commonLength_self]
      · rw [changed_eq_drop sent] at dropped
        exact late e dropped
    exact ⟨by rw [same]; exact all, all, sent⟩

/-- An edit is in normal form and minimal. What it keeps of the old text is the longest common
beginning of the texts at whose end or after it all effects are due that only one screen has; it is
empty exactly if the text stays, nothing is to be sent, and no effect that is gone was due in it. -/
theorem diff_is_normal_and_minimal (old new : Screen) :
    let edit := diff old new
    let kept := old.text.length - backspaceCount edit
    let common := Text.commonLength old.text new.text
    IsNormal edit ∧ backspaceCount edit ≤ old.text.length ∧
      IsGreatest {k | k ≤ common ∧ ∀ e ∈ changed old new, k ≤ e.offset} kept ∧
      (changed old new = [] → backspaceCount edit = old.text.length - common) ∧
      (edit = [] ↔ old.text = new.text ∧ new.schedule <+: old.schedule ∧
        ∀ e ∈ old.schedule.drop new.schedule.length, new.text.length ≤ e.offset) := by
  intro edit kept common
  have le := keptLength_le_old old new
  have count : backspaceCount edit = old.text.length - keptLength old new :=
    backspaceCount_diff old new
  have kept_eq : kept = keptLength old new := by
    change old.text.length - backspaceCount edit = _
    omega
  rw [kept_eq]
  have greatest :
      IsGreatest {k | k ≤ common ∧ ∀ e ∈ changed old new, k ≤ e.offset} (keptLength old new) :=
    ⟨le_keptLength_iff.1 (Nat.le_refl _), fun k free => le_keptLength_iff.2 free⟩
  refine ⟨isNormal_diff old new, by omega, greatest, fun unchanged => ?_, diff_eq_nil_iff⟩
  have most : common ≤ keptLength old new :=
    greatest.2 ⟨Nat.le_refl _, fun e mem => absurd mem (by simp [unchanged])⟩
  rw [count, Nat.le_antisymm greatest.1.1 most]

end Screen
end Stenotype
