import Stenotype.Proofs.NormalEdit

/-!
# A common front

When two screens lose the same characters from the front of what their texts share, the edit between
them stays the same, provided that no effect is lost that only one of them has.
-/

set_option autoImplicit false

namespace Stenotype

namespace Text
variable {α β : Type} [DecidableEq α] [DecidableEq β]

theorem commonLength_append_append (front a b : List α) :
    commonLength (front ++ a) (front ++ b) = front.length + commonLength a b := by
  induction front with
  | nil => rw [List.nil_append, List.nil_append, List.length_nil, Nat.zero_add]
  | cons c front ih =>
    rw [List.cons_append, List.cons_append, commonLength, if_pos rfl, ih, List.length_cons]
    omega

theorem commonLength_drop {a b : List α} {n : Nat} (le : n ≤ commonLength a b) :
    commonLength (a.drop n) (b.drop n) = commonLength a b - n := by
  have same : a.take n = b.take n := by
    have all := congrArg (List.take n) (take_commonLength a b)
    rwa [List.take_take, List.take_take, Nat.min_eq_left le] at all
  have length : (b.take n).length = n :=
    List.length_take_of_le (le.trans (commonLength_le_right a b))
  have parts := commonLength_append_append (b.take n) (a.drop n) (b.drop n)
  rw [List.take_append_drop, ← same, List.take_append_drop, same, length] at parts
  omega

theorem commonLength_map {f : α → β} {a b : List α}
    (injective : ∀ x ∈ a, ∀ y ∈ b, f x = f y → x = y) :
    commonLength (a.map f) (b.map f) = commonLength a b := by
  induction a generalizing b with
  | nil => rfl
  | cons x as ih =>
    cases b with
    | nil => rfl
    | cons y bs =>
      have rest := ih fun z mem w mem' =>
        injective z (List.mem_cons_of_mem x mem) w (List.mem_cons_of_mem y mem')
      have heads : f x = f y ↔ x = y :=
        ⟨injective x (List.mem_cons_self ..) y (List.mem_cons_self ..), congrArg f⟩
      simp only [List.map_cons, commonLength, heads, rest]

end Text

def Scheduled.earlier (n : Nat) (e : Scheduled) : Scheduled := { e with offset := e.offset - n }

theorem Scheduled.eq_of_earlier_eq {n : Nat} {d e : Scheduled} (late : n ≤ d.offset)
    (late' : n ≤ e.offset) (same : d.earlier n = e.earlier n) : d = e := by
  obtain ⟨offset, effect⟩ := d
  obtain ⟨offset', effect'⟩ := e
  simp only [earlier, Scheduled.mk.injEq] at late late' same ⊢
  exact ⟨by omega, same.2⟩

namespace Screen
variable {old new : Screen} {n : Nat}

theorem schedule_dropFront (late : ∀ e ∈ changed old new, n ≤ e.offset) :
    let shared := Text.commonLength old.schedule new.schedule
    ∃ front : List Scheduled,
      (old.dropFront n).schedule = front ++ (old.schedule.drop shared).map (Scheduled.earlier n) ∧
      (new.dropFront n).schedule = front ++ (new.schedule.drop shared).map (Scheduled.earlier n) := by
  intro shared
  let held (es : List Scheduled) := es.filter fun e => n ≤ e.offset
  have parts (es : List Scheduled) (late : ∀ e ∈ es.drop shared, n ≤ e.offset) :
      held es = held (es.take shared) ++ es.drop shared := by
    have rest : held (es.drop shared) = es.drop shared :=
      List.filter_eq_self.2 fun e mem => decide_eq_true (late e mem)
    rw [← rest, ← List.filter_append, List.take_append_drop]
  have common : new.schedule.take shared = old.schedule.take shared :=
    (Text.take_commonLength old.schedule new.schedule).symm
  refine ⟨(held (old.schedule.take shared)).map (Scheduled.earlier n), ?_, ?_⟩
  · change (held old.schedule).map (Scheduled.earlier n) = _
    rw [parts _ fun e mem => late e (List.mem_append_left _ mem), List.map_append]
  · change (held new.schedule).map (Scheduled.earlier n) = _
    rw [parts _ fun e mem => late e (List.mem_append_right _ mem), List.map_append, common]

theorem drop_schedule_dropFront (late : ∀ e ∈ changed old new, n ≤ e.offset) :
    let shared := Text.commonLength old.schedule new.schedule
    let shared' := Text.commonLength (old.dropFront n).schedule (new.dropFront n).schedule
    (old.dropFront n).schedule.drop shared' =
        (old.schedule.drop shared).map (Scheduled.earlier n) ∧
      (new.dropFront n).schedule.drop shared' =
        (new.schedule.drop shared).map (Scheduled.earlier n) := by
  intro shared shared'
  obtain ⟨front, oldParts, newParts⟩ := schedule_dropFront late
  have differ : Text.commonLength ((old.schedule.drop shared).map (Scheduled.earlier n))
      ((new.schedule.drop shared).map (Scheduled.earlier n)) = 0 := by
    rw [Text.commonLength_map, Text.commonLength_drop (Nat.le_refl _), Nat.sub_self]
    intro d mem e mem' same
    exact Scheduled.eq_of_earlier_eq (late d (List.mem_append_left _ mem))
      (late e (List.mem_append_right _ mem')) same
  have length : shared' = front.length := by
    change Text.commonLength (old.dropFront n).schedule (new.dropFront n).schedule = _
    rw [oldParts, newParts, Text.commonLength_append_append, differ, Nat.add_zero]
  rw [length, oldParts, newParts, List.drop_left, List.drop_left]
  exact ⟨rfl, rfl⟩

theorem foldl_min_earlier (es : List Scheduled) (k : Nat) :
    (es.map (Scheduled.earlier n)).foldl (fun kept e => min kept e.offset) (k - n) =
      es.foldl (fun kept e => min kept e.offset) k - n := by
  induction es generalizing k with
  | nil => rfl
  | cons e es ih =>
    have first : min (k - n) (e.offset - n) = min k e.offset - n := by omega
    rw [List.map_cons, List.foldl_cons, List.foldl_cons, ← ih, ← first]
    rfl

theorem keptLength_dropFront (le : n ≤ Text.commonLength old.text new.text)
    (late : ∀ e ∈ changed old new, n ≤ e.offset) :
    keptLength (old.dropFront n) (new.dropFront n) = keptLength old new - n := by
  obtain ⟨oldRest, newRest⟩ := drop_schedule_dropFront late
  have text : Text.commonLength (old.dropFront n).text (new.dropFront n).text =
      Text.commonLength old.text new.text - n := Text.commonLength_drop le
  rw [keptLength, oldRest, newRest, text, ← List.map_append, foldl_min_earlier]
  rfl

theorem typeFrom_drop (text : Text) {done : Nat} (le : n ≤ done) (es : List Scheduled) :
    typeFrom (text.drop n) (done - n) (es.map (Scheduled.earlier n)) = typeFrom text done es := by
  induction es generalizing done with
  | nil =>
    rw [List.map_nil, typeFrom, typeFrom, List.drop_drop, Nat.add_sub_cancel' le]
  | cons e es ih =>
    let due := max done (min e.offset text.length)
    have later : n ≤ due := by omega
    have due_eq : max (done - n) (min (e.offset - n) (text.drop n).length) = due - n := by
      rw [List.length_drop]
      omega
    have piece : ((text.drop n).take (due - n)).drop (done - n) = (text.take due).drop done := by
      rw [List.take_drop, List.drop_drop, Nat.add_sub_cancel' le, Nat.add_sub_cancel' later]
    rw [List.map_cons, typeFrom, typeFrom]
    change typed (((text.drop n).take (max (done - n) (min (e.offset - n) _))).drop _) ++
      e.effect.instruction :: typeFrom _ (max (done - n) (min (e.offset - n) _)) _ = _
    rw [due_eq, piece, ih later]

/-- The edit does not change when both screens lose `n` characters that both begin with, unless an
effect that is due before their end is not among those that both schedules begin with. -/
theorem diff_dropFront (le : n ≤ Text.commonLength old.text new.text)
    (late : ∀ e ∈ changed old new, n ≤ e.offset) :
    diff (old.dropFront n) (new.dropFront n) = diff old new := by
  have kept := keptLength_dropFront le late
  have most : n ≤ keptLength old new := le_keptLength_iff.2 ⟨le, late⟩
  have erased : (old.text.drop n).length - (keptLength old new - n) =
      old.text.length - keptLength old new := by
    rw [List.length_drop]
    omega
  have rest : unsent (old.dropFront n) (new.dropFront n) =
      (unsent old new).map (Scheduled.earlier n) := (drop_schedule_dropFront late).2
  rw [diff_eq, diff_eq, kept, rest]
  change erase ((old.text.drop n).length - _) ++ typeFrom (new.text.drop n) _ _ = _
  rw [erased, typeFrom_drop new.text most]

/-- Schedules out of order, with an effect among the shared ones that is due before the cut. -/
theorem diff_dropFront_outOfOrder :
    let shared : List Scheduled := [⟨9, .keyCombo "x".toList⟩, ⟨2, .keyCombo "y".toList⟩]
    let old : Screen := ⟨"foo bar".toList, shared ++ [⟨5, .engineCommand "toggle".toList⟩]⟩
    let new : Screen := ⟨"foo bat".toList, shared ++ [⟨6, .engineCommand "quit".toList⟩]⟩
    4 ≤ Text.commonLength old.text new.text ∧ (∀ e ∈ changed old new, 4 ≤ e.offset) ∧
      (old.dropFront 4).schedule.length = 2 ∧
      diff (old.dropFront 4) (new.dropFront 4) = diff old new ∧
      diff old new = [.backspaces 2, .string "a".toList, .engineCommand "quit".toList,
        .string "t".toList] := by
  intro shared old new
  have le : 4 ≤ Text.commonLength old.text new.text := by decide
  have late : ∀ e ∈ changed old new, 4 ≤ e.offset := by decide
  exact ⟨le, late, by decide, diff_dropFront le late, by decide⟩

end Screen
end Stenotype
