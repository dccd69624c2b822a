import Stenotype.Proofs.Matching

/-!
# The texts that an expression takes

What an expression takes of a text is said without a run: by the stretch, what is before it and what
is after it. A run ends where such a stretch ends, and it finds an end wherever there is one, although
it makes no further round that uses up nothing. So a search succeeds exactly if some stretch of the
text is one that the expression takes.
-/

set_option autoImplicit false

namespace Stenotype
namespace Pattern.Regex

/-- `u` is `n` stretches, one after the other. Each stretch is given with what is before it, the
nearest first, and what is after it. -/
def Repeats (one : Text → Text → Text → Prop) : Nat → Text → Text → Text → Prop
  | 0, _, u, _ => u = []
  | n + 1, before, u, after =>
    ∃ v w, u = v ++ w ∧ one before v (w ++ after) ∧ Repeats one n (v.reverse ++ before) w after

/-- The expression takes the stretch `u`, with `before` before it and `after` after it. -/
def Takes : Regex → Text → Text → Text → Prop
  | empty, _, u, _ => u = []
  | char s, _, u, _ => ∃ x, u = [x] ∧ s.mem x = true
  | anchor a, before, u, after => u = [] ∧ a.holds ⟨before, after, []⟩ = true
  | seq r s, before, u, after =>
    ∃ v w, u = v ++ w ∧ r.Takes before v (w ++ after) ∧ s.Takes (v.reverse ++ before) w after
  | alt r s, before, u, after => r.Takes before u after ∨ s.Takes before u after
  | group _ r, before, u, after => r.Takes before u after
  | rep r least most _, before, u, after =>
    ∃ n, least ≤ n ∧ (∀ m ∈ most, n ≤ least + (m - least)) ∧ Repeats r.Takes n before u after

def Spans (takes : Text → Text → Text → Prop) (c d : Cursor) : Prop :=
  ∃ u, c.after = u ++ d.after ∧ d.before = u.reverse ++ c.before ∧ takes c.before u d.after

theorem holds_of_place {a : Anchor} {c : Cursor} (h : a.holds c = true) :
    a.holds ⟨c.before, c.after, []⟩ = true := by
  cases a <;> exact h

theorem Rounds.spans {step : Cursor → Cursor → Prop} {one : Text → Text → Text → Prop}
    (each : ∀ c d : Cursor, step c d → Spans one c d) {n : Nat} {c d : Cursor} (h : Rounds step n c d) :
    Spans (Repeats one n) c d := by
  induction n generalizing c with
  | zero =>
    cases h
    exact ⟨[], rfl, rfl, rfl⟩
  | succ n ih =>
    obtain ⟨e, first, later⟩ := h
    obtain ⟨v, text, before, here⟩ := each c e first
    obtain ⟨w, text', before', rest⟩ := ih later
    rw [text'] at here text
    refine ⟨v ++ w, by rw [text, List.append_assoc],
      by rw [before', before, List.reverse_append, List.append_assoc], v, w, rfl, here, ?_⟩
    rwa [← before]

theorem Reaches.takes {r : Regex} {c d : Cursor} (h : r.Reaches c d) : Spans r.Takes c d := by
  induction r generalizing c d with
  | empty =>
    cases h
    exact ⟨[], rfl, rfl, rfl⟩
  | char s =>
    obtain ⟨x, rest, after, mem, rfl⟩ := h
    exact ⟨[x], after, rfl, x, rfl, mem⟩
  | anchor a =>
    obtain ⟨holds, rfl⟩ := h
    exact ⟨[], rfl, rfl, rfl, holds_of_place holds⟩
  | seq r s ihr ihs =>
    obtain ⟨e, first, later⟩ := h
    obtain ⟨v, text, before, here⟩ := ihr first
    obtain ⟨w, text', before', rest⟩ := ihs later
    rw [text'] at here text
    refine ⟨v ++ w, by rw [text, List.append_assoc],
      by rw [before', before, List.reverse_append, List.append_assoc], v, w, rfl, here, ?_⟩
    rwa [← before]
  | alt r s ihr ihs =>
    rcases h with h | h
    · obtain ⟨u, text, before, here⟩ := ihr h
      exact ⟨u, text, before, .inl here⟩
    · obtain ⟨u, text, before, here⟩ := ihs h
      exact ⟨u, text, before, .inr here⟩
  | group n r ih =>
    obtain ⟨e, inside, rfl⟩ := h
    obtain ⟨u, text, before, here⟩ := ih inside
    exact ⟨u, text, before, here⟩
  | rep r least most greedy ih =>
    obtain ⟨n, le, within, rounds⟩ := h
    obtain ⟨u, text, before, here⟩ := rounds.spans fun _ _ => ih
    exact ⟨u, text, before, n, le, within, here⟩

/-- The round goes on behind every stretch of `takes`, whatever groups have been taken: if the
continuation accepts what comes there, something is found. -/
def Finds {α : Type} (takes : Text → Text → Text → Prop) (round : Round α) : Prop :=
  ∀ before u after gs k, takes before u after →
    (∀ gs, (k ⟨u.reverse ++ before, after, gs⟩).isSome = true) →
    (round ⟨before, u ++ after, gs⟩ k).isSome = true

theorem isSome_attempt {α : Type} {greedy : Bool} {more stop : Unit → Option α}
    (h : (more ()).isSome = true ∨ (stop ()).isSome = true) :
    (attempt greedy more stop).isSome = true := by
  unfold attempt
  cases greedy <;> cases first : more () <;> cases second : stop () <;> simp_all

section rounds
variable {α : Type} {one : Text → Text → Text → Prop} {round : Round α}

theorem finds_exactly (h : Finds one round) (n : Nat) : Finds (Repeats one n) (exactly round n) := by
  induction n with
  | zero =>
    rintro before _ after gs k rfl accepts
    exact accepts gs
  | succ n ih =>
    rintro before _ after gs k ⟨v, w, rfl, here, rest⟩ accepts
    rw [List.append_assoc]
    refine h before v (w ++ after) gs _ here fun gs => ih _ w after gs k rest fun gs => ?_
    simpa using accepts gs

theorem finds_upTo (h : Finds one round) (greedy : Bool) {m n : Nat} (le : n ≤ m) :
    Finds (Repeats one n) (upTo round greedy m) := by
  induction m generalizing n with
  | zero =>
    obtain rfl := Nat.le_zero.1 le
    rintro before _ after gs k rfl accepts
    exact accepts gs
  | succ m ih =>
    intro before u after gs k takes accepts
    refine isSome_attempt ?_
    cases n with
    | zero =>
      obtain rfl := takes
      exact .inr (accepts gs)
    | succ n =>
      obtain ⟨v, w, rfl, here, rest⟩ := takes
      refine .inl ?_
      rw [List.append_assoc]
      refine h before v (w ++ after) gs _ here fun gs =>
        ih (Nat.le_of_succ_le_succ le) _ w after gs k rest fun gs => ?_
      simpa using accepts gs

theorem finds_further (h : Finds one round) (greedy : Bool) {m n : Nat} {before u after : Text}
    (le : u.length ≤ m) (takes : Repeats one n before u after) (gs : List (Nat × Text))
    {k : Cursor → Option α} (accepts : ∀ gs, (k ⟨u.reverse ++ before, after, gs⟩).isSome = true) :
    (further round greedy m ⟨before, u ++ after, gs⟩ k).isSome = true := by
  induction n generalizing m before u gs with
  | zero =>
    obtain rfl := takes
    cases m with
    | zero => exact accepts gs
    | succ m => exact isSome_attempt (.inr (accepts gs))
  | succ n ih =>
    obtain ⟨v, w, rfl, here, rest⟩ := takes
    cases v with
    | nil => exact ih le rest gs accepts
    | cons x v =>
      cases m with
      | zero => simp at le
      | succ m =>
        refine isSome_attempt (.inl ?_)
        rw [List.append_assoc]
        rw [List.cons_append, List.length_cons, List.length_append] at le
        have shorter : (w ++ after).length < (x :: v ++ (w ++ after)).length := by
          simp only [List.cons_append, List.length_cons, List.length_append]
          omega
        refine h before (x :: v) (w ++ after) gs _ here fun gs => ?_
        rw [if_pos shorter]
        refine ih (by omega) rest gs fun gs => ?_
        simpa using accepts gs

theorem repeats_succ {n : Nat} {before u after : Text} (h : Repeats one (n + 1) before u after) :
    (u = [] ∧ one before [] after) ∨ ∃ v w m, v ≠ [] ∧ u = v ++ w ∧ one before v (w ++ after) ∧
      Repeats one m (v.reverse ++ before) w after := by
  induction n with
  | zero =>
    obtain ⟨v, w, rfl, here, rfl⟩ := h
    cases v with
    | nil => exact .inl ⟨rfl, here⟩
    | cons x v => exact .inr ⟨x :: v, [], 0, List.cons_ne_nil x v, rfl, here, rfl⟩
  | succ n ih =>
    obtain ⟨v, w, rfl, here, rest⟩ := h
    cases v with
    | nil => exact ih rest
    | cons x v => exact .inr ⟨x :: v, w, n + 1, List.cons_ne_nil x v, rfl, here, rest⟩

theorem finds_oneOrMore (h : Finds one round) (greedy : Bool) (n : Nat) :
    Finds (Repeats one (n + 1)) (oneOrMore round greedy) := by
  intro before u after gs k takes accepts
  rcases repeats_succ takes with ⟨rfl, here⟩ | ⟨v, w, m, some, rfl, here, rest⟩
  · refine h before [] after gs _ here fun gs => ?_
    rw [if_neg (by simp)]
    exact accepts gs
  · rw [List.append_assoc]
    refine h before v (w ++ after) gs _ here fun gs => ?_
    have shorter := List.length_pos_iff.2 some
    rw [if_pos (by simp; omega)]
    refine finds_further h greedy (by simp) rest gs fun gs => ?_
    simpa using accepts gs

theorem repeats_add {m n : Nat} {before u after : Text} (h : Repeats one (m + n) before u after) :
    ∃ v w, u = v ++ w ∧ Repeats one m before v (w ++ after) ∧
      Repeats one n (v.reverse ++ before) w after := by
  induction m generalizing before u with
  | zero =>
    rw [Nat.zero_add] at h
    exact ⟨[], u, rfl, rfl, h⟩
  | succ m ih =>
    rw [Nat.succ_add] at h
    obtain ⟨v, w, rfl, here, rest⟩ := h
    obtain ⟨x, y, rfl, first, second⟩ := ih rest
    refine ⟨v ++ x, y, (List.append_assoc ..).symm, ⟨v, x, rfl, ?_, first⟩, ?_⟩
    · rwa [← List.append_assoc]
    · rwa [List.reverse_append, List.append_assoc]

theorem finds_rounds (h : Finds one round) (least : Nat) (most : Option Nat) (greedy : Bool) :
    Finds (fun before u after => ∃ n, least ≤ n ∧ (∀ m ∈ most, n ≤ least + (m - least)) ∧
      Repeats one n before u after) (rounds round least most greedy) := by
  rintro before u after gs k ⟨n, le, within, takes⟩ accepts
  -- the first `least` rounds are made in any case; `n` is now how many come after them
  obtain ⟨n, rfl⟩ := Nat.exists_eq_add_of_le le
  cases most with
  | some m =>
    obtain ⟨v, w, rfl, first, second⟩ := repeats_add takes
    rw [List.append_assoc]
    refine finds_exactly h least before v (w ++ after) gs _ first fun gs => ?_
    refine finds_upTo h greedy (Nat.le_of_add_le_add_left (within m rfl)) _ w after gs k second ?_
    simpa using accepts
  | none =>
    cases least with
    | zero =>
      rw [Nat.zero_add] at takes
      rw [rounds]
      refine isSome_attempt ?_
      cases n with
      | zero =>
        obtain rfl := takes
        exact .inr (accepts gs)
      | succ n => exact .inl (finds_oneOrMore h greedy n before u after gs k takes accepts)
    | succ least =>
      rw [Nat.add_assoc, Nat.add_comm 1 n] at takes
      obtain ⟨v, w, rfl, first, second⟩ := repeats_add takes
      rw [List.append_assoc]
      refine finds_exactly h least before v (w ++ after) gs _ first fun gs => ?_
      refine finds_oneOrMore h greedy n _ w after gs k second ?_
      simpa using accepts

end rounds

theorem finds_run {α : Type} (r : Regex) : Finds r.Takes (run (α := α) r) := by
  induction r with
  | empty =>
    rintro before _ after gs k rfl accepts
    exact accepts gs
  | char s =>
    rintro before _ after gs k ⟨x, rfl, mem⟩ accepts
    change (if s.mem x = true then _ else none).isSome = true
    rw [if_pos mem]
    exact accepts gs
  | anchor a =>
    rintro before _ after gs k ⟨rfl, holds⟩ accepts
    have here : a.holds ⟨before, after, gs⟩ = true := by cases a <;> exact holds
    change (if a.holds ⟨before, after, gs⟩ = true then _ else none).isSome = true
    rw [if_pos here]
    exact accepts gs
  | seq r s ihr ihs =>
    rintro before _ after gs k ⟨v, w, rfl, first, second⟩ accepts
    rw [List.append_assoc]
    refine ihr before v (w ++ after) gs _ first fun gs => ihs _ w after gs k second fun gs => ?_
    simpa using accepts gs
  | alt r s ihr ihs =>
    rintro before u after gs k takes accepts
    change ((r.run _ k).orElse fun _ => s.run _ k).isSome = true
    rw [← Option.or_eq_orElse, Option.isSome_or, Bool.or_eq_true]
    exact takes.imp (ihr before u after gs k · accepts) (ihs before u after gs k · accepts)
  | group n r ih =>
    intro before u after gs k takes accepts
    exact ih before u after gs _ takes fun gs => accepts _
  | rep r least most greedy ih => exact finds_rounds ih least most greedy

theorem isSome_matchAt_iff {r : Regex} {before s : Text} :
    (r.matchAt ⟨before, s, []⟩).isSome = true ↔ ∃ u after, s = u ++ after ∧ r.Takes before u after := by
  constructor
  · intro found
    obtain ⟨d, here⟩ := Option.isSome_iff_exists.1 found
    obtain ⟨u, text, _, takes⟩ := (reaches_of_matchAt here).takes
    exact ⟨u, d.after, text, takes⟩
  · rintro ⟨u, after, rfl, takes⟩
    exact finds_run (group 0 r) before u after [] some takes fun _ => rfl

theorem isSome_searchFrom_iff {r : Regex} {before s : Text} :
    (r.searchFrom before s).isSome = true ↔
      ∃ front u after, s = front ++ (u ++ after) ∧ r.Takes (front.reverse ++ before) u after := by
  induction s generalizing before with
  | nil =>
    rw [searchFrom, isSome_matchAt_iff]
    constructor
    · rintro ⟨u, after, text, takes⟩
      exact ⟨[], u, after, text, takes⟩
    · rintro ⟨front, u, after, text, takes⟩
      obtain ⟨rfl, rest⟩ := List.append_eq_nil_iff.1 text.symm
      exact ⟨u, after, rest.symm, takes⟩
  | cons x s ih =>
    have split : (r.searchFrom before (x :: s)).isSome = true ↔
        (r.matchAt ⟨before, x :: s, []⟩).isSome = true ∨ (r.searchFrom (x :: before) s).isSome = true := by
      rw [searchFrom]
      cases r.matchAt ⟨before, x :: s, []⟩ <;> simp
    rw [split, isSome_matchAt_iff, ih]
    constructor
    · rintro (⟨u, after, text, takes⟩ | ⟨front, u, after, rfl, takes⟩)
      · exact ⟨[], u, after, text, takes⟩
      · exact ⟨x :: front, u, after, rfl, by simpa using takes⟩
    · rintro ⟨front, u, after, text, takes⟩
      cases front with
      | nil => exact .inl ⟨u, after, text, takes⟩
      | cons y front =>
        obtain ⟨rfl, rest⟩ := List.cons.inj text
        exact .inr ⟨front, u, after, rest, by simpa using takes⟩

/-- A search finds something exactly if the expression takes some stretch of the text. -/
theorem isSome_search_iff {r : Regex} {s : Text} :
    (r.search s).isSome = true ↔
      ∃ front u after, s = front ++ (u ++ after) ∧ r.Takes front.reverse u after := by
  rw [search, isSome_searchFrom_iff]
  simp only [List.append_nil]

end Pattern.Regex
end Stenotype
