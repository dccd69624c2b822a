import Stenotype.Text.Words

/-!
# Atoms

English text is a row of atoms: commands in braces and runs of plain text. A brace after a
backslash is an ordinary character of either; a brace that neither opens nor closes a command is
left out.
-/

set_option autoImplicit false

namespace Stenotype.Atom

def isBrace (c : Char) : Bool := c = '\x7b' || c = '\x7d'

/-- Up to the closing brace: the text with it, and what follows. There is none if another brace
opens first or the text ends. -/
def closeMeta? : Text → Option (Text × Text)
  | [] => none
  | '\\' :: c :: r =>
    if isBrace c then (closeMeta? r).map fun (m, rest) => ('\\' :: c :: m, rest)
    else (closeMeta? (c :: r)).map fun (m, rest) => ('\\' :: m, rest)
  | c :: r =>
    if c = '\x7d' then some ([c], r)
    else if c = '\x7b' then none
    else (closeMeta? r).map fun (m, rest) => (c :: m, rest)

/-- Up to the next brace that is not escaped: the text before it, and what follows. -/
def takeText : Text → Text × Text
  | [] => ([], [])
  | '\\' :: c :: r =>
    if isBrace c then
      let (t, rest) := takeText r
      ('\\' :: c :: t, rest)
    else
      let (t, rest) := takeText (c :: r)
      ('\\' :: t, rest)
  | c :: r =>
    if isBrace c then ([], c :: r)
    else
      let (t, rest) := takeText r
      (c :: t, rest)

theorem closeMeta?_append {s m rest : Text} (h : closeMeta? s = some (m, rest)) :
    s = m ++ rest := by
  fun_induction closeMeta? s generalizing m with
  | case1 => simp at h
  | case2 c r _ ih =>
    simp only [Option.map_eq_some_iff, Prod.mk.injEq] at h
    obtain ⟨⟨m', r'⟩, h, rfl, rfl⟩ := h
    simp [ih h]
  | case3 c r _ ih =>
    simp only [Option.map_eq_some_iff, Prod.mk.injEq] at h
    obtain ⟨⟨m', r'⟩, h, rfl, rfl⟩ := h
    simp [ih h]
  | case4 r =>
    cases h
    rfl
  | case5 => simp at h
  | case6 c r _ _ _ ih =>
    simp only [Option.map_eq_some_iff, Prod.mk.injEq] at h
    obtain ⟨⟨m', r'⟩, h, rfl, rfl⟩ := h
    simp [ih h]

theorem closeMeta?_end {s m rest : Text} (h : closeMeta? s = some (m, rest)) :
    ∃ t, m = t ++ ['\x7d'] := by
  fun_induction closeMeta? s generalizing m with
  | case1 => simp at h
  | case2 c r _ ih =>
    simp only [Option.map_eq_some_iff, Prod.mk.injEq] at h
    obtain ⟨⟨m', r'⟩, h, rfl, rfl⟩ := h
    obtain ⟨t, rfl⟩ := ih h
    exact ⟨'\\' :: c :: t, rfl⟩
  | case3 c r _ ih =>
    simp only [Option.map_eq_some_iff, Prod.mk.injEq] at h
    obtain ⟨⟨m', r'⟩, h, rfl, rfl⟩ := h
    obtain ⟨t, rfl⟩ := ih h
    exact ⟨'\\' :: t, rfl⟩
  | case4 r =>
    cases h
    exact ⟨[], rfl⟩
  | case5 => simp at h
  | case6 c r _ _ _ ih =>
    simp only [Option.map_eq_some_iff, Prod.mk.injEq] at h
    obtain ⟨⟨m', r'⟩, h, rfl, rfl⟩ := h
    obtain ⟨t, rfl⟩ := ih h
    exact ⟨c :: t, rfl⟩

theorem takeText_append (s : Text) : (takeText s).1 ++ (takeText s).2 = s := by
  fun_induction takeText s <;> simp_all

theorem closeMeta?_rest_le {s m rest : Text} (h : closeMeta? s = some (m, rest)) :
    rest.length ≤ s.length := by
  have := congrArg List.length (closeMeta?_append h)
  simp at this
  omega

theorem takeText_ne_nil {c : Char} {r : Text} (h : isBrace c = false) :
    (takeText (c :: r)).1 ≠ [] := by
  unfold takeText
  split <;> simp_all
  split <;> simp

theorem takeText_rest_lt {c : Char} {r : Text} (h : isBrace c = false) :
    (takeText (c :: r)).2.length < (c :: r).length := by
  have whole := congrArg List.length (takeText_append (c :: r))
  have ink := List.length_pos_iff.2 (takeText_ne_nil (r := r) h)
  simp only [List.length_append] at whole
  omega

theorem head?_trimStart_takeText (s : Text) :
    (Text.trimStart (takeText s).1).head? ≠ some '\x7b' := by
  fun_induction takeText s with
  | case1 => simp [Text.trimStart]
  | case2 c r brace t rest eq ih => rw [Text.trimStart_of_ink (by decide)]; simp
  | case3 c r brace t rest eq ih => rw [Text.trimStart_of_ink (by decide)]; simp
  | case4 c r notEscaped brace => simp [Text.trimStart]
  | case5 c r notEscaped brace t rest eq ih =>
    rw [eq] at ih
    by_cases blank : Text.isBlank c = true
    · simpa [Text.trimStart, blank] using ih
    · rw [Text.trimStart_of_ink (by simpa using blank)]
      intro h
      simp only [List.head?_cons, Option.some.injEq] at h
      simp [isBrace, h] at brace

def split : Text → List Text
  | [] => []
  | c :: r =>
    if c = '\x7b' then
      match _closed : closeMeta? r with
      | some (m, rest) => (c :: m) :: split rest
      | none => split r
    else if c = '\x7d' then split r
    else (takeText (c :: r)).1 :: split (takeText (c :: r)).2
  termination_by s => s.length
  decreasing_by
    · have := closeMeta?_rest_le _closed
      simp
      omega
    · simp
    · simp
    · exact takeText_rest_lt (by simp_all [isBrace])

theorem mem_split {s atom : Text} (h : atom ∈ split s) :
    (∃ t, atom = '\x7b' :: (t ++ ['\x7d'])) ∨ (Text.trimStart atom).head? ≠ some '\x7b' := by
  fun_induction split s with
  | case1 => simp at h
  | case2 r m rest closed ih =>
    rcases List.mem_cons.1 h with rfl | h
    · obtain ⟨t, rfl⟩ := closeMeta?_end closed
      exact .inl ⟨t, rfl⟩
    · exact ih h
  | case3 r _ ih => exact ih h
  | case4 r _ ih => exact ih h
  | case5 c r _ _ ih =>
    rcases List.mem_cons.1 h with rfl | h
    · exact .inr (head?_trimStart_takeText _)
    · exact ih h

def meta? : Text → Option Text
  | '\x7b' :: r => Text.beforeEnd? ['\x7d'] r
  | _ => none

theorem meta?_eq_none {atom : Text} (h : atom.head? ≠ some '\x7b') : meta? atom = none := by
  unfold meta?
  split
  · simp at h
  · rfl

theorem meta?_trim {s atom : Text} (h : atom ∈ split s) : meta? (Text.trim atom) = meta? atom := by
  rcases mem_split h with ⟨t, rfl⟩ | text
  · have start : Text.trimStart ('\x7b' :: (t ++ ['\x7d'])) = '\x7b' :: (t ++ ['\x7d']) :=
      Text.trimStart_of_ink (by decide)
    rw [Text.trim, start, ← List.cons_append, Text.trimEnd_of_ink (by decide)]
  · have trimmed : (Text.trim atom).head? ≠ some '\x7b' := by
      intro h
      obtain ⟨rest, all⟩ := Text.trimEnd_prefix (Text.trimStart atom)
      rw [← all, List.head?_append] at text
      simp [Text.trim] at h
      simp [h] at text
    have raw : atom.head? ≠ some '\x7b' := by
      intro h
      cases atom with
      | nil => simp at h
      | cons c r =>
        obtain rfl : c = '\x7b' := by simpa using h
        rw [Text.trimStart_of_ink (by decide)] at text
        exact text h
    rw [meta?_eq_none trimmed, meta?_eq_none raw]

def unescapeBrace (brace : Char) : Text → Text
  | [] => []
  | '\\' :: c :: r =>
    if c = brace then brace :: unescapeBrace brace r else '\\' :: unescapeBrace brace (c :: r)
  | c :: r => c :: unescapeBrace brace r

def unescape (s : Text) : Text := unescapeBrace '\x7d' (unescapeBrace '\x7b' s)

/-- The text by which an atom is known to a lookahead before it. -/
def literal (atom : Text) : Text :=
  let atom := Text.trim atom
  unescape ((meta? atom).getD atom)

/-- The atoms without the blanks around them, and without atoms that are all blank. -/
def trimmed (english : Text) : List Text :=
  ((split english).map Text.trim).filter fun a => !a.isEmpty

end Stenotype.Atom
