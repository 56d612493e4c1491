/-!
Texts divided at a character. Dividing a text and joining the segments gives the text back.
-/

namespace PagedFilter.Text

/-- Adds a character to the front of the first segment. -/
def extendFirst (c : Char) : List (List Char) → List (List Char)
  | [] => [[c]]
  | s :: rest => (c :: s) :: rest

/-- The segments between occurrences of `mark`; a text without it is one segment. -/
def segments (mark : Char) : List Char → List (List Char)
  | [] => [[]]
  | c :: cs => if c = mark then [] :: segments mark cs else extendFirst c (segments mark cs)

def joinSegments (mark : Char) : List (List Char) → List Char
  | [] => []
  | [s] => s
  | s :: t :: rest => s ++ mark :: joinSegments mark (t :: rest)

/-- What stands before and after the first occurrence of `mark`. -/
def divide? (mark : Char) : List Char → Option (List Char × List Char)
  | [] => none
  | c :: cs =>
    if c = mark then some ([], cs) else (divide? mark cs).map fun p => (c :: p.1, p.2)

theorem segments_ne_nil (mark : Char) (cs : List Char) : segments mark cs ≠ [] := by
  cases cs with
  | nil => simp [segments]
  | cons c cs =>
    simp only [segments]
    split
    · simp
    · cases segments mark cs <;> simp [extendFirst]

theorem joinSegments_extendFirst (mark c : Char) (ss : List (List Char)) (h : ss ≠ []) :
    joinSegments mark (extendFirst c ss) = c :: joinSegments mark ss := by
  match ss with
  | [] => exact absurd rfl h
  | [s] => rfl
  | s :: t :: rest => rfl

theorem joinSegments_nil_cons (mark : Char) (ss : List (List Char)) (h : ss ≠ []) :
    joinSegments mark ([] :: ss) = mark :: joinSegments mark ss := by
  cases ss with
  | nil => exact absurd rfl h
  | cons s rest => rfl

theorem joinSegments_segments (mark : Char) (cs : List Char) :
    joinSegments mark (segments mark cs) = cs := by
  induction cs with
  | nil => rfl
  | cons c cs ih =>
    simp only [segments]
    split
    · next h => rw [joinSegments_nil_cons _ _ (segments_ne_nil mark cs), ih, h]
    · rw [joinSegments_extendFirst _ _ _ (segments_ne_nil mark cs), ih]

theorem segments_of_not_mem (mark : Char) (cs : List Char) (h : mark ∉ cs) :
    segments mark cs = [cs] := by
  induction cs with
  | nil => rfl
  | cons c cs ih =>
    have hc : c ≠ mark := fun e => h (e ▸ List.mem_cons_self)
    have ht : mark ∉ cs := fun m => h (List.mem_cons_of_mem _ m)
    simp [segments, hc, ih ht, extendFirst]

theorem divide?_eq_none_iff (mark : Char) (cs : List Char) :
    divide? mark cs = none ↔ mark ∉ cs := by
  induction cs with
  | nil => simp [divide?]
  | cons c cs ih =>
    by_cases h : c = mark
    · simp [divide?, h]
    · simp [divide?, h, ih, Ne.symm h]

theorem append_of_divide? (mark : Char) (cs before rest : List Char)
    (h : divide? mark cs = some (before, rest)) : cs = before ++ mark :: rest := by
  induction cs generalizing before with
  | nil => simp [divide?] at h
  | cons c cs ih =>
    by_cases hc : c = mark
    · simp only [divide?, hc, if_pos, Option.some.injEq, Prod.mk.injEq] at h
      simp [← h.1, ← h.2, hc]
    · simp only [divide?, hc, if_false, Option.map_eq_some_iff, Prod.mk.injEq] at h
      obtain ⟨⟨b, r⟩, hd, hb, hr⟩ := h
      subst hb hr
      simpa using ih b hd

end PagedFilter.Text
