import PagedFilter.Pattern.Basic

/-!
Putting patterns together in a reduced form. Parts that are empty vanish from a row of parts,
alternatives inside alternatives join them, alternatives of one character each become a set, and
nothing is repeated that makes no difference.
-/

namespace PagedFilter

def CharSet.only? (s : CharSet) : Option Nat :=
  match s.ranges with
  | [(low, high)] => if low = high then some low else Option.none
  | _ => Option.none

namespace Pattern

def isEmpty : Pattern → Bool
  | empty => true
  | _ => false

/-- Whether all matches are empty by the way the pattern is made. -/
def consumesNothing : Pattern → Bool
  | empty => true
  | one _ => false
  | anchor _ => true
  | seq p q => p.consumesNothing && q.consumesNothing
  | alt p q => p.consumesNothing && q.consumesNothing
  | rep p _ _ => p.consumesNothing
  | group p => p.consumesNothing

/-- Whether no match is empty by the way the pattern is made. -/
def alwaysConsumes : Pattern → Bool
  | empty => false
  | one _ => true
  | anchor _ => false
  | seq p q => p.alwaysConsumes || q.alwaysConsumes
  | alt p q => p.alwaysConsumes && q.alwaysConsumes
  | rep p least _ => least != 0 && p.alwaysConsumes
  | group p => p.alwaysConsumes

def row : List Pattern → Pattern
  | [] => empty
  | [p] => p
  | p :: q :: rest => seq p (row (q :: rest))

/-- Patterns one after the other, without the empty ones. -/
def concat (ps : List Pattern) : Pattern := row (ps.filter (!·.isEmpty))

def alternatives : Pattern → List Pattern
  | alt p q => alternatives p ++ alternatives q
  | p => [p]

def set? : Pattern → Option CharSet
  | one s => some s
  | _ => none

/-- The set that stands for alternatives of one character each. Single characters join each other
and sets join each other. -/
def commonSet? (ps : List Pattern) : Option CharSet := do
  let sets ← ps.mapM set?
  if sets.all (·.only?.isSome) || sets.all (·.only?.isNone) then some (sets.foldr .union .none)
  else none

def anyOf : List Pattern → Pattern
  | [] => empty
  | [p] => p
  | p :: q :: rest => alt p (anyOf (q :: rest))

def choice (ps : List Pattern) : Pattern :=
  match ps with
  | [p] => p
  | _ =>
    let ps := ps.flatMap alternatives
    match commonSet? ps with
    | some s => one s
    | none => anyOf ps

/-- From `least` to `most` matches in a row. What consumes nothing is matched at most once. -/
def repeated (p : Pattern) (least : Nat) (most : Option Nat) : Pattern :=
  let least := if p.consumesNothing then min least 1 else least
  let most := if p.consumesNothing then some (min (most.getD 1) 1) else most
  if most = some 0 then empty
  else if least = 1 ∧ most = some 1 then p
  else rep p least most

theorem run_row (ps : List Pattern) (spots : List Spot) :
    (row ps).run spots = ps.foldl (fun spots p => p.run spots) spots := by
  induction ps generalizing spots with
  | nil => rfl
  | cons p rest ih =>
    cases rest with
    | nil => rfl
    | cons q rest => simp only [row, run_seq, ih, List.foldl_cons]

/-- Leaving the empty patterns out changes no match. -/
theorem run_concat (ps : List Pattern) (spots : List Spot) :
    (concat ps).run spots = ps.foldl (fun spots p => p.run spots) spots := by
  rw [concat, run_row]
  induction ps generalizing spots with
  | nil => rfl
  | cons p rest ih =>
    cases p with
    | empty => exact ih spots
    | _ => exact ih _

theorem repeated_once (p : Pattern) (h : p.consumesNothing = false) :
    p.repeated 1 (some 1) = p := by simp [repeated, h]

end Pattern

end PagedFilter
