import PagedFilter.Value.Basic
import PagedFilter.Vocabulary

/-!
Clauses of a where condition. In a list of clauses each one joins those before it: a group by the
connective it carries, all others by `and`. The connective of the first clause has no effect.
-/

namespace PagedFilter.Table

inductive Clause where
  | compare (column : String) (by_ : Comparison) (operand : Value)
  | isIn (column : String) (values : List Value)
  | notIn (column : String) (values : List Value)
  | isNull (column : String)
  | isNotNull (column : String)
  /-- A condition that no row meets. -/
  | never
  | group (joined : Connective) (clauses : List Clause)
  deriving Inhabited, Repr

namespace Clause

def connective : Clause → Connective
  | group joined _ => joined
  | _ => .and

mutual

/-- The clause without empty groups inside; none for a group of which nothing is left. -/
def prune? : Clause → Option Clause
  | group joined clauses =>
    if (prune clauses).isEmpty then none else some (group joined (prune clauses))
  | c => some c

/-- Drops groups without clauses, at every depth. -/
def prune : List Clause → List Clause
  | [] => []
  | c :: rest => (prune? c).toList ++ prune rest

end

mutual

/-- No group inside is empty, nor the clause itself. -/
def IsPruned : Clause → Prop
  | group _ clauses => clauses ≠ [] ∧ ArePruned clauses
  | _ => True

/-- No group is empty, at any depth. -/
def ArePruned : List Clause → Prop
  | [] => True
  | c :: rest => IsPruned c ∧ ArePruned rest

end

theorem arePruned_iff (cs : List Clause) : ArePruned cs ↔ ∀ c ∈ cs, IsPruned c := by
  induction cs with
  | nil => simp [ArePruned]
  | cons c rest ih => simp [ArePruned, ih]

theorem prune_append (as bs : List Clause) : prune (as ++ bs) = prune as ++ prune bs := by
  induction as with
  | nil => rfl
  | cons a rest ih => simp [prune, ih]

mutual

theorem isPruned_of_mem_prune? : (c d : Clause) → d ∈ prune? c → IsPruned d
  | group joined clauses, d, h => by
    unfold prune? at h
    split at h
    · simp at h
    · next hne =>
      simp only [Option.mem_def, Option.some.injEq] at h
      subst h
      refine ⟨fun e => hne (by simp [e]), arePruned_prune clauses⟩
  | compare _ _ _, d, h => by simp [prune?] at h; subst h; trivial
  | isIn _ _, d, h => by simp [prune?] at h; subst h; trivial
  | notIn _ _, d, h => by simp [prune?] at h; subst h; trivial
  | isNull _, d, h => by simp [prune?] at h; subst h; trivial
  | isNotNull _, d, h => by simp [prune?] at h; subst h; trivial
  | never, d, h => by simp [prune?] at h; subst h; trivial

theorem arePruned_prune : (cs : List Clause) → ArePruned (prune cs)
  | [] => trivial
  | c :: rest => by
    rw [arePruned_iff]
    intro d hd
    simp only [prune, List.mem_append, Option.mem_toList] at hd
    rcases hd with hd | hd
    · exact isPruned_of_mem_prune? c d hd
    · exact (arePruned_iff _).1 (arePruned_prune rest) d hd

end

end Clause

end PagedFilter.Table
