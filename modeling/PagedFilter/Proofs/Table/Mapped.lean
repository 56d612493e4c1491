import PagedFilter.Table.Compile

/-!
Clauses changed in place. A change that leaves every group a group goes through pruning and through the
clauses that groups are closed with.
-/

namespace PagedFilter.Table

/-- A change of clauses that goes on inside of groups, and makes a group of nothing else. -/
structure Clause.KeepsGroups (g : Clause → Clause) : Prop where
  never : g .never = .never
  group (joined : Connective) (clauses : List Clause) :
    g (.group joined clauses) = .group joined (clauses.map g)
  atom (c : Clause) (h : ∀ joined clauses, c ≠ .group joined clauses) :
    Clause.prune? (g c) = some (g c)

namespace Clause.KeepsGroups

variable {g : Clause → Clause}

mutual

theorem prune?_map (h : KeepsGroups g) : (c : Clause) → prune? (g c) = (prune? c).map g
  | .group joined clauses => by
    rw [h.group, prune?, prune?, prune_map h clauses, List.isEmpty_map]
    split
    · rfl
    · rw [Option.map_some, h.group]
  | .compare _ _ _ | .isIn _ _ | .notIn _ _ | .isNull _ | .isNotNull _ | .never =>
    h.atom _ fun _ _ => Clause.noConfusion

/-- A group is empty or not, whatever becomes of its clauses. -/
theorem prune_map (h : KeepsGroups g) : (cs : List Clause) → prune (cs.map g) = (prune cs).map g
  | [] => rfl
  | c :: rest => by
    have hhead : ((prune? c).map g).toList = (prune? c).toList.map g := by
      cases prune? c <;> rfl
    rw [List.map_cons, prune, prune, List.map_append, prune?_map h c, prune_map h rest, hhead]

end

theorem map_closeGroup (h : KeepsGroups g) (joined : Connective) (unconstrained : Bool)
    (groups : List Clause) : (closeGroup joined unconstrained groups).map g =
      closeGroup joined unconstrained (groups.map g) := by
  rw [closeGroup, closeGroup, List.isEmpty_map]
  split
  · split
    · rw [List.map_singleton, h.never]
    · rfl
  · split
    · rfl
    · rw [List.map_singleton, h.group]

theorem map_joinMembers (h : KeepsGroups g) (joined : Connective) (members : List (List Clause)) :
    (joinMembers joined members).map g = joinMembers joined (members.map (List.map g)) := by
  cases members with
  | nil => rfl
  | cons first rest => simp [joinMembers, h.group, Function.comp_def]

end Clause.KeepsGroups

end PagedFilter.Table
