import PagedFilter.Text.Mark

/-!
Clusters: what a reader takes for one character, with the marks that follow it and what is put in
front of it. Pairs that join only among characters without case or digits (syllables, flags, joined
emoji) count as several clusters: no word of a name divides or ends between them.
-/

namespace PagedFilter.Text

/-- Whether no cluster ends between two neighbouring characters. -/
def joins (a b : Char) : Bool :=
  !isControl a && !isControl b && (isAttached b || isPrepended a)

/-- The first character's cluster is put in front of the clusters of the rest. -/
def addCluster (c : Char) : List (List Char) → List (List Char)
  | (d :: ds) :: rest => if joins c d then (c :: d :: ds) :: rest else [c] :: (d :: ds) :: rest
  | clusters => [c] :: clusters

def clusters : List Char → List (List Char)
  | [] => []
  | c :: cs => addCluster c (clusters cs)

theorem addCluster_flatten (c : Char) (gs : List (List Char)) :
    (addCluster c gs).flatten = c :: gs.flatten := by
  match gs with
  | [] => rfl
  | [] :: _ => rfl
  | (d :: ds) :: rest =>
    simp only [addCluster]
    split <;> simp

theorem clusters_flatten (cs : List Char) : (clusters cs).flatten = cs := by
  induction cs with
  | nil => rfl
  | cons c cs ih => rw [clusters, addCluster_flatten, ih]

end PagedFilter.Text
