import PagedFilter.Proofs.Fields
import PagedFilter.Proofs.Filter.Canonical
import PagedFilter.Proofs.Filter.Indices

/-!
Lists as decoders of query strings write them. A list that is not empty becomes a map from the decimal
indices of its items. Wherever lists are written so, at any depth and next to lists that are not,
normalizing gives what it gives for the lists themselves.
-/

namespace PagedFilter.Filter

open Relation

/-- Every item under its index, in the order of the list. -/
def enumerated (items : List Value) : List (String × Value) :=
  items.zipIdx.map fun p => (toString p.2, p.1)

/-- The map from indices that stands for a list. -/
def indexed (items : List Value) : Fields Value := Fields.ofList (enumerated items)

theorem map_enumerated (items : List Value) : (enumerated items).map (·.2) = items := by
  rw [enumerated, List.map_map]
  exact List.zipIdx_map_fst 0 items

theorem pairwise_enumerated (items : List Value) :
    (enumerated items).Pairwise fun a b => compareIndices a.1 b.1 = .lt := by
  rw [List.pairwise_iff_getElem]
  intro i j hi hj hij
  simp only [enumerated, List.getElem_map, List.getElem_zipIdx, Nat.zero_add]
  exact compareIndices_toString hij

theorem isIndex_of_mem_enumerated {items : List Value} {e : String × Value}
    (h : e ∈ enumerated items) : isIndex e.1 = true := by
  obtain ⟨p, _, rfl⟩ := List.mem_map.1 h
  exact isIndex_toString p.2

/-- No two items have one index, so none is lost in the map. -/
theorem indexed_perm (items : List Value) : (indexed items).Perm (enumerated items) := by
  have hnames : (Fields.names (enumerated items)).Nodup := by
    rw [Fields.names, List.nodup_iff_pairwise_ne, List.pairwise_map]
    refine (pairwise_enumerated items).imp fun {a b} hlt heq => ?_
    have hname : a.1 = b.1 := heq
    have hself : compareIndices b.1 b.1 = .eq := Std.ReflCmp.compare_self
    rw [hname, hself] at hlt
    exact absurd hlt (by decide)
  exact Fields.ofList_perm_of_nodup hnames

theorem isIndexKeyed_indexed {items : List Value} (h : items ≠ []) :
    isIndexKeyed (indexed items) = true := by
  have hne : indexed items ≠ [] := by
    intro hnil
    have hlength := (indexed_perm items).length_eq
    rw [hnil, enumerated, List.length_map, List.length_zipIdx] at hlength
    exact h (List.length_eq_zero_iff.1 hlength.symm)
  refine isIndexKeyed_iff.2 ⟨hne, fun e he => ?_⟩
  exact isIndex_of_mem_enumerated ((indexed_perm items).mem_iff.1 he)

/-- Reading the map in the order of its indices gives the list. -/
theorem inIndexOrder_indexed (items : List Value) : inIndexOrder (indexed items) = items := by
  have hsort := StableSort.sort_eq_of_perm isOrderOn_compareIndices (fun _ _ => trivial)
    (indexed_perm items) (pairwise_enumerated items)
  rw [inIndexOrder, hsort, map_enumerated]

/-- Writing a list as a map from indices. -/
inductive Encodes : Value → Value → Prop
  | list {items : List Value} (h : items ≠ []) : Encodes (.list items) (.map (indexed items))

theorem normalize_eq_of_encodes (v w : Value) (h : Encodes v w) : normalize w = normalize v := by
  cases h with
  | list h =>
    rw [normalize_indexKeyed (isIndexKeyed_indexed h), inIndexOrder_indexed, normalize_list]

/-- A value in which any lists, anywhere, are written as maps from indices is normalized to what the
value is. -/
theorem normalize_encoded {v w : Value} (h : ReflTransGen (Somewhere Encodes) v w) :
    normalize w = normalize v :=
  normalize_eq_of_reaches normalize_eq_of_encodes h

/-- Two of three lists are written as maps, one of them within the other and with more than ten items,
so that `10` comes before `2`. -/
theorem normalize_written_alternatives :
    let ids : List Value := (List.range 11).map fun n => .int (.ofNat n)
    let byIndex : Fields Value := [("0", .int 0), ("1", .int 1), ("10", .int 10), ("2", .int 2),
      ("3", .int 3), ("4", .int 4), ("5", .int 5), ("6", .int 6), ("7", .int 7), ("8", .int 8),
      ("9", .int 9)]
    let within (operand : Value) : Value := .map [("id", .map [("in", operand)])]
    let others : Value := .map [("role", .map [("nin", .list [.str "admin"])])]
    let filter : Value := .map [("or", .list [within (.list ids), others])]
    let written : Value := .map [("or", .map [("0", within (.map byIndex)), ("1", others)])]
    ReflTransGen (Somewhere Encodes) filter written ∧ normalize written = normalize filter := by
  intro ids byIndex within others filter written
  have hids : Somewhere Encodes (within (.list ids)) (within (.map (indexed ids))) :=
    .field "id" [] [] (.field "in" [] [] (.here (.list (by decide))))
  have hinner : Somewhere Encodes filter
      (.map [("or", .list [within (.map (indexed ids)), others])]) :=
    .field "or" [] [] (.item [] [others] hids)
  have houter : Somewhere Encodes (.map [("or", .list [within (.map (indexed ids)), others])])
      (.map [("or", .map (indexed [within (.map (indexed ids)), others]))]) :=
    .field "or" [] [] (.here (.list (by simp)))
  have hindexed : indexed ids = byIndex := rfl
  have henumerated (a b : Value) : enumerated [a, b] = [("0", a), ("1", b)] := by
    simp only [enumerated, List.zipIdx_cons, List.zipIdx_nil, List.map_cons, List.map_nil]
    rfl
  have hmembers (a b : Value) : indexed [a, b] = [("0", a), ("1", b)] := by
    simp only [indexed, henumerated, Fields.ofList, List.foldl_cons, List.foldl_nil]
    rfl
  rw [hindexed] at hinner houter
  rw [hmembers] at houter
  have hwritten : ReflTransGen (Somewhere Encodes) filter written :=
    (ReflTransGen.single hinner).tail houter
  exact ⟨hwritten, normalize_encoded hwritten⟩

end PagedFilter.Filter
