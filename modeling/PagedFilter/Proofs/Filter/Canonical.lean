import Mathlib.Logic.Relation
import PagedFilter.Filter.Canonical
import PagedFilter.Proofs.StableSort

/-!
Normalizing reaches the canonical form. Two local repairs lead to it, at any depth: a map that stands
for a list is read as one, and a bare value under a list key is put into a list. Every repair leaves
the normal form as it is, so the canonical filters that repairs lead to are that form alone.
-/

namespace PagedFilter

/-! ### Induction on values -/

/-- What holds of a list if it holds of its items, and of a map if it holds of what its fields hold,
holds of every value if it does of those that are neither. -/
theorem Value.inductionOn {P : Value → Prop}
    (leaf : ∀ v : Value, v.isList = false → v.isMap = false → P v)
    (list : ∀ items : List Value, (∀ v ∈ items, P v) → P (.list items))
    (map : ∀ fields : Fields Value, (∀ f ∈ fields, P f.2) → P (.map fields)) (v : Value) : P v := by
  refine @Value.rec P (fun items => ∀ v ∈ items, P v) (fun fields => ∀ f ∈ fields, P f.2)
    (fun f => P f.2) (leaf .null rfl rfl) ?_ ?_ ?_ ?_ ?_ list map ?_ ?_ ?_ ?_ ?_ v
  · exact fun b => leaf (.bool b) rfl rfl
  · exact fun n => leaf (.int n) rfl rfl
  · exact fun x => leaf (.float x) rfl rfl
  · exact fun s => leaf (.str s) rfl rfl
  · exact fun t => leaf (.date t) rfl rfl
  · exact List.forall_mem_nil _
  · exact fun _ _ hv hrest => List.forall_mem_cons.2 ⟨hv, hrest⟩
  · exact List.forall_mem_nil _
  · exact fun _ _ hf hrest => List.forall_mem_cons.2 ⟨hf, hrest⟩
  · exact fun _ _ hv => hv

theorem Value.map?_eq_some_iff {v : Value} {m : Fields Value} : v.map? = some m ↔ v = .map m := by
  cases v <;> simp [Value.map?]

namespace Filter

open Relation

/-! ### Indices and list keys -/

theorem requiresList_iff (key : String) :
    requiresList key = true ↔ key ∈ ["in", "nin", "and", "or"] := by
  have hname : ∀ op : Operator, op.takesList = true ↔ op.name ∈ ["in", "nin", "and", "or"] := by
    intro op
    cases op <;> decide
  rw [requiresList]
  cases hop : Operator.ofName? key with
  | some op =>
    rw [← Operator.name_of_ofName? hop]
    exact hname op
  | none =>
    have hin : key ≠ "in" := by
      rintro rfl
      exact absurd hop (by decide)
    have hnin : key ≠ "nin" := by
      rintro rfl
      exact absurd hop (by decide)
    simp [hin, hnin]

theorem isIndex_of_requiresList {key : String} (h : requiresList key = true) :
    isIndex key = false := by
  have hkeys : ∀ key ∈ ["in", "nin", "and", "or"], isIndex key = false := by decide
  exact hkeys key ((requiresList_iff key).1 h)

theorem isIndexKeyed_iff {fields : Fields Value} :
    isIndexKeyed fields = true ↔ fields ≠ [] ∧ ∀ e ∈ fields, isIndex e.1 = true := by
  rw [isIndexKeyed, Bool.and_eq_true, List.all_eq_true]
  simp

theorem isIndexKeyed_map (f : String × Value → Value) (fields : Fields Value) :
    isIndexKeyed (fields.map fun e => (e.1, f e)) = isIndexKeyed fields := by
  rw [isIndexKeyed, isIndexKeyed, List.isEmpty_map, List.all_map]
  rfl

/-- A list key is not an index. -/
theorem isIndexKeyed_of_requiresList {key : String} (h : requiresList key = true) (v : Value)
    (before after : Fields Value) : isIndexKeyed (before ++ (key, v) :: after) = false := by
  simp [isIndexKeyed, isIndex_of_requiresList h]

/-- The order of indices does not depend on what stands under them. -/
theorem inIndexOrder_map (f : Value → Value) (fields : Fields Value) :
    inIndexOrder (fields.map fun e => (e.1, f e.2)) = (inIndexOrder fields).map f := by
  have hsort : StableSort.sort (fun a b => compareIndices a.1 b.1)
      (fields.map fun e => (e.1, f e.2)) =
        (StableSort.sort (fun a b => compareIndices a.1 b.1) fields).map fun e => (e.1, f e.2) := by
    apply StableSort.sort_map
    intro a b
    rfl
  rw [inIndexOrder, hsort, inIndexOrder, List.map_map, List.map_map]
  rfl

theorem listUnder_of_isList {key : String} {v : Value}
    (h : requiresList key = true → v.isList = true) : listUnder key v = v := by
  rw [listUnder]
  cases hkey : requiresList key with
  | false => rfl
  | true =>
    rw [h hkey]
    rfl

/-! ### Normal forms -/

theorem assemble_indexKeyed {fields : Fields Value} (h : isIndexKeyed fields = true) :
    assemble fields = .list (inIndexOrder fields) := if_pos h

theorem assemble_named {fields : Fields Value} (h : isIndexKeyed fields = false) :
    assemble fields = .map (fields.map fun f => (f.1, listUnder f.1 f.2)) := by
  rw [assemble, h]
  rfl

theorem normalize_list (items : List Value) :
    normalize (.list items) = .list (items.map normalize) := by
  rw [normalize, normalizeItems_eq_map]

theorem normalize_map (fields : Fields Value) :
    normalize (.map fields) = assemble (fields.map fun f => (f.1, normalize f.2)) := by
  rw [normalize, normalizeFields_eq_map]

theorem normalize_indexKeyed {fields : Fields Value} (h : isIndexKeyed fields = true) :
    normalize (.map fields) = .list ((inIndexOrder fields).map normalize) := by
  rw [normalize_map, assemble_indexKeyed ((isIndexKeyed_map _ fields).trans h), inIndexOrder_map]

theorem normalize_named {fields : Fields Value} (h : isIndexKeyed fields = false) :
    normalize (.map fields) = .map (fields.map fun f => (f.1, listUnder f.1 (normalize f.2))) := by
  rw [normalize_map, assemble_named ((isIndexKeyed_map _ fields).trans h), List.map_map]
  rfl

theorem normalize_leaf {v : Value} (hl : v.isList = false) (hm : v.isMap = false) :
    normalize v = v := by
  cases v with
  | list items => simp [Value.isList] at hl
  | map fields => simp [Value.isMap] at hm
  | _ => rfl

/-! ### Canonical forms -/

theorem isCanonicalItems_iff (items : List Value) :
    IsCanonicalItems items ↔ ∀ v ∈ items, IsCanonical v := by
  induction items with
  | nil => simp [IsCanonicalItems]
  | cons v rest ih => rw [IsCanonicalItems, ih, List.forall_mem_cons]

theorem isCanonicalFields_iff (fields : Fields Value) : IsCanonicalFields fields ↔
    ∀ f ∈ fields, (requiresList f.1 = true → f.2.isList = true) ∧ IsCanonical f.2 := by
  induction fields with
  | nil => simp [IsCanonicalFields]
  | cons f rest ih => rw [IsCanonicalFields, ih, List.forall_mem_cons, and_assoc]

theorem isCanonical_list (items : List Value) :
    IsCanonical (.list items) ↔ ∀ v ∈ items, IsCanonical v := by
  rw [IsCanonical, isCanonicalItems_iff]

theorem isCanonical_map (fields : Fields Value) : IsCanonical (.map fields) ↔
    isIndexKeyed fields = false ∧
      ∀ f ∈ fields, (requiresList f.1 = true → f.2.isList = true) ∧ IsCanonical f.2 := by
  rw [IsCanonical, isCanonicalFields_iff]

theorem isCanonical_listUnder (key : String) {v : Value} (h : IsCanonical v) :
    IsCanonical (listUnder key v) := by
  rw [listUnder]
  split
  · exact (isCanonical_list [v]).2 (List.forall_mem_singleton.2 h)
  · exact h

theorem isCanonical_assemble {fields : Fields Value} (h : ∀ f ∈ fields, IsCanonical f.2) :
    IsCanonical (assemble fields) := by
  cases hkeys : isIndexKeyed fields with
  | true =>
    rw [assemble_indexKeyed hkeys, isCanonical_list]
    intro v hv
    obtain ⟨f, hf, rfl⟩ := List.mem_map.1 hv
    exact h f ((StableSort.mem_sort _ fields f).1 hf)
  | false =>
    rw [assemble_named hkeys, isCanonical_map]
    refine ⟨(isIndexKeyed_map _ fields).trans hkeys, fun e he => ?_⟩
    obtain ⟨f, hf, rfl⟩ := List.mem_map.1 he
    exact ⟨fun hkey => isList_listUnder hkey f.2, isCanonical_listUnder f.1 (h f hf)⟩

theorem isCanonical_normalize (v : Value) : IsCanonical (normalize v) := by
  induction v using Value.inductionOn with
  | leaf v hl hm =>
    rw [normalize_leaf hl hm]
    cases v with
    | list items => simp [Value.isList] at hl
    | map fields => simp [Value.isMap] at hm
    | _ => exact trivial
  | list items ih =>
    rw [normalize_list, isCanonical_list]
    exact List.forall_mem_map.2 ih
  | map fields ih =>
    rw [normalize_map]
    exact isCanonical_assemble (List.forall_mem_map.2 ih)

theorem normalize_of_isCanonical {v : Value} (h : IsCanonical v) : normalize v = v := by
  induction v using Value.inductionOn with
  | leaf v hl hm => exact normalize_leaf hl hm
  | list items ih =>
    rw [isCanonical_list] at h
    have hitems : items.map normalize = items.map id :=
      List.map_congr_left fun v hv => ih v hv (h v hv)
    rw [normalize_list, hitems, List.map_id]
  | map fields ih =>
    obtain ⟨hkeys, hfields⟩ := (isCanonical_map fields).1 h
    have hkept : (fields.map fun f => (f.1, listUnder f.1 (normalize f.2))) = fields.map id := by
      refine List.map_congr_left fun f hf => ?_
      obtain ⟨hlist, hcanonical⟩ := hfields f hf
      rw [ih f hf hcanonical, listUnder_of_isList hlist]
      rfl
    rw [normalize_named hkeys, hkept, List.map_id]

/-! ### Repairs -/

/-- One use of a rule on a value or on a value within it, at any depth. -/
inductive Somewhere (rule : Value → Value → Prop) : Value → Value → Prop
  | here {v w : Value} (h : rule v w) : Somewhere rule v w
  | item {v w : Value} (before after : List Value) (h : Somewhere rule v w) :
      Somewhere rule (.list (before ++ v :: after)) (.list (before ++ w :: after))
  | field {v w : Value} (key : String) (before after : Fields Value) (h : Somewhere rule v w) :
      Somewhere rule (.map (before ++ (key, v) :: after)) (.map (before ++ (key, w) :: after))

/-- The two repairs: reading a map that stands for a list, and putting a value under a list key into a
list, unless it is one or stands for one. -/
inductive Repairs : Value → Value → Prop
  | read {fields : Fields Value} (h : isIndexKeyed fields = true) :
      Repairs (.map fields) (.list (inIndexOrder fields))
  | wrap {key : String} {v : Value} (before after : Fields Value) (hkey : requiresList key = true)
      (hlist : v.isList = false) (hmap : ∀ fields, v = .map fields → isIndexKeyed fields = false) :
      Repairs (.map (before ++ (key, v) :: after)) (.map (before ++ (key, .list [v]) :: after))

section Rule

variable {rule : Value → Value → Prop} (hrule : ∀ v w, rule v w → normalize w = normalize v)
include hrule

/-- A rule that leaves normal forms as they are may be used at any depth. -/
theorem normalize_eq_of_somewhere {v w : Value} (h : Somewhere rule v w) :
    normalize w = normalize v := by
  induction h with
  | here h => exact hrule _ _ h
  | item before after _ ih => simp only [normalize_list, List.map_append, List.map_cons, ih]
  | field key before after _ ih => simp only [normalize_map, List.map_append, List.map_cons, ih]

theorem normalize_eq_of_reaches {v w : Value} (h : ReflTransGen (Somewhere rule) v w) :
    normalize w = normalize v := by
  induction h with
  | refl => rfl
  | tail _ hstep ih => exact (normalize_eq_of_somewhere hrule hstep).trans ih

end Rule

theorem isList_normalize {v : Value} (hlist : v.isList = false)
    (hmap : ∀ fields, v = .map fields → isIndexKeyed fields = false) :
    (normalize v).isList = false := by
  cases v with
  | list items => simp [Value.isList] at hlist
  | map fields =>
    rw [normalize_named (hmap fields rfl)]
    rfl
  | _ => rfl

theorem normalize_eq_of_repairs (v w : Value) (h : Repairs v w) : normalize w = normalize v := by
  cases h with
  | read h => rw [normalize_indexKeyed h, normalize_list]
  | @wrap key v before after hkey hlist hmap =>
    have hbare : listUnder key (normalize v) = .list [normalize v] := by
      rw [listUnder, hkey, isList_normalize hlist hmap]
      rfl
    have hlisted : listUnder key (normalize (.list [v])) = .list [normalize v] := by
      rw [normalize_list]
      exact listUnder_of_isList fun _ => rfl
    rw [normalize_named (isIndexKeyed_of_requiresList hkey _ before after),
      normalize_named (isIndexKeyed_of_requiresList hkey _ before after)]
    simp only [List.map_append, List.map_cons, hbare, hlisted]

section Within

variable {rule : Value → Value → Prop} {v w : Value} (h : ReflTransGen (Somewhere rule) v w)
include h

theorem reaches_item (before after : List Value) : ReflTransGen (Somewhere rule)
    (.list (before ++ v :: after)) (.list (before ++ w :: after)) := by
  induction h with
  | refl => exact .refl
  | tail _ hstep ih => exact ih.tail (.item before after hstep)

theorem reaches_field (key : String) (before after : Fields Value) :
    ReflTransGen (Somewhere rule) (.map (before ++ (key, v) :: after))
      (.map (before ++ (key, w) :: after)) := by
  induction h with
  | refl => exact .refl
  | tail _ hstep ih => exact ih.tail (.field key before after hstep)

end Within

/-- Steps that change any one element of a list change all of them, one after the other. -/
theorem reaches_map {α β : Type} {step : β → β → Prop} (whole : List α → β) {f : α → α}
    {xs : List α} (h : ∀ x ∈ xs, ∀ before after,
      ReflTransGen step (whole (before ++ x :: after)) (whole (before ++ f x :: after)))
    (before : List α) :
    ReflTransGen step (whole (before ++ xs)) (whole (before ++ xs.map f)) := by
  induction xs generalizing before with
  | nil => exact .refl
  | cons x rest ih =>
    have hrest := ih (fun y hy => h y (List.mem_cons_of_mem _ hy)) (before ++ [f x])
    simp only [List.append_assoc, List.singleton_append] at hrest
    exact (h x List.mem_cons_self before rest).trans hrest

theorem reaches_listUnder (key : String) {v : Value} (h : IsCanonical v)
    (before after : Fields Value) :
    ReflTransGen (Somewhere Repairs) (.map (before ++ (key, v) :: after))
      (.map (before ++ (key, listUnder key v) :: after)) := by
  rw [listUnder]
  split
  · next hbare =>
    rw [Bool.and_eq_true, Bool.not_eq_true'] at hbare
    refine .single (.here (.wrap before after hbare.1 hbare.2 ?_))
    rintro fields rfl
    exact ((isCanonical_map fields).1 h).1
  · exact .refl

/-- Repairs within come first, and those of the map itself follow. -/
theorem reaches_normalize (v : Value) : ReflTransGen (Somewhere Repairs) v (normalize v) := by
  induction v using Value.inductionOn with
  | leaf v hl hm =>
    rw [normalize_leaf hl hm]
  | list items ih =>
    rw [normalize_list]
    exact reaches_map Value.list (fun v hv => reaches_item (ih v hv)) []
  | map fields ih =>
    have hwithin : ReflTransGen (Somewhere Repairs) (.map fields)
        (.map (fields.map fun f => (f.1, normalize f.2))) :=
      reaches_map Value.map (fun f hf => reaches_field (ih f hf) f.1) []
    refine hwithin.trans ?_
    rw [normalize_map]
    cases hkeys : isIndexKeyed (fields.map fun f => (f.1, normalize f.2)) with
    | true =>
      rw [assemble_indexKeyed hkeys]
      exact .single (.here (.read hkeys))
    | false =>
      rw [assemble_named hkeys]
      refine reaches_map Value.map (fun f hf => ?_) []
      obtain ⟨e, _, rfl⟩ := List.mem_map.1 hf
      exact reaches_listUnder e.1 (isCanonical_normalize e.2)

theorem not_isCanonical_of_somewhere {v w : Value} (h : Somewhere Repairs v w) :
    ¬IsCanonical v := by
  induction h with
  | here h =>
    cases h with
    | read h =>
      rw [isCanonical_map, h]
      simp
    | wrap before after hkey hlist _ =>
      intro hcanonical
      have hmem := ((isCanonical_map _).1 hcanonical).2 _
        (List.mem_append_right before List.mem_cons_self)
      exact Bool.false_ne_true (hlist.symm.trans (hmem.1 hkey))
  | item before after _ ih =>
    intro hcanonical
    exact ih ((isCanonical_list _).1 hcanonical _ (List.mem_append_right before List.mem_cons_self))
  | field key before after _ ih =>
    intro hcanonical
    exact ih (((isCanonical_map _).1 hcanonical).2 _
      (List.mem_append_right before List.mem_cons_self)).2

/-- A value is canonical exactly if there is nothing to repair. -/
theorem isCanonical_iff_irreducible (v : Value) :
    IsCanonical v ↔ ∀ w, ¬Somewhere Repairs v w := by
  constructor
  · intro hcanonical w hstep
    exact not_isCanonical_of_somewhere hstep hcanonical
  · intro hnone
    rcases (reaches_normalize v).cases_head with hself | ⟨w, hstep, _⟩
    · rw [hself]
      exact isCanonical_normalize v
    · exact absurd hstep (hnone w)

/-- Every value has one canonical form that repairs lead to. Normalizing gives that form, so it
changes nothing but what has to be repaired, and nothing at all of what is canonical. -/
theorem normalize_is_canonical_form (v : Value) :
    IsCanonical (normalize v) ∧ (IsCanonical v ↔ normalize v = v) ∧
      normalize (normalize v) = normalize v ∧
      (IsCanonical v ↔ ∀ w, ¬Somewhere Repairs v w) ∧
      ∀ w, ReflTransGen (Somewhere Repairs) v w ∧ IsCanonical w ↔ w = normalize v := by
  have hcanonical := isCanonical_normalize v
  refine ⟨hcanonical, ⟨normalize_of_isCanonical, ?_⟩, normalize_of_isCanonical hcanonical,
    isCanonical_iff_irreducible v, fun w => ⟨?_, ?_⟩⟩
  · intro hself
    rw [← hself]
    exact hcanonical
  · rintro ⟨hreaches, hw⟩
    rw [← normalize_eq_of_reaches normalize_eq_of_repairs hreaches, normalize_of_isCanonical hw]
  · rintro rfl
    exact ⟨reaches_normalize v, hcanonical⟩

end Filter

end PagedFilter
