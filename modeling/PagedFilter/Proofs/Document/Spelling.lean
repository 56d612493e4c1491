import PagedFilter.Proofs.Document.Clauses
import PagedFilter.Proofs.Document.Settled
import PagedFilter.Proofs.Value.WellFormed

/-!
The two spellings of groups. A group stands under its name or its symbol, and both are compiled to one
where a filter is read clause by clause. The operand of `elemMatch` is read by its keys, and symbols are
native keys: where it has nothing but groups and operators, it is a filter as long as some group stands
under its name, and operators otherwise.
-/

namespace PagedFilter.Document

/-! ### Respelling -/

/-- A step into a value. -/
inductive Step where
  | key (k : String)
  | item (i : Nat)
  deriving DecidableEq

def namesGroup (source : Fields Value) : Bool := source.any fun e => (Logical.ofKey? e.1).isSome

/-- Whether a map at a place is a filter. The operand of `elemMatch` is one if it has a group. -/
def Place.holdsFilter : Place → Fields Value → Bool
  | filter, _ => true
  | members, _ => true
  | field, _ => false
  | operand, _ => false
  | element, source => namesGroup source || !isOperatorMap source

/-- The key of an entry on a path, a group's symbol if the path is chosen. -/
def respelledKey (chosen : List Step → Bool) (inFilter : Bool) (path : List Step) (k : String) :
    String :=
  if inFilter && chosen (.key k :: path) then clauseKey k else k

mutual

/-- Puts the groups on chosen paths under their symbols, at any depth of a value at a place. A path has
its last step in front. -/
def respell (chosen : List Step → Bool) (p : Place) (path : List Step) : Value → Value
  | .list items =>
    match p with
    | .members => .list (respellItems chosen path 0 items)
    | _ => .list items
  | .map source => .map (Fields.ofList (respellEntries chosen (p.holdsFilter source) path source))
  | v => v

def respellItems (chosen : List Step → Bool) (path : List Step) (i : Nat) : List Value → List Value
  | [] => []
  | v :: rest => respell chosen .filter (.item i :: path) v :: respellItems chosen path (i + 1) rest

def respellEntries (chosen : List Step → Bool) (inFilter : Bool) (path : List Step) :
    List (String × Value) → List (String × Value)
  | [] => []
  | (k, v) :: rest =>
    (respelledKey chosen inFilter path k,
      respell chosen (if inFilter then clausePlace k else operandPlace k) (.key k :: path) v) ::
      respellEntries chosen inFilter path rest

end

section Respell

variable (chosen : List Step → Bool) (path : List Step)

def respellEntry (inFilter : Bool) (e : String × Value) : String × Value :=
  (respelledKey chosen inFilter path e.1,
    respell chosen (if inFilter then clausePlace e.1 else operandPlace e.1) (.key e.1 :: path) e.2)

theorem respellEntries_eq_map (inFilter : Bool) (source : Fields Value) :
    respellEntries chosen inFilter path source = source.map (respellEntry chosen path inFilter) := by
  induction source with
  | nil => rfl
  | cons e rest ih =>
    obtain ⟨k, v⟩ := e
    exact congrArg (respellEntry chosen path inFilter (k, v) :: ·) ih

theorem respell_map (p : Place) (source : Fields Value) : respell chosen p path (.map source) =
    .map (Fields.ofList (source.map (respellEntry chosen path (p.holdsFilter source)))) := by
  rw [respell, respellEntries_eq_map]

theorem respell_leaf {v : Value} (hl : v.isList = false) (hm : v.isMap = false) (p : Place) :
    respell chosen p path v = v := by
  cases v with
  | list items => simp [Value.isList] at hl
  | map fields => simp [Value.isMap] at hm
  | _ => rfl

theorem respell_list {p : Place} (hp : p ≠ .members) (items : List Value) :
    respell chosen p path (.list items) = .list items := by
  cases p with
  | members => exact absurd rfl hp
  | _ => rfl

theorem respelledKey_of_ofKey?_none {k : String} (h : Logical.ofKey? k = none) (inFilter : Bool) :
    respelledKey chosen inFilter path k = k := by
  rw [respelledKey, clauseKey, h]
  exact ite_self k

theorem ofKey?_respelledKey (inFilter : Bool) (k : String) :
    Logical.ofKey? (respelledKey chosen inFilter path k) = Logical.ofKey? k := by
  rw [respelledKey]
  split
  · exact ofKey?_clauseKey k
  · rfl

theorem clauseKey_respelledKey (inFilter : Bool) (k : String) :
    clauseKey (respelledKey chosen inFilter path k) = clauseKey k := by
  rw [respelledKey]
  split
  · exact clauseKey_clauseKey k
  · rfl

theorem clausePlace_respelledKey (inFilter : Bool) (k : String) :
    clausePlace (respelledKey chosen inFilter path k) = clausePlace k := by
  rw [clausePlace, ofKey?_respelledKey, clausePlace]

/-- No key becomes the name of a group. -/
theorem respelledKey_eq_name {inFilter : Bool} {k : String} {g : Logical}
    (h : respelledKey chosen inFilter path k = g.name) : k = g.name := by
  have hname : clauseKey g.name ≠ g.name := by cases g <;> decide
  rw [respelledKey] at h
  split at h
  · exact absurd (h ▸ clauseKey_clauseKey k) hname
  · exact h

theorem nodup_names_clauses {source : Fields Value} (hs : Fields.Sorted source)
    (hg : NamesGroupsOnce source) : (Fields.names (source.map clauses.entry)).Nodup := by
  have hkept := (kept_clauseKey_eq_self_iff hs.nodup_names).2 hg
  rw [Fields.names, List.map_map]
  exact (Fields.kept_eq_self_iff clauseKey source).1 hkept

/-- Respelled entries do not meet under one name, so each of them stays. -/
theorem mem_ofList_respelled {source : Fields Value} (hs : Fields.Sorted source)
    (hg : NamesGroupsOnce source) (inFilter : Bool) {e : String × Value} (he : e ∈ source) :
    respellEntry chosen path inFilter e ∈
      Fields.ofList (source.map (respellEntry chosen path inFilter)) := by
  have hclauses := nodup_names_clauses hs hg
  have hnames : (Fields.names (source.map (respellEntry chosen path inFilter))).map clauseKey =
      Fields.names (source.map clauses.entry) := by
    rw [Fields.names, Fields.names, List.map_map, List.map_map, List.map_map]
    exact List.map_congr_left fun d _ => clauseKey_respelledKey chosen path inFilter d.1
  rw [← hnames] at hclauses
  have hdistinct := hclauses.of_map
  exact (Fields.ofList_perm_of_nodup hdistinct).mem_iff.2 (List.mem_map_of_mem he)

/-- Both spellings are compiled to one clause. -/
theorem clauses_fields_respelled {source : Fields Value} (hs : Fields.Sorted source)
    (hg : NamesGroupsOnce source)
    (h : ∀ e ∈ source, (clausePlace e.1).compile (respellEntry chosen path true e).2 =
      (clausePlace e.1).compile e.2) :
    clauses.fields (Fields.ofList (source.map (respellEntry chosen path true))) =
      clauses.fields source := by
  refine Fields.ofList_map_ofList_map clauses.entry_fst (nodup_names_clauses hs hg) fun e he => ?_
  change (clauseKey (respelledKey chosen true path e.1),
    (clausePlace (respelledKey chosen true path e.1)).compile (respellEntry chosen path true e).2) =
      (clauseKey e.1, (clausePlace e.1).compile e.2)
  rw [clauseKey_respelledKey, clausePlace_respelledKey, h e he]

/-- Where no key gets another spelling, the order of the entries stays. -/
theorem ofList_map_respellEntry {source : Fields Value} (hs : Fields.Sorted source)
    {inFilter : Bool} (h : ∀ e ∈ source, respelledKey chosen inFilter path e.1 = e.1) :
    Fields.ofList (source.map (respellEntry chosen path inFilter)) =
      source.map (respellEntry chosen path inFilter) := by
  apply Fields.ofList_of_sorted
  rw [Fields.Sorted, List.pairwise_map]
  refine hs.imp_of_mem fun {a b} ha hb hab => ?_
  change respelledKey chosen inFilter path a.1 < respelledKey chosen inFilter path b.1
  rwa [h a ha, h b hb]

theorem names_map_respellEntry {source : Fields Value} {inFilter : Bool}
    (h : ∀ e ∈ source, respelledKey chosen inFilter path e.1 = e.1) :
    Fields.names (source.map (respellEntry chosen path inFilter)) = Fields.names source := by
  rw [Fields.names, List.map_map]
  exact List.map_congr_left h

theorem operators_fields_respelled {source : Fields Value} (hs : Fields.Sorted source)
    (h : ∀ e ∈ source, (operandPlace e.1).compile (respellEntry chosen path false e).2 =
      (operandPlace e.1).compile e.2) :
    operators.fields (Fields.ofList (source.map (respellEntry chosen path false))) =
      operators.fields source := by
  rw [ofList_map_respellEntry chosen path hs fun _ _ => rfl, Rewriting.fields, List.map_map,
    Rewriting.fields]
  refine congrArg Fields.ofList (List.map_congr_left fun e he => ?_)
  exact congrArg (Prod.mk (nativeKey e.1)) (h e he)

end Respell

/-! ### Operands that are read by the spelling of their groups -/

/-- A map that has a group, in either spelling, and else only groups and operators. -/
def IsReadBySpelling (source : Fields Value) : Prop :=
  namesGroup source = true ∧
    ∀ k ∈ Fields.names source, (Logical.ofKey? k).isSome = true ∨ IsOperatorKey k

instance (source : Fields Value) : Decidable (IsReadBySpelling source) :=
  inferInstanceAs (Decidable (_ ∧ _))

/-- Whether some group stands under its name. -/
def HasGroupName (source : Fields Value) : Prop :=
  ∃ g ∈ Logical.values, g.name ∈ Fields.names source

instance (source : Fields Value) : Decidable (HasGroupName source) :=
  inferInstanceAs (Decidable (∃ g ∈ Logical.values, _))

theorem isOperatorMap_congr {source target : Fields Value}
    (h : ∀ k, k ∈ Fields.names source ↔ k ∈ Fields.names target) :
    isOperatorMap source = isOperatorMap target := by
  rw [Bool.eq_iff_iff, isOperatorMap_iff, isOperatorMap_iff]
  simp only [h]

theorem isOperatorMap_eq_false {source : Fields Value} {k : String} (hk : k ∈ Fields.names source)
    (h : ¬IsOperatorKey k) : isOperatorMap source = false := by
  rw [Bool.eq_false_iff, Ne, isOperatorMap_iff]
  exact fun ho => h (ho.1 k hk)

theorem namesGroup_iff (source : Fields Value) : namesGroup source = true ↔
    ∃ k ∈ Fields.names source, (Logical.ofKey? k).isSome = true := by
  rw [namesGroup, Fields.names, List.any_eq_true]
  simp only [List.mem_map, exists_exists_and_eq_and]

section Reading

variable (chosen : List Step → Bool) (path : List Step) {source : Fields Value}

theorem mem_names_respelled_iff {inFilter : Bool} {k : String} :
    k ∈ Fields.names (Fields.ofList (source.map (respellEntry chosen path inFilter))) ↔
      ∃ j ∈ Fields.names source, respelledKey chosen inFilter path j = k := by
  have hname : ∀ e, (respellEntry chosen path inFilter e).1 =
      respelledKey chosen inFilter path e.1 := fun _ => rfl
  exact Fields.mem_names_ofList_map_iff hname

theorem isReadBySpelling_respelled_iff (inFilter : Bool) :
    IsReadBySpelling (Fields.ofList (source.map (respellEntry chosen path inFilter))) ↔
      IsReadBySpelling source := by
  have hkey : ∀ k, (Logical.ofKey? k).isSome = true ∨
      IsOperatorKey (respelledKey chosen inFilter path k) ↔
        (Logical.ofKey? k).isSome = true ∨ IsOperatorKey k := by
    intro k
    cases hk : Logical.ofKey? k with
    | none => rw [respelledKey_of_ofKey?_none chosen path hk]
    | some g => simp
  simp only [IsReadBySpelling, namesGroup_iff, mem_names_respelled_iff, exists_exists_and_eq_and,
    forall_exists_index, and_imp, forall_apply_eq_imp_iff₂, ofKey?_respelledKey, hkey]

theorem HasGroupName.of_respelled {inFilter : Bool}
    (h : HasGroupName (Fields.ofList (source.map (respellEntry chosen path inFilter)))) :
    HasGroupName source := by
  obtain ⟨g, hg, hmem⟩ := h
  obtain ⟨k, hk, hname⟩ := (mem_names_respelled_iff chosen path).1 hmem
  exact ⟨g, hg, respelledKey_eq_name chosen path hname ▸ hk⟩

/-- An operand that is a filter stays one, as long as some group keeps its name or some other key tells
that it is none of operators. -/
theorem isOperatorMap_respelled (hs : Fields.Sorted source)
    (hf : Place.element.holdsFilter source = true)
    (hr : IsReadBySpelling (Fields.ofList (source.map (respellEntry chosen path true))) →
      HasGroupName (Fields.ofList (source.map (respellEntry chosen path true)))) :
    isOperatorMap source = false ∧
      isOperatorMap (Fields.ofList (source.map (respellEntry chosen path true))) = false := by
  by_cases hread : IsReadBySpelling source
  · have hthen := (isReadBySpelling_respelled_iff chosen path true).2 hread
    have hname := hr hthen
    exact ⟨isOperatorMap_of_mixesGroups ⟨hname.of_respelled chosen path, hread.2⟩,
      isOperatorMap_of_mixesGroups ⟨hname, hthen.2⟩⟩
  cases hg : namesGroup source with
  | true =>
    have htell : ∃ k ∈ Fields.names source, Logical.ofKey? k = none ∧ ¬IsOperatorKey k := by
      by_contra hno
      refine hread ⟨hg, fun k hk => ?_⟩
      by_contra hneither
      rw [not_or, Option.not_isSome_iff_eq_none] at hneither
      exact hno ⟨k, hk, hneither⟩
    obtain ⟨k, hk, hnone, hother⟩ := htell
    have hthen := (mem_names_respelled_iff chosen path).2
      ⟨k, hk, respelledKey_of_ofKey?_none chosen path hnone true⟩
    exact ⟨isOperatorMap_eq_false hk hother, isOperatorMap_eq_false hthen hother⟩
  | false =>
    have hnone : ∀ e ∈ source, Logical.ofKey? e.1 = none := by
      intro e he
      rw [namesGroup, List.any_eq_false] at hg
      exact Option.not_isSome_iff_eq_none.1 (hg e he)
    have hsame : ∀ e ∈ source, respelledKey chosen true path e.1 = e.1 := fun e he =>
      respelledKey_of_ofKey?_none chosen path (hnone e he) true
    have hfirst : isOperatorMap source = false := by
      simpa only [Place.holdsFilter, hg, Bool.false_or, Bool.not_eq_true'] using hf
    refine ⟨hfirst, ?_⟩
    rw [ofList_map_respellEntry chosen path hs hsame, ← hfirst]
    exact isOperatorMap_congr fun k => by rw [names_map_respellEntry chosen path hsame]

end Reading

/-! ### Respelled filters -/

mutual

/-- The maps in a value, at any depth. -/
def maps : Value → List (Fields Value)
  | .list items => mapsOfItems items
  | .map fields => fields :: mapsOfFields fields
  | _ => []

def mapsOfItems : List Value → List (Fields Value)
  | [] => []
  | v :: rest => maps v ++ mapsOfItems rest

def mapsOfFields : List (String × Value) → List (Fields Value)
  | [] => []
  | (_, v) :: rest => maps v ++ mapsOfFields rest

end

theorem mem_mapsOfItems_iff {items : List Value} {m : Fields Value} :
    m ∈ mapsOfItems items ↔ ∃ v ∈ items, m ∈ maps v := by
  induction items with
  | nil => simp [mapsOfItems]
  | cons v rest ih => simp [mapsOfItems, ih]

theorem mem_mapsOfFields_iff {fields : Fields Value} {m : Fields Value} :
    m ∈ mapsOfFields fields ↔ ∃ e ∈ fields, m ∈ maps e.2 := by
  induction fields with
  | nil => simp [mapsOfFields]
  | cons e rest ih => simp [mapsOfFields, ih]

theorem sorted_of_mem_maps {v : Value} (hw : v.WellFormed) {m : Fields Value} (hm : m ∈ maps v) :
    Fields.Sorted m := by
  induction v using Value.inductionOn with
  | leaf v hl hm' => cases v <;> simp [maps, Value.isList, Value.isMap] at hm hl hm'
  | list items ih =>
    obtain ⟨v, hv, hmem⟩ := mem_mapsOfItems_iff.1 hm
    exact ih v hv ((Value.wellFormedList_iff items).1 hw v hv) hmem
  | map fields ih =>
    obtain ⟨hs, hf⟩ := hw
    rcases List.mem_cons.1 hm with rfl | hm
    · exact hs
    · obtain ⟨e, he, hmem⟩ := mem_mapsOfFields_iff.1 hm
      exact ih e he ((Value.wellFormedFields_iff fields).1 hf e he) hmem

theorem mem_maps_of_mem_elements {v : Value} {m : Fields Value} (hm : m ∈ elements v) :
    m ∈ maps v := by
  induction v using Value.inductionOn with
  | leaf v hl hm' => cases v <;> simp [elements, Value.isList, Value.isMap] at hm hl hm'
  | list items ih =>
    obtain ⟨v, hv, hmem⟩ := mem_elementsOfItems_iff.1 hm
    exact mem_mapsOfItems_iff.2 ⟨v, hv, ih v hv hmem⟩
  | map fields ih =>
    obtain ⟨e, he, ⟨_, heq⟩ | hmem⟩ := mem_elementsOfFields_iff.1 hm
    · have hself : m ∈ maps e.2 := by
        rw [heq]
        exact List.mem_cons_self
      exact List.mem_cons_of_mem _ (mem_mapsOfFields_iff.2 ⟨e, he, hself⟩)
    · exact List.mem_cons_of_mem _ (mem_mapsOfFields_iff.2 ⟨e, he, ih e he hmem⟩)

/-- Whether the groups of a value may be respelled at a place: no map has a group twice, and the operands
of `elemMatch` that are read by the spelling of their groups keep some group's name. -/
structure IsRespellable (chosen : List Step → Bool) (p : Place) (path : List Step) (v : Value) :
    Prop where
  wellFormed : v.WellFormed
  namesOnce : ∀ m ∈ maps v, NamesGroupsOnce m
  within : ∀ m ∈ elements (respell chosen p path v), IsReadBySpelling m → HasGroupName m
  itself : p = .element → ∀ m, respell chosen p path v = .map m → IsReadBySpelling m →
    HasGroupName m

section Fields

variable {chosen : List Step → Bool} {p : Place} {path : List Step} {source : Fields Value}
  (h : IsRespellable chosen p path (.map source))

include h

theorem IsRespellable.sorted : Fields.Sorted source := h.wellFormed.1

theorem IsRespellable.once : NamesGroupsOnce source := h.namesOnce source List.mem_cons_self

theorem IsRespellable.mem_elements {e : String × Value} (he : e ∈ source) {m : Fields Value}
    (hm : m ∈ elements (respellEntry chosen path (p.holdsFilter source) e).2) :
    m ∈ elements (respell chosen p path (.map source)) := by
  rw [respell_map]
  have hmem := mem_ofList_respelled chosen path h.sorted h.once (p.holdsFilter source) he
  exact mem_elementsOfFields_iff.2 ⟨_, hmem, .inr hm⟩

theorem IsRespellable.clause (hp : p.holdsFilter source = true) {e : String × Value}
    (he : e ∈ source) : IsRespellable chosen (clausePlace e.1) (.key e.1 :: path) e.2 where
  wellFormed := (Value.wellFormedFields_iff source).1 h.wellFormed.2 e he
  namesOnce m hm := h.namesOnce m (List.mem_cons_of_mem _ (mem_mapsOfFields_iff.2 ⟨e, he, hm⟩))
  within m hm := h.within m (h.mem_elements he (hp ▸ hm))
  itself hplace := absurd hplace (clausePlace_ne_element e.1)

theorem IsRespellable.operator (hp : p.holdsFilter source = false) {e : String × Value}
    (he : e ∈ source) : IsRespellable chosen (operandPlace e.1) (.key e.1 :: path) e.2 where
  wellFormed := (Value.wellFormedFields_iff source).1 h.wellFormed.2 e he
  namesOnce m hm := h.namesOnce m (List.mem_cons_of_mem _ (mem_mapsOfFields_iff.2 ⟨e, he, hm⟩))
  within m hm := h.within m (h.mem_elements he (hp ▸ hm))
  itself hplace m hm := by
    apply h.within m
    rw [respell_map, hp]
    have hmem := mem_ofList_respelled chosen path h.sorted h.once false he
    exact mem_elementsOfFields_iff.2
      ⟨_, hmem, .inl ⟨(operandPlace_eq_element_iff e.1).1 hplace, hm⟩⟩

end Fields

/-- By induction on the items, whose paths count them. -/
theorem map_compile_respellItems {chosen : List Step → Bool} {path : List Step} {items : List Value}
    (h : ∀ v ∈ items, ∀ path, IsRespellable chosen .filter path v →
      compile (respell chosen .filter path v) = compile v)
    (hw : ∀ v ∈ items, v.WellFormed) (ho : ∀ v ∈ items, ∀ m ∈ maps v, NamesGroupsOnce m) {i : Nat}
    (he : ∀ v ∈ respellItems chosen path i items, ∀ m ∈ elements v, IsReadBySpelling m →
      HasGroupName m) :
    (respellItems chosen path i items).map compile = items.map compile := by
  induction items generalizing i with
  | nil => rfl
  | cons v rest ih =>
    obtain ⟨hv, hrest⟩ := List.forall_mem_cons.1 h
    obtain ⟨hwv, hwrest⟩ := List.forall_mem_cons.1 hw
    obtain ⟨hov, horest⟩ := List.forall_mem_cons.1 ho
    rw [respellItems] at he
    obtain ⟨hev, herest⟩ := List.forall_mem_cons.1 he
    have hfirst : IsRespellable chosen .filter (.item i :: path) v :=
      ⟨hwv, hov, hev, fun hp => by cases hp⟩
    rw [respellItems, List.map_cons, List.map_cons, hv _ hfirst, ih hrest hwrest horest herest]

/-- By induction on the value, at all places: respelled maps are read as before and compiled to the same
entries. -/
theorem compile_respell (chosen : List Step → Bool) (v : Value) :
    ∀ (p : Place) (path : List Step), IsRespellable chosen p path v →
      p.compile (respell chosen p path v) = p.compile v := by
  induction v using Value.inductionOn with
  | leaf v hl hm =>
    intro p path _
    rw [respell_leaf chosen path hl hm]
  | list items ih =>
    intro p path h
    by_cases hp : p = .members
    · subst hp
      have hitems := map_compile_respellItems (fun v hv path => ih v hv .filter path)
        ((Value.wellFormedList_iff items).1 h.wellFormed)
        (fun v hv m hm => h.namesOnce m (mem_mapsOfItems_iff.2 ⟨v, hv, hm⟩))
        fun v hv m hm => h.within m (mem_elementsOfItems_iff.2 ⟨v, hv, hm⟩)
      rw [respell, Place.compile, compileMembers_list, compileMembers_list, hitems]
    · rw [respell_list chosen path hp]
  | map source ih =>
    intro p path h
    have hclauses (hp : p.holdsFilter source = true) :
        clauses.fields (Fields.ofList (source.map (respellEntry chosen path true))) =
          clauses.fields source :=
      clauses_fields_respelled chosen path h.sorted h.once fun e he => ih e he _ _ (h.clause hp he)
    have hoperators (hp : p.holdsFilter source = false) :
        operators.fields (Fields.ofList (source.map (respellEntry chosen path false))) =
          operators.fields source :=
      operators_fields_respelled chosen path h.sorted fun e he => ih e he _ _ (h.operator hp he)
    rw [respell_map]
    cases p with
    | filter => simp only [Place.compile, Place.holdsFilter, compile_map, hclauses rfl]
    | members => simp only [Place.compile, Place.holdsFilter, compileMembers_map, hclauses rfl]
    | field => simp only [Place.compile, Place.holdsFilter, compileField_map, hoperators rfl]
    | operand => simp only [Place.compile, Place.holdsFilter, compileOperand_map, hoperators rfl]
    | element =>
      cases hf : Place.element.holdsFilter source with
      | true =>
        -- read as a filter before and after, by a group's name or by some other key
        have hself := respell_map chosen path .element source
        rw [hf] at hself
        obtain ⟨hfirst, hthen⟩ := isOperatorMap_respelled chosen path h.sorted hf
          (h.itself rfl _ hself)
        rw [Place.compile, compileElement_filter hfirst, compileElement_filter hthen, hclauses hf]
      | false =>
        -- without a group no key of the operand is respelled
        have hfirst : isOperatorMap source = true := by
          simp only [Place.holdsFilter, Bool.or_eq_false_iff, Bool.not_eq_false'] at hf
          exact hf.2
        have hthen : isOperatorMap
            (Fields.ofList (source.map (respellEntry chosen path false))) = true := by
          rw [ofList_map_respellEntry chosen path h.sorted fun _ _ => rfl, ← hfirst]
          exact isOperatorMap_congr fun k => by
            rw [names_map_respellEntry chosen path fun _ _ => rfl]
        rw [Place.compile, compileElement_operators hfirst, compileElement_operators hthen,
          hoperators hf]

instance (source : Fields Value) : Decidable (NamesGroupsOnce source) :=
  decidable_of_iff (∀ g ∈ Logical.values,
    ¬(g.name ∈ Fields.names source ∧ g.symbol ∈ Fields.names source))
    ⟨fun h g => h g (by cases g <;> decide), fun h g _ => h g⟩

/-! ### What the spelling decides -/

theorem isOperatorMap_of_symbols {source : Fields Value} (h : IsReadBySpelling source)
    (hn : ¬HasGroupName source) : isOperatorMap source = true := by
  have hsymbol : ∀ k ∈ Fields.names source, (Logical.ofKey? k).isSome = true → isNative k = true := by
    intro k hk hsome
    obtain ⟨g, hg⟩ := Option.isSome_iff_exists.1 hsome
    rcases ofKey?_eq_some_iff.1 hg with rfl | rfl
    · exact absurd ⟨g, by cases g <;> decide, hk⟩ hn
    · exact isNative_logicalSymbol g
  obtain ⟨hgroup, hall⟩ := h
  obtain ⟨j, hj, hsome⟩ := (namesGroup_iff source).1 hgroup
  rw [isOperatorMap_iff]
  refine ⟨fun k hk => ?_, j, hj, .inl (hsymbol j hj hsome)⟩
  rcases hall k hk with hlogical | hoperator
  · exact .inl (hsymbol k hk hlogical)
  · exact hoperator

/-- One group's name makes a filter of an operand that is read by spelling. -/
theorem compileElement_of_isReadBySpelling {source : Fields Value} (h : IsReadBySpelling source) :
    compileElement (.map source) =
      .map (if HasGroupName source then clauses.fields source else operators.fields source) := by
  split
  · next hname => exact compileElement_filter (isOperatorMap_of_mixesGroups ⟨hname, h.2⟩)
  · next hname => exact compileElement_operators (isOperatorMap_of_symbols h hname)

/-- A clause that is the same as an operator, if its group stands under its symbol. -/
def ReadsAlike (e : String × Value) : Prop :=
  isNative (clauseKey e.1) = true ∧
    (operandPlace (clauseKey e.1)).compile e.2 = (clausePlace e.1).compile e.2

/-- A map with all its own groups under their symbols. -/
def withSymbols (source : Fields Value) : Fields Value :=
  Fields.ofList (source.map fun e => (clauseKey e.1, e.2))

/-- By the distinct names of the compiled clauses, each is found again as the operator that it is. -/
theorem operators_withSymbols_iff {source : Fields Value} (hs : Fields.Sorted source)
    (hg : NamesGroupsOnce source) :
    operators.fields (withSymbols source) = clauses.fields source ↔ ∀ e ∈ source, ReadsAlike e := by
  have hn := nodup_names_clauses hs hg
  constructor
  · intro heq
    have hclause : ∀ e ∈ source, clauses.entry e ∈ clauses.fields source := fun e he =>
      (Fields.ofList_perm_of_nodup hn).mem_iff.2 (List.mem_map_of_mem he)
    have hnative : ∀ e ∈ source, isNative (clauseKey e.1) = true := by
      intro e he
      have hmem := hclause e he
      rw [← heq] at hmem
      exact isNative_of_mem_operators (clauses.entry e) hmem
    let operator : String × Value → String × Value := fun e => operators.entry (clauseKey e.1, e.2)
    have hnames : Fields.names (source.map operator) = Fields.names (source.map clauses.entry) := by
      rw [Fields.names, Fields.names, List.map_map, List.map_map]
      exact List.map_congr_left fun e he => nativeKey_of_isNative (hnative e he)
    have hno : (Fields.names (source.map operator)).Nodup := by rwa [hnames]
    have hall : operators.fields (withSymbols source) = Fields.ofList (source.map operator) :=
      Fields.ofList_map_ofList_map operators.entry_fst hno fun _ _ => rfl
    intro e he
    have hoperator : operator e ∈ clauses.fields source := by
      rw [← heq, hall]
      exact (Fields.ofList_perm_of_nodup hno).mem_iff.2 (List.mem_map_of_mem he)
    have hkey : (operator e).1 = (clauses.entry e).1 := nativeKey_of_isNative (hnative e he)
    have hdistinct := (clauses.sorted_fields source).nodup_names
    have hsame := List.inj_on_of_nodup_map hdistinct hoperator (hclause e he) hkey
    exact ⟨hnative e he, congrArg Prod.snd hsame⟩
  · intro halike
    refine Fields.ofList_map_ofList_map operators.entry_fst hn fun e he => ?_
    obtain ⟨hnative, hvalue⟩ := halike e he
    exact Prod.ext (nativeKey_of_isNative hnative) hvalue

theorem compileElement_withSymbols {source : Fields Value} (h : IsReadBySpelling source)
    (hn : HasGroupName source) :
    compileElement (.map (withSymbols source)) = .map (operators.fields (withSymbols source)) := by
  have hmixed : MixesGroups source := ⟨hn, h.2⟩
  have hclauses := (isOperatorMap_clauses_iff (isOperatorMap_of_mixesGroups hmixed)).2 hmixed
  apply compileElement_operators
  rw [← hclauses]
  have hname : ∀ e : String × Value, (clauseKey e.1, e.2).1 = clauseKey e.1 := fun _ => rfl
  exact isOperatorMap_congr fun k =>
    (Fields.mem_names_ofList_map_iff hname).trans mem_names_clauses_iff.symm

/-- Groups compile alike in both spellings, whichever of them are put under their symbols, as long as
each operand of `elemMatch` that consists of groups and operators alone keeps some group under its name.
Such an operand is a filter as long as it does, and operators otherwise; under the symbols of all its
groups it compiles as before exactly if each of its clauses is the same as an operator. -/
theorem respelled_groups_compile_alike (filter : Value) (hw : filter.WellFormed)
    (ho : ∀ m ∈ maps filter, NamesGroupsOnce m) :
    (∀ chosen, (∀ m ∈ elements (respell chosen .filter [] filter),
        IsReadBySpelling m → HasGroupName m) →
      compile (respell chosen .filter [] filter) = compile filter) ∧
    ∀ m ∈ elements filter, IsReadBySpelling m →
      compileElement (.map m) =
        .map (if HasGroupName m then clauses.fields m else operators.fields m) ∧
      (HasGroupName m → (compileElement (.map (withSymbols m)) = compileElement (.map m) ↔
        ∀ e ∈ m, ReadsAlike e)) := by
  constructor
  · intro chosen hname
    exact compile_respell chosen filter .filter [] ⟨hw, ho, hname, by simp⟩
  · intro m hm hread
    have hmaps := mem_maps_of_mem_elements hm
    refine ⟨compileElement_of_isReadBySpelling hread, fun hname => ?_⟩
    rw [compileElement_withSymbols hread hname, compileElement_of_isReadBySpelling hread,
      if_pos hname, Value.map.injEq]
    exact operators_withSymbols_iff (sorted_of_mem_maps hw hmaps) (ho m hmaps)

theorem groups_beside_field_respelled :
    let filter (either both : String) : Value := .map [(either, .list [.map [("a", .int 1)],
      .map [("b", .map [("elemMatch", .map [(both, .list [.map [("c", .null)]]), ("d", .int 2)])])]])]
    (filter "or" "and").WellFormed ∧ (∀ m ∈ maps (filter "or" "and"), NamesGroupsOnce m) ∧
      respell (fun _ => true) .filter [] (filter "or" "and") = filter "$or" "$and" ∧
      (∀ m ∈ elements (filter "$or" "$and"), IsReadBySpelling m → HasGroupName m) ∧
      compile (filter "$or" "$and") = compile (filter "or" "and") := by
  intro filter
  have hw : (filter "or" "and").WellFormed := by decide +kernel
  have ho : ∀ m ∈ maps (filter "or" "and"), NamesGroupsOnce m := by decide +kernel
  have hrespell : respell (fun _ => true) .filter [] (filter "or" "and") = filter "$or" "$and" := rfl
  have hname : ∀ m ∈ elements (filter "$or" "$and"), IsReadBySpelling m → HasGroupName m := by
    decide +kernel
  refine ⟨hw, ho, hrespell, hname, ?_⟩
  rw [← hrespell] at hname ⊢
  exact (respelled_groups_compile_alike _ hw ho).1 _ hname

/-- Under its symbol a lone group makes operators of the operand, and its members stay as they are: a
document that the filter accepts is refused then. -/
theorem symbol_keeps_members_as_they_are :
    let filter (group : String) : Value := .map [("a", .map [("elemMatch",
      .map [(group, .list [.map [("b", .map [("gte", .int 1)])]])])])]
    let compiled (operator : String) : Value := .map [("a", .map [("$elemMatch",
      .map [("$or", .list [.map [("b", .map [(operator, .int 1)])]])])])]
    let doc : Row := [("a", .list [.map [("b", .int 1)]])]
    Filter.normalize (filter "or") = filter "or" ∧
      (∀ m ∈ maps (filter "or"), NamesGroupsOnce m) ∧
      respell (fun _ => true) .filter [] (filter "or") = filter "$or" ∧
      compile (filter "or") = compiled "$gte" ∧ compile (filter "$or") = compiled "gte" ∧
      compile (filter "$or") ≠ compile (filter "or") ∧
      accepts doc (compiled "$gte") = .ok true ∧ accepts doc (compiled "gte") = .ok false := by
  exact ⟨rfl, by decide +kernel, rfl, rfl, rfl, by decide +kernel, rfl, rfl⟩

end PagedFilter.Document
