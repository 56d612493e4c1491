import PagedFilter.Page.Filter
import PagedFilter.Proofs.Document.Casting
import PagedFilter.Proofs.Document.Places
import PagedFilter.Proofs.Filter.Canonical

/-!
Replacing values before, between and after the passes that make a document filter. Normalizing and
compiling look at names, and at values only as far as they are lists, maps or neither. So a replacement
of what is neither, at every depth, commutes with both; reading dates is one.
-/

namespace PagedFilter

/-- A replacement of values within lists and maps, which stay lists and maps, and of nothing else by
either. -/
structure Value.Replaces (f : Value → Value) : Prop where
  list (items : List Value) : f (.list items) = .list (items.map f)
  map (fields : Fields Value) : f (.map fields) = .map (fields.map fun e => (e.1, f e.2))
  isList (v : Value) : (f v).isList = v.isList
  isMap (v : Value) : (f v).isMap = v.isMap

namespace Value.Replaces

open PagedFilter.Filter (inIndexOrder inIndexOrder_map isIndexKeyed isIndexKeyed_map
  normalize_indexKeyed normalize_leaf normalize_list normalize_named)
open PagedFilter.Document

variable {f : Value → Value} (h : Replaces f)
include h

/-! ### Normalizing -/

theorem listUnder (key : String) (v : Value) :
    f (Filter.listUnder key v) = Filter.listUnder key (f v) := by
  rw [Filter.listUnder, Filter.listUnder, h.isList]
  split
  · rw [h.list, List.map_singleton]
  · rfl

theorem normalize (v : Value) : f (Filter.normalize v) = Filter.normalize (f v) := by
  induction v using Value.inductionOn with
  | leaf v hl hm =>
    rw [normalize_leaf hl hm, normalize_leaf ((h.isList v).trans hl) ((h.isMap v).trans hm)]
  | list items ih =>
    have hitems : (items.map Filter.normalize).map f = (items.map f).map Filter.normalize := by
      rw [List.map_map, List.map_map]
      exact List.map_congr_left ih
    rw [normalize_list, h.list, h.list, normalize_list, hitems]
  | map fields ih =>
    have hkeyed : isIndexKeyed (fields.map fun e => (e.1, f e.2)) = isIndexKeyed fields :=
      isIndexKeyed_map _ fields
    rw [h.map]
    cases hkeys : isIndexKeyed fields with
    | true =>
      have hitems : ((inIndexOrder fields).map Filter.normalize).map f =
          ((inIndexOrder fields).map f).map Filter.normalize := by
        rw [List.map_map, List.map_map]
        refine List.map_congr_left fun v hv => ?_
        obtain ⟨e, he, rfl⟩ := List.mem_map.1 hv
        exact ih e ((StableSort.mem_sort _ fields e).1 he)
      rw [normalize_indexKeyed hkeys, normalize_indexKeyed (hkeyed.trans hkeys), h.list,
        inIndexOrder_map, hitems]
    | false =>
      rw [normalize_named hkeys, normalize_named (hkeyed.trans hkeys), h.map, List.map_map,
        List.map_map]
      refine congrArg Value.map (List.map_congr_left fun e he => ?_)
      change (e.1, f (Filter.listUnder e.1 (Filter.normalize e.2))) =
        (e.1, Filter.listUnder e.1 (Filter.normalize (f e.2)))
      rw [h.listUnder, ih e he]

/-! ### Compiling -/

theorem rewritten (r : Rewriting) {source : Fields Value}
    (hwithin : ∀ e ∈ source, f ((r.place e.1).compile e.2) = (r.place e.1).compile (f e.2)) :
    f (.map (r.fields source)) = .map (r.fields (source.map fun e => (e.1, f e.2))) := by
  have hentries : (source.map fun e => (e.1, f e.2)).map r.entry =
      (source.map r.entry).map fun e => (e.1, f e.2) := by
    rw [List.map_map, List.map_map]
    refine List.map_congr_left fun e he => ?_
    change (r.key e.1, (r.place e.1).compile (f e.2)) = (r.key e.1, f ((r.place e.1).compile e.2))
    rw [hwithin e he]
  rw [h.map, Rewriting.fields, Rewriting.fields, hentries, Fields.ofList_map]

omit h in
theorem compile_leaf {v : Value} (hl : v.isList = false) (hm : v.isMap = false) (p : Place) :
    p.compile v =
      match p with
      | .field => .map [("$eq", v)]
      | _ => v := by
  cases v with
  | list items => cases hl
  | map fields => cases hm
  | _ => cases p <;> rfl

/-- In every place, by induction on the value: its names alone decide how it is compiled. -/
theorem compile (v : Value) (p : Place) : f (p.compile v) = p.compile (f v) := by
  induction v using Value.inductionOn generalizing p with
  | leaf v hl hm =>
    rw [compile_leaf hl hm, compile_leaf ((h.isList v).trans hl) ((h.isMap v).trans hm)]
    cases p with
    | field => exact h.map [("$eq", v)]
    | _ => rfl
  | list items ih =>
    rw [h.list]
    cases p with
    | members =>
      rw [Place.compile, compileMembers_list, compileMembers_list, h.list, List.map_map,
        List.map_map]
      exact congrArg Value.list (List.map_congr_left fun v hv => ih v hv .filter)
    | field =>
      rw [Place.compile, compileField, compileField, h.map, List.map_singleton, h.list]
    | _ => exact h.list items
  | map fields ih =>
    have hclauses := h.rewritten clauses fun e he => ih e he (clauses.place e.1)
    have hoperators := h.rewritten operators fun e he => ih e he (operators.place e.1)
    rw [h.map]
    cases p with
    | filter => rw [Place.compile, compile_map, compile_map, hclauses]
    | members =>
      rw [Place.compile, compileMembers_map, compileMembers_map, h.list, List.map_singleton,
        hclauses]
    | field => rw [Place.compile, compileField_map, compileField_map, hoperators]
    | operand => rw [Place.compile, compileOperand_map, compileOperand_map, hoperators]
    | element =>
      -- The names decide which of the two readings is taken, and they stay.
      have hnames : isOperatorMap (fields.map fun e => (e.1, f e.2)) = isOperatorMap fields := by
        rw [isOperatorMap, isOperatorMap, List.all_map, List.any_map]
        rfl
      rw [Place.compile]
      cases ho : isOperatorMap fields with
      | true =>
        rw [compileElement_operators ho, compileElement_operators (hnames.trans ho), hoperators]
      | false => rw [compileElement_filter ho, compileElement_filter (hnames.trans ho), hclauses]

end Value.Replaces

/-! ### Reading dates -/

namespace Filter

theorem replaces_castDates : Value.Replaces castDates where
  list := Document.castDates_list
  map := Document.castDates_map
  isList := castDates_isList
  isMap := Document.castDates_isMap

/-- Dates may be read before, between and after normalizing and compiling: the document filter is the
same one. -/
theorem castDates_commutes (v : Value) :
    castDates (normalize v) = normalize (castDates v) ∧
      castDates (Document.compile v) = Document.compile (castDates v) ∧
      castDates (Document.compile (normalize v)) = Document.compile (castDates (normalize v)) ∧
      castDates (Document.compile (normalize v)) = Document.compile (normalize (castDates v)) ∧
      ∀ cfg, Page.documentFilter cfg (castDates v) =
        castDates (Document.compile (normalize v)) := by
  have hnormalize := replaces_castDates.normalize v
  have hcompile (w : Value) : castDates (Document.compile w) = Document.compile (castDates w) :=
    replaces_castDates.compile w .filter
  have hboth : castDates (Document.compile (normalize v)) =
      Document.compile (normalize (castDates v)) := by
    rw [hcompile, hnormalize]
  refine ⟨hnormalize, hcompile v, hcompile (normalize v), hboth, fun cfg => ?_⟩
  rw [Page.documentFilter, ← hboth, castDates_castDates, ite_self]

end Filter

end PagedFilter
