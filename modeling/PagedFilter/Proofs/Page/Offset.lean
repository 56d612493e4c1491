import Mathlib.Algebra.Group.Defs
import PagedFilter.Page.Offset
import PagedFilter.Proofs.Page.Documents
import PagedFilter.Proofs.Page.Tables
import PagedFilter.Proofs.Page.Ordered

/-!
Paging by offset. The pages cut the sorted rows into parts of the limit's length: nothing of the
clamping of page numbers and of the bound on skipped rows can be seen in a page, whatever page is
asked for.
-/

namespace PagedFilter.Page

namespace Source

def byOffset (cfg : Config) : Source → OffsetRequest → Except StoreError OffsetPage
  | documents store, r => documentsByOffset cfg store r
  | rows table base ctx, r => rowsByOffset cfg table base r ctx

/-- For tables: the base query has no order of its own. -/
def IsUnordered : Source → Prop
  | documents _ => True
  | rows _ base _ => base.order = []

end Source

/-- The page of a number, counted from one, where sorted rows are cut into parts of a length. -/
def OffsetPage.cut (limit number : Nat) (sorted : List Row) : OffsetPage where
  list := (sorted.drop ((number - 1) * limit)).take limit
  totalCount := sorted.length
  totalPages := (sorted.length + (limit - 1)) / limit
  currentPage := number
  hasNext := decide (number * limit < sorted.length)
  hasPrevious := decide (1 < number)

/-! ### Parts of a list -/

/-- A part has another behind it exactly if the parts up to it do not reach the end. -/
theorem lt_parts_iff {limit : Nat} (hlimit : 1 ≤ limit) (n k : Nat) :
    k < (n + (limit - 1)) / limit ↔ k * limit < n := by
  rw [Nat.lt_div_iff_mul_lt hlimit, Nat.add_sub_cancel]

theorem flatMap_parts {α : Type} (xs : List α) (limit count : Nat) :
    ((List.range count).flatMap fun i => (xs.drop (i * limit)).take limit) =
      xs.take (count * limit) := by
  induction count with
  | zero => simp
  | succ count ih =>
    rw [List.range_succ, List.flatMap_append, ih, List.flatMap_singleton, Nat.succ_mul,
      List.take_add]

section Cut

variable {limit : Nat} (hlimit : 1 ≤ limit) (sorted : List Row)
include hlimit

theorem flatMap_cut : ((List.range ((sorted.length + (limit - 1)) / limit)).flatMap fun i =>
    (OffsetPage.cut limit (i + 1) sorted).list) = sorted := by
  have hend : sorted.length ≤ (sorted.length + (limit - 1)) / limit * limit := by
    have hlast := lt_parts_iff hlimit sorted.length ((sorted.length + (limit - 1)) / limit)
    omega
  simp only [OffsetPage.cut, Nat.add_sub_cancel]
  rw [flatMap_parts, List.take_of_length_le hend]

theorem list_cut_of_lt {number : Nat} (h : (sorted.length + (limit - 1)) / limit < number) :
    (OffsetPage.cut limit number sorted).list = [] := by
  have hskip : sorted.length ≤ (number - 1) * limit := by
    have hlast := lt_parts_iff hlimit sorted.length (number - 1)
    omega
  rw [OffsetPage.cut, List.drop_eq_nil_of_le hskip, List.take_nil]

end Cut

/-! ### Pages -/

/-- The bound on skipped rows is beyond the end of every list. -/
theorem drop_skipFor {limit number : Nat} (hnumber : 1 ≤ number) {sorted : List Row}
    (hsize : sorted.length < 2 ^ 64) :
    sorted.drop (OffsetPage.skipFor number limit) = sorted.drop ((number - 1) * limit) := by
  rw [OffsetPage.skipFor, Nat.max_eq_left hnumber]
  by_cases hsmall : (number - 1) * limit ≤ 2 ^ 64 - 1
  · rw [Nat.min_eq_left hsmall]
  · rw [List.drop_eq_nil_of_le (by omega), List.drop_eq_nil_of_le (by omega)]

theorem assemble_eq_cut {limit number : Nat} (hlimit : 1 ≤ limit) (hnumber : 1 ≤ number)
    {sorted : List Row} (hsize : sorted.length < 2 ^ 64) :
    OffsetPage.assemble ((sorted.drop (OffsetPage.skipFor number limit)).take limit) sorted.length
      number limit = OffsetPage.cut limit number sorted := by
  have hnext : (number < (sorted.length + (limit - 1)) / limit) = (number * limit < sorted.length) :=
    propext (lt_parts_iff hlimit sorted.length number)
  rw [drop_skipFor hnumber hsize]
  simp only [OffsetPage.assemble, OffsetPage.cut, Nat.max_eq_left hlimit, Nat.max_eq_left hnumber,
    hnext]

theorem effectivePage_eq (r : OffsetRequest) : r.effectivePage = (max r.page.toInt 1).toNat := by
  rw [OffsetRequest.effectivePage]
  by_cases hfirst : r.page < 1
  · have hpage := lt_one_iff_toInt_lt.1 hfirst
    rw [if_pos hfirst]
    omega
  · have hpage := mt lt_one_iff_toInt_lt.2 hfirst
    rw [if_neg hfirst]
    omega

section Source

variable {cfg : Config} {source : Source} {r : OffsetRequest} {rows : List Row}

theorem Source.byOffset_eq_assemble (hu : source.IsUnordered)
    (hm : source.matching cfg r.filter = .ok rows) :
    source.byOffset cfg r = .ok (OffsetPage.assemble
      ((((source.view r.sortField).sort r.direction rows).drop
        (OffsetPage.skipFor r.effectivePage (cfg.resolveLimit r.limit).toNat)).take
          (cfg.resolveLimit r.limit).toNat)
      rows.length r.effectivePage (cfg.resolveLimit r.limit).toNat) := by
  cases source with
  | documents store =>
    have hfind := find_sorted hm r.sortField r.direction
      (OffsetPage.skipFor r.effectivePage (cfg.resolveLimit r.limit).toNat)
      (cfg.resolveLimit r.limit).toNat
    have hcount := count_of_select hm
    simp only [Source.byOffset, documentsByOffset, hfind, hcount, bind, Except.bind]
  | rows table base ctx =>
    have hkeys : ((narrow base r.filter ctx).orderBy
        (ctx.qualifiedName r.sortField (some base.table)) r.direction).order =
          [(ctx.qualifiedName r.sortField (some base.table), r.direction)] :=
      congrArg (· ++ [(ctx.qualifiedName r.sortField (some base.table), r.direction)]) hu
    have hfetch := fetch_window (q := (((narrow base r.filter ctx).orderBy
      (ctx.qualifiedName r.sortField (some base.table)) r.direction).withLimit
        (cfg.resolveLimit r.limit).toNat).withOffset
          (OffsetPage.skipFor r.effectivePage (cfg.resolveLimit r.limit).toNat)) hm hkeys rfl
    have hcount := count_of_select_rows hm
    rw [Source.byOffset, rowsByOffset]
    simp only [show (narrow base r.filter ctx).table = base.table from rfl, hfetch, hcount, bind,
      Except.bind]
    rfl

theorem Source.byOffset_eq_cut (hu : source.IsUnordered)
    (hm : source.matching cfg r.filter = .ok rows) (hsize : rows.length < 2 ^ 64) :
    source.byOffset cfg r = .ok (OffsetPage.cut (cfg.resolveLimit r.limit).toNat
      (max r.page.toInt 1).toNat ((source.view r.sortField).sort r.direction rows)) := by
  have hlength : ((source.view r.sortField).sort r.direction rows).length = rows.length :=
    StableSort.length_sort _ rows
  have hnumber : 1 ≤ (max r.page.toInt 1).toNat := by omega
  rw [Source.byOffset_eq_assemble hu hm, effectivePage_eq, ← hlength]
  rw [← hlength] at hsize
  exact congrArg Except.ok (assemble_eq_cut (one_le_resolveLimit cfg r.limit) hnumber hsize)

end Source

/-- Pages by offset cut the stably sorted rows into parts, whatever page and limit are asked for, as
long as the rows can be counted in 64 bits. The pages one after the other show all rows, and those
behind the last one show none. -/
theorem byOffset_partitions_sorted_rows (cfg : Config) (source : Source) (r : OffsetRequest)
    {rows : List Row} (hu : source.IsUnordered)
    (hm : source.matching cfg r.filter = .ok rows)
    (hfloat : ∀ row ∈ rows, ((source.view r.sortField).key row).IsFloatFree)
    (hsize : rows.length < 2 ^ 64) :
    let view := source.view r.sortField
    let limit := (cfg.resolveLimit r.limit).toNat
    let sorted := view.sort r.direction rows
    let count := (rows.length + (limit - 1)) / limit
    StableSort.IsStableOrder (view.compare r.direction) rows sorted ∧
    (∀ page : Int64, let number := (max page.toInt 1).toNat
      source.byOffset cfg { r with page := page } = .ok
        { list := (sorted.drop ((number - 1) * limit)).take limit
          totalCount := rows.length
          totalPages := count
          currentPage := number
          hasNext := decide (number * limit < rows.length)
          hasPrevious := decide (1 < number) }) ∧
    (count < 2 ^ 63 → ∃ pages : List OffsetPage, pages.length = count ∧
      (∀ i (hi : i < pages.length),
        source.byOffset cfg { r with page := Int64.ofNat (i + 1) } = .ok pages[i]) ∧
      pages.flatMap (·.list) = sorted) ∧
    ∀ page : Int64, count < page.toInt →
      ∃ p, source.byOffset cfg { r with page := page } = .ok p ∧ p.list = [] := by
  intro view limit sorted count
  have hlimit : 1 ≤ limit := one_le_resolveLimit cfg r.limit
  have hlength : sorted.length = rows.length := StableSort.length_sort _ rows
  have hcount : (sorted.length + (limit - 1)) / limit = count := by rw [hlength]
  have hfetch : ∀ page : Int64, source.byOffset cfg { r with page := page } =
      .ok (OffsetPage.cut limit (max page.toInt 1).toNat sorted) := fun page =>
    Source.byOffset_eq_cut (r := { r with page := page }) hu hm hsize
  refine ⟨StableSort.isStableOrder_sort (view.isOrderOn r.direction) hfloat, ?_, ?_, ?_⟩
  · intro page number
    rw [hfetch page, OffsetPage.cut, hlength]
  · intro hfew
    refine ⟨(List.range count).map fun i => OffsetPage.cut limit (i + 1) sorted, by simp, ?_, ?_⟩
    · intro i hi
      rw [List.length_map, List.length_range] at hi
      have hpage : (max (Int64.ofNat (i + 1)).toInt 1).toNat = i + 1 := by
        rw [Int64.toInt_ofNat_of_lt (by omega)]
        omega
      rw [hfetch, hpage, List.getElem_map, List.getElem_range]
    · rw [List.flatMap_map, ← hcount]
      exact flatMap_cut hlimit sorted
  · intro page hpage
    refine ⟨_, hfetch page, list_cut_of_lt hlimit sorted ?_⟩
    rw [hcount]
    omega

theorem offset_pages_of_tied_scores :
    let ann : Row := [("name", .str "Ann"), ("score", .int 1)]
    let bob : Row := [("name", .str "Bob"), ("score", .int 2)]
    let cid : Row := [("name", .str "Cid"), ("score", .int 1)]
    let dan : Row := [("name", .str "Dan")]
    let store := Document.Collection.ofList [bob, ann, cid, dan]
    let r : OffsetRequest := ⟨.map [], "score", .asc, 1, some 3⟩
    (Source.documents store).byOffset .default r =
        .ok ⟨[dan, ann, cid], 4, 2, 1, true, false⟩ ∧
      ∃ p, (Source.documents store).byOffset .default { r with page := 2 ^ 62 } = .ok p ∧
        p.list = [] := by
  intro ann bob cid dan store r
  have hm : (Source.documents store).matching .default r.filter = .ok [bob, ann, cid, dan] := rfl
  have hfloat : ∀ row ∈ [bob, ann, cid, dan],
      (((Source.documents store).view r.sortField).key row).IsFloatFree := by
    have hdan : ((Source.documents store).view r.sortField).key dan = .null := by decide +kernel
    simp only [List.forall_mem_cons, hdan]
    exact ⟨trivial, trivial, trivial, trivial, by simp⟩
  obtain ⟨_, hpage, _, hbeyond⟩ := byOffset_partitions_sorted_rows .default (.documents store) r
    trivial hm hfloat (by decide)
  refine ⟨(hpage 1).trans (congrArg Except.ok ?_), hbeyond (2 ^ 62) (by decide +kernel)⟩
  decide +kernel

end PagedFilter.Page
