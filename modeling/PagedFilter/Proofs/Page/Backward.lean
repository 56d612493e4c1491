import Mathlib.Data.List.Chain
import PagedFilter.Proofs.Page.Cursor
import PagedFilter.Proofs.Page.Walk

/-!
Walking back. Going back from a page other than the first one of a walk gives the page in front of
it, so the walk back from the last page shows the pages again, in reverse.
-/

namespace PagedFilter.Page

/-- The request for the page before a page, if there is one. -/
def CursorRequest.backward (r : CursorRequest) (p : CursorPage) : Option CursorRequest :=
  p.previous.map r.before

/-- Going back from the second page gives the first. -/
def StepsBack (fetch : CursorRequest → Except StoreError CursorPage) (r : CursorRequest)
    (p q : CursorPage) : Prop :=
  ∃ c, q.previous = some c ∧ fetch (r.before c) = .ok p

/-! ### One step back -/

section Step

variable {view : View} {rows : List Row} (hf : view.IsFaithful rows) (h : view.TellsApart rows)
  (r : CursorRequest) {limit : Nat} {front block behind : List Row} {y : Row}
  (hblock : block.length = limit)
  (hs : view.sort r.direction rows = front ++ (block ++ y :: behind))
include hf h hblock hs

/-- The last rows in front of a row are the block that ends there. -/
theorem list_before : view.list (r.before (view.key y)) limit rows = block := by
  have hsplit : view.sort r.direction rows = (front ++ block) ++ y :: behind := by
    rw [hs, List.append_assoc]
  have hy : y ∈ rows := mem_of_sort_eq hsplit (by simp)
  have hkind : ∀ c, (r.before (view.key y)).cursor = some c →
      ∀ row ∈ rows, (view.key row).kind = c.kind := by
    intro c hc row hrow
    rw [← Option.some.inj hc]
    exact h.kind row hrow y hy
  have hpast : (view.sort r.direction rows).filter (view.isPast (r.before (view.key y))) =
      front ++ block := by
    rw [hsplit]
    exact StableSort.filter_front (view.isOrderOn r.direction)
      (fun row hrow => h.isFloatFree (mem_of_sort_eq hsplit hrow)) (pairwise_of_sort_eq h hsplit)
  have hnearest := View.list_eq_nearest h hf hkind limit
  rw [hnearest]
  show ((view.sort r.direction rows).filter _).rtake limit = block
  rw [hpast, List.rtake, List.length_append, hblock, Nat.add_sub_cancel, List.drop_left]

theorem page_before (hlimit : 1 ≤ limit) :
    view.page (r.before (view.key y)) limit rows =
      view.pageBetween r limit rows.length front (block ++ y :: behind) := by
  have hlist : view.list (r.before (view.key y)) limit rows =
      (block ++ y :: behind).take limit := by
    rw [list_before hf h r hblock hs, ← hblock, List.take_left]
  exact page_of_list (q := r.before (view.key y)) hf h r hs rfl rfl hlimit hlist

end Step

theorem previous_pageBetween_cons (view : View) (r : CursorRequest) {limit : Nat} (total : Nat)
    {shown : List Row} (hshown : shown ≠ []) (y : Row) (left : List Row) :
    (view.pageBetween r limit total shown (y :: left)).previous = some (view.key y) := by
  rw [View.pageBetween]
  cases shown with
  | nil => exact absurd rfl hshown
  | cons s ss => rfl

/-! ### Walks -/

section Runs

variable {cfg : Config} {source : Source} {r : CursorRequest} {rows : List Row}
  (hs : source.Sorts r.sortField) (hm : source.matching cfg r.filter = .ok rows)
  (h : (source.view r.sortField).TellsApart rows)
include hs hm h

theorem byCursor_before {front block behind : List Row} {y : Row}
    (hblock : block.length = (cfg.resolveLimit r.limit).toNat)
    (hsort : (source.view r.sortField).sort r.direction rows = front ++ (block ++ y :: behind)) :
    source.byCursor cfg (r.before ((source.view r.sortField).key y)) =
      .ok ((source.view r.sortField).pageBetween r (cfg.resolveLimit r.limit).toNat rows.length
        front (block ++ y :: behind)) := by
  have hf := source.isFaithful_view hs hm h.ofOneKind
  have hy : y ∈ rows := by
    have hmem : y ∈ (source.view r.sortField).sort r.direction rows := by
      rw [hsort]
      simp
    exact (StableSort.mem_sort _ rows y).1 hmem
  rw [← page_before hf h r hblock hsort (one_le_resolveLimit cfg r.limit)]
  refine Source.byCursor_eq_page hs hm fun c hc row hrow => ?_
  rw [← Option.some.inj hc]
  exact h.kind row hrow y hy

/-- Going back from the page behind a page gives that page. -/
theorem stepsBack_pageBetween {shown left : List Row}
    (hsort : (source.view r.sortField).sort r.direction rows = shown ++ left)
    (hlong : (cfg.resolveLimit r.limit).toNat < left.length) :
    StepsBack (source.byCursor cfg) r
      ((source.view r.sortField).pageBetween r (cfg.resolveLimit r.limit).toNat rows.length
        shown left)
      ((source.view r.sortField).pageBetween r (cfg.resolveLimit r.limit).toNat rows.length
        (shown ++ left.take (cfg.resolveLimit r.limit).toNat)
        (left.drop (cfg.resolveLimit r.limit).toNat)) := by
  have hlimit := one_le_resolveLimit cfg r.limit
  obtain ⟨y, behind, hdrop⟩ : ∃ y behind,
      left.drop (cfg.resolveLimit r.limit).toNat = y :: behind :=
    List.exists_cons_of_ne_nil fun hnil => by
      rw [List.drop_eq_nil_iff] at hnil
      omega
  have hblock : (left.take (cfg.resolveLimit r.limit).toNat).length =
      (cfg.resolveLimit r.limit).toNat := by
    rw [List.length_take]
    omega
  have hsplit : left.take (cfg.resolveLimit r.limit).toNat ++ y :: behind = left := by
    rw [← hdrop, List.take_append_drop]
  have hfetch := byCursor_before hs hm h hblock (by rw [hsplit, hsort])
  rw [hsplit] at hfetch
  rw [hdrop]
  refine ⟨_, previous_pageBetween_cons _ r _ ?_ y behind, hfetch⟩
  intro hnil
  rw [(List.append_eq_nil_iff.1 hnil).2, List.length_nil] at hblock
  omega

/-- In a walk each page is the one that going back from the next gives. -/
theorem stepsBack_of_walk {q : CursorRequest} {pages : List CursorPage}
    (hwalk : Walk (source.byCursor cfg) CursorRequest.forward q pages) :
    ∀ {shown left : List Row}, q = r.since (source.view r.sortField) shown →
      (source.view r.sortField).sort r.direction rows = shown ++ left →
        pages.head? = some ((source.view r.sortField).pageBetween r
          (cfg.resolveLimit r.limit).toNat rows.length shown left) ∧
        pages.IsChain (StepsBack (source.byCursor cfg) r) := by
  have hlimit := one_le_resolveLimit cfg r.limit
  -- a request of the walk is known by the rows shown before it, so these vary in the induction
  induction hwalk with
  | @last q p hfetch hend =>
    intro shown left hq hsort
    have hp := byCursor_since hs hm h hsort
    rw [← hq, hfetch, Except.ok.injEq] at hp
    exact ⟨congrArg some hp, .singleton p⟩
  | @step q p next rest hfetch hnext _ ih =>
    intro shown left hq hsort
    have hp := byCursor_since hs hm h hsort
    rw [← hq, hfetch, Except.ok.injEq] at hp
    subst hq hp
    have hlong : (cfg.resolveLimit r.limit).toNat < left.length := by
      by_contra hshort
      have hend := Nat.le_of_not_lt hshort
      rw [CursorRequest.forward, (next_pageBetween _ r hlimit _).2 hend] at hnext
      simp at hnext
    have hmore : left.drop (cfg.resolveLimit r.limit).toNat ≠ [] := by
      rw [ne_eq, List.drop_eq_nil_iff]
      omega
    rw [forward_since _ r hlimit _ hmore, Option.some.injEq] at hnext
    have hsort' : (source.view r.sortField).sort r.direction rows =
        (shown ++ left.take (cfg.resolveLimit r.limit).toNat) ++
          left.drop (cfg.resolveLimit r.limit).toNat := by
      rw [hsort, List.append_assoc, List.take_append_drop]
    obtain ⟨hhead, hchain⟩ := ih hnext.symm hsort'
    refine ⟨rfl, List.isChain_cons.2 ⟨fun second hsecond => ?_, hchain⟩⟩
    rw [Option.mem_def, hhead, Option.some.injEq] at hsecond
    rw [← hsecond]
    exact stepsBack_pageBetween hs hm h hsort hlong

end Runs

/-- The walk back along pages each of which is reached from the one behind it. -/
theorem walk_backward_of_stepsBack {fetch : CursorRequest → Except StoreError CursorPage}
    {r : CursorRequest} {back : List CursorPage} {q : CursorPage}
    (hchain : (q :: back).IsChain fun p q => StepsBack fetch r q p)
    (hend : ∀ first ∈ (q :: back).getLast?, first.previous = none) {c : Value}
    (hc : q.previous = some c) : Walk fetch CursorRequest.backward (r.before c) back := by
  induction back generalizing q c with
  | nil =>
    rw [hend q rfl] at hc
    simp at hc
  | cons p rest ih =>
    obtain ⟨hstep, hrest⟩ := List.isChain_cons_cons.1 hchain
    obtain ⟨c', hc', hfetch⟩ := hstep
    rw [hc, Option.some.injEq] at hc'
    subst hc'
    have hend' : ∀ first ∈ (p :: rest).getLast?, first.previous = none := by
      intro first hfirst
      exact hend first (by rw [List.getLast?_cons_cons]; exact hfirst)
    cases hprevious : p.previous with
    | none =>
      -- a page without a way back is the first one
      have hnil : rest = [] := by
        cases rest with
        | nil => rfl
        | cons p' rest =>
          obtain ⟨c', hc', _⟩ := (List.isChain_cons_cons.1 hrest).1
          rw [hprevious] at hc'
          simp at hc'
      subst hnil
      exact .last hfetch (by rw [CursorRequest.backward, hprevious, Option.map_none])
    | some c' =>
      refine .step hfetch ?_ (ih hrest hend' hprevious)
      rw [CursorRequest.backward, hprevious, Option.map_some]
      rfl

/-- Going back undoes going forward. Every page of the walk from the first page, but the last, is the
answer to going back from the page behind it, and the walk back from the last page shows the pages
again, in reverse, up to the first one. -/
theorem backward_walk_replays_forward_pages (cfg : Config) (source : Source) (r : CursorRequest)
    {rows : List Row} (hcursor : r.cursor = none) (htowards : r.towards = .next)
    (hs : source.Sorts r.sortField) (hm : source.matching cfg r.filter = .ok rows)
    (h : (source.view r.sortField).TellsApart rows) :
    ∃ pages : List CursorPage,
      (∀ ps, Walk (source.byCursor cfg) CursorRequest.forward r ps ↔ ps = pages) ∧
      (∀ k (hk : k + 1 < pages.length), ∃ c, pages[k + 1].previous = some c ∧
        source.byCursor cfg (r.before c) = .ok pages[k]) ∧
      (∀ first ∈ pages.head?, first.previous = none) ∧
      ∀ last ∈ pages.getLast?, ∀ c, last.previous = some c →
        Walk (source.byCursor cfg) CursorRequest.backward (r.before c) pages.dropLast.reverse := by
  have hstart : r.since (source.view r.sortField) [] = r := by
    cases r
    simp_all [CursorRequest.since]
  obtain ⟨pages, hwalk, _⟩ := exists_walk hs hm h (fun _ => rfl) (List.nil_append _).symm
  rw [hstart] at hwalk
  obtain ⟨hhead, hchain⟩ := stepsBack_of_walk hs hm h hwalk hstart.symm (List.nil_append _).symm
  have hfirst : ∀ first ∈ pages.head?, first.previous = none := by
    intro first hmem
    rw [Option.mem_def, hhead, Option.some.injEq] at hmem
    rw [← hmem]
    rfl
  refine ⟨pages, fun ps => ⟨fun hps => hps.unique hwalk, fun hps => hps ▸ hwalk⟩, ?_, hfirst, ?_⟩
  · intro k hk
    exact List.isChain_iff_getElem.1 hchain k hk
  · intro last hlast c hc
    have hreverse : pages.reverse = last :: pages.dropLast.reverse := by
      rw [← List.dropLast_append_getLast? last hlast, List.reverse_append]
      simp
    have hback : (last :: pages.dropLast.reverse).IsChain fun p q =>
        StepsBack (source.byCursor cfg) r q p := by
      rw [← hreverse]
      exact List.isChain_reverse.2 hchain
    have hend : ∀ first ∈ (last :: pages.dropLast.reverse).getLast?, first.previous = none := by
      rw [← hreverse, List.getLast?_reverse]
      exact hfirst
    exact walk_backward_of_stepsBack hback hend hc

theorem walk_back_from_lowest_score :
    let store := Document.Collection.ofList
      ([7, 2, -1, 5].map fun n => [("score", Value.int n)])
    let r : CursorRequest := ⟨.map [("score", .map [("gt", .int 0)])], "score", .desc, some 2, none,
      .next⟩
    let first : CursorPage := ⟨[[("score", .int 7)], [("score", .int 5)]], 3, ⟨"score", .desc⟩,
      some (.int 5), none⟩
    let last : CursorPage := ⟨[[("score", .int 2)]], 3, ⟨"score", .desc⟩, none, some (.int 2)⟩
    Walk ((Source.documents store).byCursor .default) CursorRequest.forward r [first, last] ∧
      (Source.documents store).byCursor .default (r.before (.int 2)) = .ok first ∧
        Walk ((Source.documents store).byCursor .default) CursorRequest.backward
          (r.before (.int 2)) [first] := by
  intro store r first last
  have hm : (Source.documents store).matching .default r.filter =
      .ok ([7, 2, 5].map fun n => [("score", Value.int n)]) := rfl
  have hs : isNative "score" = false := by decide
  have h : ((Source.documents store).view r.sortField).TellsApart
      ([7, 2, 5].map fun n => [("score", Value.int n)]) :=
    View.tellsApart_map (by decide) fun n => rfl
  obtain ⟨pages, hwalk, hback, _, hreplay⟩ :=
    backward_walk_replays_forward_pages .default (.documents store) r rfl rfl hs hm h
  have hfirst : (Source.documents store).byCursor .default r = .ok first := by decide +kernel
  have hlast : (Source.documents store).byCursor .default (r.after (.int 5)) = .ok last := by
    decide +kernel
  have hforward : Walk ((Source.documents store).byCursor .default) CursorRequest.forward r
      [first, last] := .step hfirst rfl (.last hlast rfl)
  obtain rfl : [first, last] = pages := (hwalk _).1 hforward
  obtain ⟨c, hc, hfetch⟩ := hback 0 (by decide)
  obtain rfl : Value.int 2 = c := Option.some.inj hc
  exact ⟨hforward, hfetch, hreplay last rfl _ rfl⟩

end PagedFilter.Page
