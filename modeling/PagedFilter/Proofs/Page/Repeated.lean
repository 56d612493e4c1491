import PagedFilter.Proofs.Page.Visited

/-!
Documents that a walk shows again. A document whose sort value is a list meets a bound by its items, but
is sorted by the list as a whole; a date-time string at the end of a page may be read as a date in the
next bound; and a document without the sort field may hand on the value of another field. Where each
cursor is the sort value of the last document shown and bounds as it stands, only lists come back.
-/

namespace PagedFilter.Page

variable {cfg : Config} {store : Document.Collection} {r : CursorRequest} {rows : List Row}

theorem lt_list_of_kind {c v : Value} (hlist : c.kind ≠ .list) (hmap : c.kind ≠ .map)
    (hv : v.kind = .list) : c.compare v = .lt := by
  have hrank : c.kind.rank < v.kind.rank := by
    rw [hv]
    cases hc : c.kind <;> first | decide | exact absurd hc hlist | exact absurd hc hmap
  rw [Value.compare_of_ne_kind c v (hv ▸ hlist)]
  exact Nat.compare_eq_lt.2 hrank

/-- Upwards a list stands behind all values that may bound its items, other than maps. -/
theorem boundsBySort_ascending (store : Document.Collection) (hasc : r.direction = .asc)
    (hmap : ∀ row ∈ rows, (((Source.documents store).view r.sortField).key row).kind ≠ .map) :
    (Source.documents store).BoundsBySort r rows fun _ => True := by
  intro c hc row _ hlies _
  refine ⟨trivial, ?_⟩
  by_cases hlist : (((Source.documents store).view r.sortField).key row).kind = .list
  · by_cases hkind : (((Source.documents store).view r.sortField).key c).kind = .list
    · exact ((Source.documents store).lies_iff_beyond r.sortField r.direction .next
        (hlist.trans hkind.symm)).1 hlies
    · rw [View.compare, hasc]
      exact lt_list_of_kind hkind (hmap c hc) hlist
  · exact ((Source.documents store).beyond_of_lies r.sortField hlies hlist).2

/-- What bounds by itself where the edges are sort values and no date-time string is read as a date. -/
theorem passesOn_documents (hf : isNative r.sortField = false)
    (hm : store.select (documentFilter cfg r.filter) = .ok rows)
    (hedge : ∀ row ∈ rows, ((Source.documents store).view r.sortField).edge row =
      ((Source.documents store).view r.sortField).value row)
    (hdates : cfg.castDates = false ∨
      (∀ row ∈ rows, Filter.castDates (((Source.documents store).view r.sortField).key row) =
        ((Source.documents store).view r.sortField).key row) ∨
      ∀ row ∈ rows, (((Source.documents store).view r.sortField).key row).kind ≠ .date) :
    (Source.documents store).PassesOn cfg r rows := by
  refine ⟨hedge, ?_⟩
  intro row hrow v hv
  rw [hedge row hrow] at hv
  have hkey := View.key_of_value hv
  rcases hdates with hoff | hread | hdate
  · rw [Source.Keeps, documentCursor, hoff]
    rfl
  · have hsame := hread row hrow
    rw [hkey] at hsame
    exact documentCursor_of_castDates cfg hf hm hsame
  · refine documentCursor_of_select cfg hf hm (.inr ?_)
    intro row hrow t ht
    have hkey : ((Source.documents store).view r.sortField).key row = .date t :=
      View.key_of_value ht
    apply hdate row hrow
    rw [hkey]
    rfl

/-- A walk over documents gets a page for every cursor. While the cursor behind each page is the sort
value of its last document and bounds as it stands, a document is shown again only if it is sorted by a
list, going down or among maps, and all others stand behind the pages before theirs. -/
theorem document_walk_repeats_only_lists (cfg : Config) (store : Document.Collection)
    (r : CursorRequest) (hcursor : r.cursor = none) (htowards : r.towards = .next)
    (hf : isNative r.sortField = false)
    (hm : store.select (documentFilter cfg r.filter) = .ok rows)
    (hfloat : ∀ row ∈ rows,
      (((Source.documents store).view r.sortField).key row).IsFloatFree) :
    let source := Source.documents store
    let view := source.view r.sortField
    (∀ c : Option Value, ∃ p, documentsByCursor cfg store { r with cursor := c } = .ok p) ∧
    ∀ pages, Visits (documentsByCursor cfg store) CursorRequest.forward r pages →
      ((∀ row ∈ rows, view.edge row = view.value row) →
        (cfg.castDates = false ∨
          (∀ row ∈ rows, Filter.castDates (view.key row) = view.key row) ∨
          ∀ row ∈ rows, (view.key row).kind ≠ .date) →
        ∀ p ∈ pages, source.HandsOn cfg r p) ∧
      ((∀ p ∈ pages, source.HandsOn cfg r p) →
        pages.Pairwise fun p q =>
          (∀ row ∈ p.list, row ∈ q.list → (view.key row).kind = .list ∧
            (r.direction = .desc ∨ ∃ other ∈ rows, (view.key other).kind = .map)) ∧
          ∀ a ∈ p.list, ∀ b ∈ q.list, (view.key b).kind ≠ .list →
            view.compare r.direction a b = .lt) := by
  intro source view
  have hkeeps : ∀ c, r.cursor = some c → source.Keeps cfg r c := by
    rw [hcursor]
    exact fun c hc => absurd hc (by simp)
  refine ⟨?_, ?_⟩
  · intro c
    obtain ⟨read, hread⟩ := exists_documentCursor_eq_ok cfg hf hm
    exact ⟨_, documentsByCursor_eq_page_of_read (r := { r with cursor := c }) hf hm
      fun c _ => hread c⟩
  · intro pages hvisits
    have hwalk : Visits (source.byCursor cfg) CursorRequest.forward r pages := hvisits
    refine ⟨?_, ?_⟩
    · intro hedge hdates
      exact (passesOn_documents hf hm hedge hdates).handsOn_of_visits hwalk hf hm htowards hkeeps
    · intro hon
      have hself (row : Row) : view.compare r.direction row row ≠ .lt := by
        have heq : view.compare r.direction row row = .eq := Direction.compare_self _ _
        rw [heq]
        decide
      have hordered := (advances_of_visits hwalk hf hm hfloat
        (source.boundsBySort_of_not_comparesItems r rows) htowards hkeeps hon).ordered
      by_cases hfew : r.direction = .asc ∧ ∀ other ∈ rows, (view.key other).kind ≠ .map
      · -- every row shown later stands behind the rows shown before, so none comes back
        have hall := (advances_of_visits hwalk hf hm hfloat
          (boundsBySort_ascending store hfew.1 hfew.2) htowards hkeeps hon).ordered
        refine hall.imp ?_
        intro p q hpq
        refine ⟨?_, fun a ha b hb _ => hpq a ha b hb trivial⟩
        intro row hp hq
        exact absurd (hpq row hp row hq trivial) (hself row)
      · have hwhy : r.direction = .desc ∨ ∃ other ∈ rows, (view.key other).kind = .map := by
          cases hd : r.direction with
          | desc => exact .inl rfl
          | asc =>
            right
            by_contra hnone
            apply hfew
            refine ⟨hd, fun other hother hmap => hnone ⟨other, hother, hmap⟩⟩
        refine hordered.imp ?_
        intro p q hpq
        refine ⟨?_, hpq⟩
        intro row hp hq
        refine ⟨?_, hwhy⟩
        by_contra hlist
        exact hself row (hpq row hp row hq hlist)

theorem no_list_comes_back_going_up :
    let row (id : Int64) (v : Value) : Row := [("id", .int id), ("n", v)]
    let store := Document.Collection.ofList [row 1 (.list [.int 2, .int 9]), row 2 (.int 3),
      row 3 (.int 1), row 4 (.int 1), row 5 (.str "a")]
    let r : CursorRequest := ⟨.map [], "n", .asc, some 2, none, .next⟩
    ∀ pages, Visits (documentsByCursor .default store) CursorRequest.forward r pages →
      pages.Pairwise fun p q => p.list.Disjoint q.list := by
  intro row store r pages hvisits
  have hm : store.select (documentFilter .default r.filter) = .ok store.docs := rfl
  have hfloat : ∀ row ∈ store.docs,
      (((Source.documents store).view "n").key row).IsFloatFree := by
    decide +kernel
  have hedge : ∀ row ∈ store.docs, ((Source.documents store).view "n").edge row =
      ((Source.documents store).view "n").value row := by
    decide +kernel
  have hdates : ∀ row ∈ store.docs, (((Source.documents store).view "n").key row).kind ≠ .date := by
    decide +kernel
  have hmaps : ∀ row ∈ store.docs, (((Source.documents store).view "n").key row).kind ≠ .map := by
    decide +kernel
  obtain ⟨_, hwalks⟩ :=
    document_walk_repeats_only_lists .default store r rfl rfl (by decide) hm hfloat
  obtain ⟨hon, hrepeats⟩ := hwalks pages hvisits
  refine (hrepeats (hon hedge (.inr (.inr hdates)))).imp ?_
  rintro p q ⟨honly, _⟩ row hp hq
  obtain ⟨_, hdown | ⟨other, hother, hmap⟩⟩ := honly row hp hq
  · exact absurd hdown (by decide)
  · exact hmaps other hother hmap

/-- Going down, a list that holds a lesser number than the cursor comes back; so does a date where a
date-time string was the cursor and is read as a date, and a document whose number is less than that of
another field, handed on by a document without the sort field. -/
theorem documents_shown_again :
    let n (v : Value) : Row := [("n", v)]
    let lists := [n (.list [.int 1]), n (.int 5), n (.int 3)]
    let dates := [n (.date ⟨1672531200, 0⟩), n (.str "2024-01-01T00:00:00Z"),
      n (.str "2020-01-01T00:00:00Z")]
    let paths : List Row := [[("b", .int 7)], [("a.b", .int 9)], [("a.b", .int 5)]]
    ∀ x ∈ [(lists, "n", 2), (dates, "n", 2), (paths, "a.b", 3)],
      let store := Document.Collection.ofList x.1
      let r : CursorRequest := ⟨.map [], x.2.1, .desc, some x.2.2, none, .next⟩
      isNative r.sortField = false ∧
        store.select (documentFilter .default r.filter) = .ok x.1 ∧
        (∀ row ∈ x.1, (((Source.documents store).view r.sortField).key row).IsFloatFree) ∧
        ∃ first second, Visits (documentsByCursor .default store) CursorRequest.forward r
          [first, second] ∧ ∃ row ∈ first.list, row ∈ second.list := by
  intro n lists dates paths
  have hlists : Visits (documentsByCursor .default (.ofList lists)) CursorRequest.forward
      ⟨.map [], "n", .desc, some 2, none, .next⟩
      [⟨[n (.list [.int 1]), n (.int 5)], 3, ⟨"n", .desc⟩, some (.int 5), none⟩,
        ⟨[n (.list [.int 1]), n (.int 3)], 3, ⟨"n", .desc⟩, some (.int 3), none⟩] :=
    .step (by decide +kernel) rfl (.last (by decide +kernel))
  have hdates : Visits (documentsByCursor .default (.ofList dates)) CursorRequest.forward
      ⟨.map [], "n", .desc, some 2, none, .next⟩
      [⟨[n (.date ⟨1672531200, 0⟩), n (.str "2024-01-01T00:00:00Z")], 3, ⟨"n", .desc⟩,
          some (.str "2024-01-01T00:00:00Z"), none⟩,
        ⟨[n (.date ⟨1672531200, 0⟩)], 3, ⟨"n", .desc⟩, none, none⟩] :=
    .step (by decide +kernel) rfl (.last (by decide +kernel))
  have hpaths : Visits (documentsByCursor .default (.ofList paths)) CursorRequest.forward
      ⟨.map [], "a.b", .desc, some 3, none, .next⟩
      [⟨[[("a.b", .int 9)], [("a.b", .int 5)], [("b", .int 7)]], 3, ⟨"a.b", .desc⟩,
          some (.int 7), none⟩,
        ⟨[[("a.b", .int 5)]], 3, ⟨"a.b", .desc⟩, none, some (.int 5)⟩] :=
    .step (by decide +kernel) rfl (.last (by decide +kernel))
  refine List.forall_mem_cons.2 ⟨?_, List.forall_mem_cons.2 ⟨?_, List.forall_mem_singleton.2 ?_⟩⟩
  · exact ⟨by decide, rfl, by decide +kernel, _, _, hlists, n (.list [.int 1]), by decide, by decide⟩
  · exact ⟨by decide, rfl, by decide +kernel, _, _, hdates, n (.date ⟨1672531200, 0⟩), by decide,
      by decide⟩
  · exact ⟨by decide, rfl, by decide +kernel, _, _, hpaths, [("a.b", .int 5)], by decide, by decide⟩

end PagedFilter.Page
