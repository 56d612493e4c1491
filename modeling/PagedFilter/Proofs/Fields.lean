import PagedFilter.Fields

/-!
Fields whose names are distinct: looking up a name finds the one entry under it, and collecting
entries loses none of them.
-/

namespace PagedFilter.Fields

variable {α : Type}

theorem Sorted.nodup_names {fs : Fields α} (h : Sorted fs) : (names fs).Nodup := by
  rw [names, List.nodup_iff_pairwise_ne, List.pairwise_map]
  refine List.Pairwise.imp ?_ h
  intro a b hab he
  rw [he] at hab
  exact String.lt_irrefl _ hab

theorem mem_of_find? {fs : Fields α} {k : String} {v : α} (h : find? fs k = some v) :
    (k, v) ∈ fs := by
  induction fs with
  | nil => simp [find?] at h
  | cons e rest ih =>
    obtain ⟨j, w⟩ := e
    rw [find?] at h
    split at h
    · next hj =>
      rw [Option.some.injEq] at h
      rw [hj, h]
      exact List.mem_cons_self
    · exact List.mem_cons_of_mem _ (ih h)

theorem find?_of_mem {fs : Fields α} (hn : (names fs).Nodup) {k : String} {v : α}
    (h : (k, v) ∈ fs) : find? fs k = some v := by
  induction fs with
  | nil => simp at h
  | cons e rest ih =>
    obtain ⟨j, w⟩ := e
    obtain ⟨hj, hr⟩ := List.nodup_cons.1 hn
    rcases List.mem_cons.1 h with he | hm
    · rw [Prod.mk.injEq] at he
      rw [find?, if_pos he.1.symm, he.2]
    · have hne : j ≠ k := by
        rintro rfl
        exact hj (List.mem_map.2 ⟨(j, v), hm, rfl⟩)
      rw [find?, if_neg hne, ih hr hm]

/-! ### Collecting entries -/

/-- The entries that stay when their names are rewritten and they are collected one after the other:
an entry gives way to a later one that gets the same name. -/
def kept (rename : String → String) : Fields α → Fields α
  | [] => []
  | e :: rest =>
    if rename e.1 ∈ rest.map (rename ·.1) then kept rename rest else e :: kept rename rest

section Kept

variable (rename : String → String)

theorem mem_of_mem_kept {fs : Fields α} {e : String × α} (h : e ∈ kept rename fs) : e ∈ fs := by
  induction fs with
  | nil => simp [kept] at h
  | cons d rest ih =>
    rw [kept] at h
    split at h
    · exact List.mem_cons_of_mem _ (ih h)
    · rcases List.mem_cons.1 h with rfl | h
      · exact List.mem_cons_self
      · exact List.mem_cons_of_mem _ (ih h)

theorem length_kept_le (fs : Fields α) : (kept rename fs).length ≤ fs.length := by
  induction fs with
  | nil => exact Nat.le_refl _
  | cons e rest ih =>
    rw [kept]
    split
    · exact Nat.le_succ_of_le ih
    · exact Nat.succ_le_succ ih

/-- The last entry is never replaced. -/
theorem kept_ne_nil {fs : Fields α} (h : fs ≠ []) : kept rename fs ≠ [] := by
  induction fs with
  | nil => exact absurd rfl h
  | cons e rest ih =>
    rw [kept]
    split
    · next hmem =>
      apply ih
      rintro rfl
      simp at hmem
    · simp

/-- An entry gives way only to one that gets the same name. -/
theorem exists_mem_kept {fs : Fields α} {e : String × α} (h : e ∈ fs) :
    ∃ d ∈ kept rename fs, rename d.1 = rename e.1 := by
  induction fs generalizing e with
  | nil => simp at h
  | cons c rest ih =>
    have hrest : ∀ d ∈ kept rename rest, d ∈ kept rename (c :: rest) := by
      intro d hd
      rw [kept]
      split
      · exact hd
      · exact List.mem_cons_of_mem _ hd
    rcases List.mem_cons.1 h with rfl | h
    · by_cases hmem : rename e.1 ∈ rest.map (rename ·.1)
      · obtain ⟨later, hlater, hname⟩ := List.mem_map.1 hmem
        obtain ⟨d, hd, heq⟩ := ih hlater
        exact ⟨d, hrest d hd, heq.trans hname⟩
      · refine ⟨e, ?_, rfl⟩
        rw [kept, if_neg hmem]
        exact List.mem_cons_self
    · obtain ⟨d, hd, heq⟩ := ih h
      exact ⟨d, hrest d hd, heq⟩

/-- All entries stay exactly if they get different names. -/
theorem kept_eq_self_iff (fs : Fields α) :
    kept rename fs = fs ↔ (fs.map (rename ·.1)).Nodup := by
  induction fs with
  | nil => simp [kept]
  | cons e rest ih =>
    rw [kept, List.map_cons, List.nodup_cons]
    by_cases hmem : rename e.1 ∈ rest.map (rename ·.1)
    · have hlength := length_kept_le rename rest
      have hne : kept rename rest ≠ e :: rest := by
        intro heq
        rw [heq, List.length_cons] at hlength
        omega
      simp [hmem, hne]
    · simp [hmem, ih]

theorem kept_map {β : Type} {f : String × α → String × β} (hf : ∀ e, (f e).1 = rename e.1)
    (fs : Fields α) : kept id (fs.map f) = (kept rename fs).map f := by
  induction fs with
  | nil => rfl
  | cons e rest ih =>
    have hnames : (rest.map f).map (fun d => id d.1) = rest.map (rename ·.1) := by
      rw [List.map_map]
      exact List.map_congr_left fun d _ => hf d
    rw [List.map_cons, kept, kept, hnames, id, hf, ih]
    split <;> rfl

end Kept

/-- Writing under a name takes the place of what was there. -/
theorem put_perm_filter {fs : Fields α} (h : Sorted fs) (k : String) (v : α) :
    (put k v fs).Perm ((k, v) :: fs.filter fun d => d.1 ≠ k) := by
  induction fs with
  | nil => exact .refl _
  | cons e rest ih =>
    obtain ⟨j, w⟩ := e
    obtain ⟨hj, hr⟩ := List.pairwise_cons.1 h
    have hbehind : ∀ i, i ≤ j → (rest.filter fun d => d.1 ≠ i) = rest := by
      intro i hi
      apply List.filter_eq_self.2
      intro d hd
      have hne : d.1 ≠ i := by
        rintro rfl
        exact String.not_lt.2 hi (hj d hd)
      exact decide_eq_true hne
    rw [put]
    split
    · next hlt =>
      have hne : j ≠ k := by
        rintro rfl
        exact String.lt_irrefl _ hlt
      rw [List.filter_cons_of_pos (by simp [hne]), hbehind k (String.not_lt.1 (String.lt_asymm hlt))]
    · split
      · next heq =>
        subst heq
        rw [List.filter_cons_of_neg (by simp), hbehind k (String.le_refl k)]
      · next hne =>
        rw [List.filter_cons_of_pos (by simp [Ne.symm hne])]
        exact ((ih hr).cons _).trans (.swap _ _ _)

/-- By induction on the entries: those written so far stay where no later entry has their name. -/
theorem foldl_put_perm {fs : Fields α} (h : Sorted fs) (entries : Fields α) :
    (entries.foldl (fun fs e => put e.1 e.2 fs) fs).Perm
      (kept id entries ++ fs.filter fun d => d.1 ∉ names entries) := by
  induction entries generalizing fs with
  | nil =>
    have hall : (fs.filter fun d => d.1 ∉ names ([] : Fields α)) = fs :=
      List.filter_eq_self.2 fun d _ => decide_eq_true List.not_mem_nil
    rw [kept, hall]
    exact .refl _
  | cons e rest ih =>
    have hwritten := ((put_perm_filter h e.1 e.2).filter fun d => d.1 ∉ names rest).append_left
      (kept id rest)
    have hfilter : (fs.filter fun d => d.1 ≠ e.1).filter (fun d => d.1 ∉ names rest) =
        fs.filter fun d => d.1 ∉ names (e :: rest) := by
      rw [List.filter_filter]
      apply List.filter_congr
      intro d _
      rw [← Bool.decide_and]
      exact decide_eq_decide.2 (by simp [names, and_comm])
    have hmem : id e.1 ∈ rest.map (fun d => id d.1) ↔ e.1 ∈ names rest := Iff.rfl
    refine (ih (h.put e.1 e.2)).trans (hwritten.trans ?_)
    rw [kept]
    by_cases he : e.1 ∈ names rest
    · rw [if_pos (hmem.2 he), List.filter_cons_of_neg (by simp [he]), hfilter]
    · rw [if_neg (mt hmem.1 he), List.filter_cons_of_pos (by simp [he]), hfilter]
      exact List.perm_middle

/-- Collecting entries keeps the last one of every name. -/
theorem ofList_perm_kept (entries : Fields α) : (ofList entries).Perm (kept id entries) := by
  have hp := foldl_put_perm List.Pairwise.nil entries
  rwa [List.filter_nil, List.append_nil] at hp

theorem ofList_map_perm {β : Type} {rename : String → String} {f : String × α → String × β}
    (hf : ∀ e, (f e).1 = rename e.1) (fs : Fields α) :
    (ofList (fs.map f)).Perm ((kept rename fs).map f) := by
  have hp := ofList_perm_kept (fs.map f)
  rwa [kept_map rename hf] at hp

theorem nodup_names_ofList (entries : List (String × α)) : (names (ofList entries)).Nodup :=
  (sorted_ofList entries).nodup_names

section Values

variable {β : Type} (f : α → β)

theorem put_map (k : String) (v : α) (fs : Fields α) :
    put k (f v) (fs.map fun e => (e.1, f e.2)) = (put k v fs).map fun e => (e.1, f e.2) := by
  induction fs with
  | nil => rfl
  | cons e rest ih =>
    rw [List.map_cons, put, put, ih]
    split
    · rfl
    · split <;> rfl

/-- Which entries stay does not depend on what they hold. -/
theorem ofList_map (entries : Fields α) :
    ofList (entries.map fun e => (e.1, f e.2)) =
      (ofList entries).map fun e => (e.1, f e.2) := by
  suffices hfold : ∀ fs : Fields α, (entries.map fun e => (e.1, f e.2)).foldl
      (fun fs e => put e.1 e.2 fs) (fs.map fun e => (e.1, f e.2)) =
        (entries.foldl (fun fs e => put e.1 e.2 fs) fs).map fun e => (e.1, f e.2) from hfold []
  induction entries with
  | nil => exact fun _ => rfl
  | cons e rest ih =>
    intro fs
    have hput := put_map f e.1 e.2 fs
    rw [List.map_cons, List.foldl_cons, List.foldl_cons, ← ih, ← hput]

end Values

/-! ### Collecting again -/

/-- Sorted fields are determined by what they hold. -/
theorem eq_of_perm_of_sorted {fs gs : Fields α} (hf : Sorted fs) (hg : Sorted gs)
    (h : fs.Perm gs) : fs = gs :=
  h.eq_of_pairwise (fun _ _ _ _ hab hba => absurd hba (String.lt_asymm hab)) hf hg

theorem ofList_perm_of_nodup {entries : Fields α} (h : (names entries).Nodup) :
    (ofList entries).Perm entries := by
  have hp := ofList_perm_kept entries
  have hkept : kept id entries = entries := (kept_eq_self_iff id entries).2 h
  rwa [hkept] at hp

theorem ofList_of_sorted {fs : Fields α} (h : Sorted fs) : ofList fs = fs :=
  eq_of_perm_of_sorted (sorted_ofList fs) h (ofList_perm_of_nodup h.nodup_names)

/-- Entries with distinct names may be collected in any order. -/
theorem ofList_eq_of_perm {as bs : Fields α} (h : as.Perm bs) (hn : (names as).Nodup) :
    ofList as = ofList bs := by
  have hnb : (names bs).Nodup := (h.map _).nodup_iff.1 hn
  have hp := (ofList_perm_of_nodup hn).trans (h.trans (ofList_perm_of_nodup hnb).symm)
  exact eq_of_perm_of_sorted (sorted_ofList as) (sorted_ofList bs) hp

/-- Entries may be collected under other names on the way to distinct ones. -/
theorem ofList_map_ofList_map {rename : String → String} {f g h : String × α → String × α}
    (hg : ∀ e, (g e).1 = rename e.1) {fs : Fields α} (hn : (names (fs.map h)).Nodup)
    (heq : ∀ e ∈ fs, g (f e) = h e) :
    ofList ((ofList (fs.map f)).map g) = ofList (fs.map h) := by
  have hnames : (names (fs.map f)).map rename = names (fs.map h) := by
    rw [names, names, List.map_map, List.map_map, List.map_map]
    refine List.map_congr_left fun e he => ?_
    change rename (f e).1 = (h e).1
    rw [← hg, heq e he]
  have hdistinct : (names (fs.map f)).Nodup := by
    rw [← hnames] at hn
    exact List.Pairwise.of_map rename (fun _ _ hne heq => hne (congrArg rename heq)) hn
  have hp : ((ofList (fs.map f)).map g).Perm (fs.map h) := by
    have hmap := (ofList_perm_of_nodup hdistinct).map g
    rwa [List.map_map, List.map_congr_left (f := g ∘ f) heq] at hmap
  exact (ofList_eq_of_perm hp.symm hn).symm

section Rewritten

variable {rename : String → String} {f : String × α → String × α}

theorem mem_ofList_map_iff {β : Type} {f : String × α → String × β}
    (hf : ∀ e, (f e).1 = rename e.1) {fs : Fields α} {e : String × β} :
    e ∈ ofList (fs.map f) ↔ ∃ d ∈ kept rename fs, f d = e := by
  rw [(ofList_map_perm hf fs).mem_iff, List.mem_map]

theorem mem_names_ofList_map_iff {β : Type} {f : String × α → String × β}
    (hf : ∀ e, (f e).1 = rename e.1) {fs : Fields α} {k : String} :
    k ∈ names (ofList (fs.map f)) ↔ ∃ j ∈ names fs, rename j = k := by
  constructor
  · intro hk
    obtain ⟨e, he, rfl⟩ := List.mem_map.1 hk
    obtain ⟨d, hd, rfl⟩ := (mem_ofList_map_iff hf).1 he
    exact ⟨d.1, List.mem_map_of_mem (mem_of_mem_kept rename hd), (hf d).symm⟩
  · rintro ⟨j, hj, rfl⟩
    obtain ⟨e, he, rfl⟩ := List.mem_map.1 hj
    obtain ⟨d, hd, heq⟩ := exists_mem_kept rename he
    rw [← heq, ← hf]
    exact List.mem_map_of_mem ((mem_ofList_map_iff hf).2 ⟨d, hd, rfl⟩)

/-- Rewriting sorted fields gives them back exactly if it leaves each of them alone, where a name that
is rewritten once stays as it is. -/
theorem ofList_map_eq_self_iff (hr : ∀ k, rename (rename k) = rename k)
    (hf : ∀ e, (f e).1 = rename e.1) {fs : Fields α} (h : Sorted fs) :
    ofList (fs.map f) = fs ↔ ∀ e ∈ fs, f e = e := by
  constructor
  · intro heq
    have hfixed : ∀ e ∈ fs, rename e.1 = e.1 := by
      intro e he
      rw [← heq, mem_ofList_map_iff hf] at he
      obtain ⟨d, _, rfl⟩ := he
      rw [hf, hr]
    have hsorted : Sorted (fs.map f) := by
      rw [Sorted, List.pairwise_map]
      refine List.Pairwise.imp_of_mem ?_ h
      intro a b ha hb hab
      rwa [hf, hf, hfixed a ha, hfixed b hb]
    rw [ofList_of_sorted hsorted] at heq
    exact List.map_inj_left.1 (heq.trans (List.map_id fs).symm)
  · intro heq
    rw [List.map_congr_left heq, List.map_id', ofList_of_sorted h]

end Rewritten

end PagedFilter.Fields
