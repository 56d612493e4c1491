import PagedFilter.Pattern.Basic

/-!
Rows of spots of one text, in order of place. A row is known by its places, and what a pattern makes of
a row is a row again; from the spots of a row, any run of characters leads to all spots that are not
before its first one.
-/

namespace PagedFilter

/-! ### Spots of a text -/

/-- The spot of a text at a place. -/
def Spot.ofText (cs : List Char) (place : Nat) : Spot :=
  ⟨place, (cs.take place).getLast?, cs.drop place⟩

namespace Pattern

def places (spots : List Spot) : List Nat := spots.map (·.place)

def InOrder (spots : List Spot) : Prop := spots.Pairwise fun s t => s.place < t.place

/-- Spots of one text in order of place. -/
structure IsRow (cs : List Char) (spots : List Spot) : Prop where
  inOrder : InOrder spots
  eq_ofText : ∀ s ∈ spots, s = Spot.ofText cs s.place
  place_le : ∀ s ∈ spots, s.place ≤ cs.length

variable {cs : List Char} {spots : List Spot}

theorem mem_places_iff {i : Nat} : i ∈ places spots ↔ ∃ s ∈ spots, s.place = i := List.mem_map

theorem mem_places_of_sublist {rest : List Spot} (h : rest.Sublist spots) {i : Nat}
    (hi : i ∈ places rest) : i ∈ places spots := by
  rw [places] at hi ⊢
  exact (h.map _).mem hi

theorem IsRow.mem_iff (h : IsRow cs spots) {i : Nat} :
    Spot.ofText cs i ∈ spots ↔ i ∈ places spots := by
  rw [mem_places_iff]
  constructor
  · exact fun hmem => ⟨_, hmem, rfl⟩
  · rintro ⟨s, hs, rfl⟩
    rw [← h.eq_ofText s hs]
    exact hs

theorem IsRow.le_length (h : IsRow cs spots) {i : Nat} (hi : i ∈ places spots) :
    i ≤ cs.length := by
  obtain ⟨s, hs, rfl⟩ := mem_places_iff.1 hi
  exact h.place_le s hs

theorem IsRow.sublist {rest : List Spot} (h : IsRow cs spots) (hs : rest.Sublist spots) :
    IsRow cs rest where
  inOrder := h.inOrder.sublist hs
  eq_ofText s hmem := h.eq_ofText s (hs.mem hmem)
  place_le s hmem := h.place_le s (hs.mem hmem)

theorem ofText_append (front after : List Char) :
    Spot.ofText (front ++ after) front.length = ⟨front.length, front.getLast?, after⟩ := by
  rw [Spot.ofText, List.take_left, List.drop_left]

/-- By induction on what is ahead: the characters passed are at the front of the text. -/
theorem isRow_fromPlace (front after : List Char) :
    IsRow (front ++ after) (Spot.fromPlace front.length front.getLast? after) ∧
      ∀ i, i ∈ places (Spot.fromPlace front.length front.getLast? after) ↔
        front.length ≤ i ∧ i ≤ (front ++ after).length := by
  induction after generalizing front with
  | nil =>
    refine ⟨⟨List.pairwise_singleton _ _, ?_, ?_⟩, fun i => ?_⟩
    · exact List.forall_mem_singleton.2 (ofText_append front []).symm
    · exact List.forall_mem_singleton.2 (Nat.le_of_eq (congrArg _ (List.append_nil front).symm))
    · rw [List.append_nil]
      exact List.mem_singleton.trans ⟨fun h => by simp [h], fun h => Nat.le_antisymm h.2 h.1⟩
  | cons c cs ih =>
    have hnext := ih (front ++ [c])
    rw [List.length_append, List.length_singleton, List.getLast?_concat, List.append_assoc,
      List.singleton_append] at hnext
    obtain ⟨hrow, hplaces⟩ := hnext
    rw [Spot.fromPlace]
    refine ⟨⟨List.pairwise_cons.2 ⟨fun s hs => ?_, hrow.inOrder⟩, ?_, ?_⟩, fun i => ?_⟩
    · exact ((hplaces s.place).1 (List.mem_map_of_mem hs)).1
    · exact List.forall_mem_cons.2 ⟨(ofText_append front (c :: cs)).symm, hrow.eq_ofText⟩
    · exact List.forall_mem_cons.2 ⟨by simp, hrow.place_le⟩
    · have hlength : (front ++ c :: cs).length = front.length + cs.length + 1 := by
        rw [List.length_append, List.length_cons, Nat.add_assoc]
      refine List.mem_cons.trans ?_
      change i = front.length ∨ i ∈ places _ ↔ _
      rw [hplaces i]
      omega

theorem isRow_all (cs : List Char) : IsRow cs (Spot.all cs) := (isRow_fromPlace [] cs).1

theorem mem_places_all_iff {i : Nat} : i ∈ places (Spot.all cs) ↔ i ≤ cs.length := by
  have h := (isRow_fromPlace [] cs).2 i
  exact h.trans (and_iff_right (Nat.zero_le i))

/-! ### Merging rows -/

section MergeInto

variable {s : Spot} {rest : List Spot → List Spot} {ss : List Spot}
  (hrest : ∀ ts t, t ∈ rest ts → t ∈ ss ∨ t ∈ ts)

include hrest in
theorem mem_of_mem_mergeInto {ts : List Spot} {t : Spot} (h : t ∈ merge.mergeInto s rest ts) :
    t ∈ s :: ss ∨ t ∈ ts := by
  induction ts with
  | nil =>
    rcases List.mem_cons.1 h with rfl | h
    · exact .inl List.mem_cons_self
    · exact (hrest [] t h).imp_left (List.mem_cons_of_mem _)
  | cons u us ih =>
    rw [merge.mergeInto] at h
    split at h
    · rcases List.mem_cons.1 h with rfl | h
      · exact .inl List.mem_cons_self
      · exact (hrest _ t h).imp_left (List.mem_cons_of_mem _)
    · split at h
      · rcases List.mem_cons.1 h with rfl | h
        · exact .inl List.mem_cons_self
        · exact (hrest _ t h).imp (List.mem_cons_of_mem _) (List.mem_cons_of_mem _)
      · rcases List.mem_cons.1 h with rfl | h
        · exact .inr List.mem_cons_self
        · exact (ih h).imp_right (List.mem_cons_of_mem _)

theorem places_mergeInto {i : Nat}
    (hplaces : ∀ ts, i ∈ places ss ∨ i ∈ places ts → i ∈ places (rest ts)) {ts : List Spot}
    (h : i ∈ places (s :: ss) ∨ i ∈ places ts) : i ∈ places (merge.mergeInto s rest ts) := by
  induction ts with
  | nil =>
    have hs : i = s.place ∨ i ∈ places ss := by simpa [places] using h
    rw [merge.mergeInto, places, List.map_cons, List.mem_cons]
    exact hs.imp_right fun hi => hplaces [] (.inl hi)
  | cons u us ih =>
    have hcases : i = s.place ∨ i ∈ places ss ∨ i = u.place ∨ i ∈ places us := by
      simpa [places, or_assoc] using h
    rw [merge.mergeInto]
    split
    · rw [places, List.map_cons, List.mem_cons]
      exact hcases.imp_right fun hi => hplaces _ (hi.imp_right List.mem_cons.2)
    · split
      · next hne heq =>
        rw [places, List.map_cons, List.mem_cons]
        rcases hcases with hi | hi | hi | hi
        · exact .inl hi
        · exact .inr (hplaces us (.inl hi))
        · exact .inl (hi.trans heq.symm)
        · exact .inr (hplaces us (.inr hi))
      · rw [places, List.map_cons, List.mem_cons]
        rcases hcases with hi | hi | hi | hi
        · exact .inr (ih (.inl (by simp [places, hi])))
        · exact .inr (ih (.inl (List.mem_cons_of_mem _ hi)))
        · exact .inl hi
        · exact .inr (ih (.inr hi))

include hrest in
theorem inOrder_mergeInto (hss : InOrder (s :: ss)) (horder : ∀ ts, InOrder ts → InOrder (rest ts))
    {ts : List Spot} (hts : InOrder ts) : InOrder (merge.mergeInto s rest ts) := by
  obtain ⟨hs, _⟩ := List.pairwise_cons.1 hss
  induction ts with
  | nil =>
    refine List.pairwise_cons.2 ⟨fun t ht => ?_, horder [] hts⟩
    exact hs t ((hrest [] t ht).resolve_right List.not_mem_nil)
  | cons u us ih =>
    obtain ⟨hu, hus⟩ := List.pairwise_cons.1 hts
    rw [merge.mergeInto]
    split
    · next hlt =>
      refine List.pairwise_cons.2 ⟨fun t ht => ?_, horder _ hts⟩
      rcases hrest _ t ht with ht | ht
      · exact hs t ht
      · rcases List.mem_cons.1 ht with rfl | ht
        · exact hlt
        · exact Nat.lt_trans hlt (hu t ht)
    · split
      · next heq =>
        refine List.pairwise_cons.2 ⟨fun t ht => ?_, horder _ hus⟩
        rcases hrest _ t ht with ht | ht
        · exact hs t ht
        · exact heq ▸ hu t ht
      · next hlt hne =>
        have hgt : u.place < s.place := by omega
        refine List.pairwise_cons.2 ⟨fun t ht => ?_, ih hus⟩
        rcases mem_of_mem_mergeInto hrest ht with ht | ht
        · rcases List.mem_cons.1 ht with rfl | ht
          · exact hgt
          · exact Nat.lt_trans hgt (hs t ht)
        · exact hu t ht

end MergeInto

theorem mem_of_mem_merge {ss ts : List Spot} {t : Spot} (h : t ∈ merge ss ts) :
    t ∈ ss ∨ t ∈ ts := by
  induction ss generalizing ts t with
  | nil => exact .inr h
  | cons s ss ih => exact mem_of_mem_mergeInto (fun _ _ => ih) h

theorem mem_places_merge_iff {ss ts : List Spot} {i : Nat} :
    i ∈ places (merge ss ts) ↔ i ∈ places ss ∨ i ∈ places ts := by
  constructor
  · intro h
    obtain ⟨t, ht, rfl⟩ := mem_places_iff.1 h
    exact (mem_of_mem_merge ht).imp List.mem_map_of_mem List.mem_map_of_mem
  · induction ss generalizing ts with
    | nil => exact fun h => h.resolve_left List.not_mem_nil
    | cons s ss ih => exact places_mergeInto fun _ => ih

theorem isRow_merge {ss ts : List Spot} (hs : IsRow cs ss) (ht : IsRow cs ts) :
    IsRow cs (merge ss ts) where
  inOrder := by
    have horder : ∀ ss ts : List Spot, InOrder ss → InOrder ts → InOrder (merge ss ts) := by
      intro ss
      induction ss with
      | nil => exact fun _ _ h => h
      | cons s ss ih =>
        intro ts hss hts
        exact inOrder_mergeInto (fun _ _ => mem_of_mem_merge) hss
          (fun us => ih us (List.pairwise_cons.1 hss).2) hts
    exact horder ss ts hs.inOrder ht.inOrder
  eq_ofText t h := (mem_of_mem_merge h).elim (hs.eq_ofText t) (ht.eq_ofText t)
  place_le t h := (mem_of_mem_merge h).elim (hs.place_le t) (ht.place_le t)

/-! ### One character -/

section One

variable {set : CharSet}

theorem eat_ofText {i : Nat} (h : i < cs.length) (hset : set.holds cs[i].toNat = true) :
    (Spot.ofText cs i).eat set = some (Spot.ofText cs (i + 1)) := by
  have hlast : (cs.take (i + 1)).getLast? = some cs[i] := by
    rw [List.take_succ_eq_append_getElem h, List.getLast?_concat]
  rw [Spot.ofText, Spot.ofText, hlast, Spot.eat, List.drop_eq_getElem_cons h]
  exact if_pos hset

theorem holds_of_eat_ofText {i : Nat} {t : Spot} (h : (Spot.ofText cs i).eat set = some t) :
    ∃ hlt : i < cs.length, set.holds cs[i].toNat = true := by
  rw [Spot.ofText, Spot.eat] at h
  by_cases hlt : i < cs.length
  · rw [List.drop_eq_getElem_cons hlt] at h
    exact ⟨hlt, (Option.ite_none_right_eq_some.1 h).1⟩
  · rw [List.drop_eq_nil_of_le (Nat.le_of_not_lt hlt)] at h
    cases h

theorem IsRow.exists_of_mem_one (h : IsRow cs spots) {t : Spot} (ht : t ∈ (one set).run spots) :
    ∃ s ∈ spots, t = Spot.ofText cs (s.place + 1) ∧
      ∃ hlt : s.place < cs.length, set.holds cs[s.place].toNat = true := by
  obtain ⟨s, hs, heat⟩ := List.mem_filterMap.1 ht
  rw [h.eq_ofText s hs] at heat
  obtain ⟨hlt, hset⟩ := holds_of_eat_ofText heat
  rw [eat_ofText hlt hset, Option.some.injEq] at heat
  exact ⟨s, hs, heat.symm, hlt, hset⟩

theorem IsRow.mem_places_one_iff (h : IsRow cs spots) {i : Nat} :
    i ∈ places ((one set).run spots) ↔
      ∃ j ∈ places spots, i = j + 1 ∧ ∃ hlt : j < cs.length, set.holds cs[j].toNat = true := by
  constructor
  · intro hi
    obtain ⟨t, ht, rfl⟩ := mem_places_iff.1 hi
    obtain ⟨s, hs, rfl, hset⟩ := h.exists_of_mem_one ht
    exact ⟨s.place, List.mem_map_of_mem hs, rfl, hset⟩
  · rintro ⟨j, hj, rfl, hlt, hset⟩
    have hmem := List.mem_filterMap.2 ⟨_, h.mem_iff.2 hj, eat_ofText hlt hset⟩
    exact List.mem_map_of_mem hmem

theorem isRow_one (h : IsRow cs spots) : IsRow cs ((one set).run spots) where
  inOrder := by
    refine List.pairwise_filterMap.2 (h.inOrder.imp_of_mem fun {s t} hs ht hlt => ?_)
    intro u hu v hv
    obtain ⟨_, hs', rfl, _⟩ := (h.sublist (List.singleton_sublist.2 hs)).exists_of_mem_one
      (List.mem_filterMap.2 ⟨s, List.mem_singleton_self s, hu⟩)
    obtain ⟨_, ht', rfl, _⟩ := (h.sublist (List.singleton_sublist.2 ht)).exists_of_mem_one
      (List.mem_filterMap.2 ⟨t, List.mem_singleton_self t, hv⟩)
    rw [List.mem_singleton.1 hs', List.mem_singleton.1 ht']
    exact Nat.succ_lt_succ hlt
  eq_ofText t ht := by
    obtain ⟨s, _, rfl, _⟩ := h.exists_of_mem_one ht
    rfl
  place_le t ht := by
    obtain ⟨s, _, rfl, hlt, _⟩ := h.exists_of_mem_one ht
    exact hlt

end One

/-- The spots behind one character each. -/
abbrev advance (spots : List Spot) : List Spot := (one .any).run spots

theorem isRow_advance (h : IsRow cs spots) : IsRow cs (advance spots) := isRow_one h

theorem IsRow.mem_places_advance_iff (h : IsRow cs spots) {i : Nat} :
    i ∈ places (advance spots) ↔ ∃ j ∈ places spots, i = j + 1 ∧ j < cs.length := by
  simp only [h.mem_places_one_iff, CharSet.holds, exists_prop, and_true]

/-! ### Any run of characters -/

theorem without_sublist (ss ts : List Spot) : (without ss ts).Sublist ss := by
  induction ss generalizing ts with
  | nil => exact .slnil
  | cons s ss ih =>
    rw [without]
    split
    · exact .refl _
    · split
      · exact (ih _).cons _
      · exact (ih _).cons_cons _

/-- Only spots that the other row has are left out. -/
theorem mem_without {ss ts : List Spot} {s : Spot} (h : s ∈ ss) (hts : s.place ∉ places ts) :
    s ∈ without ss ts := by
  induction ss generalizing ts with
  | nil => exact h
  | cons u ss ih =>
    have hsub : ∀ {us}, us.Sublist ts → s.place ∉ places us := fun hus hmem =>
      hts (mem_places_of_sublist hus hmem)
    rw [without]
    split
    · exact h
    · next t rest hdrop =>
      have hahead : (t :: rest).Sublist ts := hdrop ▸ List.dropWhile_sublist _
      split
      · next heq =>
        rcases List.mem_cons.1 h with rfl | h
        · exact absurd (heq ▸ List.mem_cons_self) (hsub hahead)
        · exact ih h (hsub ((List.sublist_cons_self t rest).trans hahead))
      · rcases List.mem_cons.1 h with rfl | h
        · exact List.mem_cons_self
        · exact List.mem_cons_of_mem _ (ih h (hsub hahead))

theorem notBefore_sublist (next spots : List Spot) : (notBefore next spots).Sublist spots := by
  cases next with
  | nil => exact List.nil_sublist _
  | cons s rest => exact List.dropWhile_sublist _

theorem isRow_nil : IsRow cs [] := ⟨List.Pairwise.nil, by simp, by simp⟩

theorem several_succ (n : Nat) {tried fresh : List Spot} (h : fresh ≠ []) :
    several advance (n + 1) tried fresh = merge (advance fresh) (several advance n
      (notBefore (advance fresh) (merge tried fresh))
      (without (advance fresh) (notBefore (advance fresh) (merge tried fresh)))) := by
  rw [several, if_neg (by simpa using h)]

theorem isRow_several {n : Nat} {tried fresh : List Spot} (h : IsRow cs fresh) :
    IsRow cs (several advance n tried fresh) := by
  induction n generalizing tried fresh with
  | zero => exact isRow_nil
  | succ n ih =>
    by_cases hne : fresh = []
    · subst hne
      exact isRow_nil
    · rw [several_succ n hne]
      exact isRow_merge (isRow_advance h) (ih ((isRow_advance h).sublist (without_sublist _ _)))

/-- No step leads back. -/
theorem IsRow.exists_lt_of_mem_several {n : Nat} {tried fresh : List Spot} (h : IsRow cs fresh)
    {i : Nat} (hi : i ∈ places (several advance n tried fresh)) :
    ∃ j ∈ places fresh, j < i := by
  induction n generalizing tried fresh with
  | zero => exact absurd hi List.not_mem_nil
  | succ n ih =>
    by_cases hne : fresh = []
    · subst hne
      exact absurd hi List.not_mem_nil
    · rw [several_succ n hne, mem_places_merge_iff] at hi
      rcases hi with hi | hi
      · obtain ⟨j, hj, rfl, _⟩ := h.mem_places_advance_iff.1 hi
        exact ⟨j, hj, Nat.lt_succ_self j⟩
      · obtain ⟨k, hk, hki⟩ := ih ((isRow_advance h).sublist (without_sublist _ _)) hi
        have hstep := mem_places_of_sublist (without_sublist _ _) hk
        obtain ⟨j, hj, rfl, _⟩ := h.mem_places_advance_iff.1 hstep
        exact ⟨j, hj, Nat.lt_trans (Nat.lt_succ_self j) hki⟩

/-- By induction on the steps: the way from a spot is followed as long as no other spot that is or was
under way lies on it. -/
theorem IsRow.mem_several {n i j : Nat} {tried fresh : List Spot} (h : IsRow cs fresh)
    (hj : j ∈ places fresh) (hji : j < i) (hi : i ≤ cs.length) (hn : i ≤ j + n)
    (hbetween : ∀ k, j < k → k < i → k ∉ places tried ∧ k ∉ places fresh) :
    i ∈ places (several advance n tried fresh) := by
  induction n generalizing tried fresh j with
  | zero => omega
  | succ n ih =>
    have hne : fresh ≠ [] := by
      rintro rfl
      exact absurd hj List.not_mem_nil
    have hstep : j + 1 ∈ places (advance fresh) :=
      h.mem_places_advance_iff.2 ⟨j, hj, rfl, by omega⟩
    rw [several_succ n hne, mem_places_merge_iff]
    by_cases hlast : i = j + 1
    · exact .inl (hlast ▸ hstep)
    · right
      have htried : ∀ k, j < k → k < i →
          k ∉ places (notBefore (advance fresh) (merge tried fresh)) := by
        intro k hjk hki hmem
        have hmerge := mem_places_of_sublist (notBefore_sublist _ _) hmem
        rcases mem_places_merge_iff.1 hmerge with hk | hk
        · exact (hbetween k hjk hki).1 hk
        · exact (hbetween k hjk hki).2 hk
      have hfresh := mem_without ((isRow_advance h).mem_iff.2 hstep)
        (htried (j + 1) (by omega) (by omega))
      have hnext : j + 1 ∈ places (without (advance fresh)
          (notBefore (advance fresh) (merge tried fresh))) := List.mem_map_of_mem hfresh
      refine ih ((isRow_advance h).sublist (without_sublist _ _)) hnext (by omega)
        (by omega) fun k hjk hki => ⟨htried k (by omega) hki, fun hmem => ?_⟩
      have hk := mem_places_of_sublist (without_sublist _ _) hmem
      obtain ⟨f, hf, rfl, _⟩ := h.mem_places_advance_iff.1 hk
      exact (hbetween f (by omega) (by omega)).2 hf

theorem isRow_anyRun (h : IsRow cs spots) : IsRow cs ((rep (one .any) 0 none).run spots) :=
  isRow_merge h (isRow_several h)

theorem exists_last_before {ns : List Nat} {i j : Nat} (hj : j ∈ ns) (hji : j < i) :
    ∃ k ∈ ns, j ≤ k ∧ k < i ∧ ∀ m, k < m → m < i → m ∉ ns := by
  by_cases h : ∃ m, j < m ∧ m < i ∧ m ∈ ns
  · obtain ⟨m, hjm, hmi, hm⟩ := h
    obtain ⟨k, hk, hmk, hlast⟩ := exists_last_before hm hmi
    exact ⟨k, hk, by omega, hlast⟩
  · exact ⟨j, hj, Nat.le_refl j, hji, fun m hjm hmi hm => h ⟨m, hjm, hmi, hm⟩⟩
termination_by i - j

/-- From the first spot of a row there are as many characters left as from any. -/
theorem IsRow.le_longest (h : IsRow cs spots) {j : Nat} (hj : j ∈ places spots) :
    cs.length ≤ j + longest spots := by
  cases spots with
  | nil => exact absurd hj List.not_mem_nil
  | cons s rest =>
    have hfirst : s.place ≤ j := by
      obtain ⟨t, ht, rfl⟩ := mem_places_iff.1 hj
      rcases List.mem_cons.1 ht with rfl | ht
      · exact Nat.le_refl _
      · exact Nat.le_of_lt ((List.pairwise_cons.1 h.inOrder).1 t ht)
    have hafter : s.after.length = cs.length - s.place := by
      rw [h.eq_ofText s List.mem_cons_self]
      exact List.length_drop
    rw [longest, hafter]
    omega

/-- A run of characters leads to every spot that is not before the first one. -/
theorem IsRow.mem_places_anyRun_iff (h : IsRow cs spots) {i : Nat} :
    i ∈ places ((rep (one .any) 0 none).run spots) ↔ ∃ j ∈ places spots, j ≤ i ∧ i ≤ cs.length := by
  have hrun : (rep (one .any) 0 none).run spots =
      merge spots (several advance (longest spots + 1) [] spots) := rfl
  rw [hrun, mem_places_merge_iff]
  constructor
  · rintro (hi | hi)
    · exact ⟨i, hi, Nat.le_refl i, h.le_length hi⟩
    · obtain ⟨j, hj, hlt⟩ := h.exists_lt_of_mem_several hi
      exact ⟨j, hj, Nat.le_of_lt hlt, (isRow_several h).le_length hi⟩
  · rintro ⟨j, hj, hji, hi⟩
    by_cases hmem : i ∈ places spots
    · exact .inl hmem
    · -- the last spot of the row in front of the place is the one to start from
      have hlt : j < i := Nat.lt_of_le_of_ne hji fun he => hmem (he ▸ hj)
      obtain ⟨k, hk, _, hki, hlast⟩ := exists_last_before hj hlt
      have hfar := h.le_longest hk
      exact .inr (h.mem_several hk hki hi (by omega)
        fun m hkm hmi => ⟨List.not_mem_nil, hlast m hkm hmi⟩)

end Pattern

end PagedFilter
