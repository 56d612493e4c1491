import PagedFilter.Proofs.Double.Rounding
import PagedFilter.Proofs.StableSort
import PagedFilter.Value.Order

/-!
The order of values turned around, and where it is transitive: as far as no double equals two
integers. On values without doubles it is a linear order.
-/

namespace PagedFilter

open StableSort (Chains chains_of_transCmp)

theorem Instant.chains_compare (a b c : Instant) :
    Chains (a.compare b) (b.compare c) (a.compare c) :=
  (chains_of_transCmp _ _ _ _).then (chains_of_transCmp _ _ _ _)

theorem Double.chains_compare (x y z : Double) :
    Chains (x.compare y) (y.compare z) (x.compare z) :=
  chains_of_transCmp Ord.compare x.rank y.rank z.rank

namespace Value

mutual

theorem compare_swap : (a b : Value) → (compare a b).swap = compare b a
  | null, b => by cases b <;> rfl
  | bool _, b => by
    cases b with
    | bool _ =>
      rw [compare, compare]
      exact Std.OrientedCmp.eq_swap.symm
    | _ => rfl
  | int n, b => by
    cases b with
    | int _ =>
      rw [compare, compare]
      exact Std.OrientedCmp.eq_swap.symm
    | float x => exact Double.compare_swap _ _
    | _ => rfl
  | float x, b => by
    cases b with
    | int _ => exact Double.compare_swap _ _
    | float _ => exact Double.compare_swap _ _
    | _ => rfl
  | str _, b => by
    cases b with
    | str _ =>
      rw [compare, compare]
      exact Std.OrientedCmp.eq_swap.symm
    | _ => rfl
  | date s, b => by
    cases b with
    | date t => exact Instant.compare_swap s t
    | _ => rfl
  | list as, b => by
    cases b with
    | list bs =>
      rw [compare, compare]
      exact compareList_swap as bs
    | _ => rfl
  | map as, b => by
    cases b with
    | map bs =>
      rw [compare, compare]
      exact compareFields_swap as bs
    | _ => rfl

theorem compareList_swap : (as bs : List Value) → (compareList as bs).swap = compareList bs as
  | [], [] => rfl
  | [], _ :: _ => rfl
  | _ :: _, [] => rfl
  | a :: as, b :: bs => by
    rw [compareList, compareList, Ordering.swap_then, compare_swap a b, compareList_swap as bs]

theorem compareFields_swap :
    (as bs : List (String × Value)) → (compareFields as bs).swap = compareFields bs as
  | [], [] => rfl
  | [], _ :: _ => rfl
  | _ :: _, [] => rfl
  | (j, a) :: as, (k, b) :: bs => by
    have hname : (Ord.compare j k).swap = Ord.compare k j := Std.OrientedCmp.eq_swap.symm
    rw [compareFields, compareFields, Ordering.swap_then, Ordering.swap_then, hname,
      compare_swap a b, compareFields_swap as bs]

end

mutual

/-- No double at any depth. -/
def IsFloatFree : Value → Prop
  | float _ => False
  | list items => AreFloatFree items
  | map fields => HoldFloatFree fields
  | _ => True

def AreFloatFree : List Value → Prop
  | [] => True
  | v :: rest => IsFloatFree v ∧ AreFloatFree rest

def HoldFloatFree : List (String × Value) → Prop
  | [] => True
  | (_, v) :: rest => IsFloatFree v ∧ HoldFloatFree rest

end

mutual

def decideFloatFree : (v : Value) → Decidable (IsFloatFree v)
  | null | bool _ | int _ | str _ | date _ => .isTrue trivial
  | float _ => .isFalse id
  | list items => decideAreFloatFree items
  | map fields => decideHoldFloatFree fields

def decideAreFloatFree : (items : List Value) → Decidable (AreFloatFree items)
  | [] => .isTrue trivial
  | v :: rest => @instDecidableAnd _ _ (decideFloatFree v) (decideAreFloatFree rest)

def decideHoldFloatFree : (fields : List (String × Value)) → Decidable (HoldFloatFree fields)
  | [] => .isTrue trivial
  | (_, v) :: rest => @instDecidableAnd _ _ (decideFloatFree v) (decideHoldFloatFree rest)

end

instance : DecidablePred IsFloatFree := decideFloatFree

theorem kind_eq_of_compare {a b : Value} (h : compare a b = .eq) : a.kind = b.kind := by
  by_cases hk : a.kind = b.kind
  · exact hk
  · rw [compare_of_ne_kind a b hk] at h
    exact Kind.rank_injective (Std.LawfulEqCmp.eq_of_compare h)

mutual

/-- Values without doubles that compare as equal are equal. -/
theorem eq_of_compare : {a b : Value} → IsFloatFree a → IsFloatFree b → compare a b = .eq → a = b
  | null, b, _, _, h => by
    have hk := kind_eq_of_compare h
    cases b <;> first | rfl | simp [kind] at hk
  | bool x, b, _, _, h => by
    have hk := kind_eq_of_compare h
    cases b with
    | bool y =>
      rw [compare] at h
      exact congrArg bool (Std.LawfulEqCmp.eq_of_compare h)
    | _ => simp [kind] at hk
  | int x, b, _, hb, h => by
    have hk := kind_eq_of_compare h
    cases b with
    | int y =>
      rw [compare] at h
      exact congrArg int (Int64.toInt_inj.1 (Std.LawfulEqCmp.eq_of_compare h))
    | float y => exact hb.elim
    | _ => simp [kind] at hk
  | float _, _, ha, _, _ => ha.elim
  | str x, b, _, _, h => by
    have hk := kind_eq_of_compare h
    cases b with
    | str y =>
      rw [compare] at h
      exact congrArg str (Std.LawfulEqCmp.eq_of_compare h)
    | _ => simp [kind] at hk
  | date x, b, _, _, h => by
    have hk := kind_eq_of_compare h
    cases b with
    | date y =>
      rw [compare] at h
      exact congrArg date (Instant.eq_of_compare h)
    | _ => simp [kind] at hk
  | list as, b, ha, hb, h => by
    have hk := kind_eq_of_compare h
    cases b with
    | list bs =>
      rw [compare] at h
      exact congrArg list (eq_of_compareList ha hb h)
    | _ => simp [kind] at hk
  | map as, b, ha, hb, h => by
    have hk := kind_eq_of_compare h
    cases b with
    | map bs =>
      rw [compare] at h
      exact congrArg map (eq_of_compareFields ha hb h)
    | _ => simp [kind] at hk

theorem eq_of_compareList : {as bs : List Value} → AreFloatFree as → AreFloatFree bs →
    compareList as bs = .eq → as = bs
  | [], [], _, _, _ => rfl
  | [], _ :: _, _, _, h => by simp [compareList] at h
  | _ :: _, [], _, _, h => by simp [compareList] at h
  | a :: as, b :: bs, ha, hb, h => by
    rw [compareList, Ordering.then_eq_eq] at h
    rw [eq_of_compare ha.1 hb.1 h.1, eq_of_compareList ha.2 hb.2 h.2]

theorem eq_of_compareFields : {as bs : List (String × Value)} → HoldFloatFree as →
    HoldFloatFree bs → compareFields as bs = .eq → as = bs
  | [], [], _, _, _ => rfl
  | [], _ :: _, _, _, h => by simp [compareFields] at h
  | _ :: _, [], _, _, h => by simp [compareFields] at h
  | (j, a) :: as, (k, b) :: bs, ha, hb, h => by
    rw [compareFields, Ordering.then_eq_eq, Ordering.then_eq_eq] at h
    obtain ⟨⟨hname, hvalue⟩, hrest⟩ := h
    rw [Std.LawfulEqCmp.eq_of_compare hname, eq_of_compare ha.1 hb.1 hvalue,
      eq_of_compareFields ha.2 hb.2 hrest]

end

theorem compare_eq_iff {a b : Value} (ha : a.IsFloatFree) (hb : b.IsFloatFree) :
    compare a b = .eq ↔ a = b :=
  ⟨eq_of_compare ha hb, fun h => h ▸ compare_self a⟩

/-! ### Transitivity -/

mutual

/-- All integers and all doubles, at any depth, are among those given. -/
def HasNumbersIn (ints : Int64 → Prop) (doubles : Double → Prop) : Value → Prop
  | int n => ints n
  | float x => doubles x
  | list items => HaveNumbersIn ints doubles items
  | map fields => HoldNumbersIn ints doubles fields
  | _ => True

def HaveNumbersIn (ints : Int64 → Prop) (doubles : Double → Prop) : List Value → Prop
  | [] => True
  | v :: rest => HasNumbersIn ints doubles v ∧ HaveNumbersIn ints doubles rest

def HoldNumbersIn (ints : Int64 → Prop) (doubles : Double → Prop) : List (String × Value) → Prop
  | [] => True
  | (_, v) :: rest => HasNumbersIn ints doubles v ∧ HoldNumbersIn ints doubles rest

end

/-- No double equals two of the integers. -/
def AreToldApart (ints : Int64 → Prop) (doubles : Double → Prop) : Prop :=
  ∀ m n x, ints m → ints n → doubles x →
    compare (int m) (float x) = .eq → compare (int n) (float x) = .eq → m = n

section Numbers

variable {ints : Int64 → Prop} {doubles : Double → Prop} {m n : Int64} {x : Double}

theorem compare_int_float_eq :
    compare (int m) (float x) = .eq ↔ (Double.ofInt m.toInt).rank = x.rank := by
  rw [compare, Double.compare_eq_iff]

variable (h : AreToldApart ints doubles) (hm : ints m) (hn : ints n) (hx : doubles x)
include h hm hn hx

theorem AreToldApart.eq_of_rank (hmx : (Double.ofInt m.toInt).rank = x.rank)
    (hnx : (Double.ofInt n.toInt).rank = x.rank) : m = n :=
  h m n x hm hn hx (compare_int_float_eq.2 hmx) (compare_int_float_eq.2 hnx)

theorem AreToldApart.rank_lt_of_lt (hlt : m.toInt < n.toInt)
    (hnx : (Double.ofInt n.toInt).rank ≤ x.rank) : (Double.ofInt m.toInt).rank < x.rank := by
  have hmn := Double.rank_ofInt_mono (Int.le_of_lt hlt)
  have hne : (Double.ofInt m.toInt).rank ≠ x.rank := by
    intro heq
    have hmeet := h.eq_of_rank hm hn hx heq (by omega)
    rw [hmeet] at hlt
    exact Int.lt_irrefl _ hlt
  omega

theorem AreToldApart.lt_rank_of_lt (hlt : m.toInt < n.toInt)
    (hxm : x.rank ≤ (Double.ofInt m.toInt).rank) : x.rank < (Double.ofInt n.toInt).rank := by
  have hmn := Double.rank_ofInt_mono (Int.le_of_lt hlt)
  have hne : x.rank ≠ (Double.ofInt n.toInt).rank := by
    intro heq
    have hmeet := h.eq_of_rank hm hn hx (by omega) heq.symm
    rw [hmeet] at hlt
    exact Int.lt_irrefl _ hlt
  omega

theorem AreToldApart.chains_int_int_float : Chains (Ord.compare m.toInt n.toInt)
    ((Double.ofInt n.toInt).compare x) ((Double.ofInt m.toInt).compare x) := by
  intro hmn hnx
  rcases Int.lt_or_eq_of_le (Int.compare_ne_gt.1 hmn) with hlt | heq
  · rw [Int.compare_eq_lt.2 hlt]
    exact Int.compare_eq_lt.2 (h.rank_lt_of_lt hm hn hx hlt (Int.compare_ne_gt.1 hnx))
  · rw [heq, Int.compare_eq_eq.2 rfl]
    rfl

theorem AreToldApart.chains_float_int_int : Chains (x.compare (Double.ofInt m.toInt))
    (Ord.compare m.toInt n.toInt) (x.compare (Double.ofInt n.toInt)) := by
  intro hxm hmn
  rcases Int.lt_or_eq_of_le (Int.compare_ne_gt.1 hmn) with hlt | heq
  · have hxn := h.lt_rank_of_lt hm hn hx hlt (Int.compare_ne_gt.1 hxm)
    rw [Int.compare_eq_lt.2 hlt, Double.compare, Int.compare_eq_lt.2 hxn]
    cases hc : x.compare (Double.ofInt m.toInt) <;> simp_all [Ordering.then]
  · rw [heq, Int.compare_eq_eq.2 rfl, Ordering.then_eq]

theorem AreToldApart.chains_int_float_int : Chains ((Double.ofInt m.toInt).compare x)
    (x.compare (Double.ofInt n.toInt)) (Ord.compare m.toInt n.toInt) := by
  intro hmx hxn
  have hmx' : (Double.ofInt m.toInt).rank ≤ x.rank := Int.compare_ne_gt.1 hmx
  have hxn' : x.rank ≤ (Double.ofInt n.toInt).rank := Int.compare_ne_gt.1 hxn
  rcases Int.lt_trichotomy m.toInt n.toInt with hlt | heq | hgt
  · rw [Int.compare_eq_lt.2 hlt]
    rcases Int.lt_or_eq_of_le hmx' with hmx' | hmx'
    · rw [Double.compare, Int.compare_eq_lt.2 hmx']
      rfl
    · have hxn' := h.lt_rank_of_lt hm hn hx hlt (Int.le_of_eq hmx'.symm)
      rw [Double.compare, Int.compare_eq_eq.2 hmx', Double.compare, Int.compare_eq_lt.2 hxn']
      rfl
  · rw [heq] at hmx' ⊢
    have hequal : (Double.ofInt n.toInt).rank = x.rank := Int.le_antisymm hmx' hxn'
    rw [(Double.compare_eq_iff _ _).2 hequal, (Double.compare_eq_iff _ _).2 hequal.symm,
      Int.compare_eq_eq.2 rfl]
    rfl
  · exact absurd (h.lt_rank_of_lt hn hm hx hgt hxn') (Int.not_lt.2 hmx')

end Numbers

theorem rank_le_of_not_gt {a b : Value} (h : compare a b ≠ .gt) : a.kind.rank ≤ b.kind.rank := by
  by_cases hk : a.kind = b.kind
  · exact Nat.le_of_eq (congrArg Kind.rank hk)
  · rw [compare_of_ne_kind a b hk] at h
    exact Nat.compare_ne_gt.1 h

theorem compare_of_rank_lt {a b : Value} (h : a.kind.rank < b.kind.rank) : compare a b = .lt := by
  rw [compare_of_ne_kind a b fun hk => Nat.ne_of_lt h (congrArg Kind.rank hk)]
  exact Nat.compare_eq_lt.2 h

theorem chains_of_ne_kind {a b c : Value} (hk : ¬(a.kind = b.kind ∧ b.kind = c.kind)) :
    Chains (compare a b) (compare b c) (compare a c) := by
  intro hab hbc
  have hle := rank_le_of_not_gt hab
  have hge := rank_le_of_not_gt hbc
  rcases Nat.lt_or_eq_of_le hle with hlt | heq
  · rw [compare_of_rank_lt hlt, compare_of_rank_lt (Nat.lt_of_lt_of_le hlt hge)]
    rfl
  · have hne : b.kind.rank ≠ c.kind.rank :=
      fun hr => hk ⟨Kind.rank_injective heq, Kind.rank_injective hr⟩
    have hlt : b.kind.rank < c.kind.rank := by omega
    rw [compare_of_rank_lt hlt, compare_of_rank_lt (heq ▸ hlt)]
    cases hc : compare a b <;> simp_all [Ordering.then]

section Chains

variable {ints : Int64 → Prop} {doubles : Double → Prop}

mutual

/-- Where no double equals two integers, the order of values is transitive. -/
theorem chains_compare (h : AreToldApart ints doubles) : {a b c : Value} →
    a.HasNumbersIn ints doubles → b.HasNumbersIn ints doubles → c.HasNumbersIn ints doubles →
    Chains (compare a b) (compare b c) (compare a c)
  | a, b, c, ha, hb, hc => by
    by_cases hk : a.kind = b.kind ∧ b.kind = c.kind
    · match a, b, c, hk with
      | null, null, null, _ => exact fun _ _ => rfl
      | bool _, bool _, bool _, _ =>
        simp only [compare]
        exact chains_of_transCmp _ _ _ _
      | int _, int _, int _, _ =>
        simp only [compare]
        exact chains_of_transCmp _ _ _ _
      | int _, int _, float _, _ =>
        simp only [compare]
        exact h.chains_int_int_float ha hb hc
      | int _, float _, int _, _ =>
        simp only [compare]
        exact h.chains_int_float_int ha hc hb
      | float _, int _, int _, _ =>
        simp only [compare]
        exact h.chains_float_int_int hb hc ha
      | int _, float _, float _, _ =>
        simp only [compare]
        exact Double.chains_compare _ _ _
      | float _, int _, float _, _ =>
        simp only [compare]
        exact Double.chains_compare _ _ _
      | float _, float _, int _, _ =>
        simp only [compare]
        exact Double.chains_compare _ _ _
      | float _, float _, float _, _ =>
        simp only [compare]
        exact Double.chains_compare _ _ _
      | str _, str _, str _, _ =>
        simp only [compare]
        exact chains_of_transCmp _ _ _ _
      | date _, date _, date _, _ =>
        simp only [compare]
        exact Instant.chains_compare _ _ _
      | list as, list bs, list cs, _ =>
        simp only [compare]
        exact chains_compareList h ha hb hc
      | map as, map bs, map cs, _ =>
        simp only [compare]
        exact chains_compareFields h ha hb hc
    · exact chains_of_ne_kind hk

theorem chains_compareList (h : AreToldApart ints doubles) : {as bs cs : List Value} →
    HaveNumbersIn ints doubles as → HaveNumbersIn ints doubles bs → HaveNumbersIn ints doubles cs →
    Chains (compareList as bs) (compareList bs cs) (compareList as cs)
  | [], [], _, _, _, _ => fun _ _ => rfl
  | [], _ :: _, [], _, _, _ => fun _ hbc => absurd rfl hbc
  | [], _ :: _, _ :: _, _, _, _ => fun _ _ => rfl
  | _ :: _, [], _, _, _, _ => fun hab _ => absurd rfl hab
  | _ :: _, _ :: _, [], _, _, _ => fun _ hbc => absurd rfl hbc
  | a :: as, b :: bs, c :: cs, ha, hb, hc =>
    (chains_compare h ha.1 hb.1 hc.1).then (chains_compareList h ha.2 hb.2 hc.2)

theorem chains_compareFields (h : AreToldApart ints doubles) :
    {as bs cs : List (String × Value)} →
    HoldNumbersIn ints doubles as → HoldNumbersIn ints doubles bs → HoldNumbersIn ints doubles cs →
    Chains (compareFields as bs) (compareFields bs cs) (compareFields as cs)
  | [], [], _, _, _, _ => fun _ _ => rfl
  | [], _ :: _, [], _, _, _ => fun _ hbc => absurd rfl hbc
  | [], _ :: _, _ :: _, _, _, _ => fun _ _ => rfl
  | _ :: _, [], _, _, _, _ => fun hab _ => absurd rfl hab
  | _ :: _, _ :: _, [], _, _, _ => fun _ hbc => absurd rfl hbc
  | (_, a) :: as, (_, b) :: bs, (_, c) :: cs, ha, hb, hc =>
    ((chains_of_transCmp _ _ _ _).then (chains_compare h ha.1 hb.1 hc.1)).then
      (chains_compareFields h ha.2 hb.2 hc.2)

end

end Chains

/-- Where no double equals two integers, values are ordered totally. -/
theorem isOrderOn_compare_of_areToldApart {ints : Int64 → Prop} {doubles : Double → Prop}
    (h : AreToldApart ints doubles) :
    StableSort.IsOrderOn compare (HasNumbersIn ints doubles) where
  swap := fun {x y} _ _ => compare_swap x y
  trans := fun ha hb hc => (chains_compare h ha hb hc).ne_gt

mutual

theorem hasNumbersIn_of_isFloatFree : {v : Value} → v.IsFloatFree →
    v.HasNumbersIn (fun _ => True) fun _ => False
  | null, _ | bool _, _ | int _, _ | str _, _ | date _, _ => trivial
  | list _, h => haveNumbersIn_of_areFloatFree h
  | map _, h => holdNumbersIn_of_holdFloatFree h

theorem haveNumbersIn_of_areFloatFree : {items : List Value} → AreFloatFree items →
    HaveNumbersIn (fun _ => True) (fun _ => False) items
  | [], _ => trivial
  | _ :: _, h => ⟨hasNumbersIn_of_isFloatFree h.1, haveNumbersIn_of_areFloatFree h.2⟩

theorem holdNumbersIn_of_holdFloatFree : {fields : List (String × Value)} → HoldFloatFree fields →
    HoldNumbersIn (fun _ => True) (fun _ => False) fields
  | [], _ => trivial
  | (_, _) :: _, h => ⟨hasNumbersIn_of_isFloatFree h.1, holdNumbersIn_of_holdFloatFree h.2⟩

end

/-- Values without doubles are ordered totally. -/
theorem isOrderOn_compare : StableSort.IsOrderOn compare IsFloatFree := by
  have htold : AreToldApart (fun _ => True) fun _ => False := fun _ _ _ _ _ hx => hx.elim
  have h := isOrderOn_compare_of_areToldApart htold
  exact ⟨fun {x y} _ _ => compare_swap x y, fun hx hy hz =>
    h.trans (hasNumbersIn_of_isFloatFree hx) (hasNumbersIn_of_isFloatFree hy)
      (hasNumbersIn_of_isFloatFree hz)⟩

end Value

end PagedFilter
