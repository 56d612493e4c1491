import PagedFilter.Proofs.Value.Order

/-!
How far the order of values is one. It is reflexive, and turning it around swaps its verdicts,
whatever the values. It is transitive exactly as far as no double equals two integers, since integers
compare exactly with each other and rounded with doubles. Up to `2 ^ 53` in magnitude none do.
-/

namespace PagedFilter.Value

/-- A value at most another one that is at most a third is at most the third. -/
def IsTransitiveOn (P : Value → Prop) : Prop :=
  ∀ a b c, P a → P b → P c → compare a b ≠ .gt → compare b c ≠ .gt → compare a c ≠ .gt

/-- At most `2 ^ 53` in magnitude. -/
def IsShort (n : Int64) : Prop := n.toInt.natAbs ≤ 2 ^ 53

theorem looseEq_iff {a b : Value} : looseEq a b = true ↔ compare a b = .eq := by
  rw [looseEq, beq_iff_eq]

theorem looseEq_symm {a b : Value} (h : looseEq a b = true) : looseEq b a = true := by
  rw [looseEq_iff] at h ⊢
  rw [← compare_swap, h]
  rfl

theorem int_eq_of_compare {m n : Int64} (h : compare (int m) (int n) = .eq) : m = n := by
  rw [compare] at h
  exact Int64.toInt_inj.1 (Std.LawfulEqCmp.eq_of_compare h)

section Numbers

variable {ints : Int64 → Prop} {doubles : Double → Prop}

theorem areToldApart_of_isShort (h : ∀ n, ints n → IsShort n) : AreToldApart ints doubles := by
  intro m n x hm hn _ hmx hnx
  rw [compare_int_float_eq] at hmx hnx
  exact Int64.toInt_inj.1 (Double.eq_of_rank_ofInt (h m hm) (h n hn) (hmx.trans hnx.symm))

theorem isTransitiveOn_iff :
    IsTransitiveOn (HasNumbersIn ints doubles) ↔ AreToldApart ints doubles := by
  constructor
  · intro h m n x hm hn hx hmx hnx
    -- both integers are at most the double and at least it
    have hxm : compare (float x) (int m) = .eq := looseEq_iff.1 (looseEq_symm (looseEq_iff.2 hmx))
    have hxn : compare (float x) (int n) = .eq := looseEq_iff.1 (looseEq_symm (looseEq_iff.2 hnx))
    have hmn : compare (int m) (int n) ≠ .gt :=
      h (int m) (float x) (int n) hm hx hn (by simp [hmx]) (by simp [hxn])
    have hnm : compare (int n) (int m) ≠ .gt :=
      h (int n) (float x) (int m) hn hx hm (by simp [hnx]) (by simp [hxm])
    refine int_eq_of_compare ?_
    rw [← compare_swap] at hnm
    cases hc : compare (int m) (int n) <;> simp_all
  · intro h a b c ha hb hc
    exact (chains_compare h ha hb hc).ne_gt

theorem equivalence_looseEq_iff :
    (Equivalence fun a b : { v // HasNumbersIn ints doubles v } => looseEq a.1 b.1 = true) ↔
      AreToldApart ints doubles := by
  constructor
  · intro h m n x hm hn hx hmx hnx
    have hxn : looseEq (float x) (int n) = true := looseEq_symm (looseEq_iff.2 hnx)
    have hmn : looseEq (int m) (int n) = true :=
      h.trans (x := ⟨int m, hm⟩) (y := ⟨float x, hx⟩) (z := ⟨int n, hn⟩) (looseEq_iff.2 hmx) hxn
    exact int_eq_of_compare (looseEq_iff.1 hmn)
  · intro h
    refine ⟨fun a => looseEq_self a.1, fun hab => looseEq_symm hab, fun {a b c} hab hbc => ?_⟩
    rw [looseEq_iff] at hab hbc ⊢
    have hchain := chains_compare h a.2 b.2 c.2 (by simp [hab]) (by simp [hbc])
    rw [hchain, hab, hbc]
    rfl

end Numbers

/-- The order is reflexive and its verdicts are swapped with the values. It is transitive, and
equality in it an equivalence, on the values with given integers and doubles at any depth exactly if
none of the doubles equals two of the integers; so it is where the integers are at most `2 ^ 53` in
magnitude, whatever the doubles. -/
theorem preorder_where_told_apart (ints : Int64 → Prop) (doubles : Double → Prop) (a b : Value) :
    compare a a = .eq ∧ compare b a = (compare a b).swap ∧
    (IsTransitiveOn (HasNumbersIn ints doubles) ↔ AreToldApart ints doubles) ∧
    ((Equivalence fun a b : { v // HasNumbersIn ints doubles v } => looseEq a.1 b.1 = true) ↔
      AreToldApart ints doubles) ∧
    ((∀ n, ints n → IsShort n) → AreToldApart ints doubles) :=
  ⟨compare_self a, (compare_swap a b).symm, isTransitiveOn_iff, equivalence_looseEq_iff,
    areToldApart_of_isShort⟩

/-- Lists with integers up to `2 ^ 53` and with doubles. -/
theorem lists_up_to_two_to_53 :
    let a : Value := .list [.int 9007199254740992, .str "x"]
    let b : Value := .list [.float ⟨0x4340000000000000⟩, .str "y"]
    let c : Value := .list [.int 9007199254740992, .map [("k", .float ⟨0x7FF8000000000000⟩)]]
    compare a b ≠ .gt ∧ compare b c ≠ .gt ∧ compare a c ≠ .gt := by
  intro a b c
  have hab : compare a b ≠ .gt := by decide +kernel
  have hbc : compare b c ≠ .gt := by decide +kernel
  have hshort : IsShort 9007199254740992 := by unfold IsShort; decide +kernel
  obtain ⟨_, _, htransitive, _, htold⟩ := preorder_where_told_apart IsShort (fun _ => True) a b
  exact ⟨hab, hbc, htransitive.2 (htold fun _ h => h) a b c ⟨hshort, trivial, trivial⟩
    ⟨trivial, trivial, trivial⟩ ⟨hshort, ⟨trivial, trivial⟩, trivial⟩ hab hbc⟩

/-- The integers `2 ^ 53` and `2 ^ 53 + 1` equal one double, but not each other. -/
theorem integers_meet_in_double :
    let n : Value := .int 9007199254740992
    let next : Value := .int 9007199254740993
    let x : Value := .float ⟨0x4340000000000000⟩
    compare next x = .eq ∧ compare x n = .eq ∧ compare next n = .gt ∧
      (¬ ∀ a b c, compare a b ≠ .gt → compare b c ≠ .gt → compare a c ≠ .gt) ∧
      ¬ Equivalence fun a b : Value => looseEq a b = true := by
  intro n next x
  have hnext : compare next x = .eq := by decide +kernel
  have hn : compare x n = .eq := by decide +kernel
  have hgt : compare next n = .gt := by decide +kernel
  refine ⟨hnext, hn, hgt, fun h => ?_, fun h => ?_⟩
  · exact h next x n (by simp [hnext]) (by simp [hn]) hgt
  · have heq := looseEq_iff.1 (h.trans (looseEq_iff.2 hnext) (looseEq_iff.2 hn))
    exact absurd (hgt.symm.trans heq) (by decide)

end PagedFilter.Value
