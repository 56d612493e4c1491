import PagedFilter.Document.Compile
import PagedFilter.Document.Match
import PagedFilter.Proofs.Fields

/-!
The keys of compiled filters. Two keys of a filter compile to one only where a group is spelled in both
ways, and two names of operators only where one is the native form of the other or they are `ne` and
`neq`.
-/

namespace PagedFilter.Document

/-! ### Entries -/

/-- An entry of a filter as a clause. -/
def compileEntry (e : String × Value) : String × Value :=
  match Logical.ofKey? e.1 with
  | some g => (g.symbol, compileMembers e.2)
  | none => (e.1, compileField e.2)

/-- An operator with its operand as the store knows it. -/
def nativeEntry (e : String × Value) : String × Value :=
  (nativeKey e.1,
    if nativeKey e.1 = "$elemMatch" then compileElement e.2 else compileOperand e.2)

theorem nativeEntry_fst (e : String × Value) : (nativeEntry e).1 = nativeKey e.1 := rfl

theorem compileEntries_eq_map (fields : Fields Value) :
    compileEntries fields = fields.map compileEntry := by
  induction fields with
  | nil => rfl
  | cons e rest ih =>
    obtain ⟨k, v⟩ := e
    exact congrArg (compileEntry (k, v) :: ·) ih

theorem nativeEntries_eq_map (fields : Fields Value) :
    nativeEntries fields = fields.map nativeEntry := by
  induction fields with
  | nil => rfl
  | cons e rest ih =>
    obtain ⟨k, v⟩ := e
    exact congrArg (nativeEntry (k, v) :: ·) ih

/-! ### Keys of filters -/

/-- The key under which a clause is compiled. -/
def clauseKey (k : String) : String :=
  match Logical.ofKey? k with
  | some g => g.symbol
  | none => k

theorem compileEntry_fst (e : String × Value) : (compileEntry e).1 = clauseKey e.1 := by
  rw [compileEntry, clauseKey]
  cases Logical.ofKey? e.1 <;> rfl

theorem isNative_logicalSymbol (g : Logical) : isNative g.symbol = true := by cases g <;> decide

theorem isGroupKey_logicalSymbol (g : Logical) : isGroupKey g.symbol = true := by
  cases g <;> decide

theorem logicalSymbol_injective {g h : Logical} (e : g.symbol = h.symbol) : g = h := by
  cases g <;> cases h <;> first | rfl | exact absurd e (by decide)

theorem ofKey?_eq_some_iff {k : String} {g : Logical} :
    Logical.ofKey? k = some g ↔ k = g.name ∨ k = g.symbol := by
  constructor
  · intro hk
    unfold Logical.ofKey? at hk
    split at hk
    case h_1 | h_2 | h_3 =>
      rw [Option.some.injEq] at hk
      rw [← hk]
      exact .inl rfl
    case h_4 | h_5 | h_6 =>
      rw [Option.some.injEq] at hk
      rw [← hk]
      exact .inr rfl
    case h_7 => simp at hk
  · rintro (rfl | rfl)
    · exact Logical.ofKey?_name g
    · exact Logical.ofKey?_symbol g

/-- Distinct keys compile to one exactly if they are the two spellings of a group. -/
theorem clauseKey_eq_iff {j k : String} (hne : j ≠ k) : clauseKey j = clauseKey k ↔
    ∃ g : Logical, (j = g.name ∧ k = g.symbol) ∨ (j = g.symbol ∧ k = g.name) := by
  constructor
  · intro h
    unfold clauseKey at h
    cases hj : Logical.ofKey? j with
    | none =>
      cases hk : Logical.ofKey? k with
      | none =>
        simp only [hj, hk] at h
        exact absurd h hne
      | some g =>
        simp only [hj, hk] at h
        rw [h, Logical.ofKey?_symbol] at hj
        simp at hj
    | some f =>
      cases hk : Logical.ofKey? k with
      | none =>
        simp only [hj, hk] at h
        rw [← h, Logical.ofKey?_symbol] at hk
        simp at hk
      | some g =>
        simp only [hj, hk] at h
        have hfg : f = g := logicalSymbol_injective h
        subst hfg
        refine ⟨f, ?_⟩
        rcases ofKey?_eq_some_iff.1 hj with rfl | rfl
        · rcases ofKey?_eq_some_iff.1 hk with rfl | rfl
          · exact absurd rfl hne
          · exact .inl ⟨rfl, rfl⟩
        · rcases ofKey?_eq_some_iff.1 hk with rfl | rfl
          · exact .inr ⟨rfl, rfl⟩
          · exact absurd rfl hne
  · rintro ⟨g, ⟨rfl, rfl⟩ | ⟨rfl, rfl⟩⟩ <;>
      simp [clauseKey, Logical.ofKey?_name, Logical.ofKey?_symbol]

/-! ### Keys of operators -/

/-- The name under which the store knows an operator, without the mark. -/
def nativeName (k : String) : String := if k = "neq" then "ne" else k

theorem nativeKey_name (op : Operator) : nativeKey op.name = "$" ++ nativeName op.name := by
  cases op <;> decide +kernel

theorem nativeKey_of_not_isNative {k : String} (h : isNative k = false) :
    nativeKey k = "$" ++ nativeName k := by
  cases hop : Operator.ofName? k with
  | some op =>
    rw [← Operator.name_of_ofName? hop]
    exact nativeKey_name op
  | none =>
    have hne : k ≠ "neq" := by
      rintro rfl
      exact absurd hop (by decide)
    rw [nativeKey, h, hop, nativeName, if_neg hne]
    apply String.toList_inj.1
    simp

theorem nativeKey_of_symbol? {k s : String} {op : Operator} (hk : Operator.ofName? k = some op)
    (hs : op.symbol? = some s) : nativeKey k = s := by
  have hn : isNative k = false := by
    rw [← Operator.name_of_ofName? hk]
    cases op <;> decide
  simp [nativeKey, hn, hk, hs]

/-- Names of operators that documents know. -/
def IsDocumentName (k : String) : Prop :=
  ∃ op s, Operator.ofName? k = some op ∧ op.symbol? = some s

theorem isNative_of_isDocumentName {k : String} (h : IsDocumentName k) : isNative k = false := by
  obtain ⟨op, _, hop, _⟩ := h
  rw [← Operator.name_of_ofName? hop]
  cases op <;> decide

theorem nativeKey_injective {j k : String} (hj : isNative j = false) (hk : isNative k = false)
    (h : nativeKey j = nativeKey k) :
    j = k ∨ (j = "ne" ∧ k = "neq") ∨ (j = "neq" ∧ k = "ne") := by
  rw [nativeKey_of_not_isNative hj, nativeKey_of_not_isNative hk] at h
  have hname : nativeName j = nativeName k := (String.append_right_inj _).1 h
  unfold nativeName at hname
  by_cases hjn : j = "neq"
  · by_cases hkn : k = "neq"
    · exact .inl (hjn.trans hkn.symm)
    · rw [if_pos hjn, if_neg hkn] at hname
      exact .inr (.inr ⟨hjn, hname.symm⟩)
  · by_cases hkn : k = "neq"
    · rw [if_neg hjn, if_pos hkn] at hname
      exact .inr (.inl ⟨hname, hkn⟩)
    · rw [if_neg hjn, if_neg hkn] at hname
      exact .inl hname

theorem isGroupKey_symbol? {op : Operator} {s : String} (h : op.symbol? = some s) :
    isGroupKey s = false := by
  cases op <;> simp only [Operator.symbol?, Option.some.injEq, reduceCtorEq] at h <;>
    subst h <;> rfl

end PagedFilter.Document
