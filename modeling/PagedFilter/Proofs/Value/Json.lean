import PagedFilter.Proofs.Fields
import PagedFilter.Proofs.Filter.Canonical
import PagedFilter.Proofs.Value.WellFormed
import PagedFilter.Value.Json

/-!
Values written as JSON and read again. Dates come back as texts and doubles that are not finite as null;
all else comes back as it was, to the bit. The writer that takes a value part by part makes the same
document, and the same text, as the way through a document.
-/

namespace PagedFilter.Value

/-! ### What JSON has a form for -/

mutual

/-- No date at any depth, and no double that is not finite. -/
def IsJsonShaped : Value → Prop
  | float x => x.isFinite = true
  | date _ => False
  | list items => AreJsonShaped items
  | map fields => HoldJsonShaped fields
  | _ => True

def AreJsonShaped : List Value → Prop
  | [] => True
  | v :: rest => IsJsonShaped v ∧ AreJsonShaped rest

def HoldJsonShaped : List (String × Value) → Prop
  | [] => True
  | (_, v) :: rest => IsJsonShaped v ∧ HoldJsonShaped rest

end

theorem areJsonShaped_iff (items : List Value) : AreJsonShaped items ↔ ∀ v ∈ items, IsJsonShaped v := by
  induction items with
  | nil => simp [AreJsonShaped]
  | cons v rest ih => simp [AreJsonShaped, ih]

theorem holdJsonShaped_iff (fields : Fields Value) :
    HoldJsonShaped fields ↔ ∀ e ∈ fields, IsJsonShaped e.2 := by
  induction fields with
  | nil => simp [HoldJsonShaped]
  | cons e rest ih => simp [HoldJsonShaped, ih]

/-! ### Written and read again -/

theorem ofJson_toJson_int (n : Int64) : ofJson (int n).toJson = int n := by
  have hlt : n.toInt < 2 ^ 63 := n.toInt_lt
  rw [toJson, ofJson, if_pos hlt, Int64.ofInt_toInt]

theorem ofJson_toJson_list (items : List Value) :
    ofJson (list items).toJson = list (items.map fun v => ofJson v.toJson) := by
  rw [toJson, ofJson, toItems_eq_map, ofItems_eq_map, List.map_map]
  rfl

theorem ofJson_toJson_map {fields : Fields Value} (h : Fields.Sorted fields) :
    ofJson (map fields).toJson = map (fields.map fun e => (e.1, ofJson e.2.toJson)) := by
  rw [toJson, ofJson, toMembers_eq_map, ofMembers_eq_map, List.map_map]
  have hmap := Fields.ofList_map (fun v => ofJson (toJson v)) fields
  rw [Fields.ofList_of_sorted h] at hmap
  exact congrArg map hmap

/-- By induction on the value: what is left out of JSON comes back as something else that is not. -/
theorem isJsonShaped_ofJson_toJson {v : Value} (h : v.WellFormed) :
    (ofJson v.toJson).IsJsonShaped := by
  induction v using Value.inductionOn with
  | leaf v hl hm =>
    cases v with
    | list items => cases hl
    | map fields => cases hm
    | int n =>
      rw [ofJson_toJson_int]
      trivial
    | float x =>
      rw [toJson]
      split
      · next hx => exact hx
      · trivial
    | _ => trivial
  | list items ih =>
    rw [WellFormed, wellFormedList_iff] at h
    rw [ofJson_toJson_list, IsJsonShaped, areJsonShaped_iff, List.forall_mem_map]
    exact fun v hv => ih v hv (h v hv)
  | map fields ih =>
    rw [WellFormed, wellFormedFields_iff] at h
    rw [ofJson_toJson_map h.1, IsJsonShaped, holdJsonShaped_iff, List.forall_mem_map]
    exact fun e he => ih e he (h.2 e he)

theorem ofJson_toJson_of_isJsonShaped {v : Value} (h : v.WellFormed) (hshaped : v.IsJsonShaped) :
    ofJson v.toJson = v := by
  induction v using Value.inductionOn with
  | leaf v hl hm =>
    cases v with
    | list items => cases hl
    | map fields => cases hm
    | int n => exact ofJson_toJson_int n
    | float x =>
      rw [IsJsonShaped] at hshaped
      rw [toJson, if_pos hshaped, ofJson]
    | date t => exact hshaped.elim
    | _ => rfl
  | list items ih =>
    rw [WellFormed, wellFormedList_iff] at h
    rw [IsJsonShaped, areJsonShaped_iff] at hshaped
    rw [ofJson_toJson_list, List.map_congr_left fun v hv => ih v hv (h v hv) (hshaped v hv),
      List.map_id']
  | map fields ih =>
    rw [WellFormed, wellFormedFields_iff] at h
    rw [IsJsonShaped, holdJsonShaped_iff] at hshaped
    have hsame : ∀ e ∈ fields, (e.1, ofJson e.2.toJson) = e := by
      intro e he
      rw [ih e he (h.2 e he) (hshaped e he)]
    rw [ofJson_toJson_map h.1, List.map_congr_left hsame, List.map_id']

/-! ### Written part by part -/

/-- What treats every part as a writer does makes of a value what the writer makes of it. -/
theorem eq_write {α : Type} {w : Writer α} {f : Value → α}
    (leaf : ∀ v : Value, v.isList = false → v.isMap = false → f v = v.write w)
    (list : ∀ items : List Value, f (.list items) = w.list (items.map f))
    (map : ∀ fields : Fields Value, f (.map fields) = w.map (fields.map fun e => (e.1, f e.2)))
    (v : Value) : f v = v.write w := by
  induction v using Value.inductionOn with
  | leaf v hl hm => exact leaf v hl hm
  | list items ih => rw [list, write, writeItems_eq_map, List.map_congr_left ih]
  | map fields ih =>
    have hfields : fields.map (fun e => (e.1, f e.2)) = fields.map fun e => (e.1, e.2.write w) :=
      List.map_congr_left fun e he => by rw [ih e he]
    rw [map, write, writeFields_eq_map, hfields]

theorem toJson_eq_write : ∀ v : Value, v.toJson = v.write .document :=
  eq_write
    (fun v hl hm => by
      cases v with
      | list items => cases hl
      | map fields => cases hm
      | _ => rfl)
    (fun items => by rw [toJson, toItems_eq_map]; rfl)
    (fun fields => by rw [toJson, toMembers_eq_map]; rfl)

theorem text_eq_write : ∀ v : Value, v.text = v.write .compact :=
  eq_write
    (fun v hl hm => by
      cases v with
      | list items => cases hl
      | map fields => cases hm
      | _ => rfl)
    (fun items => by rw [text, itemTexts_eq_map]; rfl)
    (fun fields => by rw [text, fieldTexts_eq_map]; rfl)

theorem text_toJson_float (x : Double) : (float x).toJson.text = Json.floatText x := by
  rw [toJson, Json.floatText]
  split
  · next hx => rw [Json.text, Json.floatText, if_pos hx]
  · rfl

theorem text_toJson_eq_write : ∀ v : Value, v.toJson.text = v.write .compact :=
  eq_write
    (fun v hl hm => by
      cases v with
      | list items => cases hl
      | map fields => cases hm
      | float x => exact text_toJson_float x
      | _ => rfl)
    (fun items => by
      rw [toJson, Json.text, toItems_eq_map, Json.itemTexts_eq_map, List.map_map]
      rfl)
    (fun fields => by
      rw [toJson, Json.text, toMembers_eq_map, Json.memberTexts_eq_map, List.map_map]
      rfl)

/-- JSON keeps a value, to the bits of its doubles, exactly if the value has no date and no double that
is not finite, at any depth. What comes back once comes back always. Written part by part, a value makes
the document that it is turned into, and the text of that document. -/
theorem json_keeps_what_it_has_a_form_for {v : Value} (h : v.WellFormed) :
    (ofJson v.toJson = v ↔ v.IsJsonShaped) ∧
      ofJson (ofJson v.toJson).toJson = ofJson v.toJson ∧
      v.write .document = v.toJson ∧ v.write .compact = v.text ∧ v.toJson.text = v.text := by
  have hshaped := isJsonShaped_ofJson_toJson h
  refine ⟨⟨fun heq => heq ▸ hshaped, ofJson_toJson_of_isJsonShaped h⟩, ?_,
    (toJson_eq_write v).symm, (text_eq_write v).symm, ?_⟩
  · exact ofJson_toJson_of_isJsonShaped (wellFormed_ofJson v.toJson) hshaped
  · rw [text_toJson_eq_write, text_eq_write]

/-- The least and the greatest integer, the negative zero and the double one are kept; a date is not. -/
theorem limits_kept_and_date_lost :
    let kept : Value := .map [("n", .list [.int Int64.minValue, .int Int64.maxValue,
      .float .negativeZero, .float ⟨0x3FF0000000000000⟩])]
    let lost : Value := .map [("at", .list [.date ⟨0, 5000000⟩])]
    kept.WellFormed ∧ lost.WellFormed ∧ ofJson kept.toJson = kept ∧ ofJson lost.toJson ≠ lost ∧
      ofJson (ofJson lost.toJson).toJson = ofJson lost.toJson := by
  intro kept lost
  have hkept : kept.WellFormed := by decide
  have hlost : lost.WellFormed := by decide
  have hzero : Double.negativeZero.isFinite = true := by decide
  have hone : Double.isFinite ⟨0x3FF0000000000000⟩ = true := by decide
  have hshaped : kept.IsJsonShaped := ⟨⟨trivial, trivial, hzero, hone, trivial⟩, trivial⟩
  have hunshaped : ¬lost.IsJsonShaped := fun h => h.1.1
  have hfirst := json_keeps_what_it_has_a_form_for hkept
  have hsecond := json_keeps_what_it_has_a_form_for hlost
  exact ⟨hkept, hlost, hfirst.1.2 hshaped, fun heq => hunshaped (hsecond.1.1 heq), hsecond.2.1⟩

end PagedFilter.Value
