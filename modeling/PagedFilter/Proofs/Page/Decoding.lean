import PagedFilter.Page.Shape
import PagedFilter.Proofs.Store

/-!
Decoding requests by cursor. A request that is written as JSON and decoded keeps all its fields, the
values among them as JSON keeps them; and where a text names a cursor, the decoded request has it.
-/

namespace PagedFilter

namespace Value

mutual

/-- What a value is written as has no faulty parts. -/
theorem isSound_toJson : (v : Value) → v.toJson.isSound = true
  | null => rfl
  | bool _ => rfl
  | int _ => rfl
  | float x => by
    rw [toJson]
    split <;> rfl
  | str _ => rfl
  | date _ => rfl
  | list items => by
    rw [toJson, Json.isSound]
    exact areSound_toItems items
  | map fields => by
    rw [toJson, Json.isSound]
    exact membersAreSound_toMembers fields

theorem areSound_toItems : (items : List Value) → Json.areSound (toItems items) = true
  | [] => rfl
  | v :: rest => by
    rw [toItems, Json.areSound, isSound_toJson v, areSound_toItems rest]
    rfl

theorem membersAreSound_toMembers : (fields : List (String × Value)) →
    Json.membersAreSound (toMembers fields) = true
  | [] => rfl
  | (_, v) :: rest => by
    rw [toMembers, Json.membersAreSound, isSound_toJson v, membersAreSound_toMembers rest]
    rfl

end

end Value

namespace Json

/-- The first member of a name. -/
def member? (name : String) : Json → Option Json
  | object members => (members.find? (·.1 == name)).map (·.2)
  | _ => none

/-- Checking keeps the first member of every field. -/
theorem find?_checkMembers {fields : List RecordField} {name : String}
    (hname : (fields.find? (·.name == name)).isSome = true) {seen : List String}
    {members kept : List (String × Json)} (hseen : name ∉ seen)
    (h : checkMembers fields seen members = .ok kept) :
    kept.find? (·.1 == name) = members.find? (·.1 == name) := by
  induction members generalizing seen kept with
  | nil =>
    rw [checkMembers, Except.ok.injEq] at h
    rw [← h]
  | cons m rest ih =>
    obtain ⟨k, j⟩ := m
    rw [checkMembers] at h
    cases hfield : fields.find? (·.name == k) with
    | none =>
      have hne : k ≠ name := by
        rintro rfl
        simp [hfield] at hname
      simp only [hfield] at h
      rw [ih hseen h, List.find?_cons_of_neg (by simp [hne])]
    | some f =>
      simp only [hfield] at h
      split at h
      · simp at h
      · obtain ⟨_, _, h⟩ := exists_of_bind_eq_ok h
        obtain ⟨later, hlater, h⟩ := exists_of_bind_eq_ok h
        rw [Except.ok.injEq] at h
        by_cases hk : k = name
        · rw [← h, List.find?_cons_of_pos (by simp [hk]), List.find?_cons_of_pos (by simp [hk])]
        · have hnotseen : name ∉ k :: seen := by simp [hseen, Ne.symm hk]
          rw [← h, List.find?_cons_of_neg (by simp [hk]), List.find?_cons_of_neg (by simp [hk]),
            ih hnotseen hlater]

theorem eq_str_of_string {j : Json} {s : String} (h : string j = .ok s) : j = .str s := by
  cases j with
  | str t =>
    rw [string, Except.ok.injEq] at h
    rw [h]
  | _ => simp [string] at h

theorem decode_of_decodeText {α : Type} {d : Decoder α} {s : String} {a : α}
    (h : decodeText d s = .ok a) : ∃ j, read? depthLimit s = some j ∧ d j = .ok a := by
  rw [decodeText] at h
  cases hread : read? depthLimit s with
  | none => simp [hread] at h
  | some j =>
    simp only [hread] at h
    cases hd : d j with
    | error e =>
      rw [hd] at h
      cases h
    | ok b =>
      rw [hd] at h
      exact ⟨j, rfl, hd.trans h⟩

end Json

namespace Page

theorem decodeValue_toJson (v : Value) : decodeValue v.toJson = .ok (Value.ofJson v.toJson) :=
  if_pos (Value.isSound_toJson v)

theorem signed_toInt (n : Int64) : Json.signed (.int n.toInt) = .ok n := by
  have hlow := n.le_toInt
  have hhigh := n.toInt_lt
  rw [Json.signed, Json.integer, if_pos ⟨hlow, by omega⟩, Except.map, Int64.ofInt_toInt]

/-! ### Requests by cursor -/

/-- A string that stands under the name of the cursor is the cursor of the request. -/
theorem cursor_of_decode {j : Json} {q : CursorRequest} (h : CursorRequest.decode j = .ok q)
    {s : String} (hcursor : j.member? "cursor" = some (.str s)) : q.cursor = some (.str s) := by
  cases j with
  | object members =>
    rw [CursorRequest.decode] at h
    obtain ⟨kept, hkept, h⟩ := exists_of_bind_eq_ok h
    obtain ⟨_, _, h⟩ := exists_of_bind_eq_ok h
    obtain ⟨_, _, h⟩ := exists_of_bind_eq_ok h
    obtain ⟨_, _, h⟩ := exists_of_bind_eq_ok h
    obtain ⟨_, _, h⟩ := exists_of_bind_eq_ok h
    obtain ⟨cursor, hread, h⟩ := exists_of_bind_eq_ok h
    obtain ⟨_, _, h⟩ := exists_of_bind_eq_ok h
    rw [Except.ok.injEq] at h
    have hfind : kept.find? (·.1 == "cursor") = members.find? (·.1 == "cursor") :=
      Json.find?_checkMembers rfl (by simp) hkept
    obtain ⟨⟨name, value⟩, hmember, rfl⟩ := Option.map_eq_some_iff.1 hcursor
    rw [Json.defaulted, hfind, hmember] at hread
    rw [← h, ← Except.ok.inj hread]
    rfl
  | _ => simp [Json.member?] at hcursor

/-- A written request with a string for its cursor is decoded, whatever else it asks for. -/
theorem decode_toJson (r : CursorRequest) {s : String} (hcursor : r.cursor = some (.str s)) :
    CursorRequest.decode r.toJson = .ok { r with filter := Value.ofJson r.filter.toJson } := by
  obtain ⟨filter, field, direction, limit, cursor, towards⟩ := r
  cases hcursor
  have hdirection : decodeDirection (.str direction.keyword) = .ok direction := by
    cases direction <;> rfl
  have htowards : decodeTowards (.str towards.label) = .ok towards := by
    cases towards <;> rfl
  have hlimit : Json.optional Json.signed (limitJson limit) = .ok limit := by
    cases limit with
    | none => rfl
    | some n =>
      show (Json.signed (.int n.toInt)).map some = _
      rw [signed_toInt]
      rfl
  have hstr : Json.optional decodeValue (.str s) = .ok (some (.str s)) := rfl
  simp [CursorRequest.decode, CursorRequest.toJson, optionJson, Value.toJson, Json.recordMembers,
    Json.checkMembers, Json.RecordField.of, Json.required, Json.defaulted, decodeValue_toJson,
    Json.string, hdirection, htowards, hlimit, hstr, bind, Except.bind, Except.map]

end Page

end PagedFilter
