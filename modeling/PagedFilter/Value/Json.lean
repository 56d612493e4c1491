import PagedFilter.Json.Basic
import PagedFilter.Value.Basic

/-!
Values and JSON. Reading keeps integers of 64 bits apart from all other numbers, and the last of
members with one name; a faulty part counts as null. Writing turns dates into text and doubles that
are not finite into null. A value can also be shown to a writer part by part, without a document in
between; its text is written directly in this way.
-/

namespace PagedFilter.Value

mutual

def ofJson : Json → Value
  | .null => null
  | .bool b => bool b
  | .int n => if n < 2 ^ 63 then int (Int64.ofInt n) else float (Double.ofInt n)
  | .float x => float x
  | .str s => str s
  | .array items => list (ofItems items)
  | .object members => map (Fields.ofList (ofMembers members))
  | .faulty => null

def ofItems : List Json → List Value
  | [] => []
  | j :: rest => ofJson j :: ofItems rest

def ofMembers : List (String × Json) → List (String × Value)
  | [] => []
  | (k, j) :: rest => (k, ofJson j) :: ofMembers rest

end

mutual

def toJson : Value → Json
  | null => .null
  | bool b => .bool b
  | int n => .int n.toInt
  | float x => if x.isFinite then .float x else .null
  | str s => .str s
  | date t => .str t.text
  | list items => .array (toItems items)
  | map fields => .object (toMembers fields)

def toItems : List Value → List Json
  | [] => []
  | v :: rest => toJson v :: toItems rest

def toMembers : List (String × Value) → List (String × Json)
  | [] => []
  | (k, v) :: rest => (k, toJson v) :: toMembers rest

end

/-- What a writer makes of each kind of part. -/
structure Writer (α : Type) where
  null : α
  bool : Bool → α
  int : Int64 → α
  float : Double → α
  str : String → α
  list : List α → α
  map : List (String × α) → α

namespace Writer

/-- Makes documents, which have no doubles that are not finite. -/
def document : Writer Json where
  null := .null
  bool := .bool
  int n := .int n.toInt
  float x := if x.isFinite then .float x else .null
  str := .str
  list := .array
  map := .object

/-- Makes compact text. -/
def compact : Writer String where
  null := "null"
  bool b := if b then "true" else "false"
  int n := toString n.toInt
  float := Json.floatText
  str := Json.strText
  list := Json.arrayText
  map := Json.objectText

end Writer

mutual

/-- Shows a value to a writer; a date is shown as its text. -/
def write {α : Type} (w : Writer α) : Value → α
  | null => w.null
  | bool b => w.bool b
  | int n => w.int n
  | float x => w.float x
  | str s => w.str s
  | date t => w.str t.text
  | list items => w.list (writeItems w items)
  | map fields => w.map (writeFields w fields)

def writeItems {α : Type} (w : Writer α) : List Value → List α
  | [] => []
  | v :: rest => write w v :: writeItems w rest

def writeFields {α : Type} (w : Writer α) : List (String × Value) → List (String × α)
  | [] => []
  | (k, v) :: rest => (k, write w v) :: writeFields w rest

end

mutual

def text : Value → String
  | null => "null"
  | bool b => if b then "true" else "false"
  | int n => toString n.toInt
  | float x => Json.floatText x
  | str s => Json.strText s
  | date t => Json.strText t.text
  | list items => Json.arrayText (itemTexts items)
  | map fields => Json.objectText (fieldTexts fields)

def itemTexts : List Value → List String
  | [] => []
  | v :: rest => text v :: itemTexts rest

def fieldTexts : List (String × Value) → List (String × String)
  | [] => []
  | (k, v) :: rest => (k, text v) :: fieldTexts rest

end

/-- A value as a person reads it: strings and dates without quotes, all else as JSON. -/
def display : Value → String
  | str s => s
  | date t => t.text
  | v => v.toJson.text

theorem ofItems_eq_map (items : List Json) : ofItems items = items.map ofJson := by
  induction items with
  | nil => rfl
  | cons j rest ih => simp [ofItems, ih]

theorem ofMembers_eq_map (members : List (String × Json)) :
    ofMembers members = members.map fun m => (m.1, ofJson m.2) := by
  induction members with
  | nil => rfl
  | cons m rest ih => simp [ofMembers, ih]

theorem toItems_eq_map (items : List Value) : toItems items = items.map toJson := by
  induction items with
  | nil => rfl
  | cons v rest ih => simp [toItems, ih]

theorem toMembers_eq_map (fields : Fields Value) :
    toMembers fields = fields.map fun e => (e.1, toJson e.2) := by
  induction fields with
  | nil => rfl
  | cons e rest ih => simp [toMembers, ih]

theorem writeItems_eq_map {α : Type} (w : Writer α) (items : List Value) :
    writeItems w items = items.map (write w) := by
  induction items with
  | nil => rfl
  | cons v rest ih => simp [writeItems, ih]

theorem writeFields_eq_map {α : Type} (w : Writer α) (fields : Fields Value) :
    writeFields w fields = fields.map fun e => (e.1, write w e.2) := by
  induction fields with
  | nil => rfl
  | cons e rest ih => simp [writeFields, ih]

theorem itemTexts_eq_map (items : List Value) : itemTexts items = items.map text := by
  induction items with
  | nil => rfl
  | cons v rest ih => simp [itemTexts, ih]

theorem fieldTexts_eq_map (fields : Fields Value) :
    fieldTexts fields = fields.map fun e => (e.1, text e.2) := by
  induction fields with
  | nil => rfl
  | cons e rest ih => simp [fieldTexts, ih]

mutual

/-- The values that reading a document gives are well formed. -/
theorem wellFormed_ofJson : (j : Json) → (ofJson j).WellFormed
  | .null => by simp [ofJson, WellFormed]
  | .bool _ => by simp [ofJson, WellFormed]
  | .int n => by
    simp only [ofJson]
    split <;> simp [WellFormed]
  | .float _ => by simp [ofJson, WellFormed]
  | .str _ => by simp [ofJson, WellFormed]
  | .array items => by
    simp only [ofJson, WellFormed, wellFormedList_iff]
    exact wellFormed_ofItems items
  | .object members => by
    simp only [ofJson, WellFormed, wellFormedFields_iff]
    refine ⟨Fields.sorted_ofList _, ?_⟩
    suffices h : ∀ (entries fs : List (String × Value)), (∀ e ∈ entries, e.2.WellFormed) →
        (∀ e ∈ fs, e.2.WellFormed) →
        ∀ e ∈ entries.foldl (fun fs e => Fields.put e.1 e.2 fs) fs, e.2.WellFormed from
      h _ [] (wellFormed_ofMembers members) (by simp)
    intro entries
    induction entries with
    | nil => exact fun fs _ hf => hf
    | cons e rest ih =>
      intro fs he hf
      refine ih _ (fun d hd => he d (List.mem_cons_of_mem _ hd)) fun d hd => ?_
      rcases Fields.mem_put hd with rfl | hd
      · exact he e List.mem_cons_self
      · exact hf d hd
  | .faulty => by simp [ofJson, WellFormed]

theorem wellFormed_ofItems : (items : List Json) → ∀ v ∈ ofItems items, v.WellFormed
  | [], v, h => by simp [ofItems] at h
  | j :: rest, v, h => by
    rcases List.mem_cons.1 (by simpa [ofItems] using h) with rfl | h
    · exact wellFormed_ofJson j
    · exact wellFormed_ofItems rest v h

theorem wellFormed_ofMembers :
    (members : List (String × Json)) → ∀ e ∈ ofMembers members, e.2.WellFormed
  | [], e, h => by simp [ofMembers] at h
  | (k, j) :: rest, e, h => by
    rcases List.mem_cons.1 (by simpa only [ofMembers] using h) with rfl | h
    · exact wellFormed_ofJson j
    · exact wellFormed_ofMembers rest e h

end

end PagedFilter.Value
