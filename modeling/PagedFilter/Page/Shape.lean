import PagedFilter.Json.Decode
import PagedFilter.Store
import PagedFilter.Value.Equality
import PagedFilter.Value.Json

/-!
Pages and the requests for them. A page by offset tells its number among all pages; a page by cursor
tells the sort values at its two edges where more rows follow.
-/

namespace PagedFilter.Page

/-- The sort that a page was made under. -/
structure SortOrder where
  field : String
  direction : Direction
  deriving DecidableEq, Repr

structure OffsetPage where
  list : List Row
  totalCount : Nat
  totalPages : Nat
  currentPage : Nat
  hasNext : Bool
  hasPrevious : Bool
  deriving DecidableEq, Repr

structure CursorPage where
  list : List Row
  totalCount : Nat
  order : SortOrder
  /-- The cursor of the page after this one, if there is one. -/
  next : Option Value
  /-- The cursor of the page before this one, if there is one. -/
  previous : Option Value
  deriving DecidableEq, Repr

namespace OffsetPage

/-- A page from its rows and the count of all rows. Numbers below one count as one. -/
def assemble (list : List Row) (totalCount page limit : Nat) : OffsetPage :=
  let limit := max limit 1
  let page := max page 1
  let totalPages := (totalCount + (limit - 1)) / limit
  { list, totalCount, totalPages, currentPage := page, hasNext := decide (page < totalPages)
    hasPrevious := decide (1 < page) }

/-- The rows in front of a page, at most the greatest count of 64 bits. -/
def skipFor (page limit : Nat) : Nat := min ((max page 1 - 1) * limit) (2 ^ 64 - 1)

theorem skipFor_first (limit : Nat) : skipFor 1 limit = 0 := by simp [skipFor]

end OffsetPage

namespace CursorPage

def isSingle (p : CursorPage) : Bool := p.next.isNone && p.previous.isNone

/-- A page without rows has no edges. -/
def assemble (list : List Row) (totalCount : Nat) (order : SortOrder)
    (previous next : Option Value) : CursorPage :=
  if list.isEmpty then ⟨[], totalCount, order, none, none⟩
  else ⟨list, totalCount, order, next, previous⟩

theorem isSingle_assemble_nil (n : Nat) (order : SortOrder) (a b : Option Value) :
    (assemble [] n order a b).isSingle = true := rfl

end CursorPage

structure OffsetRequest where
  filter : Value
  sortField : String
  direction : Direction
  page : Int64
  limit : Option Int64
  deriving DecidableEq, Repr

structure CursorRequest where
  filter : Value
  sortField : String
  direction : Direction
  limit : Option Int64
  cursor : Option Value
  towards : Towards
  deriving DecidableEq, Repr

/-- The number of the requested page, the first one for numbers below. -/
def OffsetRequest.effectivePage (r : OffsetRequest) : Nat :=
  if r.page < 1 then 1 else r.page.toInt.toNat

namespace CursorRequest

def after (r : CursorRequest) (cursor : Value) : CursorRequest :=
  { r with cursor := some cursor, towards := .next }

def before (r : CursorRequest) (cursor : Value) : CursorRequest :=
  { r with cursor := some cursor, towards := .previous }

/-- The direction in which rows are fetched: against the sort when going back. -/
def fetchDirection (r : CursorRequest) : Direction :=
  match r.towards with
  | .next => r.direction
  | .previous => r.direction.reversed

end CursorRequest

/-! ### Decoding -/

def decodeValue : Json.Decoder Value := fun j =>
  if j.isSound then .ok (Value.ofJson j) else .error .syntaxError

def decodeDirection : Json.Decoder Direction := Json.choice Direction.keyword Direction.values

def decodeTowards : Json.Decoder Towards := Json.choice Towards.label Towards.values

def decodeRow : Json.Decoder Row := fun j => do
  match ← decodeValue j with
  | .map fields => .ok fields
  | _ => .error (.wrongType j .map)

def SortOrder.decode : Json.Decoder SortOrder := fun j => do
  let members ← Json.recordMembers "SortOrder"
    [.of "field" Json.string false, .of "direction" decodeDirection false] j
  .ok
    { field := ← Json.required members "field" Json.string
      direction := ← Json.required members "direction" decodeDirection }

def OffsetPage.decode : Json.Decoder OffsetPage := fun j => do
  let members ← Json.recordMembers "OffsetPage"
    [.of "list" (Json.sequence decodeRow) false, .of "totalCount" Json.unsigned false,
      .of "totalPages" Json.unsigned false, .of "currentPage" Json.unsigned false,
      .of "hasNext" Json.boolean false, .of "hasPrevious" Json.boolean false] j
  .ok
    { list := ← Json.required members "list" (Json.sequence decodeRow)
      totalCount := ← Json.required members "totalCount" Json.unsigned
      totalPages := ← Json.required members "totalPages" Json.unsigned
      currentPage := ← Json.required members "currentPage" Json.unsigned
      hasNext := ← Json.required members "hasNext" Json.boolean
      hasPrevious := ← Json.required members "hasPrevious" Json.boolean }

def CursorPage.decode : Json.Decoder CursorPage := fun j => do
  let edge := Json.optional decodeValue
  let members ← Json.recordMembers "CursorPage"
    [.of "list" (Json.sequence decodeRow) false, .of "totalCount" Json.unsigned false,
      .of "order" SortOrder.decode false, .of "next" edge false, .of "previous" edge false] j
  .ok
    { list := ← Json.required members "list" (Json.sequence decodeRow)
      totalCount := ← Json.required members "totalCount" Json.unsigned
      order := ← Json.required members "order" SortOrder.decode
      next := ← Json.defaulted members "next" edge none
      previous := ← Json.defaulted members "previous" edge none }

def OffsetRequest.decode : Json.Decoder OffsetRequest := fun j => do
  let limit := Json.optional Json.signed
  let members ← Json.recordMembers "OffsetRequest"
    [.of "filter" decodeValue false, .of "sortField" Json.string false,
      .of "direction" decodeDirection true, .of "page" Json.signed true,
      .of "limit" limit true] j
  .ok
    { filter := ← Json.required members "filter" decodeValue
      sortField := ← Json.required members "sortField" Json.string
      direction := ← Json.defaulted members "direction" decodeDirection .asc
      page := ← Json.defaulted members "page" Json.signed 1
      limit := ← Json.defaulted members "limit" limit none }

def CursorRequest.decode : Json.Decoder CursorRequest := fun j => do
  let limit := Json.optional Json.signed
  let cursor := Json.optional decodeValue
  let members ← Json.recordMembers "CursorRequest"
    [.of "filter" decodeValue false, .of "sortField" Json.string false,
      .of "direction" decodeDirection true, .of "limit" limit true, .of "cursor" cursor true,
      .of "towards" decodeTowards true] j
  .ok
    { filter := ← Json.required members "filter" decodeValue
      sortField := ← Json.required members "sortField" Json.string
      direction := ← Json.defaulted members "direction" decodeDirection .asc
      limit := ← Json.defaulted members "limit" limit none
      cursor := ← Json.defaulted members "cursor" cursor none
      towards := ← Json.defaulted members "towards" decodeTowards .next }

/-! ### Encoding -/

def rowsJson (rows : List Row) : Json := .array (rows.map fun r => (Value.map r).toJson)

def countJson (n : Nat) : Json := .int n

def optionJson (v : Option Value) : Json := (v.map Value.toJson).getD .null

def limitJson (limit : Option Int64) : Json := (limit.map fun n => Json.int n.toInt).getD .null

def SortOrder.toJson (o : SortOrder) : Json :=
  .object [("field", .str o.field), ("direction", .str o.direction.keyword)]

def OffsetPage.toJson (p : OffsetPage) : Json :=
  .object
    [("list", rowsJson p.list), ("totalCount", countJson p.totalCount),
      ("totalPages", countJson p.totalPages), ("currentPage", countJson p.currentPage),
      ("hasNext", .bool p.hasNext), ("hasPrevious", .bool p.hasPrevious)]

def CursorPage.toJson (p : CursorPage) : Json :=
  .object
    [("list", rowsJson p.list), ("totalCount", countJson p.totalCount),
      ("order", p.order.toJson), ("next", optionJson p.next),
      ("previous", optionJson p.previous)]

def OffsetRequest.toJson (r : OffsetRequest) : Json :=
  .object
    [("filter", r.filter.toJson), ("sortField", .str r.sortField),
      ("direction", .str r.direction.keyword), ("page", .int r.page.toInt),
      ("limit", limitJson r.limit)]

def CursorRequest.toJson (r : CursorRequest) : Json :=
  .object
    [("filter", r.filter.toJson), ("sortField", .str r.sortField),
      ("direction", .str r.direction.keyword), ("limit", limitJson r.limit),
      ("cursor", optionJson r.cursor), ("towards", .str r.towards.label)]

end PagedFilter.Page
