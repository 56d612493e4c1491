import PagedFilter.Double.Shortest

/-!
JSON documents and their compact text. An object keeps its members in the order of the text, repeated
names included. A document may hold faulty parts: they can be passed over, but no value stands for
them.
-/

namespace PagedFilter

inductive Json where
  | null
  | bool (b : Bool)
  /-- A number without fraction and exponent, between `-2 ^ 63` and `2 ^ 64`. -/
  | int (n : Int)
  /-- Any other number. -/
  | float (x : Double)
  | str (s : String)
  | array (items : List Json)
  | object (members : List (String × Json))
  /-- A part of the right shape without a value: a number too large, a string or a name with half a
  surrogate pair, or nesting beyond the limit. -/
  | faulty
  deriving Inhabited, Repr

namespace Json

def unicodeEscape (n : Nat) : List Char :=
  let cs := Nat.toDigits 16 n
  '\\' :: 'u' :: List.replicate (4 - cs.length) '0' ++ cs

/-- Quotes, backslashes and controls are escaped, all else stands for itself. -/
def escape (c : Char) : List Char :=
  if c = '"' then ['\\', '"']
  else if c = '\\' then ['\\', '\\']
  else if c = '\x08' then ['\\', 'b']
  else if c = '\x0c' then ['\\', 'f']
  else if c = '\n' then ['\\', 'n']
  else if c = '\r' then ['\\', 'r']
  else if c = '\t' then ['\\', 't']
  else if c.toNat < 32 then unicodeEscape c.toNat
  else [c]

def strText (s : String) : String := String.ofList ('"' :: s.toList.flatMap escape ++ ['"'])

/-- A double, or null if it is not finite. -/
def floatText (x : Double) : String := if x.isFinite then x.text else "null"

def commaSeparated : List String → String
  | [] => ""
  | [s] => s
  | s :: t :: rest => s ++ "," ++ commaSeparated (t :: rest)

def arrayText (items : List String) : String := "[" ++ commaSeparated items ++ "]"

def objectText (members : List (String × String)) : String :=
  "\x7b" ++ commaSeparated (members.map fun m => strText m.1 ++ ":" ++ m.2) ++ "\x7d"

mutual

def isSound : Json → Bool
  | array items => areSound items
  | object members => membersAreSound members
  | faulty => false
  | _ => true

def areSound : List Json → Bool
  | [] => true
  | j :: rest => isSound j && areSound rest

def membersAreSound : List (String × Json) → Bool
  | [] => true
  | (_, j) :: rest => isSound j && membersAreSound rest

end

mutual

/-- The compact text, without any space between tokens. A faulty part is written as null. -/
def text : Json → String
  | null => "null"
  | bool b => if b then "true" else "false"
  | int n => toString n
  | float x => floatText x
  | str s => strText s
  | array items => arrayText (itemTexts items)
  | object members => objectText (memberTexts members)
  | faulty => "null"

def itemTexts : List Json → List String
  | [] => []
  | j :: rest => text j :: itemTexts rest

def memberTexts : List (String × Json) → List (String × String)
  | [] => []
  | (k, j) :: rest => (k, text j) :: memberTexts rest

end

theorem areSound_eq_all (items : List Json) : areSound items = items.all isSound := by
  induction items with
  | nil => rfl
  | cons j rest ih => simp [areSound, ih]

theorem membersAreSound_eq_all (members : List (String × Json)) :
    membersAreSound members = members.all fun m => m.2.isSound := by
  induction members with
  | nil => rfl
  | cons m rest ih => simp [membersAreSound, ih]

theorem itemTexts_eq_map (items : List Json) : itemTexts items = items.map text := by
  induction items with
  | nil => rfl
  | cons j rest ih => simp [itemTexts, ih]

theorem memberTexts_eq_map (members : List (String × Json)) :
    memberTexts members = members.map fun m => (m.1, text m.2) := by
  induction members with
  | nil => rfl
  | cons m rest ih => simp [memberTexts, ih]

end Json

end PagedFilter
