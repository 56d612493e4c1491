import PagedFilter.Json.Reader
import PagedFilter.Text.Quoted

/-!
Decoding JSON documents into records. A record is an object of its fields, or an array of them in the
order of declaration. Fields are checked in the order of the text and the first fault is reported;
unknown fields are passed over, faulty or not, and missing ones are found at the end.
-/

namespace PagedFilter.Json

/-- What a place in a document should hold. -/
inductive Expected where
  | string | boolean | sequence | map | unit
  | integer (name : String)
  | record (name : String)
  /-- An array of a record's fields. -/
  | fieldsOf (name : String) (count : Nat)
  deriving DecidableEq, Repr

def Expected.text : Expected → String
  | string => "a string"
  | boolean => "a boolean"
  | sequence => "a sequence"
  | map => "a map"
  | unit => "unit"
  | integer name => name
  | record name => "struct " ++ name
  | fieldsOf name count => "struct " ++ name ++ " with " ++ toString count ++ " elements"

/-- Why a text cannot be decoded. -/
inductive DecodeError where
  | syntaxError
  | missingField (name : String)
  | duplicateField (name : String)
  | unknownVariant (name : String) (choices : List String)
  | wrongType (found : Json) (expected : Expected)
  | outOfRange (n : Int) (expected : Expected)
  | wrongLength (length : Nat) (expected : Expected)
  /-- An array goes on after a record's last field. -/
  | trailingItems
  /-- No name of a choice where one should stand. -/
  | noChoice
  deriving Repr

def ticked (s : String) : String := "`" ++ s ++ "`"

def found : Json → String
  | null => "null"
  | bool b => "boolean " ++ ticked (if b then "true" else "false")
  | int n => "integer " ++ ticked (toString n)
  | float x => "floating point " ++ ticked x.text
  | str s => "string " ++ Text.quoted s
  | array _ => "sequence"
  | object _ => "map"
  | faulty => "nothing"

/-- The names of choices: two with `or`, more as a list. -/
def choiceText : List String → String
  | [a] => ticked a
  | [a, b] => ticked a ++ " or " ++ ticked b
  | choices => "one of " ++ String.intercalate ", " (choices.map ticked)

/-- The message about a fault; none for a text that is no JSON at all. -/
def DecodeError.message? : DecodeError → Option String
  | syntaxError => none
  | missingField name => some ("missing field " ++ ticked name)
  | duplicateField name => some ("duplicate field " ++ ticked name)
  | unknownVariant name choices =>
    some ("unknown variant " ++ ticked name ++ ", expected " ++ choiceText choices)
  | wrongType j expected => some ("invalid type: " ++ j.found ++ ", expected " ++ expected.text)
  | outOfRange n expected =>
    some ("invalid value: " ++ (int n).found ++ ", expected " ++ expected.text)
  | wrongLength length expected =>
    some ("invalid length " ++ toString length ++ ", expected " ++ expected.text)
  | trailingItems => some "trailing characters"
  | noChoice => some "expected value"

abbrev Decoder (α : Type) := Json → Except DecodeError α

/-- Texts nest at most this many arrays and objects. -/
def depthLimit : Nat := 127

/-- Reads a text and decodes it. A text with a faulty part that cannot be decoded counts as no JSON,
whatever its first fault. -/
def decodeText {α : Type} (d : Decoder α) (s : String) : Except DecodeError α :=
  match read? depthLimit s with
  | some j => (d j).mapError fun e => if j.isSound then e else .syntaxError
  | none => .error .syntaxError

def string : Decoder String
  | str s => .ok s
  | j => .error (.wrongType j .string)

def boolean : Decoder Bool
  | bool b => .ok b
  | j => .error (.wrongType j .boolean)

/-- An integer from `low` to `high`, which `name` names. -/
def integer (name : String) (low high : Int) : Decoder Int
  | int n => if low ≤ n ∧ n ≤ high then .ok n else .error (.outOfRange n (.integer name))
  | j => .error (.wrongType j (.integer name))

def signed : Decoder Int64 := fun j => (integer "i64" (-2 ^ 63) (2 ^ 63 - 1) j).map Int64.ofInt

def unsigned : Decoder Nat := fun j => (integer "u64" 0 (2 ^ 64 - 1) j).map Int.toNat

/-- An unsigned integer of the machine's width, which is 64 bits. -/
def word : Decoder UInt64 := fun j =>
  (integer "usize" 0 (2 ^ 64 - 1) j).map fun n => UInt64.ofNat n.toNat

def optional {α : Type} (d : Decoder α) : Decoder (Option α)
  | null => .ok none
  | j => (d j).map some

def sequence {α : Type} (d : Decoder α) : Decoder (List α)
  | array items => items.mapM d
  | j => .error (.wrongType j .sequence)

def variant {α : Type} (label : α → String) (choices : List α) (name : String) :
    Except DecodeError α :=
  match choices.find? (label · == name) with
  | some a => .ok a
  | none => .error (.unknownVariant name (choices.map label))

/-- One of several choices: its label, or an object from the label to null. -/
def choice {α : Type} (label : α → String) (choices : List α) : Decoder α
  | str s => variant label choices s
  | object ((k, j) :: rest) => do
    let a ← variant label choices k
    match j with
    | null => if rest.isEmpty then .ok a else .error .noChoice
    | j => .error (.wrongType j .unit)
  | _ => .error .noChoice

/-! ### Records -/

/-- A field of a record: its name, a check of its value, and whether an array of fields may end
before it. -/
structure RecordField where
  name : String
  check : Json → Except DecodeError Unit
  mayEnd : Bool

def RecordField.of {α : Type} (name : String) (d : Decoder α) (mayEnd : Bool) : RecordField :=
  ⟨name, fun j => (d j).map fun _ => (), mayEnd⟩

/-- Checks the members of an object that are fields, in order, and keeps them. -/
def checkMembers (fields : List RecordField) (seen : List String) :
    List (String × Json) → Except DecodeError (List (String × Json))
  | [] => .ok []
  | (k, j) :: rest =>
    match fields.find? (·.name == k) with
    | none => checkMembers fields seen rest
    | some f =>
      if seen.contains k then .error (.duplicateField k)
      else do
        f.check j
        let kept ← checkMembers fields (k :: seen) rest
        .ok ((k, j) :: kept)

/-- Checks the items of an array as fields and names them. `length` items came before. -/
def checkItems (expected : Expected) (length : Nat) :
    List RecordField → List Json → Except DecodeError (List (String × Json))
  | [], [] => .ok []
  | [], _ :: _ => .error .trailingItems
  | f :: fields, [] =>
    if f.mayEnd then checkItems expected length fields [] else .error (.wrongLength length expected)
  | f :: fields, j :: items => do
    f.check j
    let kept ← checkItems expected (length + 1) fields items
    .ok ((f.name, j) :: kept)

/-- The fields of a record by name, each checked. -/
def recordMembers (name : String) (fields : List RecordField) :
    Decoder (List (String × Json))
  | object members => checkMembers fields [] members
  | array items => checkItems (.fieldsOf name fields.length) 0 fields items
  | j => .error (.wrongType j (.record name))

def required {α : Type} (members : List (String × Json)) (name : String) (d : Decoder α) :
    Except DecodeError α :=
  match members.find? (·.1 == name) with
  | some (_, j) => d j
  | none => .error (.missingField name)

def defaulted {α : Type} (members : List (String × Json)) (name : String) (d : Decoder α)
    (value : α) : Except DecodeError α :=
  match members.find? (·.1 == name) with
  | some (_, j) => d j
  | none => .ok value

theorem choiceText_two (a b : String) : choiceText [a, b] = ticked a ++ " or " ++ ticked b := rfl

theorem checkItems_trailing (expected : Expected) (length : Nat) (j : Json) (items : List Json) :
    checkItems expected length [] (j :: items) = .error .trailingItems := rfl

end PagedFilter.Json
