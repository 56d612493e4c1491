import PagedFilter.Double.Rounding
import PagedFilter.Json.Basic

/-!
Reading JSON. Each function takes the characters ahead and gives what it read with the characters
after it; none is returned for a text outside the grammar. A number too large for a double, a string
or a name with half a surrogate pair, and arrays and objects nested deeper than a given depth are
read as faulty parts.
-/

namespace PagedFilter.Json

def isSpace (c : Char) : Bool := c == ' ' || c == '\n' || c == '\t' || c == '\r'

def skipSpace (cs : List Char) : List Char := cs.dropWhile isSpace

def hexDigit? (c : Char) : Option Nat :=
  if c.isDigit then some (c.toNat - 48)
  else if 'a' ≤ c ∧ c ≤ 'f' then some (c.toNat - 87)
  else if 'A' ≤ c ∧ c ≤ 'F' then some (c.toNat - 55)
  else none

def readUnit : List Char → Option (Nat × List Char)
  | a :: b :: c :: d :: cs => do
    let a ← hexDigit? a
    let b ← hexDigit? b
    let c ← hexDigit? c
    let d ← hexDigit? d
    some (((a * 16 + b) * 16 + c) * 16 + d, cs)
  | _ => none

/-- The escaped low unit of a surrogate pair. -/
def readLow : List Char → Option (Nat × List Char)
  | '\\' :: 'u' :: cs => do
    let (low, cs) ← readUnit cs
    if 0xDC00 ≤ low ∧ low ≤ 0xDFFF then some (low, cs) else none
  | _ => none

/-- The character of one unit, or of a high unit and the low unit after it. Half a surrogate pair is
read as no character. -/
def readUnicode (cs : List Char) : Option (Option Char × List Char) := do
  let (unit, cs) ← readUnit cs
  if 0xD800 ≤ unit ∧ unit ≤ 0xDBFF then
    match readLow cs with
    | some (low, cs) =>
      some (some (Char.ofNat (0x10000 + (unit - 0xD800) * 0x400 + (low - 0xDC00))), cs)
    | none => some (none, cs)
  else if 0xDC00 ≤ unit ∧ unit ≤ 0xDFFF then some (none, cs)
  else some (some (Char.ofNat unit), cs)

/-- The character of an escape, its backslash already read. -/
def readEscape : List Char → Option (Option Char × List Char)
  | '"' :: cs => some (some '"', cs)
  | '\\' :: cs => some (some '\\', cs)
  | '/' :: cs => some (some '/', cs)
  | 'b' :: cs => some (some '\x08', cs)
  | 'f' :: cs => some (some '\x0c', cs)
  | 'n' :: cs => some (some '\n', cs)
  | 'r' :: cs => some (some '\r', cs)
  | 't' :: cs => some (some '\t', cs)
  | 'u' :: cs => readUnicode cs
  | _ => none

/-- The characters of a string up to its closing quote, none for half a surrogate pair. -/
def readCharacters : Nat → List Char → Option (List (Option Char) × List Char)
  | 0, _ => none
  | _ + 1, [] => none
  | fuel + 1, c :: cs =>
    if c = '"' then some ([], cs)
    else if c = '\\' then do
      let (d, cs) ← readEscape cs
      let (ds, cs) ← readCharacters fuel cs
      some (d :: ds, cs)
    else if c.toNat < 32 then none
    else do
      let (ds, cs) ← readCharacters fuel cs
      some (some c :: ds, cs)

/-- A string whose opening quote is already read; no string if it holds half a surrogate pair. -/
def readString (cs : List Char) : Option (Option String × List Char) :=
  (readCharacters (cs.length + 1) cs).map fun p => ((p.1.mapM id).map String.ofList, p.2)

/-- The digits of a fraction after a point; none without a point. -/
def readPoint : List Char → Option (List Char × List Char)
  | '.' :: cs =>
    let ds := cs.takeWhile Char.isDigit
    if ds.isEmpty then none else some (ds, cs.drop ds.length)
  | cs => some ([], cs)

def readPower (negative : Bool) (cs : List Char) : Option (Option Int × List Char) :=
  let ds := cs.takeWhile Char.isDigit
  let n : Int := (ds.foldl (fun n c => 10 * n + (c.toNat - 48)) 0 : Nat)
  if ds.isEmpty then none else some (some (if negative then -n else n), cs.drop ds.length)

def readExponent : List Char → Option (Option Int × List Char)
  | c :: cs =>
    if c = 'e' ∨ c = 'E' then
      match cs with
      | '+' :: cs => readPower false cs
      | '-' :: cs => readPower true cs
      | cs => readPower false cs
    else some (none, c :: cs)
  | [] => some (none, [])

/-- The double nearest to a decimal; one too large is faulty. -/
def decimal (negative : Bool) (n : Nat) (power : Int) : Json :=
  ((Double.ofDecimal negative n power).map float).getD faulty

/-- The number of a sign and a row of digits: an integer if it fits 64 bits. Minus zero is no
integer. -/
def wholeNumber (negative : Bool) (n : Nat) : Json :=
  if negative then if 0 < n ∧ n ≤ 2 ^ 63 then int (-n) else decimal true n 0
  else if n < 2 ^ 64 then int n else decimal false n 0

/-- A number after its sign. A zero in front stands alone. -/
def readUnsigned (negative : Bool) (cs : List Char) : Option (Json × List Char) := do
  let whole := cs.takeWhile Char.isDigit
  if whole.isEmpty ∨ (whole.head? = some '0' ∧ 1 < whole.length) then none
  else
    let (fraction, rest) ← readPoint (cs.drop whole.length)
    let (power, rest) ← readExponent rest
    let n := (whole ++ fraction).foldl (fun n c => 10 * n + (c.toNat - 48)) 0
    some (if fraction.isEmpty && power.isNone then wholeNumber negative n
      else decimal negative n (power.getD 0 - fraction.length), rest)

def readNumber : List Char → Option (Json × List Char)
  | '-' :: cs => readUnsigned true cs
  | cs => readUnsigned false cs

/-- An array or an object where `depth` levels are left. -/
def within (depth : Nat) (j : Json) : Json := if depth = 0 then faulty else j

/-- A member, if its name can be read. -/
def named? (m : Option String × Json) : Option (String × Json) := m.1.map fun k => (k, m.2)

/-- An object from the members read; faulty if one has no name. -/
def ofMembers (members : List (Option String × Json)) : Json :=
  ((members.mapM named?).map object).getD faulty

mutual

/-- A value, after any space. `depth` bounds the arrays and objects still to be entered. -/
def readValue : Nat → Nat → List Char → Option (Json × List Char)
  | 0, _, _ => none
  | fuel + 1, depth, cs =>
    match skipSpace cs with
    | 'n' :: 'u' :: 'l' :: 'l' :: cs => some (null, cs)
    | 't' :: 'r' :: 'u' :: 'e' :: cs => some (bool true, cs)
    | 'f' :: 'a' :: 'l' :: 's' :: 'e' :: cs => some (bool false, cs)
    | '"' :: cs => (readString cs).map fun p => ((p.1.map str).getD faulty, p.2)
    | '[' :: cs =>
      match skipSpace cs with
      | ']' :: cs => some (within depth (array []), cs)
      | cs => (readItems fuel (depth - 1) cs).map fun p => (within depth (array p.1), p.2)
    | '\x7b' :: cs =>
      match skipSpace cs with
      | '\x7d' :: cs => some (within depth (object []), cs)
      | cs => (readMembers fuel (depth - 1) cs).map fun p => (within depth (ofMembers p.1), p.2)
    | cs => readNumber cs

def readItems : Nat → Nat → List Char → Option (List Json × List Char)
  | 0, _, _ => none
  | fuel + 1, depth, cs => do
    let (j, cs) ← readValue fuel depth cs
    match skipSpace cs with
    | ',' :: cs =>
      let (rest, cs) ← readItems fuel depth cs
      some (j :: rest, cs)
    | ']' :: cs => some ([j], cs)
    | _ => none

def readMembers : Nat → Nat → List Char → Option (List (Option String × Json) × List Char)
  | 0, _, _ => none
  | fuel + 1, depth, cs =>
    match skipSpace cs with
    | '"' :: cs => do
      let (k, cs) ← readString cs
      match skipSpace cs with
      | ':' :: cs =>
        let (j, cs) ← readValue fuel depth cs
        match skipSpace cs with
        | ',' :: cs =>
          let (rest, cs) ← readMembers fuel depth cs
          some ((k, j) :: rest, cs)
        | '\x7d' :: cs => some ([(k, j)], cs)
        | _ => none
      | _ => none
    | _ => none

end

/-- Reads a whole text as one value; arrays and objects deeper than `depth` levels are faulty. -/
def read? (depth : Nat) (s : String) : Option Json :=
  let cs := s.toList
  match readValue (2 * cs.length + 2) depth cs with
  | some (j, rest) => if (skipSpace rest).isEmpty then some j else none
  | none => none

example : wholeNumber true 0 = float Double.negativeZero :=
  rfl

end PagedFilter.Json
