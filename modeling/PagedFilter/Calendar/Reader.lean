import PagedFilter.Calendar.Instant
import PagedFilter.Text.Blank

/-!
Reading date-times. A text qualifies when it begins with a date of ten characters and a `T`. What
follows is read strictly, with a zone, or else loosely, without one and in universal time: there
each number may have one or two digits and blanks in front.
-/

namespace PagedFilter.Instant

def digitsValue (cs : List Char) : Nat := cs.foldl (fun n c => 10 * n + (c.toNat - 48)) 0

/-- At least `least` and at most `most` decimal digits, and the rest. -/
def readDigits (least most : Nat) (cs : List Char) : Option (Nat × List Char) :=
  let row := (cs.take most).takeWhile Char.isDigit
  if least ≤ row.length then some (digitsValue row, cs.drop row.length) else none

def readChar (c : Char) : List Char → Option (List Char)
  | d :: cs => if d = c then some cs else none
  | [] => none

/-- Digits after a decimal point in nanoseconds; those after the ninth are dropped. -/
def readNanos (cs : List Char) : Option (Nat × List Char) :=
  let row := (cs.take 9).takeWhile Char.isDigit
  if row.isEmpty then none
  else some (digitsValue row * 10 ^ (9 - row.length), (cs.drop row.length).dropWhile Char.isDigit)

/-- An optional fraction: nothing, or a point and at least one digit. -/
def readFraction : List Char → Option (Nat × List Char)
  | '.' :: cs => readNanos cs
  | cs => some (0, cs)

/-- Hours, minutes and seconds of a day; second 60 is the leap second after second 59. -/
structure ClockTime where
  hour : Nat
  minute : Nat
  second : Nat
  nanos : Nat
  deriving DecidableEq, Repr

def ClockTime.isValid (t : ClockTime) : Bool :=
  decide (t.hour ≤ 23) && decide (t.minute ≤ 59) && decide (t.second ≤ 60)

/-- A date and a valid time of day as an instant, `offset` seconds ahead of universal time. -/
def ofClock (d : Date) (t : ClockTime) (offset : Int) : Option Instant :=
  if d.isValid && t.isValid then
    let leap := decide (t.second = 60)
    let second := if leap then 59 else t.second
    let ofDay : Int := (t.hour * 3600 + t.minute * 60 + second : Nat)
    some (ofDate d (ofDay - offset) (if leap then t.nanos + 10 ^ 9 else t.nanos))
  else none

/-- A date of four, two and two digits before a `T`, with the rest after the `T`. -/
def readDate (cs : List Char) : Option (Date × List Char) := do
  let (year, cs) ← readDigits 4 4 cs
  let cs ← readChar '-' cs
  let (month, cs) ← readDigits 2 2 cs
  let cs ← readChar '-' cs
  let (day, cs) ← readDigits 2 2 cs
  let cs ← readChar 'T' cs
  some (⟨year, month, day⟩, cs)

/-- A zone in seconds: `Z`, or a sign with hours and minutes below one day. The sign for minus is a
hyphen or U+2212. -/
def readZone : List Char → Option (Int × List Char)
  | [] => none
  | c :: cs =>
    if c = 'Z' ∨ c = 'z' then some (0, cs)
    else if c = '+' ∨ c = '-' ∨ c = '\u2212' then do
      let (hours, cs) ← readDigits 2 2 cs
      let cs ← readChar ':' cs
      let (minutes, cs) ← readDigits 2 2 cs
      let size : Int := (hours * 3600 + minutes * 60 : Nat)
      if minutes ≤ 59 ∧ hours ≤ 23 then some (if c = '+' then size else -size, cs) else none
    else none

/-- Two-digit fields, an optional fraction and a zone. -/
def readZoned (d : Date) (cs : List Char) : Option Instant := do
  let (hour, cs) ← readDigits 2 2 cs
  let cs ← readChar ':' cs
  let (minute, cs) ← readDigits 2 2 cs
  let cs ← readChar ':' cs
  let (second, cs) ← readDigits 2 2 cs
  let (nanos, cs) ← readFraction cs
  let (offset, cs) ← readZone cs
  if cs.isEmpty then ofClock d ⟨hour, minute, second, nanos⟩ offset else none

/-- One or two digits after any blanks. -/
def readLoose (cs : List Char) : Option (Nat × List Char) := readDigits 1 2 (Text.trimLeft cs)

/-- Loose hours, minutes and seconds with an optional fraction. -/
def readSeconds (d : Date) (cs : List Char) : Option Instant := do
  let (hour, cs) ← readLoose cs
  let cs ← readChar ':' cs
  let (minute, cs) ← readLoose cs
  let cs ← readChar ':' cs
  let (second, cs) ← readLoose cs
  let (nanos, cs) ← readFraction cs
  if cs.isEmpty then ofClock d ⟨hour, minute, second, nanos⟩ 0 else none

def readMinutes (d : Date) (cs : List Char) : Option Instant := do
  let (hour, cs) ← readLoose cs
  let cs ← readChar ':' cs
  let (minute, cs) ← readLoose cs
  if cs.isEmpty then ofClock d ⟨hour, minute, 0, 0⟩ 0 else none

/-- Reads a date-time: with a zone, else to the second, else to the minute. -/
def read? (s : String) : Option Instant := do
  let (d, cs) ← readDate s.toList
  readZoned d cs <|> readSeconds d cs <|> readMinutes d cs

example : read? "2016-12-31T23:59:60.5+01:00" = some ⟨1483225199, 1500000000⟩ := by
  decide +kernel

example : read? "2024-01-15T8:30" = some ⟨1705307400, 0⟩ := by decide +kernel

example : read? "2024-01-15" = none := by decide +kernel

end PagedFilter.Instant
