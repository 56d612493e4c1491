import PagedFilter.Text.Blank
import PagedFilter.Text.Digit
import PagedFilter.Text.RangeAlgebra
import PagedFilter.Text.Word

/-!
Sets of characters as patterns write them: ranges, named classes and their combinations. Membership
is decided on code points.
-/

namespace PagedFilter

inductive CharSet where
  | none
  | any
  | range (low high : Nat)
  | digit
  | blank
  | word
  | union (a b : CharSet)
  | inter (a b : CharSet)
  | complement (a : CharSet)
  /-- All characters that fold to the same character as a member. -/
  | folded (a : CharSet)
  /-- The code points that fold to one character. -/
  | alike (members : List Nat)
  deriving Inhabited, Repr

namespace CharSet

def holds : CharSet → Nat → Bool
  | none, _ => false
  | any, _ => true
  | range low high, n => decide (low ≤ n) && decide (n ≤ high)
  | digit, n => Text.isDigit (Char.ofNat n)
  | blank, n => Text.isBlank (Char.ofNat n)
  | word, n => Text.isWord (Char.ofNat n)
  | union a b, n => a.holds n || b.holds n
  | inter a b, n => a.holds n && b.holds n
  | complement a, n => !a.holds n
  | folded a, n => (Text.foldClass n).any a.holds
  | alike members, n => members.contains n

/-- Whether the set is closed under case by the way it is made. -/
def isFolded : CharSet → Bool
  | none => true
  | any => true
  | union a b => a.isFolded && b.isFolded
  | inter a b => a.isFolded && b.isFolded
  | complement a => a.isFolded
  | folded _ => true
  | alike _ => true
  | _ => false

/-- Closes a set under case. A union is closed member by member, a single character is listed with
those like it, and what is closed stays as it is. -/
def fold : CharSet → CharSet
  | union a b => union a.fold b.fold
  | range low high =>
    if low = high then alike (Text.foldClass low) else folded (range low high)
  | a => if a.isFolded then a else folded a

def ranges : CharSet → Text.Ranges
  | none => []
  | any => Text.Ranges.full
  | range low high => Text.Ranges.characters [(low, high)]
  | digit => Text.digitRanges
  | blank => Text.blankRanges
  | word => Text.wordRanges
  | union a b => a.ranges.union b.ranges
  | inter a b => a.ranges.inter b.ranges
  | complement a => a.ranges.complement
  | folded a => a.ranges.folded
  | alike members => Text.Ranges.ofPoints members

def single (c : Char) : CharSet := range c.toNat c.toNat

def difference (a b : CharSet) : CharSet := inter a (complement b)

def symmetricDifference (a b : CharSet) : CharSet := union (difference a b) (difference b a)

def ofRanges : List (Char × Char) → CharSet
  | [] => none
  | (low, high) :: rest => union (range low.toNat high.toNat) (ofRanges rest)

def notLineFeed : CharSet := complement (single '\n')

def ascii? (name : String) : Option CharSet :=
  match name with
  | "alnum" => some (ofRanges [('0', '9'), ('A', 'Z'), ('a', 'z')])
  | "alpha" => some (ofRanges [('A', 'Z'), ('a', 'z')])
  | "ascii" => some (ofRanges [('\x00', '\x7f')])
  | "blank" => some (ofRanges [('\t', '\t'), (' ', ' ')])
  | "cntrl" => some (ofRanges [('\x00', '\x1f'), ('\x7f', '\x7f')])
  | "digit" => some (ofRanges [('0', '9')])
  | "graph" => some (ofRanges [('!', '~')])
  | "lower" => some (ofRanges [('a', 'z')])
  | "print" => some (ofRanges [(' ', '~')])
  | "punct" => some (ofRanges [('!', '/'), (':', '@'), ('[', '\x60'), ('\x7b', '~')])
  | "space" => some (ofRanges [('\t', '\r'), (' ', ' ')])
  | "upper" => some (ofRanges [('A', 'Z')])
  | "word" => some (ofRanges [('0', '9'), ('A', 'Z'), ('a', 'z'), ('_', '_')])
  | "xdigit" => some (ofRanges [('0', '9'), ('A', 'F'), ('a', 'f')])
  | _ => Option.none

theorem holds_complement (a : CharSet) (n : Nat) : (complement a).holds n = !a.holds n := rfl

theorem holds_fold_union (a b : CharSet) (n : Nat) :
    (fold (union a b)).holds n = (a.fold.holds n || b.fold.holds n) := rfl

theorem fold_folded (a : CharSet) : fold (folded a) = folded a := rfl

theorem holds_single (c : Char) (n : Nat) : (single c).holds n = decide (n = c.toNat) := by
  simp only [single, holds]
  by_cases h : n = c.toNat
  · simp [h]
  · rw [decide_eq_false h, Bool.and_eq_false_iff]
    have : ¬c.toNat ≤ n ∨ ¬n ≤ c.toNat := by omega
    simpa using this

/-- The Kelvin sign matches the letter k without regard to case. -/
example : (folded (single 'k')).holds 0x212A = true := by decide

end CharSet

end PagedFilter
