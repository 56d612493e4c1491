import PagedFilter.Pattern.CharSet

/-!
Patterns and what they match. A spot is a place in a text with the character before it and the
characters after it. A pattern leads from a set of spots to the set of spots where its matches end;
it matches a text when some spot of the text leads anywhere.
-/

namespace PagedFilter

/-- Conditions on a spot that consume nothing. -/
inductive Anchor where
  | textStart | textEnd | lineStart | lineEnd
  | wordEdge | notWordEdge | wordStart | wordEnd | noWordBefore | noWordAfter
  deriving DecidableEq, Repr

/-- A place in a text, the character before it and the characters after it. -/
structure Spot where
  place : Nat
  before : Option Char
  after : List Char
  deriving DecidableEq, Repr

namespace Spot

/-- The spots from a place to the end of the text. -/
def fromPlace (place : Nat) (before : Option Char) : List Char → List Spot
  | [] => [⟨place, before, []⟩]
  | c :: cs => ⟨place, before, c :: cs⟩ :: fromPlace (place + 1) (some c) cs

def all (cs : List Char) : List Spot := fromPlace 0 none cs

def eat (set : CharSet) (s : Spot) : Option Spot :=
  match s.after with
  | c :: cs => if set.holds c.toNat then some ⟨s.place + 1, some c, cs⟩ else none
  | [] => none

def wordBefore (s : Spot) : Bool := s.before.any Text.isWord

def wordAfter (s : Spot) : Bool := s.after.head?.any Text.isWord

end Spot

def Anchor.holds : Anchor → Spot → Bool
  | .textStart, s => s.before.isNone
  | .textEnd, s => s.after.isEmpty
  | .lineStart, s => s.before.isNone || s.before == some '\n'
  | .lineEnd, s => s.after.isEmpty || s.after.head? == some '\n'
  | .wordEdge, s => s.wordBefore != s.wordAfter
  | .notWordEdge, s => s.wordBefore == s.wordAfter
  | .wordStart, s => !s.wordBefore && s.wordAfter
  | .wordEnd, s => s.wordBefore && !s.wordAfter
  | .noWordBefore, s => !s.wordBefore
  | .noWordAfter, s => !s.wordAfter

inductive Pattern where
  | empty
  | one (set : CharSet)
  | anchor (a : Anchor)
  | seq (p q : Pattern)
  | alt (p q : Pattern)
  /-- At least `least` matches in a row, and at most `most` if that is given. -/
  | rep (p : Pattern) (least : Nat) (most : Option Nat)
  /-- A part whose match is remembered on its own. -/
  | group (p : Pattern)
  deriving Inhabited, Repr

namespace Pattern

/-- The union of two rows of spots, each in order of place. -/
def merge : List Spot → List Spot → List Spot
  | [], ts => ts
  | s :: ss, ts => mergeInto s (merge ss) ts
where
  /-- Places `s` and then what `rest` makes of the spots after it. -/
  mergeInto (s : Spot) (rest : List Spot → List Spot) : List Spot → List Spot
    | [] => s :: rest []
    | t :: ts =>
      if s.place < t.place then s :: rest (t :: ts)
      else if s.place = t.place then s :: rest ts
      else t :: mergeInto s rest ts

/-- The spots of the first row whose places the second does not have, both in order of place. -/
def without : List Spot → List Spot → List Spot
  | [], _ => []
  | s :: ss, ts =>
    match ts.dropWhile (·.place < s.place) with
    | [] => s :: ss
    | t :: ts => if t.place = s.place then without ss ts else s :: without ss (t :: ts)

/-- The spots that are not before all of `next`. -/
def notBefore (next spots : List Spot) : List Spot :=
  match next with
  | [] => []
  | s :: _ => spots.dropWhile (·.place < s.place)

/-- The spots after exactly `n` steps. A step that leads back to the same places ends the way. -/
def exactly (step : List Spot → List Spot) : Nat → List Spot → List Spot
  | 0, spots => spots
  | n + 1, spots =>
    let next := step spots
    if next.map (·.place) = spots.map (·.place) then next else exactly step n next

/-- The spots after one to `n` steps from `fresh`. No second step is taken from a spot: those in
`tried` were left before. No step leads back, so spots before all that follow are dropped from
it. -/
def several (step : List Spot → List Spot) : Nat → List Spot → List Spot → List Spot
  | 0, _, _ => []
  | n + 1, tried, fresh =>
    if fresh.isEmpty then []
    else
      let next := step fresh
      let tried := notBefore next (merge tried fresh)
      merge next (several step n tried (without next tried))

/-- The number of characters after the first spot, which is the greatest in a row by place. -/
def longest : List Spot → Nat
  | [] => 0
  | s :: _ => s.after.length

/-- The spots where matches from the given spots end. Without an upper bound no more repetitions
are needed than there are characters left and one more, as one that consumes nothing leads nowhere
new. -/
def run : Pattern → List Spot → List Spot
  | empty, spots => spots
  | one set, spots => spots.filterMap (·.eat set)
  | anchor a, spots => spots.filter a.holds
  | seq p q, spots => q.run (p.run spots)
  | alt p q, spots => merge (p.run spots) (q.run spots)
  | rep p least (some most), spots =>
    let spots := exactly p.run least spots
    merge spots (several p.run (most - least) [] spots)
  | rep p 0 none, spots => merge spots (several p.run (longest spots + 1) [] spots)
  | rep p (least + 1) none, spots =>
    let spots := exactly p.run least spots
    several p.run (longest spots + 1) [] spots
  | group p, spots => p.run spots

def isMatch (p : Pattern) (s : String) : Bool := !(p.run (Spot.all s.toList)).isEmpty

theorem run_seq (p q : Pattern) (spots : List Spot) : (seq p q).run spots = q.run (p.run spots) :=
  rfl

theorem run_group (p : Pattern) (spots : List Spot) : (group p).run spots = p.run spots := rfl

theorem merge_nil (spots : List Spot) : merge spots [] = spots := by
  induction spots with
  | nil => rfl
  | cons s rest ih => simp [merge, merge.mergeInto, ih]

theorem run_nil (p : Pattern) : p.run [] = [] := by
  induction p with
  | empty => rfl
  | one set => rfl
  | anchor a => rfl
  | seq p q hp hq => rw [run_seq, hp, hq]
  | alt p q hp hq => simp [run, hp, hq, merge]
  | rep p least most hp =>
    have he : ∀ n, exactly p.run n [] = [] := fun n => by cases n <;> simp [exactly, hp]
    have hs : ∀ n, several p.run n [] [] = [] := fun n => by cases n <;> simp [several]
    cases most <;> cases least <;> simp [run, he, hs, merge]
  | group p hp => rw [run_group, hp]

end Pattern

end PagedFilter
