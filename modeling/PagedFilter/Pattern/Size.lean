import PagedFilter.Pattern.Compose
import PagedFilter.Text.Encoding

/-!
The size of a pattern: the bytes that its machines take. A machine reads the bytes of a text,
forward or backward, and has a state for each byte of a literal, a tree of states for a set of
characters, and copies of a part for each of its counted repetitions.
-/

namespace PagedFilter

/-- The bytes of the machine that reads forward and of the one that reads backward. -/
structure Size where
  forward : Nat
  backward : Nat
  deriving DecidableEq, Repr

namespace Size

def state : Nat := 32

/-- The bytes of a link from a state that branches. -/
def link : Nat := 4

/-- The bytes of a link on a range of bytes, where a state has several. -/
def edge : Nat := 8

def both (n : Nat) : Size := ⟨n, n⟩

def add (a b : Size) : Size := ⟨a.forward + b.forward, a.backward + b.backward⟩

def copies (n : Nat) (a : Size) : Size := ⟨n * a.forward, n * a.backward⟩

def fitsIn (limit : Nat) (a : Size) : Bool :=
  decide (a.forward ≤ limit) && decide (a.backward ≤ limit)

theorem copies_zero (a : Size) : copies 0 a = both 0 := by simp [copies, both]

theorem copies_succ (n : Nat) (a : Size) : copies (n + 1) a = (copies n a).add a := by
  simp [copies, add, Nat.succ_mul]

/-! ### Sets of characters -/

/-- Groups the neighbours that start alike. -/
def groups {α : Type} [BEq α] (rows : List (List α)) : List (List (List α)) :=
  rows.splitBy fun a b => a.head? == b.head?

/-- The places of a tree of blocks, each with what follows there. -/
def nodes : Nat → List Text.ByteBlock → List (List Text.ByteBlock)
  | 0, _ => []
  | depth + 1, blocks =>
    if blocks.all (·.isEmpty) then []
    else blocks :: (groups blocks).flatMap fun group => nodes depth (group.map List.tail)

/-- Reading forward, places with the same continuation are one state. -/
def forwardTree (blocks : List Text.ByteBlock) : Nat :=
  (nodes 4 blocks).eraseDups.foldr (fun node n => state + edge * (groups node).length + n) state

/-- The states and links of blocks that come after one. -/
def chains (before : Text.ByteBlock) : List Text.ByteBlock → Nat
  | [] => 0
  | block :: rest => state * (block.length - before.shared block) + link + chains block rest

/-- Reading backward, each block is a chain that shares its end with the block before. -/
def backwardTree (blocks : List Text.ByteBlock) : Nat := 2 * state + chains [] blocks

/-- The size of a set of characters. Sets of ASCII characters need one state with an edge for each
range. -/
def ofRanges (rs : Text.Ranges) : Size :=
  if rs.all fun r => r.2 < 128 then both (2 * state + edge * rs.length)
  else
    let blocks := Text.ByteBlock.ofRanges rs
    ⟨forwardTree blocks, backwardTree blocks⟩

def ofAny : Size := ofRanges CharSet.any.ranges

def ofDigits : Size := ofRanges CharSet.digit.ranges

def ofOthers : Size := ofRanges (CharSet.complement .digit).ranges

def ofWords : Size := ofRanges CharSet.word.ranges

def ofGaps : Size := ofRanges (CharSet.complement .word).ranges

/-! ### Literal alternatives -/

/-- Removes all but one of the empty words in front. -/
def trimEmpty : List (List Nat) → List (List Nat)
  | [] :: [] :: rest => trimEmpty ([] :: rest)
  | words => words

def segments : List (List Nat) → List (List (List Nat))
  | [] => [[]]
  | [] :: rest => [] :: segments rest
  | word :: rest =>
    match segments rest with
    | [] => [[word]]
    | segment :: more => (word :: segment) :: more

/-- What follows each first byte of some words. -/
def continuations (words : List (List Nat)) : List (List (List Nat)) :=
  (words.map List.head?).eraseDups.map fun first =>
    (words.filter (·.head? == first)).map List.tail

/-- The bytes below a place in the tree of words. -/
def wordTree : Nat → List (List Nat) → Nat
  | 0, _ => 0
  | depth + 1, words =>
    if words.all (·.isEmpty) then 0
    else
      let parts := (segments (trimEmpty words)).map continuations
      let ends := parts.length - 1
      state + link * ends + (parts.map fun part =>
        match part.length with
        | 0 => 0
        | 1 => link + state
        | n => link + state + edge * n).sum +
        (parts.flatten.map (wordTree depth)).sum

def ofAlternatives (words : List (List Nat)) : Size :=
  let depth := (words.map List.length).foldl max 0 + 1
  ⟨state + wordTree depth words, state + wordTree depth (words.map List.reverse)⟩

end Size

def CharSet.bytes? (s : CharSet) : Option (List Nat) :=
  s.only?.map fun n => (Text.ByteBlock.ofRange (n, n)).flatten.map (·.1)

def CharSet.size (s : CharSet) : Size :=
  match s with
  | any => .ofAny
  | digit => .ofDigits
  | complement digit => .ofOthers
  | word => .ofWords
  | complement word => .ofGaps
  | s =>
    match s.bytes? with
    | some bytes => .both (Size.state * bytes.length)
    | Option.none => .ofRanges s.ranges

namespace Pattern

/-- What a size depends on: the number of alternatives, their sizes together and, if each of them is
a word, their bytes. -/
structure Outline where
  alternatives : Nat
  sum : Size
  words : Option (List (List Nat))

def Outline.of (size : Size) : Outline := ⟨1, size, none⟩

def Outline.size (o : Outline) : Size :=
  if o.alternatives = 1 then o.sum
  else
    match o.words with
    | some words => .ofAlternatives words
    | none => o.sum.add (.both (2 * Size.state + Size.link * o.alternatives))

/-- The words of two patterns in a row, if each of them is one word. -/
def joinWords : Option (List (List Nat)) → Option (List (List Nat)) → Option (List (List Nat))
  | some [v], some [w] => some [v ++ w]
  | _, _ => none

/-- The size of a repetition from that of its part. `consumes` says that the part is never empty. -/
def repetitionSize (consumes : Bool) (least : Nat) (most : Option Nat) (part : Size) : Size :=
  let option := part.add (.both (Size.state + 2 * Size.link))
  match least, most with
  | 0, some 1 => option.add (.both Size.state)
  | 0, none =>
    if consumes then option
    else part.add (.both (3 * Size.state + 4 * Size.link))
  | n + 1, none => (part.copies n).add option
  | n, some m =>
    let front := if n = 0 then .both Size.state else part.copies n
    if n = m then front else (front.add (.both Size.state)).add (option.copies (m - n))

def outline : Pattern → Outline
  | empty => .of (.both Size.state)
  | one s => ⟨1, s.size, s.bytes?.map ([·])⟩
  | anchor _ => .of (.both Size.state)
  | seq p q =>
    let a := p.outline
    let b := q.outline
    ⟨1, a.size.add b.size, joinWords a.words b.words⟩
  | alt p q =>
    let a := p.outline
    let b := q.outline
    ⟨a.alternatives + b.alternatives, a.sum.add b.sum,
      a.words.bind fun v => b.words.map (v ++ ·)⟩
  | rep p least most => .of (repetitionSize p.alwaysConsumes least most p.outline.size)
  | group p => .of (p.outline.size.add ⟨2 * Size.state, 0⟩)

def startsAt (edge : Anchor) : Pattern → Bool
  | empty => false
  | one _ => false
  | anchor a => a == edge
  | seq p q => p.startsAt edge || (p.consumesNothing && q.startsAt edge)
  | alt p q => p.startsAt edge && q.startsAt edge
  | rep p least _ => least != 0 && p.startsAt edge
  | group p => p.startsAt edge

def endsAt (edge : Anchor) : Pattern → Bool
  | empty => false
  | one _ => false
  | anchor a => a == edge
  | seq p q => q.endsAt edge || (q.consumesNothing && p.endsAt edge)
  | alt p q => p.endsAt edge && q.endsAt edge
  | rep p least _ => least != 0 && p.endsAt edge
  | group p => p.endsAt edge

/-- The bytes that find where a match may start. -/
def searchSize (anchored : Bool) : Nat :=
  if anchored then Size.state else 3 * Size.state + Size.edge + 2 * Size.link

/-- The size of a whole pattern: its machines search for a start and end in one more state, and the
forward one remembers the match. -/
def size (p : Pattern) : Size :=
  let front : Size := ⟨searchSize (p.startsAt .textStart) + 2 * Size.state,
    searchSize (p.endsAt .textEnd)⟩
  (p.outline.size.add front).add (.both Size.state)

/-- The machines of a pattern take at most ten mebibytes each. -/
def sizeLimit : Nat := 10 * 2 ^ 20

def fits (p : Pattern) : Bool := p.size.fitsIn sizeLimit

theorem size_empty : size empty = ⟨240, 176⟩ := rfl

end Pattern

end PagedFilter
