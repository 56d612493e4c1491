import PagedFilter.Pattern.Size

/-!
Reading patterns. The modes that a pattern sets for itself hold to the end of the group they stand
in. Look-around, back references, unknown escapes and classes, unbalanced brackets, repetitions of
nothing, deep nesting and large patterns are refused.
-/

namespace PagedFilter.Pattern

structure Mode where
  ignoreCase : Bool
  /-- `^` and `$` hold at line ends too. -/
  multiLine : Bool
  /-- The dot stands for the line feed too. -/
  dotAll : Bool
  /-- Blanks and comments between tokens are skipped. -/
  verbose : Bool
  deriving DecidableEq, Repr

namespace Mode

def plain : Mode := ⟨false, false, false, false⟩

/-- Skips blanks and, from a number sign to the end of the line, comments. -/
def skipComments : Bool → List Char → List Char
  | _, [] => []
  | true, c :: cs => skipComments (c != '\n') cs
  | false, c :: cs =>
    if Text.isBlank c then skipComments false cs
    else if c = '#' then skipComments true cs
    else c :: cs

/-- What is ahead, after the blanks and comments that the mode skips. -/
def skip (m : Mode) (cs : List Char) : List Char :=
  if m.verbose then skipComments false cs else cs

/-- Closes a set under case if the mode ignores case. -/
def fold (m : Mode) (set : CharSet) : CharSet := if m.ignoreCase then set.fold else set

/-- Switches a mode by its letter. Greed and Unicode change no answer here. -/
def switch? (m : Mode) (value : Bool) (c : Char) : Option Mode :=
  match c with
  | 'i' => some { m with ignoreCase := value }
  | 'm' => some { m with multiLine := value }
  | 's' => some { m with dotAll := value }
  | 'x' => some { m with verbose := value }
  | 'U' | 'u' | 'R' => some m
  | _ => none

end Mode

/-- What an escape or a single character stands for. -/
inductive Atom where
  | char (c : Char)
  | set (s : CharSet)
  | anchor (a : Anchor)

def isMeta (c : Char) : Bool :=
  "\\.+*?()|[]\x7b\x7d^$#&-~".toList.contains c

/-- Whether a backslash in front of the character makes it literal. -/
def isLiteralEscape (c : Char) : Bool :=
  isMeta c || (decide (c.toNat < 128) && !c.isAlphanum && c != '<' && c != '>')

def hexValue (ds : List Nat) : Nat := ds.foldl (fun n d => 16 * n + d) 0

def hexDigit? (c : Char) : Option Nat :=
  if c.isDigit then some (c.toNat - 48)
  else if 'a' ≤ c ∧ c ≤ 'f' then some (c.toNat - 87)
  else if 'A' ≤ c ∧ c ≤ 'F' then some (c.toNat - 55)
  else none

/-- The character with a code point, unless it is half a surrogate pair or too large. -/
def charOf? (n : Nat) : Option Char := if n.isValidChar then some (Char.ofNat n) else none

def readHexDigits (m : Mode) : Nat → List Char → Option (List Nat × List Char)
  | 0, cs => some ([], cs)
  | _ + 1, [] => none
  | n + 1, c :: cs => do
    let d ← hexDigit? c
    let (ds, cs) ← readHexDigits m n (m.skip cs)
    some (d :: ds, cs)

def readHexBraces (m : Mode) : Nat → List Char → Option (List Nat × List Char)
  | 0, _ => none
  | fuel + 1, cs =>
    match m.skip cs with
    | [] => none
    | '\x7d' :: cs => some ([], m.skip cs)
    | c :: cs => do
      let d ← hexDigit? c
      let (ds, cs) ← readHexBraces m fuel cs
      some (d :: ds, cs)

/-- The character of a hexadecimal escape with `count` digits or with braces. -/
def readHex (m : Mode) (count : Nat) (cs : List Char) : Option (Atom × List Char) := do
  let (ds, cs) ← match m.skip cs with
    | '\x7b' :: cs => readHexBraces m (cs.length + 1) cs
    | cs => readHexDigits m count cs
  let c ← charOf? (hexValue ds)
  if ds.isEmpty then none else some (.char c, cs)

/-- The name of a word edge: letters and hyphens, and the rest. -/
def readEdgeName (m : Mode) : Nat → List Char → List Char × List Char
  | fuel + 1, c :: cs =>
    if c.isAlpha || c == '-' then
      let (name, rest) := readEdgeName m fuel (m.skip cs)
      (c :: name, rest)
    else ([], c :: cs)
  | _, cs => ([], cs)

def edge? (name : List Char) : Option Anchor :=
  match String.ofList name with
  | "start" => some .wordStart
  | "end" => some .wordEnd
  | "start-half" => some .noWordBefore
  | "end-half" => some .noWordAfter
  | _ => none

/-- The word edge named in braces, if braces with a name follow. -/
def readEdge (m : Mode) (cs : List Char) : Option (Anchor × List Char) :=
  match cs with
  | '\x7b' :: inside =>
    match m.skip inside with
    | [] => none
    | c :: rest =>
      match readEdgeName m (rest.length + 1) (c :: rest) with
      | ([], _) => some (.wordEdge, cs)
      | (name, '\x7d' :: after) => (edge? name).map fun a => (a, after)
      | _ => none
  | _ => some (.wordEdge, cs)

/-- What an escape stands for, its backslash already read. -/
def readEscape (m : Mode) : List Char → Option (Atom × List Char)
  | [] => none
  | c :: cs =>
    match c with
    | 'd' => some (.set .digit, cs)
    | 'D' => some (.set (.complement .digit), cs)
    | 's' => some (.set .blank, cs)
    | 'S' => some (.set (.complement .blank), cs)
    | 'w' => some (.set .word, cs)
    | 'W' => some (.set (.complement .word), cs)
    | 'x' => readHex m 2 cs
    | 'u' => readHex m 4 cs
    | 'U' => readHex m 8 cs
    | 'a' => some (.char '\x07', cs)
    | 'f' => some (.char '\x0c', cs)
    | 't' => some (.char '\t', cs)
    | 'n' => some (.char '\n', cs)
    | 'r' => some (.char '\r', cs)
    | 'v' => some (.char '\x0b', cs)
    | 'A' => some (.anchor .textStart, cs)
    | 'z' => some (.anchor .textEnd, cs)
    | 'b' => (readEdge m cs).map fun p => (.anchor p.1, p.2)
    | 'B' => some (.anchor .notWordEdge, cs)
    | '<' => some (.anchor .wordStart, cs)
    | '>' => some (.anchor .wordEnd, cs)
    | c => if isLiteralEscape c then some (.char c, cs) else none

/-! ### Nesting -/

/-- What was read, and how many levels of nesting it has. -/
structure Nested (α : Type) where
  content : α
  depth : Nat

namespace Nested

def flat {α : Type} (a : α) : Nested α := ⟨a, 0⟩

def wrap {α β : Type} (content : β) (inner : Nested α) : Nested β := ⟨content, inner.depth + 1⟩

/-- The levels of parts in a row: one more than theirs, unless a part stands alone. -/
def joinedDepth : List Nat → Nat
  | [] => 0
  | [d] => d
  | ds => ds.foldl max 0 + 1

def join {α β : Type} (content : List α → β) (parts : List (Nested α)) : Nested β :=
  ⟨content (parts.map (·.content)), joinedDepth (parts.map (·.depth))⟩

theorem depth_join_one {α β : Type} (content : List α → β) (part : Nested α) :
    (join content [part]).depth = part.depth := rfl

end Nested

/-! ### Classes in brackets -/

inductive SetOp where
  | inter | difference | symmetricDifference
  deriving DecidableEq, Repr

def SetOp.apply : SetOp → CharSet → CharSet → CharSet
  | inter, a, b => .inter a b
  | difference, a, b => a.difference b
  | symmetricDifference, a, b => a.symmetricDifference b

/-- The items of a class, the last one first, as one set. -/
def unite (items : List (Nested CharSet)) : Nested CharSet := .join (·.foldr .union .none) items

/-- Applies the operation that waits for its right side, if there is one. -/
def Mode.combine (m : Mode) (left : Option (Nested CharSet × SetOp))
    (items : List (Nested CharSet)) : Nested CharSet :=
  let right := unite items
  match left with
  | none => right
  | some (a, op) => .join (fun _ => op.apply (m.fold a.content) (m.fold right.content)) [a, right]

/-- A class between colons, its opening bracket already read. -/
def readNamedClass (m : Mode) (cs : List Char) : Option (CharSet × List Char) :=
  match cs with
  | ':' :: cs =>
    let (negated, cs) := match cs with
      | '^' :: cs => (true, cs)
      | cs => (false, cs)
    let name := cs.takeWhile (· != ':')
    match CharSet.ascii? (String.ofList name), cs.drop name.length with
    | some set, ':' :: ']' :: cs =>
      some (if negated then .complement (m.fold set) else m.fold set, cs)
    | _, _ => none
  | _ => none

def readClassAtom (m : Mode) : List Char → Option (Atom × List Char)
  | [] => none
  | '\\' :: cs => readEscape m cs
  | c :: cs => some (.char c, cs)

/-- Whether a hyphen starts the upper end of a range: not before a bracket or another hyphen. -/
def startsRange (m : Mode) (cs : List Char) : Bool :=
  match m.skip cs with
  | ']' :: _ => false
  | '-' :: _ => false
  | _ => true

def readClassItem (m : Mode) (cs : List Char) : Option (CharSet × List Char) := do
  let (low, cs) ← readClassAtom m cs
  let single : Option (CharSet × List Char) :=
    match low with
    | .char c => some (.single c, m.skip cs)
    | .set s => some (s, m.skip cs)
    | .anchor _ => none
  match m.skip cs with
  | [] => none
  | '-' :: cs =>
    if startsRange m cs then do
      let (high, cs) ← readClassAtom m (m.skip cs)
      match low, high with
      | .char a, .char b => if a ≤ b then some (.range a.toNat b.toNat, cs) else none
      | _, _ => none
    else single
  | _ => single

/-- Hyphens at the start of a class are literal. -/
def readHyphens (m : Mode) : Nat → List Char → List (Nested CharSet) × List Char
  | fuel + 1, '-' :: cs =>
    let (items, rest) := readHyphens m fuel (m.skip cs)
    (.flat (.single '-') :: items, rest)
  | _, cs => ([], cs)

/-- What opens a class after its bracket: whether it is negated, and its literal first members. -/
def readClassOpen (m : Mode) (cs : List Char) : Bool × List (Nested CharSet) × List Char :=
  let (negated, cs) := match m.skip cs with
    | '^' :: cs => (true, m.skip cs)
    | cs => (false, cs)
  match readHyphens m (cs.length + 1) cs with
  | ([], ']' :: cs) => (negated, [.flat (.single ']')], m.skip cs)
  | (items, cs) => (negated, items, cs)

mutual

def readClass : Nat → Mode → List Char → Option (Nested CharSet × List Char)
  | 0, _, _ => none
  | fuel + 1, m, cs => do
    let (negated, items, cs) := readClassOpen m cs
    let (set, cs) ← readClassItems fuel m none items cs
    let folded := m.fold set.content
    some (set.wrap (if negated then .complement folded else folded), cs)

def readClassItems : Nat → Mode → Option (Nested CharSet × SetOp) → List (Nested CharSet) →
    List Char → Option (Nested CharSet × List Char)
  | 0, _, _, _, _ => none
  | fuel + 1, m, left, items, cs =>
    match m.skip cs with
    | [] => none
    | ']' :: cs => some (m.combine left items, cs)
    | '[' :: cs =>
      match readNamedClass m cs with
      | some (set, cs) => readClassItems fuel m left (.flat set :: items) cs
      | none => do
        let (set, cs) ← readClass fuel m cs
        readClassItems fuel m left (set :: items) cs
    | '&' :: '&' :: cs => readClassItems fuel m (some (m.combine left items, .inter)) [] cs
    | '-' :: '-' :: cs => readClassItems fuel m (some (m.combine left items, .difference)) [] cs
    | '~' :: '~' :: cs =>
      readClassItems fuel m (some (m.combine left items, .symmetricDifference)) [] cs
    | cs => do
      let (set, cs) ← readClassItem m cs
      readClassItems fuel m left (.flat set :: items) cs

end

/-! ### Groups -/

/-- What opens a group: modes for the rest of the enclosing group, a group with modes of its own, or
a group that is remembered, with its name if it has one. -/
inductive Opening where
  | modes (m : Mode)
  | plain (m : Mode)
  | remembered (name : Option (List Char))

/-- Mode letters up to a colon or a parenthesis. No letter and no sign occurs twice, and a sign is
followed by a letter. The result says whether a colon came last. -/
def readModes (current : Mode) (value : Bool) (seen : List Char) :
    List Char → Option (Mode × Bool × List Char × List Char)
  | [] => none
  | ':' :: cs => if seen.head? = some '-' then none else some (current, true, seen, cs)
  | ')' :: cs => if seen.head? = some '-' then none else some (current, false, seen, cs)
  | c :: cs =>
    if seen.contains c then none
    else if c = '-' then readModes current false (c :: seen) cs
    else
      match current.switch? value c with
      | some m => readModes m value (c :: seen) cs
      | none => none

/-- Whether a character may stand in a group's name, first or later. -/
def isNameChar (first : Bool) (c : Char) : Bool :=
  if first then c == '_' || (Text.isWord c && !Text.isDigit c)
  else Text.isWord c || c == '.' || c == '[' || c == ']'

def readName (cs : List Char) : Option (List Char × List Char) :=
  let name := cs.takeWhile (· != '>')
  match name, cs.drop name.length with
  | c :: rest, '>' :: cs =>
    if isNameChar true c && rest.all (isNameChar false) then some (c :: rest, cs) else none
  | _, _ => none

def readOpening (m : Mode) (cs : List Char) : Option (Opening × List Char) :=
  match m.skip cs with
  | '?' :: '=' :: _ => none
  | '?' :: '!' :: _ => none
  | '?' :: '<' :: '=' :: _ => none
  | '?' :: '<' :: '!' :: _ => none
  | '?' :: 'P' :: '<' :: cs => (readName cs).map fun p => (.remembered (some p.1), p.2)
  | '?' :: '<' :: cs => (readName cs).map fun p => (.remembered (some p.1), p.2)
  | '?' :: cs =>
    match readModes m true [] cs with
    | some (inner, true, _, cs) => some (.plain inner, cs)
    | some (inner, false, seen, cs) => if seen.isEmpty then none else some (.modes inner, cs)
    | none => none
  | cs => some (.remembered none, cs)

/-! ### Repetitions -/

/-- A count: digits that fit 32 bits, with blanks around them. -/
def readCount (m : Mode) (cs : List Char) : Option (Nat × List Char) :=
  let cs := Text.trimLeft cs
  let rec digits : Nat → List Char → List Char × List Char
    | 0, cs => ([], cs)
    | fuel + 1, c :: cs =>
      if c.isDigit then
        let (ds, rest) := digits fuel (m.skip cs)
        (c :: ds, rest)
      else ([], c :: cs)
    | _ + 1, [] => ([], [])
  let (ds, cs) := digits (cs.length + 1) cs
  let n := ds.foldl (fun n c => 10 * n + (c.toNat - 48)) 0
  if ds.isEmpty ∨ 2 ^ 32 ≤ n then none else some (n, m.skip (Text.trimLeft cs))

/-- The bounds of a counted repetition, its opening brace already read. -/
def readBounds (m : Mode) (cs : List Char) : Option ((Nat × Option Nat) × List Char) := do
  let (least, cs) ← readCount m (m.skip cs)
  match cs with
  | '\x7d' :: cs => some ((least, some least), cs)
  | ',' :: cs =>
    match m.skip cs with
    | '\x7d' :: cs => some ((least, none), cs)
    | cs =>
      let (most, cs) ← readCount m cs
      match cs with
      | '\x7d' :: cs => if least ≤ most then some ((least, some most), cs) else none
      | _ => none
  | _ => none

/-- Passes the mark that makes a repetition prefer fewer matches. -/
def skipLazy : List Char → List Char
  | '?' :: cs => cs
  | cs => cs

/-- An item under way: a pattern, or modes, which cannot be repeated. -/
abbrev Item := Nested (Option Pattern)

def repeatLast (least : Nat) (most : Option Nat) : List Item → Option (List Item)
  | ⟨some p, depth⟩ :: items => some (⟨some (p.repeated least most), depth + 1⟩ :: items)
  | _ => none

/-! ### Patterns -/

def Mode.literal (m : Mode) (c : Char) : Pattern := .one (m.fold (.single c))

def Mode.dot (m : Mode) : Pattern := .one (if m.dotAll then .any else .notLineFeed)

def Mode.start (m : Mode) : Pattern := .anchor (if m.multiLine then .lineStart else .textStart)

def Mode.finish (m : Mode) : Pattern := .anchor (if m.multiLine then .lineEnd else .textEnd)

def Mode.atom (m : Mode) : Atom → Pattern
  | .char c => m.literal c
  | .set s => .one s
  | .anchor a => .anchor a

/-- The items of a branch, the last one first, as one pattern. -/
def branch (items : List Item) : Nested Pattern :=
  .join (fun ps => concat (ps.filterMap id)) items.reverse

def choose (branches : List (Nested Pattern)) : Nested Pattern := .join choice branches.reverse

/-- Where reading stands: what is ahead, and the names of the groups passed. -/
structure Progress where
  ahead : List Char
  names : List (List Char)

def Item.one (p : Pattern) : Item := .flat (some p)

/-- The inside of a group up to its closing parenthesis, which is left, or to the end. `branches`
and `items` hold what was read, the last first. -/
def readInside : Nat → Mode → Progress → List (Nested Pattern) → List Item →
    Option (Nested Pattern × Progress)
  | 0, _, _, _, _ => none
  | fuel + 1, m, at_, branches, items =>
    match m.skip at_.ahead with
    | [] => some (choose (branch items :: branches), { at_ with ahead := [] })
    | ')' :: cs => some (choose (branch items :: branches), { at_ with ahead := ')' :: cs })
    | '|' :: cs => readInside fuel m { at_ with ahead := cs } (branch items :: branches) []
    | '(' :: cs => do
      let (opening, cs) ← readOpening m (m.skip cs)
      match opening with
      | .modes inner =>
        readInside fuel inner { at_ with ahead := cs } branches (.flat none :: items)
      | .plain inner =>
        let (p, after) ← readInside fuel inner { at_ with ahead := cs } [] []
        match after.ahead with
        | ')' :: cs =>
          readInside fuel m { after with ahead := cs } branches (p.wrap (some p.content) :: items)
        | _ => none
      | .remembered name =>
        if name.any at_.names.contains then none
        else
          let (p, after) ← readInside fuel m ⟨cs, name.toList ++ at_.names⟩ [] []
          match after.ahead with
          | ')' :: cs =>
            readInside fuel m { after with ahead := cs } branches
              (p.wrap (some (.group p.content)) :: items)
          | _ => none
    | '[' :: cs => do
      let (set, cs) ← readClass (2 * cs.length + 2) m cs
      let item : Item := ⟨some (.one set.content), set.depth⟩
      readInside fuel m { at_ with ahead := cs } branches (item :: items)
    | '?' :: cs => do
      let items ← repeatLast 0 (some 1) items
      readInside fuel m { at_ with ahead := skipLazy cs } branches items
    | '*' :: cs => do
      let items ← repeatLast 0 none items
      readInside fuel m { at_ with ahead := skipLazy cs } branches items
    | '+' :: cs => do
      let items ← repeatLast 1 none items
      readInside fuel m { at_ with ahead := skipLazy cs } branches items
    | '\x7b' :: cs => do
      let ((least, most), cs) ← readBounds m cs
      let items ← repeatLast least most items
      readInside fuel m { at_ with ahead := skipLazy (m.skip cs) } branches items
    | '\\' :: cs => do
      let (a, cs) ← readEscape m cs
      readInside fuel m { at_ with ahead := cs } branches (.one (m.atom a) :: items)
    | '.' :: cs => readInside fuel m { at_ with ahead := cs } branches (.one m.dot :: items)
    | '^' :: cs => readInside fuel m { at_ with ahead := cs } branches (.one m.start :: items)
    | '$' :: cs => readInside fuel m { at_ with ahead := cs } branches (.one m.finish :: items)
    | c :: cs => readInside fuel m { at_ with ahead := cs } branches (.one (m.literal c) :: items)

def depthLimit : Nat := 250

def read? (m : Mode) (s : String) : Option Pattern := do
  let (p, after) ← readInside (2 * s.toList.length + 2) m ⟨s.toList, []⟩ [] []
  if after.ahead.isEmpty ∧ p.depth ≤ depthLimit ∧ p.content.fits then some p.content else none

end PagedFilter.Pattern
