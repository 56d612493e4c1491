import PagedFilter.Text.Ranges

/-!
The UTF-8 encodings of ranges of characters, as blocks. A block has a range of bytes for each place
and holds every choice of one byte from each of them; the blocks of a range are in order and hold
its encodings, each once.
-/

namespace PagedFilter.Text

/-- A range of bytes for each place. -/
abbrev ByteBlock := List (Nat × Nat)

namespace ByteBlock

/-- Any `n` bytes that continue an encoding. -/
def anyTail (n : Nat) : ByteBlock := List.replicate n (0x80, 0xBF)

/-- The numbers from `low` to `high` as blocks: `n` digits to base 64 after a first one, to which
`offset` is added. -/
def ofNumbers : Nat → Nat → Nat → Nat → List ByteBlock
  | 0, offset, low, high => [[(offset + low, offset + high)]]
  | n + 1, offset, low, high =>
    let unit := 64 ^ (n + 1)
    let a := low / unit
    let b := high / unit
    let after (digit low high : Nat) : List ByteBlock :=
      (ofNumbers n 0x80 low high).map ((offset + digit, offset + digit) :: ·)
    if a = b then after a (low % unit) (high % unit)
    else
      let whole := (low + unit - 1) / unit
      let stop := (high + 1) / unit
      (if low % unit = 0 then [] else after a (low % unit) (unit - 1)) ++
        (if whole < stop then [(offset + whole, offset + stop - 1) :: anyTail (n + 1)] else []) ++
        (if (high + 1) % unit = 0 then [] else after b 0 (high % unit))

/-- The least and the greatest character of an encoding with `n` bytes after the first, and the
offset of its first byte. -/
def shapes : List (Nat × Nat × Nat × Nat) :=
  [(0, 0, 0x7F, 0), (1, 0x80, 0x7FF, 0xC0), (2, 0x800, 0xFFFF, 0xE0), (3, 0x10000, 0x10FFFF, 0xF0)]

def ofRange (r : Nat × Nat) : List ByteBlock :=
  shapes.flatMap fun (n, least, greatest, offset) =>
    let low := max r.1 least
    let high := min r.2 greatest
    if low ≤ high then ofNumbers n offset low high else []

def ofRanges (rs : Ranges) : List ByteBlock := rs.flatMap ofRange

/-- The number of places in front where two blocks agree. -/
def shared : ByteBlock → ByteBlock → Nat
  | r :: rs, s :: ss => if r = s then shared rs ss + 1 else 0
  | _, _ => 0

example :
    ofRange (0x7E, 0x81) = [[(0x7E, 0x7F)], [(0xC2, 0xC2), (0x80, 0x81)]] := by decide

/-- The characters above the surrogates that have three bytes. -/
example :
    ofRange (0xE000, 0xFFFF) = [[(0xEE, 0xEF), (0x80, 0xBF), (0x80, 0xBF)]] := by decide

end ByteBlock

end PagedFilter.Text
