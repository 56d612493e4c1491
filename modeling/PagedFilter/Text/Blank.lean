import PagedFilter.Text.Ranges

/-!
Blank characters: those with the Unicode property `White_Space`.
-/

namespace PagedFilter.Text

def blankRanges : Ranges := [
  (0x9, 0xD), (0x20, 0x20), (0x85, 0x85), (0xA0, 0xA0), (0x1680, 0x1680), (0x2000, 0x200A),
  (0x2028, 0x2029), (0x202F, 0x202F), (0x205F, 0x205F), (0x3000, 0x3000)]

def isBlank (c : Char) : Bool := blankRanges.holds c.toNat

def trimLeft (cs : List Char) : List Char := cs.dropWhile isBlank

def trim (cs : List Char) : List Char := (trimLeft (trimLeft cs).reverse).reverse

theorem trimLeft_trimLeft (cs : List Char) : trimLeft (trimLeft cs) = trimLeft cs := by
  induction cs with
  | nil => rfl
  | cons c cs ih =>
    by_cases h : isBlank c = true
    · simpa [trimLeft, h] using ih
    · simp [trimLeft, h]

end PagedFilter.Text
