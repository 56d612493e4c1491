import PagedFilter.Text.Mark
import PagedFilter.Text.Printable

/-!
Quoted text in messages. A quote, a backslash and the common controls are escaped by a letter, every
other character that does not print, and every mark, by its code point in braces.
-/

namespace PagedFilter.Text

def hex (n : Nat) : List Char := Nat.toDigits 16 n

/-- The escaped form of a character between quotes. -/
def escape (c : Char) : List Char :=
  if c = '"' then ['\\', '"']
  else if c = '\\' then ['\\', '\\']
  else if c = '\n' then ['\\', 'n']
  else if c = '\t' then ['\\', 't']
  else if c = '\r' then ['\\', 'r']
  else if c = '\x00' then ['\\', '0']
  else if isPrintable c && !isExtender c then [c]
  else '\\' :: 'u' :: '\x7b' :: hex c.toNat ++ ['\x7d']

def quoted (s : String) : String := String.ofList ('"' :: s.toList.flatMap escape ++ ['"'])

example : escape '"' = ['\\', '"'] := rfl

theorem escape_of_printable (c : Char) (h : c ≠ '"' ∧ c ≠ '\\' ∧ c ≠ '\n' ∧ c ≠ '\t' ∧ c ≠ '\r' ∧
    c ≠ '\x00') (hp : (isPrintable c && !isExtender c) = true) : escape c = [c] := by
  simp [escape, h, hp]

end PagedFilter.Text
