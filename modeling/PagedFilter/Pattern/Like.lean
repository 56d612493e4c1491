import PagedFilter.Pattern.Reader

/-!
Patterns of the `like` comparison: `%` stands for any run of characters, `_` for one character, a
backslash makes the next character literal, and a pattern covers the whole text.
-/

namespace PagedFilter.Like

inductive Part where
  | anyRun
  | anyOne
  | literal (c : Char)
  deriving DecidableEq, Repr

/-- The parts of a pattern; a backslash at the end stands for nothing. -/
def parts : List Char → List Part
  | [] => []
  | '%' :: cs => .anyRun :: parts cs
  | '_' :: cs => .anyOne :: parts cs
  | ['\\'] => []
  | '\\' :: c :: cs => .literal c :: parts cs
  | c :: cs => .literal c :: parts cs

/-- One part as a pattern, its letters without regard to case if asked for. -/
def Part.pattern (ignoreCase : Bool) : Part → Pattern
  | anyRun => .rep (.one .any) 0 none
  | anyOne => .one .any
  | literal c => .one (if ignoreCase then (CharSet.single c).fold else .single c)

/-- The parts one after the other, up to the end of the text. -/
def tail (ignoreCase : Bool) : List Part → Pattern
  | [] => .anchor .textEnd
  | p :: rest => .seq (p.pattern ignoreCase) (tail ignoreCase rest)

def pattern (operand : String) (ignoreCase : Bool) : Pattern :=
  .seq (.anchor .textStart) (tail ignoreCase (parts operand.toList))

/-! ### Patterns as text -/

/-- A character with a backslash in front if it would have a meaning of its own. -/
def escaped (c : Char) : List Char := if Pattern.isMeta c then ['\\', c] else [c]

def Part.written : Part → List Char
  | anyRun => ['.', '*']
  | anyOne => ['.']
  | literal c => escaped c

/-- The pattern of an operand as it is handed to the reader of patterns. -/
def written (operand : String) : String :=
  String.ofList ('^' :: (parts operand.toList).flatMap Part.written ++ ['$'])

/-- The modes that it is read in: the dot stands for the line feed too. -/
def mode (ignoreCase : Bool) : Pattern.Mode := ⟨ignoreCase, false, true, false⟩

/-- Whether an operand makes a pattern that is small enough to be used. -/
def fits (operand : String) (ignoreCase : Bool) : Bool := (pattern operand ignoreCase).fits

example : (pattern "J%n" false).isMatch "John" = true := by decide +kernel

example : (pattern "50\\%" false).isMatch "50%" = true := by decide +kernel

example : (pattern "j_HN" true).isMatch "John" = true := by decide +kernel

example : (pattern "oh" false).isMatch "John" = false := by decide +kernel

end PagedFilter.Like
