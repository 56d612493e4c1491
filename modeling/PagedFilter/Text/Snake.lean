import PagedFilter.Text.Case
import PagedFilter.Text.Cluster
import PagedFilter.Text.Segments

/-!
Snake case: the words of a name in lower case with underscores between them. Words end at an
underscore, a hyphen or a space, where lower case meets upper case, where letters meet digits, and
before the last capital of an acronym that a lower case letter follows.
-/

namespace PagedFilter.Text

/-- Underscore, hyphen and space stand between words and belong to none. -/
def isDelimiter (g : List Char) : Bool := g == ['_'] || g == ['-'] || g == [' ']

def isNumeral (g : List Char) : Bool := g.all Char.isDigit

/-- Whether a word starts at `g`, with `before` in front of it. -/
def dividesPair (before g : List Char) : Bool :=
  (isLower before && isUpper g) ||
  ((isLower before || isUpper before) && isNumeral g) ||
  (isNumeral before && (isLower g || isUpper g))

/-- Whether the capital `g` starts a word that goes on in lower case after an acronym. -/
def dividesAcronym (before g after : List Char) : Bool :=
  isUpper before && isUpper g && isLower after

/-- Whether a word starts at `g` between its two neighbours. -/
def startsWord (before : Option (List Char)) (g : List Char) (after : Option (List Char)) : Bool :=
  match before with
  | none => false
  | some b => dividesPair b g || after.any (dividesAcronym b g)

/-- Collects words from clusters; `word` is the one under way. -/
def wordsFrom (before : Option (List Char)) (word : List Char) :
    List (List Char) → List (List Char)
  | [] => [word]
  | g :: gs =>
    if isDelimiter g then word :: wordsFrom (some g) [] gs
    else if startsWord before g gs.head? then word :: wordsFrom (some g) g gs
    else wordsFrom (some g) (word ++ g) gs

def words (cs : List Char) : List (List Char) :=
  (wordsFrom none [] (clusters cs)).filter (!·.isEmpty)

/-- One segment of a dotted name in snake case. -/
def snakeSegment (cs : List Char) : List Char := joinSegments '_' ((words cs).map lower)

/-- A dotted name in snake case, each segment by itself. -/
def snake (s : String) : String :=
  String.ofList (joinSegments '.' ((segments '.' s.toList).map snakeSegment))

example : snake "createdAt" = "created_at" := by decide +kernel

example : snake "XMLHttp2Request" = "xml_http_2_request" := by decide +kernel

example : snake "users.createdAt" = "users.created_at" := by decide +kernel

end PagedFilter.Text
