/-!
# Blanks

The characters with the Unicode property `White_Space`, and what is left of a text when the blanks
around or between its words are taken away.

## Main definitions

- `Text.isBlank`: membership in the property.
- `Text.trim`, `Text.trimEnd`: a text without its outer blanks.
- `Text.words`: the maximal runs of other characters.
-/

namespace ControlPlane.Text

/-- Whether a character has the Unicode property `White_Space`. -/
def isBlank (c : Char) : Bool :=
  let n := c.toNat
  (0x09 ≤ n && n ≤ 0x0D) || n == 0x20 || n == 0x85 || n == 0xA0 || n == 0x1680 ||
    (0x2000 ≤ n && n ≤ 0x200A) || n == 0x2028 || n == 0x2029 || n == 0x202F || n == 0x205F ||
    n == 0x3000

/-- A text without the blanks at its start. -/
def trimStart (cs : List Char) : List Char := cs.dropWhile isBlank

/-- A text without the blanks at its end. -/
def trimEnd (cs : List Char) : List Char := (cs.reverse.dropWhile isBlank).reverse

/-- A text without the blanks around it. -/
def trim (cs : List Char) : List Char := trimEnd (trimStart cs)

/-- The words of a text, where `word` is the run before it that is still open, reversed. -/
def wordsFrom : List Char → List Char → List (List Char)
  | word, [] => if word.isEmpty then [] else [word.reverse]
  | word, c :: rest =>
    if isBlank c then
      if word.isEmpty then wordsFrom [] rest else word.reverse :: wordsFrom [] rest
    else wordsFrom (c :: word) rest

/-- The maximal runs of characters that are no blanks, in order. -/
def words (cs : List Char) : List (List Char) := wordsFrom [] cs

/-- A string without the blanks around it. -/
def trimmed (s : String) : String := String.ofList (trim s.toList)

end ControlPlane.Text
