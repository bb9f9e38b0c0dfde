/-! # Blank characters

`isBlank` is the Unicode `White_Space` property: the ASCII tab, line feed, vertical tab,
form feed, carriage return and space, next line (U+0085), no-break space (U+00A0), the
Ogham space mark, the spaces U+2000 to U+200A, the line and paragraph separators, the
narrow no-break space, the medium mathematical space and the ideographic space.
`trim` removes blanks from both ends of a text.
-/

namespace Workflow.Text

/-- Whether a character has the Unicode `White_Space` property. -/
def isBlank (c : Char) : Bool :=
  let n := c.toNat
  (0x09 ≤ n && n ≤ 0x0D) || n == 0x20 || n == 0x85 || n == 0xA0 || n == 0x1680 ||
    (0x2000 ≤ n && n ≤ 0x200A) || n == 0x2028 || n == 0x2029 || n == 0x202F ||
    n == 0x205F || n == 0x3000

/-- Every character that core counts as whitespace is blank. -/
theorem isBlank_of_isWhitespace (c : Char) (h : c.isWhitespace = true) : isBlank c = true := by
  unfold Char.isWhitespace at h
  simp only [Bool.or_eq_true, decide_eq_true_eq] at h
  rcases h with ((h | h) | h) | h <;> subst h <;> decide

/-- Blanks removed from the front of a list of characters. -/
def dropBlank (cs : List Char) : List Char := cs.dropWhile isBlank

/-- Blanks removed from both ends of a list of characters. -/
def trimList (cs : List Char) : List Char := (dropBlank (dropBlank cs).reverse).reverse

/-- Blanks removed from both ends of a text. -/
def trim (s : String) : String := String.ofList (trimList s.toList)

/-- Blanks removed from the front of a text. -/
def trimStart (s : String) : String := String.ofList (dropBlank s.toList)

/-- Blanks removed from the end of a text. -/
def trimEnd (s : String) : String := String.ofList (dropBlank s.toList.reverse).reverse

end Workflow.Text
