/-!
# Blank characters and words

A grammar line is cut into words at its blank characters. A blank is a
character with the Unicode `White_Space` property, or one of the four
information separators `U+001C..U+001F`. Zero-width characters such as
`U+200B`, `U+180E` and `U+FEFF` carry no `White_Space` and stay inside words.

`words` keeps the maximal non-empty runs of non-blank characters, in order.
-/

namespace FuzzDict.Text

/-- The characters with the Unicode `White_Space` property. -/
def isWhiteSpace (c : Char) : Bool :=
  let n := c.toNat
  (0x9 ≤ n && n ≤ 0xD) || n == 0x20 || n == 0x85 || n == 0xA0 ||
    n == 0x1680 || (0x2000 ≤ n && n ≤ 0x200A) || n == 0x2028 || n == 0x2029 ||
    n == 0x202F || n == 0x205F || n == 0x3000

/-- The `White_Space` characters of Unicode together with the information
separators `U+001C..U+001F`. -/
def isBlank (c : Char) : Bool :=
  isWhiteSpace c || (0x1C ≤ c.toNat && c.toNat ≤ 0x1F)

/-- A `White_Space` character is blank. -/
theorem isBlank_of_whiteSpace {c : Char} (h : isWhiteSpace c = true) : isBlank c = true := by
  simp [isBlank, h]

/-- The maximal non-empty runs of non-blank characters, in order. -/
def words (cs : List Char) : List (List Char) :=
  (cs.splitOnP isBlank).filter (· ≠ [])

/-- Every ASCII white space character is blank, and so is every character
that core Lean counts as white space. -/
theorem isBlank_of_isWhitespace {c : Char} (h : c.isWhitespace = true) : isBlank c = true := by
  simp only [Char.isWhitespace, Bool.or_eq_true, decide_eq_true_eq] at h
  rcases h with ((h | h) | h) | h <;> subst h <;> decide

example : words "%token  A\tB".toList = ["%token".toList, "A".toList, "B".toList] := by decide
example : isBlank '​' = false ∧ isBlank '　' = true ∧ isBlank '\u001F' = true := by decide
example : isWhiteSpace '\u001F' = false ∧ isWhiteSpace '\u0085' = true := by decide

end FuzzDict.Text
