/-!
# Lines of a text

A text is cut into lines at every line break, where a break is `"\r\n"`, a
lone `'\r'` or a `'\n'`. A final break does not open an empty last line, so
the empty text has no lines while `"\r"` has one empty line.

`lines` reads the text once from the left, carrying the current line
reversed; each break ends the current line.
-/

namespace FuzzDict.Text

/-- The lines of the text `cs`, when `acc` is the reversed part of the current
line read so far. -/
def linesFrom (acc : List Char) : List Char → List (List Char)
  | [] => if acc.isEmpty then [] else [acc.reverse]
  | '\r' :: '\n' :: cs => acc.reverse :: linesFrom [] cs
  | '\r' :: cs => acc.reverse :: linesFrom [] cs
  | '\n' :: cs => acc.reverse :: linesFrom [] cs
  | c :: cs => linesFrom (c :: acc) cs

/-- The lines of a text, each without its break. -/
def lines (cs : List Char) : List (List Char) :=
  linesFrom [] cs

/-- The lines of a string, as strings. -/
def splitLines (s : String) : List String :=
  (lines s.toList).map String.ofList

example : Text.lines [] = [] := by decide
example : Text.lines ['\r'] = [[]] := by decide
example : Text.lines "a\r\nb\rc\n\nd".toList = ["a".toList, ['b'], ['c'], [], ['d']] := by decide

end FuzzDict.Text
