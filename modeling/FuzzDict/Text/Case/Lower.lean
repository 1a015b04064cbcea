import FuzzDict.Text.Case.Property
import FuzzDict.Text.Case.Mapping
/-!
# Lowercasing a text

The full lowercase of a text maps each character by its own lowercase
mapping, with one rule that looks at the neighbours: a capital sigma `Σ`
becomes the final form `ς` when it ends a word, and `σ` otherwise. It ends a
word when, skipping case-ignorable characters, a cased character comes
before it and none comes after it (the `Final_Sigma` condition of Unicode).
The neighbours are read in the given text, not in its lowercase.

`lowerFrom` walks the text once, keeping the characters already passed in
reverse order, so that the look back is a walk down that list.
-/

namespace FuzzDict.Text.Case

/-- After skipping case-ignorable characters, the next character is cased. -/
def casedAfterIgnorable (cs : List Char) : Bool :=
  match cs.dropWhile isIgnorable with
  | c :: _ => isCased c
  | [] => false

/-- The lowercase of a capital sigma, given the characters before it (nearest
first) and the characters after it. -/
def sigmaLower (before after : List Char) : Char :=
  if casedAfterIgnorable before && !casedAfterIgnorable after then 'ς' else 'σ'

/-- The lowercase of `cs`, when `before` holds the characters that precede it,
nearest first. -/
def lowerFrom (before : List Char) : List Char → List Char
  | [] => []
  | c :: after =>
    (if c = 'Σ' then [sigmaLower before after] else lowerChar c) ++ lowerFrom (c :: before) after

/-- The full lowercase of a text. -/
def lower (cs : List Char) : List Char :=
  lowerFrom [] cs

/-- The full lowercase of a string. -/
def lowerString (s : String) : String :=
  String.ofList (lower s.toList)

example : lowerString "ΣΑΣ" = "σας" := by decide +kernel
example : lowerString "AΣ." = "aς." := by decide +kernel
example : lowerString "Σ" = "σ" ∧ lowerString "AΣB" = "aσb" := by decide +kernel

end FuzzDict.Text.Case
