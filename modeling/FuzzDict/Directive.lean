import FuzzDict.Text.Blank
import FuzzDict.Text.Case.Lower
import FuzzDict.Policy
import FuzzDict.Entry
/-!
# Directives

A directive is a grammar line that opens with the policy's sentinel. Its
words are the maximal runs of non-blank characters: the first is the
directive's name (sentinel included), and the others are its entries. The
keyword is the name without the sentinel.

A directive is classified in this order: it is the terminator when its name is
the policy's terminator; excluded when its name is an excluded name;
suppressed when its name or one of its entries is the suppress marker; and
otherwise its entries are tokens. Each entry that does not open with the
annotation prefix gives a dictionary entry named by the lowercase keyword,
whose token is the entry without its `'` quotes, lowercased.
-/

namespace FuzzDict

open Text

/-- A directive line, cut into words. -/
structure Directive where
  /-- The character the line opens with. -/
  sentinel : Char
  /-- The first word without the sentinel. -/
  keyword : String
  /-- The words after the first. -/
  entries : List String
  deriving Repr, DecidableEq

/-- What a directive contributes to a dictionary. -/
inductive Kind where
  /-- The scan stops here. -/
  | terminator
  /-- The directive's name is excluded. -/
  | excluded
  /-- The line carries the suppress marker. -/
  | suppressed
  /-- The entries are tokens. -/
  | tokens
  deriving Repr, DecidableEq

namespace Directive

/-- The first word of the directive: the sentinel and the keyword. -/
def name (d : Directive) : String :=
  String.ofList (d.sentinel :: d.keyword.toList)

/-- The directive on a line: present when the line opens with `sentinel` and
its first word does too, which fails only when the sentinel is blank. -/
def parse? (sentinel : Char) (line : String) : Option Directive :=
  if line.toList.head? = some sentinel then
    match words line.toList with
    | (c :: keyword) :: entries =>
      if c = sentinel then
        some ⟨sentinel, String.ofList keyword, entries.map String.ofList⟩
      else none
    | _ => none
  else none

/-- The kind of a directive under a policy; the first rule that applies wins. -/
def kind (p : Policy) (d : Directive) : Kind :=
  if d.name = p.terminator then .terminator
  else if p.isExcluded d.name then .excluded
  else if d.name = p.suppressMarker || d.entries.contains p.suppressMarker then .suppressed
  else .tokens

/-- A token as it enters the dictionary: without `'` quotes, lowercased. -/
def normalize (token : String) : String :=
  Case.lowerString (String.ofList (token.toList.filter (· ≠ '\'')))

/-- The dictionary entries that the directive's words give, whatever its kind:
one per entry that does not open with the annotation prefix. -/
def dictEntries (p : Policy) (d : Directive) : List Entry :=
  (d.entries.filter fun e => e.toList.head? ≠ some p.annotationPrefix).map
    fun e => ⟨Case.lowerString d.keyword, normalize e⟩

example : (parse? '%' "%token A 'b'").map (·.entries) = some ["A", "'b'"] := by decide
example : parse? ' ' " token" = none ∧ parse? '%' " %token" = none := by decide
example : normalize "'ΣΑΣ'" = "σας" := by decide +kernel

end Directive

end FuzzDict
