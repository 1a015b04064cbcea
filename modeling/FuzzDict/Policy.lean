/-!
# Extraction policy

A policy says how grammar lines are read into a dictionary: the character
that opens a directive, the directive that ends the scan, the directives
whose words are never tokens, the marker that mutes a whole line, the
character that opens a type annotation (such words are skipped), and the
tokens that every dictionary ends with.

The default policy reads Bison grammars: directives open with `%`, the scan
stops at `%start`, and the declaration directives whose arguments are code,
types or options are excluded.
-/

namespace FuzzDict

/-- How grammar lines are read into a dictionary. -/
structure Policy where
  /-- The character that opens a directive. -/
  sentinel : Char
  /-- The directive name at which the scan stops. -/
  terminator : String
  /-- Directive names whose lines give no tokens. -/
  excluded : List String
  /-- A word that mutes the whole line it stands on. -/
  suppressMarker : String
  /-- Words that open with this character are type annotations, not tokens. -/
  annotationPrefix : Char
  /-- The tokens appended to every dictionary, in order. -/
  extraTokens : List String
  deriving Repr, DecidableEq

namespace Policy

/-- The Bison declarations whose arguments are code, types or options. -/
def bisonExcluded : List String :=
  ["%define", "%locations", "%name-prefix", "%lex-param", "%parse-param", "%initial-action",
    "%\x7b", "%\x7d", "%union", "%destructor", "%type"]

/-- The punctuation that every dictionary carries. -/
def bisonExtras : List String :=
  ["\x7b", "\x7d", ",", "[", "]", ";"]

/-- The policy for Bison grammars. -/
def bison : Policy where
  sentinel := '%'
  terminator := "%start"
  excluded := bisonExcluded
  suppressMarker := "START_PROGRAM;"
  annotationPrefix := '<'
  extraTokens := bisonExtras

/-- A directive name is excluded when it is one of the excluded names exactly,
case included. -/
def isExcluded (p : Policy) (name : String) : Bool :=
  p.excluded.contains name

example : bison.isExcluded "%type" = true ∧ bison.isExcluded "%TYPE" = false := by decide

end Policy

end FuzzDict
