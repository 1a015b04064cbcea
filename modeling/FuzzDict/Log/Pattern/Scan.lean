import FuzzDict.Text.Blank
import FuzzDict.Text.Alphanumeric
/-!
# Reading the pieces of a pattern

A field filter that asks for a value which is not a truth value or a number
gives a pattern, and the filter is refused unless the matcher builds it. This
module reads the small pieces a pattern is made of: the white space and
comments that the `x` flag lets through, escapes after a backslash, counts of
a repetition, the flags of a group and the names of capture groups.

Every reader takes the text still to read and gives back what it read with
the text after it, or `none` when the text is malformed there.
-/

namespace FuzzDict.Log.Pattern

/-- The flags in force at a point of a pattern. A group may change them for
its own body, and a bare `(?flags)` changes them up to the end of the group
that holds it. -/
structure Flags where
  /-- `i`: a letter matches in either case. -/
  caseless : Bool := false
  /-- `u`: the pattern reads characters rather than bytes. -/
  unicode : Bool := true
  /-- `x`: white space and `#` comments between items are ignored. -/
  spaced : Bool := false
  deriving Repr, DecidableEq

/-- Drops white space and comments; inside a comment (`inComment`) up to and
including the end of the line. -/
def skipGap : Bool → List Char → List Char
  | _, [] => []
  | true, c :: rest => skipGap (c ≠ '\n') rest
  | false, c :: rest =>
    if Text.isWhiteSpace c then skipGap false rest
    else if c = '#' then skipGap true rest
    else c :: rest

/-- Skips what the `x` flag ignores, when it is set. -/
def skipSpace (f : Flags) (cs : List Char) : List Char :=
  if f.spaced then skipGap false cs else cs

/-- The next character after white space and one comment mark, as a class
looks ahead past a `-`; the first other character ends the search, even
inside the comment. -/
def peekGap : Bool → List Char → Option Char
  | _, [] => none
  | inComment, c :: rest =>
    if Text.isWhiteSpace c then peekGap inComment rest
    else if !inComment && c = '#' then peekGap true rest
    else some c

/-- The character a class sees after the `-` it stands on, `rest` being the
text after that `-`. When the search runs off the end, it is the character
right after the `-`. -/
def peekSpace (f : Flags) (rest : List Char) : Option Char :=
  if f.spaced then
    match peekGap false rest with
    | some c => some c
    | none => rest.head?
  else rest.head?

/-- What a piece of a pattern stands for. -/
inductive Piece where
  /-- A character; `byte` marks an escape `\x` with two digits, which names a
  byte when the `u` flag is off. -/
  | literal (c : Char) (byte : Bool)
  /-- A Perl class `\d`, `\s` or `\w`, or with a capital letter its complement. -/
  | perl (negated : Bool)
  /-- A word boundary: `\b`, `\B`, `\<`, `\>` or `\b\x7b...\x7d`. -/
  | boundary
  /-- The start or end of the text or of a line. -/
  | anchor
  /-- Any character but a line end: `.`. -/
  | dot
  deriving Repr, DecidableEq

/-- The characters with a meaning in a pattern. -/
def isMeta (c : Char) : Bool :=
  "\\.+*?()|[]\x7b\x7d^$#&-~".toList.contains c

/-- A character that a backslash may make literal: a meta character, or any
other ASCII character that is not a letter, a digit, `<` or `>`. -/
def isEscapable (c : Char) : Bool :=
  isMeta c || (c.toNat < 128 && !c.isAlphanum && c ≠ '<' && c ≠ '>')

/-- Whether a character is a hexadecimal digit. -/
def isHex (c : Char) : Bool :=
  c.isDigit || ('a' ≤ c && c ≤ 'f') || ('A' ≤ c && c ≤ 'F')

/-- The value of a hexadecimal digit. -/
def hexValue (c : Char) : Nat :=
  if c.isDigit then c.toNat - '0'.toNat
  else if 'a' ≤ c && c ≤ 'f' then c.toNat - 'a'.toNat + 10
  else c.toNat - 'A'.toNat + 10

/-- The value of a run of hexadecimal digits. -/
def hexNumber (ds : List Char) : Nat :=
  ds.foldl (fun n d => n * 16 + hexValue d) 0

/-- The character of a code point, when it is one: not a surrogate, not past
`U+10FFFF`. -/
def scalar? (n : Nat) : Option Char :=
  if n < 0xD800 || (0xDFFF < n && n ≤ 0x10FFFF) then some (Char.ofNat n) else none

/-- Reads `n` hexadecimal digits, each followed by what the flags skip. -/
def fixedHex (f : Flags) : Nat → List Char → Option (List Char × List Char)
  | 0, cs => some ([], cs)
  | _ + 1, [] => none
  | n + 1, c :: rest =>
    if isHex c then (fixedHex f n (skipSpace f rest)).map fun (ds, r) => (c :: ds, r)
    else none

/-- Reads hexadecimal digits up to a closing brace; gives the digits and the
text after the brace and what the flags skip there. Each step reads a
character, so `steps` above the length of the text is enough. -/
def bracedHex (f : Flags) : Nat → List Char → Option (List Char × List Char)
  | 0, _ => none
  | _ + 1, [] => none
  | steps + 1, c :: rest =>
    if c = '\x7d' then some ([], skipSpace f rest)
    else if isHex c then (bracedHex f steps (skipSpace f rest)).map fun (ds, r) => (c :: ds, r)
    else none

/-- A code point after `\x`, `\u` or `\U`: between braces, or exactly `width`
digits. Only the two-digit form of `\x` names a byte. -/
def hexEscape (f : Flags) (width : Nat) (cs : List Char) : Option (Piece × List Char) :=
  match skipSpace f cs with
  | [] => none
  | '\x7b' :: rest => do
    let (ds, after) ← bracedHex f (rest.length + 1) (skipSpace f rest)
    if ds.isEmpty then none
    else (scalar? (hexNumber ds)).map fun c => (.literal c false, after)
  | more => do
    let (ds, after) ← fixedHex f width more
    (scalar? (hexNumber ds)).map fun c => (.literal c (width = 2), after)

/-- Letters of a named word boundary such as `\b\x7bstart\x7d`, each followed
by what the flags skip; `steps` above the length of the text is enough. -/
def boundaryName (f : Flags) : Nat → List Char → List Char × List Char
  | 0, cs => ([], cs)
  | _ + 1, [] => ([], [])
  | steps + 1, c :: rest =>
    if c.isAlpha || c = '-' then
      let (name, after) := boundaryName f steps (skipSpace f rest)
      (c :: name, after)
    else ([], c :: rest)

/-- What follows `\b`: a named boundary in braces, or else the plain word
boundary, leaving a brace that does not open a name to be read as a count. -/
def wordBoundary (f : Flags) (cs : List Char) : Option (Piece × List Char) :=
  match cs with
  | '\x7b' :: rest =>
    match skipSpace f rest with
    | [] => none
    | c :: more =>
      if c.isAlpha || c = '-' then
        match boundaryName f (more.length + 2) (c :: more) with
        | (name, '\x7d' :: after) =>
          if ["start", "end", "start-half", "end-half"].contains (String.ofList name) then
            some (.boundary, after)
          else none
        | _ => none
      else some (.boundary, cs)
  | _ => some (.boundary, cs)

/-- Reads an escape after its backslash. A digit would be a back reference,
which the matcher does not have, and `\p` or `\P` asks for a Unicode property,
whose tables the matcher does not have either: both refuse the pattern. -/
def escape (f : Flags) : List Char → Option (Piece × List Char)
  | [] => none
  | c :: rest =>
    if c.isDigit || c = 'p' || c = 'P' then none
    else if c = 'x' then hexEscape f 2 rest
    else if c = 'u' then hexEscape f 4 rest
    else if c = 'U' then hexEscape f 8 rest
    else if "dswDSW".toList.contains c then some (.perl c.isUpper, rest)
    else if isEscapable c then some (.literal c false, rest)
    else if c = 'a' then some (.literal '\x07' false, rest)
    else if c = 'f' then some (.literal '\x0C' false, rest)
    else if c = 't' then some (.literal '\t' false, rest)
    else if c = 'n' then some (.literal '\n' false, rest)
    else if c = 'r' then some (.literal '\r' false, rest)
    else if c = 'v' then some (.literal '\x0B' false, rest)
    else if c = 'A' || c = 'z' then some (.anchor, rest)
    else if c = 'b' then wordBoundary f rest
    else if c = 'B' || c = '<' || c = '>' then some (.boundary, rest)
    else none

/-- Decimal digits, each followed by what the flags skip; `steps` above the
length of the text is enough. -/
def digits (f : Flags) : Nat → List Char → List Char × List Char
  | 0, cs => ([], cs)
  | _ + 1, [] => ([], [])
  | steps + 1, c :: rest =>
    if c.isDigit then
      let (ds, after) := digits f steps (skipSpace f rest)
      (c :: ds, after)
    else ([], c :: rest)

/-- The largest count a repetition may give. -/
def countMax : Nat := 4294967295

/-- A count of a repetition: digits with white space around them, which is
allowed even without the `x` flag. The count must fit in 32 bits. -/
def decimal (f : Flags) (cs : List Char) : Option (Nat × List Char) :=
  let cs := cs.dropWhile Text.isWhiteSpace
  let (ds, rest) := digits f (cs.length + 1) cs
  let n := ds.foldl (fun n d => n * 10 + (d.toNat - '0'.toNat)) 0
  if ds.isEmpty || countMax < n then none
  else some (n, rest.dropWhile Text.isWhiteSpace)

/-- Reads a counted repetition after its `\x7b`: `m`, `m,` or `m,n` with
`m ≤ n`, then the closing brace and an optional `?`. -/
def counted (f : Flags) (cs : List Char) : Option (List Char) := do
  let (lo, rest) ← decimal f (skipSpace f cs)
  let rest ← match rest with
    | ',' :: more =>
      match skipSpace f more with
      | [] => none
      | '\x7d' :: after => some ('\x7d' :: after)
      | after => do
        let (hi, after) ← decimal f after
        if lo ≤ hi then some after else none
    | _ => some rest
  match rest with
  | '\x7d' :: after =>
    match skipSpace f after with
    | '?' :: more => some more
    | more => some more
  | _ => none

/-- Reads the flags of a group after `(?`, up to `:` or `)`: each of `imsUuRx`
at most once, at most one `-`, which may not come last. Gives the flags in
force after them, whether the group closes at once (`)`), and the text after
the closing character. -/
def groupFlags (f : Flags) (cs : List Char) : Option (Flags × Bool × List Char) :=
  match cs.span fun c => c ≠ ':' && c ≠ ')' with
  | (items, close :: after) =>
    let letters := items.filter (· ≠ '-')
    let dashes := items.length - letters.length
    if letters.all "imsUuRx".toList.contains && letters.Nodup && dashes ≤ 1 &&
        items.getLast? ≠ some '-' && !(close = ')' && items.isEmpty) then
      let before := items.takeWhile (· ≠ '-')
      let on (c : Char) (old : Bool) : Bool := if items.contains c then before.contains c else old
      some ({ caseless := on 'i' f.caseless, unicode := on 'u' f.unicode,
              spaced := on 'x' f.spaced }, close = ')', after)
    else none
  | _ => none

/-- Reads a capture group's name after `(?<` or `(?P<`, up to `>`: a letter
or `_`, then letters, digits, `_`, `.`, `[` or `]`. -/
def captureName (cs : List Char) : Option (String × List Char) :=
  match cs.span (· ≠ '>') with
  | (c :: name, '>' :: after) =>
    if (c = '_' || Text.isAlphabetic c) &&
        name.all fun d => d = '_' || d = '.' || d = '[' || d = ']' || Text.isAlphanumeric d then
      some (String.ofList (c :: name), after)
    else none
  | _ => none

example : escape {} ['x', '4', '1'] = some (.literal 'A' true, []) := by decide
example : escape {} ['b', '\x7b', '2', '\x7d'] = some (.boundary, ['\x7b', '2', '\x7d']) := by
  decide
example : counted {} [' ', '2', ',', '3', '\x7d'] = some [] := by decide

end FuzzDict.Log.Pattern
