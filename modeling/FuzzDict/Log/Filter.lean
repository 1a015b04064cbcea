import FuzzDict.Text.Blank
import FuzzDict.Text.Alphanumeric
import FuzzDict.Log.Pattern
/-!
# Log filters

A log record has a level, a target (the module that wrote it) and the names
of its fields. A filter is written as directives separated by commas, empty
ones ignored; if one directive does not read, the whole filter is refused.

A directive is read character by character, after white space is cut from
both of its ends; the positions of these characters are then taken in the
text as given, so that the parts cut out of it are the ones of the given text,
starting at the same offsets. A directive is

* a level or a target, when it opens with a letter, a digit, `-`, `:` or
  `_` and holds no `=` or `[`: it is a bare level when all of it reads as a
  level, and otherwise a target that lets everything through;
* a target, or nothing, followed by a span part in brackets, followed by
  nothing or by `=` and a level;
* a target followed by `=` and a level.

A directive that stops inside its span part, or that is white space alone,
is refused.

A level is a level name (`trace`, `debug`, `info`, `warn`, `error`, `off`, in
any case) or a number from `0` (off) to `5` (trace), with an optional `+`; an
empty level lets everything through. A span part names a span and may list
fields between braces, each a name with an optional `=value`; an empty field
is refused, and so is a value that is neither a truth value, a number nor a
pattern.

A directive that names a span or gives a field a value only applies inside
spans, and no record here is written inside one. The other directives are
rules: a rule covers a record when its target is a prefix of the record's
target and the record has all its fields. The most specific rule that covers
a record decides: a longer target first, then more fields; a later rule with
the same target and fields replaces an earlier one. A record no rule covers
is not written.
-/

namespace FuzzDict.Log

/-- The level of a log record, from the most severe to the least. -/
inductive Level where
  | error
  | warn
  | info
  | debug
  | trace
  deriving Repr, DecidableEq

namespace Level

/-- The verbosity a filter needs to let a record of this level through. -/
def rank : Level → Nat
  | error => 1
  | warn => 2
  | info => 3
  | debug => 4
  | trace => 5

/-- The level as written at the start of a log line, five characters wide. -/
def label : Level → String
  | error => "ERROR"
  | warn => " WARN"
  | info => " INFO"
  | debug => "DEBUG"
  | trace => "TRACE"

end Level

/-- The verbosity named by a level name, in any case. -/
def verbosityOfName? (s : String) : Option Nat :=
  match s.toLower with
  | "off" => some 0
  | "error" => some 1
  | "warn" => some 2
  | "info" => some 3
  | "debug" => some 4
  | "trace" => some 5
  | _ => none

/-- The value of unsigned decimal text with an optional `+`. -/
def unsigned? (cs : List Char) : Option Nat :=
  let digits := match cs with
    | '+' :: rest => rest
    | _ => cs
  if !digits.isEmpty && digits.all Char.isDigit then
    some (digits.foldl (fun n d => n * 10 + (d.toNat - '0'.toNat)) 0)
  else none

/-- The verbosity a level text names: a number up to `5`, or a level name. -/
def verbosity? (s : String) : Option Nat :=
  match unsigned? s.toList with
  | some n => if n ≤ 5 then some n else verbosityOfName? s
  | none => verbosityOfName? s

/-- A rule: records whose target starts with `target` and that have all
`fields` pass up to `verbosity`. -/
structure Rule where
  target : Option String
  fields : List String
  verbosity : Nat
  deriving Repr, DecidableEq

/-- What a directive says. -/
inductive Directive where
  /-- A rule for records outside spans. -/
  | rule (r : Rule)
  /-- A directive that applies only inside spans. -/
  | inSpans
  deriving Repr, DecidableEq

/-- The characters of a text between two byte offsets, when both fall at the
start of a character or at the end of the text. -/
def between? : List Char → Nat → Nat → Option (List Char)
  | cs, 0, hi => prefix? cs hi
  | [], _ + 1, _ => none
  | c :: cs, lo + 1, hi =>
    if c.utf8Size ≤ lo + 1 && c.utf8Size ≤ hi then between? cs (lo + 1 - c.utf8Size) (hi - c.utf8Size)
    else none
where
  /-- The first characters of a text that take exactly `n` bytes. -/
  prefix? : List Char → Nat → Option (List Char)
    | _, 0 => some []
    | [], _ + 1 => none
    | c :: cs, n + 1 =>
      if c.utf8Size ≤ n + 1 then (prefix? cs (n + 1 - c.utf8Size)).map (c :: ·) else none

/-- The number of bytes of a text. -/
def byteCount (cs : List Char) : Nat :=
  cs.foldr (fun c n => c.utf8Size + n) 0

/-- Where the reading of a directive stands; offsets are in bytes. -/
inductive Phase where
  /-- Nothing read yet. -/
  | start
  /-- A level or a target, from `lo`. -/
  | word (lo : Nat)
  /-- A span name, from `lo`. -/
  | span (lo : Nat)
  /-- A field, from `lo`. -/
  | field (lo : Nat)
  /-- After the closing brace of the fields. -/
  | fields
  /-- After the closing bracket of the span part. -/
  | afterSpan
  /-- A level after `=`, from `lo`. -/
  | level (lo : Nat)
  deriving Repr, DecidableEq

/-- The parts of a directive read so far. -/
structure Parts where
  target : Option String := none
  span : Option String := none
  fields : List String := []

/-- Reads one character at offset `i`; `src` is the directive as given. -/
def step (src : List Char) (ps : Parts) : Phase → Nat → Char → Option (Parts × Phase)
  | .start, i, c =>
    if c = '[' then some (ps, .span (i + 1))
    else if Text.isAlphanumeric c || c = '-' || c = ':' || c = '_' then some (ps, .word i)
    else none
  | .word lo, i, c =>
    if c = '=' || c = '[' then
      (between? src lo i).map fun t =>
        ({ ps with target := some (String.ofList t) }, if c = '=' then .level (i + 1) else .span (i + 1))
    else some (ps, .word lo)
  | .span lo, i, c =>
    if c = ']' then
      (between? src lo i).map fun n => ({ ps with span := some (String.ofList n) }, .afterSpan)
    else if c = '\x7b' then
      (between? src lo i).map fun n =>
        ({ ps with span := if n.isEmpty then none else some (String.ofList n) }, .field (i + 1))
    else some (ps, .span lo)
  | .field lo, i, c =>
    if c = '\x7d' || c = ',' then
      match between? src lo i with
      | some (f :: fs) =>
        some ({ ps with fields := ps.fields ++ [String.ofList (f :: fs)] },
          if c = ',' then .field (i + 1) else .fields)
      | _ => none
    else some (ps, .field lo)
  | .fields, _, c => if c = ']' then some (ps, .afterSpan) else none
  | .afterSpan, i, c => if c = '=' then some (ps, .level (i + 1)) else none
  | .level lo, _, c =>
    if c = '[' || c = '\x7b' || c = '\x7d' || c = ']' || c = ',' || c = '=' then none
    else some (ps, .level lo)

/-- Reads the characters of `cs`, the first at offset `i`. -/
def run (src : List Char) : Parts → Phase → Nat → List Char → Option (Parts × Phase)
  | ps, ph, _, [] => some (ps, ph)
  | ps, ph, i, c :: cs => do
    let (ps, ph) ← step src ps ph i c
    run src ps ph (i + c.utf8Size) cs

/-- A field's name, and its value when it gives one after `=`. -/
def fieldParts (f : String) : String × Option String :=
  match f.splitOn "=" with
  | name :: value :: _ => (name, some value)
  | _ => (f, none)

/-- The directive of the parts read and a verbosity. -/
def Parts.close (ps : Parts) (v : Nat) : Option Directive :=
  let fs := ps.fields.map fieldParts
  if fs.any fun f => f.2.any fun value => !Pattern.accepted value then none
  else if ps.span.isSome || fs.any (·.2.isSome) then some .inSpans
  else some (.rule ⟨ps.target, fs.map (·.1), v⟩)

/-- Ends the reading of a directive. -/
def finish (src : List Char) (ps : Parts) : Phase → Option Directive
  | .word lo => do
    let w := String.ofList (← between? src lo (byteCount src))
    match verbosity? w with
    | some v => some (.rule ⟨none, [], v⟩)
    | none => some (.rule ⟨some w, [], 5⟩)
  | .level lo => do
    let t ← between? src lo (byteCount src)
    let v ← if t.isEmpty then some 5 else verbosity? (String.ofList t)
    ps.close v
  | .afterSpan => ps.close 5
  | _ => none

/-- The text without white space at either end. -/
def trim (cs : List Char) : List Char :=
  ((cs.dropWhile Text.isWhiteSpace).reverse.dropWhile Text.isWhiteSpace).reverse

/-- Reads one directive. -/
def Directive.parse? (s : String) : Option Directive := do
  let src := s.toList
  let (ps, ph) ← run src {} .start 0 (trim src)
  finish src ps ph

namespace Rule

/-- The order of rules, most specific first: a longer target (in bytes), then
more fields; ties go by target and fields, later ones first. -/
def order (a b : Rule) : Ordering :=
  let key (r : Rule) := (r.target.map String.utf8ByteSize, r.fields.length)
  match compare (key b).1 (key a).1 with
  | .eq =>
    match compare b.fields.length a.fields.length with
    | .eq =>
      match compare b.target a.target with
      | .eq => compare b.fields a.fields
      | o => o
    | o => o
  | o => o

/-- A rule covers a record when its target starts the record's target and the
record has all the rule's fields. -/
def covers (r : Rule) (target : String) (fields : List String) : Bool :=
  (r.target.all fun t => t.isPrefixOf target) && r.fields.all fields.contains

end Rule

/-- A filter: its rules, most specific first. -/
structure Filter where
  rules : List Rule

namespace Filter

/-- Puts a rule in its place; it replaces a rule with the same target and fields. -/
def insert (r : Rule) : List Rule → List Rule
  | [] => [r]
  | x :: xs =>
    match Rule.order r x with
    | .lt => r :: x :: xs
    | .eq => r :: xs
    | .gt => x :: insert r xs

/-- The filter of a list of directives. -/
def ofDirectives (ds : List Directive) : Filter :=
  ⟨ds.foldl (fun rs d => match d with
    | .rule r => insert r rs
    | .inSpans => rs) []⟩

/-- Reads a filter: comma-separated directives, empty ones ignored. -/
def parse? (spec : String) : Option Filter :=
  (((spec.splitOn ",").filter (· ≠ "")).mapM Directive.parse?).map ofDirectives

/-- The filter that lets warnings and errors through. -/
def warnings : Filter :=
  ⟨[⟨none, [], 2⟩]⟩

/-- The filter set by a directive text, or warnings only when there is none
or it does not read. -/
def ofSpec : Option String → Filter
  | none => warnings
  | some spec => (parse? spec).getD warnings

/-- Whether a record passes: the first rule that covers it decides. -/
def allows (f : Filter) (level : Level) (target : String) (fields : List String) : Bool :=
  match f.rules.find? fun r => r.covers target fields with
  | some r => level.rank ≤ r.verbosity
  | none => false

end Filter

end FuzzDict.Log
