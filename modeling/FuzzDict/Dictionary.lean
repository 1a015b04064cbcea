import FuzzDict.Entry
/-!
# Dictionaries

A dictionary holds the entries taken from the grammar, in file order, the
policy's extra tokens after them, and a tally of the lines that the scan
read. Its text is one line per entry, entries first and extras last, each
line ended by `'\n'`; the text and the output to a stream are written by the
same loop over the entries.
-/

namespace FuzzDict

/-- What the scan of a grammar met. -/
structure Tally where
  /-- Lines read, the terminator line included. -/
  lines : Nat := 0
  /-- Lines that are directives. -/
  directives : Nat := 0
  /-- Directives with an excluded name. -/
  excluded : Nat := 0
  /-- Directives muted by the suppress marker. -/
  suppressed : Nat := 0
  /-- The scan stopped at the terminator. -/
  terminated : Bool := false
  deriving Repr, DecidableEq

/-- A fuzzer dictionary with the tally of the scan that built it. -/
structure Dictionary where
  entries : List Entry
  extras : List Entry
  tally : Tally
  deriving Repr, DecidableEq

namespace Dictionary

/-- The lines of the dictionary: the entries, then the extras. -/
def lines (d : Dictionary) : List String :=
  (d.entries ++ d.extras).map Entry.render

/-- Writes the entries, then the extras, through `write`: each entry's line and
then a line break, stopping at the first write that fails. Both the text of a
dictionary and its output to a stream are written this way. -/
def writeEntries {m : Type → Type} [Monad m] (write : String → m Unit) (d : Dictionary) : m Unit :=
  forM (d.entries ++ d.extras) fun e => do
    write e.render
    write "\n"

/-- The text of the dictionary: its entries written into a text that starts
empty. -/
def text (d : Dictionary) : String :=
  ((d.writeEntries fun s => modify (· ++ s) : StateM String Unit).run "").2

/-- Writes the dictionary to a stream: its entries, then a flush. -/
def writeTo {m : Type → Type} [Monad m] (write : String → m Unit) (flush : m Unit) (d : Dictionary) :
    m Unit := do
  d.writeEntries write
  flush

example : text ⟨[⟨"token", "a"⟩], [Entry.extra ";"], {}⟩ = "token=\" a \"\nextra_token=\" ; \"\n" := by
  decide

end Dictionary

end FuzzDict
