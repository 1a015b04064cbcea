/-!
# Lines read with a cursor over bytes

The lines of a text can be read with a cursor: the text not yet read, `rest`, is cut at
the byte offset of its first line break character, the line before the break is handed
out, and reading goes on after the break, one byte further for `'\n'` or a lone `'\r'`
and two for `"\r\n"`. When no break is left, all of `rest` is the last line. `nextLine`
is one call of the cursor and `pullLines` the lines of its first calls, up to the first
that finds the text used up.

Offsets count the bytes of the text's UTF-8 encoding. A cut at an offset that is not a
character boundary, inside a character or past the end, aborts the program: `dropBytes`
and `takeBytes` answer it with a `SlicePanic`.
-/

namespace FuzzDict.Text

/-- A text cut at a byte offset that is not one of its character boundaries. -/
structure SlicePanic where
  /-- The offset of the cut. -/
  offset : Nat
  deriving Repr, DecidableEq

/-- The text from byte offset `i` on. -/
def dropBytes (s : String) (i : Nat) : Except SlicePanic String :=
  if valid : (String.Pos.Raw.mk i).IsValid s then .ok (s.sliceFrom (s.pos ⟨i⟩ valid)).copy
  else .error ⟨i⟩

/-- The text before byte offset `i`. -/
def takeBytes (s : String) (i : Nat) : Except SlicePanic String :=
  if valid : (String.Pos.Raw.mk i).IsValid s then .ok (s.sliceTo (s.pos ⟨i⟩ valid)).copy
  else .error ⟨i⟩

/-- The byte offset of the first line break character, `'\r'` or `'\n'`, of a text. -/
def lineEnd? : List Char → Option Nat
  | [] => none
  | c :: cs => if c = '\r' ∨ c = '\n' then some 0 else (lineEnd? cs).map (c.utf8Size + ·)

/-- The bytes of the line break at byte offset `stop`: two for `"\r\n"`, else one. -/
def breakLen (rest : String) (stop : Nat) : Except SlicePanic Nat := do
  let after ← dropBytes rest stop
  pure (if "\r\n".toList.isPrefixOf after.toList then 2 else 1)

/-- One call of the cursor on the text `rest` not yet read: `none` once it is used up,
else the next line and the text after that line's break. -/
def nextLine (rest : String) : Except SlicePanic (Option String × String) := do
  if rest.isEmpty then return (none, rest)
  match lineEnd? rest.toList with
  | some stop =>
    let len ← breakLen rest stop
    let line ← takeBytes rest stop
    let rest' ← dropBytes rest (stop + len)
    return (some line, rest')
  | none => return (some rest, "")

/-- The lines that the first `n` calls of the cursor hand out, up to the first call that
finds the text used up, and the text left after them. -/
def pullLines : Nat → String → Except SlicePanic (List String × String)
  | 0, rest => pure ([], rest)
  | n + 1, rest => do
    match ← nextLine rest with
    | (some line, rest') =>
      let (lines, left) ← pullLines n rest'
      pure (line :: lines, left)
    | (none, rest') => pure ([], rest')

example : (nextLine "é\r\nb").toOption = some (some "é", "b") := by decide
example : (dropBytes "é" 1).toOption = none := by decide

end FuzzDict.Text
