import FuzzDict.Text.Lines
/-!
# Cutting a text back into its lines

Lines without line breaks, each followed by `'\n'` and joined, are cut back
into the same lines: every `'\n'` ends exactly the line before it, and the
final one opens no empty line. `splitLines_join` states this for strings.

More generally, `Joined text ls` says that the text is the lines `ls`, each
ended by any of the three breaks, a lone `'\r'` not followed by `'\n'`, and the
last line possibly unended when it is not empty; `lines_of_joined` reads the
lines back from every such text. The other way round, `flatMap_lines` writes
the lines of any text back, each followed by `'\n'`: that is the text with its
breaks written as `'\n'` and a `'\n'` after an unended last line. Both rest on
one equation per break (`linesFrom_append_plain` and the three `linesFrom`
cases). `splitLines_inverse` states the two for strings.

Cutting into lines also distributes over joining texts, when the first text
stops at a line boundary (`EndsLine`): it is empty, or ends with `'\n'`, or
with a `'\r'` that the second text does not follow with `'\n'`, where the two
would make one break. `splitLines_append` states it for strings.
-/

namespace FuzzDict.Text

/-- A character other than a line break joins the current line. -/
theorem linesFrom_cons_of_ne {acc cs : List Char} {c : Char} (notCR : c ≠ '\r') (notLF : c ≠ '\n') :
    linesFrom acc (c :: cs) = linesFrom (c :: acc) cs := by
  rw [linesFrom] <;> intros <;> simp_all

/-- A line without breaks joins what was carried, and the text is read on after it. -/
theorem linesFrom_append_plain {acc line rest : List Char}
    (plain : ∀ c ∈ line, c ≠ '\r' ∧ c ≠ '\n') :
    linesFrom acc (line ++ rest) = linesFrom (line.reverse ++ acc) rest := by
  induction line generalizing acc with
  | nil => rfl
  | cons c line ih =>
    have ⟨notCR, notLF⟩ := plain c List.mem_cons_self
    rw [List.cons_append, linesFrom_cons_of_ne notCR notLF,
      ih fun d mem => plain d (List.mem_cons_of_mem c mem)]
    simp

/-- A line without breaks followed by `'\n'` is read whole, after what was
carried. -/
theorem linesFrom_append_newline {acc rest line : List Char}
    (plain : ∀ c ∈ line, c ≠ '\r' ∧ c ≠ '\n') :
    linesFrom acc (line ++ '\n' :: rest) = (acc.reverse ++ line) :: linesFrom [] rest := by
  rw [linesFrom_append_plain plain]
  simp [linesFrom]

theorem lines_flatMap_newline {ls : List (List Char)}
    (plain : ∀ l ∈ ls, ∀ c ∈ l, c ≠ '\r' ∧ c ≠ '\n') :
    lines (ls.flatMap (· ++ ['\n'])) = ls := by
  induction ls with
  | nil => rfl
  | cons l ls ih =>
    have first := plain l List.mem_cons_self
    have rest := ih fun l' mem => plain l' (List.mem_cons_of_mem l mem)
    simp only [lines] at rest ⊢
    rw [List.flatMap_cons, List.append_assoc, List.singleton_append, linesFrom_append_newline first,
      rest]
    simp

/-- Strings without line breaks, each followed by `"\n"` and joined, are cut
back into the same strings. -/
theorem splitLines_join {ls : List String}
    (plain : ∀ l ∈ ls, ∀ c ∈ l.toList, c ≠ '\r' ∧ c ≠ '\n') :
    splitLines (String.join (ls.map (· ++ "\n"))) = ls := by
  have chars :
      (String.join (ls.map (· ++ "\n"))).toList = (ls.map String.toList).flatMap (· ++ ['\n']) := by
    simp [String.toList_join, List.flatMap_map, String.toList_append]
  rw [splitLines, chars, lines_flatMap_newline (by simpa using plain)]
  simp

/-! ## Texts with the three breaks -/

/-- A lone `'\r'` ends the current line. -/
theorem linesFrom_cr {acc cs : List Char} (notLF : cs.head? ≠ some '\n') :
    linesFrom acc ('\r' :: cs) = acc.reverse :: linesFrom [] cs := by
  cases cs with
  | nil => rfl
  | cons c cs =>
    have notLF : c ≠ '\n' := by simpa using notLF
    rw [linesFrom]
    simp_all

/-- `Joined text ls`: the text is the lines `ls`, none holding a break, each
followed by `'\n'`, `"\r\n"` or a `'\r'` that no `'\n'` follows; the last line
may go without its break when it is not empty. -/
inductive Joined : List Char → List (List Char) → Prop
  | nil : Joined [] []
  /-- A last line without its break. -/
  | unended {l : List Char} : (∀ c ∈ l, c ≠ '\r' ∧ c ≠ '\n') → l ≠ [] → Joined l [l]
  | lf {l rest : List Char} {ls : List (List Char)} : (∀ c ∈ l, c ≠ '\r' ∧ c ≠ '\n') →
      Joined rest ls → Joined (l ++ '\n' :: rest) (l :: ls)
  | crlf {l rest : List Char} {ls : List (List Char)} : (∀ c ∈ l, c ≠ '\r' ∧ c ≠ '\n') →
      Joined rest ls → Joined (l ++ '\r' :: '\n' :: rest) (l :: ls)
  | cr {l rest : List Char} {ls : List (List Char)} : (∀ c ∈ l, c ≠ '\r' ∧ c ≠ '\n') →
      rest.head? ≠ some '\n' → Joined rest ls → Joined (l ++ '\r' :: rest) (l :: ls)

/-- Lines joined with any of the three breaks are cut back into the same lines. -/
theorem lines_of_joined {cs : List Char} {ls : List (List Char)} (joined : Joined cs ls) :
    lines cs = ls := by
  induction joined with
  | nil => rfl
  | @unended l plain ne =>
    have unended := @linesFrom_append_plain [] l [] plain
    rw [List.append_nil] at unended
    simp [lines, unended, linesFrom, ne]
  | lf plain _ ih => simp [lines, linesFrom_append_plain plain, linesFrom, ← ih]
  | crlf plain _ ih => simp [lines, linesFrom_append_plain plain, linesFrom, ← ih]
  | cr plain notLF _ ih => simp [lines, linesFrom_append_plain plain, linesFrom_cr notLF, ← ih]

/-! ## Writing the lines of a text back -/

/-- The text with each `"\r\n"` replaced by `'\n'`, from the left. -/
def replaceCRLF : List Char → List Char
  | '\r' :: '\n' :: cs => '\n' :: replaceCRLF cs
  | c :: cs => c :: replaceCRLF cs
  | [] => []

/-- A carriage return written as a line feed; other characters stay. -/
def crToLF (c : Char) : Char :=
  if c = '\r' then '\n' else c

/-- The `'\n'` that ends a text whose last line has no break: one when the text
is not empty and ends with neither `'\r'` nor `'\n'`. -/
def closingLF (cs : List Char) : List Char :=
  if cs ≠ [] ∧ cs.getLast? ≠ some '\r' ∧ cs.getLast? ≠ some '\n' then ['\n'] else []

example : (replaceCRLF "a\r\r\nb\n\r".toList).map crToLF = "a\n\nb\n\n".toList := by decide

/-- A character that does not open a `"\r\n"` is kept as it is. -/
theorem replaceCRLF_cons {c : Char} {cs : List Char}
    (single : ¬(c = '\r' ∧ cs.head? = some '\n')) :
    replaceCRLF (c :: cs) = c :: replaceCRLF cs := by
  rw [replaceCRLF]
  intro rest isCR opens
  simp_all

/-- Text after a break decides alone whether a closing `'\n'` is due. -/
theorem closingLF_append_break {b : Char} (isBreak : b = '\r' ∨ b = '\n') (xs cs : List Char) :
    closingLF (xs ++ b :: cs) = closingLF cs := by
  cases cs with
  | nil => rcases isBreak with rfl | rfl <;> simp [closingLF]
  | cons c cs => simp [closingLF, List.getLast?_cons]

theorem closingLF_cons_break {b : Char} (isBreak : b = '\r' ∨ b = '\n') (cs : List Char) :
    closingLF (b :: cs) = closingLF cs := by
  simpa using closingLF_append_break isBreak [] cs

/-- A non-empty line without breaks is closed by a `'\n'`. -/
theorem closingLF_of_plain {line : List Char} (plain : ∀ c ∈ line, c ≠ '\r' ∧ c ≠ '\n')
    (ne : line ≠ []) : closingLF line = ['\n'] := by
  obtain ⟨last, mem⟩ : ∃ c, line.getLast? = some c :=
    Option.isSome_iff_exists.mp (by simpa using ne)
  have ⟨notCR, notLF⟩ := plain last (List.mem_of_getLast? mem)
  simp [closingLF, ne, mem, notCR, notLF]

/-- The lines read on from a carried line, each followed by `'\n'`, are the
carried line and the text with its breaks written as `'\n'`, closed by a `'\n'`
when its last line has no break. -/
theorem flatMap_linesFrom (acc cs : List Char) (plain : ∀ c ∈ acc, c ≠ '\r' ∧ c ≠ '\n') :
    (linesFrom acc cs).flatMap (· ++ ['\n']) =
      acc.reverse ++ (replaceCRLF cs).map crToLF ++ closingLF (acc.reverse ++ cs) := by
  fun_induction linesFrom acc cs with
  | case1 acc empty => simp_all [replaceCRLF, closingLF]
  | case2 acc nonempty =>
    have closed := @closingLF_of_plain acc.reverse (by simpa using plain) (by simpa using nonempty)
    simp [replaceCRLF, closed]
  | case3 acc cs ih =>
    rw [closingLF_append_break (.inl rfl), closingLF_cons_break (.inr rfl)]
    simp [ih (by simp), replaceCRLF, crToLF]
  | case4 acc cs notLF ih =>
    have single : cs.head? ≠ some '\n' := by
      intro opens
      obtain ⟨rest, rfl⟩ := List.head?_eq_some_iff.mp opens
      exact notLF rest rfl
    rw [closingLF_append_break (.inl rfl), replaceCRLF_cons (by simpa using single)]
    simp [ih (by simp), crToLF]
  | case5 acc cs ih =>
    rw [closingLF_append_break (.inr rfl), replaceCRLF_cons (by simp)]
    simp [ih (by simp), crToLF]
  | case6 acc c cs _ notCR notLF ih =>
    have carried : ∀ d ∈ c :: acc, d ≠ '\r' ∧ d ≠ '\n' := fun d mem => by
      rcases List.mem_cons.mp mem with rfl | mem
      · exact ⟨notCR, notLF⟩
      · exact plain d mem
    have kept : crToLF c = c := if_neg notCR
    rw [ih carried, replaceCRLF_cons fun opens => notCR opens.1]
    simp [kept]

/-- The lines of a text, each followed by `'\n'`, give back the text with its
breaks written as `'\n'`, closed by a `'\n'` when its last line has no break. -/
theorem flatMap_lines (cs : List Char) :
    (lines cs).flatMap (· ++ ['\n']) = (replaceCRLF cs).map crToLF ++ closingLF cs := by
  simpa [lines] using flatMap_linesFrom [] cs (by simp)

/-- Cutting a text into lines and ending each line with `"\n"` undo each other:
lines joined with any of the three breaks (the last line possibly unended) are
cut back into the same lines, and the lines of a text, each followed by
`"\n"`, are the text with every `"\r\n"` and then every other `'\r'` written as
`'\n'`, with one `'\n'` more when the text is not empty and ends with no break. -/
theorem splitLines_inverse :
    (∀ (s : String) (ls : List String),
        Joined s.toList (ls.map String.toList) → splitLines s = ls) ∧
      ∀ s : String, String.join ((splitLines s).map (· ++ "\n")) =
        String.ofList ((replaceCRLF s.toList).map crToLF ++ closingLF s.toList) := by
  refine ⟨fun s ls joined => ?_, fun s => String.toList_injective ?_⟩
  · simp [splitLines, lines_of_joined joined, List.map_map]
  · simpa [splitLines, String.toList_join, List.flatMap_map] using flatMap_lines s.toList

/-! ## Texts cut at a line boundary -/

/-- A text read on from the carried line `acc` stops at a line boundary before
`rest`: nothing is carried and nothing is left to read, or the text ends with
`'\n'`, or with a `'\r'` that `rest` does not follow with `'\n'`. -/
def EndsLine (acc cs rest : List Char) : Prop :=
  (acc = [] ∧ cs = []) ∨ cs.getLast? = some '\n' ∨
    (cs.getLast? = some '\r' ∧ rest.head? ≠ some '\n')

/-- What follows the first character of a text that stops at a line boundary
stops there too, with nothing carried. -/
theorem EndsLine.tail {acc cs rest : List Char} {c : Char} (ends : EndsLine acc (c :: cs) rest) :
    EndsLine [] cs rest := by
  cases cs with
  | nil => exact .inl ⟨rfl, rfl⟩
  | cons d ds => simpa [EndsLine, List.getLast?_cons_cons] using ends

/-- A character other than a break joins the carried line, and the text still
stops at the boundary: it cannot end right after that character. -/
theorem EndsLine.carry {acc cs rest : List Char} {c : Char} (notCR : c ≠ '\r')
    (notLF : c ≠ '\n') (ends : EndsLine acc (c :: cs) rest) : EndsLine (c :: acc) cs rest := by
  cases cs with
  | nil => simp_all [EndsLine]
  | cons d ds => simpa [EndsLine, List.getLast?_cons_cons] using ends

/-- A text that stops at a line boundary, read on from a carried line, gives its
own lines and then those of the rest. A lone `'\r'` of the text stays a break of
its own, as neither the text after it nor, when that is empty, the rest opens
with `'\n'`. -/
theorem linesFrom_append_of_endsLine {acc cs rest : List Char} (ends : EndsLine acc cs rest) :
    linesFrom acc (cs ++ rest) = linesFrom acc cs ++ linesFrom [] rest := by
  fun_induction linesFrom acc cs with
  | case1 acc empty => simp [List.isEmpty_iff.mp empty]
  | case2 acc carried => simp_all [EndsLine]
  | case3 acc cs ih => simp [linesFrom, ih ends.tail.tail]
  | case4 acc cs notLF ih =>
    have single : (cs ++ rest).head? ≠ some '\n' := by
      cases cs with
      | nil => simpa [EndsLine] using ends
      | cons d ds => simpa using notLF ds
    rw [List.cons_append, linesFrom_cr single, ih ends.tail]
    rfl
  | case5 acc cs ih => simp [linesFrom, ih ends.tail]
  | case6 acc c cs _ notCR notLF ih =>
    rw [List.cons_append, linesFrom_cons_of_ne notCR notLF, ih (ends.carry notCR notLF)]

/-- Two texts cut into lines apart give the lines of the joined text when the
first is empty or ends with a line break that the second does not extend: a
`'\n'`, or a `'\r'` that the second does not follow with `'\n'`. -/
theorem splitLines_append {a b : String}
    (cut : a = "" ∨ a.toList.getLast? = some '\n' ∨
      (a.toList.getLast? = some '\r' ∧ b.toList.head? ≠ some '\n')) :
    splitLines (a ++ b) = splitLines a ++ splitLines b := by
  have ends : EndsLine [] a.toList b.toList := by
    simpa [EndsLine] using cut
  simp [splitLines, lines, String.toList_append, linesFrom_append_of_endsLine ends]

/-- A lone `'\r'` at the end of the first text and a `"\n..."` second text. -/
theorem splitLines_append_cr :
    splitLines ("x\r\n\ry\r" ++ "z\n") = splitLines "x\r\n\ry\r" ++ splitLines "z\n" :=
  splitLines_append (.inr (.inr ⟨by decide, by decide⟩))

/-- A `'\r'` that ends the first text and a `'\n'` that opens the second make one
break when joined, not two. -/
example : splitLines ("a\r" ++ "\nb") ≠ splitLines "a\r" ++ splitLines "\nb" := by decide

end FuzzDict.Text
