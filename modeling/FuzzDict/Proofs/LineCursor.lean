import FuzzDict.Text.LineCursor
import FuzzDict.Proofs.Lines
/-!
# The line cursor stops and never aborts

Each call of the line cursor (`nextLine`) finds the text used up and answers `none`, the
text staying empty; or it hands out a line and keeps a strictly shorter text. When a line
break is left, the text shrinks by the line and by the break's one or two bytes, and both
cuts, at the break and after it, fall on character boundaries. When none is left, the whole
text is the last line and nothing stays: that call cuts off no break, so the text shrinks by
the line alone (`last_line_cuts_no_break`). `nextLine_cases` states the three outcomes for
every text.

The whole run follows from one step (`nextLine_splitLines`): each call hands out the first of
the lines of `splitLines` and keeps a text whose lines are the others. So the calls hand out
exactly those lines and then only `none` (`pullLines_splitLines`), and no call aborts
(`pullLines_ok`). `length_lines` counts the lines: one per line break, and one more when the
last line has no break. `lineCursor_stops` gathers these.

All of it rests on `firstLine_cases`: a text is empty, or a line without breaks followed by
one line break (`LineBreak`) and more text, or a last line without a break. The offset at
which a call cuts is that of the first line break character, the position where the
library's `String.find?` stops (`lineEnd?_eq_find?`).
-/

namespace FuzzDict.Text

/-! ## Cutting a text after a prefix -/

/-- The end of a prefix is a character boundary. -/
theorem isValid_prefix_end (a b : String) : (String.Pos.Raw.mk a.utf8ByteSize).IsValid (a ++ b) :=
  String.Pos.Raw.isValid_iff_exists_append.2 ⟨a, b, rfl, rfl⟩

theorem dropBytes_append (a b : String) : dropBytes (a ++ b) a.utf8ByteSize = .ok b := by
  rw [dropBytes, dif_pos (isValid_prefix_end a b)]
  congr 1
  exact String.copy_sliceFrom_eq_iff_exists_splits.2 ⟨a, ⟨rfl, rfl⟩⟩

theorem takeBytes_append (a b : String) : takeBytes (a ++ b) a.utf8ByteSize = .ok a := by
  rw [takeBytes, dif_pos (isValid_prefix_end a b)]
  congr 1
  exact String.copy_sliceTo_eq_iff_exists_splits.2 ⟨b, ⟨rfl, rfl⟩⟩

/-! ## How a text opens -/

/-- `LineBreak brk rest`: `brk` is one line break of a text that goes on with `rest`:
`'\n'`, `"\r\n"`, or a `'\r'` that `rest` does not follow with `'\n'`. -/
inductive LineBreak : List Char → List Char → Prop
  | lf (rest : List Char) : LineBreak ['\n'] rest
  | crlf (rest : List Char) : LineBreak ['\r', '\n'] rest
  | cr {rest : List Char} : rest.head? ≠ some '\n' → LineBreak ['\r'] rest

namespace LineBreak

variable {brk rest : List Char}

theorem ne_nil (isBreak : LineBreak brk rest) : brk ≠ [] := by
  cases isBreak <;> simp

/-- A break takes one or two characters. -/
theorem length_eq (isBreak : LineBreak brk rest) : brk.length = 1 ∨ brk.length = 2 := by
  cases isBreak <;> simp

/-- A break opens with a line break character. -/
theorem exists_cons (isBreak : LineBreak brk rest) :
    ∃ b rest', brk ++ rest = b :: rest' ∧ (b = '\r' ∨ b = '\n') := by
  cases isBreak with
  | lf => exact ⟨_, _, rfl, .inr rfl⟩
  | crlf => exact ⟨_, _, rfl, .inl rfl⟩
  | cr => exact ⟨_, _, rfl, .inl rfl⟩

/-- The characters of a break take a byte each. -/
theorem utf8ByteSize_append (l : List Char) (isBreak : LineBreak brk rest) :
    (String.ofList (l ++ brk)).utf8ByteSize = (String.ofList l).utf8ByteSize + brk.length := by
  rw [String.ofList_append, String.utf8ByteSize_append]
  cases isBreak <;> rfl

end LineBreak

/-- A text is empty, or a line without breaks followed by one line break and more text, or a
last line without a break. A `'\r'` is a break alone unless a `'\n'` follows it; any other
character joins the first line of the text after it. -/
theorem firstLine_cases (cs : List Char) :
    cs = [] ∨
      (∃ l brk r, cs = l ++ brk ++ r ∧ (∀ c ∈ l, c ≠ '\r' ∧ c ≠ '\n') ∧ LineBreak brk r) ∨
      (cs ≠ [] ∧ ∀ c ∈ cs, c ≠ '\r' ∧ c ≠ '\n') := by
  induction cs with
  | nil => exact .inl rfl
  | cons c cs ih =>
    by_cases lf : c = '\n'
    · exact .inr (.inl ⟨[], ['\n'], cs, by simp [lf], by simp, .lf cs⟩)
    by_cases cr : c = '\r'
    · cases cs with
      | nil => exact .inr (.inl ⟨[], ['\r'], [], by simp [cr], by simp, .cr (by simp)⟩)
      | cons d ds =>
        by_cases crlf : d = '\n'
        · exact .inr (.inl ⟨[], ['\r', '\n'], ds, by simp [cr, crlf], by simp, .crlf ds⟩)
        · exact .inr (.inl ⟨[], ['\r'], d :: ds, by simp [cr], by simp, .cr (by simpa using crlf)⟩)
    rcases ih with rfl | ⟨l, brk, r, rfl, plain, isBreak⟩ | ⟨-, plain⟩
    · exact .inr (.inr ⟨by simp, by simp [cr, lf]⟩)
    · refine .inr (.inl ⟨c :: l, brk, r, rfl, ?_, isBreak⟩)
      simpa [cr, lf] using plain
    · exact .inr (.inr ⟨by simp, by simpa [cr, lf] using plain⟩)

/-- The same three ways a string opens. -/
theorem firstLine_cases_string (rest : String) :
    rest = "" ∨
      (∃ l brk r, rest = String.ofList (l ++ brk ++ r) ∧ (∀ c ∈ l, c ≠ '\r' ∧ c ≠ '\n') ∧
        LineBreak brk r) ∨
      (rest ≠ "" ∧ ∀ c ∈ rest.toList, c ≠ '\r' ∧ c ≠ '\n') := by
  rcases firstLine_cases rest.toList with empty | ⟨l, brk, r, cut, plain, isBreak⟩ | ⟨nonempty, plain⟩
  · exact .inl (String.toList_eq_nil_iff.mp empty)
  · exact .inr (.inl ⟨l, brk, r, by rw [← cut, String.ofList_toList], plain, isBreak⟩)
  · exact .inr (.inr ⟨by simpa using nonempty, plain⟩)

theorem lineEnd?_plain {cs : List Char} (plain : ∀ c ∈ cs, c ≠ '\r' ∧ c ≠ '\n') :
    lineEnd? cs = none := by
  induction cs with
  | nil => rfl
  | cons c cs ih =>
    obtain ⟨⟨notCR, notLF⟩, plain⟩ := List.forall_mem_cons.mp plain
    simp [lineEnd?, notCR, notLF, ih plain]

/-- The first break character comes right after the bytes of the line before it. -/
theorem lineEnd?_append_break {l r : List Char} {b : Char}
    (plain : ∀ c ∈ l, c ≠ '\r' ∧ c ≠ '\n') (isBreak : b = '\r' ∨ b = '\n') :
    lineEnd? (l ++ b :: r) = some (String.ofList l).utf8ByteSize := by
  induction l with
  | nil => simp [lineEnd?, isBreak]
  | cons c l ih =>
    obtain ⟨⟨notCR, notLF⟩, plain⟩ := List.forall_mem_cons.mp plain
    simp [lineEnd?, notCR, notLF, ih plain, String.utf8ByteSize_append]

theorem lineEnd?_cut {l brk r : List Char} (plain : ∀ c ∈ l, c ≠ '\r' ∧ c ≠ '\n')
    (isBreak : LineBreak brk r) :
    lineEnd? (l ++ brk ++ r) = some (String.ofList l).utf8ByteSize := by
  obtain ⟨b, r', opens, isCR⟩ := isBreak.exists_cons
  rw [List.append_assoc, opens]
  exact lineEnd?_append_break plain isCR

/-- The first line break character of a text is where the library's search for `'\r'` or
`'\n'` stops. -/
theorem lineEnd?_eq_find? (s : String) :
    lineEnd? s.toList = (s.find? fun c => c == '\r' || c == '\n').map (·.offset.byteIdx) := by
  cases found : s.find? fun c => c == '\r' || c == '\n' with
  | some pos =>
    obtain ⟨t, c, u, splits, isBreak, plain⟩ := String.find?_bool_eq_some_iff_splits.mp found
    have chars : s.toList = t.toList ++ c :: u.toList := by
      simp [splits.eq_append]
    have plain : ∀ d ∈ t.toList, d ≠ '\r' ∧ d ≠ '\n' := fun d mem => by
      simpa using plain d mem
    have isBreak : c = '\r' ∨ c = '\n' := by simpa using isBreak
    rw [chars, lineEnd?_append_break plain isBreak, String.ofList_toList, Option.map_some,
      splits.offset_eq_rawEndPos, String.byteIdx_rawEndPos]
  | none =>
    have noBreak : s.toList.any (fun c => c == '\r' || c == '\n') = false := by
      rw [← String.contains_bool_eq, String.contains_eq_contains_toSlice,
        ← String.Slice.find?_eq_none_iff]
      simpa [String.find?_eq_find?_toSlice] using found
    rw [lineEnd?_plain fun c mem => by simpa using List.any_eq_false.mp noBreak c mem]
    rfl

/-! ## One call of the cursor -/

theorem nextLine_empty : nextLine "" = .ok (none, "") := rfl

/-- Without a break, the whole text is the last line. -/
theorem nextLine_plain {rest : String} (plain : ∀ c ∈ rest.toList, c ≠ '\r' ∧ c ≠ '\n')
    (nonempty : rest ≠ "") : nextLine rest = .ok (some rest, "") := by
  have notEmpty : rest.isEmpty = false := by simpa using nonempty
  simp only [nextLine, notEmpty, lineEnd?_plain plain]
  rfl

theorem breakLen_cut {l brk r : List Char} (isBreak : LineBreak brk r) :
    breakLen (String.ofList (l ++ brk ++ r)) (String.ofList l).utf8ByteSize = .ok brk.length := by
  rw [List.append_assoc, String.ofList_append, breakLen, dropBytes_append]
  simp only [bind, Except.bind, pure, Except.pure, String.toList_ofList]
  cases isBreak with
  | lf => rfl
  | crlf => rfl
  | cr notLF =>
    cases r with
    | nil => rfl
    | cons d ds =>
      have notLF : '\n' ≠ d := fun same => notLF (by simp [← same])
      simp [List.isPrefixOf, notLF]

/-- A line followed by a break is handed out, and reading goes on after the break. -/
theorem nextLine_cut {l brk r : List Char} (plain : ∀ c ∈ l, c ≠ '\r' ∧ c ≠ '\n')
    (isBreak : LineBreak brk r) :
    nextLine (String.ofList (l ++ brk ++ r)) = .ok (some (String.ofList l), String.ofList r) := by
  have notEmpty : (String.ofList (l ++ brk ++ r)).isEmpty = false := by
    simp [isBreak.ne_nil]
  have line : takeBytes (String.ofList (l ++ brk ++ r)) (String.ofList l).utf8ByteSize =
      .ok (String.ofList l) := by
    rw [List.append_assoc, String.ofList_append, takeBytes_append]
  have rest : dropBytes (String.ofList (l ++ brk ++ r))
      ((String.ofList l).utf8ByteSize + brk.length) = .ok (String.ofList r) := by
    rw [← isBreak.utf8ByteSize_append l, String.ofList_append, dropBytes_append]
  simp only [nextLine, notEmpty, String.toList_ofList, lineEnd?_cut plain isBreak,
    breakLen_cut isBreak, line, Bool.false_eq_true, ↓reduceIte, bind, Except.bind, rest]
  rfl

/-- Every call of the cursor does one of three things. It finds the text used up and answers
`none`, leaving it empty. Or it finds a line break at byte offset `stop`, of `len` bytes: `stop`
and `stop + len` are character boundaries, and the text shrinks by the line handed out and the
break. Or it finds no break and hands out the whole text, leaving nothing. -/
theorem nextLine_cases (rest : String) :
    (rest = "" ∧ nextLine rest = .ok (none, "")) ∨
      (∃ stop len line rest', lineEnd? rest.toList = some stop ∧ breakLen rest stop = .ok len ∧
        (len = 1 ∨ len = 2) ∧ (String.Pos.Raw.mk stop).IsValid rest ∧
        (String.Pos.Raw.mk (stop + len)).IsValid rest ∧ nextLine rest = .ok (some line, rest') ∧
        rest.utf8ByteSize = line.utf8ByteSize + len + rest'.utf8ByteSize) ∨
      (rest ≠ "" ∧ lineEnd? rest.toList = none ∧ nextLine rest = .ok (some rest, "")) := by
  rcases firstLine_cases_string rest with rfl | ⟨l, brk, r, rfl, plain, isBreak⟩ | ⟨nonempty, plain⟩
  · exact .inl ⟨rfl, nextLine_empty⟩
  · have atBreak : String.ofList (l ++ brk ++ r) = String.ofList l ++ String.ofList (brk ++ r) := by
      rw [List.append_assoc, String.ofList_append]
    have afterBreak : String.ofList (l ++ brk ++ r) = String.ofList (l ++ brk) ++ String.ofList r :=
      String.ofList_append
    have afterSize := isBreak.utf8ByteSize_append l
    refine .inr (.inl ⟨_, _, _, _, ?_, breakLen_cut isBreak, isBreak.length_eq, ?_, ?_,
      nextLine_cut plain isBreak, ?_⟩)
    · rw [String.toList_ofList, lineEnd?_cut plain isBreak]
    · rw [atBreak]
      exact isValid_prefix_end _ _
    · rw [← afterSize, afterBreak]
      exact isValid_prefix_end _ _
    · rw [afterBreak, String.utf8ByteSize_append, afterSize]
  · exact .inr (.inr ⟨nonempty, lineEnd?_plain plain, nextLine_plain plain nonempty⟩)

/-- A call that hands out the last line of a text without a break cuts off no break: the text
`"a"` shrinks by the line alone, not by the line and one or two bytes more. -/
theorem last_line_cuts_no_break :
    ¬ (("a" = "" ∧ nextLine "a" = .ok (none, "")) ∨
      ∃ line rest' len, nextLine "a" = .ok (some line, rest') ∧ (len = 1 ∨ len = 2) ∧
        "a".utf8ByteSize = line.utf8ByteSize + len + rest'.utf8ByteSize) := by
  have call : nextLine "a" = .ok (some "a", "") := nextLine_plain (by simp) (by decide)
  rintro (⟨empty, -⟩ | ⟨line, rest', len, answer, short, size⟩)
  · exact absurd empty (by decide)
  · rw [call] at answer
    obtain ⟨rfl, rfl⟩ : "a" = line ∧ "" = rest' := by simpa using answer
    have one : ("a" : String).utf8ByteSize = 1 := by decide
    rw [one, String.utf8ByteSize_empty] at size
    omega

/-! ## The whole run -/

theorem lines_cut {l brk r : List Char} (plain : ∀ c ∈ l, c ≠ '\r' ∧ c ≠ '\n')
    (isBreak : LineBreak brk r) : lines (l ++ brk ++ r) = l :: lines r := by
  rw [lines, List.append_assoc, linesFrom_append_plain plain]
  cases isBreak with
  | lf => simp [linesFrom, lines]
  | crlf => simp [linesFrom, lines]
  | cr notLF => simp [linesFrom_cr notLF, lines]

theorem lines_plain {l : List Char} (plain : ∀ c ∈ l, c ≠ '\r' ∧ c ≠ '\n') (nonempty : l ≠ []) :
    lines l = [l] := by
  have read := @linesFrom_append_plain [] l [] plain
  rw [List.append_nil] at read
  simp [lines, read, linesFrom, nonempty]

/-- Each call of the cursor hands out the first line of the text not yet read and keeps the
text whose lines are the others; once no line is left, the text is empty. -/
theorem nextLine_splitLines (rest : String) :
    (rest = "" ∧ nextLine rest = .ok (none, "") ∧ splitLines rest = []) ∨
      ∃ line rest', nextLine rest = .ok (some line, rest') ∧
        splitLines rest = line :: splitLines rest' := by
  rcases firstLine_cases_string rest with rfl | ⟨l, brk, r, rfl, plain, isBreak⟩ | ⟨nonempty, plain⟩
  · exact .inl ⟨rfl, nextLine_empty, rfl⟩
  · refine .inr ⟨_, _, nextLine_cut plain isBreak, ?_⟩
    simp only [splitLines, String.toList_ofList, lines_cut plain isBreak, List.map_cons]
  · refine .inr ⟨_, _, nextLine_plain plain nonempty, ?_⟩
    simp [splitLines, lines_plain plain (by simpa using nonempty)]
    rfl

theorem pullLines_empty (n : Nat) : pullLines n "" = .ok ([], "") := by
  cases n <;> rfl

theorem pullLines_line {n : Nat} {rest line rest' : String}
    (call : nextLine rest = .ok (some line, rest')) :
    pullLines (n + 1) rest = (pullLines n rest').map fun (ls, left) => (line :: ls, left) := by
  simp only [pullLines, call, bind, Except.bind]
  cases pullLines n rest' <;> rfl

/-- As many calls as the text has lines hand out exactly its lines and use the text up;
later calls hand out nothing more. -/
theorem pullLines_splitLines {n : Nat} {rest : String} (enough : (splitLines rest).length ≤ n) :
    pullLines n rest = .ok (splitLines rest, "") := by
  induction n generalizing rest with
  | zero =>
    rcases nextLine_splitLines rest with ⟨rfl, -, -⟩ | ⟨line, rest', -, split⟩
    · rfl
    · simp [split] at enough
  | succ n ih =>
    rcases nextLine_splitLines rest with ⟨rfl, -, -⟩ | ⟨line, rest', call, split⟩
    · exact pullLines_empty _
    · rw [split] at enough ⊢
      rw [pullLines_line call, ih (by simpa using enough)]
      rfl

/-- No number of calls aborts. -/
theorem pullLines_ok (n : Nat) (rest : String) : ∃ ls left, pullLines n rest = .ok (ls, left) := by
  induction n generalizing rest with
  | zero => exact ⟨[], rest, rfl⟩
  | succ n ih =>
    rcases nextLine_splitLines rest with ⟨rfl, -, -⟩ | ⟨line, rest', call, -⟩
    · exact ⟨[], "", pullLines_empty _⟩
    · obtain ⟨ls, left, run⟩ := ih rest'
      exact ⟨line :: ls, left, by rw [pullLines_line call, run]; rfl⟩

/-! ## Counting the lines -/

/-- The line breaks of a text. A `'\n'` ends one, and so does a `'\r'` that no `'\n'`
follows, so `"\r\n"` counts once. -/
def breakCount : List Char → Nat
  | [] => 0
  | c :: cs => (if c = '\n' ∨ (c = '\r' ∧ cs.head? ≠ some '\n') then 1 else 0) + breakCount cs

example : breakCount "a\r\r\nb\n\r".toList = 4 := by decide

theorem breakCount_append_plain {l r : List Char} (plain : ∀ c ∈ l, c ≠ '\r' ∧ c ≠ '\n') :
    breakCount (l ++ r) = breakCount r := by
  induction l with
  | nil => rfl
  | cons c l ih =>
    obtain ⟨⟨notCR, notLF⟩, plain⟩ := List.forall_mem_cons.mp plain
    simp [breakCount, notCR, notLF, ih plain]

theorem breakCount_cut {l brk r : List Char} (plain : ∀ c ∈ l, c ≠ '\r' ∧ c ≠ '\n')
    (isBreak : LineBreak brk r) : breakCount (l ++ brk ++ r) = breakCount r + 1 := by
  rw [List.append_assoc, breakCount_append_plain plain]
  cases isBreak with
  | lf => simp [breakCount]; omega
  | crlf => simp [breakCount]; omega
  | cr notLF => simp [breakCount, notLF]; omega

theorem closingLF_cut (l : List Char) {brk r : List Char} (isBreak : LineBreak brk r) :
    closingLF (l ++ brk ++ r) = closingLF r := by
  cases isBreak with
  | lf => simpa using closingLF_append_break (.inr rfl) l r
  | crlf => simpa using closingLF_append_break (.inr rfl) (l ++ ['\r']) r
  | cr => simpa using closingLF_append_break (.inl rfl) l r

/-- A text has one line per line break, and one more when its last line has no break. The
count goes on with the text after the first break, which is shorter. -/
theorem length_lines (cs : List Char) :
    (lines cs).length = breakCount cs + (closingLF cs).length := by
  rcases firstLine_cases cs with rfl | ⟨l, brk, r, rfl, plain, isBreak⟩ | ⟨nonempty, plain⟩
  · rfl
  · have shorter : r.length < (l ++ brk ++ r).length := by
      have := List.length_pos_iff.mpr isBreak.ne_nil
      simp only [List.length_append]
      omega
    rw [lines_cut plain isBreak, breakCount_cut plain isBreak, closingLF_cut l isBreak,
      List.length_cons, length_lines r]
    omega
  · have noBreaks := @breakCount_append_plain cs [] plain
    rw [List.append_nil] at noBreaks
    rw [lines_plain plain nonempty, noBreaks, closingLF_of_plain plain nonempty]
    rfl
termination_by cs.length

/-! ## The cursor stops -/

/-- Every call of the line cursor either answers `none` on the empty text, which it leaves
empty; or hands out a line cut at a line break of one or two bytes, both cuts falling on
character boundaries and the text shrinking by the line and the break; or hands out the whole
text when no break is left. Called on a text, the cursor hands out its lines and then only
`none`, never aborts, and hands out at most one line more than the text has line breaks. -/
theorem lineCursor_stops (s : String) :
    (∀ rest : String,
      (rest = "" ∧ nextLine rest = .ok (none, "")) ∨
        (∃ stop len line rest', lineEnd? rest.toList = some stop ∧ breakLen rest stop = .ok len ∧
          (len = 1 ∨ len = 2) ∧ (String.Pos.Raw.mk stop).IsValid rest ∧
          (String.Pos.Raw.mk (stop + len)).IsValid rest ∧
          nextLine rest = .ok (some line, rest') ∧
          rest.utf8ByteSize = line.utf8ByteSize + len + rest'.utf8ByteSize) ∨
        (rest ≠ "" ∧ lineEnd? rest.toList = none ∧ nextLine rest = .ok (some rest, ""))) ∧
      (∀ n, (splitLines s).length ≤ n → pullLines n s = .ok (splitLines s, "")) ∧
      (∀ n, ∃ lines left, pullLines n s = .ok (lines, left)) ∧
      (splitLines s).length ≤ breakCount s.toList + 1 := by
  refine ⟨nextLine_cases, fun n enough => pullLines_splitLines enough, fun n => pullLines_ok n s, ?_⟩
  have closing : (closingLF s.toList).length ≤ 1 := by
    unfold closingLF
    split <;> simp
  have count := length_lines s.toList
  simp only [splitLines, List.length_map]
  omega

end FuzzDict.Text
