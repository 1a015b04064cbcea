import FuzzDict.Proofs.EntryText
/-!
# The words of a directive line

`words` cuts a text at its blanks and drops the empty pieces. `Runs cs ws`
says declaratively what it should give: `cs` is blanks, then each word of
`ws` followed by a rest that is empty or opens with a blank, so each word is a
maximal non-empty run of non-blank characters. `words_eq_iff_runs` shows that
`words` gives exactly that list. It rests on one equation for a text cut at a
blank (`words_append_blank_cons`) and on the blanks at the front being dropped.

A directive line is read through its words alone. `parse?_eq_some_iff`
characterises the directive parsed from a line by the line's first character
and its words, so that a line parses exactly when it opens with a sentinel
that is no blank (`parse?_isSome_iff`), and two lines with the same words that
both open with the sentinel or both do not parse alike. A directive written
back with one space between its words parses to itself (`parse?_render`).
`parse?_spec` gathers these statements.
-/

namespace FuzzDict

namespace Text

/-- `ws` are the maximal non-empty runs of non-blank characters of a text, in
order: the text is blanks, then each run followed by a rest that is empty or
opens with a blank. -/
inductive Runs : List Char → List (List Char) → Prop
  /-- A text of blanks has no runs. -/
  | blanks {gap : List Char} : (∀ c ∈ gap, isBlank c = true) → Runs gap []
  /-- Blanks, then a run, then a rest that is empty or opens with a blank. -/
  | run {gap w rest : List Char} {ws : List (List Char)} :
      (∀ c ∈ gap, isBlank c = true) → w ≠ [] → (∀ c ∈ w, isBlank c = false) →
      (∀ c ∈ rest.head?, isBlank c = true) → Runs rest ws →
      Runs (gap ++ w ++ rest) (w :: ws)

/-! ## Words at a blank -/

@[simp] theorem words_nil : words [] = [] := rfl

/-- A word is non-empty and holds no blank. -/
theorem mem_words {cs w : List Char} (mem : w ∈ words cs) :
    w ≠ [] ∧ ∀ c ∈ w, isBlank c = false :=
  ⟨by simpa using (List.mem_filter.mp mem).2, fun _ inw => not_blank_of_mem_words mem inw⟩

/-- A text cut at a blank has the words of both parts. -/
theorem words_append_blank_cons {b : Char} (blank : isBlank b = true) (xs ys : List Char) :
    words (xs ++ b :: ys) = words xs ++ words ys := by
  rw [words, List.splitOnP_append_cons xs ys blank, List.filter_append]
  rfl

theorem words_cons_blank {b : Char} (blank : isBlank b = true) (cs : List Char) :
    words (b :: cs) = words cs := by
  simpa using words_append_blank_cons blank [] cs

/-- Blanks in front of a text add no word. -/
theorem words_blanks_append {gap : List Char} (blanks : ∀ c ∈ gap, isBlank c = true)
    (cs : List Char) : words (gap ++ cs) = words cs := by
  induction gap with
  | nil => rfl
  | cons b gap ih =>
    rw [List.cons_append, words_cons_blank (blanks b List.mem_cons_self)]
    exact ih fun c mem => blanks c (List.mem_cons_of_mem b mem)

/-- A non-empty text without blanks is one word. -/
theorem words_of_not_blank {w : List Char} (ne : w ≠ []) (kept : ∀ c ∈ w, isBlank c = false) :
    words w = [w] := by
  rw [words, List.splitOnP_eq_singleton kept]
  simp [ne]

/-- A word that the text opens with reaches as far as the next blank. -/
theorem words_cons_of_not_blank {c : Char} (kept : isBlank c = false) (cs : List Char) :
    ∃ w ws, words (c :: cs) = (c :: w) :: ws := by
  obtain ⟨w, ws, split⟩ := List.exists_cons_of_ne_nil (List.splitOnP_ne_nil isBlank cs)
  exact ⟨w, ws.filter (· ≠ []),
    by simp [words, List.splitOnP_cons_eq_if_modifyHead, kept, split]⟩

/-! ## Words are the maximal runs -/

/-- Runs give the words: a run ends where the text ends, or at the blank that
opens the rest. -/
theorem words_of_runs {cs : List Char} {ws : List (List Char)} (runs : Runs cs ws) :
    words cs = ws := by
  induction runs with
  | blanks gap => simpa using words_blanks_append gap []
  | @run gap w rest ws gap_blank ne kept after _ ih =>
    rw [List.append_assoc, words_blanks_append gap_blank]
    cases rest with
    | nil => simpa [words_of_not_blank ne kept] using ih
    | cons b rest =>
      have blank : isBlank b = true := after b rfl
      rw [words_append_blank_cons blank, words_of_not_blank ne kept, ← ih,
        words_cons_blank blank]
      rfl

/-- A blank in front of a text joins the blanks before its first run. -/
theorem Runs.cons_blank {b : Char} (blank : isBlank b = true) {cs : List Char}
    {ws : List (List Char)} : Runs cs ws → Runs (b :: cs) ws
  | .blanks gap => .blanks (by simpa [blank] using gap)
  | .run gap ne kept after runs =>
    @Runs.run (b :: _) _ _ _ (by simpa [blank] using gap) ne kept after runs

/-- A non-blank character in front of a text opens its first run, or a run of
its own when the text opens with a blank. -/
theorem Runs.cons_not_blank {c : Char} (kept : isBlank c = false) {cs : List Char}
    {ws : List (List Char)} : Runs cs ws → ∃ ws', Runs (c :: cs) ws'
  | .blanks gap =>
    ⟨[[c]], @Runs.run [] [c] _ [] (by simp) (by simp) (by simpa using kept)
      (fun b mem => gap b (List.mem_of_mem_head? mem)) (.blanks gap)⟩
  | @Runs.run [] w rest ws _ ne wordKept after runs =>
    ⟨(c :: w) :: ws, @Runs.run [] (c :: w) rest ws (by simp) (by simp)
      (by simpa [kept] using wordKept) after runs⟩
  | @Runs.run (b :: gap) w rest ws gapBlank ne wordKept after runs =>
    ⟨[c] :: w :: ws, @Runs.run [] [c] _ _ (by simp) (by simp) (by simpa using kept)
      (by simpa using gapBlank b List.mem_cons_self) (.run gapBlank ne wordKept after runs)⟩

theorem exists_runs (cs : List Char) : ∃ ws, Runs cs ws := by
  induction cs with
  | nil => exact ⟨[], .blanks (by simp)⟩
  | cons c cs ih =>
    obtain ⟨ws, runs⟩ := ih
    cases blank : isBlank c
    · exact runs.cons_not_blank blank
    · exact ⟨ws, runs.cons_blank blank⟩

/-- The words of a text are its maximal non-empty runs of non-blank characters. -/
theorem words_eq_iff_runs {cs : List Char} {ws : List (List Char)} :
    words cs = ws ↔ Runs cs ws := by
  constructor
  · rintro rfl
    obtain ⟨ws, runs⟩ := exists_runs cs
    rwa [words_of_runs runs]
  · exact words_of_runs

/-! ## Words set apart by single spaces -/

/-- Words joined with one space between each two are read back as the same words. -/
theorem words_spaced {w : List Char} {ws : List (List Char)}
    (wellFormed : ∀ v ∈ w :: ws, v ≠ [] ∧ ∀ c ∈ v, isBlank c = false) :
    words (w ++ ws.flatMap (' ' :: ·)) = w :: ws := by
  induction ws generalizing w with
  | nil =>
    have ⟨ne, kept⟩ := wellFormed w List.mem_cons_self
    simpa using words_of_not_blank ne kept
  | cons v ws ih =>
    have ⟨ne, kept⟩ := wellFormed w List.mem_cons_self
    have rest := @ih v fun u mem => wellFormed u (List.mem_cons_of_mem w mem)
    have space : isBlank ' ' = true := by decide
    rw [List.flatMap_cons, List.cons_append, words_append_blank_cons space,
      words_of_not_blank ne kept, rest]
    rfl

end Text

namespace Directive

open Text

/-- A directive written as a line: its name, then each entry after one space. -/
def render (d : Directive) : String :=
  d.name ++ String.join (d.entries.map (" " ++ ·))

theorem toList_name (d : Directive) : d.name.toList = d.sentinel :: d.keyword.toList := by
  simp [name]

theorem toList_render (d : Directive) :
    d.render.toList =
      (d.sentinel :: d.keyword.toList) ++ (d.entries.map String.toList).flatMap (' ' :: ·) := by
  simp [render, toList_name, String.toList_join, List.flatMap_map]

/-! ## Parsing through the words -/

/-- The directive of a line is fixed by the line's first character and its words:
the line opens with the sentinel, and its words are the name and the entries. -/
theorem parse?_eq_some_iff {s : Char} {line : String} {d : Directive} :
    parse? s line = some d ↔
      line.toList.head? = some s ∧ d.sentinel = s ∧
        words line.toList = (s :: d.keyword.toList) :: d.entries.map String.toList := by
  constructor
  · intro parsed
    have ⟨opens, sentinel⟩ : line.toList.head? = some s ∧ d.sentinel = s := by
      unfold parse? at parsed
      split at parsed
      · rename_i opens
        split at parsed
        · split at parsed
          · cases parsed
            exact ⟨opens, rfl⟩
          · cases parsed
        · cases parsed
      · cases parsed
    refine ⟨opens, sentinel, ?_⟩
    rw [words_of_parse? parsed, sentinel]
  · rintro ⟨opens, sentinel, split⟩
    obtain ⟨sentinel', keyword, entries⟩ := d
    cases sentinel
    simp [parse?, opens, split, List.map_map, String.ofList_toList]

/-- A line is a directive exactly when it opens with the sentinel and the
sentinel is no blank. -/
theorem parse?_isSome_iff (s : Char) (line : String) :
    (parse? s line).isSome ↔ line.toList.head? = some s ∧ isBlank s = false := by
  constructor
  · intro isSome
    obtain ⟨d, parsed⟩ := Option.isSome_iff_exists.mp isSome
    obtain ⟨opens, -, split⟩ := parse?_eq_some_iff.mp parsed
    have first : s :: d.keyword.toList ∈ words line.toList := by
      rw [split]
      exact List.mem_cons_self
    exact ⟨opens, (mem_words first).2 s List.mem_cons_self⟩
  · rintro ⟨opens, kept⟩
    obtain ⟨cs, split⟩ := List.head?_eq_some_iff.mp opens
    obtain ⟨w, ws, first⟩ := words_cons_of_not_blank kept cs
    have parsed : parse? s line = some ⟨s, String.ofList w, ws.map String.ofList⟩ := by
      rw [parse?_eq_some_iff, split, first]
      simp [String.toList_ofList, List.map_map]
    simp [parsed]

/-- Two lines with the same words, both opening with the sentinel or neither,
parse alike. -/
theorem parse?_congr {s : Char} {line line' : String}
    (opens : line.toList.head? = some s ↔ line'.toList.head? = some s)
    (same : words line.toList = words line'.toList) : parse? s line = parse? s line' := by
  apply Option.ext
  intro d
  rw [parse?_eq_some_iff, parse?_eq_some_iff, opens, same]

/-- A parsed directive, written back with single spaces, parses to itself. -/
theorem parse?_render {s : Char} {line : String} {d : Directive} (parsed : parse? s line = some d) :
    parse? s d.render = some d := by
  obtain ⟨-, sentinel, split⟩ := parse?_eq_some_iff.mp parsed
  have wellFormed : ∀ v ∈ (s :: d.keyword.toList) :: d.entries.map String.toList,
      v ≠ [] ∧ ∀ c ∈ v, isBlank c = false := by
    rw [← split]
    exact fun v mem => mem_words mem
  rw [parse?_eq_some_iff, toList_render, sentinel]
  exact ⟨rfl, rfl, words_spaced wellFormed⟩

/-- A line is a directive exactly when it opens with a sentinel that is no
blank. Then its maximal runs of non-blank characters are the directive's name,
which opens with the sentinel and goes on with the keyword, and its entries;
the directive written back with single spaces parses to itself. Lines with the
same words parse alike when both open with the sentinel or neither does. -/
theorem parse?_spec (s : Char) (line : String) :
    ((parse? s line).isSome ↔ line.toList.head? = some s ∧ isBlank s = false) ∧
      (∀ d, parse? s line = some d →
        Runs line.toList (d.name.toList :: d.entries.map String.toList) ∧
          d.name.toList = s :: d.keyword.toList ∧ parse? s d.render = some d) ∧
      (∀ line' : String, (line.toList.head? = some s ↔ line'.toList.head? = some s) →
        words line.toList = words line'.toList → parse? s line = parse? s line') := by
  refine ⟨parse?_isSome_iff s line, fun d parsed => ?_,
    fun _ opens same => parse?_congr opens same⟩
  obtain ⟨-, sentinel, split⟩ := parse?_eq_some_iff.mp parsed
  have named : d.name.toList = s :: d.keyword.toList := by rw [toList_name, sentinel]
  refine ⟨?_, named, parse?_render parsed⟩
  rw [named, ← split]
  exact words_eq_iff_runs.mp rfl

end Directive

end FuzzDict
