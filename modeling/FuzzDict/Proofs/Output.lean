import FuzzDict.Proofs.EntryText
import FuzzDict.Proofs.Lines
import Mathlib.Data.List.Nodup
/-!
# The output of a dictionary

A dictionary is shown as lines: its entries, then its extra tokens. The line
of an entry is `name=" token "`. Because no extracted name holds a space, the
first space of a line ends its name, so two such lines are equal only for
equal entries.

* `extra_lines_count`: the lines of the extra tokens come last and in order,
  and each of them stands in the output once more than the entries that are
  that very extra entry. So it stands there exactly once unless a directive
  named `extra_token` (in any case) carries the token, as `extra_line_repeated`
  shows it can.
* `writeTo_text_splitLines`: the entries written to a growing byte buffer are
  the bytes of the dictionary's text, that text is the lines each followed by a
  line break, and it cuts back into the same lines when no extra token holds a
  line break.
-/

namespace FuzzDict

open Text

/-! ## Lines of entries -/

namespace Entry

theorem render_toList (e : Entry) :
    e.render.toList = e.name.toList ++ '=' :: '"' :: ' ' :: (e.token.toList ++ [' ', '"']) := by
  simp [render, String.toList_append]

/-- Two entries whose names hold no space have the same line only when they are
the same entry: the first space of a line ends its name. -/
theorem eq_of_render_eq {e e' : Entry} (spaceless : ' ' ∉ e.name.toList)
    (spaceless' : ' ' ∉ e'.name.toList) (same : e.render = e'.render) : e = e' := by
  have chars := congrArg String.toList same
  rw [render_toList, render_toList] at chars
  have firstSpace : ∀ n : Entry, ' ' ∉ n.name.toList →
      (n.name.toList ++ '=' :: '"' :: ' ' :: (n.token.toList ++ [' ', '"'])).idxOf ' ' =
        n.name.toList.length + 2 := by
    intro n spaceless
    rw [List.idxOf_append_of_notMem spaceless]
    simp
  have lengths : e.name.toList.length = e'.name.toList.length := by
    have atFirst := firstSpace e spaceless
    rw [chars, firstSpace e' spaceless'] at atFirst
    omega
  obtain ⟨names, rest⟩ := List.append_inj chars lengths
  have tokens : e.token.toList = e'.token.toList := by
    simpa using rest
  cases e
  cases e'
  simp only [String.toList_inj] at names tokens
  simp [names, tokens]

theorem extraName_spaceless : ' ' ∉ extraName.toList := by decide

theorem extraName_breakless : '\r' ∉ extraName.toList ∧ '\n' ∉ extraName.toList := by decide

theorem extra_injective : Function.Injective extra := by
  intro x y same
  simpa [extra] using same

/-- A line holds a line break only where its name or its token does. -/
theorem render_breakless {e : Entry}
    (plain : ∀ c ∈ e.name.toList ++ e.token.toList, c ≠ '\r' ∧ c ≠ '\n') :
    ∀ c ∈ e.render.toList, c ≠ '\r' ∧ c ≠ '\n' := by
  intro c inLine
  rw [render_toList] at inLine
  simp only [List.mem_append, List.mem_cons, List.not_mem_nil, or_false] at inLine
  rcases inLine with inName | rfl | rfl | rfl | inToken | rfl | rfl
  · exact plain c (List.mem_append_left _ inName)
  · decide
  · decide
  · decide
  · exact plain c (List.mem_append_right _ inToken)
  · decide
  · decide

end Entry

/-! ## The lines of the extra tokens -/

namespace Policy

/-- The line of an extracted entry is the line of an extra token exactly when the
entry is that extra entry: named `extra_token` and carrying the token. -/
theorem render_eq_extra_iff {p : Policy} {lines : List String} {e : Entry}
    (mem : e ∈ (p.extract lines).entries) (x : String) :
    e.render = (Entry.extra x).render ↔ e = Entry.extra x := by
  have spaceless : ' ' ∉ e.name.toList := by
    intro inName
    have blank := not_blank_of_mem_entry mem (.inl inName) (by decide)
    simp [isBlank, isWhiteSpace] at blank
  refine ⟨Entry.eq_of_render_eq spaceless Entry.extraName_spaceless, ?_⟩
  rintro rfl
  rfl

theorem extra_lines_nodup {p : Policy} (distinct : p.extraTokens.Nodup) :
    (p.extraTokens.map fun x => (Entry.extra x).render).Nodup := by
  have injective : Function.Injective fun x => (Entry.extra x).render := by
    intro x y same
    exact Entry.extra_injective
      (Entry.eq_of_render_eq Entry.extraName_spaceless Entry.extraName_spaceless same)
  exact distinct.map injective

/-- The extra lines close the output in order, and each stands there once, and
once more for each entry that is the same extra entry. -/
theorem extra_lines_count (p : Policy) (lines : List String) (distinct : p.extraTokens.Nodup) :
    (p.extract lines).lines =
        (p.extract lines).entries.map Entry.render ++ p.extraTokens.map (fun x => (Entry.extra x).render) ∧
      ∀ x ∈ p.extraTokens,
        (p.extract lines).lines.count (Entry.extra x).render =
          (p.extract lines).entries.count (Entry.extra x) + 1 := by
  have split : (p.extract lines).lines =
      (p.extract lines).entries.map Entry.render ++ p.extraTokens.map (fun x => (Entry.extra x).render) := by
    simp [Dictionary.lines, extract, assemble, List.map_map, Function.comp_def]
  refine ⟨split, ?_⟩
  intro x listed
  have once : (p.extraTokens.map fun x => (Entry.extra x).render).count (Entry.extra x).render = 1 :=
    List.count_eq_one_of_mem (extra_lines_nodup distinct) (List.mem_map_of_mem listed)
  have fromEntries : ((p.extract lines).entries.map Entry.render).count (Entry.extra x).render =
      (p.extract lines).entries.count (Entry.extra x) := by
    rw [List.count_eq_countP, List.countP_map, List.count_eq_countP]
    exact List.countP_congr fun e mem => by simpa using render_eq_extra_iff mem x
  rw [split, List.count_append, once, fromEntries]

theorem extra_lines_count_bison :
    bison.extraTokens.Nodup ∧
      (bison.extract ["%extra_token \x7b"]).lines.count (Entry.extra "\x7b").render =
        (bison.extract ["%extra_token \x7b"]).entries.count (Entry.extra "\x7b") + 1 :=
  ⟨by decide, (extra_lines_count bison ["%extra_token \x7b"] (by decide)).2 "\x7b" (by decide)⟩

/-- A directive named `extra_token` whose entry is an extra token repeats that
token's line. -/
theorem extra_line_repeated :
    (bison.extract ["%extra_token \x7b"]).lines.count (Entry.extra "\x7b").render = 2 := by
  decide +kernel

end Policy

/-! ## The text and its bytes -/

namespace Dictionary

/-- The loop of `writeEntries` over a sink that takes texts one after another
leaves it holding the lines, each followed by a line break. -/
theorem run_forM_sink {σ : Type} (emit : σ → String → σ) (emit_empty : ∀ a, emit a "" = a)
    (emit_append : ∀ a s t, emit (emit a s) t = emit a (s ++ t)) (es : List Entry) (acc : σ) :
    ((forM es fun e => do
        modify (emit · e.render)
        modify (emit · "\n") : StateM σ Unit).run acc).2 =
      emit acc (String.join (es.map fun e => e.render ++ "\n")) := by
  induction es generalizing acc with
  | nil =>
    simp only [List.forM_nil, List.map_nil, String.join_nil, emit_empty]
    rfl
  | cons e es ih =>
    change ((forM es fun e => do
        modify (emit · e.render)
        modify (emit · "\n") : StateM σ Unit).run (emit (emit acc e.render) "\n")).2 = _
    rw [ih, emit_append, emit_append]
    simp [String.append_assoc]

/-- The text of a dictionary is its lines, each followed by a line break. -/
theorem text_eq_join (d : Dictionary) : d.text = String.join (d.lines.map (· ++ "\n")) := by
  rw [text, writeEntries, run_forM_sink (· ++ ·) (fun _ => String.append_empty)
    fun _ _ _ => String.append_assoc]
  simp [lines, List.map_map, Function.comp_def]

end Dictionary

/-- A growing buffer of bytes in memory: a write appends the UTF-8 bytes of
its text, and a flush does nothing. -/
def Buffer.write (s : String) : StateM ByteArray Unit :=
  modify (· ++ s.toUTF8)

def Buffer.flush : StateM ByteArray Unit :=
  pure ()

/-- Writing a dictionary to a buffer appends the bytes of its text; the flush
leaves the bytes as the loop wrote them. -/
theorem Dictionary.writeTo_buffer (d : Dictionary) (start : ByteArray) :
    ((d.writeTo Buffer.write Buffer.flush).run start).2 = start ++ d.text.toUTF8 := by
  change ((forM (d.entries ++ d.extras) fun e => do
      modify (· ++ e.render.toUTF8)
      modify (· ++ "\n".toUTF8) : StateM ByteArray Unit).run start).2 = _
  have emit_empty : ∀ b : ByteArray, b ++ "".toUTF8 = b := fun b => by simp
  have emit_append : ∀ (b : ByteArray) (s t : String), b ++ s.toUTF8 ++ t.toUTF8 = b ++ (s ++ t).toUTF8 :=
    fun b s t => by simp [ByteArray.append_assoc]
  rw [run_forM_sink (fun b s => b ++ s.toUTF8) emit_empty emit_append, text_eq_join]
  simp [lines, List.map_map, Function.comp_def]

/-! ## Reading the text back -/

namespace Policy

/-- No line of an extracted dictionary holds a line break when no extra token
does: a line break is a blank, and extracted entries hold none. -/
theorem lines_breakless {p : Policy} {lines : List String}
    (plainExtras : ∀ x ∈ p.extraTokens, '\r' ∉ x.toList ∧ '\n' ∉ x.toList) :
    ∀ l ∈ (p.extract lines).lines, ∀ c ∈ l.toList, c ≠ '\r' ∧ c ≠ '\n' := by
  intro l listed
  simp only [Dictionary.lines, extract, assemble, List.map_append, List.mem_append, List.mem_map]
    at listed
  rcases listed with ⟨e, mem, rfl⟩ | ⟨e, ⟨x, extra, rfl⟩, rfl⟩
  · apply Entry.render_breakless
    intro c inText
    have noBlank := not_blank_of_mem_entry mem (List.mem_append.mp inText)
    constructor <;> rintro rfl <;> simp [isBlank, isWhiteSpace] at noBlank
  · apply Entry.render_breakless
    intro c inText
    rcases List.mem_append.mp inText with inName | inToken
    · obtain ⟨noCR, noLF⟩ := Entry.extraName_breakless
      exact ⟨fun isCR => noCR (isCR ▸ inName), fun isLF => noLF (isLF ▸ inName)⟩
    · obtain ⟨noCR, noLF⟩ := plainExtras x extra
      exact ⟨fun isCR => noCR (isCR ▸ inToken), fun isLF => noLF (isLF ▸ inToken)⟩

/-- The three ways of showing a dictionary agree: written to a buffer it gives
the bytes of its text, its text is its lines each followed by a line break, and
that text cuts back into the lines unless an extra token holds a line break. -/
theorem writeTo_text_splitLines (p : Policy) (lines : List String) (start : ByteArray) :
    (((p.extract lines).writeTo Buffer.write Buffer.flush).run start).2 =
        start ++ (p.extract lines).text.toUTF8 ∧
      (p.extract lines).text = String.join ((p.extract lines).lines.map (· ++ "\n")) ∧
      ((∀ x ∈ p.extraTokens, '\r' ∉ x.toList ∧ '\n' ∉ x.toList) →
        splitLines (p.extract lines).text = (p.extract lines).lines) := by
  refine ⟨Dictionary.writeTo_buffer _ start, Dictionary.text_eq_join _, ?_⟩
  intro plainExtras
  rw [Dictionary.text_eq_join]
  exact splitLines_join (lines_breakless plainExtras)

theorem splitLines_text_bison :
    (∀ x ∈ bison.extraTokens, '\r' ∉ x.toList ∧ '\n' ∉ x.toList) ∧
      splitLines (bison.extract ["%token A"]).text = (bison.extract ["%token A"]).lines :=
  ⟨by decide, (writeTo_text_splitLines bison ["%token A"] ByteArray.empty).2.2 (by decide)⟩

end Policy

end FuzzDict
