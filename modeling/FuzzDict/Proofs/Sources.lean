import FuzzDict.Source
/-!
# Grammars and policies from their sources

Bytes given directly give a dictionary exactly when they are the UTF-8
encoding of some text, and then it is the dictionary of that text
(`readBytes_eq_ok_iff`); any other bytes fail as not UTF-8, named `<reader>`
(`readBytes_eq_error_iff`). Both rest on the standard library's UTF-8
check, which reads a sequence as a text exactly when it is that text's encoding
(`decode_eq_some_iff`). It reads the whole sequence before any line is cut, so
bytes after the terminator line count as much as any others.

A grammar file is read as the same bytes given directly, its failures named by
the file's path, and a policy file as its text given inline, likewise renamed
(`Failure.withPath`). `read_sources` gathers these, with the failures of a file
that cannot be read.
-/

namespace FuzzDict

open Text

/-! ## Bytes that encode a text -/

namespace Text.Utf8

/-- The UTF-8 bytes of a string are read back into it. -/
theorem decode_toUTF8 {s : String} {bytes : List UInt8} (encoded : s.toUTF8.data.toList = bytes) :
    decode bytes = some s := by
  have same : (⟨bytes.toArray⟩ : ByteArray) = s.toByteArray := by
    rw [← encoded]
    rfl
  rw [decode, same, String.fromUTF8?, dif_pos s.isValidUTF8]
  rfl

/-- A byte sequence is read as a text exactly when it is that text's UTF-8
encoding. -/
theorem decode_eq_some_iff {bytes : List UInt8} {s : String} :
    decode bytes = some s ↔ s.toUTF8.data.toList = bytes := by
  refine ⟨fun decoded => ?_, decode_toUTF8⟩
  rw [decode, String.fromUTF8?] at decoded
  split at decoded
  · cases decoded
    rfl
  · contradiction

/-- Exactly the byte sequences that encode no text are refused. -/
theorem decode_eq_none_iff {bytes : List UInt8} :
    decode bytes = none ↔ ∀ s : String, s.toUTF8.data.toList ≠ bytes := by
  rw [Option.eq_none_iff_forall_ne_some]
  exact forall_congr' fun s => not_congr decode_eq_some_iff

end Text.Utf8

namespace Failure

/-- The same failure, named by another path. -/
def withPath (path : String) : Failure → Failure
  | grammar _ cause => grammar path cause
  | policy _ cause => policy path cause

end Failure

namespace Policy

/-- Bytes given directly give the dictionary of the text they encode, and only
such bytes give one. -/
theorem readBytes_eq_ok_iff {p : Policy} {bytes : List UInt8} {d : Dictionary} :
    p.readBytes bytes = .ok d ↔
      ∃ s : String, s.toUTF8.data.toList = bytes ∧ d = p.extractText s := by
  simp only [readBytes, readGrammar, extractBytes?]
  cases decoded : Utf8.decode bytes with
  | none =>
    simp only [Option.map_none, reduceCtorEq, false_iff, not_exists, not_and]
    intro s encoded
    exact absurd encoded (Utf8.decode_eq_none_iff.mp decoded s)
  | some text =>
    simp only [Option.map_some, Except.ok.injEq]
    constructor
    · rintro rfl
      exact ⟨text, Utf8.decode_eq_some_iff.mp decoded, rfl⟩
    · rintro ⟨s, encoded, rfl⟩
      rw [Utf8.decode_toUTF8 encoded, Option.some.injEq] at decoded
      rw [decoded]

/-- Bytes given directly fail exactly when they encode no text, and then as
bytes named `<reader>` that are not UTF-8. -/
theorem readBytes_eq_error_iff {p : Policy} {bytes : List UInt8} {f : Failure} :
    p.readBytes bytes = .error f ↔
      (∀ s : String, s.toUTF8.data.toList ≠ bytes) ∧
        f = .grammar Failure.readerPath .invalidUtf8 := by
  rw [← Utf8.decode_eq_none_iff]
  simp only [readBytes, readGrammar, extractBytes?]
  cases Utf8.decode bytes with
  | none => simp [eq_comm]
  | some text => simp

/-- A grammar file whose bytes were read is read as the same bytes given
directly, its failure named by the file's path. -/
theorem readGrammar_ok_eq (p : Policy) (path : String) (bytes : List UInt8) :
    p.readGrammar path (.ok bytes) = (p.readBytes bytes).mapError (·.withPath path) := by
  simp only [readBytes, readGrammar]
  cases p.extractBytes? bytes <;> rfl

/-- A policy file that holds the UTF-8 bytes of a text is the policy of that
text given inline, its failure named by the file's path. -/
theorem ofFile_toUTF8 (path s : String) :
    ofFile path (.ok s.toUTF8.data.toList) =
      (ofText Failure.inlinePath s).mapError (·.withPath path) := by
  simp only [ofFile, Utf8.decode_toUTF8 rfl, ofText]
  cases ofJson s <;> rfl

/-- Grammars and policies from their sources. Bytes given directly give a
dictionary exactly when they are the UTF-8 encoding of a text, and then the
dictionary of that text; otherwise they fail as bytes that are not UTF-8,
named `<reader>`, wherever the ill-formed bytes lie. A grammar file that cannot
be read fails with its path and the cause; one that can is read as the same
bytes given directly, its failure named by its path. A policy file that cannot
be read, or whose bytes are not UTF-8, fails as unreadable with its path;
otherwise it is the policy of its text given inline, its failure named by its
path. -/
theorem read_sources (p : Policy) :
    (∀ bytes d, p.readBytes bytes = .ok d ↔
      ∃ s : String, s.toUTF8.data.toList = bytes ∧ d = p.extractText s) ∧
    (∀ bytes f, p.readBytes bytes = .error f ↔
      (∀ s : String, s.toUTF8.data.toList ≠ bytes) ∧
        f = .grammar Failure.readerPath .invalidUtf8) ∧
    (∀ path e, p.readGrammar path (.error e) = .error (.grammar path e)) ∧
    (∀ path bytes,
      p.readGrammar path (.ok bytes) = (p.readBytes bytes).mapError (·.withPath path)) ∧
    (∀ path e, ofFile path (.error e) = .error (.policy path (.unreadable e))) ∧
    (∀ path bytes, (∀ s : String, s.toUTF8.data.toList ≠ bytes) →
      ofFile path (.ok bytes) = .error (.policy path (.unreadable .invalidUtf8))) ∧
    ∀ path s, ofFile path (.ok s.toUTF8.data.toList) =
      (ofText Failure.inlinePath s).mapError (·.withPath path) := by
  refine ⟨fun _ _ => readBytes_eq_ok_iff, fun _ _ => readBytes_eq_error_iff, fun _ _ => rfl,
    readGrammar_ok_eq p, fun _ _ => rfl, fun path bytes unencoded => ?_, ofFile_toUTF8⟩
  simp only [ofFile, Utf8.decode_eq_none_iff.mpr unencoded]

/-- Bytes that are not UTF-8 after a terminator line: refused as a grammar
given directly and as a policy file. -/
theorem read_sources_after_terminator :
    (∀ s : String, s.toUTF8.data.toList ≠ "%start\n".toUTF8.data.toList ++ [0xFF]) ∧
      bison.readBytes ("%start\n".toUTF8.data.toList ++ [0xFF]) =
        .error (.grammar Failure.readerPath .invalidUtf8) ∧
      ofFile "p.json" (.ok ("%start\n".toUTF8.data.toList ++ [0xFF])) =
        .error (.policy "p.json" (.unreadable .invalidUtf8)) :=
  have unencoded :
      ∀ s : String, s.toUTF8.data.toList ≠ "%start\n".toUTF8.data.toList ++ [0xFF] :=
    Utf8.decode_eq_none_iff.mp (by decide +kernel)
  ⟨unencoded, ((read_sources bison).2.1 _ _).mpr ⟨unencoded, rfl⟩,
    (read_sources bison).2.2.2.2.2.1 "p.json" _ unencoded⟩

end Policy

end FuzzDict
