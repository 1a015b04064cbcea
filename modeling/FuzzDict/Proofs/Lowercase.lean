import FuzzDict.Text.Case.Lower
/-!
# What lowercasing can produce

Every character that the lowercase mapping produces from another character
lies at `a` (`U+0061`) or above: the shifts of the table all land there, the
two characters of `U+0130` lie there, and so do both small sigmas. So a
character below `a` in the lowercase of a text, such as a space, a quote or a
line break, already stands in the text itself. Lowercasing never makes a
blank or a line break out of a word.

Every character that lowercasing produces is also its own lowercase
(`lowerChar_of_mem_lowerChar`): no shift moves a character to where a shift
moves characters, nor to `U+0130`, which `lowerShifts_clear` checks once over
the table, range against range. A lowercased text holds no capital sigma
either, so lowercasing it again changes nothing (`lowerString_lowerString`).
-/

namespace FuzzDict.Text.Case

/-- Every code point the shift moves a character to is that of a character,
from `a` upward. -/
def Shift.Lands (s : Shift) : Prop :=
  0x61 ≤ (s.lo : Int) + s.delta ∧
    ((s.hi : Int) + s.delta < 0xD800 ∨ (0xDFFF < (s.lo : Int) + s.delta ∧ (s.hi : Int) + s.delta < 0x110000))

instance (s : Shift) : Decidable s.Lands := inferInstanceAs (Decidable (_ ∧ _))

theorem lowerShifts_land : ∀ s ∈ lowerShifts, s.Lands := by decide +kernel

theorem Shift.image?_lands {s : Shift} {n m : Nat} (lands : s.Lands) (moved : s.image? n = some m) :
    0x61 ≤ m ∧ m.isValidChar := by
  unfold image? at moved
  split at moved
  · cases moved
    unfold Nat.isValidChar
    obtain ⟨low, valid⟩ := lands
    omega
  · cases moved

theorem toNat_ofNat_of_valid {n : Nat} (valid : n.isValidChar) : (Char.ofNat n).toNat = n := by
  rw [Char.ofNat, dif_pos valid]
  rfl

/-- A character whose one-to-one lowercase lies below `a` is its own lowercase. -/
theorem lowerSimple_of_lt {c : Char} (low : (lowerSimple c).toNat < 0x61) : lowerSimple c = c := by
  unfold lowerSimple at low ⊢
  split
  · rename_i n found
    obtain ⟨s, mem, moved⟩ := List.exists_of_findSome?_eq_some found
    obtain ⟨high, valid⟩ := Shift.image?_lands (lowerShifts_land s mem) moved
    rw [found, toNat_ofNat_of_valid valid] at low
    omega
  · rfl

theorem eq_of_mem_lowerChar {c d : Char} (mem : d ∈ lowerChar c) (low : d.toNat < 0x61) : d = c := by
  unfold lowerChar at mem
  split at mem
  · simp only [List.mem_cons, List.not_mem_nil, or_false] at mem
    rcases mem with rfl | rfl <;> simp at low
  · simp only [List.mem_singleton] at mem
    subst mem
    exact lowerSimple_of_lt low

/-- A character below `a` in the lowercase of `cs` stands in `cs`, whatever
precedes it: both small sigmas lie above `a`. -/
theorem mem_of_mem_lowerFrom {before cs : List Char} {d : Char} (mem : d ∈ lowerFrom before cs)
    (low : d.toNat < 0x61) : d ∈ cs := by
  induction cs generalizing before with
  | nil => simp [lowerFrom] at mem
  | cons c after ih =>
    simp only [lowerFrom, List.mem_append] at mem
    rcases mem with here | later
    · split at here
      · simp only [sigmaLower, List.mem_singleton] at here
        split at here <;> subst here <;> simp at low
      · simp [eq_of_mem_lowerChar here low]
    · exact List.mem_cons_of_mem c (ih later)

theorem mem_of_mem_lowerString {s : String} {d : Char} (mem : d ∈ (lowerString s).toList)
    (low : d.toNat < 0x61) : d ∈ s.toList := by
  simp only [lowerString, String.toList_ofList, lower] at mem
  exact mem_of_mem_lowerFrom mem low

example : ' ' ∉ (lowerString "İKΣ ").toList.dropLast := by decide +kernel

/-! ## Lowercase characters are their own lowercase -/

namespace Shift

/-- The lowest code point the shift moves a character to. -/
def imageLo (s : Shift) : Nat := ((s.lo : Int) + s.delta).toNat

/-- The highest code point the shift moves a character to. -/
def imageHi (s : Shift) : Nat := ((s.hi : Int) + s.delta).toNat

/-- No character that `s` moves lands where `t` moves characters: the ranges are
apart, or each character of `s` is looked at. -/
def clearOf (s t : Shift) : Bool :=
  Nat.blt s.imageHi t.lo || Nat.blt t.hi s.imageLo ||
    (List.range' s.lo (s.hi + 1 - s.lo)).all fun n => (s.image? n).all fun m => (t.image? m).isNone

/-- The shift that covers `n` alone and leaves it in place. -/
def point (n : Nat) : Shift := ⟨n, n, 1, 0⟩

theorem image?_bounds {s : Shift} {n m : Nat} (moved : s.image? n = some m) :
    s.lo ≤ n ∧ n ≤ s.hi ∧ s.imageLo ≤ m ∧ m ≤ s.imageHi := by
  unfold image? at moved
  split at moved
  · cases moved
    rename_i covered
    refine ⟨covered.1, covered.2.1, ?_, ?_⟩
    · unfold imageLo
      omega
    · unfold imageHi
      omega
  · cases moved

theorem image?_eq_none_of_outside {t : Shift} {m : Nat} (outside : m < t.lo ∨ t.hi < m) :
    t.image? m = none := by
  unfold image?
  rw [if_neg (by omega)]

theorem image?_point {n m : Nat} : (point n).image? m = none ↔ m ≠ n := by
  unfold image? point
  split <;> simp_all <;> omega

/-- What `clearOf` checks: no character moved by `s` lands where `t` moves one. -/
theorem clearOf_sound {s t : Shift} (clear : s.clearOf t = true) {n m : Nat}
    (moved : s.image? n = some m) : t.image? m = none := by
  obtain ⟨lo, hi, imageLo, imageHi⟩ := image?_bounds moved
  unfold clearOf at clear
  simp only [Bool.or_eq_true, Nat.blt_eq, List.all_eq_true, List.mem_range'_1] at clear
  rcases clear with (apart | apart) | looked
  · exact image?_eq_none_of_outside (.inl (by omega))
  · exact image?_eq_none_of_outside (.inr (by omega))
  · simpa [moved] using looked n ⟨lo, by omega⟩

end Shift

/-- No character that the table moves lands where the table moves one, or on
`U+0130`, the one character that lowercases to two. -/
theorem lowerShifts_clear :
    (lowerShifts.all fun s => s.clearOf (.point 0x130) && lowerShifts.all s.clearOf) = true := by
  decide +kernel

/-- A character that no shift covers is its own one-to-one lowercase. -/
theorem lowerSimple_of_uncovered {c : Char}
    (uncovered : ∀ t ∈ lowerShifts, t.image? c.toNat = none) :
    lowerSimple c = c := by
  unfold lowerSimple
  rw [List.findSome?_eq_none_iff.mpr uncovered]

/-- The lowercase of a character is its own lowercase: a shifted character lands
where no shift moves one, and not on `U+0130`. -/
theorem lowerChar_of_mem_lowerChar {c d : Char} (mem : d ∈ lowerChar c) : lowerChar d = [d] := by
  unfold lowerChar at mem
  split at mem
  · simp only [List.mem_cons, List.not_mem_nil, or_false] at mem
    rcases mem with rfl | rfl <;> decide
  · rename_i notDotted
    rw [List.mem_singleton.mp mem]
    unfold lowerSimple
    split
    · rename_i n found
      obtain ⟨s, mem, moved⟩ := List.exists_of_findSome?_eq_some found
      obtain ⟨-, valid⟩ := Shift.image?_lands (lowerShifts_land s mem) moved
      have clear := List.all_eq_true.mp lowerShifts_clear s mem
      simp only [Bool.and_eq_true, List.all_eq_true] at clear
      have toNat := toNat_ofNat_of_valid valid
      have landed : (Char.ofNat n).toNat ≠ 0x130 := by
        rw [toNat]
        exact Shift.image?_point.mp (Shift.clearOf_sound clear.1 moved)
      have notDotted' : Char.ofNat n ≠ 'İ' := fun h => landed (by rw [h]; rfl)
      unfold lowerChar
      rw [if_neg notDotted', lowerSimple_of_uncovered fun t mem' => by
        rw [toNat]
        exact Shift.clearOf_sound (clear.2 t mem') moved]
    · rename_i uncovered
      unfold lowerChar lowerSimple
      rw [if_neg notDotted, uncovered]

/-- Every character of the lowercase of a text is its own lowercase. -/
theorem lowerChar_of_mem_lowerFrom {before cs : List Char} {d : Char}
    (mem : d ∈ lowerFrom before cs) :
    lowerChar d = [d] := by
  induction cs generalizing before with
  | nil => simp [lowerFrom] at mem
  | cons c after ih =>
    simp only [lowerFrom, List.mem_append] at mem
    rcases mem with here | later
    · split at here
      · simp only [sigmaLower, List.mem_singleton] at here
        split at here <;> subst here <;> decide
      · exact lowerChar_of_mem_lowerChar here
    · exact ih later

/-- A text whose characters are their own lowercase is its own lowercase: it
holds no capital sigma, whose lowercase is a small one. -/
theorem lowerFrom_of_lowered {before cs : List Char} (lowered : ∀ d ∈ cs, lowerChar d = [d]) :
    lowerFrom before cs = cs := by
  induction cs generalizing before with
  | nil => rfl
  | cons c after ih =>
    have own := lowered c List.mem_cons_self
    have notSigma : c ≠ 'Σ' := by
      rintro rfl
      exact absurd own (by decide)
    rw [lowerFrom, if_neg notSigma, own, ih fun d mem => lowered d (List.mem_cons_of_mem c mem)]
    rfl

theorem lower_lower (cs : List Char) : lower (lower cs) = lower cs :=
  lowerFrom_of_lowered fun _ mem => lowerChar_of_mem_lowerFrom mem

theorem lowerChar_of_mem_lowerString {s : String} {d : Char} (mem : d ∈ (lowerString s).toList) :
    lowerChar d = [d] := by
  simp only [lowerString, String.toList_ofList, lower] at mem
  exact lowerChar_of_mem_lowerFrom mem

/-- Lowercasing twice is lowercasing once. -/
theorem lowerString_lowerString (s : String) : lowerString (lowerString s) = lowerString s := by
  simp only [lowerString, String.toList_ofList, lower_lower]

/-- An ASCII capital is not its own lowercase: the first shift of the table moves it. -/
theorem isUpper_eq_false_of_lowered {c : Char} (own : lowerChar c = [c]) : c.isUpper = false := by
  cases upper : c.isUpper with
  | false => rfl
  | true =>
    have range : 0x41 ≤ c.toNat ∧ c.toNat ≤ 0x5A := by
      have compared := of_decide_eq_true upper
      simp only [ge_iff_le, UInt32.le_iff_toNat_le] at compared
      exact compared
    have notDotted : c ≠ 'İ' := fun h => by rw [h] at range; simp at range
    have first : lowerShifts = ⟨0x41, 0x5A, 1, 32⟩ :: lowerShifts.tail := rfl
    have covered : (⟨0x41, 0x5A, 1, 32⟩ : Shift).image? c.toNat = some (c.toNat + 32) := by
      unfold Shift.image?
      dsimp only
      rw [if_pos (by omega)]
      congr 1
    have moved : (lowerSimple c).toNat = c.toNat + 32 := by
      unfold lowerSimple
      rw [first, List.findSome?_cons, covered]
      exact toNat_ofNat_of_valid (by unfold Nat.isValidChar; omega)
    rw [lowerChar, if_neg notDotted, List.cons.injEq] at own
    rw [own.1] at moved
    omega

end FuzzDict.Text.Case
