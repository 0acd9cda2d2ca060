import PageMap.Text.Case
/-! # ASCII in lowercase

The lowercase form of a character is an ASCII character in two ways only: ASCII goes to ASCII, and
the Kelvin sign goes to `k`.
-/

namespace PageMap.Text

/-- The sign of the unit Kelvin, which looks like the letter. -/
def kelvinSign : Char := '\u212a'

theorem lowerChar_ascii {c : Char} (ascii : c.toNat < 0x80) : lowerChar c = [c.toLower] :=
  if_pos ascii

theorem toLower_of_high {c : Char} (high : ¬c.toNat < 0x80) : c.toLower = c := by
  apply dif_neg
  rintro ⟨-, low⟩
  exact high (Nat.lt_of_le_of_lt (UInt32.le_iff_toNat_le.mp low) (by decide))

/-- No other run leads back to ASCII. -/
theorem lowerRuns_high : ∀ run ∈ CaseTable.lowerRuns, 0x80 ≤ run.last →
    run.first = 0x212a ∧ run.last = 0x212a ∨ 0x80 ≤ (run.first : Int) + run.shift := by
  decide +kernel

/-- The character of a code is one of that code, or the null character where there is none. -/
theorem toNat_ofNat_cases (n : Nat) : (Char.ofNat n).toNat = n ∨ (Char.ofNat n).toNat = 0 := by
  by_cases valid : n.isValidChar
  · exact .inl (congrArg Char.toNat (dif_pos valid))
  · exact .inr (congrArg Char.toNat (dif_neg valid))

theorem eq_kelvinSign_of_lowerChar {c w : Char} (high : ¬c.toNat < 0x80)
    (lower : lowerChar c = [w]) (ascii : w.toNat < 0x80) (visible : w.toNat ≠ 0) :
    c = kelvinSign := by
  rw [lowerChar, if_neg high, mapCase] at lower
  split at lower
  case h_1 images special =>
    -- the one special mapping gives two characters
    rw [CaseTable.lowerSpecial, List.lookup_cons] at special
    split at special
    · obtain rfl := Option.some.inj special
      cases lower
    · cases special
  case h_2 =>
    split at lower
    case h_1 image found =>
      obtain ⟨run, member, reached⟩ := Array.exists_of_findSome?_eq_some found
      rw [CaseRun.image?] at reached
      split at reached
      case isTrue inside =>
        obtain rfl := Option.some.inj reached
        obtain ⟨rfl, -⟩ := List.cons.inj lower
        have written := toNat_ofNat_cases ((c.toNat : Int) + run.shift).toNat
        rcases lowerRuns_high run member (by omega) with ⟨first, last⟩ | far
        · exact Char.toNat_inj.mp (show c.toNat = 0x212a by omega)
        · omega
      case isFalse => cases reached
    case h_2 =>
      obtain ⟨rfl, -⟩ := List.cons.inj lower
      exact absurd ascii high

theorem lowerChar_eq_singleton {c w : Char} (ascii : w.toNat < 0x80) (visible : w.toNat ≠ 0) :
    lowerChar c = [w] ↔ c.toLower = w ∨ c = kelvinSign ∧ w = 'k' := by
  have kelvin : lowerChar kelvinSign = ['k'] := by decide +kernel
  by_cases low : c.toNat < 0x80
  · have other : c ≠ kelvinSign := by
      rintro rfl
      exact absurd low (by decide)
    rw [lowerChar_ascii low]
    simp [other]
  · rw [toLower_of_high low]
    constructor
    · intro lower
      obtain rfl := eq_kelvinSign_of_lowerChar low lower ascii visible
      exact .inr ⟨rfl, (List.cons.inj (lower.symm.trans kelvin)).1⟩
    · rintro (rfl | ⟨rfl, rfl⟩)
      · exact absurd ascii low
      · exact kelvin

end PageMap.Text
