import Mathlib.Data.List.Basic
import PageMap.Color
/-! # Which texts are colors

A color is documented in three forms: a hash sign and three, six or eight hexadecimal digits. What
is accepted is slightly more, as the first of two digits may be a plus sign. The main statement is
`Color.ofHex_exact`: without a plus sign exactly the documented forms are accepted, and with one it
counts as a zero.
-/

namespace PageMap

namespace Text

def lowerDigits : List Char :=
  ['0', '1', '2', '3', '4', '5', '6', '7', '8', '9', 'a', 'b', 'c', 'd', 'e', 'f']

def upperDigits : List Char :=
  ['0', '1', '2', '3', '4', '5', '6', '7', '8', '9', 'A', 'B', 'C', 'D', 'E', 'F']

/-- The digits 0 to 9 and the letters a to f in either case, with their values. -/
def IsHexDigit (c : Char) (n : Nat) : Prop :=
  lowerDigits[n]? = some c ∨ upperDigits[n]? = some c

instance (c : Char) (n : Nat) : Decidable (IsHexDigit c n) :=
  inferInstanceAs (Decidable (_ ∨ _))

theorem IsHexDigit.lt {c : Char} {n : Nat} (digit : IsHexDigit c n) : n < 16 := by
  rcases digit with row | row <;> exact (List.getElem?_eq_some_iff.mp row).1

theorem ascii_of_hexValue? {c : Char} {n : Nat} (value : hexValue? c = some n) : c.toNat < 128 := by
  have bound {last : Char} (le : c ≤ last) : c.toNat ≤ last.toNat := le
  unfold hexValue? at value
  split at value
  case isTrue range => exact Nat.lt_of_le_of_lt (bound range.2) (by decide)
  split at value
  case isTrue range => exact Nat.lt_of_le_of_lt (bound range.2) (by decide)
  split at value
  case isTrue range => exact Nat.lt_of_le_of_lt (bound range.2) (by decide)
  cases value

theorem hexValue?_eq_some {c : Char} {n : Nat} : hexValue? c = some n ↔ IsHexDigit c n := by
  constructor
  · intro value
    have table : ∀ code < 128, ∀ n ∈ hexValue? (Char.ofNat code),
        IsHexDigit (Char.ofNat code) n := by
      decide +kernel
    have entry := table c.toNat (ascii_of_hexValue? value) n
    rw [Char.ofNat_toNat] at entry
    exact entry value
  · intro digit
    have table : ∀ row ∈ [lowerDigits, upperDigits], ∀ n < 16, row[n]?.bind hexValue? = some n := by
      decide +kernel
    have small := digit.lt
    rcases digit with there | there
    · have entry := table lowerDigits (by simp) n small
      rwa [there] at entry
    · have entry := table upperDigits (by simp) n small
      rwa [there] at entry

theorem IsHexDigit.ascii {c : Char} {n : Nat} (digit : IsHexDigit c n) : c.toNat < 128 :=
  ascii_of_hexValue? (hexValue?_eq_some.mpr digit)

end Text

namespace Color

open Text

/-- Two hexadecimal digits and the number that they write. -/
def IsHexPair (high low : Char) (n : Nat) : Prop :=
  ∃ h l, IsHexDigit high h ∧ IsHexDigit low l ∧ n = 16 * h + l

/-- Two hexadecimal digits, or a plus sign and one digit, and the number that they write. -/
def IsSignedPair (high low : Char) (n : Nat) : Prop :=
  IsHexPair high low n ∨ high = '+' ∧ IsHexDigit low n

/-- The forms of a color, where `Pair` tells how two characters write a number. A short form has
    one character for each channel, which is doubled. -/
inductive Form (Pair : Char → Char → Nat → Prop) : List Char → Color → Prop where
  | short {r g b : Char} {red green blue : UInt8} (hr : Pair r r red.toNat)
      (hg : Pair g g green.toNat) (hb : Pair b b blue.toNat) :
      Form Pair ['#', r, g, b] ⟨red, green, blue, 1.0⟩
  | solid {r r' g g' b b' : Char} {red green blue : UInt8} (hr : Pair r r' red.toNat)
      (hg : Pair g g' green.toNat) (hb : Pair b b' blue.toNat) :
      Form Pair ['#', r, r', g, g', b, b'] ⟨red, green, blue, 1.0⟩
  | translucent {a a' r r' g g' b b' : Char} {alpha red green blue : UInt8}
      (ha : Pair a a' alpha.toNat) (hr : Pair r r' red.toNat) (hg : Pair g g' green.toNat)
      (hb : Pair b b' blue.toNat) :
      Form Pair ['#', a, a', r, r', g, g', b, b']
        ⟨red, green, blue, Single.ofNat alpha.toNat / 255.0⟩

/-! ### Pairs -/

theorem IsHexPair.lt {high low : Char} {n : Nat} (pair : IsHexPair high low n) : n < 256 := by
  obtain ⟨h, l, digit, digit', rfl⟩ := pair
  have := digit.lt
  have := digit'.lt
  omega

theorem IsHexPair.not_plus {high low : Char} {n : Nat} (pair : IsHexPair high low n) :
    high ≠ '+' ∧ low ≠ '+' := by
  obtain ⟨h, l, digit, digit', -⟩ := pair
  rw [← hexValue?_eq_some] at digit digit'
  constructor
  · rintro rfl
    cases digit
  · rintro rfl
    cases digit'

theorem isHexPair_iff {high low : Char} {n : Nat} :
    IsHexPair high low n ↔ IsSignedPair high low n ∧ high ≠ '+' := by
  constructor
  · intro pair
    exact ⟨.inl pair, pair.not_plus.1⟩
  · rintro ⟨pair | ⟨plus, -⟩, other⟩
    · exact pair
    · exact absurd plus other

theorem IsSignedPair.lt {high low : Char} {n : Nat} (pair : IsSignedPair high low n) : n < 256 := by
  rcases pair with pair | ⟨-, digit⟩
  · exact pair.lt
  · exact Nat.lt_trans digit.lt (by decide)

theorem IsSignedPair.ascii {high low : Char} {n : Nat} (pair : IsSignedPair high low n) :
    high.toNat < 128 ∧ low.toNat < 128 := by
  rcases pair with ⟨h, l, digit, digit', -⟩ | ⟨rfl, digit⟩
  · exact ⟨digit.ascii, digit'.ascii⟩
  · exact ⟨by decide, digit.ascii⟩

theorem hexByte_eq_ok {channel : Channel} {high low : Char} {byte : UInt8} :
    hexByte channel high low = .ok byte ↔ IsSignedPair high low byte.toNat := by
  have value {n : Nat} (small : n < 256) : n.toUInt8 = byte ↔ n = byte.toNat := by
    rw [← UInt8.toNat_inj]
    simp [Nat.mod_eq_of_lt small]
  have written : hexByte channel high low = .ok byte ↔
      ∃ n, IsSignedPair high low n ∧ n.toUInt8 = byte := by
    simp only [IsSignedPair, IsHexPair, ← hexValue?_eq_some, hexByte, Option.bind_eq_bind]
    by_cases plus : high = '+'
    · subst plus
      cases hexValue? low <;> simp [hexValue?]
    · cases hexValue? high <;> cases hexValue? low <;> simp [plus]
  rw [written]
  constructor
  · rintro ⟨n, pair, reads⟩
    rwa [← (value pair.lt).mp reads]
  · intro pair
    exact ⟨_, pair, (value pair.lt).mpr rfl⟩

/-! ### Forms -/

namespace Form

variable {Pair Other : Char → Char → Nat → Prop} {cs : List Char} {c : Color}

theorem imp (form : Form Pair cs c)
    (pairs : ∀ high ∈ cs, ∀ low ∈ cs, ∀ n, Pair high low n → Other high low n) :
    Form Other cs c := by
  cases form with
  | short hr hg hb =>
      refine .short (pairs _ ?_ _ ?_ _ hr) (pairs _ ?_ _ ?_ _ hg) (pairs _ ?_ _ ?_ _ hb) <;> simp
  | solid hr hg hb =>
      refine .solid (pairs _ ?_ _ ?_ _ hr) (pairs _ ?_ _ ?_ _ hg) (pairs _ ?_ _ ?_ _ hb) <;> simp
  | translucent ha hr hg hb =>
      refine .translucent (pairs _ ?_ _ ?_ _ ha) (pairs _ ?_ _ ?_ _ hr) (pairs _ ?_ _ ?_ _ hg)
        (pairs _ ?_ _ ?_ _ hb) <;> simp

/-- What holds of both characters of every pair holds of all characters behind the hash sign. -/
theorem forall_digits {good : Char → Prop} (form : Form Pair cs c)
    (pairs : ∀ high low n, Pair high low n → good high ∧ good low) :
    ∃ digits, cs = '#' :: digits ∧ ∀ d ∈ digits, good d := by
  cases form with
  | short hr hg hb =>
      exact ⟨_, rfl, by simp [pairs _ _ _ hr, pairs _ _ _ hg, pairs _ _ _ hb]⟩
  | solid hr hg hb =>
      exact ⟨_, rfl, by simp [pairs _ _ _ hr, pairs _ _ _ hg, pairs _ _ _ hb]⟩
  | translucent ha hr hg hb =>
      exact ⟨_, rfl, by simp [pairs _ _ _ ha, pairs _ _ _ hr, pairs _ _ _ hg, pairs _ _ _ hb]⟩

end Form

theorem form_isHexPair_iff {cs : List Char} {c : Color} :
    Form IsHexPair cs c ↔ Form IsSignedPair cs c ∧ '+' ∉ cs := by
  constructor
  · intro form
    refine ⟨form.imp fun _ _ _ _ _ => .inl, ?_⟩
    obtain ⟨digits, rfl, others⟩ := form.forall_digits fun _ _ _ pair => pair.not_plus
    intro plus
    rcases List.mem_cons.mp plus with hash | inside
    · cases hash
    · exact others _ inside rfl
  · rintro ⟨form, noPlus⟩
    refine form.imp fun high member low _ n pair => isHexPair_iff.mpr ⟨pair, ?_⟩
    rintro rfl
    exact noPlus member

theorem bind_eq_ok {ε α β : Type} {x : Except ε α} {f : α → Except ε β} {b : β} :
    (x >>= f) = .ok b ↔ ∃ a, x = .ok a ∧ f a = .ok b := by
  cases x <;> simp [bind, Except.bind]

theorem ofHexDigits_eq_ok {digits : List Char} {c : Color} :
    ofHexDigits digits = .ok c ↔ Form IsSignedPair ('#' :: digits) c := by
  constructor
  · intro ok
    unfold ofHexDigits at ok
    split at ok
    · simp only [bind_eq_ok, hexByte_eq_ok] at ok
      obtain ⟨red, hr, green, hg, blue, hb, ⟨⟩⟩ := ok
      exact .short hr hg hb
    · simp only [bind_eq_ok, hexByte_eq_ok] at ok
      obtain ⟨red, hr, green, hg, blue, hb, ⟨⟩⟩ := ok
      exact .solid hr hg hb
    · simp only [bind_eq_ok, hexByte_eq_ok] at ok
      obtain ⟨alpha, ha, red, hr, green, hg, blue, hb, ⟨⟩⟩ := ok
      exact .translucent ha hr hg hb
    · cases ok
  · intro form
    cases form with
    | short hr hg hb | solid hr hg hb =>
        simp only [ofHexDigits, bind_eq_ok, hexByte_eq_ok]
        exact ⟨_, hr, _, hg, _, hb, rfl⟩
    | translucent ha hr hg hb =>
        simp only [ofHexDigits, bind_eq_ok, hexByte_eq_ok]
        exact ⟨_, ha, _, hr, _, hg, _, hb, rfl⟩

theorem ofHex_eq_ok {text : String} {c : Color} :
    ofHex text = .ok c ↔ Form IsSignedPair (trimBy isBlank text.toList) c := by
  simp only [ofHex]
  generalize trimBy isBlank text.toList = cs
  constructor
  · intro ok
    split at ok
    · split at ok
      · exact ofHexDigits_eq_ok.mp ok
      · cases ok
    · cases ok
  · intro form
    obtain ⟨digits, rfl, ascii⟩ := form.forall_digits fun _ _ _ pair => pair.ascii
    have all : (digits.all fun d => d.toNat < 0x80) = true := by simpa using ascii
    simp only [all, if_true]
    exact ofHexDigits_eq_ok.mpr form

/-- A text is a color in hexadecimal if, without the blanks around it, it is a hash sign and three,
    six or eight hexadecimal digits in either case: each digit doubled is a channel, or each two of
    them are one, after those of the opacity if there are eight. Nothing else is accepted but a plus
    sign in place of the first of two digits. -/
theorem ofHex_exact (text : String) (c : Color) :
    let cs := trimBy isBlank text.toList
    (ofHex text = .ok c ↔ Form IsSignedPair cs c) ∧
      (Form IsHexPair cs c ↔ ofHex text = .ok c ∧ '+' ∉ cs) := by
  intro cs
  refine ⟨ofHex_eq_ok, ?_⟩
  rw [ofHex_eq_ok]
  exact form_isHexPair_iff

/-- A plus sign is accepted though it is no hexadecimal digit. -/
theorem ofHex_plus_sign : ofHex "#+f0000" = .ok (.rgb 15 0 0) ∧
    ¬∃ c, Form IsHexPair (trimBy isBlank "#+f0000".toList) c := by
  constructor
  · rfl
  · rintro ⟨c, form⟩
    exact (form_isHexPair_iff.mp form).2 (by decide)

end Color

end PageMap
