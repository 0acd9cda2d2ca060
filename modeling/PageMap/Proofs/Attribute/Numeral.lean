import Mathlib
import PageMap.Proofs.Attribute.Keyword
import PageMap.Proofs.Floats
import PageMap.Proofs.NumberFormat.Digits
/-! # Which texts numeric attributes accept

A numeral is an optional sign, digits with an optional point among or around them, and an optional
exponent. Reading takes the longest beginning of a text that is a numeral and gives up on an
exponent without digits. What follows a numeral in an attribute, space or a unit, never makes it
longer.
-/

namespace PageMap

/-! ### Numerals -/

/-- Digits, at least one. -/
structure DigitRun where
  chars : List Char
  nonempty : chars ≠ []
  isDigits : ∀ c ∈ chars, c.isDigit = true

/-- Digits with a point behind them, among them, in front of them or nowhere. -/
inductive Mantissa where
  | whole (digits : DigitRun)
  | pointBehind (digits : DigitRun)
  | pointAmong (digits fraction : DigitRun)
  | pointInFront (fraction : DigitRun)

inductive Sign where
  | plus
  | minus
  deriving DecidableEq

structure Exponent where
  mark : Char
  isMark : mark = 'e' ∨ mark = 'E'
  sign : Option Sign
  digits : DigitRun

/-- A number as it is written. -/
structure Numeral where
  sign : Option Sign
  mantissa : Mantissa
  exponent : Option Exponent

def DigitRun.value (r : DigitRun) : ℕ :=
  digitsValue r.chars

/-- The value of digits behind a point. -/
def DigitRun.fraction (r : DigitRun) : ℚ :=
  r.value / 10 ^ r.chars.length

def Mantissa.chars : Mantissa → List Char
  | .whole digits => digits.chars
  | .pointBehind digits => digits.chars ++ ['.']
  | .pointAmong digits fraction => digits.chars ++ '.' :: fraction.chars
  | .pointInFront fraction => '.' :: fraction.chars

def Mantissa.value : Mantissa → ℚ
  | .whole digits | .pointBehind digits => digits.value
  | .pointAmong digits fraction => digits.value + fraction.fraction
  | .pointInFront fraction => fraction.fraction

def Sign.chars : Option Sign → List Char
  | none => []
  | some .plus => ['+']
  | some .minus => ['-']

def Exponent.chars (e : Exponent) : List Char :=
  e.mark :: (Sign.chars e.sign ++ e.digits.chars)

def Exponent.value (e : Exponent) : ℤ :=
  if e.sign = some .minus then -e.digits.value else e.digits.value

namespace Numeral

def exponentChars (n : Numeral) : List Char :=
  match n.exponent with
  | none => []
  | some e => e.chars

def exponentValue (n : Numeral) : ℤ :=
  match n.exponent with
  | none => 0
  | some e => e.value

def chars (n : Numeral) : List Char :=
  Sign.chars n.sign ++ (n.mantissa.chars ++ n.exponentChars)

def negative (n : Numeral) : Bool :=
  n.sign = some .minus

/-- The value without its sign. -/
def size (n : Numeral) : ℚ :=
  n.mantissa.value * 10 ^ n.exponentValue

end Numeral

/-! ### Their decimals -/

/-- The digits on both sides of the point. -/
def Mantissa.parts : Mantissa → List Char × List Char
  | .whole digits | .pointBehind digits => (digits.chars, [])
  | .pointAmong digits fraction => (digits.chars, fraction.chars)
  | .pointInFront fraction => ([], fraction.chars)

theorem digitsValue_append (digits more : List Char) :
    digitsValue (digits ++ more) = digitsValue digits * 10 ^ more.length + digitsValue more := by
  induction more using List.reverseRecOn with
  | nil => simp [digitsValue]
  | append_singleton more c ih =>
      rw [← List.append_assoc, digitsValue_append_singleton, ih, digitsValue_append_singleton,
        List.length_append, List.length_singleton, pow_succ]
      ring

theorem Mantissa.value_eq (m : Mantissa) :
    m.value = digitsValue (m.parts.1 ++ m.parts.2) / 10 ^ m.parts.2.length := by
  have power (k : ℕ) : (10 : ℚ) ^ k ≠ 0 := pow_ne_zero k (by norm_num)
  cases m with
  | whole digits | pointBehind digits => simp [value, parts, DigitRun.value]
  | pointAmong digits fraction =>
      simp only [value, parts, DigitRun.fraction, DigitRun.value, digitsValue_append]
      push_cast
      rw [add_div, mul_div_cancel_right₀ _ (power _)]
  | pointInFront fraction => simp [value, parts, DigitRun.fraction, DigitRun.value]

theorem Mantissa.begins (m : Mantissa) :
    ∃ c cs, m.chars = c :: cs ∧ (c.isDigit = true ∨ c = '.') := by
  have run (digits : DigitRun) : ∃ c cs, digits.chars = c :: cs ∧ c.isDigit = true := by
    obtain ⟨_ | ⟨d, digits⟩, filled, isDigits⟩ := digits
    · exact absurd rfl filled
    · exact ⟨d, digits, rfl, isDigits d List.mem_cons_self⟩
  cases m with
  | whole digits =>
      obtain ⟨c, cs, chars, digit⟩ := run digits
      exact ⟨c, cs, chars, .inl digit⟩
  | pointBehind digits =>
      obtain ⟨c, cs, chars, digit⟩ := run digits
      exact ⟨c, cs ++ ['.'], by rw [Mantissa.chars, chars, List.cons_append], .inl digit⟩
  | pointAmong digits fraction =>
      obtain ⟨c, cs, chars, digit⟩ := run digits
      exact ⟨c, _, by rw [Mantissa.chars, chars, List.cons_append], .inl digit⟩
  | pointInFront fraction => exact ⟨'.', _, rfl, .inr rfl⟩

namespace Numeral

/-- The decimal that reading a numeral gives. -/
def decimal (n : Numeral) : Decimal :=
  ⟨n.negative, digitsValue (n.mantissa.parts.1 ++ n.mantissa.parts.2),
    n.exponentValue - n.mantissa.parts.2.length⟩

theorem size_eq (n : Numeral) : n.size = n.decimal.coefficient * 10 ^ n.decimal.exponent := by
  rw [size, n.mantissa.value_eq, decimal, zpow_sub₀ (by norm_num), zpow_natCast]
  ring

/-- A single is what a numeral is rounded to. -/
def Denotes (n : Numeral) (x : Single) : Prop :=
  x.Rounds n.negative n.size

theorem denotes_iff (n : Numeral) (x : Single) : n.Denotes x ↔ x = Single.ofDecimal n.decimal := by
  have rounded : n.Denotes (Single.ofDecimal n.decimal) := by
    rw [Denotes, n.size_eq]
    exact Single.rounds_ofDecimal n.decimal
  constructor
  · intro denotes
    exact denotes.unique rounded
  · rintro rfl
    exact rounded

end Numeral

/-! ### Reading -/

namespace Decimal

/-- A text does not begin with a digit. -/
def NoDigit (cs : List Char) : Prop :=
  ∀ c ∈ cs.head?, c.isDigit = false

theorem span_digits {digits rest : List Char} (isDigits : ∀ c ∈ digits, c.isDigit = true)
    (stops : NoDigit rest) : (digits ++ rest).span Char.isDigit = (digits, rest) := by
  rw [List.span_eq_takeWhile_dropWhile, List.takeWhile_append_of_pos isDigits,
    List.dropWhile_append_of_pos isDigits]
  cases rest with
  | nil => simp
  | cons c rest => simp [stops c rfl]

/-- Digits are read up to something else. -/
theorem span_eq {cs digits rest : List Char} (split : cs.span Char.isDigit = (digits, rest)) :
    cs = digits ++ rest ∧ ∀ c ∈ digits, c.isDigit = true := by
  rw [List.span_eq_takeWhile_dropWhile] at split
  obtain ⟨rfl, rfl⟩ := Prod.mk.inj split
  exact ⟨List.takeWhile_append_dropWhile.symm, fun _ => List.mem_takeWhile_imp⟩

theorem exists_sign (cs : List Char) :
    ∃ sign, cs = Sign.chars sign ++ (readSign cs).2 ∧
      (readSign cs).1 = decide (sign = some .minus) := by
  rw [readSign.eq_def]
  split
  · exact ⟨some .plus, rfl, rfl⟩
  · exact ⟨some .minus, rfl, rfl⟩
  · exact ⟨none, rfl, rfl⟩

/-- A sign is read off, where none is written because there is none. -/
theorem readSign_chars (sign : Option Sign) {rest : List Char}
    (unsigned : ∀ c ∈ rest.head?, c ≠ '+' ∧ c ≠ '-') :
    readSign (Sign.chars sign ++ rest) = (decide (sign = some .minus), rest) := by
  match sign with
  | some .plus | some .minus => rfl
  | none =>
      rw [Sign.chars, List.nil_append, readSign.eq_def]
      split
      · exact absurd rfl (unsigned _ rfl).1
      · exact absurd rfl (unsigned _ rfl).2
      · rfl

theorem exists_mantissa {cs rest : List Char} {parts : List Char × List Char}
    (found : readMantissa? cs = some (parts, rest)) :
    ∃ m : Mantissa, cs = m.chars ++ rest ∧ m.parts = parts := by
  rw [readMantissa?] at found
  split at found
  case h_1 after split =>
    obtain ⟨rfl, -⟩ := span_eq split
    split at found
    · cases found
    case h_2 digits behind filled splitAfter =>
      obtain ⟨rfl, isDigits⟩ := span_eq splitAfter
      obtain ⟨rfl, rfl⟩ := Prod.mk.inj (Option.some.inj found)
      exact ⟨.pointInFront ⟨digits, filled, isDigits⟩, rfl, rfl⟩
  case h_2 => cases found
  case h_3 digits after filled split =>
    obtain ⟨rfl, isDigits⟩ := span_eq split
    cases splitAfter : after.span Char.isDigit with
    | mk fraction behind =>
        obtain ⟨rfl, isFraction⟩ := span_eq splitAfter
        rw [splitAfter] at found
        obtain ⟨rfl, rfl⟩ := Prod.mk.inj (Option.some.inj found)
        by_cases bare : fraction = []
        · subst bare
          refine ⟨.pointBehind ⟨digits, filled, isDigits⟩, ?_, rfl⟩
          simp [Mantissa.chars]
        · refine ⟨.pointAmong ⟨digits, filled, isDigits⟩ ⟨fraction, bare, isFraction⟩, ?_, rfl⟩
          simp [Mantissa.chars]
  case h_4 digits after filled noPoint split =>
    obtain ⟨rfl, isDigits⟩ := span_eq split
    obtain ⟨rfl, rfl⟩ := Prod.mk.inj (Option.some.inj found)
    exact ⟨.whole ⟨_, filled, isDigits⟩, rfl, rfl⟩

/-- Digits that have a point among them or nowhere are read up to something else. -/
theorem readMantissa?_chars (m : Mantissa) {rest : List Char} (stops : NoDigit rest)
    (noPoint : rest.head? ≠ some '.') : readMantissa? (m.chars ++ rest) = some (m.parts, rest) := by
  have point (cs : List Char) : NoDigit ('.' :: cs) := by simp [NoDigit]
  have none_read {cs : List Char} (stops : NoDigit cs) : cs.span Char.isDigit = ([], cs) :=
    span_digits (List.forall_mem_nil _) stops
  rw [readMantissa?]
  cases m with
  | whole digits =>
      obtain ⟨_ | ⟨d, digits⟩, filled, isDigits⟩ := digits
      · exact absurd rfl filled
      rw [Mantissa.chars, span_digits isDigits stops]
      split
      case h_1 same => cases same
      case h_2 same => cases same
      case h_3 same =>
        obtain ⟨-, rfl⟩ := Prod.mk.inj same
        exact absurd rfl noPoint
      case h_4 same =>
        obtain ⟨rfl, rfl⟩ := Prod.mk.inj same
        rfl
  | pointBehind digits =>
      obtain ⟨_ | ⟨d, digits⟩, filled, isDigits⟩ := digits
      · exact absurd rfl filled
      rw [Mantissa.chars, List.append_assoc, List.singleton_append, span_digits isDigits (point _)]
      simp only [none_read stops, Mantissa.parts]
  | pointAmong digits fraction =>
      obtain ⟨_ | ⟨d, digits⟩, filled, isDigits⟩ := digits
      · exact absurd rfl filled
      have behind : '.' :: fraction.chars ++ rest = '.' :: (fraction.chars ++ rest) := rfl
      rw [Mantissa.chars, List.append_assoc, behind, span_digits isDigits (point _)]
      simp only [span_digits fraction.isDigits stops, Mantissa.parts]
  | pointInFront fraction =>
      obtain ⟨_ | ⟨d, digits⟩, filled, isDigits⟩ := fraction
      · exact absurd rfl filled
      rw [Mantissa.chars, List.cons_append, none_read (point _)]
      simp only [span_digits isDigits stops, Mantissa.parts]

theorem exists_exponent {cs rest : List Char} {value : ℤ}
    (found : readExponent? cs = some (value, rest)) (sign : Option Sign) (mantissa : Mantissa) :
    ∃ exponent, cs = (Numeral.mk sign mantissa exponent).exponentChars ++ rest ∧
      (Numeral.mk sign mantissa exponent).exponentValue = value := by
  cases cs with
  | nil =>
      obtain ⟨rfl, rfl⟩ := Prod.mk.inj (Option.some.inj found)
      exact ⟨none, rfl, rfl⟩
  | cons c cs =>
      rw [readExponent?] at found
      split at found
      case isTrue isMark =>
        obtain ⟨signE, split, negative⟩ := exists_sign cs
        simp only at found
        split at found
        · cases found
        case h_2 digits after filled splitAfter =>
          obtain ⟨digitsAfter, isDigits⟩ := span_eq splitAfter
          obtain ⟨rfl, rfl⟩ := Prod.mk.inj (Option.some.inj found)
          refine ⟨some ⟨c, isMark, signE, digits, filled, isDigits⟩, ?_, ?_⟩
          · rw [split, digitsAfter]
            simp [Numeral.exponentChars, Exponent.chars]
          · rw [negative]
            simp [Numeral.exponentValue, Exponent.value, DigitRun.value]
      case isFalse =>
        obtain ⟨rfl, rfl⟩ := Prod.mk.inj (Option.some.inj found)
        exact ⟨none, rfl, rfl⟩

/-- A text does not begin with what could make a numeral longer. -/
def Stops (cs : List Char) : Prop :=
  ∀ c ∈ cs.head?, c.isDigit = false ∧ c ≠ '.' ∧ c ≠ 'e' ∧ c ≠ 'E'

theorem readExponent?_chars (n : Numeral) {rest : List Char} (stops : Stops rest) :
    readExponent? (n.exponentChars ++ rest) = some (n.exponentValue, rest) := by
  obtain ⟨sign, mantissa, exponent⟩ := n
  cases exponent with
  | none =>
      cases rest with
      | nil => rfl
      | cons c rest =>
          obtain ⟨-, -, lower, upper⟩ := stops c rfl
          exact if_neg (not_or.mpr ⟨lower, upper⟩)
  | some e =>
      obtain ⟨mark, isMark, sign, ⟨_ | ⟨d, digits⟩, filled, isDigits⟩⟩ := e
      · exact absurd rfl filled
      have unsigned : ∀ c ∈ (d :: digits ++ rest).head?, c ≠ '+' ∧ c ≠ '-' := by
        intro c first
        obtain rfl : d = c := Option.some.inj first
        have digit := isDigits d List.mem_cons_self
        constructor <;> rintro rfl <;> cases digit
      have noDigit : NoDigit rest := fun c first => (stops c first).1
      simp only [Numeral.exponentChars, Exponent.chars, List.cons_append, List.append_assoc]
      rw [readExponent?, if_pos isMark, ← List.cons_append, readSign_chars sign unsigned]
      simp only [span_digits isDigits noDigit]
      simp [Numeral.exponentValue, Exponent.value, DigitRun.value]

/-- What is read as a decimal is a numeral, and the rest follows it. -/
theorem exists_numeral {cs rest : List Char} {d : Decimal} (found : read? cs = some (d, rest)) :
    ∃ n : Numeral, cs = n.chars ++ rest ∧ n.decimal = d := by
  obtain ⟨sign, split, negative⟩ := exists_sign cs
  rw [read?] at found
  simp only [Option.bind_eq_bind, Option.bind_eq_some_iff] at found
  obtain ⟨⟨parts, afterMantissa⟩, foundMantissa, ⟨value, afterExponent⟩, foundExponent, made⟩ :=
    found
  obtain ⟨mantissa, splitMantissa, rfl⟩ := exists_mantissa foundMantissa
  obtain ⟨exponent, splitExponent, rfl⟩ := exists_exponent foundExponent sign mantissa
  obtain ⟨rfl, rfl⟩ := Prod.mk.inj (Option.some.inj made)
  simp only at splitExponent
  refine ⟨⟨sign, mantissa, exponent⟩, ?_, ?_⟩
  · rw [split, splitMantissa, splitExponent]
    simp [Numeral.chars]
  · rw [negative]
    rfl

/-- A numeral is read as its decimal, if what follows does not make it longer. -/
theorem read?_chars (n : Numeral) {rest : List Char} (stops : Stops rest) :
    read? (n.chars ++ rest) = some (n.decimal, rest) := by
  have mantissaStops : NoDigit (n.exponentChars ++ rest) ∧
      (n.exponentChars ++ rest).head? ≠ some '.' := by
    obtain ⟨sign, mantissa, exponent⟩ := n
    cases exponent with
    | none => exact ⟨fun c first => (stops c first).1, fun point => (stops '.' point).2.1 rfl⟩
    | some e =>
        obtain ⟨mark, rfl | rfl, sign, digits⟩ := e <;>
          simp [Numeral.exponentChars, Exponent.chars, NoDigit]
  have unsigned :
      ∀ c ∈ (n.mantissa.chars ++ (n.exponentChars ++ rest)).head?, c ≠ '+' ∧ c ≠ '-' := by
    obtain ⟨d, cs, chars, digit⟩ := n.mantissa.begins
    intro c first
    rw [chars] at first
    obtain rfl : d = c := Option.some.inj first
    constructor <;> rintro rfl <;> rcases digit with digit | point <;> contradiction
  rw [read?, Numeral.chars, List.append_assoc, List.append_assoc, readSign_chars n.sign unsigned]
  simp only [Option.bind_eq_bind, readMantissa?_chars n.mantissa mantissaStops.1 mantissaStops.2,
    readExponent?_chars n stops, Option.bind_some]
  rfl

end Decimal

/-! ### Attributes -/

namespace Attribute

open Decimal

variable {α : Type}

/-- A text with nothing but space around it. -/
def Padded (inner text : List Char) : Prop :=
  ∃ before after, text = before ++ inner ++ after ∧
    (∀ c ∈ before, isSpace c = true) ∧ ∀ c ∈ after, isSpace c = true

theorem isSpace_of_isDigit {c : Char} (digit : c.isDigit = true) : isSpace c = false := by
  by_contra space
  rw [Bool.not_eq_false] at space
  rw [isDigit_of_isSpace space] at digit
  cases digit

theorem numeral_begins (n : Numeral) : ∃ c cs, n.chars = c :: cs ∧ isSpace c = false := by
  obtain ⟨sign, mantissa, exponent⟩ := n
  match sign with
  | some .plus => exact ⟨'+', _, rfl, rfl⟩
  | some .minus => exact ⟨'-', _, rfl, rfl⟩
  | none =>
      obtain ⟨c, cs, chars, digit⟩ := mantissa.begins
      refine ⟨c, _, by rw [Numeral.chars, chars, Sign.chars]; rfl, ?_⟩
      rcases digit with digit | rfl
      · exact isSpace_of_isDigit digit
      · rfl

/-- Skipping space stops at a numeral. -/
theorem skipSpace_numeral {before : List Char} (space : ∀ c ∈ before, isSpace c = true)
    (n : Numeral) (rest : List Char) :
    skipSpace (before ++ (n.chars ++ rest)) = n.chars ++ rest := by
  obtain ⟨c, cs, chars, solid⟩ := numeral_begins n
  rw [skipSpace_space space, chars, List.cons_append, skipSpace_solid solid]

theorem exists_of_number {cs rest : List Char} {x : Single} (found : number cs = .ok (x, rest)) :
    ∃ (n : Numeral) (after : List Char), skipSpace cs = n.chars ++ after ∧ n.Denotes x ∧
      x.isFinite = true ∧ rest = skipSpace after := by
  obtain ⟨after, read, rfl⟩ := spaced_eq_ok.mp found
  rw [plain_eq_ok, Option.bind_eq_bind, Option.bind_eq_some_iff] at read
  obtain ⟨⟨d, afterDecimal⟩, read, checked⟩ := read
  obtain ⟨n, split, rfl⟩ := exists_numeral read
  simp only at checked
  split at checked
  case isTrue finite =>
    obtain ⟨rfl, rfl⟩ := Prod.mk.inj (Option.some.inj checked)
    exact ⟨n, afterDecimal, split, (n.denotes_iff _).mpr rfl, finite, rfl⟩
  case isFalse => cases checked

theorem number_numeral {n : Numeral} {x : Single} (denotes : n.Denotes x)
    (finite : x.isFinite = true) {cs after : List Char} (split : skipSpace cs = n.chars ++ after)
    (stops : Stops after) : number cs = .ok (x, skipSpace after) := by
  obtain rfl := (n.denotes_iff x).mp denotes
  refine spaced_eq_ok.mpr ⟨after, ?_, rfl⟩
  rw [plain_eq_ok, split, read?_chars n stops]
  exact if_pos finite

/-- Units that cannot make a numeral longer and cannot be split. -/
structure Keywords.Units (units : Keywords α) : Prop where
  distinct : units.Distinct
  begins : ∀ entry ∈ units, ∃ c word, entry.1.toList = c :: word ∧
    c.isDigit = false ∧ c ≠ '.' ∧ c ≠ 'e'
  whole : ∀ entry ∈ units, 'k' ∉ entry.1.toList

/-- A text is a numeral with perhaps a unit behind it. Without a unit another one counts. -/
inductive Written (units : Keywords α) (absent : α) (n : Numeral) (text : List Char) :
    α → Prop where
  | bare : Padded n.chars text → Written units absent n text absent
  | withUnit {between spelled : List Char} {word : String} {unit : α} :
      (∀ c ∈ between, isSpace c = true) → (word, unit) ∈ units →
      SameLetters spelled word.toList → Padded (n.chars ++ between ++ spelled) text →
      Written units absent n text unit

theorem stops_space {cs : List Char} (space : ∀ c ∈ cs, isSpace c = true) : Stops cs := by
  intro c first
  have here := space c (List.mem_of_mem_head? first)
  refine ⟨isDigit_of_isSpace here, ?_, ?_, ?_⟩ <;> rintro rfl <;> cases here

theorem Keywords.Units.stops {units : Keywords α} (known : units.Units) {word : String} {unit : α}
    (member : (word, unit) ∈ units) {spelled : List Char} (same : SameLetters spelled word.toList)
    (rest : List Char) : Stops (spelled ++ rest) := by
  rw [SameLetters, known.distinct.map_toLower member] at same
  obtain ⟨c, letters, chars, noDigit, noPoint, noMark⟩ := known.begins _ member
  rw [chars] at same
  cases spelled with
  | nil => cases same
  | cons d spelled =>
      obtain ⟨rfl, -⟩ := List.cons.inj same
      intro first here
      obtain rfl : d = first := Option.some.inj here
      refine ⟨?_, ?_, ?_, ?_⟩
      · by_contra digit
        rw [Bool.not_eq_false] at digit
        rw [toLower_of_isDigit digit, digit] at noDigit
        cases noDigit
      · rintro rfl
        exact noPoint rfl
      · rintro rfl
        exact noMark rfl
      · rintro rfl
        exact noMark rfl

theorem Keywords.Units.ne_nil {units : Keywords α} (known : units.Units) {word : String} {unit : α}
    (member : (word, unit) ∈ units) : word.toList ≠ [] := by
  obtain ⟨c, letters, chars, -⟩ := known.begins _ member
  rw [chars]
  exact List.cons_ne_nil c letters

theorem Keywords.Units.read_nil {units : Keywords α} (known : units.Units) :
    units.read [] = .error .malformed := by
  rcases Keywords.read_cases known.distinct.plain [] with
    ⟨word, unit, rest, member, ⟨spelled, split, lower⟩, -⟩ | ⟨⟨-, -, spelled, rest, split, -⟩, -⟩ |
    refused
  · obtain ⟨rfl, -⟩ := List.append_eq_nil_iff.mp split.symm
    exact absurd lower.symm (known.ne_nil member)
  · exact absurd split.symm (List.append_ne_nil_of_right_ne_nil spelled (List.cons_ne_nil _ _))
  · exact refused

/-- Space and then a unit or nothing ends a numeral. -/
theorem stops_append {between rest : List Char} (space : ∀ c ∈ between, isSpace c = true)
    (stops : Stops rest) : Stops (between ++ rest) := by
  cases between with
  | nil => exact stops
  | cons c between => exact fun d first => stops_space space d first

theorem numberWithUnit_eq_ok {units : Keywords α} {absent : α} {cs after : List Char} {x : Single}
    {unit : α} : numberWithUnit units absent cs = .ok ((x, unit), after) ↔
      ∃ rest, number cs = .ok (x, rest) ∧
        (Reader.spaced units.read).or (fun rest => .ok (absent, rest)) rest =
          .ok (unit, after) := by
  rw [numberWithUnit]
  cases number cs with
  | error e => simp [bind, Except.bind]
  | ok found =>
      obtain ⟨y, rest⟩ := found
      simp only [bind, Except.bind, Except.ok.injEq, Prod.mk.injEq]
      cases read : (Reader.spaced units.read).or (fun rest => .ok (absent, rest)) rest with
      | error e => simp [read]
      | ok found => simp [read, pure, Except.pure, Prod.ext_iff, and_assoc]

/-- What is read up is a numeral with perhaps a unit. -/
theorem exists_of_numberWithUnit {units : Keywords α} (known : units.Units) {absent : α}
    {cs : List Char} {x : Single} {unit : α}
    (found : numberWithUnit units absent cs = .ok ((x, unit), [])) :
    ∃ n, Written units absent n cs unit ∧ n.Denotes x ∧ x.isFinite = true := by
  obtain ⟨rest, foundNumber, foundUnit⟩ := numberWithUnit_eq_ok.mp found
  obtain ⟨n, after, skipped, denotes, finite, rfl⟩ := exists_of_number foundNumber
  obtain ⟨before, split, space⟩ := exists_space cs
  obtain ⟨between, splitAfter, spaceBetween⟩ := exists_space after
  rw [skipped] at split
  rcases or_eq_ok.mp foundUnit with readUnit | ⟨-, bare⟩
  · obtain ⟨word, member, spelled⟩ := known.distinct.spaced_read.mp readUnit
    obtain ⟨behind, trimmed, spaceBehind⟩ := exists_skipSpace_eq (skipSpace after)
    have idempotent : skipSpace (skipSpace after) = skipSpace after :=
      List.dropWhile_idempotent isSpace after
    rw [idempotent] at trimmed
    refine ⟨n, .withUnit spaceBetween member spelled ⟨before, behind, ?_, space, spaceBehind⟩,
      denotes, finite⟩
    have tail := splitAfter.trans (congrArg (between ++ ·) trimmed)
    calc cs = before ++ (n.chars ++ after) := split
      _ = before ++ (n.chars ++ (between ++ (Text.trimBy isSpace (skipSpace after) ++ behind))) :=
        congrArg (fun rest => before ++ (n.chars ++ rest)) tail
      _ = _ := by simp only [List.append_assoc]
  · obtain ⟨rfl, none_left⟩ := Prod.mk.inj (Except.ok.inj bare)
    refine ⟨n, .bare ⟨before, after, ?_, space, skipSpace_eq_nil.mp none_left⟩, denotes, finite⟩
    rw [split, List.append_assoc]

section Written

variable {units : Keywords α} {absent : α} {n : Numeral} {x : Single}

theorem numberWithUnit_bare (known : units.Units) (denotes : n.Denotes x)
    (finite : x.isFinite = true) {cs : List Char} (padded : Padded n.chars cs) :
    numberWithUnit units absent cs = .ok ((x, absent), []) := by
  obtain ⟨before, after, rfl, space, spaceAfter⟩ := padded
  have skipped := skipSpace_numeral space n after
  rw [← List.append_assoc] at skipped
  have nothing : Reader.spaced units.read [] = .error .malformed :=
    spaced_eq_error.mpr known.read_nil
  have number := number_numeral denotes finite skipped (stops_space spaceAfter)
  rw [skipSpace_eq_nil.mpr spaceAfter] at number
  exact numberWithUnit_eq_ok.mpr ⟨[], number, or_eq_ok.mpr (.inr ⟨nothing, rfl⟩)⟩

theorem numberWithUnit_unit (known : units.Units) (denotes : n.Denotes x)
    (finite : x.isFinite = true) {between spelled cs : List Char} {word : String} {unit : α}
    (spaceBetween : ∀ c ∈ between, isSpace c = true) (member : (word, unit) ∈ units)
    (same : SameLetters spelled word.toList) (padded : Padded (n.chars ++ between ++ spelled) cs) :
    numberWithUnit units absent cs = .ok ((x, unit), []) := by
  obtain ⟨before, after, rfl, space, spaceAfter⟩ := padded
  have skipped := skipSpace_numeral space n (between ++ (spelled ++ after))
  have lower := same
  rw [SameLetters, known.distinct.map_toLower member] at lower
  have solid := solid_of_spelled lower (known.distinct.solid member)
  have kept : skipSpace (spelled ++ after) = spelled ++ after := by
    cases spelled with
    | nil => exact absurd lower.symm (known.ne_nil member)
    | cons d spelled => exact skipSpace_solid (solid d List.mem_cons_self) _
  have readUnit : Reader.spaced units.read (spelled ++ after) = .ok (unit, []) := by
    rw [known.distinct.spaced_read]
    exact ⟨word, member, by rwa [Text.trimBy_eq kept solid spaceAfter]⟩
  have stops := stops_append spaceBetween (known.stops member same after)
  have number := number_numeral denotes finite skipped stops
  rw [skipSpace_space spaceBetween, kept] at number
  simp only [List.append_assoc]
  exact numberWithUnit_eq_ok.mpr ⟨spelled ++ after, number, or_eq_ok.mpr (.inl readUnit)⟩

end Written

theorem numberWithUnit_eq {units : Keywords α} (known : units.Units) (absent : α) {cs : List Char}
    {x : Single} {unit : α} :
    numberWithUnit units absent cs = .ok ((x, unit), []) ↔
      ∃ n, Written units absent n cs unit ∧ n.Denotes x ∧ x.isFinite = true := by
  refine ⟨exists_of_numberWithUnit known, ?_⟩
  rintro ⟨n, written, denotes, finite⟩
  cases written with
  | bare padded => exact numberWithUnit_bare known denotes finite padded
  | withUnit space member same padded =>
      exact numberWithUnit_unit known denotes finite space member same padded

theorem number_ne_crash (cs : List Char) : number cs ≠ .error .crash :=
  fun crashed => plain_ne_crash _ _ (spaced_eq_error.mp crashed)

theorem numberWithUnit_ne_crash {units : Keywords α} (known : units.Units) (absent : α)
    (cs : List Char) : numberWithUnit units absent cs ≠ .error .crash := by
  intro crashed
  rw [numberWithUnit] at crashed
  cases first : number cs with
  | error e =>
      rw [first] at crashed
      obtain rfl := Except.error.inj crashed
      exact number_ne_crash cs first
  | ok found =>
      obtain ⟨x, rest⟩ := found
      rw [first] at crashed
      simp only [bind, Except.bind] at crashed
      split at crashed
      case h_1 e unread =>
        obtain rfl := Except.error.inj crashed
        rcases or_eq_crash.mp unread with split | ⟨-, bare⟩
        · exact Keywords.not_splits known.whole _
            (known.distinct.read_eq_crash.mp (spaced_eq_error.mp split))
        · cases bare
      case h_2 => cases crashed

theorem number_eq_ok {raw : String} {x : Single} :
    number.whole raw = .ok x ↔
      ∃ n : Numeral, Padded n.chars raw.toList ∧ n.Denotes x ∧ x.isFinite = true := by
  rw [whole_eq_ok]
  constructor
  · intro found
    obtain ⟨n, after, skipped, denotes, finite, none_left⟩ := exists_of_number found
    obtain ⟨before, split, space⟩ := exists_space raw.toList
    refine ⟨n, ⟨before, after, ?_, space, skipSpace_eq_nil.mp none_left.symm⟩, denotes, finite⟩
    rw [split, skipped, List.append_assoc]
  · rintro ⟨n, ⟨before, after, split, space, spaceAfter⟩, denotes, finite⟩
    have skipped := skipSpace_numeral space n after
    rw [← List.append_assoc, ← split] at skipped
    rw [number_numeral denotes finite skipped (stops_space spaceAfter),
      skipSpace_eq_nil.mpr spaceAfter]

theorem lengthUnits_units (kind : ScaleKind) : (lengthUnits kind).Units := by
  have millimetre : ∃ c word, "mm".toList = c :: word ∧ c.isDigit = false ∧ c ≠ '.' ∧ c ≠ 'e' :=
    ⟨'m', ['m'], by decide⟩
  have point : ∃ c word, "pt".toList = c :: word ∧ c.isDigit = false ∧ c ≠ '.' ∧ c ≠ 'e' :=
    ⟨'p', ['t'], by decide⟩
  cases kind with
  | fontSize =>
      exact ⟨by decide +kernel, List.forall_mem_cons.mpr
        ⟨millimetre, List.forall_mem_singleton.mpr point⟩, by decide⟩
  | geometry | yIncrement | ySpacing =>
      exact ⟨by decide +kernel, List.forall_mem_singleton.mpr millimetre, by decide⟩

theorem angleUnits_units : Keywords.Units [("deg", ())] :=
  ⟨by decide +kernel, List.forall_mem_singleton.mpr ⟨'d', ['e', 'g'], by decide⟩, by decide⟩

theorem angle_eq_ok {raw : String} {x : Single} :
    angle raw = .ok x ↔
      ∃ n, Written [("deg", ())] () n raw.toList () ∧ n.Denotes x ∧ x.isFinite = true := by
  rw [angle, ← numberWithUnit_eq angleUnits_units, ← whole_eq_ok]
  cases (numberWithUnit [("deg", ())] ()).whole raw with
  | error e => simp [Except.map]
  | ok found => simp [Except.map, Prod.ext_iff]

theorem angle_ne_crash (raw : String) : angle raw ≠ .error .crash := by
  rw [angle, Ne, map_eq_error, whole_eq_crash]
  exact numberWithUnit_ne_crash angleUnits_units () raw.toList

/-- The length that a number in a unit stands for. -/
def lengthIn (scales : Scales) (kind : ScaleKind) : LengthUnit → Single → Single
  | .millimetre, x => scales.apply kind x
  | .point, x => x * scales.ofKind kind

theorem length_eq (scales : Scales) (kind : ScaleKind) (raw : String) :
    length scales kind raw =
      ((numberWithUnit (lengthUnits kind) .millimetre).whole raw).map fun found =>
        lengthIn scales kind found.2 found.1 := by
  rw [length]
  cases (numberWithUnit (lengthUnits kind) .millimetre).whole raw with
  | error e => rfl
  | ok found => obtain ⟨x, _ | _⟩ := found <;> rfl

theorem length_ne_crash (scales : Scales) (kind : ScaleKind) (raw : String) :
    length scales kind raw ≠ .error .crash := by
  rw [length_eq, Ne, map_eq_error, whole_eq_crash]
  exact numberWithUnit_ne_crash (lengthUnits_units kind) .millimetre raw.toList

theorem length_eq_ok {scales : Scales} {kind : ScaleKind} {raw : String} {y : Single} :
    length scales kind raw = .ok y ↔
      ∃ n unit x, Written (lengthUnits kind) .millimetre n raw.toList unit ∧ n.Denotes x ∧
        x.isFinite = true ∧ y = lengthIn scales kind unit x := by
  rw [length_eq]
  constructor
  · intro read
    cases found : (numberWithUnit (lengthUnits kind) .millimetre).whole raw with
    | error e => simp [found, Except.map] at read
    | ok pair =>
        obtain ⟨x, unit⟩ := pair
        rw [found] at read
        rw [whole_eq_ok, numberWithUnit_eq (lengthUnits_units kind)] at found
        obtain ⟨n, written, denotes, finite⟩ := found
        exact ⟨n, unit, x, written, denotes, finite, (Except.ok.inj read).symm⟩
  · rintro ⟨n, unit, x, written, denotes, finite, rfl⟩
    have found := (numberWithUnit_eq (lengthUnits_units kind) .millimetre).mpr
      ⟨n, written, denotes, finite⟩
    rw [whole_eq_ok.mpr found]
    rfl

/-- Numeric attributes accept exactly a numeral with perhaps a unit of their kind, with nothing but
    space around both, as long as the nearest single is finite. Every numeral has one nearest
    single, and the value depends on it, on the scales and on the unit only. -/
theorem numbers_exact :
    (∀ n : Numeral, ∃! x, n.Denotes x) ∧
      Reads number.whole (fun text x =>
        ∃ n : Numeral, Padded n.chars text ∧ n.Denotes x ∧ x.isFinite = true) ∧
      Reads angle (fun text x =>
        ∃ n, Written [("deg", ())] () n text () ∧ n.Denotes x ∧ x.isFinite = true) ∧
      ∀ scales kind, Reads (length scales kind) (fun text y =>
        ∃ n unit x, Written (lengthUnits kind) .millimetre n text unit ∧ n.Denotes x ∧
          x.isFinite = true ∧ y = lengthIn scales kind unit x) := by
  refine ⟨fun n => ?_, ?_, ?_, fun scales kind => ?_⟩
  · exact ⟨_, (n.denotes_iff _).mpr rfl, fun x => (n.denotes_iff x).mp⟩
  · exact reads_of_eq_ok number_eq_ok fun _ crashed => number_ne_crash _ (whole_eq_crash.mp crashed)
  · exact reads_of_eq_ok angle_eq_ok fun _ => angle_ne_crash _
  · exact reads_of_eq_ok length_eq_ok fun _ => length_ne_crash scales kind _

end Attribute

end PageMap
