import PageMap.DateFormat
import PageMap.Proofs.Attribute.Numeral
import PageMap.Proofs.Text.Trim
/-! # Dates read back

A date with hyphens is a year of four digits or one with a sign, and two digits each for month and
day. Whatever stands behind it, reading a date gives it back. Among the forms of a moment it is a
day alone: a timestamp would have to go on behind the day.
-/

namespace PageMap

/-! ### Calendar -/

namespace Date

/-- A day that the calendar has. -/
structure IsValid (d : Date) : Prop where
  minYear_le : minYear ≤ d.year
  le_maxYear : d.year ≤ maxYear
  month_pos : 1 ≤ d.month
  month_le : d.month ≤ 12
  day_pos : 1 ≤ d.day
  day_le : d.day ≤ monthLength d.year d.month

theorem make?_eq_some {year : Int} {month day : Nat} {d : Date} :
    make? year month day = some d ↔ d = ⟨year, month, day⟩ ∧ d.IsValid := by
  rw [make?]
  constructor
  · intro made
    split at made
    case isTrue inside =>
      obtain ⟨low, high, first, last, start, fits⟩ := inside
      obtain rfl := Option.some.inj made
      exact ⟨rfl, low, high, first, last, start, fits⟩
    case isFalse => cases made
  · rintro ⟨rfl, valid⟩
    exact if_pos ⟨valid.minYear_le, valid.le_maxYear, valid.month_pos, valid.month_le,
      valid.day_pos, valid.day_le⟩

theorem IsValid.month_lt {d : Date} (valid : d.IsValid) : d.month < 100 :=
  Nat.lt_of_le_of_lt valid.month_le (by decide)

theorem IsValid.day_lt {d : Date} (valid : d.IsValid) : d.day < 100 := by
  have longest : monthLength d.year d.month ≤ 31 := by
    rw [monthLength]
    repeat' split
    all_goals decide
  have fits := valid.day_le
  omega

/-- Year, month and day with hyphens between them. -/
def hyphenated (d : Date) : List Char :=
  DateItem.yearText .zero d.year ++
    '-' :: (DateItem.twoPlaces .zero d.month ++ '-' :: DateItem.twoPlaces .zero d.day)

end Date

/-! ### Digits of fixed width -/

/-- A number is written in so many digits. -/
structure Figures (width n : Nat) (digits : List Char) : Prop where
  length : digits.length = width
  isDigits : ∀ c ∈ digits, c.isDigit = true
  value : digitsValue digits = n

theorem figures_leftpad {width n : Nat} (small : n < 10 ^ width) :
    Figures width n ((significantDigits n).leftpad width '0') where
  length := by
    rw [← Nat.mod_eq_of_lt small]
    exact length_leftpad_significantDigits_mod width n
  isDigits _ := isDigit_of_mem_leftpad
  value := by rw [digitsValue_leftpad, digitsValue_significantDigits]

namespace DateItem

theorem figures_twoPlaces {n : Nat} (small : n < 100) : Figures 2 n (twoPlaces .zero n) := by
  have table : ∀ n < 100, twoPlaces .zero (n : Nat) = (significantDigits n).leftpad 2 '0' := by
    decide
  rw [table n small]
  exact figures_leftpad small

/-- A year is written in four digits, or it has a sign and any number of digits. -/
theorem yearText_cases (year : Int) :
    (∃ n : Nat, year = n ∧ Figures 4 n (yearText .zero year)) ∨
      ∃ (negative : Bool) (run : DigitRun),
        yearText .zero year = (if negative then '-' else '+') :: run.chars ∧
        year = if negative then -(digitsValue run.chars : Int) else digitsValue run.chars := by
  rw [yearText]
  split
  case isTrue plain =>
    obtain ⟨n, rfl⟩ := Int.eq_ofNat_of_zero_le plain.1
    refine .inl ⟨n, rfl, ?_⟩
    have padded : padNumber .zero 4 [] n = (significantDigits n).leftpad 4 '0' :=
      leftpad_decimalDigits 3 n
    rw [Int.toNat_natCast, padded]
    exact figures_leftpad (by omega)
  case isFalse signed =>
    have padded (sign : Char) : padNumber .zero 5 [sign] year.natAbs =
        sign :: (significantDigits year.natAbs).leftpad 4 '0' :=
      congrArg (sign :: ·) (leftpad_decimalDigits 3 year.natAbs)
    refine .inr ⟨decide (year < 0), ⟨(significantDigits year.natAbs).leftpad 4 '0', ?_,
      fun _ => isDigit_of_mem_leftpad⟩, ?_, ?_⟩
    · intro none
      have short := congrArg List.length none
      rw [List.length_leftpad] at short
      simp at short
    · rw [padded]
      simp
    · rw [digitsValue_leftpad, digitsValue_significantDigits]
      simp only [decide_eq_true_eq]
      split <;> omega

end DateItem

/-! ### Reading -/

namespace Moment

theorem isBlank_of_isDigit {c : Char} (digit : c.isDigit = true) : Text.isBlank c = false := by
  have range : 48 ≤ c.toNat ∧ c.toNat ≤ 57 := Char.isDigit_iff_toNat.mp digit
  simp [Text.isBlank]
  omega

/-- There is nothing to skip before a digit. -/
theorem dropWhile_isBlank_of_isDigit {d : Char} (digit : d.isDigit = true) (rest : List Char) :
    (d :: rest).dropWhile Text.isBlank = d :: rest :=
  List.dropWhile_cons_of_neg (by simp [isBlank_of_isDigit digit])

theorem afterChar?_self (c : Char) (cs : List Char) : afterChar? c (c :: cs) = some cs :=
  if_pos rfl

section Figures

variable {width n : Nat} {digits : List Char} (figures : Figures width n digits) (rest : List Char)
include figures

theorem fixedNumber?_figures : fixedNumber? width (digits ++ rest) = some (n, rest) := by
  obtain ⟨rfl, isDigits, rfl⟩ := figures
  rw [fixedNumber?, List.take_left, List.drop_left]
  exact if_pos ⟨rfl, List.all_eq_true.mpr isDigits⟩

theorem shortNumber?_figures (filled : 0 < width) :
    shortNumber? width (digits ++ rest) = some (n, rest) := by
  obtain ⟨rfl, isDigits, rfl⟩ := figures
  obtain ⟨d, later, rfl⟩ := List.exists_cons_of_length_pos filled
  have start := dropWhile_isBlank_of_isDigit (isDigits d List.mem_cons_self) (later ++ rest)
  have all : (d :: later).takeWhile Char.isDigit = d :: later :=
    List.takeWhile_eq_self_iff.mpr isDigits
  rw [shortNumber?, List.cons_append, start, ← List.cons_append, List.take_left, all,
    List.drop_left]
  rfl

end Figures

theorem signedYear?_run (negative : Bool) (run : DigitRun) (rest : List Char) :
    signedYear? negative (run.chars ++ '-' :: rest) =
      some (if negative then -(digitsValue run.chars : Int) else digitsValue run.chars,
        '-' :: rest) := by
  have stops : Decimal.NoDigit ('-' :: rest) := fun c first => by
    obtain rfl := Option.some.inj first
    rfl
  obtain ⟨chars, filled, isDigits⟩ := run
  obtain ⟨d, later, rfl⟩ := List.exists_cons_of_ne_nil filled
  rw [signedYear?, Decimal.span_digits isDigits stops]

theorem readYear?_figures {n : Nat} {digits : List Char} (figures : Figures 4 n digits)
    (rest : List Char) : readYear? (digits ++ rest) = some ((n : Int), rest) := by
  have number := shortNumber?_figures figures rest (by decide)
  obtain ⟨length, isDigits, -⟩ := figures
  obtain ⟨d, later, rfl⟩ := List.exists_cons_of_length_pos (length ▸ by decide : 0 < digits.length)
  have digit := isDigits d List.mem_cons_self
  rw [readYear?, List.cons_append, dropWhile_isBlank_of_isDigit digit, ← List.cons_append]
  -- A digit is no sign, so only the last alternative is left.
  split
  case h_1 minus => cases (List.cons.inj minus).1; cases digit
  case h_2 plus => cases (List.cons.inj plus).1; cases digit
  case h_3 => rw [number]; rfl

theorem readYear?_yearText (year : Int) (rest : List Char) :
    readYear? (DateItem.yearText .zero year ++ '-' :: rest) = some (year, '-' :: rest) := by
  rcases DateItem.yearText_cases year with ⟨n, rfl, figures⟩ | ⟨negative, run, written, value⟩
  · exact readYear?_figures figures ('-' :: rest)
  · have number := signedYear?_run negative run rest
    rw [← value] at number
    rw [written, List.cons_append]
    cases negative <;> exact number

/-- A date that is written with hyphens is read back, whatever stands behind it. -/
theorem readDate?_hyphenated {d : Date} (valid : d.IsValid) (rest : List Char) :
    readDate? (d.hyphenated ++ rest) = some (d, rest) := by
  have made : Date.make? d.year d.month d.day = some d := Date.make?_eq_some.mpr ⟨rfl, valid⟩
  have month := DateItem.figures_twoPlaces valid.month_lt
  have day := DateItem.figures_twoPlaces valid.day_lt
  simp only [Date.hyphenated, List.append_assoc, List.cons_append, readDate?, bind, Option.bind,
    readYear?_yearText, afterChar?_self, shortNumber?_figures month _ (by decide),
    shortNumber?_figures day _ (by decide), made]
  rfl

/-- A timestamp with an offset goes on behind the day. -/
theorem readZoned?_hyphenated {d : Date} (valid : d.IsValid) : readZoned? d.hyphenated = none := by
  have month := DateItem.figures_twoPlaces valid.month_lt
  have day := DateItem.figures_twoPlaces valid.day_lt
  rw [Date.hyphenated]
  rcases DateItem.yearText_cases d.year with ⟨n, -, year⟩ | ⟨negative, run, written, -⟩
  · have number := fixedNumber?_figures day []
    rw [List.append_nil] at number
    simp only [readZoned?, fixedNumber?_figures year, bind, Option.bind, afterChar?_self,
      fixedNumber?_figures month, number, afterDate?]
  · rw [written, readZoned?]
    have sign : ∀ rest, fixedNumber? 4 ((if negative then '-' else '+') :: rest) = none := by
      intro rest
      rw [fixedNumber?]
      cases negative <;> simp
    rw [List.cons_append, sign]
    rfl

theorem solid_yearText (year : Int) :
    ∀ c ∈ DateItem.yearText .zero year, Text.isBlank c = false := by
  rcases DateItem.yearText_cases year with ⟨n, -, figures⟩ | ⟨negative, run, written, -⟩
  · exact fun c member => isBlank_of_isDigit (figures.isDigits c member)
  · rw [written, List.forall_mem_cons]
    refine ⟨?_, fun c member => isBlank_of_isDigit (run.isDigits c member)⟩
    cases negative <;> rfl

/-- There is no space in or around a date with hyphens. -/
theorem solid_hyphenated {d : Date} (valid : d.IsValid) :
    ∀ c ∈ d.hyphenated, Text.isBlank c = false := by
  have month := DateItem.figures_twoPlaces valid.month_lt
  have day := DateItem.figures_twoPlaces valid.day_lt
  rw [Date.hyphenated, List.forall_mem_append, List.forall_mem_cons, List.forall_mem_append,
    List.forall_mem_cons]
  exact ⟨solid_yearText d.year, rfl, fun c member => isBlank_of_isDigit (month.isDigits c member),
    rfl, fun c member => isBlank_of_isDigit (day.isDigits c member)⟩

/-- A date with hyphens is a day alone. -/
theorem ofText?_hyphenated {d : Date} (valid : d.IsValid) :
    ofText? (String.ofList d.hyphenated) = some ⟨d, .midnight, none⟩ := by
  have read := readDate?_hyphenated valid []
  rw [List.append_nil] at read
  have timeless : readLocal? d.hyphenated = none := by
    simp only [readLocal?, read, bind, Option.bind, afterChar?]
  have day : readDay? d.hyphenated = some ⟨d, .midnight, none⟩ := by
    simp only [readDay?, read, bind, Option.bind]
    rfl
  rw [ofText?, String.toList_ofList, Text.trimBy_solid (solid_hyphenated valid),
    readZoned?_hyphenated valid, timeless, day]
  rfl

/-! ### Dates that are read -/

/-- What holds of all that a reader can go on to holds of all that it comes to. -/
theorem forall_mem_bind {α β : Type} {first : Option α} {next : α → Option β} {P : β → Prop}
    (later : ∀ a ∈ first, ∀ b ∈ next a, P b) : ∀ b ∈ first >>= next, P b := by
  intro b member
  obtain ⟨a, found, here⟩ := Option.bind_eq_some_iff.mp member
  exact later a found b here

theorem readDate?_valid (cs : List Char) : ∀ read ∈ readDate? cs, read.1.IsValid := by
  rw [readDate?]
  -- Whatever the numbers are, a date is made of them in the end.
  repeat refine forall_mem_bind fun _ _ => ?_
  rintro _ ⟨⟩
  exact (Date.make?_eq_some.mp ‹_›).2

theorem readZoned?_valid (cs : List Char) : ∀ m ∈ readZoned? cs, m.date.IsValid := by
  rw [readZoned?]
  repeat refine forall_mem_bind fun _ _ => ?_
  split
  split
  · refine forall_mem_bind fun _ made => forall_mem_bind fun _ _ => ?_
    rintro _ ⟨⟩
    exact (Date.make?_eq_some.mp made).2
  · rintro _ ⟨⟩

theorem readLocal?_valid (cs : List Char) : ∀ m ∈ readLocal? cs, m.date.IsValid := by
  rw [readLocal?]
  refine forall_mem_bind fun _ date => ?_
  have valid := readDate?_valid cs _ date
  repeat refine forall_mem_bind fun _ _ => ?_
  split
  split
  · refine forall_mem_bind fun _ _ => ?_
    rintro _ ⟨⟩
    exact valid
  · rintro _ ⟨⟩

theorem readDay?_valid (cs : List Char) : ∀ m ∈ readDay? cs, m.date.IsValid := by
  rw [readDay?]
  refine forall_mem_bind fun _ date => ?_
  have valid := readDate?_valid cs _ date
  split
  split
  · rintro _ ⟨⟩
    exact valid
  · rintro _ ⟨⟩

/-- A moment that is read is on a day of the calendar. -/
theorem ofText?_valid {text : String} {m : Moment} (read : ofText? text = some m) :
    m.date.IsValid := by
  rw [ofText?, Option.or_eq_some_iff, Option.or_eq_some_iff] at read
  rcases read with zoned | ⟨-, wall | ⟨-, day⟩⟩
  · exact readZoned?_valid _ m zoned
  · exact readLocal?_valid _ m wall
  · exact readDay?_valid _ m day

end Moment

/-! ### The default form -/

namespace DateFormat

theorem format?_iso (m : Moment) : iso.format? m = some (String.ofList m.date.hyphenated) := by
  simp [format?, iso, DateItem.hyphened, DateItem.zeroed, DateItem.text?, DateItem.numberText,
    Date.hyphenated]

theorem formatText?_iso (text : String) :
    iso.formatText? text =
      (Moment.ofText? text).map fun m => String.ofList m.date.hyphenated := by
  rw [formatText?, funext format?_iso, Option.map_eq_bind]
  rfl

/-- The default form is stable. Every text that is read as a moment is shown as its date, the text
    that is shown is read as the same day, and it is shown as it is. -/
theorem iso_stable (text : String) :
    (∀ shown, iso.formatText? text = some shown → iso.formatText? shown = some shown) ∧
      ∀ m, Moment.ofText? text = some m → ∃ shown, iso.formatText? text = some shown ∧
        Moment.ofText? shown = some ⟨m.date, .midnight, none⟩ := by
  constructor
  · intro shown formatted
    rw [formatText?_iso, Option.map_eq_some_iff] at formatted
    obtain ⟨m, read, rfl⟩ := formatted
    rw [formatText?_iso, Moment.ofText?_hyphenated (Moment.ofText?_valid read)]
    rfl
  · intro m read
    refine ⟨String.ofList m.date.hyphenated, ?_, ?_⟩
    · rw [formatText?_iso, read]
      rfl
    · exact Moment.ofText?_hyphenated (Moment.ofText?_valid read)

theorem iso_stable_signed :
    iso.formatText? " -4- 2-29T 7:5:60\n" = some "-0004-02-29" ∧
      iso.formatText? "-0004-02-29" = some "-0004-02-29" ∧
      Moment.ofText? " -4- 2-29T 7:5:60\n" = some ⟨⟨-4, 2, 29⟩, ⟨7, 5, 60, 0⟩, none⟩ ∧
      Moment.ofText? "-0004-02-29" = some ⟨⟨-4, 2, 29⟩, .midnight, none⟩ := by
  have formatted : iso.formatText? " -4- 2-29T 7:5:60\n" = some "-0004-02-29" := by
    decide +kernel
  have read : Moment.ofText? " -4- 2-29T 7:5:60\n" =
      some ⟨⟨-4, 2, 29⟩, ⟨7, 5, 60, 0⟩, none⟩ := by
    decide +kernel
  obtain ⟨again, day⟩ := iso_stable " -4- 2-29T 7:5:60\n"
  obtain ⟨shown, same, readBack⟩ := day _ read
  obtain rfl := Option.some.inj (same.symm.trans formatted)
  exact ⟨formatted, again _ formatted, read, readBack⟩

end DateFormat

end PageMap
