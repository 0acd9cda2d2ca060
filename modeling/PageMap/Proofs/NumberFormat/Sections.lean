import Mathlib
import PageMap.Proofs.Floats
import PageMap.Proofs.NumberFormat.Output
/-! # Sections and signs

Sections of a pattern are compiled each on its own, wherever they stand. So a pattern of two
sections writes positive numbers as the first one alone does and negative ones as the second one
alone does, and an empty second section leaves everything to the first one. A single section writes
a number below zero with a sign in front, unless it shows zeros only.
-/

namespace PageMap

/-! ### Tokens that differ in position only -/

namespace NumberSection

open NumberToken NumberFormat

variable {tokens others : List PlacedToken}

theorem ofTokens_congr (same : tokens.map (·.2) = others.map (·.2)) :
    ofTokens tokens = ofTokens others := by
  simp only [ofTokens, wholeTokens, pointTokens, same]

theorem strayComma?_congr (same : tokens.map (·.2) = others.map (·.2))
    (matched : strayComma? tokens = none) : strayComma? others = none := by
  induction tokens generalizing others with
  | nil =>
      obtain rfl := List.map_eq_nil_iff.mp same.symm
      rfl
  | cons token tokens ih =>
      cases others with
      | nil => cases same
      | cons other others =>
          obtain ⟨position, token⟩ := token
          obtain ⟨place, other⟩ := other
          obtain ⟨rfl, later⟩ := List.cons.inj same
          rw [strayComma?] at matched ⊢
          split
          · rfl
          case isFalse passed =>
            rw [if_neg passed] at matched
            split at matched
            · cases matched
            case isFalse noComma =>
              rw [if_neg noComma]
              exact ih later matched

theorem hasPlaceholders_of_mem {token : PlacedToken} (member : token ∈ tokens)
    (digit : token.2.isPlaceholder = true) : (ofTokens tokens).hasPlaceholders = true := by
  have both : wholeTokens tokens ++ pointTokens tokens = tokens.map (·.2) :=
    List.takeWhile_append_dropWhile
  have place : token.2 ∈ placeholders (wholeTokens tokens ++ pointTokens tokens) := by
    rw [both]
    exact List.mem_filter.mpr ⟨List.mem_map_of_mem member, digit⟩
  have some_place := List.length_pos_of_mem place
  rw [placeholders, List.filter_append, List.length_append] at some_place
  exact decide_eq_true some_place

/-- The leading section has a place for a digit. -/
theorem hasPlaceholders_ofTokens (accepted : SectionAccepted 0 tokens) :
    (ofTokens tokens).hasPlaceholders = true := by
  obtain ⟨token, member, digit⟩ := accepted.digits rfl
  exact hasPlaceholders_of_mem member digit

end NumberSection

namespace NumberFormat

open NumberToken NumberSection

/-- The section that tokens at an index stand for. -/
def sectionAt (index : ℕ) (tokens : List PlacedToken) : Option NumberSection :=
  if tokens.isEmpty && 0 < index then none else some (ofTokens tokens)

theorem sectionAt_congr {tokens others : List PlacedToken}
    (same : tokens.map (·.2) = others.map (·.2)) (index : ℕ) :
    sectionAt index tokens = sectionAt index others := by
  have empty : tokens.isEmpty = others.isEmpty := by
    rw [← List.isEmpty_map, same, List.isEmpty_map]
  rw [sectionAt, sectionAt, empty, ofTokens_congr same]

theorem eq_sectionAt {pattern : String} {index : ℕ} {tokens : List PlacedToken}
    {compiled : Option NumberSection}
    (accepted : compileSection pattern index tokens = .ok compiled) :
    compiled = sectionAt index tokens := by
  rw [compileSection] at accepted
  rw [sectionAt]
  split at accepted
  case isTrue empty =>
    rw [if_pos empty]
    exact (Except.ok.inj accepted).symm
  case isFalse filled =>
    rw [if_neg filled]
    split at accepted <;> cases accepted
    case h_1 s compiled => rw [eq_ofTokens compiled]

theorem eq_mapIdx_sectionAt {pattern : String} {index : ℕ} {sections : List (List PlacedToken)}
    {compiled : List (Option NumberSection)}
    (accepted : compileSections pattern index sections = .ok compiled) :
    compiled = sections.mapIdx fun i => sectionAt (index + i) := by
  induction sections generalizing index compiled with
  | nil => exact (Except.ok.inj accepted).symm
  | cons tokens rest ih =>
      obtain ⟨first, others, here, later, rfl⟩ := compileSections_cons_ok accepted
      rw [List.mapIdx_cons, ih later, eq_sectionAt here]
      simp only [Nat.add_zero, Nat.add_assoc, Nat.add_comm 1]

/-- The sections of a format are what the tokens between separators stand for. -/
theorem sections_eq_mapIdx {pattern : String} (r : Reading pattern) {f : NumberFormat}
    (accepted : ofPattern pattern = .ok f) : f.sections = r.sections.mapIdx sectionAt := by
  simpa only [Nat.zero_add] using eq_mapIdx_sectionAt (sections_of_ofPattern r accepted)

theorem accepted_of_ofPattern {pattern : String} (r : Reading pattern) {f : NumberFormat}
    (ok : ofPattern pattern = .ok f) : r.Accepted := by
  rcases r.accepted_or_fault with accepted | ⟨e, fault⟩
  · exact accepted
  · cases ok.symm.trans fault.ofPattern_error

theorem exists_leading {pattern : String} {f : NumberFormat}
    (accepted : ofPattern pattern = .ok f) : ∃ s, f.section? 0 = some s := by
  obtain ⟨r⟩ := nonempty_reading pattern
  obtain ⟨tokens, rest, split⟩ :=
    List.exists_cons_of_ne_nil (List.splitOnP_ne_nil isSeparator r.tokens)
  refine ⟨ofTokens tokens, ?_⟩
  rw [section?, sections_eq_mapIdx r accepted, Reading.sections, split]
  simp [sectionAt]

theorem hasPlaceholders_leading {pattern : String} {f : NumberFormat}
    (ok : ofPattern pattern = .ok f) {s : NumberSection} (first : f.section? 0 = some s) :
    s.hasPlaceholders = true := by
  obtain ⟨r⟩ := nonempty_reading pattern
  obtain ⟨tokens, isSection, compiled⟩ := exists_tokens_of_section? r ok first
  obtain rfl := eq_ofTokens compiled
  exact hasPlaceholders_ofTokens ((accepted_of_ofPattern r ok).sections 0 tokens isSection)

end NumberFormat

/-! ### Patterns without separators -/

namespace NumberToken

theorem placed_append (position : ℕ) (first second : List Lexeme) :
    placed position (first ++ second) = placed position first ++
      placed (position + byteLength (first.flatMap Lexeme.chars)) second := by
  induction first generalizing position with
  | nil => rfl
  | cons lexeme first ih =>
      rw [List.cons_append, placed, placed, ih, List.flatMap_cons, byteLength_append,
        Nat.add_assoc, List.cons_append]

theorem map_placed (position : ℕ) (lexemes : List Lexeme) :
    (placed position lexemes).map (·.2) = lexemes.map Lexeme.token := by
  induction lexemes generalizing position with
  | nil => rfl
  | cons lexeme lexemes ih => rw [placed, List.map_cons, List.map_cons, ih]

/-- A pattern has no separator outside quotes and escapes. -/
def SeparatorFree (pattern : String) : Prop :=
  ∀ tokens, scan pattern = .ok tokens → ∀ token ∈ tokens, token.2 ≠ .separator

/-- Without the character that stands for separators there is none. -/
theorem separatorFree_of_not_mem {pattern : String} (none : ';' ∉ pattern.toList) :
    SeparatorFree pattern := by
  intro tokens scanned token member separates
  obtain ⟨r⟩ := nonempty_reading pattern
  rw [r.scan_eq] at scanned
  have same : r.tokens = tokens := by
    cases ending : r.ending with
    | complete =>
        rw [ending] at scanned
        exact Except.ok.inj scanned
    | openQuote _ _ _ _ | openEscape =>
        rw [ending] at scanned
        cases scanned
  obtain ⟨before, after, split, -⟩ := r.exists_char_of_mem (same ▸ member)
    (fun d same => ofChar_eq_separator (same.trans separates))
    (fun text literal => by cases separates.symm.trans literal)
  rw [split] at none
  exact none (List.mem_append_right _ List.mem_cons_self)

namespace Reading

variable {first second : String}

theorem isSeparator_eq_false {pattern : String} {r : Reading pattern} (accepted : r.Accepted)
    (free : SeparatorFree pattern) : ∀ token ∈ r.tokens, isSeparator token = false := by
  intro token member
  have scanned : scan pattern = .ok r.tokens := by
    rw [r.scan_eq, accepted.complete]
    rfl
  exact decide_eq_false (free r.tokens scanned token member)

/-- A pattern without separators is one section. -/
theorem sections_eq_singleton {pattern : String} {r : Reading pattern} (accepted : r.Accepted)
    (free : SeparatorFree pattern) : r.sections = [r.tokens] :=
  List.splitOnP_eq_singleton (isSeparator_eq_false accepted free)

/-- Two patterns set apart by a separator are read one after the other. -/
def behind (r : Reading first) (complete : r.ending = .complete) (s : Reading second) :
    Reading (first ++ ";" ++ second) where
  lexemes := r.lexemes ++ .plain ';' (by decide) :: s.lexemes
  ending := s.ending
  written := by
    simp [String.toList_append, r.written, s.written, complete, Ending.chars, Lexeme.chars]

/-- The tokens of the second pattern, at their positions behind the first one. -/
def movedTokens (r : Reading first) (s : Reading second) : List PlacedToken :=
  placed (r.length + 1) s.lexemes

theorem tokens_behind (r : Reading first) (complete : r.ending = .complete) (s : Reading second) :
    (r.behind complete s).tokens = r.tokens ++ (r.length, .separator) :: r.movedTokens s := by
  rw [tokens, behind, placed_append, Nat.zero_add, placed]
  rfl

theorem map_movedTokens (r : Reading first) (s : Reading second) :
    (r.movedTokens s).map (·.2) = s.tokens.map (·.2) := by
  rw [movedTokens, tokens, map_placed, map_placed]

theorem isSeparator_movedTokens (r : Reading first) {s : Reading second}
    (free : ∀ token ∈ s.tokens, isSeparator token = false) :
    ∀ token ∈ r.movedTokens s, isSeparator token = false := by
  intro token member
  have kind := List.mem_map_of_mem (f := (·.2)) member
  rw [map_movedTokens] at kind
  obtain ⟨same, inSecond, kinds⟩ := List.mem_map.mp kind
  rw [isSeparator, ← kinds]
  exact free same inSecond

theorem sections_behind {r : Reading first} (complete : r.ending = .complete) {s : Reading second}
    (freeFirst : ∀ token ∈ r.tokens, isSeparator token = false)
    (freeSecond : ∀ token ∈ s.tokens, isSeparator token = false) :
    (r.behind complete s).sections = [r.tokens, r.movedTokens s] := by
  have moved := List.splitOnP_eq_singleton (isSeparator_movedTokens r freeSecond)
  rw [sections, tokens_behind, List.splitOnP_append_cons_of_forall_mem freeFirst _ rfl, moved]

namespace Accepted

open NumberFormat NumberSection

theorem leading {pattern : String} {r : Reading pattern} (accepted : r.Accepted)
    (free : SeparatorFree pattern) : SectionAccepted 0 r.tokens := by
  have all := accepted.sections
  rw [sections_eq_singleton accepted free] at all
  exact (sectionsAccepted_cons.mp all).1

/-- A section may stand behind a separator if its commas are matched. -/
theorem behind {r : Reading first} (accepted : r.Accepted) (free : SeparatorFree first)
    {s : Reading second} (complete : s.ending = .complete)
    (freeSecond : ∀ token ∈ s.tokens, isSeparator token = false)
    (commas : strayComma? s.tokens = none) : (r.behind accepted.complete s).Accepted where
  nonempty := by
    intro empty
    have chars := congrArg String.toList empty
    simp at chars
  complete := complete
  separators := by
    have none_first := List.filter_eq_nil_iff.mpr fun token member =>
      Bool.eq_false_iff.mp (isSeparator_eq_false accepted free token member)
    have none_second := List.filter_eq_nil_iff.mpr fun token member =>
      Bool.eq_false_iff.mp (isSeparator_movedTokens r freeSecond token member)
    rw [Reading.separators, tokens_behind, List.filter_append, none_first, List.filter_cons,
      none_second]
    exact Nat.le_succ 1
  sections := by
    rw [sections_behind accepted.complete (isSeparator_eq_false accepted free) freeSecond]
    have matched : CommasMatched (r.movedTokens s) :=
      strayComma?_eq_none.mp (strayComma?_congr (map_movedTokens r s).symm commas)
    have second : SectionAccepted 1 (r.movedTokens s) :=
      ⟨matched, fun leading => absurd leading Nat.one_ne_zero⟩
    have no_more : SectionsAccepted 2 [] := fun i tokens there => by simp at there
    exact sectionsAccepted_cons.mpr
      ⟨accepted.leading free, sectionsAccepted_cons.mpr ⟨second, no_more⟩⟩

end Accepted

end Reading

end NumberToken

/-! ### Formatting -/

namespace NumberFormat

open NumberToken NumberSection

/-- A format of one section, or of two, the second of which may be empty. -/
structure Sections (f : NumberFormat) (first : NumberSection) (second : Option NumberSection) :
    Prop where
  first : f.section? 0 = some first
  second : f.section? 1 = second
  third : f.section? 2 = none

theorem sections_alone {pattern : String} {r : Reading pattern} (free : SeparatorFree pattern)
    {f : NumberFormat} (ok : ofPattern pattern = .ok f) : f.Sections (ofTokens r.tokens) none := by
  have accepted := accepted_of_ofPattern r ok
  have single := sections_eq_mapIdx r ok
  rw [Reading.sections_eq_singleton accepted free] at single
  constructor <;> rw [section?, single] <;> simp [sectionAt]

theorem exists_behind {first second : String} {r : Reading first} {s : Reading second}
    (accepted : r.Accepted) (free : SeparatorFree first) (complete : s.ending = .complete)
    (freeSecond : ∀ token ∈ s.tokens, isSeparator token = false)
    (commas : strayComma? s.tokens = none) :
    ∃ f, ofPattern (first ++ ";" ++ second) = .ok f ∧
      f.Sections (ofTokens r.tokens) (sectionAt 1 s.tokens) := by
  obtain ⟨f, ok⟩ := (accepted.behind free complete freeSecond commas).ofPattern_ok
  refine ⟨f, ok, ?_⟩
  have both := sections_eq_mapIdx (r.behind accepted.complete s) ok
  rw [Reading.sections_behind accepted.complete (Reading.isSeparator_eq_false accepted free)
    freeSecond] at both
  have moved := sectionAt_congr (Reading.map_movedTokens r s) 1
  constructor <;> rw [section?, both]
  · simp [sectionAt]
  · simp [moved]
  · simp

/-- A number that is not below zero does not ask for the second section. -/
theorem choose_of_not_lt {f : NumberFormat} {x : Double} (notBelow : ¬x < 0.0)
    (s : NumberSection) : f.choose s x = (s, false) := by
  rw [choose]
  split <;> simp [notBelow]

theorem format_congr {f g : NumberFormat} {x : Double} (first : f.section? 0 = g.section? 0)
    (second : x < 0.0 → f.section? 1 = g.section? 1) (third : f.section? 2 = g.section? 2)
    (currency : f.currency = g.currency) : f.format x = g.format x := by
  have chosen (s : NumberSection) : f.choose s x = g.choose s x := by
    by_cases negative : x < 0.0
    · rw [choose, choose, second negative]
    · rw [choose_of_not_lt negative, choose_of_not_lt negative]
  rw [format, format, first]
  simp only [chosen, third, currency]

/-- What a number is shown as where no third section stands in for zero. -/
theorem format_shown {f : NumberFormat} {leading s : NumberSection} {ownSign : Bool} {x : Double}
    {digits : RoundedDigits} (first : f.section? 0 = some leading) (third : f.section? 2 = none)
    (finite : x.isFinite = true) (chosen : f.choose leading x = (s, ownSign))
    (shown : s.digits? x.abs = some digits) :
    f.format x = s.render digits (x < 0.0 && !ownSign &&
      !(if s.hasPlaceholders then digits.isZero else x.abs == 0.0)) f.currency := by
  rw [format, first]
  simp only [finite, Bool.not_true, Bool.false_eq_true, if_false, chosen, shown, third]

section Signs

variable {f : NumberFormat} {s : NumberSection} {x : Double} {digits : RoundedDigits}

theorem format_positive {second : Option NumberSection} (sections : f.Sections s second)
    (finite : x.isFinite = true) (positive : 0.0 < x) (shown : s.digits? x.abs = some digits) :
    f.format x = s.render digits false f.currency := by
  obtain ⟨notBelow, -⟩ := Double.not_lt_zero_and_neg_lt_zero positive
  rw [format_shown sections.first sections.third finite (choose_of_not_lt notBelow s) shown]
  simp [notBelow]

/-- Without a section of its own a number below zero has a sign, unless it shows zeros only. -/
theorem format_negative_alone (sections : f.Sections s none) (places : s.hasPlaceholders = true)
    (finite : x.isFinite = true) (positive : 0.0 < x) (shown : s.digits? x.abs = some digits) :
    f.format (-x) = s.render digits (!digits.isZero) f.currency := by
  obtain ⟨-, below⟩ := Double.not_lt_zero_and_neg_lt_zero positive
  have chosen : f.choose s (-x) = (s, false) := by rw [choose, sections.second]
  rw [← Double.abs_neg] at shown
  rw [← Double.isFinite_neg] at finite
  rw [format_shown sections.first sections.third finite chosen shown]
  simp [below, places]

theorem format_negative_behind {first : NumberSection} (sections : f.Sections first (some s))
    (finite : x.isFinite = true) (positive : 0.0 < x) (shown : s.digits? x.abs = some digits) :
    f.format (-x) = s.render digits false f.currency := by
  obtain ⟨-, below⟩ := Double.not_lt_zero_and_neg_lt_zero positive
  have chosen : f.choose first (-x) = (s, true) := by
    rw [choose, sections.second]
    exact if_pos below
  rw [← Double.abs_neg] at shown
  rw [← Double.isFinite_neg] at finite
  rw [format_shown sections.first sections.third finite chosen shown]
  simp

end Signs

/-- Scaling by the leading section leaves a number finite. -/
def Fits (f : NumberFormat) (x : Double) : Prop :=
  ∀ s, f.section? 0 = some s → (s.scaled x.abs).isFinite = true

theorem Fits.digits?_eq {f : NumberFormat} {x : Double} (fits : f.Fits x) {s : NumberSection}
    (first : f.section? 0 = some s) :
    s.digits? x.abs = some (s.place (Double.roundMagnitude (s.scaled x.abs))) :=
  if_pos (fits s first)

/-- Digits are what a format shows of a number: its text is made of them and of the fixed texts of
    the leading section. -/
def Prints (f : NumberFormat) (x : Double) (digits : RoundedDigits) : Prop :=
  ∃ s text, f.section? 0 = some s ∧ s.digits? x.abs = some digits ∧
    f.format x = String.ofList text ∧
    Leaves f.currency.toList s.items text (withCommas s.grouping digits.whole ++
      if digits.fraction = [] then [] else '.' :: digits.fraction)

/-- Zero has no sign, whatever its sign bit is. -/
theorem format_neg_zero {f : NumberFormat} {positive : NumberSection}
    (first : f.section? 0 = some positive)
    (fits : ∀ index s, f.section? index = some s → (s.scaled 0.0).isFinite = true) :
    f.format (-0.0) = f.format 0.0 := by
  have magnitudes : Float.abs (-0.0) = 0.0 ∧ Float.abs 0.0 = 0.0 := by decide +kernel
  have finite : Double.isFinite (-0.0) = true ∧ Double.isFinite 0.0 = true := by decide +kernel
  have notBelow : ¬(-0.0 : Double) < 0.0 ∧ ¬(0.0 : Double) < 0.0 := by decide +kernel
  have shown {index : ℕ} {s : NumberSection} (found : f.section? index = some s) :
      s.digits? 0.0 = some (s.place (Double.roundMagnitude (s.scaled 0.0))) :=
    if_pos (fits index s found)
  rw [format, format, first]
  simp only [magnitudes, finite, choose_of_not_lt notBelow.1, choose_of_not_lt notBelow.2, notBelow,
    shown first, Bool.not_true, Bool.false_eq_true, if_false]
  cases third : f.section? 2 with
  | none => rfl
  | some zero => simp only [shown third]

theorem Sections.withCurrency {f : NumberFormat} {first : NumberSection}
    {second : Option NumberSection} (sections : f.Sections first second) (currency : String) :
    (f.withCurrency currency).Sections first second :=
  ⟨sections.first, sections.second, sections.third⟩

theorem isZero_iff {digits : RoundedDigits} :
    digits.isZero = true ↔ ∀ c ∈ digits.whole ++ digits.fraction, c = '0' := by
  simp only [RoundedDigits.isZero, List.all_eq_true, decide_eq_true_eq]

/-- What a single section prints of a number says whether its opposite has a sign. -/
theorem exists_prints {f : NumberFormat} {tokens : List PlacedToken}
    (sections : f.Sections (ofTokens tokens) none) (leading : SectionAccepted 0 tokens) {x : Double}
    (finite : x.isFinite = true) (positive : 0.0 < x) (fits : f.Fits x) :
    ∃ digits, f.Prints x digits ∧
      f.format (-x) = if ∀ c ∈ digits.whole ++ digits.fraction, c = '0' then f.format x
        else "-" ++ f.format x := by
  have places := hasPlaceholders_ofTokens leading
  obtain ⟨digits, shown, room⟩ : ∃ digits, (ofTokens tokens).digits? x.abs = some digits ∧
      digits.fraction.length ≤ (ofTokens tokens).maxFraction :=
    ⟨_, fits.digits?_eq sections.first,
      length_fraction_place _ (minFraction_le_maxFraction tokens) _⟩
  obtain ⟨text, written, leaves⟩ :=
    render_leaves _ (ofTokens_arranged tokens) places room f.currency
  have above := (format_positive sections finite positive shown).trans (written false)
  refine ⟨digits, ⟨_, text, sections.first, shown, above, leaves⟩, ?_⟩
  rw [format_negative_alone sections places finite positive shown, written, above]
  by_cases zeros : ∀ c ∈ digits.whole ++ digits.fraction, c = '0'
  · rw [if_pos zeros, isZero_iff.mpr zeros]
    rfl
  · rw [if_neg zeros, Bool.eq_false_iff.mpr (mt isZero_iff.mp zeros)]
    exact String.ofList_append

/-- A number above zero is written by the first of two sections and its opposite by the second, as
    each of them does alone. -/
theorem exists_format_behind {first second : String} (freeFirst : SeparatorFree first)
    (freeSecond : SeparatorFree second) {a b : NumberFormat} (okFirst : ofPattern first = .ok a)
    (okSecond : ofPattern second = .ok b) :
    ∃ f, ofPattern (first ++ ";" ++ second) = .ok f ∧
      ∀ currency {x : Double}, x.isFinite = true → 0.0 < x →
        (f.withCurrency currency).format x = (a.withCurrency currency).format x ∧
          (b.Fits x →
            (f.withCurrency currency).format (-x) = (b.withCurrency currency).format x) := by
  obtain ⟨r⟩ := nonempty_reading first
  obtain ⟨s⟩ := nonempty_reading second
  have acceptedFirst := accepted_of_ofPattern r okFirst
  have acceptedSecond := accepted_of_ofPattern s okSecond
  have aloneFirst : a.Sections (ofTokens r.tokens) none := sections_alone freeFirst okFirst
  have aloneSecond : b.Sections (ofTokens s.tokens) none := sections_alone freeSecond okSecond
  have leading := acceptedSecond.leading freeSecond
  have filled : sectionAt 1 s.tokens = some (ofTokens s.tokens) := by
    obtain ⟨token, member, -⟩ := leading.digits rfl
    simp [sectionAt, List.ne_nil_of_mem member]
  obtain ⟨f, ok, sections⟩ := exists_behind acceptedFirst freeFirst acceptedSecond.complete
    (Reading.isSeparator_eq_false acceptedSecond freeSecond)
    (strayComma?_eq_none.mpr leading.commas)
  rw [filled] at sections
  refine ⟨f, ok, ?_⟩
  intro currency x finite positive
  constructor
  · have notBelow := (Double.not_lt_zero_and_neg_lt_zero positive).1
    exact format_congr (sections.first.trans aloneFirst.first.symm)
      (fun below => absurd below notBelow) (sections.third.trans aloneFirst.third.symm) rfl
  · intro fits
    have shown := fits.digits?_eq aloneSecond.first
    rw [format_negative_behind (sections.withCurrency currency) finite positive shown,
      format_positive (aloneSecond.withCurrency currency) finite positive shown]
    rfl

/-- An empty section behind the first one changes nothing. -/
theorem exists_format_empty_behind {first : String} (free : SeparatorFree first) {a : NumberFormat}
    (ok : ofPattern first = .ok a) :
    ∃ f, ofPattern (first ++ ";") = .ok f ∧
      ∀ currency x, (f.withCurrency currency).format x = (a.withCurrency currency).format x := by
  obtain ⟨r⟩ := nonempty_reading first
  have accepted := accepted_of_ofPattern r ok
  have alone : a.Sections (ofTokens r.tokens) none := sections_alone free ok
  let nothing : Reading "" := ⟨[], .complete, rfl⟩
  have complete : nothing.ending = .complete := rfl
  obtain ⟨f, okBehind, sections⟩ :=
    exists_behind accepted free complete (List.forall_mem_nil _) rfl
  rw [String.append_empty] at okBehind
  refine ⟨f, okBehind, ?_⟩
  intro currency x
  exact format_congr (sections.first.trans alone.first.symm)
    (fun _ => sections.second.trans alone.second.symm) (sections.third.trans alone.third.symm) rfl

/-- Sections are independent and signs are symmetric. A pattern with a separator between two others
    writes a number above zero as the first does and its opposite as the second does, without a
    sign. If nothing follows the separator, every number is written as the first pattern does. A
    pattern without separators writes the opposite of a number like the number if it prints only
    zeros of it, and otherwise with a sign in front. And -0 is written like 0 by all patterns whose
    sections can scale it. -/
theorem sections_independent {first second : String} (freeFirst : SeparatorFree first)
    (freeSecond : SeparatorFree second) {a b : NumberFormat} (okFirst : ofPattern first = .ok a)
    (okSecond : ofPattern second = .ok b) (currency : String) :
    (∃ f, ofPattern (first ++ ";" ++ second) = .ok f ∧
      ∀ x : Double, x.isFinite = true → 0.0 < x →
        (f.withCurrency currency).format x = (a.withCurrency currency).format x ∧
          (b.Fits x →
            (f.withCurrency currency).format (-x) = (b.withCurrency currency).format x)) ∧
      (∃ f, ofPattern (first ++ ";") = .ok f ∧
        ∀ x, (f.withCurrency currency).format x = (a.withCurrency currency).format x) ∧
      (∀ x : Double, x.isFinite = true → 0.0 < x → a.Fits x →
        ∃ digits, (a.withCurrency currency).Prints x digits ∧
          (a.withCurrency currency).format (-x) =
            if ∀ c ∈ digits.whole ++ digits.fraction, c = '0' then
              (a.withCurrency currency).format x
            else "-" ++ (a.withCurrency currency).format x) ∧
      ∀ pattern f, ofPattern pattern = .ok f →
        (∀ index s, f.section? index = some s → (s.scaled 0.0).isFinite = true) →
        (f.withCurrency currency).format (-0.0) = (f.withCurrency currency).format 0.0 := by
  refine ⟨?_, ?_, ?_, ?_⟩
  · obtain ⟨f, ok, writes⟩ := exists_format_behind freeFirst freeSecond okFirst okSecond
    exact ⟨f, ok, fun x => writes currency⟩
  · obtain ⟨f, ok, writes⟩ := exists_format_empty_behind freeFirst okFirst
    exact ⟨f, ok, writes currency⟩
  · intro x finite positive fits
    obtain ⟨r⟩ := nonempty_reading first
    have leading := (accepted_of_ofPattern r okFirst).leading freeFirst
    have alone : a.Sections (ofTokens r.tokens) none := sections_alone freeFirst okFirst
    exact exists_prints (alone.withCurrency currency) leading finite positive fits
  · intro pattern f ok fits
    obtain ⟨s, found⟩ := exists_leading ok
    exact format_neg_zero found fits

/-- The format of a whole number in parentheses. -/
def parentheses : NumberFormat where
  pattern := "(0)"
  sections :=
    [some
      { items := [.literal ['('], .wholeDigit, .literal [')']]
        wholeCount := 1
        minWhole := 1
        minFraction := 0
        maxFraction := 0
        grouping := false
        multiplier := 1.0 }]
  currency := defaultCurrency

theorem sections_independent_parentheses :
    SeparatorFree "#,##0.###" ∧ SeparatorFree "(0)" ∧ ofPattern "#,##0.###" = .ok decimal ∧
      ofPattern "(0)" = .ok parentheses ∧ Double.isFinite 7.0 = true ∧ (0.0 : Double) < 7.0 ∧
      decimal.Fits 7.0 ∧ parentheses.Fits 7.0 ∧
      (∀ index s, decimal.section? index = some s → (s.scaled 0.0).isFinite = true) ∧
      (∃ f, ofPattern "#,##0.###;(0)" = .ok f ∧
        (f.withCurrency "$").format 7.0 = "7" ∧ (f.withCurrency "$").format (-7.0) = "(7)") ∧
      (decimal.withCurrency "$").format (-7.0) = "-7" ∧
      (decimal.withCurrency "$").format (-0.0) = (decimal.withCurrency "$").format 0.0 := by
  have freeFirst : SeparatorFree "#,##0.###" := separatorFree_of_not_mem (by decide)
  have freeSecond : SeparatorFree "(0)" := separatorFree_of_not_mem (by decide)
  have okFirst : ofPattern "#,##0.###" = .ok decimal := rfl
  have okSecond : ofPattern "(0)" = .ok parentheses := rfl
  have finite : Double.isFinite 7.0 = true := by decide +kernel
  have positive : (0.0 : Double) < 7.0 := by decide +kernel
  have fitsFirst : decimal.Fits 7.0 := by
    intro s found
    obtain rfl := Option.some.inj found
    decide +kernel
  have fitsSecond : parentheses.Fits 7.0 := by
    intro s found
    obtain rfl := Option.some.inj found
    decide +kernel
  have fitsZero : ∀ index s, decimal.section? index = some s → (s.scaled 0.0).isFinite = true := by
    rintro (_ | index) s found
    · obtain rfl := Option.some.inj found
      decide +kernel
    · cases found
  obtain ⟨⟨f, ok, both⟩, -, signs, zero⟩ :=
    sections_independent freeFirst freeSecond okFirst okSecond "$"
  have joined : "#,##0.###" ++ ";" ++ "(0)" = "#,##0.###;(0)" := by decide +kernel
  rw [joined] at ok
  obtain ⟨first, second⟩ := both 7.0 finite positive
  have plain : (decimal.withCurrency "$").format 7.0 = "7" := by decide +kernel
  have inside : (parentheses.withCurrency "$").format 7.0 = "(7)" := by decide +kernel
  have seven : NumberSection.decimal.digits? (Float.abs 7.0) = some ⟨['7'], []⟩ := by
    decide +kernel
  refine ⟨freeFirst, freeSecond, okFirst, okSecond, finite, positive, fitsFirst, fitsSecond,
    fitsZero, ⟨f, ok, first.trans plain, (second fitsSecond).trans inside⟩, ?_,
    zero _ _ okFirst fitsZero⟩
  obtain ⟨digits, ⟨s, text, found, shown, -⟩, opposite⟩ := signs 7.0 finite positive fitsFirst
  obtain rfl := Option.some.inj found
  obtain rfl := Option.some.inj (seven.symm.trans shown)
  have nonzero : ¬∀ c ∈ ['7'] ++ [], c = '0' := fun zeros =>
    absurd (zeros '7' List.mem_cons_self) (by decide)
  rw [opposite, if_neg nonzero, plain]
  rfl

end NumberFormat

end PageMap
