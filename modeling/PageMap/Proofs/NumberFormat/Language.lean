import PageMap.NumberFormat
import PageMap.Proofs.NumberFormat.Lexeme
/-! # Which number patterns are accepted

A pattern is accepted if all its quotes and escapes are complete, it has at most three sections, the
first of them has a place for a digit, and no comma stands in front of all digits before the point.
Any other pattern is refused for the first reason in a fixed order, and the position in the error is
that of the character that is to blame.
-/

namespace PageMap

namespace NumberToken

/-! ### Sections -/

def isSeparator (token : PlacedToken) : Bool :=
  token.2 = .separator

theorem sectionsFrom_eq (room : Nat) (current tokens : List PlacedToken) :
    sectionsFrom room current tokens = match (tokens.filter isSeparator)[room]? with
      | some extra => .error extra.1
      | none => .ok (tokens.splitOnPPrepend isSeparator current) := by
  induction tokens generalizing room current with
  | nil => rfl
  | cons token rest ih =>
      obtain ⟨position, token⟩ := token
      rw [List.splitOnPPrepend.eq_def, List.filter_cons]
      simp only
      by_cases separates : token = .separator
      · subst separates
        have here : isSeparator (position, .separator) = true := rfl
        rw [if_pos here, if_pos here]
        cases room with
        | zero => rfl
        | succ room =>
            rw [sectionsFrom, ih, List.getElem?_cons_succ]
            cases (rest.filter isSeparator)[room]? <;> rfl
      · have other : ¬isSeparator (position, token) = true := by simpa [isSeparator] using separates
        have next : sectionsFrom room current ((position, token) :: rest) =
            sectionsFrom room ((position, token) :: current) rest := by
          cases token <;> first | rfl | exact absurd rfl separates
        rw [if_neg other, if_neg other, next, ih]

theorem mem_of_mem_splitOnPPrepend {token : PlacedToken} {current tokens part : List PlacedToken}
    (isPart : part ∈ tokens.splitOnPPrepend isSeparator current) (member : token ∈ part) :
    token ∈ current ∨ token ∈ tokens := by
  induction tokens generalizing current with
  | nil =>
      obtain rfl := List.mem_singleton.mp isPart
      exact .inl (List.mem_reverse.mp member)
  | cons first rest ih =>
      rw [List.splitOnPPrepend.eq_def] at isPart
      simp only at isPart
      split at isPart
      · rcases List.mem_cons.mp isPart with rfl | later
        · exact .inl (List.mem_reverse.mp member)
        · rcases ih later with none_yet | inside
          · cases none_yet
          · exact .inr (List.mem_cons_of_mem _ inside)
      · rcases ih isPart with before | inside
        · rcases List.mem_cons.mp before with rfl | earlier
          · exact .inr List.mem_cons_self
          · exact .inl earlier
        · exact .inr (List.mem_cons_of_mem _ inside)

namespace Reading

variable {pattern : String} (r : Reading pattern)

def separators : List PlacedToken :=
  r.tokens.filter isSeparator

/-- The tokens between the separators. -/
def sections : List (List PlacedToken) :=
  r.tokens.splitOnP isSeparator

theorem sections_eq : NumberToken.sections r.tokens = match r.separators[2]? with
    | some extra => .error extra.1
    | none => .ok r.sections :=
  sectionsFrom_eq 2 [] r.tokens

end Reading

/-! ### Commas and placeholders -/

/-- Every comma before the first point has a placeholder to its left. -/
def CommasMatched (tokens : List PlacedToken) : Prop :=
  ∀ before position after, tokens = before ++ (position, .comma) :: after →
    (∀ token ∈ before, token.2 ≠ .point) → ∃ token ∈ before, token.2.isPlaceholder = true

/-- The first comma before the point that has no placeholder to its left is at a position. -/
def FirstStrayComma (tokens : List PlacedToken) (position : Nat) : Prop :=
  ∃ before after, tokens = before ++ (position, .comma) :: after ∧
    ∀ token ∈ before, token.2 ≠ .point ∧ token.2.isPlaceholder = false ∧ token.2 ≠ .comma

section Cons

variable {token : PlacedToken} {rest : List PlacedToken}

theorem commasMatched_cons : CommasMatched (token :: rest) ↔ token.2 ≠ .comma ∧
    (token.2 = .point ∨ token.2.isPlaceholder = true ∨ CommasMatched rest) := by
  constructor
  · intro matched
    refine ⟨fun comma => ?_, ?_⟩
    · obtain ⟨found, member, -⟩ := matched [] token.1 rest (by rw [← comma]; rfl)
        (fun _ member => nomatch member)
      cases member
    · by_cases point : token.2 = .point
      · exact .inl point
      by_cases digit : token.2.isPlaceholder = true
      · exact .inr (.inl digit)
      refine .inr (.inr fun before position after here free => ?_)
      obtain ⟨found, member, isDigit⟩ := matched (token :: before) position after
        (congrArg _ here) (List.forall_mem_cons.mpr ⟨point, free⟩)
      rcases List.mem_cons.mp member with rfl | inside
      · exact absurd isDigit digit
      · exact ⟨found, inside, isDigit⟩
  · rintro ⟨noComma, rest_matched⟩ before position after here free
    cases before with
    | nil => exact absurd (congrArg Prod.snd (List.cons.inj here).1) noComma
    | cons first before =>
        obtain ⟨rfl, later⟩ := List.cons.inj here
        obtain ⟨noPoint, free⟩ := List.forall_mem_cons.mp free
        rcases rest_matched with point | digit | matched
        · exact absurd point noPoint
        · exact ⟨token, List.mem_cons_self, digit⟩
        · obtain ⟨found, member, digit⟩ := matched before position after later free
          exact ⟨found, List.mem_cons_of_mem _ member, digit⟩

theorem firstStrayComma_cons {position : Nat} : FirstStrayComma (token :: rest) position ↔
    token = (position, .comma) ∨
      (token.2 ≠ .point ∧ token.2.isPlaceholder = false ∧ token.2 ≠ .comma) ∧
        FirstStrayComma rest position := by
  constructor
  · rintro ⟨before, after, here, free⟩
    cases before with
    | nil => exact .inl (List.cons.inj here).1
    | cons first before =>
        obtain ⟨rfl, later⟩ := List.cons.inj here
        obtain ⟨other, free⟩ := List.forall_mem_cons.mp free
        exact .inr ⟨other, before, after, later, free⟩
  · rintro (rfl | ⟨other, before, after, rfl, free⟩)
    · exact ⟨[], rest, rfl, fun _ member => nomatch member⟩
    · exact ⟨token :: before, after, rfl, List.forall_mem_cons.mpr ⟨other, free⟩⟩

end Cons

end NumberToken

namespace NumberSection

open NumberToken

theorem strayComma?_eq_none {tokens : List PlacedToken} :
    strayComma? tokens = none ↔ CommasMatched tokens := by
  induction tokens with
  | nil => simp [strayComma?, CommasMatched]
  | cons token rest ih =>
      obtain ⟨position, token⟩ := token
      rw [strayComma?, commasMatched_cons, ← ih]
      cases token <;> simp [isPlaceholder]

theorem strayComma?_eq_some {tokens : List PlacedToken} {position : Nat} :
    strayComma? tokens = some position ↔ FirstStrayComma tokens position := by
  induction tokens with
  | nil => simp [strayComma?, FirstStrayComma]
  | cons token rest ih =>
      obtain ⟨start, token⟩ := token
      rw [strayComma?, firstStrayComma_cons, ← ih]
      cases token <;> simp [isPlaceholder]

theorem placeholders_isEmpty (tokens : List PlacedToken) :
    ((placeholders (wholeTokens tokens)).isEmpty && (placeholders (pointTokens tokens)).isEmpty) =
      true ↔ ∀ token ∈ tokens, token.2.isPlaceholder = false := by
  have both : wholeTokens tokens ++ pointTokens tokens = tokens.map (·.2) :=
    List.takeWhile_append_dropWhile
  simp only [Bool.and_eq_true, List.isEmpty_iff, placeholders, List.filter_eq_nil_iff,
    Bool.not_eq_true]
  rw [← List.forall_mem_append, both]
  exact List.forall_mem_map

end NumberSection

/-! ### The compiler -/

namespace NumberFormat

open NumberToken NumberSection

/-- What is asked of a section: its commas have to be matched, and the leading section needs a place
    for a digit. -/
structure SectionAccepted (index : Nat) (tokens : List PlacedToken) : Prop where
  commas : CommasMatched tokens
  digits : index = 0 → ∃ token ∈ tokens, token.2.isPlaceholder = true

/-- Why a section is refused. Commas are looked at first. -/
inductive SectionFault (pattern : String) (index : Nat) (tokens : List PlacedToken) :
    FormatError → Prop where
  | strayComma {position : Nat} : FirstStrayComma tokens position →
      SectionFault pattern index tokens (.unmatchedGroupSeparator pattern position)
  | noDigit : CommasMatched tokens → index = 0 →
      (∀ token ∈ tokens, token.2.isPlaceholder = false) →
      SectionFault pattern index tokens (.missingDigitPlaceholder pattern 0)

section Compile

variable {pattern : String} {index : Nat} {tokens : List PlacedToken}

theorem compileSection_stray {position : Nat} (stray : FirstStrayComma tokens position) :
    compileSection pattern index tokens = .error (.unmatchedGroupSeparator pattern position) := by
  have found := strayComma?_eq_some.mpr stray
  cases tokens with
  | nil => cases found
  | cons token rest => simp [compileSection, compile, found]

theorem compileSection_noDigit (commas : CommasMatched tokens) (leading : index = 0)
    (blank : ∀ token ∈ tokens, token.2.isPlaceholder = false) :
    compileSection pattern index tokens = .error (.missingDigitPlaceholder pattern 0) := by
  subst leading
  have none_stray := strayComma?_eq_none.mpr commas
  have none_digit := (placeholders_isEmpty tokens).mpr blank
  simp only [Bool.and_eq_true] at none_digit
  simp [compileSection, compile, none_stray, none_digit]

theorem compileSection_accepted (pattern : String) (accepted : SectionAccepted index tokens) :
    ∃ s, compileSection pattern index tokens = .ok s := by
  rw [compileSection]
  split
  · exact ⟨none, rfl⟩
  · have has_digit : ¬(decide (index = 0) && (placeholders (wholeTokens tokens)).isEmpty &&
        (placeholders (pointTokens tokens)).isEmpty) = true := by
      rw [Bool.and_assoc, Bool.and_eq_true, decide_eq_true_iff, placeholders_isEmpty]
      rintro ⟨leading, blank⟩
      obtain ⟨token, member, digit⟩ := accepted.digits leading
      rw [blank token member] at digit
      cases digit
    simp only [compile, strayComma?_eq_none.mpr accepted.commas, if_neg has_digit]
    exact ⟨_, rfl⟩

theorem SectionFault.compileSection_eq {e : FormatError}
    (fault : SectionFault pattern index tokens e) :
    compileSection pattern index tokens = .error e := by
  cases fault with
  | strayComma stray => exact compileSection_stray stray
  | noDigit commas leading blank => exact compileSection_noDigit commas leading blank

theorem accepted_or_fault (pattern : String) (index : Nat) (tokens : List PlacedToken) :
    SectionAccepted index tokens ∨ ∃ e, SectionFault pattern index tokens e := by
  cases stray : strayComma? tokens with
  | some position => exact .inr ⟨_, .strayComma (strayComma?_eq_some.mp stray)⟩
  | none =>
      have commas := strayComma?_eq_none.mp stray
      by_cases digit : ∃ token ∈ tokens, token.2.isPlaceholder = true
      · exact .inl ⟨commas, fun _ => digit⟩
      by_cases leading : index = 0
      · refine .inr ⟨_, .noDigit commas leading fun token member => ?_⟩
        exact Bool.eq_false_iff.mpr fun isDigit => digit ⟨token, member, isDigit⟩
      · exact .inl ⟨commas, fun zero => absurd zero leading⟩

end Compile

/-- What is asked of all sections, the first of which has an index. -/
def SectionsAccepted (index : Nat) (sections : List (List PlacedToken)) : Prop :=
  ∀ i tokens, sections[i]? = some tokens → SectionAccepted (index + i) tokens

theorem sectionsAccepted_cons {index : Nat} {tokens : List PlacedToken}
    {rest : List (List PlacedToken)} : SectionsAccepted index (tokens :: rest) ↔
      SectionAccepted index tokens ∧ SectionsAccepted (index + 1) rest := by
  constructor
  · intro accepted
    refine ⟨accepted 0 tokens rfl, fun i later there => ?_⟩
    rw [Nat.add_assoc, Nat.add_comm 1]
    exact accepted (i + 1) later there
  · rintro ⟨first, later⟩ i other there
    cases i with
    | zero =>
        obtain rfl := Option.some.inj there
        exact first
    | succ i =>
        rw [Nat.add_comm i, ← Nat.add_assoc]
        exact later i other there

/-- Why sections are refused: the first one that is not accepted decides. -/
inductive SectionsFault (pattern : String) :
    Nat → List (List PlacedToken) → FormatError → Prop where
  | first {index : Nat} {tokens : List PlacedToken} {rest : List (List PlacedToken)}
      {e : FormatError} :
      SectionFault pattern index tokens e → SectionsFault pattern index (tokens :: rest) e
  | later {index : Nat} {tokens : List PlacedToken} {rest : List (List PlacedToken)}
      {e : FormatError} : SectionAccepted index tokens →
      SectionsFault pattern (index + 1) rest e → SectionsFault pattern index (tokens :: rest) e

section CompileSections

variable {pattern : String} {index : Nat} {sections : List (List PlacedToken)}

theorem compileSections_accepted (pattern : String) (accepted : SectionsAccepted index sections) :
    ∃ compiled, compileSections pattern index sections = .ok compiled := by
  induction sections generalizing index with
  | nil => exact ⟨[], rfl⟩
  | cons tokens rest ih =>
      obtain ⟨here, later⟩ := sectionsAccepted_cons.mp accepted
      obtain ⟨first, compiled⟩ := compileSection_accepted pattern here
      obtain ⟨others, compiledLater⟩ := ih later
      refine ⟨first :: others, ?_⟩
      rw [compileSections, compiled, compiledLater]
      rfl

theorem SectionsFault.compileSections_eq {e : FormatError}
    (fault : SectionsFault pattern index sections e) :
    compileSections pattern index sections = .error e := by
  induction fault with
  | first here =>
      rw [compileSections, here.compileSection_eq]
      rfl
  | later here _ ih =>
      obtain ⟨first, compiled⟩ := compileSection_accepted pattern here
      rw [compileSections, compiled, ih]
      rfl

theorem sectionsAccepted_or_fault (pattern : String) (index : Nat)
    (sections : List (List PlacedToken)) :
    SectionsAccepted index sections ∨ ∃ e, SectionsFault pattern index sections e := by
  induction sections generalizing index with
  | nil => exact .inl fun _ _ there => nomatch there
  | cons tokens rest ih =>
      rcases accepted_or_fault pattern index tokens with here | ⟨e, fault⟩
      · rcases ih (index + 1) with later | ⟨e, fault⟩
        · exact .inl (sectionsAccepted_cons.mpr ⟨here, later⟩)
        · exact .inr ⟨e, .later here fault⟩
      · exact .inr ⟨e, .first fault⟩

end CompileSections

end NumberFormat

/-! ### Patterns -/

namespace NumberToken.Reading

open NumberFormat

variable {pattern : String}

/-- A pattern in the language: it is not empty, its quotes and escapes are complete, it has at most
    two separators, and its sections are accepted. -/
structure Accepted (r : Reading pattern) : Prop where
  nonempty : pattern ≠ ""
  complete : r.ending = .complete
  separators : r.separators.length ≤ 2
  sections : SectionsAccepted 0 r.sections

/-- Why a pattern is not in the language. The reasons are given in the order in which they count. -/
inductive Fault (r : Reading pattern) : FormatError → Prop where
  | empty : pattern = "" → r.Fault .emptyPattern
  | openQuote {mark : Char} {text : List Char} {opens : IsMark mark} {inside : mark ∉ text} :
      r.ending = .openQuote mark text opens inside → r.Fault (.unterminatedQuote pattern r.length)
  | openEscape : r.ending = .openEscape → r.Fault (.trailingEscape pattern r.length)
  | thirdSeparator {extra : PlacedToken} : r.ending = .complete →
      r.separators[2]? = some extra → r.Fault (.tooManySections pattern extra.1)
  | sections {e : FormatError} : pattern ≠ "" → r.ending = .complete → r.separators.length ≤ 2 →
      SectionsFault pattern 0 r.sections e → r.Fault e

theorem of_empty (r : Reading pattern) (empty : pattern = "") :
    r.tokens = [] ∧ r.ending = .complete := by
  obtain ⟨lexemes, ending, written⟩ := r
  subst empty
  obtain ⟨none_read, none_left⟩ := List.append_eq_nil_iff.mp written.symm
  refine ⟨?_, ?_⟩
  · cases lexemes with
    | nil => rfl
    | cons lexeme rest => cases lexeme <;> cases none_read
  · cases ending with
    | complete => rfl
    | openQuote _ _ _ _ | openEscape => cases none_left

/-- A pattern that is not empty goes through all steps of the compiler. -/
theorem ofPattern_eq (r : Reading pattern) (nonempty : pattern ≠ "") :
    ofPattern pattern = match r.ending with
      | .openQuote .. => .error (.unterminatedQuote pattern r.length)
      | .openEscape => .error (.trailingEscape pattern r.length)
      | .complete => match r.separators[2]? with
        | some extra => .error (.tooManySections pattern extra.1)
        | none => (compileSections pattern 0 r.sections).map fun compiled =>
            ⟨pattern, compiled, defaultCurrency⟩ := by
  have filled : ¬pattern.isEmpty = true := by rwa [String.isEmpty_iff]
  rw [ofPattern, if_neg filled, r.scan_eq]
  cases r.ending with
  | openQuote mark text opens inside => rfl
  | openEscape => rfl
  | complete =>
      simp only [Ending.result, r.sections_eq]
      cases r.separators[2]? with
      | some extra => rfl
      | none => rfl

theorem Accepted.ofPattern_ok {r : Reading pattern} (accepted : r.Accepted) :
    ∃ f, ofPattern pattern = .ok f := by
  obtain ⟨compiled, sections⟩ := compileSections_accepted pattern accepted.sections
  have room : r.separators[2]? = none := List.getElem?_eq_none accepted.separators
  rw [r.ofPattern_eq accepted.nonempty, accepted.complete]
  simp only [room, sections]
  exact ⟨_, rfl⟩

theorem Fault.ofPattern_error {r : Reading pattern} {e : FormatError} (fault : r.Fault e) :
    ofPattern pattern = .error e := by
  cases fault with
  | empty blank =>
      subst blank
      rfl
  | openQuote ending =>
      have nonempty : pattern ≠ "" := fun blank => by cases ending.symm.trans (r.of_empty blank).2
      rw [r.ofPattern_eq nonempty, ending]
  | openEscape ending =>
      have nonempty : pattern ≠ "" := fun blank => by cases ending.symm.trans (r.of_empty blank).2
      rw [r.ofPattern_eq nonempty, ending]
  | thirdSeparator ending extra =>
      have nonempty : pattern ≠ "" := fun blank => by
        rw [separators, (r.of_empty blank).1] at extra
        cases extra
      rw [r.ofPattern_eq nonempty, ending]
      simp only [extra]
  | sections nonempty ending room fault =>
      have room : r.separators[2]? = none := List.getElem?_eq_none room
      rw [r.ofPattern_eq nonempty, ending]
      simp only [room, fault.compileSections_eq]
      rfl

theorem accepted_or_fault (r : Reading pattern) : r.Accepted ∨ ∃ e, r.Fault e := by
  by_cases nonempty : pattern = ""
  · exact .inr ⟨_, .empty nonempty⟩
  cases ending : r.ending with
  | openQuote mark text opens inside => exact .inr ⟨_, .openQuote ending⟩
  | openEscape => exact .inr ⟨_, .openEscape ending⟩
  | complete =>
      cases third : r.separators[2]? with
      | some extra => exact .inr ⟨_, .thirdSeparator ending third⟩
      | none =>
          have room : r.separators.length ≤ 2 := List.getElem?_eq_none_iff.mp third
          rcases sectionsAccepted_or_fault pattern 0 r.sections with accepted | ⟨e, fault⟩
          · exact .inl ⟨nonempty, ending, room, accepted⟩
          · exact .inr ⟨e, .sections nonempty ending room fault⟩

/-! ### Positions -/

/-- A token that is no literal comes from a single character. -/
theorem exists_char_of_mem (r : Reading pattern) {token : PlacedToken} (member : token ∈ r.tokens)
    {c : Char} (own : ∀ d, ofChar d = token.2 → d = c) (special : ∀ text, token.2 ≠ .literal text) :
    ∃ before after, pattern.toList = before ++ c :: after ∧ byteLength before = token.1 := by
  obtain ⟨before, lexeme, after, lexemes, rfl⟩ := exists_lexeme_of_mem member
  have chars : lexeme.chars = [c] := by
    cases lexeme with
    | plain d bare => exact congrArg (fun c => [c]) (own d rfl)
    | quoted _ text _ _ => exact absurd rfl (special text)
    | escaped d => exact absurd rfl (special [d])
  refine ⟨before.flatMap Lexeme.chars, after.flatMap Lexeme.chars ++ r.ending.chars, ?_, ?_⟩
  · rw [r.written, lexemes, List.flatMap_append, List.flatMap_cons, chars]
    simp
  · rw [Nat.zero_add]

end NumberToken.Reading

/-- The position that an error gives. -/
def FormatError.position? : FormatError → Option Nat
  | .unterminatedQuote _ position | .trailingEscape _ position | .tooManySections _ position
  | .unmatchedGroupSeparator _ position => some position
  | .emptyPattern | .missingDigitPlaceholder _ _ | .invalidDatePattern _ => none

/-- The characters that an error can point at. -/
def FormatError.Blames (c : Char) : FormatError → Prop
  | .unterminatedQuote _ _ => NumberToken.IsMark c
  | .trailingEscape _ _ => c = '\\'
  | .tooManySections _ _ => c = ';'
  | .unmatchedGroupSeparator _ _ => c = ','
  | .emptyPattern | .missingDigitPlaceholder _ _ | .invalidDatePattern _ => False

namespace NumberFormat

open NumberToken

variable {pattern : String}

theorem SectionsFault.position {index : Nat} {sections : List (List PlacedToken)} {e : FormatError}
    (fault : SectionsFault pattern index sections e) {position : Nat}
    (given : e.position? = some position) :
    e = .unmatchedGroupSeparator pattern position ∧
      ∃ tokens ∈ sections, (position, NumberToken.comma) ∈ tokens := by
  induction fault with
  | first here =>
      cases here with
      | strayComma stray =>
          obtain ⟨before, after, rfl, -⟩ := stray
          obtain rfl := Option.some.inj given
          exact ⟨rfl, _, List.mem_cons_self,
            List.mem_append_right _ List.mem_cons_self⟩
      | noDigit _ _ _ => cases given
  | later _ _ ih =>
      obtain ⟨kind, tokens, member, comma⟩ := ih given
      exact ⟨kind, tokens, List.mem_cons_of_mem _ member, comma⟩

end NumberFormat

namespace NumberToken

open NumberFormat

theorem ofChar_eq_separator {c : Char} (separates : ofChar c = .separator) : c = ';' := by
  unfold ofChar at separates
  split at separates <;> cases separates
  rfl

theorem ofChar_eq_comma {c : Char} (comma : ofChar c = .comma) : c = ',' := by
  unfold ofChar at comma
  split at comma <;> cases comma
  rfl

/-- The position in an error is the byte offset of a character that the error can point at. -/
theorem Reading.Fault.blames {pattern : String} {r : Reading pattern} {e : FormatError}
    (fault : r.Fault e) {position : Nat} (given : e.position? = some position) :
    ∃ before c after, pattern.toList = before ++ c :: after ∧ byteLength before = position ∧
      e.Blames c := by
  cases fault with
  | empty _ => cases given
  | @openQuote mark text opens inside ending =>
      obtain rfl := Option.some.inj given
      refine ⟨r.lexemes.flatMap Lexeme.chars, mark, text, ?_, rfl, opens⟩
      rw [r.written, ending]
      rfl
  | openEscape ending =>
      obtain rfl := Option.some.inj given
      refine ⟨r.lexemes.flatMap Lexeme.chars, '\\', [], ?_, rfl, rfl⟩
      rw [r.written, ending]
      rfl
  | @thirdSeparator extra ending third =>
      obtain rfl := Option.some.inj given
      obtain ⟨member, separates⟩ := List.mem_filter.mp (List.mem_of_getElem? third)
      have kind : extra.2 = .separator := of_decide_eq_true separates
      obtain ⟨before, after, split, start⟩ := r.exists_char_of_mem member
        (fun d same => ofChar_eq_separator (same.trans kind))
        (fun text literal => by cases kind.symm.trans literal)
      exact ⟨before, ';', after, split, start, rfl⟩
  | sections _ _ _ fault =>
      obtain ⟨rfl, tokens, isSection, comma⟩ := fault.position given
      have member : (position, NumberToken.comma) ∈ r.tokens :=
        (mem_of_mem_splitOnPPrepend isSection comma).resolve_left (fun none_yet => nomatch none_yet)
      obtain ⟨before, after, split, start⟩ := r.exists_char_of_mem member
        (fun d same => ofChar_eq_comma same) (fun text literal => nomatch literal)
      exact ⟨before, ',', after, split, start, rfl⟩

end NumberToken

namespace NumberFormat

open NumberToken

/-- Which patterns are compiled, and why others are not. A pattern can be read as lexemes with an
    ending. It is compiled if and only if this reading is accepted; otherwise the first fault of the
    reading is the error, and the position in the error is the byte offset of a character of the
    pattern that the error can point at. -/
theorem ofPattern_language (pattern : String) :
    Nonempty (Reading pattern) ∧ ∀ r : Reading pattern,
      ((∃ f, ofPattern pattern = .ok f) ↔ r.Accepted) ∧
      (∀ e, ofPattern pattern = .error e ↔ r.Fault e) ∧
      ∀ e position, ofPattern pattern = .error e → e.position? = some position →
        ∃ before c after, pattern.toList = before ++ c :: after ∧ byteLength before = position ∧
          e.Blames c := by
  refine ⟨nonempty_reading pattern, fun r => ?_⟩
  have compiled : (∃ f, ofPattern pattern = .ok f) ↔ r.Accepted := by
    refine ⟨fun ⟨f, ok⟩ => ?_, fun accepted => accepted.ofPattern_ok⟩
    rcases r.accepted_or_fault with accepted | ⟨e, fault⟩
    · exact accepted
    · cases ok.symm.trans fault.ofPattern_error
  have refused (e : FormatError) : ofPattern pattern = .error e ↔ r.Fault e := by
    refine ⟨fun error => ?_, fun fault => fault.ofPattern_error⟩
    rcases r.accepted_or_fault with accepted | ⟨other, fault⟩
    · obtain ⟨f, ok⟩ := accepted.ofPattern_ok
      cases ok.symm.trans error
    · obtain rfl := Except.error.inj (fault.ofPattern_error.symm.trans error)
      exact fault
  exact ⟨compiled, refused, fun e position error given => ((refused e).mp error).blames given⟩

end NumberFormat

end PageMap
