import PageMap.Proofs.NumberFormat.Sections
/-! # Sections without places for digits

A section may have no placeholder, unless it is the first one. Then it puts out its texts and
nothing of the number, as long as it has no point. At its first point, however, it puts out the
digits of the scaled number, as every section does that has no placeholder before the point.
-/

namespace PageMap

namespace NumberToken

/-- What a token puts out if no token is a placeholder. A point is text behind another one. -/
def text (currency : List Char) : NumberToken → List Char
  | .literal text => text
  | .percent => ['%']
  | .perMille => ['‰']
  | .currency => currency
  | .point => ['.']
  | .zero | .digit | .comma | .separator => []

def texts (currency : List Char) (tokens : List NumberToken) : List Char :=
  tokens.flatMap (text currency)

end NumberToken

namespace NumberSection

open NumberToken

section Items

variable (s : NumberSection) (whole : List (List Char)) (currency : List Char) (left : ℕ)
  (fraction : List Char)

theorem renderItems_fixed {item : NumberItem} {fixed : List Char}
    (stands : item.fixedText? currency = some fixed) (items : List NumberItem) :
    renderItems s whole currency left fraction (item :: items) =
      fixed ++ renderItems s whole currency left fraction items := by
  cases item with
  | currency | literal =>
      obtain rfl := Option.some.inj stands
      rfl
  | wholeDigit | fractionDigit | point => cases stands

/-- Tokens that stand for fixed texts or for nothing put out their texts. -/
theorem renderItems_texts {item? : NumberToken → Option NumberItem} {tokens : List NumberToken}
    (stand : ∀ token ∈ tokens,
      (item? token).elim (some []) (·.fixedText? currency) = some (token.text currency))
    (items : List NumberItem) :
    renderItems s whole currency left fraction (tokens.filterMap item? ++ items) =
      texts currency tokens ++ renderItems s whole currency left fraction items := by
  induction tokens with
  | nil => rfl
  | cons token tokens ih =>
      obtain ⟨here, later⟩ := List.forall_mem_cons.mp stand
      rw [texts, List.flatMap_cons, List.append_assoc, ← texts, ← ih later]
      cases made : item? token with
      | none =>
          rw [made] at here
          have nothing : [] = token.text currency := Option.some.inj here
          rw [List.filterMap_cons_none made, ← nothing, List.nil_append]
      | some item =>
          rw [made] at here
          rw [List.filterMap_cons_some made]
          exact renderItems_fixed s whole currency left fraction here _

end Items

theorem wholeItem?_text {currency : List Char} {token : NumberToken} (noPoint : token ≠ .point)
    (noDigit : token.isPlaceholder = false) :
    (wholeItem? token).elim (some []) (·.fixedText? currency) = some (token.text currency) := by
  cases token with
  | zero | digit => cases noDigit
  | point => exact absurd rfl noPoint
  | comma | percent | perMille | currency | separator | literal => rfl

theorem fractionItem?_text {currency : List Char} {token : NumberToken}
    (noDigit : token.isPlaceholder = false) :
    (fractionItem? token).elim (some []) (·.fixedText? currency) = some (token.text currency) := by
  cases token with
  | zero | digit => cases noDigit
  | point | comma | percent | perMille | currency | separator | literal => rfl

theorem items_noPoint {tokens : List PlacedToken} (noPoint : .point ∉ tokens.map (·.2)) :
    (ofTokens tokens).items = (tokens.map (·.2)).filterMap wholeItem? := by
  have before : ∀ token ∈ tokens.map (·.2), decide (token ≠ .point) = true := fun token member =>
    decide_eq_true fun point => noPoint (point ▸ member)
  have whole : wholeTokens tokens = tokens.map (·.2) := List.takeWhile_eq_self_iff.mpr before
  have fraction : pointTokens tokens = [] := List.dropWhile_eq_nil_iff.mpr before
  rw [ofTokens, whole, fraction]
  exact List.append_nil _

theorem items_point {tokens : List PlacedToken} {front behind : List NumberToken}
    (split : tokens.map (·.2) = front ++ .point :: behind) (first : .point ∉ front) :
    (ofTokens tokens).items =
      front.filterMap wholeItem? ++ .point :: behind.filterMap fractionItem? := by
  have before : ∀ token ∈ front, decide (token ≠ .point) = true := fun token member =>
    decide_eq_true fun point => first (point ▸ member)
  have whole : wholeTokens tokens = front := by
    rw [wholeTokens, split, List.takeWhile_append_of_pos before,
      List.takeWhile_cons_of_neg (by simp), List.append_nil]
  have fraction : pointTokens tokens = .point :: behind := by
    rw [pointTokens, split, List.dropWhile_append_of_pos before,
      List.dropWhile_cons_of_neg (by simp)]
  rw [ofTokens, whole, fraction]
  rfl

theorem flatten_grouped_false (digits : List Char) : (grouped false digits).flatten = digits := by
  induction digits with
  | nil => rfl
  | cons c digits ih => simp [grouped, ih]

/-- No token is a placeholder. -/
def Plain (tokens : List PlacedToken) : Prop :=
  ∀ token ∈ tokens, token.2.isPlaceholder = false

namespace Plain

variable {tokens : List PlacedToken}

theorem of_mem {tokens : List PlacedToken} (plain : Plain tokens) :
    ∀ token ∈ tokens.map (·.2), token.isPlaceholder = false := by
  intro token member
  obtain ⟨placed, inTokens, rfl⟩ := List.mem_map.mp member
  exact plain placed inTokens

theorem placeholders_eq (plain : Plain tokens) {part : List NumberToken}
    (isPart : part ⊆ tokens.map (·.2)) : placeholders part = [] :=
  List.filter_eq_nil_iff.mpr fun token member =>
    Bool.eq_false_iff.mp (plain.of_mem token (isPart member))

theorem groups_eq {part : List NumberToken} (plain : ∀ token ∈ part, token.isPlaceholder = false) :
    groups part = false := by
  induction part with
  | nil => rfl
  | cons token part ih =>
      obtain ⟨-, later⟩ := List.forall_mem_cons.mp plain
      have none_later : part.any (·.isPlaceholder) = false := by simpa using later
      rw [groups, none_later, ih later, Bool.and_false, Bool.or_false]

variable (plain : Plain tokens)
include plain

theorem counts : (ofTokens tokens).wholeCount = 0 ∧ (ofTokens tokens).minWhole = 0 ∧
    (ofTokens tokens).maxFraction = 0 ∧ (ofTokens tokens).grouping = false := by
  have whole : placeholders (wholeTokens tokens) = [] :=
    plain.placeholders_eq (List.takeWhile_sublist _).subset
  have fraction : placeholders (pointTokens tokens) = [] :=
    plain.placeholders_eq (List.dropWhile_sublist _).subset
  have ungrouped : groups (wholeTokens tokens) = false := groups_eq fun token member =>
    plain.of_mem token ((List.takeWhile_sublist _).subset member)
  refine ⟨?_, ?_, ?_, ungrouped⟩
  · exact List.length_eq_zero_iff.mpr whole
  · simp [ofTokens, whole]
  · exact List.length_eq_zero_iff.mpr fraction

theorem hasPlaceholders : (ofTokens tokens).hasPlaceholders = false := by
  obtain ⟨whole, -, fraction, -⟩ := plain.counts
  rw [NumberSection.hasPlaceholders, whole, fraction]
  rfl

/-- All digits of a number are in front of the point. -/
theorem place_eq (n : ℕ) : (ofTokens tokens).place n = ⟨significantDigits n, []⟩ := by
  obtain ⟨-, leastWhole, mostFraction, -⟩ := plain.counts
  have least := minFraction_le_maxFraction tokens
  have short := (ofTokens tokens).length_fraction_place least n
  obtain ⟨whole, -⟩ := (ofTokens tokens).place_digits least n
  rw [mostFraction] at short
  rw [leastWhole, mostFraction, pow_zero, Nat.div_one] at whole
  have none : ((ofTokens tokens).place n).fraction = [] :=
    List.eq_nil_of_length_eq_zero (Nat.le_zero.mp short)
  have both : (ofTokens tokens).place n =
      ⟨((ofTokens tokens).place n).whole, ((ofTokens tokens).place n).fraction⟩ := rfl
  rw [both, whole, none]
  simp [List.leftpad]

/-- Without a point nothing of a number is written. -/
theorem render_noPoint (noPoint : .point ∉ tokens.map (·.2)) (n : ℕ) (currency : String) :
    (ofTokens tokens).render ((ofTokens tokens).place n) false currency =
      String.ofList (texts currency.toList (tokens.map (·.2))) := by
  have stand : ∀ token ∈ tokens.map (·.2), (wholeItem? token).elim (some [])
      (·.fixedText? currency.toList) = some (token.text currency.toList) := fun token member =>
    wholeItem?_text (fun point => noPoint (point ▸ member)) (plain.of_mem token member)
  rw [render, items_noPoint noPoint, ← List.append_nil (List.filterMap _ _),
    renderItems_texts _ _ _ _ _ stand, renderItems]
  simp

/-- The digits of a number are written at the first point. -/
theorem render_point {front behind : List NumberToken}
    (split : tokens.map (·.2) = front ++ .point :: behind) (first : .point ∉ front) (n : ℕ)
    (currency : String) :
    (ofTokens tokens).render ((ofTokens tokens).place n) false currency =
      String.ofList (texts currency.toList front ++ significantDigits n ++
        texts currency.toList behind) := by
  obtain ⟨wholeCount, -, -, ungrouped⟩ := plain.counts
  have noDigit := plain.of_mem
  rw [split] at noDigit
  have standFront : ∀ token ∈ front, (wholeItem? token).elim (some [])
      (·.fixedText? currency.toList) = some (token.text currency.toList) := fun token member =>
    wholeItem?_text (fun point => first (point ▸ member)) (noDigit token (by simp [member]))
  have standBehind : ∀ token ∈ behind, (fractionItem? token).elim (some [])
      (·.fixedText? currency.toList) = some (token.text currency.toList) := fun token member =>
    fractionItem?_text (noDigit token (by simp [member]))
  rw [render, items_point split first, renderItems_texts _ _ _ _ _ standFront, renderItems,
    ← List.append_nil (List.filterMap _ behind), renderItems_texts _ _ _ _ _ standBehind,
    plain.place_eq, ungrouped, wholeCount, if_pos rfl, flatten_grouped_false, renderItems]
  simp

end Plain

end NumberSection

namespace NumberFormat

open NumberToken NumberSection

variable {f : NumberFormat}

/-- Only the leading section writes signs, and it has placeholders. -/
theorem sign_eq_false {pattern : String} (ok : ofPattern pattern = .ok f) {x : Double}
    {s : NumberSection} {sign : Bool} (shown : f.shownBy? x = some (s, sign))
    (none_placed : s.hasPlaceholders = false) : sign = false := by
  rw [shownBy?] at shown
  cases first : f.section? 0 with
  | none => simp [first] at shown
  | some positive =>
      simp only [first] at shown
      split at shown
      · cases shown
      · split at shown
        case h_1 => exact (Prod.mk.inj (Option.some.inj shown)).2.symm
        case h_2 =>
          obtain ⟨chosen, rfl⟩ := Prod.mk.inj (Option.some.inj shown)
          rw [choose] at chosen ⊢
          split at chosen
          case h_1 =>
            split at chosen
            case isTrue below => simp [below]
            case isFalse =>
              rw [← chosen, hasPlaceholders_leading ok first] at none_placed
              cases none_placed
          case h_2 =>
            rw [← chosen, hasPlaceholders_leading ok first] at none_placed
            cases none_placed

/-- What is written of a number by a section without placeholders. -/
theorem format_plain {pattern : String} (ok : ofPattern pattern = .ok f) (currency : String)
    {tokens : List PlacedToken} (plain : Plain tokens) {x : Double} (finite : x.isFinite = true)
    {sign : Bool} (shown : f.shownBy? x = some (ofTokens tokens, sign))
    (fits : ((ofTokens tokens).scaled x.abs).isFinite = true) :
    (f.withCurrency currency).format x = (ofTokens tokens).render
      ((ofTokens tokens).place (Double.roundMagnitude ((ofTokens tokens).scaled x.abs))) false
      currency := by
  obtain rfl := sign_eq_false ok shown plain.hasPlaceholders
  have shown : (f.withCurrency currency).shownBy? x = some (ofTokens tokens, false) := shown
  have rounded : (ofTokens tokens).digits? x.abs =
      some ((ofTokens tokens).place (Double.roundMagnitude ((ofTokens tokens).scaled x.abs))) :=
    if_pos fits
  rw [format_eq _ finite, shown]
  simp only [rounded]
  rfl

/-- A section without placeholders writes only its texts, for every number and without a sign, if it
    has no point either. With a point it writes the digits of the number there, scaled and rounded
    to a whole number. -/
theorem literal_sections {pattern : String} (r : Reading pattern) (ok : ofPattern pattern = .ok f)
    (currency : String) {index : ℕ} {tokens : List PlacedToken}
    (isSection : r.sections[index]? = some tokens) (some_token : tokens ≠ [])
    (plain : ∀ token ∈ tokens, token.2.isPlaceholder = false) :
    f.section? index = some (ofTokens tokens) ∧
      ∀ {x : Double} {sign : Bool}, x.isFinite = true →
        f.shownBy? x = some (ofTokens tokens, sign) →
        ((ofTokens tokens).scaled x.abs).isFinite = true →
        let n := Double.roundMagnitude ((ofTokens tokens).scaled x.abs)
        let text := texts currency.toList
        (.point ∉ tokens.map (·.2) →
          (f.withCurrency currency).format x = String.ofList (text (tokens.map (·.2)))) ∧
        ∀ front behind, tokens.map (·.2) = front ++ .point :: behind → .point ∉ front →
          (f.withCurrency currency).format x =
            String.ofList (text front ++ significantDigits n ++ text behind) := by
  constructor
  · rw [section?, sections_eq_mapIdx r ok, List.getElem?_mapIdx, isSection]
    simp [sectionAt, some_token]
  · intro x sign finite shown fits n text
    have written := format_plain ok currency plain finite shown fits
    rw [written]
    exact ⟨fun noPoint => Plain.render_noPoint plain noPoint n currency,
      fun front behind split first => Plain.render_point plain split first n currency⟩

/-- Digits are shown at a point without a placeholder. -/
theorem literal_section_shows_digits : ∃ f, ofPattern "0;none." = .ok f ∧
    (f.section? 1).map (·.hasPlaceholders) = some false ∧
    f.format (-5.0) = "none5" ∧ f.format (-6.0) = "none6" := by
  refine ⟨_, rfl, rfl, ?_, ?_⟩ <;> decide +kernel

/-- The texts of a quote, a currency sign and a percent sign, which scales in vain. -/
theorem literal_sections_quoted :
    ∃ (r : Reading "0;'n/a'¤%") (tokens : List PlacedToken) (f : NumberFormat),
      ofPattern "0;'n/a'¤%" = .ok f ∧ r.sections[1]? = some tokens ∧ tokens ≠ [] ∧
        (∀ token ∈ tokens, token.2.isPlaceholder = false) ∧ Double.isFinite (-5.0) = true ∧
        f.shownBy? (-5.0) = some (ofTokens tokens, false) ∧
        ((ofTokens tokens).scaled (Float.abs (-5.0))).isFinite = true ∧
        NumberToken.point ∉ tokens.map (·.2) ∧
        (f.withCurrency "€").format (-5.0) = "n/a€%" := by
  let r : Reading "0;'n/a'¤%" :=
    { lexemes := [.plain '0' (by decide), .plain ';' (by decide),
        .quoted '\'' ['n', '/', 'a'] (by decide) (by decide), .plain '¤' (by decide),
        .plain '%' (by decide)]
      ending := .complete
      written := rfl }
  let tokens : List PlacedToken := [(2, .literal ['n', '/', 'a']), (7, .currency), (9, .percent)]
  let f : NumberFormat :=
    { pattern := "0;'n/a'¤%"
      sections := [some (ofTokens [(0, .zero)]), some (ofTokens tokens)]
      currency := defaultCurrency }
  have ok : ofPattern "0;'n/a'¤%" = .ok f := rfl
  have isSection : r.sections[1]? = some tokens := rfl
  have some_token : tokens ≠ [] := by decide
  have plain : ∀ token ∈ tokens, token.2.isPlaceholder = false := by decide
  have finite : Double.isFinite (-5.0) = true := by decide +kernel
  have negative : (-5.0 : Double) < 0.0 := by decide +kernel
  have scaled : ((ofTokens tokens).scaled (Float.abs (-5.0))).isFinite = true := by decide +kernel
  have noPoint : NumberToken.point ∉ tokens.map (·.2) := by decide
  obtain ⟨found, written⟩ := literal_sections r ok "€" isSection some_token plain
  have shown : f.shownBy? (-5.0) = some (ofTokens tokens, false) := by
    have first : f.section? 0 = some (ofTokens [(0, .zero)]) := rfl
    have second : f.section? 1 = some (ofTokens tokens) := found
    have third : f.section? 2 = none := rfl
    simp [shownBy?, choose, first, second, third, negative, digits?, scaled]
  exact ⟨r, tokens, f, ok, isSection, some_token, plain, finite, shown, scaled, noPoint,
    (written finite shown scaled).1 noPoint⟩

end NumberFormat

end PageMap
