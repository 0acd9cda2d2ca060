import PageMap.Proofs.Typesetting.Filling
import PageMap.Typesetting.Composer
/-! # What breaking into lines keeps

A line holds words or pieces of words with single spaces between them. Whatever widths are computed,
a word only ever goes behind what stands on the open line, onto a new line, or, where words are cut,
in pieces onto lines of their own. So nothing is lost, added or moved.
-/

namespace PageMap

open Text

/-! ### Words on lines -/

/-- How words may be set: `more` of them on the line that is open, and the others in `rows` below
    it. A word is put behind the ones before it or in front of a new row. Where words are cut, a
    piece takes a row of its own, and the rest of the word is in front of the next one. -/
inductive SetIn (cuts : Bool) :
    List (List Char) → List (List Char) → List (List (List Char)) → Prop where
  | nothing : SetIn cuts [] [] []
  | behind {word words more rows} : SetIn cuts words more rows →
      SetIn cuts (word :: words) (word :: more) rows
  | newRow {word words more rows} : SetIn cuts words more rows →
      SetIn cuts (word :: words) [] ((word :: more) :: rows)
  | cut {piece rest words rows} : cuts = true → piece ≠ [] → rest ≠ [] →
      SetIn cuts (rest :: words) [] rows →
      SetIn cuts ((piece ++ rest) :: words) [] ([piece] :: rows)

namespace SetIn

variable {cuts : Bool} {words more : List (List Char)} {rows : List (List (List Char))}

theorem flatten_eq (set : SetIn cuts words more rows) :
    (more ++ rows.flatten).flatten = words.flatten := by
  induction set with
  | nothing => rfl
  | behind _ ih | newRow _ ih => simpa using ih
  | cut _ _ _ _ ih => simpa using ih

/-- Where words are not cut, they are what is in the rows. -/
theorem whole (set : SetIn false words more rows) : more ++ rows.flatten = words := by
  induction set with
  | nothing => rfl
  | behind _ ih | newRow _ ih => simpa using ih
  | cut cuts => cases cuts

/-- A word may be set in any number of pieces, if its last piece is set as a word. -/
theorem pieces {last : List Char} (set : SetIn true (last :: words) [] rows) (filled : last ≠ [])
    {pieces : List (List Char)} (all : ∀ piece ∈ pieces, piece ≠ []) :
    SetIn true ((pieces ++ [last]).flatten :: words) []
      (pieces.map (fun piece => [piece]) ++ rows) := by
  induction pieces with
  | nil => simpa using set
  | cons piece pieces ih =>
      obtain ⟨here, later⟩ := List.forall_mem_cons.mp all
      have rest : (pieces ++ [last]).flatten ≠ [] := by
        rw [List.flatten_append, List.flatten_singleton]
        exact List.append_ne_nil_of_right_ne_nil _ filled
      exact .cut rfl here rest (ih later)

end SetIn

namespace Measure

variable {m : Measure}

/-- A word is set in the pieces that it is cut into. -/
theorem Cut.setIn {word last : List Char} {full words : List (List Char)}
    {rows : List (List (List Char))} (cut : m.Cut word full last) (filled : word ≠ [])
    (set : SetIn m.cuts (last :: words) [] rows) :
    SetIn m.cuts (word :: words) [] (full.map (fun piece => [piece]) ++ rows) := by
  by_cases uncut : full = []
  · subst uncut
    obtain rfl : last = word := by simpa using cut.whole
    exact set
  · have cuts := (cut.wide uncut).1
    have allFull : ∀ piece ∈ full, piece ≠ [] := fun piece member =>
      List.ne_nil_of_length_pos ((cut.length_full piece member).trans_gt pieceLength_pos)
    rw [cuts] at set ⊢
    have pieces := set.pieces (cut.last_ne_nil filled) allFull
    rwa [List.flatten_append, List.flatten_singleton, cut.whole] at pieces

/-- Rows that are filled hold the words in order, behind the open row if there is one. -/
theorem Fills.setIn {row words : List (List Char)} {rows : List (List (List Char))}
    (fills : m.Fills row words rows) (filled : ∀ word ∈ words, word ≠ []) :
    (row ≠ [] → ∃ more below, rows = (row ++ more) :: below ∧ SetIn m.cuts words more below) ∧
      (row = [] → words ≠ [] → SetIn m.cuts words [] rows) := by
  induction fills with
  | @done row =>
      refine ⟨fun _ => ⟨[], [], by rw [List.append_nil], .nothing⟩, ?_⟩
      exact fun _ some_word => absurd rfl some_word
  | @behind row words word rows some_row _ _ ih =>
      obtain ⟨more, below, rfl, set⟩ := (ih (List.forall_mem_cons.mp filled).2).1 (by simp)
      refine ⟨fun _ => ⟨word :: more, below, ?_, .behind set⟩, fun none => absurd none some_row⟩
      rw [List.append_assoc, List.singleton_append]
  | @closed row words word rows some_row _ _ ih =>
      have set := (ih filled).2 rfl (List.cons_ne_nil word words)
      refine ⟨fun _ => ⟨[], rows, ?_, set⟩, fun none => absurd none some_row⟩
      rw [List.append_nil]
  | front made _ ih =>
      obtain ⟨here, later⟩ := List.forall_mem_cons.mp filled
      obtain ⟨cut, -⟩ := cut_of_pieces here made
      obtain ⟨more, below, rfl, set⟩ := (ih later).1 (List.cons_ne_nil _ _)
      exact ⟨fun none => absurd rfl none, fun _ _ => cut.setIn here set.newRow⟩

/-- The lines of a paragraph that is broken. -/
structure Breaks (cuts : Bool) (paragraph : List Char) (lines : List (List Char)) : Prop where
  wordless : words paragraph = [] → lines = [[]]
  neat : words paragraph ≠ [] → ∀ line ∈ lines, Neat line
  /-- Every word is whole on a line or in pieces on consecutive lines. -/
  placed : words paragraph ≠ [] → SetIn cuts (words paragraph) [] (lines.map words)
  whole : cuts = false → lines.flatMap words = words paragraph
  complete : lines.flatMap solids = solids paragraph

theorem breaks_wordless {cuts : Bool} {paragraph : List Char} (none : words paragraph = []) :
    Breaks cuts paragraph [[]] where
  wordless _ := rfl
  neat some_word := absurd none some_word
  placed some_word := absurd none some_word
  whole _ := by
    rw [none]
    rfl
  complete := by
    rw [← flatten_words paragraph, none]
    rfl

/-- Rows that are filled with the words of a paragraph are its lines. -/
theorem breaks_of_fills {paragraph : List Char} {rows : List (List (List Char))}
    (some_word : words paragraph ≠ []) (fills : m.Fills [] (words paragraph) rows) :
    Breaks m.cuts paragraph (rows.map joined) := by
  have filled : ∀ word ∈ words paragraph, word ≠ [] := fun _ member =>
    (isWord_of_mem_words member).nonempty
  have set := (fills.setIn filled).2 rfl some_word
  have inRows := fills.isWord_of_words
  have isRow := fills.isRow_of_words some_word
  have wordsOf := map_words_joined inRows
  constructor
  case wordless =>
    intro none
    exact absurd none some_word
  case neat =>
    intro _ line member
    obtain ⟨row, inLines, rfl⟩ := List.mem_map.mp member
    exact neat_joined (isRow row inLines).ne_nil (inRows row inLines)
  case placed =>
    intro _
    rwa [wordsOf]
  case whole =>
    intro uncut
    rw [uncut] at set
    rw [List.flatMap_def, wordsOf]
    exact set.whole
  case complete =>
    rw [flatMap_solids, List.flatMap_def, wordsOf, ← flatten_words]
    exact set.flatten_eq

theorem wrap_breaks (m : Measure) (paragraph : List Char) :
    Breaks m.cuts paragraph (m.wrap paragraph) := by
  obtain ⟨rows, filling, fills⟩ := m.wrap_fills paragraph
  rw [filling]
  by_cases some_word : words paragraph = []
  · rw [some_word] at fills
    cases fills
    exact breaks_wordless some_word
  · exact breaks_of_fills some_word fills

theorem Breaks.ne_nil {cuts : Bool} {paragraph : List Char} {lines : List (List Char)}
    (breaks : Breaks cuts paragraph lines) : lines ≠ [] := by
  rintro rfl
  by_cases wordless : words paragraph = []
  · cases breaks.wordless wordless
  · have solids := breaks.complete
    rw [← flatten_words] at solids
    obtain ⟨word, words, split⟩ := List.exists_cons_of_ne_nil wordless
    have here : IsWord word := isWord_of_mem_words (split ▸ List.mem_cons_self)
    rw [split, List.flatten_cons] at solids
    exact here.nonempty (List.append_eq_nil_iff.mp solids.symm).1

end Measure

namespace Composer

/-- A composer breaks paragraphs: a width is given, the style wraps and glyphs have some width. -/
def Wraps (factor : Single) (style : TextStyle) (limit : Option Single) : Prop :=
  limit ≠ none ∧ style.wrapping ≠ .noWrap ∧ 0.0 < advance factor style

/-- The lines that a paragraph is set in. -/
structure Sets (factor : Single) (style : TextStyle) (limit : Option Single)
    (paragraph : List Char) (lines : List (List Char)) : Prop where
  nonempty : lines ≠ []
  kept : ¬Wraps factor style limit → lines = [paragraph]
  broken : Wraps factor style limit → Measure.Breaks (style.wrapping = .wrap) paragraph lines

theorem wraps_eq_true {wrapping : Wrapping} : wrapping.wraps = true ↔ wrapping ≠ .noWrap := by
  cases wrapping <;> simp [Wrapping.wraps]

theorem paragraphLines_sets (factor : Single) (style : TextStyle) (limit : Option Single)
    (paragraph : List Char) :
    Sets factor style limit paragraph
      (paragraphLines (advance factor style) style.wrapping limit paragraph) := by
  have unbroken (none_wraps : ¬Wraps factor style limit) :
      Sets factor style limit paragraph [paragraph] :=
    ⟨List.cons_ne_nil _ _, fun _ => rfl, fun wraps => absurd wraps none_wraps⟩
  cases limit with
  | none => exact unbroken fun wraps => wraps.1 rfl
  | some limit =>
      rw [paragraphLines]
      split
      case isTrue wrapping =>
        obtain ⟨wraps, wide⟩ := Bool.and_eq_true_iff.mp wrapping
        have breaks := Measure.wrap_breaks ⟨advance factor style, limit, style.wrapping = .wrap⟩
          paragraph
        refine ⟨breaks.ne_nil, fun none_wraps => absurd ?_ none_wraps, fun _ => breaks⟩
        exact ⟨Option.some_ne_none _, wraps_eq_true.mp wraps, of_decide_eq_true wide⟩
      case isFalse unwrapping =>
        refine unbroken fun ⟨_, wraps, wide⟩ => unwrapping ?_
        exact Bool.and_eq_true_iff.mpr ⟨wraps_eq_true.mpr wraps, decide_eq_true wide⟩

/-- The empty text has no lines. The lines of any other text are those of its paragraphs, in order,
    and no paragraph is without a line. Without wrapping a paragraph is its own line. With it, lines
    hold the words of the paragraph, cut only if the style says so. -/
theorem uniform_lines (factor : Single) (text : String) (style : TextStyle)
    (limit : Option Single) :
    (text = "" → (uniform factor text style limit).lines = []) ∧
      (text ≠ "" → ∃ groups : List (List (List Char)),
        (uniform factor text style limit).lines = groups.flatten.map String.ofList ∧
          List.Forall₂ (Sets factor style limit) (text.toList.splitOn '\n') groups) := by
  constructor
  · rintro rfl
    rfl
  · intro filled
    have some_char : ¬text.toList.isEmpty = true := by simpa using filled
    refine ⟨(text.toList.splitOn '\n').map
      (paragraphLines (advance factor style) style.wrapping limit), ?_, ?_⟩
    · simp only [uniform, textLines, if_neg some_char, List.flatMap_def]
    · exact List.forall₂_map_right_iff.mpr
        (List.forall₂_same.mpr fun paragraph _ => paragraphLines_sets factor style limit paragraph)

example : (uniform 0.5 "abcdefgh ij" { TextStyle.default with size := 10.0 } (some 20.0)).lines =
    ["abcd", "efgh", "ij"] := by
  decide +kernel

end Composer

end PageMap
