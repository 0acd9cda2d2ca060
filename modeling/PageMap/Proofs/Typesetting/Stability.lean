import PageMap.Proofs.Typesetting.Lines
/-! # A line is not broken again

Setting a line again takes the decisions by which it was filled: its first piece is not cut again,
and each word behind it still fits, as what stands before it is the same. So a line that was set
once stays as it is, even if it is wider than the limit.
-/

namespace PageMap

namespace Measure

open Text

variable {m : Measure}

theorem Row.wrap_eq {row : List (List Char)} (is : m.Row row) (all : ∀ piece ∈ row, IsWord piece) :
    m.wrap (joined row) = [joined row] := by
  have filled : ∀ piece ∈ row, piece ≠ [] := fun piece member => (all piece member).nonempty
  have again := is.fill_eq filled []
  rw [List.append_nil] at again
  rw [wrap, words_joined all, again]
  rfl

/-- The lines of a paragraph are paragraphs of one line. -/
theorem wrap_line {paragraph line : List Char} (member : line ∈ m.wrap paragraph) :
    m.wrap line = [line] := by
  obtain ⟨rows, filling, fills⟩ := m.wrap_fills paragraph
  rw [filling] at member
  obtain ⟨row, inRows, rfl⟩ := List.mem_map.mp member
  by_cases wordless : words paragraph = []
  · rw [wordless] at fills
    cases fills
    obtain rfl := List.mem_singleton.mp inRows
    rfl
  · have isRow := fills.isRow_of_words wordless row inRows
    exact isRow.wrap_eq (fills.isWord_of_words row inRows)

/-- A line has no line feed, as its only blanks are single spaces. -/
theorem lineFeed_not_mem {paragraph line : List Char} (member : line ∈ m.wrap paragraph) :
    '\n' ∉ line := by
  obtain ⟨rows, filling, fills⟩ := m.wrap_fills paragraph
  rw [filling] at member
  obtain ⟨row, inRows, rfl⟩ := List.mem_map.mp member
  have all := fills.isWord_of_words row inRows
  intro lineFeed
  rcases mem_joined lineFeed with space | ⟨piece, inRow, inPiece⟩
  · cases space
  · have solid := (all piece inRow).solid '\n' inPiece
    cases solid

end Measure

namespace Composer

theorem lineFeed_not_mem_splitOn {text paragraph : List Char}
    (member : paragraph ∈ text.splitOn '\n') : '\n' ∉ paragraph := by
  induction text generalizing paragraph with
  | nil =>
      obtain rfl := List.mem_singleton.mp member
      exact List.not_mem_nil
  | cons c text ih =>
      obtain ⟨first, others, split⟩ := List.exists_cons_of_ne_nil (List.splitOn_ne_nil '\n' text)
      rw [List.splitOn_cons_eq_if_modifyHead, split] at member
      rw [split] at ih
      split at member
      case isTrue =>
        rcases List.mem_cons.mp member with rfl | later
        · exact List.not_mem_nil
        · exact ih later
      case isFalse other =>
        rcases List.mem_cons.mp member with rfl | later
        · have here : c ≠ '\n' := by simpa using other
          exact List.not_mem_cons_of_ne_of_not_mem here.symm (ih List.mem_cons_self)
        · exact ih (List.mem_cons_of_mem first later)

variable {glyph : Single} {wrapping : Wrapping} {limit : Option Single}
  {paragraph line : List Char}

theorem paragraphLines_line
    (member : line ∈ paragraphLines glyph wrapping limit paragraph) :
    paragraphLines glyph wrapping limit line = [line] := by
  cases limit with
  | none => rfl
  | some limit =>
      rw [paragraphLines] at member ⊢
      split at member
      case isTrue wraps =>
        rw [if_pos wraps]
        exact Measure.wrap_line member
      case isFalse unwrapping => rw [if_neg unwrapping]

theorem lineFeed_not_mem_paragraphLines (none : '\n' ∉ paragraph)
    (member : line ∈ paragraphLines glyph wrapping limit paragraph) : '\n' ∉ line := by
  cases limit with
  | none =>
      obtain rfl := List.mem_singleton.mp member
      exact none
  | some limit =>
      rw [paragraphLines] at member
      split at member
      · exact Measure.lineFeed_not_mem member
      · obtain rfl := List.mem_singleton.mp member
        exact none

/-- A line that was set is set again as one line, whether it is taken as a paragraph or as a text of
    its own. -/
theorem uniform_stable (factor : Single) (text : String) (style : TextStyle)
    (limit : Option Single) :
    ∀ line ∈ (uniform factor text style limit).lines,
      paragraphLines (advance factor style) style.wrapping limit line.toList = [line.toList] ∧
        (uniform factor line style limit).lines = if line = "" then [] else [line] := by
  intro line member
  obtain ⟨chars, inLines, rfl⟩ := List.mem_map.mp member
  rw [String.toList_ofList]
  rw [textLines] at inLines
  split at inLines
  · cases inLines
  obtain ⟨paragraph, inText, inParagraph⟩ := List.mem_flatMap.mp inLines
  have again := paragraphLines_line inParagraph
  have whole := lineFeed_not_mem_paragraphLines (lineFeed_not_mem_splitOn inText) inParagraph
  refine ⟨again, ?_⟩
  simp only [uniform, textLines, String.toList_ofList]
  cases chars with
  | nil => rfl
  | cons c cs => simp [List.splitOn_eq_singleton whole, again]

/-- A word that is wider than a line stays on its own. -/
theorem uniform_stable_overflow :
    let style := { TextStyle.default with size := 10.0, wrapping := .wrapWithOverflow }
    "unbreakable" ∈ (uniform 0.5 "an unbreakable word" style (some 20.0)).lines ∧
      (uniform 0.5 "unbreakable" style (some 20.0)).lines = ["unbreakable"] := by
  intro style
  have member : "unbreakable" ∈ (uniform 0.5 "an unbreakable word" style (some 20.0)).lines := by
    decide +kernel
  have again := (uniform_stable 0.5 "an unbreakable word" style (some 20.0) _ member).2
  exact ⟨member, again.trans (if_neg (by decide))⟩

end Composer

end PageMap
