import PageMap.Proofs.Typesetting.Lines
/-! # Lines are filled greedily

A line takes every word that still fits, and a word goes to the next line only if it does not. Only
words that are too wide are cut, if words are cut at all; such a word starts on a new line, and its
pieces but the last one have the full length. Words are told apart by what stands before them: the
place of a word in the lines is known by the characters before it that are no blanks.
-/

namespace PageMap

namespace Measure

open Text

variable {m : Measure} {rows : List (List (List Char))}

section Places

variable {row words : List (List Char)}

/-- What is said of the rows behind the pieces of a word is said of the rows from the last piece
    on. -/
theorem exists_behind_pieces {full row : List (List Char)}
    {above below rows : List (List (List Char))} {rest : List Char} (filled : rest ≠ [])
    (split : full.map (fun piece => [piece]) ++ rows = above ++ row :: below)
    (count : (above ++ [row]).flatten.flatten = full.flatten ++ rest) :
    ∃ above, rows = above ++ row :: below ∧ (above ++ [row]).flatten.flatten = rest := by
  induction full generalizing above with
  | nil => exact ⟨above, split, by simpa using count⟩
  | cons piece full ih =>
      cases above with
      | nil =>
          obtain ⟨rfl, -⟩ := List.cons.inj split
          simp [filled] at count
      | cons first above =>
          rw [List.map_cons, List.cons_append, List.cons_append, List.cons.injEq] at split
          obtain ⟨rfl, split⟩ := split
          exact ih split (by simpa using count)

/-- The characters of the open row are on the first of the rows. -/
theorem Fills.exists_rest (fills : m.Fills row words rows) (opened : row ≠ [])
    {above below : List (List (List Char))} {last : List (List Char)}
    (split : rows = above ++ last :: below) :
    ∃ rest, (above ++ [last]).flatten.flatten = row.flatten ++ rest := by
  obtain ⟨more, others, rfl⟩ := fills.exists_more opened
  cases above with
  | nil =>
      obtain ⟨rfl, -⟩ := List.cons.inj split
      exact ⟨more.flatten, by simp⟩
  | cons first above =>
      obtain ⟨rfl, -⟩ := List.cons.inj split
      exact ⟨more.flatten ++ (above ++ [last]).flatten.flatten, by simp⟩

/-- A row is closed only if the next word does not fit there. -/
theorem Fills.not_fits (fills : m.Fills row words rows) (filled : ∀ word ∈ words, word ≠ [])
    (some_char : ∀ row ∈ rows, row.flatten ≠ []) {above below : List (List (List Char))}
    {last before after : List (List Char)} {word : List Char}
    (split : rows = above ++ last :: below) (place : words = before ++ word :: after)
    (count : (above ++ [last]).flatten.flatten = row.flatten ++ before.flatten) :
    m.fits (joined last) word = false := by
  induction fills generalizing above before with
  | done => simp at place
  | @behind row words next rows _ _ fills ih =>
      obtain ⟨here, later⟩ := List.forall_mem_cons.mp filled
      cases before with
      | nil =>
          -- The next word is on the first of the rows, so it is counted too early.
          obtain ⟨rest, early⟩ := fills.exists_rest (by simp) split
          rw [count] at early
          simp [here] at early
      | cons first before =>
          rw [List.cons_append, List.cons.injEq] at place
          obtain ⟨rfl, place⟩ := place
          exact ih later some_char split place (by simpa using count)
  | @closed row words next rows _ fits _ ih =>
      cases above with
      | nil =>
          obtain ⟨rfl, -⟩ := List.cons.inj split
          cases before with
          | nil =>
              obtain ⟨rfl, -⟩ := List.cons.inj place
              exact fits
          | cons first before =>
              have here := filled first (place ▸ List.mem_cons_self)
              simp [here] at count
      | cons first above =>
          rw [List.cons_append, List.cons.injEq] at split
          obtain ⟨rfl, split⟩ := split
          have others := (List.forall_mem_cons.mp some_char).2
          exact ih filled others split place (by simpa using count)
  | @front words full next piece rows made _ ih =>
      obtain ⟨here, later⟩ := List.forall_mem_cons.mp filled
      obtain ⟨cut, -⟩ := cut_of_pieces here made
      cases before with
      | nil =>
          have inRows : last ∈ full.map (fun piece => [piece]) ++ rows := by simp [split]
          have some_last := some_char last inRows
          simp [some_last] at count
      | cons first before =>
          rw [List.cons_append, List.cons.injEq] at place
          obtain ⟨rfl, place⟩ := place
          have others := (List.forall_mem_append.mp some_char).2
          have pieces : (above ++ [last]).flatten.flatten =
              full.flatten ++ (piece ++ before.flatten) := by
            rw [count, ← List.append_assoc, cut.whole]
            rfl
          have rest : piece ++ before.flatten ≠ [] := by simp [cut.last_ne_nil here]
          obtain ⟨above, split, count⟩ := exists_behind_pieces rest split pieces
          exact ih later others split place (by simpa using count)

/-- Every word is behind others where it fits, or in front of a row, whole or in pieces. -/
theorem Fills.exists_place (fills : m.Fills row words rows) (filled : ∀ word ∈ words, word ≠ [])
    {before after : List (List Char)} {word : List Char} (place : words = before ++ word :: after) :
    ∃ above full left last right below,
      rows = above ++ full.map (fun piece => [piece]) ++ (left ++ last :: right) :: below ∧
        above.flatten.flatten ++ left.flatten = row.flatten ++ before.flatten ∧
        m.Cut word full last ∧ (full ≠ [] → left = []) := by
  induction fills generalizing before with
  | done => simp at place
  | @behind row words next rows _ _ fills ih =>
      cases before with
      | nil =>
          obtain ⟨rfl, -⟩ := List.cons.inj place
          obtain ⟨more, below, rfl⟩ := fills.exists_more (by simp)
          exact ⟨[], [], row, next, more, below, by simp, by simp, .uncut next,
            fun none => absurd rfl none⟩
      | cons first before =>
          rw [List.cons_append, List.cons.injEq] at place
          obtain ⟨rfl, place⟩ := place
          obtain ⟨above, full, left, last, right, below, split, count, cut⟩ :=
            ih (List.forall_mem_cons.mp filled).2 place
          exact ⟨above, full, left, last, right, below, split, by simpa using count, cut⟩
  | @closed row words next rows _ _ _ ih =>
      obtain ⟨above, full, left, last, right, below, split, count, cut⟩ := ih filled place
      exact ⟨row :: above, full, left, last, right, below, by simp [split], by simpa using count,
        cut⟩
  | @front words full next piece rows made fills ih =>
      obtain ⟨here, later⟩ := List.forall_mem_cons.mp filled
      obtain ⟨cut, -⟩ := cut_of_pieces here made
      cases before with
      | nil =>
          obtain ⟨rfl, -⟩ := List.cons.inj place
          obtain ⟨more, below, rfl⟩ := fills.exists_more (by simp)
          exact ⟨[], full, [], piece, more, below, rfl, rfl, cut, fun _ => rfl⟩
      | cons first before =>
          rw [List.cons_append, List.cons.injEq] at place
          obtain ⟨rfl, place⟩ := place
          obtain ⟨above, others, left, last, right, below, split, count, cutWord⟩ := ih later place
          refine ⟨full.map (fun piece => [piece]) ++ above, others, left, last, right, below,
            by simp [split], ?_, cutWord⟩
          have alone : (full.map fun piece => [piece]).flatten = full := by
            rw [← List.flatMap_def, List.flatMap_singleton']
          rw [List.flatten_append, List.flatten_append, List.append_assoc, count, alone]
          simp [← cut.whole]

end Places

/-- The lines of a paragraph that is filled greedily. -/
structure Greedy (m : Measure) (paragraph : List Char) (lines : List (List Char)) : Prop where
  /-- A line is its words and pieces with single spaces between them. -/
  spaced : ∀ line ∈ lines, joined (words line) = line
  /-- What stands behind others on a line fitted behind them. -/
  filled : ∀ line ∈ lines, ∀ before piece after, words line = before ++ piece :: after →
    before ≠ [] → m.fits (joined before) piece = true
  /-- Where a line ends and a word begins behind it, the word does not fit on the line. -/
  broken : ∀ above line below before word after, lines = above ++ line :: below →
    words paragraph = before ++ word :: after →
    (above ++ [line]).flatMap solids = before.flatten → m.fits line word = false
  /-- Each word is whole at its place, or it is in pieces that begin with a line. -/
  placed : ∀ before word after, words paragraph = before ++ word :: after →
    ∃ above full line below left last right,
      lines = above ++ full ++ line :: below ∧ words line = left ++ last :: right ∧
        above.flatMap solids ++ left.flatten = before.flatten ∧
        m.Cut word full last ∧ (full ≠ [] → left = [])

/-- Rows that are filled are known by their words. -/
theorem Fills.words_joined {paragraph : List Char} (fills : m.Fills [] (words paragraph) rows)
    {row : List (List Char)} (member : row ∈ rows) : words (joined row) = row :=
  Text.words_joined (fills.isWord_of_words row member)

theorem Fills.fits {paragraph : List Char} (fills : m.Fills [] (words paragraph) rows)
    {row before after : List (List Char)} {piece : List Char} (member : row ∈ rows)
    (split : row = before ++ piece :: after) (some_before : before ≠ []) :
    m.fits (joined before) piece = true := by
  have some_word : words paragraph ≠ [] := by
    intro wordless
    rw [wordless] at fills
    cases fills
    obtain rfl := List.mem_singleton.mp member
    simp at split
  exact (fills.isRow_of_words some_word row member).fits split some_before

theorem Fills.greedy {paragraph : List Char} (fills : m.Fills [] (words paragraph) rows) :
    m.Greedy paragraph (rows.map joined) := by
  have nonempty : ∀ word ∈ words paragraph, word ≠ [] := fun _ member =>
    (isWord_of_mem_words member).nonempty
  have inRows := fills.isWord_of_words
  constructor
  case spaced =>
    intro line member
    obtain ⟨row, inLines, rfl⟩ := List.mem_map.mp member
    rw [fills.words_joined inLines]
  case filled =>
    intro line member before piece after split
    obtain ⟨row, inLines, rfl⟩ := List.mem_map.mp member
    rw [fills.words_joined inLines] at split
    exact fills.fits inLines split
  case broken =>
    intro above line below before word after split place count
    obtain ⟨above, rest, rfl, rfl, later⟩ := List.map_eq_append_iff.mp split
    obtain ⟨row, below, rfl, rfl, -⟩ := List.map_eq_cons_iff.mp later
    have inAbove : ∀ other ∈ above ++ [row], ∀ piece ∈ other, IsWord piece := by
      intro other member
      have inLines : other ∈ (above ++ [row]) ++ below := List.mem_append_left below member
      exact inRows other (by simpa using inLines)
    have counted : (above ++ [row]).flatten.flatten = before.flatten := by
      rw [← count, ← flatMap_solids_joined inAbove, List.map_append, List.map_singleton]
    have some_char : ∀ other ∈ above ++ row :: below, other.flatten ≠ [] := fun other member =>
      (fills.isRow_of_words (by simp [place]) other member).flatten_ne_nil (inRows other member)
    exact fills.not_fits nonempty some_char rfl place counted
  case placed =>
    intro before word after place
    obtain ⟨above, full, left, last, right, below, rfl, count, cut, front⟩ :=
      fills.exists_place nonempty place
    refine ⟨above.map joined, full, joined (left ++ last :: right), below.map joined, left, last,
      right, ?_, ?_, ?_, cut, front⟩
    · rw [List.map_append, List.map_append, map_joined_singleton, List.map_cons]
    · exact fills.words_joined (by simp)
    · have inAbove : ∀ row ∈ above, ∀ piece ∈ row, IsWord piece := fun row member =>
        inRows row (by simp [member])
      rw [flatMap_solids_joined inAbove, count]
      rfl

end Measure

namespace Composer

open Text

/-- A paragraph that is broken is filled greedily, and its words stay whole where they may overflow
    a line. -/
theorem paragraphLines_greedy {advance : Single} (wide : 0.0 < advance) {wrapping : Wrapping}
    (wraps : wrapping ≠ .noWrap) (limit : Single) (paragraph : List Char) :
    let m : Measure := ⟨advance, limit, wrapping = .wrap⟩
    let lines := paragraphLines advance wrapping (some limit) paragraph
    m.Greedy paragraph lines ∧
      (wrapping = .wrapWithOverflow → lines.flatMap words = words paragraph) := by
  intro m lines
  have broken : lines = m.wrap paragraph := by
    have both : (wrapping.wraps && decide (0.0 < advance)) = true := by
      rw [wraps_eq_true.mpr wraps, decide_eq_true wide]
      rfl
    exact if_pos both
  obtain ⟨rows, filling, fills⟩ := m.wrap_fills paragraph
  rw [broken]
  constructor
  · rw [filling]
    exact fills.greedy
  · rintro rfl
    exact (m.wrap_breaks paragraph).whole rfl

/-- The middle word is as wide as a line, and the last one fits exactly. -/
theorem paragraphLines_greedy_cut :
    (0.0 : Single) < 5.0 ∧ Wrapping.wrap ≠ .noWrap ∧
      paragraphLines 5.0 .wrap (some 20.0) "abcdefg hi j".toList =
        ["abcd".toList, "efg".toList, "hi j".toList] ∧
      Measure.Greedy ⟨5.0, 20.0, true⟩ "abcdefg hi j".toList
        ["abcd".toList, "efg".toList, "hi j".toList] := by
  have wide : (0.0 : Single) < 5.0 := by decide +kernel
  have wraps : Wrapping.wrap ≠ .noWrap := by decide
  have lines : paragraphLines 5.0 .wrap (some 20.0) "abcdefg hi j".toList =
      ["abcd".toList, "efg".toList, "hi j".toList] := by
    decide +kernel
  have greedy := (paragraphLines_greedy wide wraps 20.0 "abcdefg hi j".toList).1
  rw [lines] at greedy
  exact ⟨wide, wraps, lines, greedy⟩

end Composer

end PageMap
