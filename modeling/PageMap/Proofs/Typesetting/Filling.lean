import PageMap.Proofs.Floats
import PageMap.Proofs.Text.Words
import PageMap.Typesetting.Wrap
/-! # How lines are filled

A word goes on the open line if it fits there, and otherwise it closes the line. At the front of a
line a word is set whole, or in pieces if it is too wide; the last piece stays open for more words.
Everything that is said of lines comes from this relation between the open row, the words that are
left and the rows that result.
-/

namespace PageMap

namespace Measure

open Text

variable {m : Measure}

/-! ### Pieces of a word -/

/-- A word is set as pieces of full length, each on a line of its own, and a last piece that more
    words may follow. -/
structure Cut (m : Measure) (word : List Char) (full : List (List Char)) (last : List Char) :
    Prop where
  whole : full.flatten ++ last = word
  /-- Only a word that is too wide is cut, and only where words are cut at all. -/
  wide : full ≠ [] → m.cuts = true ∧ m.limit < m.width word
  length_full : ∀ piece ∈ full, piece.length = m.pieceLength
  length_last : full ≠ [] → 1 ≤ last.length ∧ last.length ≤ m.pieceLength

theorem Cut.uncut (word : List Char) : m.Cut word [] word := by
  constructor <;> simp

theorem pieceLength_pos : 0 < m.pieceLength :=
  Nat.lt_of_lt_of_le Nat.zero_lt_one (Nat.le_max_left _ _)

theorem Cut.last_ne_nil {word last : List Char} {full : List (List Char)}
    (cut : m.Cut word full last) (filled : word ≠ []) : last ≠ [] := by
  cases full with
  | nil => simpa [← cut.whole] using filled
  | cons piece full =>
      have some_char := (cut.length_last (List.cons_ne_nil piece full)).1
      exact List.ne_nil_of_length_pos some_char

theorem Cut.isWord {word last : List Char} {full : List (List Char)}
    (cut : m.Cut word full last) (is : IsWord word) : ∀ piece ∈ full ++ [last], IsWord piece := by
  intro piece member
  constructor
  case nonempty =>
    rcases List.mem_append.mp member with inside | final
    · have some_char := (cut.length_full piece inside).trans_gt pieceLength_pos
      exact List.ne_nil_of_length_pos some_char
    · obtain rfl := List.mem_singleton.mp final
      exact cut.last_ne_nil is.nonempty
  case solid =>
    intro c inPiece
    have inPieces : c ∈ (full ++ [last]).flatten := List.mem_flatten_of_mem member inPiece
    rw [List.flatten_append, List.flatten_singleton, cut.whole] at inPieces
    exact is.solid c inPieces

theorem flatten_piecesFrom (length : ℕ) (piece cs : List Char) :
    (piecesFrom length piece cs).flatten = piece.reverse ++ cs := by
  induction cs generalizing piece with
  | nil => simp [piecesFrom]
  | cons c cs ih =>
      rw [piecesFrom]
      split <;> simp [ih]

/-- All pieces but the last have the full length. -/
theorem exists_piecesFrom {length : ℕ} (room : 0 < length) {piece cs : List Char}
    (within : piece.length ≤ length) (filled : piece ++ cs ≠ []) :
    ∃ full last, piecesFrom length piece cs = full ++ [last] ∧
      (∀ part ∈ full, part.length = length) ∧ 1 ≤ last.length ∧ last.length ≤ length := by
  induction cs generalizing piece with
  | nil =>
      have some_char : 1 ≤ piece.length := by
        simpa [Nat.one_le_iff_ne_zero] using filled
      refine ⟨[], piece.reverse, rfl, List.forall_mem_nil _, ?_, ?_⟩ <;> simpa
  | cons c cs ih =>
      rw [piecesFrom]
      split
      case isTrue shorter =>
        have longer : (c :: piece).length ≤ length := shorter
        exact ih longer (by simp)
      case isFalse notShorter =>
        have next : [c].length ≤ length := room
        obtain ⟨full, last, cut, lengths, lastLength⟩ := ih next (by simp)
        refine ⟨piece.reverse :: full, last, by rw [cut]; rfl, ?_, lastLength⟩
        refine List.forall_mem_cons.mpr ⟨?_, lengths⟩
        rw [List.length_reverse]
        omega

theorem piecesFrom_short {length : ℕ} {piece cs : List Char}
    (short : piece.length + cs.length ≤ length) :
    piecesFrom length piece cs = [piece.reverse ++ cs] := by
  induction cs generalizing piece with
  | nil => simp [piecesFrom]
  | cons c cs ih =>
      rw [List.length_cons] at short
      have next : (c :: piece).length + cs.length ≤ length := by
        rw [List.length_cons]
        omega
      have room : piece.length < length := by omega
      rw [piecesFrom, if_pos room, ih next]
      simp

/-- Even a word that is too wide is not cut if it is short. -/
theorem pieces_short {word : List Char} (short : word.length ≤ m.pieceLength) :
    m.pieces word = [word] := by
  rw [pieces]
  split
  · exact piecesFrom_short (by simpa using short)
  · rfl

/-- A word is cut at most once: a piece of it would not be cut again. -/
theorem exists_cut (m : Measure) {word : List Char} (filled : word ≠ []) :
    ∃ full last, m.pieces word = full ++ [last] ∧ m.Cut word full last ∧
      ∀ piece ∈ full ++ [last], m.pieces piece = [piece] := by
  by_cases wide : m.cuts = true ∧ m.limit < m.width word
  · have cuts : m.pieces word = piecesFrom m.pieceLength [] word := by simp [pieces, wide]
    have nothing : ([] : List Char).length ≤ m.pieceLength := Nat.zero_le _
    obtain ⟨full, last, made, lengths, some_char, within⟩ :=
      exists_piecesFrom pieceLength_pos nothing filled
    have whole := flatten_piecesFrom m.pieceLength [] word
    rw [made] at whole
    refine ⟨full, last, cuts.trans made, ?_, fun piece member => pieces_short ?_⟩
    · exact ⟨by simpa using whole, fun _ => wide, lengths, fun _ => ⟨some_char, within⟩⟩
    · rcases List.mem_append.mp member with inside | final
      · exact (lengths piece inside).le
      · obtain rfl := List.mem_singleton.mp final
        exact within
  · have uncut : m.pieces word = [word] := if_neg (by simpa using wide)
    exact ⟨[], word, uncut, .uncut word, by simpa using uncut⟩

theorem cut_of_pieces {word last : List Char} {full : List (List Char)} (filled : word ≠ [])
    (made : m.pieces word = full ++ [last]) :
    m.Cut word full last ∧ ∀ piece ∈ full ++ [last], m.pieces piece = [piece] := by
  obtain ⟨full, last, again, cut⟩ := m.exists_cut filled
  obtain ⟨rfl, rfl⟩ := List.append_singleton_inj.mp (made.symm.trans again)
  exact cut

/-! ### Rows -/

/-- A row as it is filled: a piece that is not cut again, and behind it words that each fitted. -/
inductive Row (m : Measure) : List (List Char) → Prop where
  | start {piece : List Char} : m.pieces piece = [piece] → Row m [piece]
  | behind {row : List (List Char)} {word : List Char} :
      Row m row → m.fits (joined row) word = true → Row m (row ++ [word])

theorem Row.ne_nil {row : List (List Char)} (is : m.Row row) : row ≠ [] := by
  cases is <;> simp

theorem Row.fits {row before after : List (List Char)} {word : List Char} (is : m.Row row)
    (split : row = before ++ word :: after) (some_before : before ≠ []) :
    m.fits (joined before) word = true := by
  induction is generalizing after with
  | start =>
      cases before with
      | nil => exact absurd rfl some_before
      | cons first before => simp at split
  | @behind row last _ fits ih =>
      obtain rfl | ⟨rest, final, rfl⟩ := List.eq_nil_or_concat' after
      · obtain ⟨rfl, rfl⟩ := List.append_singleton_inj.mp split
        exact fits
      · rw [← List.cons_append, ← List.append_assoc] at split
        exact ih (List.append_singleton_inj.mp split).1

/-- Which rows result if words are set behind an open row. There is none in the beginning. -/
inductive Fills (m : Measure) :
    List (List Char) → List (List Char) → List (List (List Char)) → Prop where
  | done {row : List (List Char)} : Fills m row [] [row]
  | behind {row words : List (List Char)} {word : List Char} {rows : List (List (List Char))} :
      row ≠ [] → m.fits (joined row) word = true → Fills m (row ++ [word]) words rows →
      Fills m row (word :: words) rows
  | closed {row words : List (List Char)} {word : List Char} {rows : List (List (List Char))} :
      row ≠ [] → m.fits (joined row) word = false → Fills m [] (word :: words) rows →
      Fills m row (word :: words) (row :: rows)
  | front {words full : List (List Char)} {word last : List Char}
      {rows : List (List (List Char))} :
      m.pieces word = full ++ [last] → Fills m [last] words rows →
      Fills m [] (word :: words) (full.map (fun piece => [piece]) ++ rows)

/-- The first word of a line is admitted if it is set whole. -/
theorem pieces_of_admits {word : List Char} (admits : m.admits [] word = true) :
    m.pieces word = [word] := by
  rw [Measure.admits, if_pos List.isEmpty_nil, Bool.or_eq_true, decide_eq_true_eq,
    Bool.not_eq_true'] at admits
  rw [pieces, if_neg]
  rw [Bool.and_eq_true, decide_eq_true_eq]
  rintro ⟨cuts, wide⟩
  rcases admits with narrow | uncut
  · exact Single.not_lt_of_le narrow wide
  · rw [cuts] at uncut
    cases uncut

theorem fill_front (m : Measure) (word : List Char) (words : List (List Char)) :
    m.fill [] (word :: words) =
      (m.pieces word).dropLast ++ m.fill ((m.pieces word).getLastD []) words := by
  rw [fill]
  split
  case isTrue admits =>
    rw [pieces_of_admits admits]
    rfl
  case isFalse => rfl

theorem admits_eq_fits {line : List Char} (filled : line ≠ []) (word : List Char) :
    m.admits line word = m.fits line word :=
  if_neg (by simpa using filled)

theorem fill_behind {line word : List Char} (words : List (List Char)) (filled : line ≠ [])
    (fits : m.fits line word = true) :
    m.fill line (word :: words) = m.fill (line ++ ' ' :: word) words := by
  rw [fill, admits_eq_fits filled, if_pos fits, append, if_neg (by simpa using filled)]

theorem fill_closed {line word : List Char} (words : List (List Char)) (filled : line ≠ [])
    (fits : m.fits line word = false) :
    m.fill line (word :: words) = line :: m.fill [] (word :: words) := by
  rw [fill_front, fill, admits_eq_fits filled, fits, if_neg Bool.false_ne_true]
  simp [filled]

/-- A row that was filled once is filled in the same way again. -/
theorem Row.fill_eq {row : List (List Char)} (is : m.Row row) (filled : ∀ piece ∈ row, piece ≠ [])
    (words : List (List Char)) : m.fill [] (row ++ words) = m.fill (joined row) words := by
  induction is generalizing words with
  | start uncut =>
      rw [List.singleton_append, fill_front, uncut, joined_singleton]
      rfl
  | @behind row word is fits ih =>
      obtain ⟨earlier, -⟩ := List.forall_mem_append.mp filled
      rw [List.append_assoc, ih earlier, List.singleton_append, joined_concat is.ne_nil]
      exact fill_behind words (joined_ne_nil is.ne_nil earlier) fits

/-- Filling lines comes to rows that are filled. -/
theorem fill_fills (m : Measure) {row words : List (List Char)} (allRow : ∀ piece ∈ row, piece ≠ [])
    (allWords : ∀ word ∈ words, word ≠ []) :
    ∃ rows, m.fill (joined row) words = rows.map joined ∧ m.Fills row words rows := by
  induction words generalizing row with
  | nil => exact ⟨[row], rfl, .done⟩
  | cons word words ih =>
      obtain ⟨here, later⟩ := List.forall_mem_cons.mp allWords
      have front : ∃ rows, m.fill [] (word :: words) = rows.map joined ∧
          m.Fills [] (word :: words) rows := by
        obtain ⟨full, last, made, cut, -⟩ := m.exists_cut here
        have lastFilled : ∀ piece ∈ [last], piece ≠ [] :=
          List.forall_mem_singleton.mpr (cut.last_ne_nil here)
        obtain ⟨rows, filling, fills⟩ := ih lastFilled later
        refine ⟨_, ?_, .front made fills⟩
        rw [fill_front, made, List.dropLast_concat, List.getLastD_concat, List.map_append,
          map_joined_singleton, ← filling, joined_singleton]
      by_cases opened : row = []
      · subst opened
        exact front
      have line : joined row ≠ [] := joined_ne_nil opened allRow
      cases fits : m.fits (joined row) word with
      | true =>
          have longer : ∀ piece ∈ row ++ [word], piece ≠ [] :=
            List.forall_mem_append.mpr ⟨allRow, List.forall_mem_singleton.mpr here⟩
          obtain ⟨rows, filling, fills⟩ := ih longer later
          refine ⟨rows, ?_, .behind opened fits fills⟩
          rw [fill_behind words line fits, ← joined_concat opened, filling]
      | false =>
          obtain ⟨rows, filling, fills⟩ := front
          refine ⟨row :: rows, ?_, .closed opened fits fills⟩
          rw [fill_closed words line fits, filling, List.map_cons]

/-- The lines of a paragraph are rows that are filled with its words. -/
theorem wrap_fills (m : Measure) (paragraph : List Char) :
    ∃ rows, m.wrap paragraph = rows.map joined ∧ m.Fills [] (words paragraph) rows :=
  m.fill_fills (List.forall_mem_nil _) fun _ member => (isWord_of_mem_words member).nonempty

namespace Fills

variable {row words : List (List Char)} {rows : List (List (List Char))}

/-- The open row stays in front of what results. -/
theorem exists_more (fills : m.Fills row words rows) (opened : row ≠ []) :
    ∃ more below, rows = (row ++ more) :: below := by
  induction fills with
  | done => exact ⟨[], [], by rw [List.append_nil]⟩
  | @behind row words word rows _ _ _ ih =>
      obtain ⟨more, below, rfl⟩ := ih (by simp)
      exact ⟨word :: more, below, by rw [List.append_assoc, List.singleton_append]⟩
  | @closed row words word rows _ _ _ _ => exact ⟨[], rows, by rw [List.append_nil]⟩
  | front => exact absurd rfl opened

theorem isWord (fills : m.Fills row words rows) (allRow : ∀ piece ∈ row, IsWord piece)
    (allWords : ∀ word ∈ words, IsWord word) : ∀ row ∈ rows, ∀ piece ∈ row, IsWord piece := by
  induction fills with
  | done => exact List.forall_mem_singleton.mpr allRow
  | behind _ _ _ ih =>
      obtain ⟨here, later⟩ := List.forall_mem_cons.mp allWords
      exact ih (List.forall_mem_append.mpr ⟨allRow, List.forall_mem_singleton.mpr here⟩) later
  | closed _ _ _ ih => exact List.forall_mem_cons.mpr ⟨allRow, ih (List.forall_mem_nil _) allWords⟩
  | front made _ ih =>
      obtain ⟨here, later⟩ := List.forall_mem_cons.mp allWords
      obtain ⟨cut, -⟩ := cut_of_pieces here.nonempty made
      obtain ⟨allFull, lastWord⟩ := List.forall_mem_append.mp (cut.isWord here)
      refine List.forall_mem_append.mpr ⟨?_, ih lastWord later⟩
      simpa using allFull

theorem isRow (fills : m.Fills row words rows) (filled : ∀ word ∈ words, word ≠ [])
    (opened : row ≠ [] → m.Row row) (some_piece : row = [] → words ≠ []) :
    ∀ row ∈ rows, m.Row row := by
  induction fills with
  | @done row =>
      have some_row : row ≠ [] := fun none => some_piece none rfl
      exact List.forall_mem_singleton.mpr (opened some_row)
  | behind some_row fits _ ih =>
      have later := (List.forall_mem_cons.mp filled).2
      exact ih later (fun _ => .behind (opened some_row) fits) (by simp)
  | closed some_row _ _ ih =>
      have rest := ih filled (fun none => absurd rfl none) (fun _ => List.cons_ne_nil _ _)
      exact List.forall_mem_cons.mpr ⟨opened some_row, rest⟩
  | front made _ ih =>
      obtain ⟨here, later⟩ := List.forall_mem_cons.mp filled
      obtain ⟨-, kept⟩ := cut_of_pieces here made
      obtain ⟨keptFull, keptLast⟩ := List.forall_mem_append.mp kept
      rw [List.forall_mem_singleton] at keptLast
      refine List.forall_mem_append.mpr ⟨?_, ih later (fun _ => .start keptLast) (by simp)⟩
      intro row member
      obtain ⟨piece, inFull, rfl⟩ := List.mem_map.mp member
      exact .start (keptFull piece inFull)

/-! The words of a paragraph are filled into rows from the start. -/

variable {paragraph : List Char}

theorem isWord_of_words (fills : m.Fills [] (Text.words paragraph) rows) :
    ∀ row ∈ rows, ∀ piece ∈ row, IsWord piece :=
  fills.isWord (List.forall_mem_nil _) fun _ => isWord_of_mem_words

theorem isRow_of_words (fills : m.Fills [] (Text.words paragraph) rows)
    (some_word : Text.words paragraph ≠ []) : ∀ row ∈ rows, m.Row row :=
  fills.isRow (fun _ member => (isWord_of_mem_words member).nonempty)
    (fun none => absurd rfl none) fun _ => some_word

end Fills

/-- No line is empty if there is a word. -/
theorem Row.flatten_ne_nil {row : List (List Char)} (is : m.Row row)
    (all : ∀ piece ∈ row, IsWord piece) : row.flatten ≠ [] := by
  obtain ⟨piece, pieces, rfl⟩ := List.exists_cons_of_ne_nil is.ne_nil
  have here := (all piece List.mem_cons_self).nonempty
  simp [here]

end Measure

end PageMap
