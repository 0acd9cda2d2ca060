import Mathlib.Data.List.Chain
import PageMap.Text.Blank
/-! # Words of a line

A line that is made of words with single spaces between them gives the words back, and no blank of
it is superfluous.
-/

namespace PageMap

namespace Text

/-! ### Words -/

/-- Characters without a blank, at least one. -/
structure IsWord (word : List Char) : Prop where
  nonempty : word ≠ []
  solid : ∀ c ∈ word, isBlank c = false

/-- The characters that are no blanks. -/
def solids (cs : List Char) : List Char :=
  cs.filter fun c => !isBlank c

theorem runsFrom_solid {cs : List Char} (solid : ∀ c ∈ cs, isBlank c = false)
    (run rest : List Char) :
    runsFrom isBlank run (cs ++ rest) = runsFrom isBlank (cs.reverse ++ run) rest := by
  induction cs generalizing run with
  | nil => rfl
  | cons c cs ih =>
      obtain ⟨here, later⟩ := List.forall_mem_cons.mp solid
      rw [List.cons_append, runsFrom, here, if_neg Bool.false_ne_true, ih later,
        List.reverse_cons, List.append_assoc, List.singleton_append]

theorem isWord_of_mem_runsFrom {run cs word : List Char} (solid : ∀ c ∈ run, isBlank c = false)
    (member : word ∈ runsFrom isBlank run cs) : IsWord word := by
  have closed {run : List Char} (solid : ∀ c ∈ run, isBlank c = false) (filled : run ≠ []) :
      IsWord run.reverse := by
    refine ⟨by simpa using filled, fun c inRun => solid c (List.mem_reverse.mp inRun)⟩
  induction cs generalizing run with
  | nil =>
      rw [runsFrom] at member
      split at member
      · cases member
      case isFalse filled =>
        obtain rfl := List.mem_singleton.mp member
        exact closed solid (by simpa using filled)
  | cons c cs ih =>
      rw [runsFrom] at member
      split at member
      · split at member
        · exact ih (List.forall_mem_nil _) member
        case isFalse filled =>
          rcases List.mem_cons.mp member with rfl | later
          · exact closed solid (by simpa using filled)
          · exact ih (List.forall_mem_nil _) later
      case isFalse kept =>
        exact ih (List.forall_mem_cons.mpr ⟨by simpa using kept, solid⟩) member

theorem isWord_of_mem_words {cs word : List Char} (member : word ∈ words cs) : IsWord word :=
  isWord_of_mem_runsFrom (List.forall_mem_nil _) member

theorem flatten_runsFrom (run cs : List Char) :
    (runsFrom isBlank run cs).flatten = run.reverse ++ solids cs := by
  induction cs generalizing run with
  | nil =>
      rw [runsFrom]
      split
      case isTrue none_read => simp [List.isEmpty_iff.mp none_read, solids]
      case isFalse => simp [solids]
  | cons c cs ih =>
      rw [runsFrom]
      split
      case isTrue blank =>
        split
        case isTrue none_read => simp [List.isEmpty_iff.mp none_read, ih, solids, blank]
        case isFalse => simp [ih, solids, blank]
      case isFalse kept => simp [ih, solids, kept]

/-- The words of a text have all its characters but the blanks. -/
theorem flatten_words (cs : List Char) : (words cs).flatten = solids cs :=
  flatten_runsFrom [] cs

theorem flatMap_solids (lines : List (List Char)) :
    lines.flatMap solids = (lines.flatMap words).flatten := by
  induction lines with
  | nil => rfl
  | cons line lines ih =>
      rw [List.flatMap_cons, List.flatMap_cons, List.flatten_append, flatten_words, ih]

/-- Words with single spaces between them. -/
def joined (row : List (List Char)) : List Char :=
  [' '].intercalate row

theorem joined_singleton (word : List Char) : joined [word] = word :=
  List.intercalate_singleton

theorem map_joined_singleton (pieces : List (List Char)) :
    (pieces.map fun piece => [piece]).map joined = pieces := by
  simp [joined_singleton, Function.comp_def]

theorem joined_cons {word : List Char} {row : List (List Char)} (filled : row ≠ []) :
    joined (word :: row) = word ++ ' ' :: joined row := by
  cases row with
  | nil => exact absurd rfl filled
  | cons next row => simp [joined, List.intercalate_cons_cons]

theorem joined_concat {row : List (List Char)} (filled : row ≠ []) (word : List Char) :
    joined (row ++ [word]) = joined row ++ ' ' :: word := by
  induction row with
  | nil => exact absurd rfl filled
  | cons first row ih =>
      cases row with
      | nil => rw [List.singleton_append, joined_cons (List.cons_ne_nil _ _), joined_singleton,
          joined_singleton]
      | cons next row =>
          rw [List.cons_append, joined_cons (by simp), ih (List.cons_ne_nil _ _),
            joined_cons (List.cons_ne_nil _ _), List.append_assoc, List.cons_append]

theorem joined_ne_nil {row : List (List Char)} (filled : row ≠ [])
    (words : ∀ word ∈ row, word ≠ []) : joined row ≠ [] := by
  cases row with
  | nil => exact absurd rfl filled
  | cons first row =>
      cases row with
      | nil =>
          rw [joined_singleton]
          exact words first List.mem_cons_self
      | cons next row =>
          rw [joined_cons (List.cons_ne_nil _ _)]
          exact List.append_ne_nil_of_right_ne_nil _ (List.cons_ne_nil _ _)

theorem mem_joined {c : Char} {row : List (List Char)} (member : c ∈ joined row) :
    c = ' ' ∨ ∃ word ∈ row, c ∈ word := by
  induction row with
  | nil => cases member
  | cons word row ih =>
      cases row with
      | nil =>
          rw [joined_singleton] at member
          exact .inr ⟨word, List.mem_singleton_self word, member⟩
      | cons next row =>
          rw [joined_cons (List.cons_ne_nil _ _)] at member
          rcases List.mem_append.mp member with here | behind
          · exact .inr ⟨word, List.mem_cons_self, here⟩
          rcases List.mem_cons.mp behind with space | later
          · exact .inl space
          obtain space | ⟨other, inRow, inOther⟩ := ih later
          · exact .inl space
          · exact .inr ⟨other, List.mem_cons_of_mem word inRow, inOther⟩

theorem words_joined {row : List (List Char)} (all : ∀ word ∈ row, IsWord word) :
    words (joined row) = row := by
  induction row with
  | nil => rfl
  | cons word row ih =>
      obtain ⟨here, later⟩ := List.forall_mem_cons.mp all
      have turned : word.reverse.isEmpty = false := by simp [here.nonempty]
      cases row with
      | nil =>
          rw [joined_singleton, words, ← List.append_nil word, runsFrom_solid here.solid]
          simp [runsFrom, here.nonempty]
      | cons next row =>
          have space : isBlank ' ' = true := rfl
          have rest : words (joined (next :: row)) = next :: row := ih later
          rw [joined_cons (List.cons_ne_nil _ _), words, runsFrom_solid here.solid, List.append_nil,
            runsFrom, if_pos space, turned, if_neg Bool.false_ne_true, List.reverse_reverse]
          exact congrArg (word :: ·) rest

theorem map_words_joined {rows : List (List (List Char))}
    (all : ∀ row ∈ rows, ∀ word ∈ row, IsWord word) : (rows.map joined).map words = rows := by
  induction rows with
  | nil => rfl
  | cons row rows ih =>
      obtain ⟨here, later⟩ := List.forall_mem_cons.mp all
      rw [List.map_cons, List.map_cons, words_joined here, ih later]

theorem flatMap_solids_joined {rows : List (List (List Char))}
    (all : ∀ row ∈ rows, ∀ word ∈ row, IsWord word) :
    (rows.map joined).flatMap solids = rows.flatten.flatten := by
  rw [flatMap_solids, List.flatMap_def, map_words_joined all]

/-! ### Neat lines -/

/-- A line that neither begins nor ends with a blank and has no two of them side by side. -/
structure Neat (line : List Char) : Prop where
  nonempty : line ≠ []
  front : ∀ c ∈ line.head?, isBlank c = false
  back : ∀ c ∈ line.getLast?, isBlank c = false
  single : line.IsChain fun c d => isBlank c = false ∨ isBlank d = false

theorem IsWord.neat {word : List Char} (is : IsWord word) : Neat word where
  nonempty := is.nonempty
  front c first := is.solid c (List.mem_of_mem_head? first)
  back c last := is.solid c (List.mem_of_mem_getLast? last)
  single := by
    refine List.Pairwise.isChain (List.pairwise_iff_forall_sublist.mpr fun pair => ?_)
    exact .inl (is.solid _ (pair.subset List.mem_cons_self))

theorem Neat.cons {word line : List Char} (is : IsWord word) (neat : Neat line) :
    Neat (word ++ ' ' :: line) where
  nonempty := List.append_ne_nil_of_right_ne_nil _ (List.cons_ne_nil _ _)
  front c first := by
    rw [List.head?_append_of_ne_nil _ is.nonempty] at first
    exact is.neat.front c first
  back c last := by
    rw [List.getLast?_append_of_ne_nil _ (List.cons_ne_nil _ _),
      List.getLast?_cons_of_ne_nil neat.nonempty] at last
    exact neat.back c last
  single := by
    refine List.isChain_append.mpr ⟨is.neat.single, ?_, fun c last _ _ => ?_⟩
    case refine_2 => exact .inl (is.neat.back c last)
    obtain ⟨filled, front, -, single⟩ := neat
    cases line with
    | nil => exact absurd rfl filled
    | cons c line => exact List.isChain_cons_cons.mpr ⟨.inr (front c rfl), single⟩

theorem neat_joined {row : List (List Char)} (filled : row ≠ []) (all : ∀ word ∈ row, IsWord word) :
    Neat (joined row) := by
  induction row with
  | nil => exact absurd rfl filled
  | cons word row ih =>
      obtain ⟨here, later⟩ := List.forall_mem_cons.mp all
      cases row with
      | nil =>
          rw [joined_singleton]
          exact here.neat
      | cons next row =>
          rw [joined_cons (List.cons_ne_nil _ _)]
          exact .cons here (ih (List.cons_ne_nil _ _) later)

end Text

end PageMap
