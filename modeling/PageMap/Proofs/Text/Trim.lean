import Mathlib.Data.List.DropRight
import Mathlib.Data.List.TakeDrop
import PageMap.Text.Blank
/-! # Trimmed texts

Trimming takes characters of a class off both ends and stops at the first and the last character
that is not in the class. This determines what is left.
-/

namespace PageMap.Text

variable {drop : Char → Bool}

/-- A text is what characters leave when those of a class are taken off both ends. -/
structure Trimmed (drop : Char → Bool) (cs text : List Char) : Prop where
  around : ∃ before after, cs = before ++ text ++ after ∧ (∀ c ∈ before, drop c = true) ∧
    ∀ c ∈ after, drop c = true
  first : ∀ c ∈ text.head?, drop c = false
  last : ∀ c ∈ text.getLast?, drop c = false

theorem trimBy_of_dropWhile {cs text after : List Char}
    (skipped : cs.dropWhile drop = text ++ after) (last : ∀ c ∈ text.getLast?, drop c = false)
    (space : ∀ c ∈ after, drop c = true) : trimBy drop cs = text := by
  have behind : (after.reverse ++ text.reverse).dropWhile drop = text.reverse := by
    rw [List.dropWhile_append_of_pos fun c member => space c (List.mem_reverse.mp member)]
    cases turned : text.reverse with
    | nil => rfl
    | cons c cs =>
        have member : c ∈ text.getLast? := by
          rw [← List.head?_reverse, turned]
          rfl
        exact List.dropWhile_cons_of_neg (by simp [last c member])
  rw [trimBy, skipped, List.reverse_append, behind, List.reverse_reverse]

theorem trimBy_eq {cs text after : List Char} (skipped : cs.dropWhile drop = text ++ after)
    (solid : ∀ c ∈ text, drop c = false) (space : ∀ c ∈ after, drop c = true) :
    trimBy drop cs = text :=
  trimBy_of_dropWhile skipped (fun c member => solid c (List.mem_of_getLast? member)) space

namespace Trimmed

variable {cs text : List Char}

theorem eq_trimBy (trimmed : Trimmed drop cs text) : trimBy drop cs = text := by
  obtain ⟨before, after, rfl, front, back⟩ := trimmed.around
  have skipped : (before ++ text ++ after).dropWhile drop = (text ++ after).dropWhile drop := by
    rw [List.append_assoc, List.dropWhile_append_of_pos front]
  cases text with
  | nil =>
      have nothing : after.dropWhile drop = [] := List.dropWhile_eq_nil_iff.mpr back
      exact trimBy_of_dropWhile (skipped.trans nothing) trimmed.last (List.forall_mem_nil _)
  | cons c rest =>
      have kept : (c :: rest ++ after).dropWhile drop = c :: rest ++ after :=
        List.dropWhile_cons_of_neg (by simp [trimmed.first c rfl])
      exact trimBy_of_dropWhile (skipped.trans kept) trimmed.last back

/-- There is nothing to take off a second time. -/
theorem again (trimmed : Trimmed drop cs text) : Trimmed drop text text :=
  ⟨⟨[], [], (List.append_nil text).symm, List.forall_mem_nil _, List.forall_mem_nil _⟩,
    trimmed.first, trimmed.last⟩

theorem subset (trimmed : Trimmed drop cs text) : text ⊆ cs := by
  obtain ⟨before, after, rfl, -⟩ := trimmed.around
  exact fun c member => List.mem_append_left _ (List.mem_append_right _ member)

end Trimmed

/-- What is put around a text without such characters is taken off again. -/
theorem trimBy_append {before text after : List Char} (front : ∀ c ∈ before, drop c = true)
    (solid : ∀ c ∈ text, drop c = false) (back : ∀ c ∈ after, drop c = true) :
    trimBy drop (before ++ text ++ after) = text :=
  Trimmed.eq_trimBy ⟨⟨before, after, rfl, front, back⟩,
    fun c member => solid c (List.mem_of_mem_head? member),
    fun c member => solid c (List.mem_of_getLast? member)⟩

theorem trimBy_solid {text : List Char} (solid : ∀ c ∈ text, drop c = false) :
    trimBy drop text = text := by
  have bare := trimBy_append (List.forall_mem_nil _) solid (List.forall_mem_nil _)
  rwa [List.nil_append, List.append_nil] at bare

theorem trimmed_trimBy (drop : Char → Bool) (cs : List Char) :
    Trimmed drop cs (trimBy drop cs) := by
  -- Trimming is `rdropWhile` behind `dropWhile`.
  change Trimmed drop cs ((cs.dropWhile drop).rdropWhile drop)
  have split : cs.takeWhile drop ++ (cs.dropWhile drop).rdropWhile drop ++
      (cs.dropWhile drop).rtakeWhile drop = cs := by
    rw [List.append_assoc, List.rdropWhile_append_rtakeWhile, List.takeWhile_append_dropWhile]
  refine ⟨⟨_, _, split.symm, fun c => List.mem_takeWhile_imp, fun c => List.mem_rtakeWhile_imp⟩,
    fun c first => ?_, fun c last => ?_⟩
  case refine_1 =>
    obtain ⟨rest, left⟩ := List.head?_eq_some_iff.mp first
    obtain ⟨after, skipped⟩ := List.rdropWhile_prefix drop (cs.dropWhile drop)
    have stopped := List.head?_dropWhile_not drop cs
    rwa [← skipped, left] at stopped
  case refine_2 =>
    obtain ⟨filled, rfl⟩ := List.mem_getLast?_eq_getLast last
    exact eq_false_of_ne_true (List.rdropWhile_last_not drop _ filled)

theorem trimBy_trimBy (drop : Char → Bool) (cs : List Char) :
    trimBy drop (trimBy drop cs) = trimBy drop cs :=
  (trimmed_trimBy drop cs).again.eq_trimBy

end PageMap.Text
