import PageMap.Proofs.Text.Trim
import PageMap.Text.Content
/-! # Line ends

Line ends are made uniform in two passes over a text: pairs are joined first, and the carriage
returns that are left are replaced then. Together they write what a single scan from left to right
writes, which takes a line feed behind a carriage return along with it. What a scan has written it
writes again as it is.
-/

namespace PageMap.Text

/-- What a scan from left to right writes of a text. -/
inductive Scanned : List Char → List Char → Prop where
  | done : Scanned [] []
  /-- A carriage return and the line feed behind it end one line. -/
  | pair {cs written : List Char} :
      Scanned cs written → Scanned ('\r' :: '\n' :: cs) ('\n' :: written)
  /-- A carriage return with anything else behind it, or nothing, ends a line by itself. -/
  | lone {cs written : List Char} :
      cs.head? ≠ some '\n' → Scanned cs written → Scanned ('\r' :: cs) ('\n' :: written)
  | copied {c : Char} {cs written : List Char} :
      c ≠ '\r' → Scanned cs written → Scanned (c :: cs) (c :: written)

/-! ### Two passes -/

theorem joinLineEnds_cons {c : Char} {cs : List Char} (single : c = '\r' → cs.head? ≠ some '\n') :
    joinLineEnds (c :: cs) = c :: joinLineEnds cs :=
  joinLineEnds.eq_2 c cs fun rest ends behind => single ends (by rw [behind]; rfl)

theorem normalizeLineEnds_pair (cs : List Char) :
    normalizeLineEnds ('\r' :: '\n' :: cs) = '\n' :: normalizeLineEnds cs :=
  rfl

theorem normalizeLineEnds_lone {cs : List Char} (single : cs.head? ≠ some '\n') :
    normalizeLineEnds ('\r' :: cs) = '\n' :: normalizeLineEnds cs := by
  rw [normalizeLineEnds, joinLineEnds_cons fun _ => single]
  rfl

theorem normalizeLineEnds_copied {c : Char} (other : c ≠ '\r') (cs : List Char) :
    normalizeLineEnds (c :: cs) = c :: normalizeLineEnds cs := by
  rw [normalizeLineEnds, joinLineEnds_cons fun ends => absurd ends other, List.map_cons,
    if_neg other]
  rfl

namespace Scanned

variable {cs written : List Char}

theorem eq_normalizeLineEnds (scanned : Scanned cs written) : written = normalizeLineEnds cs := by
  induction scanned with
  | done => rfl
  | pair _ ih => rw [ih, normalizeLineEnds_pair]
  | lone single _ ih => rw [ih, normalizeLineEnds_lone single]
  | copied other _ ih => rw [ih, normalizeLineEnds_copied other]

theorem not_mem (scanned : Scanned cs written) : '\r' ∉ written := by
  induction scanned with
  | done => exact List.not_mem_nil
  | pair _ ih | lone _ _ ih => exact List.not_mem_cons_of_ne_of_not_mem (by decide) ih
  | copied other _ ih => exact List.not_mem_cons_of_ne_of_not_mem other.symm ih

/-- Without carriage returns a scan copies. -/
theorem of_not_mem (free : '\r' ∉ cs) : Scanned cs cs := by
  induction cs with
  | nil => exact .done
  | cons c cs ih =>
      obtain ⟨other, later⟩ := List.ne_and_not_mem_of_not_mem_cons free
      exact .copied other.symm (ih later)

end Scanned

/-- A text is scanned to the end, whatever is in it. -/
theorem scanned_normalizeLineEnds (cs : List Char) : Scanned cs (normalizeLineEnds cs) := by
  induction cs using joinLineEnds.induct with
  | case1 cs ih => exact .pair ih
  | case2 c cs notPair ih =>
      by_cases ends : c = '\r'
      · subst ends
        have single : cs.head? ≠ some '\n' := fun next => by
          obtain ⟨rest, behind⟩ := List.head?_eq_some_iff.mp next
          exact notPair rest rfl behind
        rw [normalizeLineEnds_lone single]
        exact .lone single ih
      · rw [normalizeLineEnds_copied ends]
        exact .copied ends ih
  | case3 => exact .done

theorem scanned_iff {cs written : List Char} :
    Scanned cs written ↔ written = normalizeLineEnds cs :=
  ⟨fun scanned => scanned.eq_normalizeLineEnds, fun eq => eq ▸ scanned_normalizeLineEnds cs⟩

theorem normalizeLineEnds_of_not_mem {cs : List Char} (free : '\r' ∉ cs) :
    normalizeLineEnds cs = cs :=
  (Scanned.of_not_mem free).eq_normalizeLineEnds.symm

/-! ### Cleaned content -/

theorem toList_cleanContent (text : String) (trimmed : Bool) :
    (cleanContent text trimmed).toList =
      if trimmed then trimBy isBlank (normalizeLineEnds text.toList)
      else normalizeLineEnds text.toList :=
  String.toList_ofList

theorem not_mem_cleanContent (text : String) (trimmed : Bool) :
    '\r' ∉ (cleanContent text trimmed).toList := by
  have free := (scanned_normalizeLineEnds text.toList).not_mem
  rw [toList_cleanContent]
  split
  · exact fun member => free ((trimmed_trimBy isBlank _).subset member)
  · exact free

theorem cleanContent_cleanContent (text : String) (trimmed : Bool) :
    cleanContent (cleanContent text trimmed) trimmed = cleanContent text trimmed := by
  rw [← String.toList_inj, toList_cleanContent,
    normalizeLineEnds_of_not_mem (not_mem_cleanContent text trimmed), toList_cleanContent]
  cases trimmed with
  | false => rfl
  | true => exact trimBy_trimBy isBlank _

/-- Uniform line ends are what one scan writes, and nothing else is. There is no carriage return in
    them and a second time changes nothing. Content is what the scan writes, all of it or without
    the blanks around it; to clean it again changes nothing either. -/
theorem lineEnds_one_scan (text : String) :
    ∃ written, (∀ other, Scanned text.toList other ↔ other = written) ∧
      normalizeLineEnds text.toList = written ∧ '\r' ∉ written ∧
      normalizeLineEnds written = written ∧
      cleanContent text false = String.ofList written ∧
      cleanContent text true = trim (String.ofList written) ∧
      Trimmed isBlank written (cleanContent text true).toList ∧
      ∀ trimmed, cleanContent (cleanContent text trimmed) trimmed = cleanContent text trimmed := by
  have free := (scanned_normalizeLineEnds text.toList).not_mem
  refine ⟨normalizeLineEnds text.toList, fun _ => scanned_iff, rfl, free,
    normalizeLineEnds_of_not_mem free, rfl, ?trims, ?around, cleanContent_cleanContent text⟩
  case trims =>
    rw [trim, String.toList_ofList]
    rfl
  case around =>
    rw [toList_cleanContent, if_pos rfl]
    exact trimmed_trimBy isBlank _

example : normalizeLineEnds "a\r\r\n\r\n\nb\r".toList = "a\n\n\n\nb\n".toList := by decide

end PageMap.Text
