import PageMap.Json.Path
import PageMap.Proofs.NumberFormat.Digits
import PageMap.Proofs.Text.Trim
/-! # What key paths name

A key path can be written with dots, with brackets or as a pointer. For segments that need no
escaping all these spellings name the same value: the one that is reached by going down from member
to member and from item to item. The main statement is `Json.resolve?_spelled`.
-/

namespace PageMap.Json

open Text

/-! ### Descent -/

/-- The second value stands in the first one behind the segments of a path. A name that occurs twice
    names the last member, and an index is written without leading zeros and fits into 64 bits. -/
inductive Reaches : Json → List (List Char) → Json → Prop where
  | here {j : Json} : Reaches j [] j
  | member {before after : List (String × Json)} {name : String} {j target : Json}
      {segments : List (List Char)} (last : ∀ entry ∈ after, entry.1 ≠ name)
      (inside : Reaches j segments target) :
      Reaches (.object (before ++ (name, j) :: after)) (name.toList :: segments) target
  | item {items : List Json} {i : Nat} {j target : Json} {segments : List (List Char)}
      (there : items[i]? = some j) (bound : i ≤ maxIndex) (inside : Reaches j segments target) :
      Reaches (.array items) (decimalDigits i :: segments) target

/-- A value is a scalar: a text, a flag, or a number that is not too large for a float. -/
inductive IsScalar : Json → Scalar → Prop where
  | text {s : String} : IsScalar (.string s) (.text s)
  | number {n : Number} {v : Number.Value} (value : n.value? = some v) :
      IsScalar (.number n) (.number v.toDouble)
  | flag {b : Bool} : IsScalar (.bool b) (.flag b)

theorem scalar?_eq_some {j : Json} {s : Scalar} : j.scalar? = some s ↔ IsScalar j s := by
  constructor
  · intro scalar
    cases j with
    | string text => cases scalar; exact .text
    | bool b => cases scalar; exact .flag
    | number n =>
        obtain ⟨v, value, rfl⟩ := Option.map_eq_some_iff.mp scalar
        exact .number value
    | null | array | object => cases scalar
  · rintro (_ | value | _)
    · rfl
    · simp [scalar?, value]
    · rfl

/-- A segment that means the same in every spelling. It has no character that sets segments apart or
    is escaped, no blank, no sign in front of it and no zero in front of other digits. -/
structure IsPlain (segment : List Char) : Prop where
  nonempty : segment ≠ []
  solid : ∀ c ∈ segment, isBlank c = false
  unmarked : ∀ c ∈ segment, c ∉ ['.', '[', ']', '/', '~']
  unsigned : segment.head? ≠ some '+'
  unpadded : segment.head? = some '0' → segment.all Char.isDigit = true → segment = ['0']

theorem isPlain_iff {segment : List Char} :
    IsPlain segment ↔ segment ≠ [] ∧ (segment.all fun c => !isBlank c) = true ∧
      (segment.all fun c => decide (c ∉ ['.', '[', ']', '/', '~'])) = true ∧
      segment.head? ≠ some '+' ∧
      (segment.head? = some '0' → segment.all Char.isDigit = true → segment = ['0']) := by
  have solid : (segment.all fun c => !isBlank c) = true ↔ ∀ c ∈ segment, isBlank c = false := by
    simp only [List.all_eq_true, Bool.not_eq_true']
  have unmarked : (segment.all fun c => decide (c ∉ ['.', '[', ']', '/', '~'])) = true ↔
      ∀ c ∈ segment, c ∉ ['.', '[', ']', '/', '~'] := by
    simp only [List.all_eq_true, decide_eq_true_eq]
  rw [solid, unmarked]
  exact ⟨fun ⟨nonempty, solid, unmarked, unsigned, unpadded⟩ =>
      ⟨nonempty, solid, unmarked, unsigned, unpadded⟩,
    fun ⟨nonempty, solid, unmarked, unsigned, unpadded⟩ =>
      ⟨nonempty, solid, unmarked, unsigned, unpadded⟩⟩

instance : DecidablePred IsPlain := fun _ =>
  decidable_of_iff _ isPlain_iff.symm

/-! ### Indices -/

theorem digitValue_lt {c : Char} (digit : c.isDigit = true) : digitValue c < 10 := by
  have bounds : 48 ≤ c.toNat ∧ c.toNat ≤ 57 := Char.isDigit_iff_toNat.mp digit
  change c.toNat - 48 < 10
  omega

theorem digitChar_digitValue {c : Char} (digit : c.isDigit = true) :
    Nat.digitChar (digitValue c) = c := by
  have bounds : 48 ≤ c.toNat ∧ c.toNat ≤ 57 := Char.isDigit_iff_toNat.mp digit
  apply Char.toNat_inj.mp
  rw [Nat.toNat_digitChar_of_lt_ten (digitValue_lt digit)]
  change 48 + (c.toNat - 48) = c.toNat
  omega

theorem digitsValue_decimalDigits (n : Nat) : digitsValue (decimalDigits n) = n :=
  Nat.ofDigitChars_ten_toDigits

/-- Digits without a zero in front are those of the number that they write. -/
theorem decimalDigits_digitsValue {digits : List Char} (nonempty : digits ≠ [])
    (isDigits : ∀ c ∈ digits, c.isDigit = true)
    (unpadded : digits.head? = some '0' → digits = ['0']) :
    decimalDigits (digitsValue digits) = digits := by
  induction digits using List.reverseRecOn with
  | nil => exact absurd rfl nonempty
  | append_singleton digits c ih =>
      obtain ⟨isDigits, isDigit⟩ := List.forall_mem_append.mp isDigits
      have digit := isDigit c (List.mem_singleton_self c)
      have small := digitValue_lt digit
      rw [digitsValue_append_singleton, decimalDigits, Nat.toDigits_eq_if (by decide)]
      by_cases lone : digits = []
      · subst lone
        rw [if_pos (by simpa [digitsValue] using small)]
        simp [digitsValue, digitChar_digitValue digit]
      · have first : digits.head? ≠ some '0' := by
          intro zero
          have front : (digits ++ [c]).head? = some '0' := by
            rw [List.head?_append_of_ne_nil _ lone, zero]
          have length := congrArg List.length (unpadded front)
          simp [lone] at length
        have before := ih lone isDigits fun zero => absurd zero first
        have positive : digitsValue digits ≠ 0 := by
          intro zero
          rw [zero] at before
          exact first (before ▸ rfl)
        have quotient : (10 * digitsValue digits + digitValue c) / 10 = digitsValue digits := by
          omega
        have remainder : (10 * digitsValue digits + digitValue c) % 10 = digitValue c := by omega
        rw [if_neg (by omega), quotient, remainder, digitChar_digitValue digit]
        exact congrArg (· ++ [c]) before

namespace IsPlain

variable {segment : List Char}

theorem digitsIndex?_eq_some (plain : IsPlain segment) {i : Nat} :
    digitsIndex? segment = some i ↔ segment = decimalDigits i ∧ i ≤ maxIndex := by
  constructor
  · intro index
    rw [digitsIndex?] at index
    split at index
    · cases index
    · rename_i fits
      simp only [Bool.or_eq_true, Bool.not_eq_true', decide_eq_true_eq, not_or, Bool.not_eq_false,
        Nat.not_lt] at fits
      obtain ⟨⟨-, isDigits⟩, bound⟩ := fits
      obtain rfl := Option.some.inj index
      have digits : ∀ c ∈ segment, c.isDigit = true := List.all_eq_true.mp isDigits
      exact ⟨(decimalDigits_digitsValue plain.nonempty digits fun zero =>
        plain.unpadded zero isDigits).symm, bound⟩
  · rintro ⟨rfl, bound⟩
    have isDigits : (decimalDigits i).all Char.isDigit = true :=
      List.all_eq_true.mpr fun c => Nat.isDigit_of_mem_toDigits (by decide) (by decide)
    simp [digitsIndex?, plain.nonempty, isDigits, digitsValue_decimalDigits, bound]

/-- What the two ways to read an index disagree about does not occur. -/
theorem index?_eq (plain : IsPlain segment) (form : IndexForm) :
    form.index? segment = digitsIndex? segment := by
  cases form with
  | loose =>
      cases segment with
      | nil => rfl
      | cons c rest =>
          have unsigned : c ≠ '+' := fun plus => plain.unsigned (plus ▸ rfl)
          simp [IndexForm.index?, unsigned]
  | strict =>
      cases segment with
      | nil => rfl
      | cons c rest =>
          by_cases zero : c = '0'
          · subst zero
            cases rest with
            | nil => rfl
            | cons d rest =>
                have letter : ('0' :: d :: rest).all Char.isDigit = false := by
                  by_contra digits
                  have alone := plain.unpadded rfl (Bool.not_eq_false _ ▸ digits)
                  cases alone
                simp [IndexForm.index?, digitsIndex?, letter]
          · simp [IndexForm.index?, zero]

end IsPlain

theorem member?_eq_some {members : List (String × Json)} {name : String} {j : Json} :
    (Json.object members).member? name = some j ↔ ∃ before after,
      members = before ++ (name, j) :: after ∧ ∀ entry ∈ after, entry.1 ≠ name := by
  rw [member?, List.lookup_eq_some_iff]
  constructor
  · rintro ⟨after, before, split, last⟩
    refine ⟨before.reverse, after.reverse, ?_, fun entry later => ?_⟩
    · rw [← List.reverse_reverse members, split]
      simp
    · exact Ne.symm (bne_iff_ne.mp (last entry (List.mem_reverse.mp later)))
  · rintro ⟨before, after, rfl, last⟩
    refine ⟨after.reverse, before.reverse, by simp, fun entry later => ?_⟩
    exact bne_iff_ne.mpr (Ne.symm (last entry (List.mem_reverse.mp later)))

theorem step?_eq_some {segment : List Char} (plain : IsPlain segment) {form : IndexForm}
    {j target : Json} : j.step? form segment = some target ↔ Reaches j [segment] target := by
  constructor
  · intro found
    cases j with
    | object members =>
        obtain ⟨before, after, rfl, last⟩ := member?_eq_some.mp found
        have named := @Reaches.member before after _ target target [] last .here
        rwa [String.toList_ofList] at named
    | array items =>
        obtain ⟨i, index, there⟩ := Option.bind_eq_some_iff.mp found
        rw [plain.index?_eq, plain.digitsIndex?_eq_some] at index
        obtain ⟨rfl, bound⟩ := index
        exact .item there bound .here
    | null | bool | number | string => cases found
  · rintro (_ | ⟨last, ⟨⟩⟩ | ⟨there, bound, ⟨⟩⟩)
    · rw [step?, String.ofList_toList]
      exact member?_eq_some.mpr ⟨_, _, rfl, last⟩
    · rw [step?, plain.index?_eq, plain.digitsIndex?_eq_some.mpr ⟨rfl, bound⟩]
      exact there

theorem reaches_cons {segment : List Char} {segments : List (List Char)} {j target : Json} :
    Reaches j (segment :: segments) target ↔
      ∃ next, Reaches j [segment] next ∧ Reaches next segments target := by
  constructor
  · rintro (_ | ⟨last, inside⟩ | ⟨there, bound, inside⟩)
    · exact ⟨_, .member last .here, inside⟩
    · exact ⟨_, .item there bound .here, inside⟩
  · rintro ⟨next, _ | ⟨last, ⟨⟩⟩ | ⟨there, bound, ⟨⟩⟩, inside⟩
    · exact .member last inside
    · exact .item there bound inside

/-- Whichever way indices are read, going down along plain segments is the same. -/
theorem descend?_eq_some {segments : List (List Char)}
    (plain : ∀ segment ∈ segments, IsPlain segment) (form : IndexForm) {j target : Json} :
    j.descend? form segments = some target ↔ Reaches j segments target := by
  induction segments generalizing j with
  | nil =>
      constructor
      · rintro ⟨⟩
        exact .here
      · rintro ⟨⟩
        rfl
  | cons segment segments ih =>
      obtain ⟨here, later⟩ := List.forall_mem_cons.mp plain
      rw [descend?, Option.bind_eq_some_iff, reaches_cons]
      simp only [step?_eq_some here, ih later]

/-! ### Spellings -/

/-- A segment as it stands or in brackets. -/
def written (bracketed : Bool) (segment : List Char) : List Char :=
  if bracketed then '[' :: (segment ++ [']']) else segment

/-- A path with dots and brackets spells segments. Each one is set apart from the one before it by
    brackets around it or by a dot, and further dots do no harm. -/
inductive Spells : Bool → List Char → List (List Char) → Prop where
  | done (first : Bool) (dots : Nat) : Spells first (List.replicate dots '.') []
  | segment {first : Bool} (dots : Nat) (bracketed : Bool) {segment rest : List Char}
      {segments : List (List Char)} (apart : first = true ∨ bracketed = true ∨ 0 < dots)
      (behind : Spells false rest segments) :
      Spells first (List.replicate dots '.' ++ (written bracketed segment ++ rest))
        (segment :: segments)

/-- The pointer that spells segments. -/
def pointer (segments : List (List Char)) : List Char :=
  segments.flatMap fun segment => '/' :: segment

/-- A text is a path with perhaps blanks around it. -/
def IsAround (text path : List Char) : Prop :=
  ∃ before after, text = before ++ path ++ after ∧ (∀ c ∈ before, isBlank c = true) ∧
    ∀ c ∈ after, isBlank c = true

/-- A path with brackets turned into dots. -/
def unbracketed (path : List Char) : List Char :=
  (path.map fun c => if c = '[' then '.' else c).filter (· ≠ ']')

/-- The parts between dots that are not empty. -/
def partsOf (cs : List Char) : List (List Char) :=
  (cs.splitOn '.').filter fun segment => !segment.isEmpty

theorem dottedSegments_eq (path : List Char) : dottedSegments path = partsOf (unbracketed path) :=
  rfl

theorem unbracketed_append (first second : List Char) :
    unbracketed (first ++ second) = unbracketed first ++ unbracketed second := by
  simp only [unbracketed, List.map_append, List.filter_append]

theorem unbracketed_dots (dots : Nat) :
    unbracketed (List.replicate dots '.') = List.replicate dots '.' := by
  simp [unbracketed]

theorem partsOf_append (first second : List Char) :
    partsOf (first ++ '.' :: second) = partsOf first ++ partsOf second := by
  rw [partsOf, List.splitOn_append_cons_self, List.filter_append]
  rfl

theorem partsOf_dots (dots : Nat) (cs : List Char) :
    partsOf (List.replicate dots '.' ++ cs) = partsOf cs := by
  induction dots with
  | zero => rfl
  | succ dots ih => exact (partsOf_append [] _).trans ih

namespace IsPlain

variable {segment : List Char} (plain : IsPlain segment)

include plain

theorem not_mem {c : Char} (mark : c ∈ ['.', '[', ']', '/', '~']) : c ∉ segment :=
  fun member => plain.unmarked c member mark

theorem unbracketed_written (bracketed : Bool) : unbracketed (written bracketed segment) =
    if bracketed then '.' :: segment else segment := by
  have whole : unbracketed segment = segment := by
    have kept : segment.map (fun c => if c = '[' then '.' else c) = segment := by
      refine (List.map_congr_left fun c member => ?_).trans (List.map_id _)
      have other : c ≠ '[' := fun bracket => plain.not_mem (by simp) (bracket ▸ member)
      simp [other]
    rw [unbracketed, kept, List.filter_eq_self]
    intro c member
    have other : c ≠ ']' := fun bracket => plain.not_mem (by simp) (bracket ▸ member)
    simpa using other
  cases bracketed with
  | false => exact whole
  | true =>
      have inside : unbracketed ('[' :: (segment ++ [']'])) =
          '.' :: (unbracketed segment ++ unbracketed [']']) :=
        congrArg ('.' :: ·) (unbracketed_append segment [']'])
      exact inside.trans (by rw [whole]; exact congrArg _ (List.append_nil _))

theorem partsOf_behind {rest : List Char} (apart : ∀ c ∈ rest.head?, c = '.') :
    partsOf (segment ++ rest) = segment :: partsOf rest := by
  have alone : partsOf segment = [segment] := by
    rw [partsOf, List.splitOn_eq_singleton (plain.not_mem (by simp))]
    simp [plain.nonempty]
  cases rest with
  | nil => rw [List.append_nil, alone]; rfl
  | cons c rest =>
      obtain rfl := apart c rfl
      have dot : partsOf ('.' :: rest) = partsOf rest := partsOf_dots 1 rest
      rw [partsOf_append, alone, dot]
      rfl

end IsPlain

namespace Spells

variable {first : Bool} {path : List Char} {segments : List (List Char)}

/-- Behind a segment, a path goes on with a dot or an opening bracket. -/
theorem head?_unbracketed (spells : Spells false path segments)
    (plain : ∀ segment ∈ segments, IsPlain segment) :
    ∀ c ∈ (unbracketed path).head?, c = '.' := by
  intro c front
  cases spells with
  | done first dots =>
      rw [unbracketed_dots] at front
      exact List.eq_of_mem_replicate (List.mem_of_mem_head? front)
  | @segment first dots bracketed segment rest segments apart behind =>
      have here := plain segment List.mem_cons_self
      rw [unbracketed_append, unbracketed_append, unbracketed_dots,
        here.unbracketed_written] at front
      cases dots with
      | succ dots => exact (Option.some.inj front).symm
      | zero =>
          obtain rfl : bracketed = true := by simpa using apart
          exact (Option.some.inj front).symm

theorem dottedSegments_eq (spells : Spells first path segments)
    (plain : ∀ segment ∈ segments, IsPlain segment) : dottedSegments path = segments := by
  rw [Json.dottedSegments_eq]
  induction spells with
  | done first dots =>
      rw [unbracketed_dots, ← List.append_nil (List.replicate dots '.'), partsOf_dots]
      rfl
  | @segment first dots bracketed segment rest segments apart behind ih =>
      obtain ⟨here, later⟩ := List.forall_mem_cons.mp plain
      have next := here.partsOf_behind (behind.head?_unbracketed later)
      rw [unbracketed_append, unbracketed_append, unbracketed_dots, partsOf_dots,
        here.unbracketed_written, ← ih later]
      cases bracketed with
      | false => exact next
      | true => exact (partsOf_dots 1 _).trans next

/-- The characters of a path are those of its segments, dots and brackets. -/
theorem mem_path (spells : Spells first path segments) {c : Char} (member : c ∈ path) :
    c ∈ ['.', '[', ']'] ∨ ∃ segment ∈ segments, c ∈ segment := by
  induction spells with
  | done first dots => exact .inl (by simp [List.eq_of_mem_replicate member])
  | @segment first dots bracketed segment rest segments apart behind ih =>
      rcases List.mem_append.mp member with dot | member
      · exact .inl (by simp [List.eq_of_mem_replicate dot])
      rcases List.mem_append.mp member with here | later
      · cases bracketed with
        | false => exact .inr ⟨segment, List.mem_cons_self, here⟩
        | true =>
            have inside : c = '[' ∨ c ∈ segment ∨ c = ']' := by simpa [written] using here
            rcases inside with rfl | inside | rfl
            · exact .inl (by simp)
            · exact .inr ⟨segment, List.mem_cons_self, inside⟩
            · exact .inl (by simp)
      · obtain mark | ⟨other, among, inside⟩ := ih later
        · exact .inl mark
        · exact .inr ⟨other, List.mem_cons_of_mem _ among, inside⟩

end Spells

theorem replaceEscape_eq {cs : List Char} (free : '~' ∉ cs) (digit image : Char) :
    replaceEscape digit image cs = cs := by
  induction cs with
  | nil => rfl
  | cons c cs ih =>
      have other : c ≠ '~' := fun tilde => free (tilde ▸ List.mem_cons_self)
      have later : '~' ∉ cs := fun member => free (List.mem_cons_of_mem c member)
      rw [replaceEscape.eq_2 _ _ _ _ (fun d ds tilde _ => other tilde), ih later]

theorem pointer_eq {segments : List (List Char)} (filled : segments ≠ []) :
    pointer segments = '/' :: ['/'].intercalate segments := by
  induction segments with
  | nil => exact absurd rfl filled
  | cons segment segments ih =>
      have first : pointer (segment :: segments) = '/' :: (segment ++ pointer segments) :=
        List.flatMap_cons ..
      cases segments with
      | nil => rw [first, List.intercalate_singleton]; simp [pointer]
      | cons next segments =>
          rw [first, ih (List.cons_ne_nil _ _), List.intercalate_cons_cons]
          simp

theorem pointerSegments_intercalate {segments : List (List Char)} (filled : segments ≠ [])
    (plain : ∀ segment ∈ segments, IsPlain segment) :
    pointerSegments (['/'].intercalate segments) = segments := by
  have apart : ∀ segment ∈ segments, '/' ∉ segment :=
    fun segment member => (plain segment member).not_mem (by simp)
  rw [pointerSegments, List.splitOn_intercalate '/' apart filled]
  refine (List.map_congr_left fun segment member => ?_).trans (List.map_id _)
  have free : '~' ∉ segment := (plain segment member).not_mem (by simp)
  rw [replaceEscape_eq free, replaceEscape_eq free, id]

/-! ### Lookup -/

section Lookup

variable {text : String} {path : List Char} {segments : List (List Char)} {j target : Json}
  (around : IsAround text.toList path) (plain : ∀ segment ∈ segments, IsPlain segment)
  (filled : segments ≠ [])

include around plain filled

theorem lookup?_dotted (spells : Spells true path segments) :
    j.lookup? text = some target ↔ Reaches j segments target := by
  have parts := spells.dottedSegments_eq plain
  have solid : ∀ c ∈ path, isBlank c = false := by
    intro c member
    obtain mark | ⟨segment, among, inside⟩ := spells.mem_path member
    · simp only [List.mem_cons, List.not_mem_nil, or_false] at mark
      rcases mark with rfl | rfl | rfl <;> rfl
    · exact (plain segment among).solid c inside
  have relative : ∀ rest, path ≠ '/' :: rest := by
    rintro rest rfl
    obtain mark | ⟨segment, among, inside⟩ := spells.mem_path List.mem_cons_self
    · exact absurd mark (by decide)
    · exact (plain segment among).not_mem (by simp) inside
  obtain ⟨before, after, split, front, back⟩ := around
  rw [lookup?, split, trimBy_append front solid back]
  split
  · exact absurd parts.symm filled
  · exact absurd parts.symm filled
  · exact absurd rfl (relative _)
  · rw [parts]
    exact descend?_eq_some plain .loose

theorem lookup?_pointer (pointed : path = pointer segments) :
    j.lookup? text = some target ↔ Reaches j segments target := by
  have solid : ∀ c ∈ path, isBlank c = false := by
    intro c member
    rw [pointed, pointer, List.mem_flatMap] at member
    obtain ⟨segment, among, inside⟩ := member
    rcases List.mem_cons.mp inside with rfl | inside
    · rfl
    · exact (plain segment among).solid c inside
  obtain ⟨before, after, split, front, back⟩ := around
  rw [lookup?, split, trimBy_append front solid back, pointed, pointer_eq filled]
  simp only [pointerSegments_intercalate filled plain]
  exact descend?_eq_some plain .strict

/-- All spellings of a key path agree: with dots or brackets between the segments, with more dots
    than needed, as a pointer, and with blanks around any of these. They give the scalar that is
    reached along the segments, and nothing if a step is missing or if what is reached is no
    scalar. -/
theorem resolve?_spelled (spelled : Spells true path segments ∨ path = pointer segments) :
    j.resolve? text = j.resolve? (String.ofList (pointer segments)) ∧
      ∀ s, j.resolve? text = some s ↔ ∃ target, Reaches j segments target ∧ IsScalar target s := by
  have pointed {target : Json} : j.lookup? (String.ofList (pointer segments)) = some target ↔
      Reaches j segments target :=
    lookup?_pointer ⟨[], [], by simp, by simp, by simp⟩ plain filled rfl
  have found {target : Json} : j.lookup? text = some target ↔ Reaches j segments target := by
    rcases spelled with dotted | pointed
    · exact lookup?_dotted around plain filled dotted
    · exact lookup?_pointer around plain filled pointed
  have same : j.lookup? text = j.lookup? (String.ofList (pointer segments)) :=
    Option.ext fun target => found.trans pointed.symm
  refine ⟨congrArg (Option.bind · scalar?) same, fun s => ?_⟩
  simp only [resolve?, Option.bind_eq_some_iff, found, scalar?_eq_some]

end Lookup

/-- Lines of an order. The second one has a member with a number for a name, and has it twice. -/
def order : Json :=
  let second : Json := .object [("07", .null), ("7", .bool true), ("7", .string "b")]
  .object [("lines", .array [.null, second])]

theorem resolve?_spelled_order :
    let segments := [['l', 'i', 'n', 'e', 's'], ['1'], ['7']]
    let path := ['.', 'l', 'i', 'n', 'e', 's', '[', '1', ']', '.', '.', '7', '.']
    IsAround "\t.lines[1]..7. ".toList path ∧ (∀ segment ∈ segments, IsPlain segment) ∧
      segments ≠ [] ∧ Spells true path segments ∧
      order.resolve? "\t.lines[1]..7. " = order.resolve? "/lines/1/7" ∧
      order.resolve? "\t.lines[1]..7. " = some (.text "b") := by
  intro segments path
  have around : IsAround "\t.lines[1]..7. ".toList path :=
    ⟨['\t'], [' '], rfl, List.forall_mem_singleton.mpr rfl, List.forall_mem_singleton.mpr rfl⟩
  have plain : ∀ segment ∈ segments, IsPlain segment := by decide
  have filled : segments ≠ [] := by decide
  have spells : Spells true path segments :=
    @Spells.segment _ 1 false ['l', 'i', 'n', 'e', 's'] _ _ (.inl rfl) <|
      @Spells.segment _ 0 true ['1'] _ _ (.inr (.inl rfl)) <|
        @Spells.segment _ 2 false ['7'] _ _ (.inr (.inr (by decide))) (.done false 1)
  obtain ⟨same, found⟩ := resolve?_spelled (j := order) around plain filled (.inl spells)
  have reached : Reaches order segments (.string "b") :=
    @Reaches.member [] [] "lines" _ _ _ (by simp) <|
      @Reaches.item [.null, _] 1 _ _ _ rfl (by decide) <|
        @Reaches.member [("07", .null), ("7", .bool true)] [] "7" _ _ _ (by simp) .here
  exact ⟨around, plain, filled, spells, same, (found _).mpr ⟨_, reached, .text⟩⟩

end PageMap.Json
