import PageMap.Proofs.Text.Case
import PageMap.Style.Attribute
/-! # What a keyword begins

A word in lowercase letters begins the texts that spell it in any case. If `k` is its last letter
there are texts in which a Kelvin sign stands for that letter: they agree with the word as well, but
the word ends inside of the sign. `afterWord_cases` says that nothing else can happen.
-/

namespace PageMap.Attribute

open Text

theorem toLower_of_isSpace {c : Char} (space : isSpace c = true) : c.toLower = c := by
  simp only [isSpace, Bool.or_eq_true, decide_eq_true_eq] at space
  rcases space with ((rfl | rfl) | rfl) | rfl <;> decide

/-! ### Plain words -/

/-- A letter in lowercase or a digit. -/
def isPlainChar (c : Char) : Bool :=
  c.isLower || c.isDigit

/-- A word consists of letters in lowercase and digits, and `k` is at most its last letter. -/
structure IsPlain (word : List Char) : Prop where
  plain : ∀ c ∈ word, isPlainChar c = true
  last : 'k' ∉ word.dropLast

instance (word : List Char) : Decidable (IsPlain word) :=
  decidable_of_iff (word.all isPlainChar = true ∧ 'k' ∉ word.dropLast)
    ⟨fun ⟨plain, last⟩ => ⟨List.all_eq_true.mp plain, last⟩,
      fun ⟨plain, last⟩ => ⟨List.all_eq_true.mpr plain, last⟩⟩

theorem range_of_isPlainChar {c : Char} (plain : isPlainChar c = true) :
    48 ≤ c.toNat ∧ c.toNat ≤ 57 ∨ 97 ≤ c.toNat ∧ c.toNat ≤ 122 := by
  rcases (Bool.or_eq_true _ _).mp plain with lower | digit
  · obtain ⟨low, high⟩ := (Bool.and_eq_true _ _).mp lower
    exact .inr ⟨UInt32.le_iff_toNat_le.mp (of_decide_eq_true low),
      UInt32.le_iff_toNat_le.mp (of_decide_eq_true high)⟩
  · exact .inl (Char.isDigit_iff_toNat.mp digit)

theorem toLower_of_isPlainChar {c : Char} (plain : isPlainChar c = true) : c.toLower = c := by
  have range := range_of_isPlainChar plain
  apply dif_neg
  rintro ⟨low, high⟩
  have low : 65 ≤ c.toNat := UInt32.le_iff_toNat_le.mp low
  have high : c.toNat ≤ 90 := UInt32.le_iff_toNat_le.mp high
  omega

theorem isSpace_of_isPlainChar {c : Char} (plain : isPlainChar c = true) : isSpace c = false := by
  refine Bool.eq_false_iff.mpr fun space => ?_
  simp only [isSpace, Bool.or_eq_true, decide_eq_true_eq] at space
  rcases space with ((rfl | rfl) | rfl) | rfl <;> cases plain

theorem lowerChar_of_isPlainChar {w : Char} (plain : isPlainChar w = true) : lowerChar w = [w] := by
  have range := range_of_isPlainChar plain
  rw [lowerChar_ascii (by omega), toLower_of_isPlainChar plain]

/-- What agrees with a letter is that letter in some case, or the Kelvin sign if it is `k`. -/
theorem lowerChar_eq_iff {c w : Char} (plain : isPlainChar w = true) :
    lowerChar c = lowerChar w ↔ c.toLower = w ∨ c = kelvinSign ∧ w = 'k' := by
  have range := range_of_isPlainChar plain
  rw [lowerChar_of_isPlainChar plain]
  exact lowerChar_eq_singleton (by omega) (by omega)

theorem utf8Size_of_toLower {c : Char} (plain : isPlainChar c.toLower = true) :
    c.utf8Size = 1 := by
  have range := range_of_isPlainChar plain
  apply Char.utf8Size_eq_one_iff.mpr
  by_cases low : c.toNat < 0x80
  · exact UInt32.le_iff_toNat_le.mpr (Nat.le_of_lt_succ low)
  · rw [toLower_of_high low] at range
    omega

theorem IsPlain.tail {w : Char} {word : List Char} (plain : IsPlain (w :: word)) :
    IsPlain word where
  plain c member := plain.plain c (List.mem_cons_of_mem w member)
  last member := by
    cases word with
    | nil => cases member
    | cons next rest => exact plain.last (List.mem_cons_of_mem w member)

/-! ### Bytes -/

theorem byteCount_append (first second : List Char) :
    byteCount (first ++ second) = byteCount first + byteCount second := by
  induction first with
  | nil => rw [List.nil_append, byteCount, Nat.zero_add]
  | cons c cs ih => rw [List.cons_append, byteCount, byteCount, ih, Nat.add_assoc]

/-- The letters of a plain word take one byte each, in whatever case they are spelled. -/
theorem byteCount_spelled {spelled : List Char}
    (plain : ∀ c ∈ spelled.map Char.toLower, isPlainChar c = true) :
    byteCount spelled = spelled.length := by
  induction spelled with
  | nil => rfl
  | cons c cs ih =>
      rw [List.map_cons, List.forall_mem_cons] at plain
      rw [byteCount, utf8Size_of_toLower plain.1, ih plain.2, List.length_cons, Nat.add_comm]

theorem byteCount_of_plain {word : List Char} (plain : ∀ c ∈ word, isPlainChar c = true) :
    byteCount word = word.length := by
  have same : word.map Char.toLower = word :=
    (List.map_congr_left fun c member => toLower_of_isPlainChar (plain c member)).trans
      (List.map_id _)
  exact byteCount_spelled (same.symm ▸ plain)

theorem afterBytes?_append (first second : List Char) (n : Nat) :
    afterBytes? (byteCount first + n) (first ++ second) = afterBytes? n second := by
  induction first with
  | nil => rw [byteCount, Nat.zero_add, List.nil_append]
  | cons c cs ih =>
      have size := c.utf8Size_pos
      obtain ⟨m, more⟩ : ∃ m, byteCount (c :: cs) + n = m + 1 :=
        ⟨byteCount (c :: cs) + n - 1, by rw [byteCount]; omega⟩
      have left : m + 1 - c.utf8Size = byteCount cs + n := by
        rw [← more, byteCount]
        omega
      have fits : c.utf8Size ≤ m + 1 := by
        rw [← more, byteCount]
        omega
      rw [more, List.cons_append, afterBytes?, if_pos fits, left, ih]

/-! ### Words at the front of a text -/

/-- A text begins with a word in any case. -/
def Begins (word cs rest : List Char) : Prop :=
  ∃ spelled, cs = spelled ++ rest ∧ spelled.map Char.toLower = word

/-- A text begins with a word in any case, except that a Kelvin sign stands for its last letter. -/
def Splits (word cs : List Char) : Prop :=
  ∃ spelled rest, cs = spelled ++ kelvinSign :: rest ∧ spelled.map Char.toLower ++ ['k'] = word

theorem agree_cons {w c : Char} {word cs : List Char} :
    agree (w :: word) (c :: cs) = true ↔ lowerChar c = lowerChar w ∧ agree word cs = true := by
  rw [agree, Bool.and_eq_true, decide_eq_true_eq]

/-- A text that agrees with a plain word begins with it, or splits it, or ends before it. -/
theorem agree_cases {word cs : List Char} (plain : IsPlain word) (same : agree word cs = true) :
    (∃ rest, Begins word cs rest) ∨ Splits word cs ∨
      ∃ missing, missing ≠ [] ∧ cs.map Char.toLower ++ missing = word := by
  induction word generalizing cs with
  | nil => exact .inl ⟨cs, [], rfl, rfl⟩
  | cons w word ih =>
      cases cs with
      | nil => exact .inr (.inr ⟨w :: word, List.cons_ne_nil _ _, rfl⟩)
      | cons c cs =>
          obtain ⟨first, others⟩ := agree_cons.mp same
          rcases (lowerChar_eq_iff (plain.plain w List.mem_cons_self)).mp first with
            rfl | ⟨rfl, rfl⟩
          · rcases ih plain.tail others with ⟨rest, spelled, rfl, rfl⟩ |
              ⟨spelled, rest, rfl, rfl⟩ | ⟨missing, more, rfl⟩
            · exact .inl ⟨rest, c :: spelled, rfl, rfl⟩
            · exact .inr (.inl ⟨c :: spelled, rest, rfl, rfl⟩)
            · exact .inr (.inr ⟨missing, more, rfl⟩)
          · -- a `k` is the last letter, so the word ends here
            cases word with
            | nil => exact .inr (.inl ⟨[], cs, rfl, rfl⟩)
            | cons next rest => exact absurd List.mem_cons_self plain.last

theorem agree_spelled {spelled : List Char}
    (plain : ∀ c ∈ spelled.map Char.toLower, isPlainChar c = true) {word cs : List Char} :
    agree (spelled.map Char.toLower ++ word) (spelled ++ cs) = agree word cs := by
  induction spelled with
  | nil => rfl
  | cons c spelled ih =>
      rw [List.map_cons, List.forall_mem_cons] at plain
      have same := (lowerChar_eq_iff (c := c) plain.1).mpr (.inl rfl)
      rw [List.map_cons, List.cons_append, List.cons_append, agree, same, ih plain.2]
      simp

section Plain

variable {word cs : List Char} (plain : IsPlain word)
include plain

theorem afterWord_begins {rest : List Char} (begins : Begins word cs rest) :
    afterWord word cs = .ok rest := by
  obtain ⟨spelled, rfl, rfl⟩ := begins
  have same : agree (spelled.map Char.toLower) (spelled ++ rest) = true := by
    rw [← List.append_nil (spelled.map Char.toLower), agree_spelled plain.plain]
    rfl
  have bytes : byteCount (spelled.map Char.toLower) = byteCount spelled := by
    rw [byteCount_of_plain plain.plain, byteCount_spelled plain.plain, List.length_map]
  have cut := afterBytes?_append spelled rest 0
  rw [Nat.add_zero, afterBytes?] at cut
  rw [afterWord, bytes, if_pos ⟨same, by rw [byteCount_append]; omega⟩, cut]

theorem afterWord_splits (splits : Splits word cs) : afterWord word cs = .error .crash := by
  obtain ⟨spelled, rest, rfl, rfl⟩ := splits
  have letters : ∀ c ∈ spelled.map Char.toLower, isPlainChar c = true :=
    fun c member => plain.plain c (List.mem_append_left _ member)
  have same : agree (spelled.map Char.toLower ++ ['k']) (spelled ++ kelvinSign :: rest) =
      agree ['k'] (kelvinSign :: rest) := agree_spelled letters
  have kelvin : agree ['k'] (kelvinSign :: rest) = true :=
    agree_cons.mpr ⟨by decide +kernel, rfl⟩
  have bytes : byteCount (spelled.map Char.toLower ++ ['k']) = byteCount spelled + 1 := by
    rw [byteCount_of_plain plain.plain, byteCount_spelled letters]
    simp
  -- the word ends behind the first of the three bytes of the sign
  have cut : afterBytes? (byteCount spelled + 1) (spelled ++ kelvinSign :: rest) = none := by
    rw [afterBytes?_append, afterBytes?]
    rfl
  have long : byteCount spelled + 1 ≤ byteCount (spelled ++ kelvinSign :: rest) := by
    have size := kelvinSign.utf8Size_pos
    rw [byteCount_append, byteCount]
    omega
  rw [afterWord, bytes, if_pos ⟨same.trans kelvin, long⟩, cut]

/-- A plain word begins a text, or it is split, or the text is another one. -/
theorem afterWord_cases (cs : List Char) :
    (∃ rest, Begins word cs rest ∧ afterWord word cs = .ok rest) ∨
      (Splits word cs ∧ afterWord word cs = .error .crash) ∨
      afterWord word cs = .error .malformed := by
  by_cases matched : agree word cs ∧ byteCount word ≤ byteCount cs
  · rcases agree_cases plain matched.1 with ⟨rest, begins⟩ | splits | ⟨missing, more, rfl⟩
    · exact .inl ⟨rest, begins, afterWord_begins plain begins⟩
    · exact .inr (.inl ⟨splits, afterWord_splits plain splits⟩)
    · -- a text that ends before the word has fewer bytes
      have shorter : byteCount cs = cs.length :=
        byteCount_spelled fun c member => plain.plain c (List.mem_append_left _ member)
      have longer : byteCount (cs.map Char.toLower ++ missing) = cs.length + missing.length := by
        rw [byteCount_of_plain plain.plain, List.length_append, List.length_map]
      have some_missing := List.length_pos_iff.mpr more
      omega
  · exact .inr (.inr (if_neg matched))

end Plain

end PageMap.Attribute
