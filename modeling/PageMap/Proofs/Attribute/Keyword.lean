import PageMap.Proofs.Attribute.Word
import PageMap.Proofs.Text.Trim
/-! # Which texts keyword attributes accept

Keywords are tried one after the other, and the first one that begins the text is taken for good.
That is no loss where no keyword begins a later one: then a text is accepted if and only if it is a
keyword up to case, with nothing but space around it. Reading crashes if and only if the text splits
a keyword, which needs a Kelvin sign. Of all keywords only three font weights can be split.
-/

namespace PageMap.Attribute

open Text

variable {α : Type}

/-! ### Space around a value -/

theorem skipSpace_space {before : List Char} (space : ∀ c ∈ before, isSpace c = true)
    (cs : List Char) : skipSpace (before ++ cs) = skipSpace cs :=
  List.dropWhile_append_of_pos space

theorem skipSpace_eq_nil {cs : List Char} :
    skipSpace cs = [] ↔ ∀ c ∈ cs, isSpace c = true :=
  List.dropWhile_eq_nil_iff

theorem skipSpace_solid {c : Char} (solid : isSpace c = false) (cs : List Char) :
    skipSpace (c :: cs) = c :: cs :=
  List.dropWhile_cons_of_neg (by simp [solid])

theorem exists_space (cs : List Char) :
    ∃ before, cs = before ++ skipSpace cs ∧ ∀ c ∈ before, isSpace c = true :=
  ⟨cs.takeWhile isSpace, List.takeWhile_append_dropWhile.symm, fun _ => List.mem_takeWhile_imp⟩

/-- Skipping space leaves the trimmed text and the space behind it. -/
theorem exists_skipSpace_eq (cs : List Char) :
    ∃ after, skipSpace cs = trimBy isSpace cs ++ after ∧ ∀ c ∈ after, isSpace c = true := by
  refine ⟨(skipSpace cs).rtakeWhile isSpace, ?_, fun _ => List.mem_rtakeWhile_imp⟩
  exact List.rdropWhile_append_rtakeWhile.symm

/-! ### Readers -/

theorem whole_eq_ok {read : Reader α} {raw : String} {a : α} :
    read.whole raw = .ok a ↔ read raw.toList = .ok (a, []) := by
  rw [Reader.whole]
  split
  case h_1 b done => simp [done]
  case h_2 b rest more done =>
      rw [done, Except.ok.injEq, Prod.mk.injEq]
      exact ⟨nofun, fun same => absurd same.2 more⟩
  case h_3 failed => simp [failed]

theorem whole_eq_crash {read : Reader α} {raw : String} :
    read.whole raw = .error .crash ↔ read raw.toList = .error .crash := by
  rw [Reader.whole]
  split
  case h_1 b done => simp [done]
  case h_2 b rest more done => simp [done]
  case h_3 failed => simp [failed]

theorem map_eq_error {ε β : Type} {f : α → β} {result : Except ε α} {e : ε} :
    result.map f = .error e ↔ result = .error e := by
  cases result <;> simp [Except.map]

theorem spaced_eq_ok {read : Reader α} {cs left : List Char} {a : α} :
    read.spaced cs = .ok (a, left) ↔
      ∃ rest, read (skipSpace cs) = .ok (a, rest) ∧ left = skipSpace rest := by
  cases done : read (skipSpace cs) with
  | error e => simp [Reader.spaced, done, bind, Except.bind]
  | ok found =>
      obtain ⟨b, rest⟩ := found
      simp [Reader.spaced, done, bind, Except.bind, pure, Except.pure, eq_comm]

theorem spaced_eq_nil {read : Reader α} {cs : List Char} {a : α} :
    read.spaced cs = .ok (a, []) ↔
      ∃ rest, read (skipSpace cs) = .ok (a, rest) ∧ ∀ c ∈ rest, isSpace c = true := by
  simp only [spaced_eq_ok, eq_comm (a := []), skipSpace_eq_nil]

theorem spaced_eq_error {read : Reader α} {cs : List Char} {e : AttributeError} :
    read.spaced cs = .error e ↔ read (skipSpace cs) = .error e := by
  cases done : read (skipSpace cs) with
  | error e => simp [Reader.spaced, done, bind, Except.bind]
  | ok found => simp [Reader.spaced, done, bind, Except.bind, pure, Except.pure]

theorem plain_eq_ok {read? : List Char → Option (α × List Char)} {cs rest : List Char} {a : α} :
    Reader.plain read? cs = .ok (a, rest) ↔ read? cs = some (a, rest) := by
  rw [Reader.plain]
  cases read? cs <;> simp

theorem plain_ne_crash (read? : List Char → Option (α × List Char)) (cs : List Char) :
    Reader.plain read? cs ≠ .error .crash := by
  rw [Reader.plain]
  cases read? cs <;> nofun

theorem or_eq_ok {first second : Reader α} {cs rest : List Char} {a : α} :
    first.or second cs = .ok (a, rest) ↔
      first cs = .ok (a, rest) ∨ first cs = .error .malformed ∧ second cs = .ok (a, rest) := by
  rw [Reader.or]
  split
  case h_1 refused => simp [refused]
  case h_2 other => exact ⟨.inl, fun read => read.resolve_right fun later => other later.1⟩

theorem or_eq_crash {first second : Reader α} {cs : List Char} :
    first.or second cs = .error .crash ↔
      first cs = .error .crash ∨ first cs = .error .malformed ∧ second cs = .error .crash := by
  rw [Reader.or]
  split
  case h_1 refused => simp [refused]
  case h_2 other => exact ⟨.inl, fun read => read.resolve_right fun later => other later.1⟩

/-! ### Keywords -/

/-- Keywords that can be told apart: none of them begins a later one. -/
structure Keywords.Distinct (words : Keywords α) : Prop where
  plain : ∀ entry ∈ words, IsPlain entry.1.toList
  unshadowed : words.Pairwise fun first later => ¬first.1.toList <+: later.1.toList

instance (words : Keywords α) : Decidable words.Distinct :=
  decidable_of_iff (_ ∧ _) ⟨fun ⟨plain, unshadowed⟩ => ⟨plain, unshadowed⟩,
    fun ⟨plain, unshadowed⟩ => ⟨plain, unshadowed⟩⟩

theorem Keywords.read_cons (word : String) (value : α) (others : Keywords α) (cs : List Char) :
    Keywords.read ((word, value) :: others) cs =
      match afterWord word.toList cs with
      | .ok rest => .ok (value, rest)
      | .error .malformed => others.read cs
      | .error e => .error e := by
  rw [Keywords.read, Reader.or]
  cases afterWord word.toList cs with
  | ok rest => rfl
  | error e => cases e <;> rfl

theorem solid_of_spelled {spelled word : List Char} (lower : spelled.map Char.toLower = word)
    (plain : ∀ c ∈ word, isSpace c = false) : ∀ c ∈ spelled, isSpace c = false := by
  intro c member
  by_contra space
  rw [Bool.not_eq_false] at space
  have inWord : c ∈ word := by
    rw [← lower]
    exact List.mem_map.mpr ⟨c, member, toLower_of_isSpace space⟩
  rw [plain c inWord] at space
  cases space

/-- What begins a text and lacks the character that stands behind a front part ends in that part. -/
theorem prefix_of_absent {text after spelled rest : List Char}
    (split : text ++ after = spelled ++ rest) (absent : ∀ c ∈ after.head?, c ∉ spelled) :
    spelled <+: text := by
  rcases List.append_eq_append_iff.mp split with ⟨more, rfl, rfl⟩ | ⟨more, rfl, -⟩
  · cases more with
    | nil => simp
    | cons c cs => exact absurd (by simp) (absent c rfl)
  · exact List.prefix_append spelled more

/-- A text splits a keyword. -/
def Keywords.Splits (words : Keywords α) (cs : List Char) : Prop :=
  ∃ entry ∈ words, Attribute.Splits entry.1.toList cs

/-- A keyword begins the text, or one is split, or the text is refused. -/
theorem Keywords.read_cases {words : Keywords α}
    (plain : ∀ entry ∈ words, IsPlain entry.1.toList) (cs : List Char) :
    (∃ word a rest, (word, a) ∈ words ∧ Begins word.toList cs rest ∧
        words.read cs = .ok (a, rest)) ∨
      (words.Splits cs ∧ words.read cs = .error .crash) ∨
      words.read cs = .error .malformed := by
  induction words with
  | nil => exact .inr (.inr rfl)
  | cons first others ih =>
      obtain ⟨word, value⟩ := first
      obtain ⟨plainFirst, plainOthers⟩ := List.forall_mem_cons.mp plain
      rw [Keywords.read_cons]
      rcases afterWord_cases plainFirst cs with ⟨rest, begins, same⟩ | ⟨splits, same⟩ | same
      · exact .inl ⟨word, value, rest, List.mem_cons_self, begins, by simp only [same]⟩
      · exact .inr (.inl ⟨⟨_, List.mem_cons_self, splits⟩, by simp only [same]⟩)
      · simp only [same]
        rcases ih plainOthers with ⟨other, a, rest, member, begins, read⟩ |
          ⟨⟨other, member, splits⟩, read⟩ | read
        · exact .inl ⟨other, a, rest, List.mem_cons_of_mem _ member, begins, read⟩
        · exact .inr (.inl ⟨⟨other, List.mem_cons_of_mem _ member, splits⟩, read⟩)
        · exact .inr (.inr read)

theorem Keywords.exists_of_read {words : Keywords α}
    (plain : ∀ entry ∈ words, IsPlain entry.1.toList) {cs rest : List Char} {a : α}
    (found : words.read cs = .ok (a, rest)) :
    ∃ word, (word, a) ∈ words ∧ Begins word.toList cs rest := by
  rcases Keywords.read_cases plain cs with ⟨word, b, left, member, begins, read⟩ | ⟨-, read⟩ |
    read <;> rw [found] at read <;> cases read
  exact ⟨word, member, begins⟩

theorem kelvinSign_not_mem {spelled : List Char}
    (plain : ∀ c ∈ spelled.map Char.toLower, isPlainChar c = true) : kelvinSign ∉ spelled := by
  intro member
  have letter := plain _ (List.mem_map_of_mem member)
  exact absurd letter (by decide)

/-- A word is passed over if it does not begin the keyword that the text spells, or of which the
    text spells all but the last letter before a Kelvin sign. -/
theorem afterWord_passed {word keyword text after : List Char} (plain : IsPlain word)
    (plainText : ∀ c ∈ text.map Char.toLower, isPlainChar c = true)
    (spells : text.map Char.toLower <+: keyword)
    (stops : ∀ c ∈ after.head?, isPlainChar c.toLower = false)
    (split : ∀ left, after = kelvinSign :: left → text.map Char.toLower ++ ['k'] = keyword)
    (other : ¬word <+: keyword) : afterWord word (text ++ after) = .error .malformed := by
  have absent {spelled : List Char} (letters : spelled.map Char.toLower <+: word) :
      ∀ c ∈ after.head?, c ∉ spelled := by
    intro c first member
    have letter := plain.plain _ (letters.subset (List.mem_map_of_mem member))
    rw [stops c first] at letter
    cases letter
  rcases afterWord_cases plain (text ++ after) with
    ⟨rest, ⟨spelled, same, rfl⟩, -⟩ | ⟨⟨spelled, rest, same, rfl⟩, -⟩ | passed
  · have front := prefix_of_absent same (absent List.prefix_rfl)
    exact absurd ((front.map Char.toLower).trans spells) other
  · -- both texts end where the sign stands
    obtain ⟨more, rfl⟩ := prefix_of_absent same (absent (List.prefix_append _ _))
    rw [List.append_assoc, List.append_cancel_left_eq] at same
    cases more with
    | nil =>
        refine absurd ?_ other
        rw [List.append_nil] at split
        exact split rest same ▸ List.prefix_rfl
    | cons c more =>
        obtain ⟨rfl, -⟩ := List.cons.inj same
        exact absurd (List.mem_append_right spelled List.mem_cons_self)
          (kelvinSign_not_mem plainText)
  · exact passed

/-- The words before a keyword do not matter if they are passed over. -/
theorem Keywords.Distinct.read_eq {words : Keywords α} (distinct : words.Distinct)
    {entry : String × α} (member : entry ∈ words) {cs : List Char}
    (passed : ∀ first ∈ words, ¬first.1.toList <+: entry.1.toList →
      afterWord first.1.toList cs = .error .malformed)
    (taken : afterWord entry.1.toList cs ≠ .error .malformed) :
    words.read cs = (afterWord entry.1.toList cs).map fun rest => (entry.2, rest) := by
  obtain ⟨-, unshadowed⟩ := distinct
  induction words with
  | nil => cases member
  | cons first others ih =>
      obtain ⟨passedFirst, passedOthers⟩ := List.forall_mem_cons.mp passed
      obtain ⟨noPrefix, unshadowedOthers⟩ := List.pairwise_cons.mp unshadowed
      rw [Keywords.read_cons]
      rcases List.mem_cons.mp member with rfl | later
      · cases read : afterWord entry.1.toList cs with
        | ok rest => rfl
        | error e =>
            cases e with
            | malformed => exact absurd read taken
            | trailing _ _ | crash => rfl
      · rw [passedFirst (noPrefix entry later)]
        exact ih later passedOthers unshadowedOthers

/-- A keyword with space behind it is read as that keyword, whatever is tried before. -/
theorem Keywords.Distinct.read_spelled {words : Keywords α} (distinct : words.Distinct)
    {word : String} {a : α} (member : (word, a) ∈ words) {spelled after : List Char}
    (lower : spelled.map Char.toLower = word.toList) (space : ∀ c ∈ after, isSpace c = true) :
    words.read (spelled ++ after) = .ok (a, after) := by
  have plain := distinct.plain (word, a) member
  have begins : afterWord word.toList (spelled ++ after) = .ok after :=
    afterWord_begins plain ⟨spelled, rfl, lower⟩
  refine (distinct.read_eq member (fun first earlier other => ?_) (begins ▸ nofun)).trans
    (by rw [begins]; rfl)
  refine afterWord_passed (distinct.plain first earlier) (lower ▸ plain.plain)
    (lower ▸ List.prefix_rfl) (fun c ends => ?_) (fun left sign => ?_) other
  · have blank := space c (List.mem_of_mem_head? ends)
    rw [toLower_of_isSpace blank]
    exact Bool.eq_false_iff.mpr fun letter => by simp [isSpace_of_isPlainChar letter] at blank
  · exact absurd (space kelvinSign (sign ▸ List.mem_cons_self)) (by decide)

/-- Reading crashes on a text that splits a keyword: no earlier one begins it. -/
theorem Keywords.Distinct.read_splits {words : Keywords α} (distinct : words.Distinct)
    {cs : List Char} (splits : words.Splits cs) : words.read cs = .error .crash := by
  obtain ⟨entry, member, spelled, left, rfl, letters⟩ := splits
  have plain := distinct.plain entry member
  have crashed : afterWord entry.1.toList (spelled ++ kelvinSign :: left) = .error .crash :=
    afterWord_splits plain ⟨spelled, left, rfl, letters⟩
  refine (distinct.read_eq member (fun first earlier other => ?_) (crashed ▸ nofun)).trans
    (by rw [crashed]; rfl)
  refine afterWord_passed (distinct.plain first earlier)
    (fun c inWord => plain.plain c (letters ▸ List.mem_append_left _ inWord))
    (letters ▸ List.prefix_append _ _) (fun c ends => ?_) (fun _ _ => letters) other
  obtain rfl := Option.some.inj ends
  decide

theorem Keywords.Distinct.read_eq_crash {words : Keywords α} (distinct : words.Distinct)
    {cs : List Char} : words.read cs = .error .crash ↔ words.Splits cs := by
  refine ⟨fun crashed => ?_, distinct.read_splits⟩
  rcases Keywords.read_cases distinct.plain cs with ⟨word, a, rest, -, -, read⟩ | ⟨splits, -⟩ | read
  · rw [crashed] at read
    cases read
  · exact splits
  · rw [crashed] at read
    cases read

/-- The same text up to the case of ASCII letters. -/
def SameLetters (text word : List Char) : Prop :=
  text.map Char.toLower = word.map Char.toLower

/-- A keyword of a value is written, with nothing but space around it. -/
def Keywords.Spells (words : Keywords α) (text : List Char) (a : α) : Prop :=
  ∃ word, (word, a) ∈ words ∧ SameLetters (trimBy isSpace text) word.toList

theorem Keywords.Distinct.map_toLower {words : Keywords α} (distinct : words.Distinct)
    {word : String} {a : α} (member : (word, a) ∈ words) :
    word.toList.map Char.toLower = word.toList :=
  (List.map_congr_left fun c inWord =>
    toLower_of_isPlainChar ((distinct.plain _ member).plain c inWord)).trans (List.map_id _)

theorem Keywords.Distinct.solid {words : Keywords α} (distinct : words.Distinct) {word : String}
    {a : α} (member : (word, a) ∈ words) : ∀ c ∈ word.toList, isSpace c = false :=
  fun c inWord => isSpace_of_isPlainChar ((distinct.plain _ member).plain c inWord)

/-- Reading keywords with space around them uses a text up if it is one of them. -/
theorem Keywords.Distinct.spaced_read {words : Keywords α} (distinct : words.Distinct)
    {cs : List Char} {a : α} :
    Reader.spaced words.read cs = .ok (a, []) ↔ words.Spells cs a := by
  rw [spaced_eq_nil]
  constructor
  · rintro ⟨rest, found, space⟩
    obtain ⟨word, member, spelled, skipped, lower⟩ := Keywords.exists_of_read distinct.plain found
    have solid := solid_of_spelled lower (distinct.solid member)
    refine ⟨word, member, ?_⟩
    rw [SameLetters, trimBy_eq skipped solid space, lower, distinct.map_toLower member]
  · rintro ⟨word, member, same⟩
    obtain ⟨after, skipped, space⟩ := exists_skipSpace_eq cs
    rw [SameLetters, distinct.map_toLower member] at same
    exact ⟨after, by rw [skipped]; exact distinct.read_spelled member same space, space⟩

theorem keyword_eq_ok {words : Keywords α} (distinct : words.Distinct) {raw : String} {a : α} :
    keyword words raw = .ok a ↔ words.Spells raw.toList a := by
  rw [keyword, whole_eq_ok, distinct.spaced_read]

theorem keyword_eq_crash {words : Keywords α} (distinct : words.Distinct) {raw : String} :
    keyword words raw = .error .crash ↔ words.Splits (skipSpace raw.toList) := by
  rw [keyword, whole_eq_crash, spaced_eq_error, distinct.read_eq_crash]

/-- Without a Kelvin sign nothing is split. -/
theorem Keywords.Splits.mem {words : Keywords α} {cs : List Char}
    (splits : words.Splits (skipSpace cs)) : kelvinSign ∈ cs := by
  obtain ⟨-, -, spelled, rest, split, -⟩ := splits
  refine (List.dropWhile_sublist isSpace).subset (?_ : kelvinSign ∈ skipSpace cs)
  rw [split]
  exact List.mem_append_right spelled List.mem_cons_self

/-- Only a keyword that ends with `k` can be split. -/
theorem Keywords.not_splits {words : Keywords α}
    (others : ∀ entry ∈ words, 'k' ∉ entry.1.toList) (cs : List Char) : ¬words.Splits cs := by
  rintro ⟨entry, member, spelled, rest, -, letters⟩
  refine others entry member ?_
  rw [← letters]
  exact List.mem_append_right _ List.mem_cons_self

/-! ### Font weights -/

theorem weightWords_distinct : fontWeightWords.Distinct := by
  decide +kernel

/-- Digits write the number of a weight on the scale. The weight has the name that fits the number,
    if one does. -/
structure IsWeightNumber (digits : List Char) (w : FontWeight) : Prop where
  nonempty : digits ≠ []
  isDigits : ∀ c ∈ digits, c.isDigit = true
  least : 1 ≤ digitsValue digits
  greatest : digitsValue digits ≤ 999
  named : w ∈ FontWeight.named ∧ w.value = digitsValue digits ∨
    w = .numeric (digitsValue digits) ∧
      ∀ other ∈ FontWeight.named, other.value ≠ digitsValue digits

theorem ofValue_eq_iff {n : Nat} {w : FontWeight} :
    FontWeight.ofValue n = w ↔ w ∈ FontWeight.named ∧ w.value = n ∨
      w = .numeric n ∧ ∀ other ∈ FontWeight.named, other.value ≠ n := by
  have different : ∀ first ∈ FontWeight.named, ∀ other ∈ FontWeight.named,
      first.value = other.value → first = other := by
    decide
  rw [FontWeight.ofValue]
  cases found : FontWeight.named.find? fun w => w.value = n with
  | none =>
      have none_fits : ∀ other ∈ FontWeight.named, other.value ≠ n := by simpa using found
      constructor
      · rintro rfl
        exact .inr ⟨rfl, none_fits⟩
      · rintro (⟨member, fits⟩ | ⟨rfl, -⟩)
        · exact absurd fits (none_fits w member)
        · rfl
  | some first =>
      have member := List.mem_of_find?_eq_some found
      have fits : first.value = n := by simpa using List.find?_some found
      constructor
      · rintro rfl
        exact .inl ⟨member, fits⟩
      · rintro (⟨memberW, fitsW⟩ | ⟨-, none_fits⟩)
        · exact different first member w memberW (fits.trans fitsW.symm)
        · exact absurd fits (none_fits first member)

theorem isDigit_of_isSpace {c : Char} (space : isSpace c = true) : c.isDigit = false := by
  simp only [isSpace, Bool.or_eq_true, decide_eq_true_eq] at space
  rcases space with ((rfl | rfl) | rfl) | rfl <;> decide

theorem toLower_of_isDigit {c : Char} (digit : c.isDigit = true) : c.toLower = c := by
  have low := (Char.isDigit_iff_toNat.mp digit).2
  apply dif_neg
  rintro ⟨high, -⟩
  exact absurd (Nat.le_trans (UInt32.le_iff_toNat_le.mp high) low) (by decide)

theorem fontWeightWords_read_digits {digits rest : List Char}
    (isDigits : ∀ c ∈ digits, c.isDigit = true) (space : ∀ c ∈ rest, isSpace c = true) :
    fontWeightWords.read (digits ++ rest) = .error .malformed := by
  have letters : ∀ entry ∈ fontWeightWords, entry.1.toList.all Char.isDigit = false := by decide
  rcases Keywords.read_cases weightWords_distinct.plain (digits ++ rest) with
    ⟨word, w, left, member, ⟨spelled, split, lower⟩, -⟩ | ⟨⟨-, -, spelled, left, split, -⟩, -⟩ |
    refused
  · have solid := solid_of_spelled lower (weightWords_distinct.solid member)
    have front : spelled <+: digits := prefix_of_absent split fun c first member => by
      have inSpace := space c (List.mem_of_mem_head? first)
      rw [solid c member] at inSpace
      cases inSpace
    have inDigits := front.subset
    -- A keyword that begins digits would consist of digits.
    have consists : word.toList.all Char.isDigit = true := by
      rw [← lower, List.all_map, List.all_eq_true]
      intro c inSpelled
      have digit := isDigits c (inDigits inSpelled)
      rw [Function.comp_apply, toLower_of_isDigit digit, digit]
    rw [letters _ member] at consists
    cases consists
  · have sign : kelvinSign ∈ digits ++ rest :=
      split ▸ List.mem_append_right spelled List.mem_cons_self
    rcases List.mem_append.mp sign with digit | inSpace
    · exact absurd (isDigits _ digit) (by decide)
    · exact absurd (space _ inSpace) (by decide)
  · exact refused

theorem weightNumber_eq_some {cs rest : List Char} {w : FontWeight} :
    weightNumber? cs = some (w, rest) ↔
      rest = cs.dropWhile Char.isDigit ∧ 1 ≤ digitsValue (cs.takeWhile Char.isDigit) ∧
        digitsValue (cs.takeWhile Char.isDigit) ≤ 999 ∧
        FontWeight.ofValue (digitsValue (cs.takeWhile Char.isDigit)) = w := by
  simp only [weightNumber?, List.span_eq_takeWhile_dropWhile]
  split
  case isTrue range => simp [range, and_comm, eq_comm]
  case isFalse range =>
    constructor
    · nofun
    · rintro ⟨-, least, greatest, -⟩
      exact absurd ⟨least, greatest⟩ range

theorem spaced_weightNumber {cs : List Char} {w : FontWeight} :
    Reader.spaced (.plain weightNumber?) cs = .ok (w, []) ↔
      IsWeightNumber (trimBy isSpace cs) w := by
  simp only [spaced_eq_nil, plain_eq_ok]
  constructor
  · rintro ⟨rest, found, space⟩
    obtain ⟨rfl, least, greatest, named⟩ := weightNumber_eq_some.mp found
    have digits (c : Char) (member : c ∈ (skipSpace cs).takeWhile Char.isDigit) :
        c.isDigit = true :=
      List.mem_takeWhile_imp member
    have solid (c : Char) (member : c ∈ (skipSpace cs).takeWhile Char.isDigit) :
        isSpace c = false := by
      by_contra inSpace
      have letter := isDigit_of_isSpace (Bool.not_eq_false _ ▸ inSpace)
      rw [digits c member] at letter
      cases letter
    have trimmed : trimBy isSpace cs = (skipSpace cs).takeWhile Char.isDigit :=
      trimBy_eq List.takeWhile_append_dropWhile.symm solid space
    rw [← trimmed] at digits least greatest named
    refine ⟨fun none_left => ?_, digits, least, greatest, ofValue_eq_iff.mp named⟩
    rw [none_left] at least
    exact absurd least (by decide)
  · rintro ⟨-, digits, least, greatest, named⟩
    obtain ⟨after, skipped, space⟩ := exists_skipSpace_eq cs
    have noDigit (c : Char) (member : c ∈ after) : ¬c.isDigit = true := by
      simp [isDigit_of_isSpace (space c member)]
    have split : (skipSpace cs).takeWhile Char.isDigit = trimBy isSpace cs ∧
        (skipSpace cs).dropWhile Char.isDigit = after := by
      rw [skipped, List.takeWhile_append_of_pos digits, List.dropWhile_append_of_pos digits]
      cases after with
      | nil => simp
      | cons c rest => simp [noDigit c List.mem_cons_self]
    refine ⟨after, weightNumber_eq_some.mpr ?_, space⟩
    rw [split.1, split.2]
    exact ⟨rfl, least, greatest, ofValue_eq_iff.mpr named⟩

theorem fontWeight_eq_ok {raw : String} {w : FontWeight} :
    fontWeight raw = .ok w ↔
      fontWeightWords.Spells raw.toList w ∨ IsWeightNumber (trimBy isSpace raw.toList) w := by
  rw [fontWeight, whole_eq_ok, ← weightWords_distinct.spaced_read, ← spaced_weightNumber]
  simp only [spaced_eq_nil]
  constructor
  · rintro ⟨rest, found, space⟩
    rcases or_eq_ok.mp found with named | ⟨-, number⟩
    · exact .inl ⟨rest, named, space⟩
    · exact .inr ⟨rest, number, space⟩
  · rintro (⟨rest, named, space⟩ | ⟨rest, number, space⟩)
    · exact ⟨rest, or_eq_ok.mpr (.inl named), space⟩
    · have unnamed : fontWeightWords.read (skipSpace raw.toList) = .error .malformed := by
        obtain ⟨rfl, -⟩ := weightNumber_eq_some.mp (plain_eq_ok.mp number)
        have split : (skipSpace raw.toList).takeWhile Char.isDigit ++
            (skipSpace raw.toList).dropWhile Char.isDigit = skipSpace raw.toList :=
          List.takeWhile_append_dropWhile
        rw [← split]
        exact fontWeightWords_read_digits (fun _ => List.mem_takeWhile_imp) space
      exact ⟨rest, or_eq_ok.mpr (.inr ⟨unnamed, number⟩), space⟩

/-- Reading a font weight crashes on a text that splits a name of one. -/
theorem fontWeight_eq_crash {raw : String} :
    fontWeight raw = .error .crash ↔ fontWeightWords.Splits (skipSpace raw.toList) := by
  rw [fontWeight, whole_eq_crash, spaced_eq_error, or_eq_crash, weightWords_distinct.read_eq_crash]
  exact or_iff_left fun number => plain_ne_crash weightNumber? _ number.2

/-- A text is read as a value if and only if it means it, and all other texts are refused. Where
    there is no Kelvin sign reading does not crash. -/
def Reads (parse : String → Except AttributeError α) (means : List Char → α → Prop) : Prop :=
  ∀ raw, (∀ a, parse raw = .ok a ↔ means raw.toList a) ∧
    ((∃ e, parse raw = .error e) ↔ ∀ a, ¬means raw.toList a) ∧
    (kelvinSign ∉ raw.toList → parse raw ≠ .error .crash)

theorem reads_of_eq_ok {parse : String → Except AttributeError α} {means : List Char → α → Prop}
    (accepts : ∀ {raw a}, parse raw = .ok a ↔ means raw.toList a)
    (safe : ∀ {raw}, kelvinSign ∉ raw.toList → parse raw ≠ .error .crash) :
    Reads parse means := by
  intro raw
  refine ⟨fun a => accepts, ?_, safe⟩
  simp only [← accepts]
  cases parse raw <;> simp

theorem reads_keyword {words : Keywords α} (distinct : words.Distinct) :
    Reads (keyword words) words.Spells :=
  reads_of_eq_ok (keyword_eq_ok distinct) fun noSign crashed =>
    noSign ((keyword_eq_crash distinct).mp crashed).mem

/-- Keyword attributes accept exactly their keywords, up to case and with nothing but space around
    them, and a font weight may also be a number from 1 to 999. -/
theorem keywords_exact :
    Reads (keyword horizontalWords) horizontalWords.Spells ∧
      Reads (keyword verticalWords) verticalWords.Spells ∧
      Reads (keyword wrappingWords) wrappingWords.Spells ∧
      Reads (keyword fontStyleWords) fontStyleWords.Spells ∧
      Reads (keyword fontStretchWords) fontStretchWords.Spells ∧
      Reads fontWeight (fun text w =>
        fontWeightWords.Spells text w ∨ IsWeightNumber (trimBy isSpace text) w) ∧
      Reads bool boolWords.Spells := by
  refine ⟨?_, ?_, ?_, ?_, ?_, ?_, ?_⟩
  · exact reads_keyword (by decide +kernel)
  · exact reads_keyword (by decide +kernel)
  · exact reads_keyword (by decide +kernel)
  · exact reads_keyword (by decide +kernel)
  · exact reads_keyword (by decide +kernel)
  · exact reads_of_eq_ok fontWeight_eq_ok fun noSign crashed =>
      noSign (fontWeight_eq_crash.mp crashed).mem
  · exact reads_keyword (by decide +kernel)

end PageMap.Attribute
