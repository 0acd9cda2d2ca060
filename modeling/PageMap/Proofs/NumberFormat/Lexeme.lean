import PageMap.NumberFormat.Token
/-! # What number patterns are made of

Every pattern is a row of lexemes: characters that stand for themselves, quoted texts and escaped
characters, each of them one token. Behind the last lexeme there may be a quote that is not closed or
an escape with nothing to escape. Scanning gives the tokens of the lexemes, each at its byte offset,
or an error at the end of the lexemes.
-/

namespace PageMap.NumberToken

/-- A character that opens a quoted text, and closes one that it has opened. -/
abbrev IsMark (c : Char) : Prop :=
  c = '\'' ∨ c = '"'

/-- A piece of a pattern that stands for one token. -/
inductive Lexeme where
  | plain (c : Char) (bare : c ≠ '\\' ∧ ¬IsMark c)
  | quoted (mark : Char) (text : List Char) (opens : IsMark mark) (inside : mark ∉ text)
  | escaped (c : Char)

/-- What stands behind the last lexeme. -/
inductive Ending where
  | complete
  | openQuote (mark : Char) (text : List Char) (opens : IsMark mark) (inside : mark ∉ text)
  | openEscape

def Lexeme.chars : Lexeme → List Char
  | .plain c _ => [c]
  | .quoted mark text .. => mark :: (text ++ [mark])
  | .escaped c => ['\\', c]

def Lexeme.token : Lexeme → NumberToken
  | .plain c _ => .ofChar c
  | .quoted _ text .. => .literal text
  | .escaped c => .literal [c]

def Ending.chars : Ending → List Char
  | .complete => []
  | .openQuote mark text .. => mark :: text
  | .openEscape => ['\\']

/-- The number of bytes that characters take. -/
def byteLength (cs : List Char) : Nat :=
  (String.ofList cs).utf8ByteSize

@[simp]
theorem byteLength_nil : byteLength [] = 0 :=
  rfl

@[simp]
theorem byteLength_append (first second : List Char) :
    byteLength (first ++ second) = byteLength first + byteLength second := by
  simp only [byteLength, String.ofList_append, String.utf8ByteSize_append]

@[simp]
theorem byteLength_singleton (c : Char) : byteLength [c] = c.utf8Size := by
  simp [byteLength]

theorem byteLength_cons (c : Char) (cs : List Char) :
    byteLength (c :: cs) = c.utf8Size + byteLength cs := by
  rw [← List.singleton_append, byteLength_append, byteLength_singleton]

/-- The tokens of lexemes, the first of which starts at a position. -/
def placed (position : Nat) : List Lexeme → List PlacedToken
  | [] => []
  | lexeme :: rest =>
      (position, lexeme.token) :: placed (position + byteLength lexeme.chars) rest

/-- A way to read a pattern. -/
structure Reading (pattern : String) where
  lexemes : List Lexeme
  ending : Ending
  written : pattern.toList = lexemes.flatMap Lexeme.chars ++ ending.chars

namespace Reading

variable {pattern : String} (r : Reading pattern)

/-- The position at which the lexemes end. -/
def length : Nat :=
  byteLength (r.lexemes.flatMap Lexeme.chars)

def tokens : List PlacedToken :=
  placed 0 r.lexemes

end Reading

/-! ### Every pattern can be read -/

theorem exists_lexemes (cs : List Char) :
    ∃ (lexemes : List Lexeme) (ending : Ending),
      cs = lexemes.flatMap Lexeme.chars ++ ending.chars := by
  match cs with
  | [] => exact ⟨[], .complete, rfl⟩
  | c :: rest =>
      by_cases escape : c = '\\'
      · subst escape
        match rest with
        | [] => exact ⟨[], .openEscape, rfl⟩
        | d :: rest =>
            obtain ⟨lexemes, ending, rfl⟩ := exists_lexemes rest
            exact ⟨.escaped d :: lexemes, ending, rfl⟩
      · by_cases mark : IsMark c
        · by_cases closed : c ∈ rest
          · obtain ⟨text, after, rfl, inside⟩ := List.eq_append_cons_of_mem closed
            obtain ⟨lexemes, ending, rfl⟩ := exists_lexemes after
            refine ⟨.quoted c text mark inside :: lexemes, ending, ?_⟩
            simp [Lexeme.chars]
          · exact ⟨[], .openQuote c rest mark closed, rfl⟩
        · obtain ⟨lexemes, ending, rfl⟩ := exists_lexemes rest
          exact ⟨.plain c ⟨escape, mark⟩ :: lexemes, ending, rfl⟩
termination_by cs.length
decreasing_by
  all_goals subst_vars
  all_goals simp
  all_goals omega

theorem nonempty_reading (pattern : String) : Nonempty (Reading pattern) := by
  obtain ⟨lexemes, ending, written⟩ := exists_lexemes pattern.toList
  exact ⟨lexemes, ending, written⟩

/-! ### Scanning -/

theorem scanFrom_quote {mark : Char} {text : List Char} (inside : mark ∉ text)
    (position start : Nat) (before rest : List Char) :
    scanFrom position (.quote mark start before) (text ++ mark :: rest) =
      (scanFrom (position + byteLength (text ++ [mark])) .nothing rest).map
        ((start, .literal (before.reverse ++ text)) :: ·) := by
  induction text generalizing position before with
  | nil =>
      simp only [List.nil_append, scanFrom, if_true, byteLength_cons, byteLength_nil,
        Nat.add_zero, List.append_nil]
      rfl
  | cons c text ih =>
      obtain ⟨other, later⟩ := not_or.mp (mt List.mem_cons.mpr inside)
      rw [List.cons_append, scanFrom, if_neg (Ne.symm other), ih later]
      simp only [List.cons_append, byteLength_cons, List.reverse_cons, List.append_assoc,
        List.nil_append, Nat.add_assoc]

theorem scanFrom_openQuote {mark : Char} {text : List Char} (inside : mark ∉ text)
    (position start : Nat) (before : List Char) :
    scanFrom position (.quote mark start before) text = .error (.unterminatedQuote start) := by
  induction text generalizing position before with
  | nil => rfl
  | cons c text ih =>
      obtain ⟨other, later⟩ := not_or.mp (mt List.mem_cons.mpr inside)
      rw [scanFrom, if_neg (Ne.symm other), ih later]

theorem ne_escape_of_isMark {mark : Char} (opens : IsMark mark) : mark ≠ '\\' := by
  rcases opens with rfl | rfl <;> decide

theorem scanFrom_lexeme (position : Nat) (lexeme : Lexeme) (rest : List Char) :
    scanFrom position .nothing (lexeme.chars ++ rest) =
      (scanFrom (position + byteLength lexeme.chars) .nothing rest).map
        ((position, lexeme.token) :: ·) := by
  cases lexeme with
  | plain c bare =>
      obtain ⟨notEscape, notMark⟩ := bare
      simp only [Lexeme.chars, List.singleton_append, scanFrom, byteLength_singleton]
      rw [if_neg notEscape, if_neg notMark]
      rfl
  | quoted mark text opens inside =>
      simp only [Lexeme.chars, List.cons_append, List.append_assoc, List.nil_append, scanFrom]
      rw [if_neg (ne_escape_of_isMark opens), if_pos opens, scanFrom_quote inside, byteLength_cons,
        Nat.add_assoc]
      rfl
  | escaped c =>
      simp only [Lexeme.chars, List.cons_append, List.nil_append, scanFrom, if_true,
        byteLength_cons, byteLength_nil, Nat.add_zero, Nat.add_assoc]
      rfl

/-- What scanning comes to when the lexemes before an ending have been read. -/
def Ending.result (position : Nat) (tokens : List PlacedToken) :
    Ending → Except LexicalError (List PlacedToken)
  | .complete => .ok tokens
  | .openQuote .. => .error (.unterminatedQuote position)
  | .openEscape => .error (.trailingEscape position)

theorem scanFrom_lexemes (position : Nat) (lexemes : List Lexeme) (ending : Ending) :
    scanFrom position .nothing (lexemes.flatMap Lexeme.chars ++ ending.chars) =
      ending.result (position + byteLength (lexemes.flatMap Lexeme.chars))
        (placed position lexemes) := by
  induction lexemes generalizing position with
  | nil =>
      cases ending with
      | complete => rfl
      | openQuote mark text opens inside =>
          simp only [List.flatMap_nil, List.nil_append, Ending.chars, scanFrom]
          rw [if_neg (ne_escape_of_isMark opens), if_pos opens, scanFrom_openQuote inside]
          rfl
      | openEscape => rfl
  | cons lexeme rest ih =>
      rw [List.flatMap_cons, List.append_assoc, scanFrom_lexeme, ih, byteLength_append,
        ← Nat.add_assoc, placed]
      cases ending <;> rfl

theorem Reading.scan_eq {pattern : String} (r : Reading pattern) :
    scan pattern = r.ending.result r.length r.tokens := by
  rw [scan, r.written, scanFrom_lexemes, Nat.zero_add]
  rfl

/-- A token is placed where its lexeme starts. -/
theorem exists_lexeme_of_mem {position : Nat} {lexemes : List Lexeme} {token : PlacedToken}
    (member : token ∈ placed position lexemes) :
    ∃ before lexeme after, lexemes = before ++ lexeme :: after ∧
      token = (position + byteLength (before.flatMap Lexeme.chars), lexeme.token) := by
  induction lexemes generalizing position with
  | nil => cases member
  | cons first rest ih =>
      rcases List.mem_cons.mp member with rfl | later
      · exact ⟨[], first, rest, rfl, rfl⟩
      · obtain ⟨before, lexeme, after, rfl, rfl⟩ := ih later
        refine ⟨first :: before, lexeme, after, rfl, ?_⟩
        rw [List.flatMap_cons, byteLength_append, Nat.add_assoc]

end PageMap.NumberToken
