import PageMap.Text.CaseTable
/-! # Upper and lower case

The full case mappings of Unicode: one character may become several, and a capital sigma at the end
of a word becomes a final sigma.
-/

namespace PageMap

/-- The image of a character under a run, if the run reaches it. -/
def CaseRun.image? (run : CaseRun) (n : Nat) : Option Nat :=
  if run.first ≤ n ∧ n ≤ run.last ∧ (n - run.first) % run.step = 0 then
    some ((n : Int) + run.shift).toNat
  else none

namespace Text

/-- Looks a character up among the special mappings, then among the runs. -/
def mapCase (special : List (Nat × List Nat)) (runs : Array CaseRun) (c : Char) : List Char :=
  match special.lookup c.toNat with
  | some images => images.map Char.ofNat
  | none =>
      match runs.findSome? (fun run => run.image? c.toNat) with
      | some image => [Char.ofNat image]
      | none => [c]

/-- The lowercase form of one character on its own. -/
def lowerChar (c : Char) : List Char :=
  if c.toNat < 0x80 then [c.toLower] else mapCase CaseTable.lowerSpecial CaseTable.lowerRuns c

/-- The uppercase form of one character. -/
def upperChar (c : Char) : List Char :=
  if c.toNat < 0x80 then [c.toUpper] else mapCase CaseTable.upperSpecial CaseTable.upperRuns c

/-- Lies in one of the ranges. -/
def inRanges (ranges : Array (Nat × Nat)) (c : Char) : Bool :=
  ranges.any fun (first, last) => first ≤ c.toNat && c.toNat ≤ last

/-- After characters that are ignored comes a letter with a case. -/
def reachesCased (cs : List Char) : Bool :=
  match cs.dropWhile (inRanges CaseTable.ignorableRanges) with
  | c :: _ => inRanges CaseTable.casedRanges c
  | [] => false

/-- Lowercases a text, `before` being the part already passed, the last character first. -/
def lowercaseFrom (before : List Char) : List Char → List Char
  | [] => []
  | c :: cs =>
      let image :=
        if c = 'Σ' then [if reachesCased before && !reachesCased cs then 'ς' else 'σ']
        else lowerChar c
      image ++ lowercaseFrom (c :: before) cs

def lowercase (s : String) : String :=
  String.ofList (lowercaseFrom [] s.toList)

def lowercaseFirst (s : String) : String :=
  match s.toList with
  | [] => ""
  | c :: cs => String.ofList (lowerChar c ++ cs)

def uppercaseFirst (s : String) : String :=
  match s.toList with
  | [] => ""
  | c :: cs => String.ofList (upperChar c ++ cs)

end Text

end PageMap
