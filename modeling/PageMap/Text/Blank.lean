/-! # Blank characters

The characters with the Unicode property `White_Space`, and what trimming and splitting do with
them.
-/

namespace PageMap.Text

/-- Has the Unicode property `White_Space`. -/
def isBlank (c : Char) : Bool :=
  let n := c.toNat
  (0x9 ≤ n && n ≤ 0xd) || n = 0x20 || n = 0x85 || n = 0xa0 || n = 0x1680 ||
    (0x2000 ≤ n && n ≤ 0x200a) || n = 0x2028 || n = 0x2029 || n = 0x202f || n = 0x205f || n = 0x3000

/-- Has the Unicode category of control characters. -/
def isControl (c : Char) : Bool :=
  c.toNat < 0x20 || (0x7f ≤ c.toNat && c.toNat < 0xa0)

/-- Removes the characters of a class from both ends. -/
def trimBy (drop : Char → Bool) (cs : List Char) : List Char :=
  ((cs.dropWhile drop).reverse.dropWhile drop).reverse

def trim (s : String) : String :=
  String.ofList (trimBy isBlank s.toList)

/-- Nothing but blanks, if anything. -/
def allBlank (s : String) : Bool :=
  s.toList.all isBlank

/-- The maximal runs of other characters between the characters of a class. The characters of the
    run that is being read are kept in `run`, the last one first. -/
def runsFrom (isGap : Char → Bool) (run : List Char) : List Char → List (List Char)
  | [] => if run.isEmpty then [] else [run.reverse]
  | c :: cs =>
      if isGap c then
        if run.isEmpty then runsFrom isGap [] cs else run.reverse :: runsFrom isGap [] cs
      else runsFrom isGap (c :: run) cs

/-- The words of a text: its maximal runs without blanks. -/
def words (cs : List Char) : List (List Char) :=
  runsFrom isBlank [] cs

example : words " a  bc\u2003d".toList = [['a'], ['b', 'c'], ['d']] := by decide
example : trim "\u00a0 x y \n" = "x y" := by decide

end PageMap.Text
