/-! # Errors in format patterns
-/

namespace PageMap

/-- Why a pattern is refused. Positions are byte offsets into the pattern. -/
inductive FormatError where
  | emptyPattern
  | unterminatedQuote (pattern : String) (position : Nat)
  | trailingEscape (pattern : String) (position : Nat)
  | tooManySections (pattern : String) (position : Nat)
  | missingDigitPlaceholder (pattern : String) (index : Nat)
  | unmatchedGroupSeparator (pattern : String) (position : Nat)
  | invalidDatePattern (pattern : String)
  deriving DecidableEq

def FormatError.message : FormatError → String
  | .emptyPattern => "Number pattern is empty"
  | .unterminatedQuote pattern position =>
      "Unterminated quoted literal starting at " ++ toString position ++ " in '" ++ pattern ++ "'"
  | .trailingEscape pattern position =>
      "Escape character at " ++ toString position ++ " has nothing to escape in '" ++ pattern ++ "'"
  | .tooManySections pattern position =>
      "Too many sections in '" ++ pattern ++ "': a fourth section starts at " ++ toString position
  | .missingDigitPlaceholder pattern index =>
      "Section " ++ toString index ++ " of '" ++ pattern ++ "' has no digit placeholder"
  | .unmatchedGroupSeparator pattern position =>
      "Group separator at " ++ toString position ++ " in '" ++ pattern ++
        "' has no integer placeholder before it"
  | .invalidDatePattern pattern => "Invalid date pattern '" ++ pattern ++ "'"

end PageMap
