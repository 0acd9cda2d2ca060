import PageMap.Single
/-! # Alignment and wrapping
-/

namespace PageMap

/-- Where content lies along the horizontal axis of its container. -/
inductive HorizontalAlignment where
  | leading
  | center
  | trailing
  | fill
  deriving DecidableEq

/-- Where content lies along the vertical axis of its container. -/
inductive VerticalAlignment where
  | top
  | center
  | bottom
  | fill
  deriving DecidableEq

/-- How text that is too wide is broken into lines. -/
inductive Wrapping where
  /-- Breaks between words, and inside words that are too wide on their own. -/
  | wrap
  /-- Never breaks. -/
  | noWrap
  /-- Breaks between words only. -/
  | wrapWithOverflow
  deriving DecidableEq

namespace HorizontalAlignment

def all : List HorizontalAlignment := [.leading, .center, .trailing, .fill]

def name : HorizontalAlignment → String
  | .leading => "Leading"
  | .center => "Center"
  | .trailing => "Trailing"
  | .fill => "Fill"

def ofName? (name : String) : Option HorizontalAlignment :=
  all.find? fun a => a.name = name

def offset (available used : Single) : HorizontalAlignment → Single
  | .leading => 0.0
  | .center => (available - used) / 2.0
  | .trailing => available - used
  | .fill => 0.0

end HorizontalAlignment

namespace VerticalAlignment

def all : List VerticalAlignment := [.top, .center, .bottom, .fill]

def name : VerticalAlignment → String
  | .top => "Top"
  | .center => "Center"
  | .bottom => "Bottom"
  | .fill => "Fill"

def ofName? (name : String) : Option VerticalAlignment :=
  all.find? fun a => a.name = name

def offset (available used : Single) : VerticalAlignment → Single
  | .top => 0.0
  | .center => (available - used) / 2.0
  | .bottom => available - used
  | .fill => 0.0

end VerticalAlignment

namespace Wrapping

def all : List Wrapping := [.wrap, .noWrap, .wrapWithOverflow]

def name : Wrapping → String
  | .wrap => "Wrap"
  | .noWrap => "NoWrap"
  | .wrapWithOverflow => "WrapWithOverflow"

def ofName? (name : String) : Option Wrapping :=
  all.find? fun w => w.name = name

/-- Breaks lines at all. -/
def wraps : Wrapping → Bool
  | .noWrap => false
  | _ => true

end Wrapping

end PageMap
