import PageMap.Geometry
import PageMap.Typesetting.TextStyle
import PageMap.Typesetting.Wrap
/-! # Composing text

A composer breaks a text into lines and measures them. The one given here has no fonts: it takes
every glyph to be a fixed part of the font size wide.
-/

namespace PageMap

/-- A text in lines, and the extent that it takes. -/
structure Composed where
  size : Size
  lines : List String
  lineHeight : Single

/-- Composes a text in a style, within a width if there is one. -/
abbrev Composer := String → TextStyle → Option Single → Composed

namespace Composer

/-- The width of a glyph, given as a part of the font size. Wide and bold faces take more. -/
def advance (factor : Single) (style : TextStyle) : Single :=
  style.size * factor * style.stretch.widthFactor * (if style.weight.isBold then 1.1 else 1.0)

/-- The lines of a paragraph. It is broken if a width is given, the style wraps and glyphs have a
    positive width. -/
def paragraphLines (advance : Single) (wrapping : Wrapping) (limit : Option Single)
    (paragraph : List Char) : List (List Char) :=
  match limit with
  | some limit =>
      if wrapping.wraps && 0.0 < advance then
        Measure.wrap ⟨advance, limit, wrapping = .wrap⟩ paragraph
      else [paragraph]
  | none => [paragraph]

/-- The lines of a text, whose paragraphs are set apart by line feeds. An empty text has none. -/
def textLines (advance : Single) (wrapping : Wrapping) (limit : Option Single)
    (text : List Char) : List (List Char) :=
  if text.isEmpty then []
  else (text.splitOn '\n').flatMap (paragraphLines advance wrapping limit)

def widest (advance : Single) (lines : List (List Char)) : Single :=
  (lines.map (runWidth advance)).foldl Single.larger 0.0

/-- The composer that takes glyphs to be a fixed part of the font size wide. -/
def uniform (factor : Single) : Composer := fun text style limit =>
  let advance := advance factor style
  let lines := textLines advance style.wrapping limit text.toList
  let lineHeight := style.effectiveLineHeight
  { size := ⟨widest advance lines, Single.ofNat lines.length * lineHeight⟩
    lines := lines.map String.ofList
    lineHeight }

/-- The part of the font size that glyphs take where nothing else is known. -/
def defaultFactor : Single := 0.5

/-- A composer that gives every text but the empty one the same size, on one line. -/
def fixed (size : Size) : Composer := fun text style _ =>
  { size := if text.isEmpty then .zero else size
    lines := if text.isEmpty then [] else [text]
    lineHeight := style.effectiveLineHeight }

end Composer

end PageMap
