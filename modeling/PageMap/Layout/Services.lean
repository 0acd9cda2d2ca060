import PageMap.Color.Palette
import PageMap.ImageStore
import PageMap.Json.Path
import PageMap.Style.Family
import PageMap.Style.Key
import PageMap.Text.Content
import PageMap.Typesetting.Composer
/-! # Services

What layout asks others for. Every service is a function, so equal questions have equal answers.
-/

namespace PageMap

structure Services where
  compose : Composer
  /-- The size of the image of a key, for the data that is being laid out. -/
  image : String → Json → Except MissingImage Size
  /-- The color of a token of a style key. -/
  color : StyleKey → String → Option Color
  /-- The font family of a token of a style key. -/
  family : StyleKey → String → Option String
  /-- The scalar that a key path names in the data. -/
  field : String → Json → Option Json.Scalar
  /-- The text may be placed on a page. -/
  valid : String → Bool

namespace Services

/-- Images that are looked up in a store. -/
def storedImage (store : ImageStore) (key : String) (_ : Json) : Except MissingImage Size :=
  (store.get key).map StoredImage.size

/-- Glyphs of one width, no images, built-in colors, no aliases, and every text may be placed. -/
def default : Services where
  compose := .uniform Composer.defaultFactor
  image := storedImage .empty
  color := fun _ token => Palette.empty.resolve? token
  family := fun _ token => FamilyAliases.empty.resolve? token
  field := Json.resolve?
  valid := fun _ => true

end Services

end PageMap
