import PageMap.Dictionary
import PageMap.Geometry
/-! # Images

Layout never looks into an image. All it needs is the size that the image has on its own.
-/

namespace PageMap

/-- An image with its bytes and its size in points. -/
structure StoredImage where
  key : String
  bytes : List UInt8
  size : Size

/-- No image is stored under a key. -/
structure MissingImage where
  key : String
  deriving DecidableEq

def MissingImage.message (e : MissingImage) : String :=
  "Resource not found: " ++ e.key

/-- Images by their keys. -/
structure ImageStore where
  images : Dictionary StoredImage

namespace ImageStore

def empty : ImageStore := ⟨.empty⟩

/-- The name under which the store reports itself. -/
def name : String := "InMemoryImageProvider"

/-- Stores an image, in place of an earlier one of the same key. -/
def add (s : ImageStore) (key : String) (bytes : List UInt8) (size : Size) : ImageStore :=
  ⟨s.images.insert key ⟨key, bytes, size⟩⟩

def remove (s : ImageStore) (key : String) : ImageStore :=
  ⟨s.images.erase key⟩

def get (s : ImageStore) (key : String) : Except MissingImage StoredImage :=
  match s.images.get? key with
  | some image => .ok image
  | none => .error ⟨key⟩

end ImageStore

end PageMap
