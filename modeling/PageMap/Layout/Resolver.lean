import PageMap.Layout.Cascade
import PageMap.Layout.Services
import PageMap.Markup.Node
import PageMap.Style.Attribute
/-! # Resolving style values

The value of a style key at an element is the one that the element itself gives, else the one in
effect around it, else a constant of that name, else the default of the key.

A text that cannot be read counts as if it were not there. If reading it crashes there is no value
at all; `crashes`, `declaredCrashes` and `textStyleCrashes` tell when that happens, and what the
other functions give there is of no account.
-/

namespace PageMap

/-- Everything that can supply a style value. -/
structure Resolver where
  cascade : Cascade
  constants : Dictionary String
  scales : Scales
  services : Services

namespace Resolver

/-- Reads the raw text of a key. Colors and font families are looked up by the services. -/
def read (r : Resolver) (key : StyleKey) (raw : String) : Except StyleError StyleValue :=
  match key.read r.scales (r.services.color key) raw with
  | .ok (.fontFamily name) =>
      match r.services.family key name with
      | some family => .ok (.fontFamily family)
      | none => .error (.invalid ⟨key.name, name⟩)
  | result => result

def readCrashes (r : Resolver) (key : StyleKey) (raw : String) : Bool :=
  match r.read key raw with
  | .error .crash => true
  | _ => false

/-- The value that a key has around an element. A constant that cannot be read does not count. -/
def inherited? (r : Resolver) (key : StyleKey) : Option StyleValue :=
  match r.cascade.top? key with
  | some value => some value
  | none =>
      let constant := (r.constants.get? key.name).bind fun raw => (r.read key raw).toOption
      constant.or key.default?

/-- The value of a key at an element. If the element gives one that cannot be read, the default
    counts and not what is around the element. -/
def resolve? (r : Resolver) (key : StyleKey) (node : Node) : Option StyleValue :=
  match node.attr? key.name with
  | some raw => (r.read key raw).toOption.or key.default?
  | none => r.inherited? key

/-- The text that the value of a key at an element is read from, if it is read there: that of the
    element, or that of a constant where nothing is in effect around it. -/
def source? (r : Resolver) (key : StyleKey) (node : Node) : Option String :=
  match node.attr? key.name with
  | some raw => some raw
  | none => if (r.cascade.top? key).isSome then none else r.constants.get? key.name

/-- Resolving a key at an element crashes. -/
def crashes (r : Resolver) (key : StyleKey) (node : Node) : Bool :=
  (r.source? key node).any (r.readCrashes key)

/-- The style keys that an element gives with their values, in the order of its attributes. Those
    that cannot be read are left out. -/
def declared (r : Resolver) (node : Node) : List (StyleKey × StyleValue) :=
  node.attributes.entries.filterMap fun (name, raw) => do
    let key ← StyleKey.ofName? name
    let value ← (r.read key raw).toOption
    return (key, value)

/-- Reading the style keys that an element gives crashes. -/
def declaredCrashes (r : Resolver) (node : Node) : Bool :=
  node.attributes.entries.any fun (name, raw) =>
    (StyleKey.ofName? name).any fun key => r.readCrashes key raw

/-- A length at an element; one that is unset is zero. -/
def length (r : Resolver) (key : StyleKey) (node : Node) : Single :=
  ((r.resolve? key node).bind StyleValue.length?).getD 0.0

def color? (r : Resolver) (key : StyleKey) (node : Node) : Option Color :=
  (r.resolve? key node).bind StyleValue.color?

/-- The key path that an element is bound to. -/
def keyPath? (r : Resolver) (node : Node) : Option String :=
  (r.resolve? .property node).bind StyleValue.text?

/-- A geometry attribute of an element in points, if there is one that can be read. -/
def geometry? (r : Resolver) (node : Node) (name : String) : Option Single :=
  (node.attr? name).bind fun raw => (Attribute.length r.scales .geometry raw).toOption

def flag (node : Node) (name : String) (default : Bool) : Bool :=
  match node.attr? name with
  | some raw => (Attribute.bool raw).toOption.getD default
  | none => default

def horizontal (r : Resolver) (node : Node) : HorizontalAlignment :=
  ((r.resolve? .textAlignment node).bind StyleValue.horizontalAlignment?).getD .leading

def vertical (r : Resolver) (node : Node) : VerticalAlignment :=
  ((r.resolve? .textVerticalAlignment node).bind StyleValue.verticalAlignment?).getD .top

def textStyle (r : Resolver) (node : Node) : TextStyle :=
  let value {α : Type} (key : StyleKey) (as? : StyleValue → Option α) (default : α) : α :=
    ((r.resolve? key node).bind as?).getD default
  { family := value .fontFamily StyleValue.text? TextStyle.default.family
    size := value .fontSize StyleValue.length? TextStyle.default.size
    weight := value .fontWeight StyleValue.fontWeight? .normal
    style := value .fontStyle StyleValue.fontStyle? .normal
    stretch := value .fontStretch StyleValue.fontStretch? .normal
    lineHeight := (r.resolve? .lineHeight node).bind StyleValue.length?
    foreground := value .foreground StyleValue.color? TextStyle.default.foreground
    alignment := r.horizontal node
    verticalAlignment := r.vertical node
    wrapping := value .textWrapping StyleValue.wrapping? .wrap }

/-- Resolving the keys of the text style of an element crashes. -/
def textStyleCrashes (r : Resolver) (node : Node) : Bool :=
  [StyleKey.fontFamily, .fontSize, .fontWeight, .fontStyle, .fontStretch, .lineHeight, .foreground,
    .textAlignment, .textVerticalAlignment, .textWrapping].any fun key => r.crashes key node

end Resolver

end PageMap
