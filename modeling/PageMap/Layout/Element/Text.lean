import PageMap.Layout.Renderer
/-! # Text elements

A text element shows bound data, a constant or its own text.
-/

namespace PageMap

/-- Where a text element takes its content from. -/
inductive TextSource where
  /-- From its own binding, else a constant, else its own text, else the binding around it. -/
  | own
  /-- Always from a binding. -/
  | binding
  deriving DecidableEq

namespace TextElement

/-- The format of bound numbers: the pattern of the element, or the configured one. -/
def numberFormat (node : Node) (site : Site) : NumberFormat :=
  let formats := site.config.formats
  ((node.attr? "Format").bind fun pattern =>
    (formats.numberPattern pattern).toOption).getD formats.decimal

/-- The format of bound dates, if the element asks for one. A blank pattern asks for the configured
    format. -/
def dateFormat? (node : Node) (site : Site) : Option DateFormat :=
  (node.attr? "DateFormat").bind fun pattern =>
    if Text.allBlank pattern then some site.config.formats.date
    else (DateFormat.ofPattern pattern).toOption

/-- Shows a bound text, which may be a date or a number. -/
def showText (node : Node) (site : Site) (text : String) : String :=
  match (dateFormat? node site).bind fun format => format.formatText? text with
  | some date => date
  | none =>
      let number := if node.hasAttr "Format" then Double.ofText? (Text.trim text) else none
      match number with
      | some x => (numberFormat node site).format x
      | none => text

def showBound (node : Node) (data : Json) (site : Site) (path : String) : String :=
  match site.services.field path data with
  | some (.number x) => (numberFormat node site).format x
  | some (.text text) => showText node site text
  | some (.flag value) => (Json.Scalar.flag value).display
  | none => ""

/-- The key path that the element itself gives. -/
def explicitPath? (source : TextSource) (node : Node) : Option String :=
  match source with
  | .own => node.attr? "Property"
  | .binding => node.attrAny? ["Property", "Path"]

/-- A constant that the element names, or its own text unless that is blank. -/
def ownText? (node : Node) (site : Site) : Option String :=
  match node.attr? "Constant" with
  | some name => some ((site.styles.constants.get? (Text.trim name)).getD "")
  | none => if Text.allBlank node.text then none else some node.text

/-- The content of an element before it is cleaned. -/
def content (source : TextSource) (node : Node) (data : Json) (site : Site) : String :=
  match explicitPath? source node with
  | some path => showBound node data site (Text.trim path)
  | none =>
      match if source = .own then ownText? node site else none with
      | some text => text
      | none =>
          match site.styles.keyPath? node with
          | some path => showBound node data site path
          | none => ""

def cleanedContent (source : TextSource) (node : Node) (data : Json) (site : Site) : String :=
  Text.cleanContent (content source node data site) (Resolver.flag node "Trim" true)

/-- The text of an element in its frame. Without a height the frame reaches down to the end of the
    page. -/
def frameItem (node : Node) (site : Site) (content : String) : Item :=
  let origin := site.place node
  let width := (site.styles.geometry? node "Width").getD (site.availableWidth origin.x)
  let height := (site.styles.geometry? node "Height").getD (site.remainingHeight origin.y)
  .text content (site.styles.textStyle node)
    (site.frame node ⟨origin.x, origin.y, width, height⟩)

/-- A text element amounts to its text, unless the text must not be placed. In a flow container a
    text without a height takes the height that it needs. -/
def outcome (source : TextSource) (node : Node) (data : Json) (site : Site) : Outcome :=
  let content := cleanedContent source node data site
  if !site.services.valid content then .nothing
  else
    let item := frameItem node site content
    match site.styles.geometry? node "Height", site.flow with
    | some height, _ => .ofItem item height
    | none, some _ =>
        let item := item.fitHeight site.services.compose
        .ofItem item item.frame.container.height
    | none, none => .ofItem item item.frame.container.height

/-- The style of a text is read only if the text is placed. -/
def crashes (source : TextSource) (node : Node) (data : Json) (site : Site) : Bool :=
  site.services.valid (cleanedContent source node data site) && site.styles.textStyleCrashes node

end TextElement

def Renderer.text (source : TextSource) : Renderer where
  render node data site := .ok (TextElement.outcome source node data site)
  crashes := TextElement.crashes source

end PageMap
