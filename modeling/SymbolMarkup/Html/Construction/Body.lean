import SymbolMarkup.Html.Construction.Head

/-! The rules for the content of the body, which many other rules fall back on. -/
namespace SymbolMarkup.Html

open State

def blockTags : List String :=
  ["address", "article", "aside", "blockquote", "center", "details", "dialog", "dir", "div", "dl",
    "fieldset", "figcaption", "figure", "footer", "header", "hgroup", "main", "menu", "nav", "ol",
    "p", "search", "section", "summary", "ul"]

def blockEnds : List String :=
  ["address", "article", "aside", "blockquote", "button", "center", "details", "dialog", "dir",
    "div", "dl", "fieldset", "figcaption", "figure", "footer", "header", "hgroup", "listing",
    "main", "menu", "nav", "ol", "pre", "search", "section", "summary", "ul"]

def formattingTags : List String :=
  ["b", "big", "code", "em", "font", "i", "s", "small", "strike", "strong", "tt", "u"]

def tableOnlyTags : List String :=
  ["caption", "col", "colgroup", "frame", "head", "tbody", "td", "tfoot", "th", "thead", "tr"]

namespace Tag

def isHiddenInput (tag : Tag) : Bool :=
  (tag.attributes.value? "type").any fun v =>
    v.toList.map Text.asciiLower == "hidden".toList

end Tag

namespace State

def insertForeign (s : State) (space : Namespace) (tag : Tag) : State :=
  let name : ElementName := ⟨space, space.tagName tag.name⟩
  if tag.selfClosing then (s.insertClosed name tag.attributes).1
  else (s.insertOpen name tag.attributes).1

def insertBlock (s : State) (tag : Tag) : State := s.closeParagraphInScope.insert tag

def closeInScope (s : State) (name : String) : State :=
  if s.inScope boundsScope name then (s.popImplied impliedEnds).popThrough [name] else s

def mergeIntoBody (s : State) (tag : Tag) : State :=
  match s.bodyElement? with
  | some body =>
    if s.hasOpen "template" then s
    else { s with framesAllowed := false, draft := s.draft.mergeAttributes body.id tag.attributes }
  | none => s

/-- A frameset takes the place of a body that has nothing in it yet. -/
def replaceBody (s : State) (tag : Tag) : State :=
  match s.framesAllowed, s.bodyElement? with
  | true, some body =>
    let s := { s with draft := s.draft.detach body.id, stack := s.rootElement?.toList }
    (s.insert tag).setMode .inFrameset
  | _, _ => s

/-- The open element that a further list item ends: one of `names`, unless something special but
for a plain block stands in between. -/
def itemToClose (names : List String) : List OpenElement → Option String
  | [] => none
  | e :: rest =>
    if e.name.isHtmlIn names then some e.name.name
    else if isSpecial e.name && !e.name.isHtmlIn ["address", "div", "p"] then none
    else itemToClose names rest

def insertItem (s : State) (names : List String) (tag : Tag) : State :=
  let s := s.forbidFrames
  let s := (itemToClose names s.stack).elim s fun name =>
    (s.popImpliedExcept name).popThrough [name]
  s.insertBlock tag

def insertHeading (s : State) (tag : Tag) : State :=
  let s := s.closeParagraphInScope
  (if s.currentIn headings then s.pop else s).insert tag

def insertForm (s : State) (tag : Tag) : State :=
  let inTemplate := s.hasOpen "template"
  if s.form.isSome && !inTemplate then s
  else
    let (s, e) := s.closeParagraphInScope.insertOpen (.html tag.name) tag.attributes
    if inTemplate then s else { s with form := some e.id }

def closeForm (s : State) : State :=
  if s.hasOpen "template" then s.closeInScope "form"
  else
    match s.form with
    | none => s
    | some id =>
      let s := { s with form := none }
      if inScopeBy (·.id == id) boundsScope s.stack then
        (s.popImplied impliedEnds).removeFromStack id
      else s

def insertButton (s : State) (tag : Tag) : State :=
  (s.closeInScope "button").reconstruct.insert tag |>.forbidFrames

def closeItem (s : State) (name : String) : State :=
  let bounds := if name = "li" then boundsListItemScope else boundsScope
  if s.inScope bounds name then (s.popImpliedExcept name).popThrough [name] else s

def closeHeading (s : State) : State :=
  if s.inScopeAny boundsScope headings then (s.popImplied impliedEnds).popThrough headings else s

def insertLink (s : State) (tag : Tag) : State :=
  s.closeOpenLink.reconstruct.insertFormatting tag

def insertUnbroken (s : State) (tag : Tag) : State :=
  let s := s.reconstruct
  let s := if s.inScope boundsScope "nobr" then (s.closeFormatting "nobr").reconstruct else s
  s.insertFormatting tag

def insertTable (s : State) (tag : Tag) : State :=
  let s := if s.oldLayout then s else s.closeParagraphInScope
  (s.insert tag).forbidFrames.setMode .inTable

def insertSelect (s : State) (tag : Tag) : State :=
  let inTable := [Mode.inTable, .inCaption, .inTableBody, .inRow, .inCell].contains s.mode
  (s.reconstruct.insert tag).forbidFrames.setMode (if inTable then .inSelectInTable else .inSelect)

def insertOption (s : State) (tag : Tag) : State :=
  (if s.currentIs "option" then s.pop else s).reconstruct.insert tag

def insertRuby (s : State) (except : String) (tag : Tag) : State :=
  (if s.inScope boundsScope "ruby" then s.popImpliedExcept except else s).insert tag

def insertInlineVoid (s : State) (tag : Tag) : State :=
  let shown := s.reconstruct.insertVoid tag
  if tag.name = "input" && tag.isHiddenInput then shown else shown.forbidFrames

end State

def bodyStartTag (s : State) (tag : Tag) : Outcome :=
  let name := tag.name
  if name = "html" then .done (s.mergeIntoRoot tag)
  else if headTags.contains name then inHead s (.startTag tag)
  else if name = "body" then .done (s.mergeIntoBody tag)
  else if name = "frameset" then .done (s.replaceBody tag)
  else if blockTags.contains name then .done (s.insertBlock tag)
  else if headings.contains name then .done (s.insertHeading tag)
  else if ["pre", "listing"].contains name then
    .done { s.insertBlock tag with skipNewline := true, framesAllowed := false }
  else if name = "form" then .done (s.insertForm tag)
  else if name = "li" then .done (s.insertItem ["li"] tag)
  else if ["dd", "dt"].contains name then .done (s.insertItem ["dd", "dt"] tag)
  else if name = "plaintext" then .done { s.insertBlock tag with reading := .plainText }
  else if name = "button" then .done (s.insertButton tag)
  else if name = "a" then .done (s.insertLink tag)
  else if formattingTags.contains name then .done (s.reconstruct.insertFormatting tag)
  else if name = "nobr" then .done (s.insertUnbroken tag)
  else if ["applet", "marquee", "object"].contains name then
    .done (s.reconstruct.insert tag).pushMarker.forbidFrames
  else if name = "table" then .done (s.insertTable tag)
  else if ["area", "br", "embed", "img", "keygen", "wbr", "input"].contains name then
    .done (s.insertInlineVoid tag)
  else if ["param", "source", "track"].contains name then .done (s.insertVoid tag)
  else if name = "hr" then .done (s.closeParagraphInScope.insertVoid tag).forbidFrames
  else if name = "image" then .done (s.insertInlineVoid { tag with name := "img" })
  else if name = "textarea" then
    .done ({ s with skipNewline := true }.forbidFrames.insertRaw tag .referenceText)
  else if name = "xmp" then
    .done (s.closeParagraphInScope.reconstruct.forbidFrames.insertRaw tag .rawText)
  else if name = "iframe" then .done (s.forbidFrames.insertRaw tag .rawText)
  else if ["noembed", "noscript"].contains name then .done (s.insertRaw tag .rawText)
  else if name = "select" then .done (s.insertSelect tag)
  else if ["optgroup", "option"].contains name then .done (s.insertOption tag)
  else if ["rb", "rtc"].contains name then .done (s.insertRuby "" tag)
  else if ["rp", "rt"].contains name then .done (s.insertRuby "rtc" tag)
  else if name = "math" then .done (s.insertForeign .mathml tag)
  else if name = "svg" then .done (s.insertForeign .svg tag)
  else if tableOnlyTags.contains name then .done s
  else .done (s.reconstruct.insert tag)

def bodyEndTag (s : State) (name : String) : Outcome :=
  if name = "template" then inHead s (.endTag name)
  else if name = "body" then
    .done (if s.inScope boundsScope "body" then s.setMode .afterBody else s)
  else if name = "html" then
    if s.inScope boundsScope "body" then .again s .afterBody (.endTag name) else .done s
  else if blockEnds.contains name then .done (s.closeInScope name)
  else if name = "form" then .done s.closeForm
  else if name = "p" then
    .done (if s.inScope boundsButtonScope "p" then s else (s.insertNamed "p").1).closeParagraph
  else if ["li", "dd", "dt"].contains name then .done (s.closeItem name)
  else if headings.contains name then .done s.closeHeading
  else if ("a" :: "nobr" :: formattingTags).contains name then .done (s.closeFormatting name)
  else if ["applet", "marquee", "object"].contains name then
    .done (if s.inScope boundsScope name then (s.closeInScope name).clearToMarker else s)
  else if name = "br" then .done (s.insertInlineVoid ⟨"br", .empty, false⟩)
  else .done (s.closeGeneric name)

def inBody : Rule := fun s token =>
  match token with
  | .text cs =>
    let shown := s.reconstruct.appendText cs
    .done (if isSpaceText cs then shown else shown.forbidFrames)
  | .comment content => .done (s.appendComment content)
  | .startTag tag => bodyStartTag s tag
  | .endTag name => bodyEndTag s name
  | .endOfInput => if s.templateModes.isEmpty then .done s else templateAtEnd s token
  | .null | .flaw | .doctype _ => .done s

end SymbolMarkup.Html
