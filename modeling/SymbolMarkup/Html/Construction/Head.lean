import SymbolMarkup.Html.Construction.Formatting
import SymbolMarkup.Html.OldLayout

/-! The rules from the start of a document to the end of its head, and those for templates that hold
everywhere. -/
namespace SymbolMarkup.Html

/-- Text of blanks alone. The rules that ask get text that is either all blank or not at all. -/
def isSpaceText (cs : List Char) : Bool := cs.all isSpace

namespace State

def createRoot (s : State) (attributes : TagAttributes) : State :=
  let (s, id) := s.createElement (.html "html") attributes
  { s with draft := s.draft.append Draft.documentId id, stack := ⟨id, .html "html"⟩ :: s.stack }

def mergeIntoRoot (s : State) (tag : Tag) : State :=
  if s.hasOpen "template" then s
  else s.rootElement?.elim s fun root =>
    { s with draft := s.draft.mergeAttributes root.id tag.attributes }

def insertHead (s : State) (tag : Tag) : State :=
  let (s, e) := s.insertOpen (.html "head") tag.attributes
  { s with head := some e }

/-- A template that gives its content to the element around it leaves no element of its own. The
root takes no such content. -/
def givesContent (s : State) (tag : Tag) : Bool :=
  s.stack.length > 1 &&
  (tag.attributes.value? "shadowrootmode").any fun mode => ["open", "close"].contains mode

def openTemplate (s : State) (tag : Tag) : State :=
  let s := if s.givesContent tag then s else s.insert tag
  let s := s.pushMarker.forbidFrames.setMode .inTemplate
  { s with templateModes := .inTemplate :: s.templateModes }

def leaveTemplate (s : State) : State :=
  let s := (s.popThrough ["template"]).clearToMarker
  let s := { s with templateModes := s.templateModes.tail }
  s.setMode s.fittingMode

def closeTemplate (s : State) : State :=
  if s.hasOpen "template" then (s.popImplied impliedTemplateEnds).leaveTemplate else s

end State

open State

def headTags : List String :=
  ["base", "basefont", "bgsound", "link", "meta", "noframes", "script", "style", "template",
    "title"]

def tellingEndTags : List String := ["head", "body", "html", "br"]

def initial : Rule := fun s token =>
  match token with
  | .text cs =>
    if isSpaceText cs then .done s else .again { s with oldLayout := true } .beforeHtml token
  | .comment content => .done (s.appendCommentTo Draft.documentId content)
  | _ => .again { s with oldLayout := true } .beforeHtml token

def beforeHtml : Rule := fun s token =>
  let otherwise := Outcome.again (s.createRoot .empty) .beforeHead token
  match token with
  | .text cs => if isSpaceText cs then .done s else otherwise
  | .comment content => .done (s.appendCommentTo Draft.documentId content)
  | .startTag tag =>
    if tag.name = "html" then .done ((s.createRoot tag.attributes).setMode .beforeHead)
    else otherwise
  | .endTag name => if tellingEndTags.contains name then otherwise else .done s
  | _ => otherwise

def beforeHead : Rule := fun s token =>
  let otherwise := Outcome.again (s.insertHead ⟨"head", .empty, false⟩) .inHead token
  match token with
  | .text cs => if isSpaceText cs then .done s else otherwise
  | .comment content => .done (s.appendComment content)
  | .startTag tag =>
    if tag.name = "html" then .done (s.mergeIntoRoot tag)
    else if tag.name = "head" then .done ((s.insertHead tag).setMode .inHead)
    else otherwise
  | .endTag name => if tellingEndTags.contains name then otherwise else .done s
  | _ => otherwise

def inHead : Rule := fun s token =>
  let otherwise := Outcome.again s.pop .afterHead token
  match token with
  | .text cs => if isSpaceText cs then .done (s.appendText cs) else otherwise
  | .comment content => .done (s.appendComment content)
  | .startTag tag =>
    if tag.name = "html" then .done (s.mergeIntoRoot tag)
    else if ["base", "basefont", "bgsound", "link", "meta"].contains tag.name then
      .done (s.insertVoid tag)
    else if tag.name = "title" then .done (s.insertRaw tag .referenceText)
    else if ["noframes", "style", "noscript"].contains tag.name then
      .done (s.insertRaw tag .rawText)
    else if tag.name = "script" then .done (s.insertRaw tag fun _ => .script)
    else if tag.name = "template" then .done (s.openTemplate tag)
    else if tag.name = "head" then .done s
    else otherwise
  | .endTag name =>
    if name = "head" then .done (s.pop.setMode .afterHead)
    else if name = "template" then .done s.closeTemplate
    else if tellingEndTags.contains name then otherwise
    else .done s
  | _ => otherwise

def afterHead : Rule := fun s token =>
  let otherwise := Outcome.again (s.insertNamed "body").1 .inBody token
  match token with
  | .text cs => if isSpaceText cs then .done (s.appendText cs) else otherwise
  | .comment content => .done (s.appendComment content)
  | .startTag tag =>
    if tag.name = "html" then .done (s.mergeIntoRoot tag)
    else if tag.name = "body" then .done ((s.insert tag).forbidFrames.setMode .inBody)
    else if tag.name = "frameset" then .done ((s.insert tag).setMode .inFrameset)
    else if headTags.contains tag.name then
      match s.head with
      | some head => (inHead (s.push head) token).map (·.removeFromStack head.id)
      | none => .done s
    else if tag.name = "head" then .done s
    else otherwise
  | .endTag name =>
    if name = "template" then inHead s token
    else if ["body", "html", "br"].contains name then otherwise
    else .done s
  | _ => otherwise

def templateAtEnd : Rule := fun s token =>
  if s.hasOpen "template" then
    let s := s.leaveTemplate
    .again s s.mode token
  else .done s

end SymbolMarkup.Html
