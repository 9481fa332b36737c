import SymbolMarkup.Html.Construction.Table

/-! The rules inside select elements, which keep little more than options and text, and inside
templates, whose content decides what they are part of. -/
namespace SymbolMarkup.Html

open State

def popIfCurrent (name : String) (s : State) : State := if s.currentIs name then s.pop else s

def leaveSelect (s : State) (next : State → Outcome) : Outcome :=
  if s.inScope boundsSelectScope "select" then next (s.popThrough ["select"]) else .done s

def inSelect : Rule := fun s token =>
  let close := leaveSelect s fun s => .done (s.setMode s.fittingMode)
  let outsideOptions := popIfCurrent "optgroup" (popIfCurrent "option" s)
  match token with
  | .text cs => .done (s.appendText cs)
  | .comment content => .done (s.appendComment content)
  | .startTag tag =>
    if tag.name = "html" then .done (s.mergeIntoRoot tag)
    else if tag.name = "option" then .done ((popIfCurrent "option" s).insert tag)
    else if tag.name = "optgroup" then .done (outsideOptions.insert tag)
    else if tag.name = "hr" then .done (outsideOptions.insertVoid tag)
    else if tag.name = "select" then close
    else if ["input", "keygen", "textarea"].contains tag.name then
      leaveSelect s fun s => .again s s.fittingMode token
    else if ["script", "template"].contains tag.name then inHead s token
    else .done s
  | .endTag name =>
    if name = "optgroup" then
      let around := (s.stack[1]?).any (·.name.isHtml "optgroup")
      .done (popIfCurrent "optgroup" (if around then popIfCurrent "option" s else s))
    else if name = "option" then .done (popIfCurrent "option" s)
    else if name = "select" then close
    else if name = "template" then inHead s token
    else .done s
  | .endOfInput => inBody s token
  | .null | .flaw | .doctype _ => .done s

def tableTags : List String := ["caption", "table", "tbody", "tfoot", "thead", "tr", "td", "th"]

def inSelectInTable : Rule := fun s token =>
  let leave :=
    let s := s.popThrough ["select"]
    Outcome.again s s.fittingMode token
  match token with
  | .startTag tag => if tableTags.contains tag.name then leave else inSelect s token
  | .endTag name =>
    if tableTags.contains name then
      if s.inScope boundsTableScope name then leave else .done s
    else inSelect s token
  | _ => inSelect s token

/-- The first tag that tells what a template is part of decides on its mode. -/
def inTemplate : Rule := fun s token =>
  let become (mode : Mode) :=
    Outcome.again { s with templateModes := mode :: s.templateModes.tail } mode token
  match token with
  | .text _ | .comment _ => inBody s token
  | .startTag tag =>
    if headTags.contains tag.name then inHead s token
    else if ["caption", "colgroup", "tbody", "tfoot", "thead"].contains tag.name then
      become .inTable
    else if tag.name = "col" then become .inColumnGroup
    else if tag.name = "tr" then become .inTableBody
    else if ["td", "th"].contains tag.name then become .inRow
    else become .inBody
  | .endTag name => if name = "template" then inHead s token else .done s
  | .endOfInput => templateAtEnd s token
  | .null | .flaw | .doctype _ => .done s

end SymbolMarkup.Html
