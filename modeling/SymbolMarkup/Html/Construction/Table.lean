import SymbolMarkup.Html.Construction.Body

/-! The rules inside tables. What a table cannot hold goes in front of it. -/
namespace SymbolMarkup.Html

open State

def foster : Rule := fun s token =>
  (inBody { s with fosterParenting := true } token).map fun s => { s with fosterParenting := false }

/-- Text directly inside a table waits until it is known whether all of it is blank. -/
def tableCharacters : Rule := fun s token =>
  if s.currentIn tableParts then .again { s with returnMode := s.mode } .inTableText token
  else foster s token

def tableBounds : List String := ["table", "template", "html"]

def tableBodyBounds : List String := ["tbody", "tfoot", "thead", "template", "html"]

def tableRowBounds : List String := ["tr", "template", "html"]

def tableStartTag (s : State) (tag : Tag) : Outcome :=
  let name := tag.name
  let token := Token.startTag tag
  let cleared := s.popDownTo tableBounds
  if name = "caption" then .done ((cleared.pushMarker.insert tag).setMode .inCaption)
  else if name = "colgroup" then .done ((cleared.insert tag).setMode .inColumnGroup)
  else if name = "col" then .again (cleared.insertNamed "colgroup").1 .inColumnGroup token
  else if ["tbody", "tfoot", "thead"].contains name then
    .done ((cleared.insert tag).setMode .inTableBody)
  else if ["td", "th", "tr"].contains name then
    .again (cleared.insertNamed "tbody").1 .inTableBody token
  else if name = "table" then
    if s.inScope boundsTableScope "table" then
      let s := s.popThrough ["table"]
      .again s s.fittingMode token
    else .done s
  else if ["style", "script", "template"].contains name then inHead s token
  else if name = "input" then
    if tag.isHiddenInput then .done (s.insertVoid tag) else foster s token
  else if name = "form" then
    if s.hasOpen "template" || s.form.isSome then .done s
    else
      let (s, e) := s.insertClosed (.html tag.name) tag.attributes
      .done { s with form := some e.id }
  else foster s token

def tableEndTag (s : State) (name : String) : Outcome :=
  if name = "table" then
    if s.inScope boundsTableScope "table" then
      let s := s.popThrough ["table"]
      .done (s.setMode s.fittingMode)
    else .done s
  else if ["body", "caption", "col", "colgroup", "html", "tbody", "td", "tfoot", "th", "thead",
      "tr"].contains name then .done s
  else if name = "template" then inHead s (.endTag name)
  else foster s (.endTag name)

def inTable : Rule := fun s token =>
  match token with
  | .text _ | .null => tableCharacters s token
  | .comment content => .done (s.appendComment content)
  | .startTag tag => tableStartTag s tag
  | .endTag name => tableEndTag s name
  | .endOfInput => inBody s token
  | .flaw | .doctype _ => .done s

def fosterText (s : State) (cs : List Char) : State :=
  match foster s (.text cs) with
  | .done s | .again s _ _ => s

def inTableText : Rule := fun s token =>
  match token with
  | .null => .done s
  | .text cs => .done { s with tableText := cs :: s.tableText }
  | _ =>
    let waiting := s.tableText.reverse
    let s := { s with tableText := [] }
    let placed :=
      if waiting.all isSpaceText then waiting.foldl appendText s else waiting.foldl fosterText s
    .again placed s.returnMode token

def leaveCaption (s : State) (next : State → Outcome) : Outcome :=
  if s.inScope boundsTableScope "caption" then
    next ((s.popImplied impliedEnds).popThrough ["caption"]).clearToMarker
  else .done s

def inCaption : Rule := fun s token =>
  match token with
  | .startTag tag =>
    if ["caption", "col", "colgroup", "tbody", "td", "tfoot", "th", "thead", "tr"].contains tag.name
    then leaveCaption s fun s => .again s .inTable token
    else inBody s token
  | .endTag name =>
    if name = "caption" then leaveCaption s fun s => .done (s.setMode .inTable)
    else if name = "table" then leaveCaption s fun s => .again s .inTable token
    else if ["body", "col", "colgroup", "html", "tbody", "td", "tfoot", "th", "thead",
        "tr"].contains name then .done s
    else inBody s token
  | _ => inBody s token

def inColumnGroup : Rule := fun s token =>
  let otherwise := if s.currentIs "colgroup" then Outcome.again s.pop .inTable token else .done s
  match token with
  | .text cs => if isSpaceText cs then .done (s.appendText cs) else otherwise
  | .comment content => .done (s.appendComment content)
  | .startTag tag =>
    if tag.name = "html" then .done (s.mergeIntoRoot tag)
    else if tag.name = "col" then .done (s.insertVoid tag)
    else if tag.name = "template" then inHead s token
    else otherwise
  | .endTag name =>
    if name = "colgroup" then
      .done (if s.currentIs "colgroup" then s.pop.setMode .inTable else s)
    else if name = "col" then .done s
    else if name = "template" then inHead s token
    else otherwise
  | .endOfInput => inBody s token
  | .null | .flaw | .doctype _ => otherwise

def inTableBody : Rule := fun s token =>
  let cleared := s.popDownTo tableBodyBounds
  let leave :=
    if s.inScopeAny boundsTableScope ["table", "tbody", "tfoot"] then
      Outcome.again cleared.pop .inTable token
    else .done s
  match token with
  | .startTag tag =>
    if tag.name = "tr" then .done ((cleared.insert tag).setMode .inRow)
    else if ["th", "td"].contains tag.name then .again (cleared.insertNamed "tr").1 .inRow token
    else if ["caption", "col", "colgroup", "tbody", "tfoot", "thead"].contains tag.name then leave
    else inTable s token
  | .endTag name =>
    if ["tbody", "tfoot", "thead"].contains name then
      .done (if s.inScope boundsTableScope name then cleared.pop.setMode .inTable else s)
    else if name = "table" then leave
    else if ["body", "caption", "col", "colgroup", "html", "td", "th", "tr"].contains name then
      .done s
    else inTable s token
  | _ => inTable s token

def inRow : Rule := fun s token =>
  let cleared := s.popDownTo tableRowBounds
  let leave :=
    if s.inScope boundsTableScope "tr" then Outcome.again cleared.pop .inTableBody token
    else .done s
  match token with
  | .startTag tag =>
    if ["th", "td"].contains tag.name then
      .done ((cleared.insert tag).setMode .inCell).pushMarker
    else if ["caption", "col", "colgroup", "tbody", "tfoot", "thead", "tr"].contains tag.name then
      leave
    else inTable s token
  | .endTag name =>
    if name = "tr" then
      .done (if s.inScope boundsTableScope "tr" then cleared.pop.setMode .inTableBody else s)
    else if name = "table" then leave
    else if ["tbody", "tfoot", "thead"].contains name then
      if s.inScope boundsTableScope name then leave else .done s
    else if ["body", "caption", "col", "colgroup", "html", "td", "th"].contains name then .done s
    else inTable s token
  | _ => inTable s token

def closeCell (s : State) : State :=
  ((s.popImplied impliedEnds).popThrough ["td", "th"]).clearToMarker

def inCell : Rule := fun s token =>
  match token with
  | .startTag tag =>
    if ["caption", "col", "colgroup", "tbody", "td", "tfoot", "th", "thead", "tr"].contains tag.name
    then
      if s.inScopeAny boundsTableScope ["td", "th"] then .again (closeCell s) .inRow token
      else .done s
    else inBody s token
  | .endTag name =>
    if ["td", "th"].contains name then
      if s.inScope boundsTableScope name then
        .done (((s.popImplied impliedEnds).popThrough [name]).clearToMarker.setMode .inRow)
      else .done s
    else if ["body", "caption", "col", "colgroup", "html"].contains name then .done s
    else if ["table", "tbody", "tfoot", "thead", "tr"].contains name then
      if s.inScope boundsTableScope name then .again (closeCell s) .inRow token else .done s
    else inBody s token
  | _ => inBody s token

end SymbolMarkup.Html
