import SymbolMarkup.Html.Construction.Body

/-! The rules for raw text, for framesets, and behind the end of the body or the frameset. -/
namespace SymbolMarkup.Html

open State

def rawText : Rule := fun s token =>
  match token with
  | .text cs => .done (s.appendText cs)
  | .endOfInput => .again s.pop s.returnMode token
  | .endTag _ => .done (s.pop.setMode s.returnMode)
  | _ => .done s

/-- Content behind the body still goes into it. -/
def afterBody : Rule := fun s token =>
  match token with
  | .text cs => if isSpaceText cs then inBody s token else .again s .inBody token
  | .comment content =>
    .done (s.appendCommentTo (s.rootElement?.elim Draft.documentId (·.id)) content)
  | .startTag tag =>
    if tag.name = "html" then .done (s.mergeIntoRoot tag) else .again s .inBody token
  | .endTag name =>
    if name = "html" then .done (s.setMode .afterAfterBody) else .again s .inBody token
  | .endOfInput => .done s
  | .null | .flaw | .doctype _ => .again s .inBody token

def afterAfterBody : Rule := fun s token =>
  match token with
  | .text cs => if isSpaceText cs then inBody s token else .again s .inBody token
  | .comment content => .done (s.appendCommentTo Draft.documentId content)
  | .startTag tag =>
    if tag.name = "html" then .done (s.mergeIntoRoot tag) else .again s .inBody token
  | .endOfInput => .done s
  | .endTag _ | .null | .flaw | .doctype _ => .again s .inBody token

def closeFrameset (s : State) : State :=
  if s.stack.length = 1 then s
  else
    let s := s.pop
    if s.currentIs "frameset" then s else s.setMode .afterFrameset

def inFrameset : Rule := fun s token =>
  match token with
  | .text cs => .done (if isSpaceText cs then s.appendText cs else s)
  | .comment content => .done (s.appendComment content)
  | .startTag tag =>
    if tag.name = "html" then .done (s.mergeIntoRoot tag)
    else if tag.name = "frameset" then .done (s.insert tag)
    else if tag.name = "frame" then .done (s.insertVoid tag)
    else if tag.name = "noframes" then inHead s token
    else .done s
  | .endTag name => .done (if name = "frameset" then closeFrameset s else s)
  | .endOfInput | .null | .flaw | .doctype _ => .done s

def afterFrameset : Rule := fun s token =>
  match token with
  | .text cs => .done (if isSpaceText cs then s.appendText cs else s)
  | .comment content => .done (s.appendComment content)
  | .startTag tag =>
    if tag.name = "html" then .done (s.mergeIntoRoot tag)
    else if tag.name = "noframes" then inHead s token
    else .done s
  | .endTag name => .done (if name = "html" then s.setMode .afterAfterFrameset else s)
  | .endOfInput | .null | .flaw | .doctype _ => .done s

def afterAfterFrameset : Rule := fun s token =>
  match token with
  | .text cs => if isSpaceText cs then inBody s token else .done s
  | .comment content => .done (s.appendCommentTo Draft.documentId content)
  | .startTag tag =>
    if tag.name = "html" then .done (s.mergeIntoRoot tag)
    else if tag.name = "noframes" then inHead s token
    else .done s
  | .endTag _ | .endOfInput | .null | .flaw | .doctype _ => .done s

end SymbolMarkup.Html
