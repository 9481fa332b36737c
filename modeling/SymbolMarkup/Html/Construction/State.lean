import SymbolMarkup.Html.Draft
import SymbolMarkup.Html.Token.Next

/-! The state of tree construction and the steps that all its rules share: inserting nodes, and
searching and shortening the stack of open elements. -/
namespace SymbolMarkup.Html

inductive Mode where
  | initial
  | beforeHtml
  | beforeHead
  | inHead
  | afterHead
  | inBody
  | text
  | inTable
  | inTableText
  | inCaption
  | inColumnGroup
  | inTableBody
  | inRow
  | inCell
  | inSelect
  | inSelectInTable
  | inTemplate
  | afterBody
  | inFrameset
  | afterFrameset
  | afterAfterBody
  | afterAfterFrameset
  deriving DecidableEq, Repr

structure OpenElement where
  id : NodeId
  name : ElementName
  deriving DecidableEq, Repr

inductive FormattingEntry where
  | marker
  | element (id : NodeId) (tag : Tag)
  deriving DecidableEq

/-- The stack holds the innermost element first, and every other list its latest entry. -/
structure State where
  draft : Draft := .empty
  mode : Mode := .initial
  returnMode : Mode := .inBody
  templateModes : List Mode := []
  tableText : List (List Char) := []
  oldLayout : Bool := false
  stack : List OpenElement := []
  formatting : List FormattingEntry := []
  head : Option OpenElement := none
  form : Option NodeId := none
  framesAllowed : Bool := true
  skipNewline : Bool := false
  fosterParenting : Bool := false
  reading : Reading := .markup

/-- What a rule makes of a token: it is dealt with, or another token takes its turn under a mode. -/
inductive Outcome where
  | done (s : State)
  | again (s : State) (mode : Mode) (token : Token)

def Outcome.map (f : State → State) : Outcome → Outcome
  | .done s => .done (f s)
  | .again s mode token => .again (f s) mode token

abbrev Rule := State → Token → Outcome

namespace State

def setMode (s : State) (mode : Mode) : State := { s with mode }

def forbidFrames (s : State) : State := { s with framesAllowed := false }

/-! The stack of open elements. -/

def current? (s : State) : Option OpenElement := s.stack.head?

def currentIs (s : State) (name : String) : Bool := s.current?.any (·.name.isHtml name)

def currentIn (s : State) (names : List String) : Bool := s.current?.any (·.name.isHtmlIn names)

def hasOpen (s : State) (name : String) : Bool := s.stack.any (·.name.isHtml name)

def rootElement? (s : State) : Option OpenElement := s.stack.getLast?

def bodyElement? (s : State) : Option OpenElement :=
  s.stack.reverse[1]?.filter (·.name.isHtml "body")

/-- Searching outwards, an element comes up that is wanted before one that bounds the scope. -/
def inScopeBy (wanted : OpenElement → Bool) (bounds : ElementName → Bool) :
    List OpenElement → Bool
  | [] => false
  | e :: rest => wanted e || (!bounds e.name && inScopeBy wanted bounds rest)

def inScope (s : State) (bounds : ElementName → Bool) (name : String) : Bool :=
  inScopeBy (·.name.isHtml name) bounds s.stack

def inScopeAny (s : State) (bounds : ElementName → Bool) (names : List String) : Bool :=
  inScopeBy (·.name.isHtmlIn names) bounds s.stack

def pop (s : State) : State := { s with stack := s.stack.tail }

def popThrough (s : State) (names : List String) : State :=
  { s with stack := (s.stack.dropWhile fun e => !e.name.isHtmlIn names).tail }

def popDownTo (s : State) (names : List String) : State :=
  { s with stack := s.stack.dropWhile fun e => !e.name.isHtmlIn names }

def popImplied (s : State) (names : List String) : State :=
  { s with stack := s.stack.dropWhile (·.name.isHtmlIn names) }

def popImpliedExcept (s : State) (name : String) : State :=
  s.popImplied (impliedEnds.filter (· ≠ name))

def removeFromStack (s : State) (id : NodeId) : State :=
  { s with stack := s.stack.eraseP (·.id == id) }

def push (s : State) (e : OpenElement) : State := { s with stack := e :: s.stack }

end State

/-- Where a node goes: to the end of a parent, or in front of a table. A table without a parent
leaves the end of the element around it on the stack. -/
inductive InsertionPoint where
  | lastChild (parent : NodeId)
  | beforeTable (table around : NodeId)

namespace State

/-- What a template holds stands in a fragment below it. -/
def templateContent (s : State) (id : NodeId) : NodeId := ((s.draft.children id)[0]?).getD id

def inside (s : State) (e : OpenElement) : NodeId :=
  if e.name.isHtml "template" then s.templateContent e.id else e.id

def fosterPoint (s : State) (root : NodeId) : List OpenElement → InsertionPoint
  | [] => .lastChild root
  | e :: rest =>
    if e.name.isHtml "template" then .lastChild (s.templateContent e.id)
    else if e.name.isHtml "table" then .beforeTable e.id (rest.head?.elim root (·.id))
    else s.fosterPoint root rest

def tableParts : List String := ["table", "tbody", "tfoot", "thead", "tr"]

def insertionPoint (s : State) (target : Option OpenElement) : InsertionPoint :=
  match target with
  | none => .lastChild Draft.documentId
  | some e =>
    if s.fosterParenting && e.name.isHtmlIn tableParts then
      s.fosterPoint (s.rootElement?.elim Draft.documentId (·.id)) s.stack
    else .lastChild (s.inside e)

def placeNode (s : State) (point : InsertionPoint) (id : NodeId) : State :=
  match point with
  | .lastChild parent => { s with draft := s.draft.append parent id }
  | .beforeTable table around =>
    match s.draft.parent? table with
    | some _ => { s with draft := s.draft.insertBefore table id }
    | none => { s with draft := s.draft.append around id }

def placeText (s : State) (point : InsertionPoint) (content : String) : State :=
  match point with
  | .lastChild parent => { s with draft := s.draft.appendText parent content }
  | .beforeTable table around =>
    match s.draft.parent? table with
    | some _ => { s with draft := s.draft.insertTextBefore table content }
    | none => { s with draft := s.draft.appendText around content }

def appendText (s : State) (cs : List Char) : State :=
  s.placeText (s.insertionPoint s.current?) (String.ofList cs)

def create (s : State) (content : Content) : State × NodeId :=
  let (draft, id) := s.draft.create content
  ({ s with draft }, id)

def appendComment (s : State) (content : String) : State :=
  let (s, id) := s.create (.comment content)
  s.placeNode (s.insertionPoint s.current?) id

def appendCommentTo (s : State) (parent : NodeId) (content : String) : State :=
  let (s, id) := s.create (.comment content)
  s.placeNode (.lastChild parent) id

def createElement (s : State) (name : ElementName) (attributes : TagAttributes) :
    State × NodeId :=
  let (s, id) := s.create (.element name attributes)
  if name.isHtml "template" then
    let (s, content) := s.create .fragment
    ({ s with draft := s.draft.append id content }, id)
  else (s, id)

def insertClosed (s : State) (name : ElementName) (attributes : TagAttributes) :
    State × OpenElement :=
  let (s, id) := s.createElement name attributes
  (s.placeNode (s.insertionPoint s.current?) id, ⟨id, name⟩)

def insertOpen (s : State) (name : ElementName) (attributes : TagAttributes) :
    State × OpenElement :=
  let (s, e) := s.insertClosed name attributes
  (s.push e, e)

def insert (s : State) (tag : Tag) : State := (s.insertOpen (.html tag.name) tag.attributes).1

def insertVoid (s : State) (tag : Tag) : State :=
  (s.insertClosed (.html tag.name) tag.attributes).1

def insertNamed (s : State) (name : String) : State × OpenElement :=
  s.insertOpen (.html name) .empty

def readAs (s : State) (reading : Reading) : State :=
  { s with reading, returnMode := s.mode, mode := .text }

def insertRaw (s : State) (tag : Tag) (reading : String → Reading) : State :=
  (s.insert tag).readAs (reading tag.name)

def closeParagraph (s : State) : State :=
  (s.popImplied (impliedEnds.filter (· ≠ "p"))).popThrough ["p"]

def closeParagraphInScope (s : State) : State :=
  if s.inScope boundsButtonScope "p" then s.closeParagraph else s

def selectMode : List OpenElement → Mode
  | [] => .inSelect
  | e :: rest =>
    if e.name.isHtml "template" then .inSelect
    else if e.name.isHtml "table" then .inSelectInTable
    else selectMode rest

def modeFor (s : State) : List OpenElement → Mode
  | [] => .inBody
  | e :: rest =>
    let last := rest.isEmpty
    if e.name.space ≠ .html then s.modeFor rest
    else if e.name.name = "select" then selectMode rest
    else if ["td", "th"].contains e.name.name && !last then .inCell
    else if e.name.name = "tr" then .inRow
    else if ["tbody", "thead", "tfoot"].contains e.name.name then .inTableBody
    else if e.name.name = "caption" then .inCaption
    else if e.name.name = "colgroup" then .inColumnGroup
    else if e.name.name = "table" then .inTable
    else if e.name.name = "template" then s.templateModes.head?.getD .inTemplate
    else if e.name.name = "head" && !last then .inHead
    else if e.name.name = "body" then .inBody
    else if e.name.name = "frameset" then .inFrameset
    else if e.name.name = "html" then (if s.head.isNone then .beforeHead else .afterHead)
    else s.modeFor rest

def fittingMode (s : State) : Mode := s.modeFor s.stack

end State

end SymbolMarkup.Html
