import SymbolMarkup.Html.Construction.State

/-! Formatting elements that outlive their place on the stack: they are opened anew where content
follows, and tags that close them out of order rearrange the tree instead. -/
namespace SymbolMarkup.Html

namespace FormattingEntry

def isFor (id : NodeId) : FormattingEntry → Bool
  | marker => false
  | element other _ => other == id

end FormattingEntry

namespace State

def dropFormatting (s : State) (id : NodeId) : State :=
  { s with formatting := s.formatting.eraseP (·.isFor id) }

def pushMarker (s : State) : State := { s with formatting := .marker :: s.formatting }

def clearToMarker (s : State) : State :=
  { s with formatting := (s.formatting.dropWhile (· ≠ .marker)).tail }

def recentFormatting (s : State) : List (NodeId × Tag) :=
  (s.formatting.takeWhile (· ≠ .marker)).filterMap fun
    | .marker => none
    | .element id tag => some (id, tag)

def isSettled (s : State) : FormattingEntry → Bool
  | .marker => true
  | .element id _ => s.stack.any (·.id == id)

def reopen (s : State) : List FormattingEntry → State
  | [] => s
  | .marker :: rest => s.reopen rest
  | .element _ tag :: rest =>
    let (s, e) := s.insertOpen (.html tag.name) tag.attributes
    { s with formatting := .element e.id tag :: s.formatting }.reopen rest

def reconstruct (s : State) : State :=
  let pending := s.formatting.takeWhile fun e => !s.isSettled e
  if pending.isEmpty then s
  else { s with formatting := s.formatting.drop pending.length }.reopen pending.reverse

/-- Of four equal formatting elements since the latest marker, the earliest is forgotten. -/
def insertFormatting (s : State) (tag : Tag) : State :=
  let equals := s.recentFormatting.filter fun entry =>
    entry.2.name == tag.name && entry.2.attributes.sameEntries tag.attributes
  let s := if equals.length ≥ 3 then equals.getLast?.elim s fun entry => s.dropFormatting entry.1
    else s
  let (s, e) := s.insertOpen (.html tag.name) tag.attributes
  { s with formatting := .element e.id tag :: s.formatting }

def closeGeneric (s : State) (name : String) : State :=
  let rec matching : List OpenElement → Option OpenElement
    | [] => none
    | e :: rest =>
      if e.name.isHtml name then some e
      else if isSpecial e.name then none
      else matching rest
  match matching s.stack with
  | none => s
  | some e => { s with stack := (s.stack.dropWhile (·.id ≠ e.id)).tail }

inductive Bookmark where
  | replace (id : NodeId)
  | after (id : NodeId)

structure Climb where
  state : State
  kept : List OpenElement
  lastNode : NodeId
  bookmark : Bookmark

/-- One element between the formatting element and the block. Formatting elements among the first
three are replaced by copies, each around the node below it; all others leave the stack. -/
def climbStep (block : NodeId) (climb : Climb) (count : Nat) (e : OpenElement) : Climb :=
  let s := climb.state
  match s.formatting.find? (·.isFor e.id) with
  | some (.element _ tag) =>
    if count > 3 then { climb with state := s.dropFormatting e.id }
    else
      let (s, copy) := s.createElement (.html tag.name) tag.attributes
      let formatting := s.formatting.map fun entry =>
        if entry.isFor e.id then .element copy tag else entry
      { state := { s with formatting, draft := s.draft.append copy climb.lastNode }
        kept := ⟨copy, .html tag.name⟩ :: climb.kept
        lastNode := copy
        bookmark := if climb.lastNode = block then .after copy else climb.bookmark }
  | _ => climb

def climb (block : NodeId) : Climb → Nat → List OpenElement → Climb
  | c, _, [] => c
  | c, count, e :: rest => climb block (climbStep block c count e) (count + 1) rest

/-- The list with the entry for a formatting element moved to its new place. Entries are held latest
first, so what comes after another stands in front of it. -/
def placeEntry (bookmark : Bookmark) (formatter : NodeId) (entry : FormattingEntry)
    (entries : List FormattingEntry) : List FormattingEntry :=
  match bookmark with
  | .replace id => entries.map fun e => if e.isFor id then entry else e
  | .after id =>
    (entries.flatMap fun e => if e.isFor id then [entry, e] else [e]).eraseP (·.isFor formatter)

/-- One round for a formatting element with its tag, given the elements above it on the stack,
innermost first, and those below. `none` if nothing is left to rearrange. -/
def rearrange (s : State) (formatter : OpenElement) (tag : Tag)
    (above below : List OpenElement) : Option State :=
  match (above.reverse.find? (isSpecial ·.name)), below.head? with
  | some block, some ancestor =>
    let inner := above.takeWhile (·.id ≠ block.id)
    let between := (above.dropWhile (·.id ≠ block.id)).tail
    let start : Climb := ⟨s, [], block.id, .replace formatter.id⟩
    let c := climb block.id start 1 between
    let s := { c.state with draft := c.state.draft.detach c.lastNode }
    let s := s.placeNode (s.insertionPoint (some ancestor)) c.lastNode
    let (s, copy) := s.createElement (.html tag.name) tag.attributes
    let draft := (s.draft.moveChildren block.id copy).append block.id copy
    let stack := inner ++ ⟨copy, .html tag.name⟩ :: block :: (c.kept.reverse ++ below)
    let formatting := placeEntry c.bookmark formatter.id (.element copy tag) s.formatting
    some { s with draft, stack, formatting }
  | _, _ => none

def adopt (name : String) : Nat → State → State
  | 0, s => s
  | rounds + 1, s =>
    match s.recentFormatting.find? (·.2.name == name) with
    | none => s.closeGeneric name
    | some (id, tag) =>
      match s.stack.dropWhile (·.id ≠ id) with
      | [] => s.dropFormatting id
      | formatter :: below =>
        if !inScopeBy (·.id == id) boundsScope s.stack then s
        else
          match s.rearrange formatter tag (s.stack.takeWhile (·.id ≠ id)) below with
          | some next => adopt name rounds next
          | none => { s with stack := below }.dropFormatting id

def closeFormatting (s : State) (name : String) : State :=
  match s.current? with
  | some e =>
    if e.name.isHtml name && !s.formatting.any (·.isFor e.id) then s.pop else adopt name 8 s
  | none => adopt name 8 s

def closeOpenLink (s : State) : State :=
  match s.recentFormatting.find? (·.2.name == "a") with
  | none => s
  | some (id, _) => ((s.closeFormatting "a").dropFormatting id).removeFromStack id

end State

end SymbolMarkup.Html
