import SymbolMarkup.Html.Token
import SymbolMarkup.Html.Tree

/-! A document under construction: a table of nodes that name their parents and children by number.
Nodes are only ever added. The node with number zero is the document. Elements keep the attributes
of their tags as written, and get the names of their namespace when the draft becomes a tree. -/
namespace SymbolMarkup.Html

abbrev NodeId := Nat

inductive Content where
  | document
  | fragment
  | element (name : ElementName) (attributes : TagAttributes)
  | text (content : String)
  | comment (content : String)
  | doctype

structure Cell where
  content : Content
  parent : Option NodeId
  children : Array NodeId

structure Draft where
  cells : Array Cell

namespace Draft

def empty : Draft := ⟨#[⟨.document, none, #[]⟩]⟩

def documentId : NodeId := 0

def modify (d : Draft) (id : NodeId) (f : Cell → Cell) : Draft := ⟨d.cells.modify id f⟩

def parent? (d : Draft) (id : NodeId) : Option NodeId := d.cells[id]?.bind (·.parent)

def children (d : Draft) (id : NodeId) : Array NodeId :=
  match d.cells[id]? with
  | some cell => cell.children
  | none => #[]

def isText (d : Draft) (id : NodeId) : Bool :=
  match d.cells[id]? with
  | some ⟨.text _, _, _⟩ => true
  | _ => false

def create (d : Draft) (content : Content) : Draft × NodeId :=
  (⟨d.cells.push ⟨content, none, #[]⟩⟩, d.cells.size)

def detach (d : Draft) (id : NodeId) : Draft :=
  match d.parent? id with
  | none => d
  | some parent =>
    (d.modify parent fun c => { c with children := c.children.erase id }).modify id
      fun c => { c with parent := none }

def append (d : Draft) (parent id : NodeId) : Draft :=
  ((d.detach id).modify parent fun c => { c with children := c.children.push id }).modify id
    fun c => { c with parent := some parent }

def insertBefore (d : Draft) (sibling id : NodeId) : Draft :=
  let freed := d.detach id
  match freed.parent? sibling with
  | none => freed
  | some parent =>
    let place (ids : Array NodeId) : Array NodeId :=
      let (before, after) := ids.toList.span (· ≠ sibling)
      (before ++ id :: after).toArray
    (freed.modify parent fun c => { c with children := place c.children }).modify id
      fun c => { c with parent := some parent }

def extendText (d : Draft) (id : NodeId) (more : String) : Draft :=
  d.modify id fun c =>
    match c.content with
    | .text content => { c with content := .text (content ++ more) }
    | _ => c

/-- Text at the end of `parent` joins a text that stands there. -/
def appendText (d : Draft) (parent : NodeId) (content : String) : Draft :=
  match (d.children parent).back?.filter d.isText with
  | some last => d.extendText last content
  | none =>
    let (d, id) := d.create (.text content)
    d.append parent id

def insertTextBefore (d : Draft) (sibling : NodeId) (content : String) : Draft :=
  let earlier := (d.parent? sibling).bind fun parent =>
    ((d.children parent).toList.takeWhile (· ≠ sibling)).getLast?
  match earlier.filter d.isText with
  | some previous => d.extendText previous content
  | none =>
    let (d, id) := d.create (.text content)
    d.insertBefore sibling id

def moveChildren (d : Draft) (source target : NodeId) : Draft :=
  (d.children source).foldl (fun d id => d.append target id) d

def mergeAttributes (d : Draft) (id : NodeId) (more : TagAttributes) : Draft :=
  d.modify id fun c =>
    match c.content with
    | .element name attributes => { c with content := .element name (attributes.merge more) }
    | _ => c

def treeAttributes (space : Namespace) (attributes : TagAttributes) : List TreeAttribute :=
  attributes.entries.map fun a => ⟨space.attributeName a.name, a.value⟩

def treeAt (d : Draft) : Nat → NodeId → Tree
  | 0, _ => .document []
  | depth + 1, id =>
    match d.cells[id]? with
    | none => .document []
    | some cell =>
      let children := cell.children.toList.map (d.treeAt depth)
      match cell.content with
      | .document => .document children
      | .fragment => .fragment children
      | .element name attributes => .element name (treeAttributes name.space attributes) children
      | .text content => .text content
      | .comment content => .comment content
      | .doctype => .doctype

/-- The whole document. No branch is longer than there are nodes. -/
def toTree (d : Draft) : Tree := d.treeAt d.cells.size documentId

end Draft

end SymbolMarkup.Html
