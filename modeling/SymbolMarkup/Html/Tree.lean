import SymbolMarkup.Html.Foreign

/-! A document as reading HTML leaves it. -/
namespace SymbolMarkup.Html

structure TreeAttribute where
  name : AttributeName
  value : String
  deriving DecidableEq, Repr

inductive Tree where
  | document (children : List Tree)
  | fragment (children : List Tree)
  | element (name : ElementName) (attributes : List TreeAttribute) (children : List Tree)
  | text (content : String)
  | comment (content : String)
  | doctype
  | processingInstruction
  deriving Inhabited

namespace Tree

def children : Tree → List Tree
  | document children | fragment children | element _ _ children => children
  | text _ | comment _ | doctype | processingInstruction => []

def elementName? : Tree → Option ElementName
  | element name _ _ => some name
  | _ => none

def root? (document : Tree) : Option Tree :=
  document.children.find? fun t => t.elementName?.isSome

/-- The first element with the name `body` that the root has as a child. -/
def body? (document : Tree) : Option Tree :=
  document.root?.bind fun root =>
    root.children.find? fun t => t.elementName?.any fun n => n.name == "body"

end Tree

end SymbolMarkup.Html
