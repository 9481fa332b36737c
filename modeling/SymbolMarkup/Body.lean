import SymbolMarkup.Html.Document
import SymbolMarkup.Render

/-! From a text to the notation of its body. The text is read as an HTML document. Every child of a
tree becomes a node in its place; fragments, and whatever else is neither element, text nor comment,
become leaves of their kind. -/
namespace SymbolMarkup

open Html (Tree)

mutual

def Node.ofTree : Tree → Node
  | .text content => .text content
  | .comment content => .comment content
  | .element name attributes children =>
    .element name.name (attributes.map fun a => ⟨a.name.shown, a.value⟩) (Node.ofTrees children)
  | .doctype => .other "doctype"
  | .processingInstruction => .other "processing-instruction"
  | .document _ => .other "document"
  | .fragment _ => .other "document-fragment"

def Node.ofTrees : List Tree → List Node
  | [] => []
  | t :: rest => Node.ofTree t :: Node.ofTrees rest

end

def bodyNodes (document : Tree) : Except Failure (List Node) :=
  match document.body? with
  | some body => .ok (Node.ofTrees body.children)
  | none => .error .missingBody

def parseBody (html : String) : Except Failure (List Node) := bodyNodes (Html.parse html)

def convert (o : Options) (html : String) : Traced Failure String := do
  let nodes ← Traced.ofExcept (parseBody html)
  let output ← renderForest o nodes
  Traced.report (.converted nodes.length output.utf8ByteSize)
  pure output

end SymbolMarkup
