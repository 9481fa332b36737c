import SymbolMarkup.Event
import SymbolMarkup.Node
import SymbolMarkup.Text.Spacing

/-! The notation of a tree. An element opens with its quoted tag, gives each attribute a line, then
its children, and closes at its own indentation. Nothing is escaped. Blank texts leave nothing
behind, nor do nodes of unsupported kinds where they are skipped: such nodes are absent. -/
namespace SymbolMarkup

/-- Where the line that separates two siblings is indented: as deep as their parent, or as deep as
they are. -/
inductive SiblingIndent where
  | parent
  | child
  deriving DecidableEq, Repr, Inhabited

inductive UnsupportedPolicy where
  | skip
  | error
  deriving DecidableEq, Repr, Inhabited

structure Options where
  siblingIndent : SiblingIndent := .parent
  unsupported : UnsupportedPolicy := .skip
  deriving DecidableEq, Repr, Inhabited

inductive Failure where
  | missingBody
  | unsupportedKind (kind : String)
  deriving DecidableEq, Repr

def Failure.message : Failure → String
  | missingBody => "Parse error: document has no <body> element"
  | unsupportedKind kind => "Unsupported node kind: " ++ kind

def indentUnit : String := "  "

def renderText (content : String) : Option String :=
  let trimmed := Text.trim content
  if trimmed.isEmpty then none
  else if trimmed.toList.contains '\n' then some ("\"\"\"" ++ trimmed ++ "\"\"\"")
  else some ("\"" ++ trimmed ++ "\"")

def renderComment (content : String) : String := "// " ++ Text.normalize content

def renderAttribute (a : Attribute) : String :=
  "'" ++ a.name ++ " /= \"" ++ Text.normalize a.value ++ "\""

def renderAttributes (indent : String) (hasChildren : Bool) : List Attribute → String → String
  | [], out => out
  | a :: rest, out =>
    let comma := if !rest.isEmpty || hasChildren then "," else ""
    renderAttributes indent hasChildren rest
      (out ++ indent ++ indentUnit ++ renderAttribute a ++ comma ++ "\n")

def Options.separatorIndent (o : Options) (indent : String) : String :=
  match o.siblingIndent with
  | .parent => indent
  | .child => indent ++ indentUnit

mutual

/-- The notation of a node whose first line stands at `indent`; `none` if the node is absent.
The first line itself is not indented. -/
def renderNode (o : Options) (indent : String) : Node → Traced Failure (Option String)
  | .element tag attributes children => do
    let hasChildren := !children.isEmpty
    let head := renderAttributes indent hasChildren attributes
      ("'" ++ Text.lowercase tag ++ "(\n")
    let body ← renderChildren o indent children false head
    let line := if hasChildren then body ++ "\n" else body
    pure (some (line ++ indent ++ ")"))
  | .text content => pure (renderText content)
  | .comment content => pure (some (renderComment content))
  | .other kind =>
    match o.unsupported with
    | .skip => do
      Traced.report (.skipped kind)
      pure none
    | .error => Traced.fail (.unsupportedKind kind)

/-- Appends the children that are not absent to `out`. `emitted` tells that one has been. -/
def renderChildren (o : Options) (indent : String) :
    List Node → Bool → String → Traced Failure String
  | [], _, out => pure out
  | child :: rest, emitted, out => do
    match ← renderNode o (indent ++ indentUnit) child with
    | none => renderChildren o indent rest emitted out
    | some rendered =>
      let lead := if emitted then ",\n" ++ o.separatorIndent indent else indent ++ indentUnit
      renderChildren o indent rest true (out ++ lead ++ rendered)

end

def renderForestFrom (o : Options) : List Node → String → Traced Failure String
  | [], out => pure out
  | node :: rest, out => do
    match ← renderNode o "" node with
    | none => renderForestFrom o rest out
    | some rendered =>
      let separator := if out.isEmpty then "" else ",\n"
      renderForestFrom o rest (out ++ separator ++ rendered)

def renderForest (o : Options) (nodes : List Node) : Traced Failure String :=
  renderForestFrom o nodes ""

end SymbolMarkup
