import SymbolMarkup.Html.Construction.Ending
import SymbolMarkup.Html.Construction.Select

/-! All rules together: those of the modes, and those that take over inside SVG and MathML. -/
namespace SymbolMarkup.Html

open State

def Mode.rule : Mode → Rule
  | .initial => Html.initial
  | .beforeHtml => Html.beforeHtml
  | .beforeHead => Html.beforeHead
  | .inHead => Html.inHead
  | .afterHead => Html.afterHead
  | .inBody => Html.inBody
  | .text => Html.rawText
  | .inTable => Html.inTable
  | .inTableText => Html.inTableText
  | .inCaption => Html.inCaption
  | .inColumnGroup => Html.inColumnGroup
  | .inTableBody => Html.inTableBody
  | .inRow => Html.inRow
  | .inCell => Html.inCell
  | .inSelect => Html.inSelect
  | .inSelectInTable => Html.inSelectInTable
  | .inTemplate => Html.inTemplate
  | .afterBody => Html.afterBody
  | .inFrameset => Html.inFrameset
  | .afterFrameset => Html.afterFrameset
  | .afterAfterBody => Html.afterAfterBody
  | .afterAfterFrameset => Html.afterAfterFrameset

def Mode.splitsText : Mode → Bool
  | .initial | .beforeHtml | .beforeHead | .inHead | .afterHead | .inColumnGroup | .afterBody
  | .inFrameset | .afterFrameset | .afterAfterBody | .afterAfterFrameset => true
  | _ => false

def takesForeign (s : State) (token : Token) : Bool :=
  match s.current? with
  | none => false
  | some e =>
    if e.name.space = .html then false
    else match token with
      | .endOfInput => false
      | .text _ | .null => !(e.name.holdsHtmlText || e.name.holdsHtml)
      | .startTag tag =>
        if e.name.holdsHtml then false
        else if e.name.holdsHtmlText then ["mglyph", "malignmark"].contains tag.name
        else if e.name = ⟨.mathml, "annotation-xml"⟩ then tag.name ≠ "svg"
        else true
      | _ => true

def breakoutTags : List String :=
  ["b", "big", "blockquote", "body", "br", "center", "code", "dd", "div", "dl", "dt", "em",
    "embed", "h1", "h2", "h3", "h4", "h5", "h6", "head", "hr", "i", "img", "li", "listing", "menu",
    "meta", "nobr", "ol", "p", "pre", "ruby", "s", "small", "span", "strong", "strike", "sub",
    "sup", "table", "tt", "u", "ul", "var"]

def breaksOut (tag : Tag) : Bool :=
  breakoutTags.contains tag.name ||
  (tag.name == "font" &&
    ["color", "face", "size"].any fun name => (tag.attributes.value? name).isSome)

def leaveForeign (s : State) : State :=
  { s with
    stack := s.stack.dropWhile fun e =>
      !(e.name.space == .html || e.name.holdsHtmlText || e.name.holdsHtml) }

/-- An end tag in foreign content closes the innermost foreign element of its name, in any case of
letters. `none` if HTML content is met first, whose rules then decide. -/
def closeForeign (name : String) : List OpenElement → Option (Option (List OpenElement))
  | [] => some none
  | [_] => some none
  | e :: outer :: rest =>
    if e.name.name.toList.map Text.asciiLower == name.toList then some (some (outer :: rest))
    else if outer.name.space = .html && !rest.isEmpty then none
    else closeForeign name (outer :: rest)

def foreignContent : Rule := fun s token =>
  match token with
  | .null => .done (s.appendText [Reference.replacement])
  | .text cs =>
    let shown := s.appendText cs
    .done (if isSpaceText cs then shown else shown.forbidFrames)
  | .comment content => .done (s.appendComment content)
  | .startTag tag =>
    if breaksOut tag then s.mode.rule (leaveForeign s) token
    else .done (s.current?.elim s fun e => s.insertForeign e.name.space tag)
  | .endTag name =>
    if ["br", "p"].contains name then s.mode.rule (leaveForeign s) token
    else match closeForeign name s.stack with
      | some (some stack) => .done { s with stack }
      | some none => .done s
      | none => s.mode.rule s token
  | .endOfInput | .flaw | .doctype _ => .done s

end SymbolMarkup.Html
