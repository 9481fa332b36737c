/-! Names of elements and the groups of elements that the construction of a tree tells apart. -/
namespace SymbolMarkup.Html

inductive Namespace where
  | html
  | svg
  | mathml
  deriving DecidableEq, Repr

structure ElementName where
  space : Namespace
  name : String
  deriving DecidableEq, Repr

namespace ElementName

def html (name : String) : ElementName := ⟨.html, name⟩

def isHtml (n : ElementName) (name : String) : Bool := n.space == .html && n.name == name

def isHtmlIn (n : ElementName) (names : List String) : Bool :=
  n.space == .html && names.contains n.name

/-- A MathML element whose text is HTML. -/
def holdsHtmlText (n : ElementName) : Bool :=
  n.space == .mathml && ["mi", "mo", "mn", "ms", "mtext"].contains n.name

def holdsHtml (n : ElementName) : Bool :=
  n.space == .svg && ["foreignObject", "desc", "title"].contains n.name

end ElementName

/-! A scope is given by the elements that bound it. -/

def boundsScope (n : ElementName) : Bool :=
  n.isHtmlIn ["applet", "caption", "html", "table", "td", "th", "marquee", "object", "template"] ||
  n.holdsHtmlText || n.holdsHtml

def boundsListItemScope (n : ElementName) : Bool := boundsScope n || n.isHtmlIn ["ol", "ul"]

def boundsButtonScope (n : ElementName) : Bool := boundsScope n || n.isHtml "button"

def boundsTableScope (n : ElementName) : Bool := n.isHtmlIn ["html", "table", "template"]

def boundsSelectScope (n : ElementName) : Bool := !n.isHtmlIn ["optgroup", "option"]

def headings : List String := ["h1", "h2", "h3", "h4", "h5", "h6"]

def impliedEnds : List String :=
  ["dd", "dt", "li", "option", "optgroup", "p", "rb", "rp", "rt", "rtc"]

def impliedTemplateEnds : List String :=
  impliedEnds ++ ["caption", "colgroup", "tbody", "td", "tfoot", "th", "thead", "tr"]

/-- Elements that a misplaced end tag does not reach past. -/
def specialNames : List String :=
  ["address", "applet", "area", "article", "aside", "base", "basefont", "bgsound", "blockquote",
    "body", "br", "button", "caption", "center", "col", "colgroup", "dd", "details", "dir", "div",
    "dl", "dt", "embed", "fieldset", "figcaption", "figure", "footer", "form", "frame", "frameset",
    "h1", "h2", "h3", "h4", "h5", "h6", "head", "header", "hgroup", "hr", "html", "iframe", "img",
    "input", "isindex", "li", "link", "listing", "main", "marquee", "menu", "meta", "nav",
    "noembed", "noframes", "noscript", "object", "ol", "p", "param", "plaintext", "pre", "script",
    "section", "select", "source", "style", "summary", "table", "tbody", "td", "template",
    "textarea", "tfoot", "th", "thead", "title", "tr", "track", "ul", "wbr", "xmp"]

def isSpecial (n : ElementName) : Bool := n.isHtmlIn specialNames

end SymbolMarkup.Html
