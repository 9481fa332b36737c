import SymbolMarkup.Html.Names
import SymbolMarkup.Text.Lowercase

/-! Names in SVG and MathML. Tags and attributes are written in any case and read in small letters;
here they get back the capitals those vocabularies know. A few attributes belong to a namespace of
their own and are split into a qualifier and a base name. -/
namespace SymbolMarkup.Html

/-- A name of an attribute. The qualifier may be there and yet be empty. -/
structure AttributeName where
  qualifier : Option String
  base : String
  deriving DecidableEq, Repr

def AttributeName.shown (n : AttributeName) : String :=
  match n.qualifier with
  | some qualifier => qualifier ++ ":" ++ n.base
  | none => n.base

def svgTagNames : List String :=
  ["altGlyph", "altGlyphDef", "altGlyphItem", "animateColor", "animateMotion", "animateTransform",
    "clipPath", "feBlend", "feColorMatrix", "feComponentTransfer", "feComposite",
    "feConvolveMatrix", "feDiffuseLighting", "feDisplacementMap", "feDistantLight",
    "feDropShadow", "feFlood", "feFuncA", "feFuncB", "feFuncG", "feFuncR", "feGaussianBlur",
    "feImage", "feMerge", "feMergeNode", "feMorphology", "feOffset", "fePointLight",
    "feSpecularLighting", "feSpotLight", "feTile", "feTurbulence", "foreignObject", "glyphRef",
    "linearGradient", "radialGradient", "textPath"]

def svgAttributeNames : List String :=
  ["attributeName", "attributeType", "baseFrequency", "baseProfile", "calcMode", "clipPathUnits",
    "diffuseConstant", "edgeMode", "filterUnits", "glyphRef", "gradientTransform", "gradientUnits",
    "kernelMatrix", "kernelUnitLength", "keyPoints", "keySplines", "keyTimes", "lengthAdjust",
    "limitingConeAngle", "markerHeight", "markerUnits", "markerWidth", "maskContentUnits",
    "maskUnits", "numOctaves", "pathLength", "patternContentUnits", "patternTransform",
    "patternUnits", "pointsAtX", "pointsAtY", "pointsAtZ", "preserveAlpha", "preserveAspectRatio",
    "primitiveUnits", "refX", "refY", "repeatCount", "repeatDur", "requiredExtensions",
    "requiredFeatures", "specularConstant", "specularExponent", "spreadMethod", "startOffset",
    "stdDeviation", "stitchTiles", "surfaceScale", "systemLanguage", "tableValues", "targetX",
    "targetY", "textLength", "viewBox", "viewTarget", "xChannelSelector", "yChannelSelector",
    "zoomAndPan"]

def mathmlAttributeNames : List String := ["definitionURL"]

def xlinkNames : List String := ["actuate", "arcrole", "href", "role", "show", "title", "type"]

def xmlNames : List String := ["base", "lang", "space"]

/-- The listed name that reads `name` in small letters, or `name` itself. -/
def recase (listed : List String) (name : String) : String :=
  (listed.find? fun l => l.toList.map Text.asciiLower == name.toList).getD name

def Namespace.tagName (space : Namespace) (name : String) : String :=
  match space with
  | .svg => recase svgTagNames name
  | .html | .mathml => name

def Namespace.casedAttribute (space : Namespace) (name : String) : String :=
  match space with
  | .html => name
  | .svg => recase svgAttributeNames name
  | .mathml => recase mathmlAttributeNames name

def foreignNames : List (String × AttributeName) :=
  xlinkNames.map (fun n => ("xlink:" ++ n, ⟨some "xlink", n⟩)) ++
  xmlNames.map (fun n => ("xml:" ++ n, ⟨some "xml", n⟩)) ++
  [("xmlns", ⟨some "", "xmlns"⟩), ("xmlns:xlink", ⟨some "xmlns", "xlink"⟩)]

def Namespace.attributeName (space : Namespace) (name : String) : AttributeName :=
  match space with
  | .html => ⟨none, name⟩
  | .svg | .mathml => (foreignNames.lookup name).getD ⟨none, space.casedAttribute name⟩

end SymbolMarkup.Html
