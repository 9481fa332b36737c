import SymbolMarkup.Html.Token
import SymbolMarkup.Html.Token.Reference

/-! Reading the text of a tag, one character after the other.
The reading is a machine over the places inside a tag. It never fails on a malformed tag; it only
finds no tag when the input ends first. -/
namespace SymbolMarkup.Html

def isSpace (c : Char) : Bool :=
  c == ' ' || c == '\n' || c == '\t' || c == '\x0c' || c == '\r'

def replaceNull (c : Char) : Char := if c = '\x00' then Reference.replacement else c

inductive Place where
  | tagName
  | beforeName
  | name
  | afterName
  | beforeValue
  | value (quote : Option Char)
  | afterValue
  | slash
  deriving DecidableEq, Repr

/-- A tag that has been read in part. Names and values under way are held in reverse. -/
structure OpenTag where
  place : Place
  tagName : List Char
  attributes : TagAttributes
  name : List Char
  value : List Char

inductive TagStep where
  | more (tag : OpenTag)
  | finished (tag : OpenTag) (selfClosing : Bool)

namespace OpenTag

def start : OpenTag := ⟨.tagName, [], .empty, [], []⟩

def moveTo (t : OpenTag) (place : Place) : TagStep := .more { t with place }

def commit (t : OpenTag) : OpenTag :=
  { t with
    attributes :=
      t.attributes.add t.name.reverse (String.ofList (expand true t.value.reverse))
    name := []
    value := [] }

def startName (t : OpenTag) (c : Char) : TagStep :=
  .more { t with place := .name, name := [replaceNull c], value := [] }

def pushValue (t : OpenTag) (quote : Option Char) (c : Char) : TagStep :=
  .more { t with place := .value quote, value := replaceNull c :: t.value }

/-- An equals sign in this place begins a name. -/
def beforeName (t : OpenTag) (c : Char) : TagStep :=
  if isSpace c then t.moveTo .beforeName
  else if c = '/' then t.moveTo .slash
  else if c = '>' then .finished t false
  else t.startName c

def unquoted (t : OpenTag) (c : Char) : TagStep :=
  if isSpace c then t.commit.moveTo .beforeName
  else if c = '>' then .finished t.commit false
  else t.pushValue none c

def step (t : OpenTag) (c : Char) : TagStep :=
  match t.place with
  | .tagName =>
    if isSpace c then t.moveTo .beforeName
    else if c = '/' then t.moveTo .slash
    else if c = '>' then .finished t false
    else .more { t with tagName := replaceNull c :: t.tagName }
  | .beforeName => t.beforeName c
  | .name =>
    if isSpace c then t.moveTo .afterName
    else if c = '/' then t.commit.moveTo .slash
    else if c = '=' then t.moveTo .beforeValue
    else if c = '>' then .finished t.commit false
    else .more { t with name := replaceNull c :: t.name }
  | .afterName =>
    if isSpace c then t.moveTo .afterName
    else if c = '/' then t.commit.moveTo .slash
    else if c = '=' then t.moveTo .beforeValue
    else if c = '>' then .finished t.commit false
    else t.commit.startName c
  | .beforeValue =>
    if isSpace c then t.moveTo .beforeValue
    else if c = '"' ∨ c = '\'' then t.moveTo (.value (some c))
    else if c = '>' then .finished t.commit false
    else t.unquoted c
  | .value (some quote) =>
    if c = quote then t.commit.moveTo .afterValue else t.pushValue (some quote) c
  | .value none => t.unquoted c
  | .afterValue => t.beforeName c
  | .slash => if c = '>' then .finished t true else t.beforeName c

def read (t : OpenTag) : List Char → Option (Tag × List Char)
  | [] => none
  | c :: rest =>
    match t.step c with
    | .more next => next.read rest
    | .finished tag selfClosing =>
      let name := String.ofList (tag.tagName.reverse.map Text.asciiLower)
      some (⟨name, tag.attributes, selfClosing⟩, rest)

end OpenTag

end SymbolMarkup.Html
