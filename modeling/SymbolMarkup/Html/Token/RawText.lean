import SymbolMarkup.Html.Token.Declaration

/-! Content in which markup is not recognised. It ends at the end tag of its element, and for
scripts the end tag may be hidden inside a comment that holds a script of its own. -/
namespace SymbolMarkup.Html

def endsName (c : Char) : Bool := isSpace c || c == '/' || c == '>'

def startsWithWhole (opening word : List Char) (cs : List Char) : Bool :=
  let rest := cs.drop opening.length
  opening.isPrefixOf cs && startsWithWord word rest && (rest[word.length]?).any endsName

def startsWithEndTag (name : List Char) (cs : List Char) : Bool :=
  startsWithWhole "</".toList name cs

def splitRawText (name done : List Char) : List Char → List Char × List Char
  | [] => (done.reverse, [])
  | c :: rest =>
    if startsWithEndTag name (c :: rest) then (done.reverse, c :: rest)
    else splitRawText name (c :: done) rest

inductive ScriptDepth where
  | plain
  | escaped
  | doubleEscaped
  deriving DecidableEq, Repr

/-- The text of a script up to its end tag, behind `done` in reverse. `dashes` counts the dashes
just read, no further than two; `skip` counts characters of a mark already recognised. -/
def splitScript (done : List Char) (depth : ScriptDepth) (dashes skip : Nat) :
    List Char → List Char × List Char
  | [] => (done.reverse, [])
  | c :: rest =>
    let ends := startsWithEndTag "script".toList (c :: rest)
    match skip, depth with
    | skip + 1, _ => splitScript (c :: done) depth dashes skip rest
    | 0, .plain =>
      if ends then (done.reverse, c :: rest)
      else if "<!--".toList.isPrefixOf (c :: rest) then splitScript (c :: done) .escaped 2 3 rest
      else splitScript (c :: done) .plain 0 0 rest
    | 0, .escaped =>
      if ends then (done.reverse, c :: rest)
      else if startsWithWhole "<".toList "script".toList (c :: rest) then
        splitScript (c :: done) .doubleEscaped 0 7 rest
      else if c = '-' then splitScript (c :: done) .escaped (min 2 (dashes + 1)) 0 rest
      else if c = '>' ∧ dashes = 2 then splitScript (c :: done) .plain 0 0 rest
      else splitScript (c :: done) .escaped 0 0 rest
    | 0, .doubleEscaped =>
      if ends then splitScript (c :: done) .escaped 0 8 rest
      else if c = '-' then splitScript (c :: done) .doubleEscaped (min 2 (dashes + 1)) 0 rest
      else if c = '>' ∧ dashes = 2 then splitScript (c :: done) .plain 0 0 rest
      else splitScript (c :: done) .doubleEscaped 0 0 rest

end SymbolMarkup.Html
