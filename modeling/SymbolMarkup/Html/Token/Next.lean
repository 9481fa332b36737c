import SymbolMarkup.Html.Token.RawText

/-! The next tokens of an input, given how it has to be read at this point.
Which way that is depends on the elements open so far, so the reader is told so anew each time. -/
namespace SymbolMarkup.Html

inductive Reading where
  | markup
  | rawText (name : String)
  | referenceText (name : String)
  | script
  | plainText
  deriving DecidableEq, Repr

def unifyNewlines (cs : List Char) : List Char :=
  (cs.zip ('\x00' :: cs)).filterMap fun (c, before) =>
    if c = '\n' ∧ before = '\r' then none else some (if c = '\r' then '\n' else c)

def dropByteOrderMark (cs : List Char) : List Char :=
  if cs.head? = some '\ufeff' then cs.tail else cs

def prepareInput (cs : List Char) : List Char := unifyNewlines (dropByteOrderMark cs)

def readRaw (text : List Token) (rest : List Char) : List Token × List Char :=
  match OpenTag.start.read (rest.drop 2) with
  | some (tag, after) => (text ++ [.endTag tag.name], after)
  | none => (text, [])

def isLetter (c : Char) : Bool := ('a' ≤ c && c ≤ 'z') || ('A' ≤ c && c ≤ 'Z')

def readMarkup (cdata : Bool) (cs : List Char) : List Token × List Char :=
  match cs with
  | '!' :: rest => readDeclaration cdata rest
  | '?' :: _ =>
    let (token, rest) := readBogusComment cs
    ([token], rest)
  | '/' :: '>' :: rest => ([.flaw], rest)
  | '/' :: c :: rest =>
    if isLetter c then
      match OpenTag.start.read (c :: rest) with
      | some (tag, after) => ([.endTag tag.name], after)
      | none => ([], [])
    else
      let (token, after) := readBogusComment (c :: rest)
      ([token], after)
  | ['/'] => (textRun false "</".toList, [])
  | c :: rest =>
    if isLetter c then
      match OpenTag.start.read (c :: rest) with
      | some (tag, after) => ([.startTag tag], after)
      | none => ([], [])
    else (textRun false "<".toList, c :: rest)
  | [] => (textRun false "<".toList, [])

/-- The next tokens and what is left of the input, which is shorter unless it was empty. Behind a
script the input starts anew, so it may have a byte order mark there. -/
def nextTokens (reading : Reading) (cdata : Bool) (cs : List Char) : List Token × List Char :=
  match reading with
  | .markup =>
    match cs with
    | [] => ([], [])
    | '<' :: rest => readMarkup cdata rest
    | _ =>
      let text := cs.takeWhile (· ≠ '<')
      (textTokens true [] text, cs.drop text.length)
  | .rawText name =>
    let (text, rest) := splitRawText name.toList [] cs
    readRaw (textRun false (text.map replaceNull)) rest
  | .referenceText name =>
    let (text, rest) := splitRawText name.toList [] cs
    readRaw (textRun true (text.map replaceNull)) rest
  | .script =>
    let (text, rest) := splitScript [] .plain 0 0 cs
    let (tokens, after) := readRaw (textRun false (text.map replaceNull)) rest
    (tokens, dropByteOrderMark after)
  | .plainText => (textRun false (cs.map replaceNull), [])

end SymbolMarkup.Html
