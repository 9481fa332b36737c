import SymbolMarkup.Html.Token
import SymbolMarkup.Html.Token.TagText

/-! Comments, character data sections and document type declarations: everything that an
exclamation mark opens. -/
namespace SymbolMarkup.Html

def startsWithWord (word : List Char) (cs : List Char) : Bool :=
  (cs.take word.length).map Text.asciiLower == word

def splitAtMark? (mark done : List Char) : List Char → Option (List Char × List Char)
  | [] => none
  | c :: rest =>
    if mark.isPrefixOf (c :: rest) then some (done.reverse, (c :: rest).drop mark.length)
    else splitAtMark? mark (c :: done) rest

/-- A comment that the input cuts off loses the part of a closing mark that was there. -/
def dropOpenEnd (cs : List Char) : List Char :=
  if "--!".toList.isSuffixOf cs then cs.take (cs.length - 3)
  else if "--".toList.isSuffixOf cs then cs.take (cs.length - 2)
  else if "-".toList.isSuffixOf cs then cs.take (cs.length - 1)
  else cs

def splitComment? (done : List Char) : List Char → Option (List Char × List Char)
  | [] => none
  | c :: rest =>
    if "-->".toList.isPrefixOf (c :: rest) then some (done.reverse, (c :: rest).drop 3)
    else if "--!>".toList.isPrefixOf (c :: rest) then some (done.reverse, (c :: rest).drop 4)
    else splitComment? (c :: done) rest

def commentToken (content : List Char) : Token :=
  .comment (String.ofList (content.map replaceNull))

def readComment (cs : List Char) : Token × List Char :=
  if ">".toList.isPrefixOf cs then (commentToken [], cs.drop 1)
  else if "->".toList.isPrefixOf cs then (commentToken [], cs.drop 2)
  else match splitComment? [] cs with
    | some (content, rest) => (commentToken content, rest)
    | none => (commentToken (dropOpenEnd cs), [])

def readBogusComment (cs : List Char) : Token × List Char :=
  let content := cs.takeWhile (· ≠ '>')
  (commentToken content, cs.drop (content.length + 1))

/-- A run of text, with its references replaced if there can be any. An open reference in front is
a flaw that comes before its text. -/
def textRun (references : Bool) (cs : List Char) : List Token :=
  if cs.isEmpty then []
  else if references then
    let run : List Token := [.text (expand false cs)]
    if startsWithOpenReference cs then .flaw :: run else run
  else [.text cs]

def textTokens (references : Bool) (part : List Char) : List Char → List Token
  | [] => textRun references part.reverse
  | c :: rest =>
    if c = '\x00' then textRun references part.reverse ++ .null :: textTokens references [] rest
    else textTokens references (c :: part) rest

namespace Doctype

def skipSpace (cs : List Char) : List Char := cs.dropWhile isSpace

def quoted? (cs : List Char) : Option (String × Option (List Char)) :=
  match cs with
  | c :: rest =>
    if c = '"' ∨ c = '\'' then
      let body := rest.takeWhile (· ≠ c)
      let shown := String.ofList (body.map replaceNull)
      some (shown, if body.length < rest.length then some (rest.drop (body.length + 1)) else none)
    else none
  | [] => none

def withSystemId (d : Doctype) (cs : List Char) : Doctype :=
  match quoted? (skipSpace cs) with
  | some (id, some _) => { d with systemId := some id }
  | some (id, none) => { d with systemId := some id, broken := true }
  | none => { d with broken := true }

def withPublicId (d : Doctype) (cs : List Char) : Doctype :=
  match quoted? (skipSpace cs) with
  | some (id, some rest) =>
    let named := { d with publicId := some id }
    if (skipSpace rest).isEmpty then named else named.withSystemId rest
  | some (id, none) => { d with publicId := some id, broken := true }
  | none => { d with broken := true }

def ofText (cs : List Char) : Doctype :=
  let body := skipSpace cs
  let name := body.takeWhile fun c => !isSpace c
  let rest := skipSpace (body.drop name.length)
  let shown := String.ofList (name.map fun c => Text.asciiLower (replaceNull c))
  if name.isEmpty then ⟨none, none, none, true⟩
  else
    let named : Doctype := ⟨some shown, none, none, false⟩
    if rest.isEmpty then named
    else if startsWithWord "public".toList rest then named.withPublicId (rest.drop 6)
    else if startsWithWord "system".toList rest then named.withSystemId (rest.drop 6)
    else { named with broken := true }

end Doctype

def readDeclaration (cdata : Bool) (cs : List Char) : List Token × List Char :=
  if "--".toList.isPrefixOf cs then
    let (token, rest) := readComment (cs.drop 2)
    ([token], rest)
  else if startsWithWord "doctype".toList cs then
    let text := (cs.drop 7).takeWhile (· ≠ '>')
    ([.doctype (Doctype.ofText text)], cs.drop (7 + text.length + 1))
  else if cdata && "[CDATA[".toList.isPrefixOf cs then
    let (text, rest) := (splitAtMark? "]]>".toList [] (cs.drop 7)).getD (cs.drop 7, [])
    (textTokens false [] text, rest)
  else
    let (token, rest) := readBogusComment cs
    ([token], rest)

end SymbolMarkup.Html
