/-! A text without what only steers a terminal: escape sequences and control characters.
Blanks are kept. One that stands inside a sequence suspends it, and what follows counts as text up
to the next control character, where the sequence goes on. -/
namespace SymbolMarkup.CommandLine.Terminal

inductive Sequence where
  | outside
  | opened
  | designation
  | control
  | title
  | device
  | message
  deriving DecidableEq, Repr

def isBlankControl (c : Char) : Bool := c == '\t' || c == '\n' || c == '\x0c' || c == '\r'

def isText (c : Char) : Bool := isBlankControl c || (' ' ≤ c && c != '\x7f')

/-- The string terminator is the byte 9C, also where it is part of a longer character. -/
def holdsTerminator (c : Char) : Bool := (String.utf8EncodeChar c).contains 0x9c

namespace Sequence

def after (s : Sequence) (c : Char) : Sequence :=
  if c = '\x1b' then opened
  else if c = '\x18' ∨ c = '\x1a' then outside
  else match s with
  | outside => outside
  | opened =>
    if ' ' ≤ c ∧ c ≤ '/' then designation
    else if c = '[' then control
    else if c = ']' then title
    else if c = 'P' then device
    else if c = 'X' ∨ c = '^' ∨ c = '_' then message
    else if '0' ≤ c ∧ c ≤ '~' then outside
    else opened
  | designation => if '0' ≤ c ∧ c ≤ '~' then outside else designation
  | control => if '@' ≤ c ∧ c ≤ '~' then outside else control
  | title => if c = '\x07' then outside else title
  | device => if '@' ≤ c ∧ c ≤ '~' then message else device
  | message => if holdsTerminator c then outside else message

def keeps (s : Sequence) (c : Char) : Bool :=
  match s with
  | outside => isText c
  | opened | designation | control => isBlankControl c
  | title | device | message => false

end Sequence

/-- The characters that are kept. `inText` tells that the last one was; a character beyond ASCII in
the text ends a sequence that was suspended. -/
def keptFrom (inText : Bool) (s : Sequence) : List Char → List Char
  | [] => []
  | c :: rest =>
    if inText && isText c then
      c :: keptFrom true (if c ≤ '~' then s else .outside) rest
    else if s.keeps c then c :: keptFrom true (s.after c) rest
    else keptFrom false (s.after c) rest

def plain (text : String) : String := String.ofList (keptFrom false .outside text.toList)

end SymbolMarkup.CommandLine.Terminal
