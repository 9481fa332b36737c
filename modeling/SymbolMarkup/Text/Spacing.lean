/-! Blanks at the ends of a text, spaces within it, and its lines.
Blank means the Unicode property `White_Space`, twenty-five characters in all. Trimming never
touches inner blanks. The normal form, for text that has to stay on one line, makes newlines spaces
and then shrinks runs of spaces to one; tabs, carriage returns and every other blank stay. -/
namespace SymbolMarkup.Text

def isBlank (c : Char) : Bool :=
  ('\t' ≤ c && c ≤ '\r') || c == ' ' || c == '\u0085' || c == '\u00a0' || c == '\u1680' ||
  ('\u2000' ≤ c && c ≤ '\u200a') || c == '\u2028' || c == '\u2029' || c == '\u202f' ||
  c == '\u205f' || c == '\u3000'

def dropLeadingBlanks (cs : List Char) : List Char := cs.dropWhile isBlank

def dropTrailingBlanks (cs : List Char) : List Char := (cs.reverse.dropWhile isBlank).reverse

def trim (s : String) : String :=
  String.ofList (dropTrailingBlanks (dropLeadingBlanks s.toList))

def joinLines (cs : List Char) : List Char := cs.map fun c => if c = '\n' then ' ' else c

def squeezeSpaces : List Char → List Char
  | [] => []
  | [c] => [c]
  | c :: d :: rest =>
    if c = ' ' ∧ d = ' ' then squeezeSpaces (d :: rest) else c :: squeezeSpaces (d :: rest)

def normalize (s : String) : String := String.ofList (squeezeSpaces (joinLines s.toList))

/-- The parts between the marks. There is one more of them than there are marks, so parts may be
empty. -/
def split (mark : Char) : List Char → List (List Char)
  | [] => [[]]
  | c :: rest =>
    match c == mark, split mark rest with
    | true, parts => [] :: parts
    | false, part :: parts => (c :: part) :: parts
    | false, [] => [[c]]

def dropReturn (line : List Char) : List Char :=
  if line.getLast? = some '\r' then line.dropLast else line

def lines (text : String) : List String :=
  (split '\n' text.toList).map fun line => String.ofList (dropReturn line)

end SymbolMarkup.Text
