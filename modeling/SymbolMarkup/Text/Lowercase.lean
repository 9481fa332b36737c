import SymbolMarkup.Text.CaseTable

/-! Lowercase text by the full Unicode rules that depend on no language.
A character has one lowercase form, with two exceptions: the dotted capital I gives two characters,
and a capital sigma at the end of a word gives the final form of the letter. -/
namespace SymbolMarkup.Text

def asciiLower (c : Char) : Char :=
  if 'A' ≤ c ∧ c ≤ 'Z' then Char.ofNat (c.toNat + 32) else c

def LowerRun.apply? (r : LowerRun) (n : Nat) : Option Nat :=
  if r.first ≤ n ∧ n ≤ r.last ∧ (n - r.first) % r.stride = 0 then some (r.lower + (n - r.first))
  else none

def lowerChar (c : Char) : List Char :=
  if c.toNat < 128 then [asciiLower c]
  else if c = '\u0130' then ['i', '\u0307']
  else match lowerRuns.findSome? fun r => r.apply? c.toNat with
    | some n => [Char.ofNat n]
    | none => [c]

def startsCased (cs : List Char) : Bool :=
  match cs.dropWhile isCaseIgnorable with
  | [] => false
  | c :: _ => isCased c

/-- `inWord` tells that the last character so far that is not case-ignorable is cased.
A capital sigma is final when it ends such a word. -/
def lowerFrom (inWord : Bool) : List Char → List Char
  | [] => []
  | c :: rest =>
    let lowered :=
      if c = 'Σ' then [if inWord && !startsCased rest then 'ς' else 'σ'] else lowerChar c
    lowered ++ lowerFrom (if isCaseIgnorable c then inWord else isCased c) rest

def lowercase (s : String) : String := String.ofList (lowerFrom false s.toList)

end SymbolMarkup.Text
