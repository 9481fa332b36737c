import SymbolMarkup.Html.Token.ReferenceTable

/-! Character references and the text they stand for.
A name is matched as far as it goes, a few names without their semicolon. In an attribute value a
name without semicolon counts only if neither a letter, a digit nor an equals sign follows. Whatever
matches nothing stays as it is written. -/
namespace SymbolMarkup.Html

/-- A reference found behind an ampersand: what it stands for, how many characters it takes up after
the ampersand, and whether a semicolon closes it. -/
structure Reference where
  text : List Char
  length : Nat
  closed : Bool
  deriving DecidableEq, Repr

namespace Reference

def isAsciiAlphanumeric (c : Char) : Bool :=
  ('a' ≤ c && c ≤ 'z') || ('A' ≤ c && c ≤ 'Z') || ('0' ≤ c && c ≤ '9')

def ofClosedName? (name : String) : Option (List Char) :=
  match (legacyNames.lookup name).or (strictNames.lookup name) with
  | some code => some [Char.ofNat code]
  | none => (doubleNames.lookup name).map fun codes => [Char.ofNat codes.1, Char.ofNat codes.2]

def longestOpenName? (cs : List Char) : Option (String × Nat) :=
  legacyNames.foldl (fun best entry =>
    if entry.1.toList.isPrefixOf cs && (best.all fun b => b.1.length < entry.1.length)
    then some entry else best) none

def named? (inAttribute : Bool) (cs : List Char) : Option Reference :=
  let word := cs.takeWhile isAsciiAlphanumeric
  let closed := if cs[word.length]? = some ';' then ofClosedName? (String.ofList word) else none
  match closed with
  | some text => some ⟨text, word.length + 1, true⟩
  | none =>
    match longestOpenName? word with
    | none => none
    | some (name, code) =>
      let continued := (cs[name.length]?).any fun c => c == '=' || isAsciiAlphanumeric c
      if inAttribute && continued then none
      else some ⟨[Char.ofNat code], name.length, false⟩

def hexValue? (c : Char) : Option Nat :=
  if '0' ≤ c ∧ c ≤ '9' then some (c.toNat - 48)
  else if 'a' ≤ c ∧ c ≤ 'f' then some (c.toNat - 87)
  else if 'A' ≤ c ∧ c ≤ 'F' then some (c.toNat - 55)
  else none

def digitValue? (base : Nat) (c : Char) : Option Nat := (hexValue? c).filter (· < base)

def controlReplacements : List (Nat × Char) :=
  [(0x80, '€'), (0x82, '‚'), (0x83, 'ƒ'), (0x84, '„'), (0x85, '…'), (0x86, '†'), (0x87, '‡'),
    (0x88, 'ˆ'), (0x89, '‰'), (0x8a, 'Š'), (0x8b, '‹'), (0x8c, 'Œ'), (0x8e, 'Ž'), (0x91, '‘'),
    (0x92, '’'), (0x93, '“'), (0x94, '”'), (0x95, '•'), (0x96, '–'), (0x97, '—'), (0x98, '˜'),
    (0x99, '™'), (0x9a, 'š'), (0x9b, '›'), (0x9c, 'œ'), (0x9e, 'ž'), (0x9f, 'Ÿ')]

def replacement : Char := '\ufffd'

def ofCode (n : Nat) : Char :=
  if n = 0 ∨ n > 0x10ffff ∨ (0xd800 ≤ n ∧ n ≤ 0xdfff) then replacement
  else (controlReplacements.lookup n).getD (Char.ofNat n)

def numeric? (cs : List Char) : Option Reference :=
  let (base, marks) : Nat × Nat := match cs with
    | 'x' :: _ | 'X' :: _ => (16, 1)
    | _ => (10, 0)
  let digits := (cs.drop marks).takeWhile fun c => (digitValue? base c).isSome
  if digits.isEmpty then none
  else
    let value := digits.foldl (fun n c => n * base + (digitValue? base c).getD 0) 0
    let closed := cs[marks + digits.length]? = some ';'
    some ⟨[ofCode value], marks + digits.length + (if closed then 1 else 0), closed⟩

def find? (inAttribute : Bool) (cs : List Char) : Option Reference :=
  match cs with
  | '#' :: rest => (numeric? rest).map fun r => { r with length := r.length + 1 }
  | _ => named? inAttribute cs

end Reference

/-- Replaces the references in a text. `skip` counts the characters that belong to a reference
already replaced; what is done so far is held in reverse. -/
def expandFrom (inAttribute : Bool) (done : List Char) : Nat → List Char → List Char
  | _, [] => done.reverse
  | skip + 1, _ :: rest => expandFrom inAttribute done skip rest
  | 0, c :: rest =>
    if c = '&' then
      match Reference.find? inAttribute rest with
      | none => expandFrom inAttribute (c :: done) 0 rest
      | some r => expandFrom inAttribute (r.text.reverse ++ done) r.length rest
    else expandFrom inAttribute (c :: done) 0 rest

def expand (inAttribute : Bool) (cs : List Char) : List Char := expandFrom inAttribute [] 0 cs

def startsWithOpenReference (cs : List Char) : Bool :=
  match cs with
  | '&' :: rest => (Reference.find? false rest).any fun r => !r.closed
  | _ => false

end SymbolMarkup.Html
