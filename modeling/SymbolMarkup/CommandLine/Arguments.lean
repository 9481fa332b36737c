import SymbolMarkup.CommandLine.Settings
import SymbolMarkup.CommandLine.Usage

/-! Reading a command line from left to right.
A value that stands apart from its name is only looked at when the next known argument comes, or at
the end; an unknown argument in between is reported first. Help and version end the reading. -/
namespace SymbolMarkup.CommandLine

def maxInterval : Nat := 18446744073709551615

/-- Reads decimal digits; the first thing wrong from the left is what is reported. -/
def readDigits (value : Nat) : List Char → Except NumberFault Nat
  | [] => .ok value
  | c :: rest =>
    if '0' ≤ c ∧ c ≤ '9' then
      let next := value * 10 + (c.toNat - 48)
      if next ≤ maxInterval then readDigits next rest else .error .tooLarge
    else .error .invalidDigit

def readNumber (text : String) : Except NumberFault Nat :=
  match text.toList with
  | [] => .error .empty
  | ['+'] => .error .invalidDigit
  | '+' :: digits => readDigits 0 digits
  | digits => readDigits 0 digits

structure Gathered where
  input : Option String := none
  output : Option String := none
  siblingIndent : Option SiblingIndent := none
  intervalMs : Option Nat := none
  strict : Bool := false
  watch : Bool := false

namespace Gathered

def has (g : Gathered) : Slot → Bool
  | .input => g.input.isSome
  | .output => g.output.isSome
  | .siblingIndent => g.siblingIndent.isSome
  | .intervalMs => g.intervalMs.isSome

def assign (g : Gathered) (slot : Slot) (value : Option String) : Except UsageError Gathered :=
  match value with
  | none => .error (.missingValue slot)
  | some v =>
    if g.has slot then .error (.repeated (.slot slot))
    else match slot with
      | .input =>
        if v.isEmpty then .error (.missingValue slot) else .ok { g with input := some v }
      | .output =>
        if v.isEmpty then .error (.missingValue slot) else .ok { g with output := some v }
      | .siblingIndent =>
        if v.isEmpty then .error (.missingValue slot)
        else if v = "parent" then .ok { g with siblingIndent := some .parent }
        else if v = "child" then .ok { g with siblingIndent := some .child }
        else .error (.invalidSiblingIndent v)
      | .intervalMs =>
        match readNumber v with
        | .ok n => .ok { g with intervalMs := some n }
        | .error fault => .error (.invalidInterval v fault)

def settings (g : Gathered) : Settings where
  input := g.input
  output := g.output
  siblingIndent := g.siblingIndent.getD .parent
  strict := g.strict
  watch := g.watch
  intervalMs := g.intervalMs.getD 500

end Gathered

structure Progress where
  gathered : Gathered := {}
  /-- An argument whose value is not settled yet, with the value if it has been seen. -/
  pending : Option (Slot × Option String) := none
  onlyInputs : Bool := false

namespace Progress

def resolve (p : Progress) : Except UsageError Progress :=
  match p.pending with
  | none => .ok p
  | some (slot, value) =>
    (p.gathered.assign slot value).map fun gathered => { p with gathered, pending := none }

def hasInput (p : Progress) : Bool := p.gathered.has .input || p.pending.any (·.1 == .input)

def addInput (p : Progress) (text : String) : Except UsageError Progress :=
  if p.hasInput then .error (.unexpected text)
  else p.resolve.map fun p => { p with pending := some (.input, some text) }

def addPlain (p : Progress) (text : String) : Except UsageError Progress :=
  match p.pending with
  | some (slot, none) => .ok { p with pending := some (slot, some text) }
  | _ => p.addInput text

def addValue (p : Progress) (slot : Slot) (attached : Option String) :
    Except UsageError Progress := do
  let p ← p.resolve
  match attached with
  | none => pure { p with pending := some (slot, none) }
  | some v => pure { p with gathered := ← p.gathered.assign slot (some v) }

def addFlag (p : Progress) (flag : Flag) (already : Bool) (g : Gathered) :
    Except UsageError Progress :=
  if already then .error (.repeated (.flag flag)) else .ok { p with gathered := g }

end Progress

inductive Spelling where
  | plain
  | separator
  | long (name : String) (attached : Option String)
  | short (name : Char) (attached : Option String)
  deriving DecidableEq, Repr

def splitValue (cs : List Char) : String × Option String :=
  let name := cs.takeWhile (· ≠ '=')
  let attached := match cs.drop name.length with
    | [] => none
    | _ :: value => some (String.ofList value)
  (String.ofList name, attached)

def spelling (argument : String) : Spelling :=
  match argument.toList with
  | ['-', '-'] => .separator
  | '-' :: '-' :: rest =>
    let (name, attached) := splitValue rest
    .long name attached
  | '-' :: c :: rest =>
    let attached := match rest with
      | [] => none
      | '=' :: value => some (String.ofList value)
      | value => some (String.ofList value)
    .short c attached
  | _ => .plain

inductive Turn where
  | proceed (p : Progress)
  | answer (r : Request)

/-- Takes a flag. Those that only ask for a text answer at once. -/
def takeFlag (p : Progress) (flag : Flag) (long : Bool) : Except UsageError Turn := do
  let p ← p.resolve
  match flag with
  | .help => pure (.answer (.help long))
  | .version => pure (.answer .version)
  | .strict =>
    .proceed <$> p.addFlag flag p.gathered.strict { p.gathered with strict := true }
  | .watch => .proceed <$> p.addFlag flag p.gathered.watch { p.gathered with watch := true }

def takeArgument (p : Progress) (text : String) : Except UsageError Turn :=
  if p.onlyInputs then .proceed <$> p.addInput text
  else match spelling text with
    | .separator => .ok (.proceed { p with onlyInputs := true })
    | .plain => .proceed <$> p.addPlain text
    | .long name attached =>
      match Argument.ofLongName? name, attached with
      | none, _ => .error (.unexpected ("--" ++ name))
      | some (.slot slot), attached => .proceed <$> p.addValue slot attached
      | some (.flag flag), some value => .error (.unneededValue flag value)
      | some (.flag flag), none => takeFlag p flag true
    | .short name attached =>
      match Argument.ofShortName? name with
      | none => .error (.unexpected (String.ofList ['-', name]))
      | some (.slot slot) => .proceed <$> p.addValue slot attached
      | some (.flag flag) => takeFlag p flag false

def readFrom (p : Progress) : List String → Except UsageError Request
  | [] => p.resolve.map fun p => .run p.gathered.settings
  | text :: rest =>
    match takeArgument p text with
    | .error e => .error e
    | .ok (.answer r) => .ok r
    | .ok (.proceed next) => readFrom next rest

def readArguments (arguments : List String) : Except UsageError Request := readFrom {} arguments

end SymbolMarkup.CommandLine
