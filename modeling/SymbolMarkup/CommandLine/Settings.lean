import SymbolMarkup.CommandLine.Disk
import SymbolMarkup.Render

/-! What a command line can ask for. -/
namespace SymbolMarkup.CommandLine

structure Settings where
  input : Option String := none
  output : Option String := none
  siblingIndent : SiblingIndent := .parent
  strict : Bool := false
  watch : Bool := false
  intervalMs : Nat := 500
  deriving DecidableEq, Repr

/-- A dash means the standard input, also with slashes behind it. -/
def namesStandardInput (path : String) : Bool :=
  match pathParts path with
  | "-" :: rest => rest.all fun part => part == "" || part == "."
  | _ => false

namespace Settings

def options (s : Settings) : Options :=
  ⟨s.siblingIndent, if s.strict then .error else .skip⟩

def inputPath (s : Settings) : Option String := s.input.filter fun path => !namesStandardInput path

end Settings

inductive Request where
  | help (long : Bool)
  | version
  | run (settings : Settings)
  deriving DecidableEq, Repr

end SymbolMarkup.CommandLine
