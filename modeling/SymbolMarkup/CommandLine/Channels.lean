import SymbolMarkup.CommandLine.Settings

/-! What a run reads, and where its text goes. Besides what the disk tells, an output may refuse a
text for reasons of its own: a full device, a missing permission, a pipe that nobody reads. -/
namespace SymbolMarkup.CommandLine

inductive RunError where
  | read (path : String) (fault : Fault)
  | standardInput (fault : Fault)
  | write (path : String) (fault : Fault)
  | standardOutput (fault : Fault)
  | watchNeedsFile
  | conversion (failure : Failure)
  deriving DecidableEq, Repr

namespace RunError

def message : RunError → String
  | read path fault => s!"failed to read {path}: {fault.message}"
  | standardInput fault => s!"failed to read stdin: {fault.message}"
  | write path fault => s!"failed to write {path}: {fault.message}"
  | standardOutput fault => s!"failed to write stdout: {fault.message}"
  | watchNeedsFile => "--watch requires an input file"
  | conversion failure => failure.message

def reading : Option String → Fault → RunError
  | some path => read path
  | none => standardInput

def writing : Option String → Fault → RunError
  | some path => write path
  | none => standardOutput

end RunError

structure World where
  disk : Disk
  standardInput : ByteArray

def readFile (d : Disk) (path : String) : Except RunError String :=
  ((d.read path).bind decodeText).mapError (.reading (some path))

def readInput (s : Settings) (w : World) : Except RunError String :=
  match s.inputPath with
  | some path => readFile w.disk path
  | none => (decodeText w.standardInput).mapError (.reading none)

def delivered (output : String) : String := output ++ "\n"

/-- Delivers a text: the disk that results, and what is printed. `refusal` is the reason of its own
that the output has at the moment, if it has one. -/
def deliver (output : Option String) (d : Disk) (refusal : Option Fault) (text : String) :
    Except RunError (Disk × String) :=
  let written : Except Fault (Disk × String) := match output with
    | some path => (d.write path text.toUTF8).map fun after => (after, "")
    | none => .ok (d, text)
  match written, refusal with
  | .ok both, none => .ok both
  | .ok _, some fault | .error fault, _ => .error (.writing output fault)

end SymbolMarkup.CommandLine
