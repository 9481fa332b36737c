import SymbolMarkup.CommandLine.Arguments
import SymbolMarkup.CommandLine.Watch

/-! A run of the command line. Reading comes first, then converting, then writing, so a run that
fails leaves nothing behind. -/
namespace SymbolMarkup.CommandLine

structure Report where
  error : Option RunError
  events : List Event
  standardOutput : String
  disk : Disk

def Report.exitCode (r : Report) : Nat := if r.error.isNone then 0 else 1

def Report.lines (r : Report) : List String :=
  let texts := r.events.filterMap Event.warning? ++ r.error.toList.map fun e =>
    "error: " ++ e.message
  texts.flatMap Text.lines

def convertOnce (s : Settings) (w : World) (refusal : Option Fault) : Report :=
  let failed (e : RunError) (events : List Event) : Report := ⟨some e, events, "", w.disk⟩
  match readInput s w with
  | .error e => failed e []
  | .ok html =>
    let t := convert s.options html
    match t.result with
    | .error f => failed (.conversion f) t.events
    | .ok output =>
      match deliver s.output w.disk refusal (delivered output) with
      | .error e => failed e t.events
      | .ok (disk, printed) => ⟨none, t.events, printed, disk⟩

inductive Outcome where
  | finished (r : Report)
  | watching (w : Watching)

def startWatch (s : Settings) (w : World) (refusal : Option Fault) : Outcome :=
  let failed (e : RunError) (events : List Event) : Outcome :=
    .finished ⟨some e, events, "", w.disk⟩
  match s.inputPath with
  | none => failed .watchNeedsFile []
  | some path =>
    match readFile w.disk path with
    | .error e => failed e []
    | .ok html =>
      let (live, events) := Live.start s.options html
      let text := delivered live.output
      match deliver s.output w.disk refusal text with
      | .error e => failed e events
      | .ok (disk, printed) => .watching ⟨s, path, live, disk, refusal, printed, [⟨text, none⟩]⟩

def runSettings (s : Settings) (w : World) (refusal : Option Fault) : Outcome :=
  if s.watch then startWatch s w refusal else .finished (convertOnce s w refusal)

/-- A run with its arguments. An explanation that is refused is lost without an error. -/
def run (arguments : List String) (w : World) (refusal : Option Fault := none) :
    Except UsageError Outcome :=
  let explained (text : String) : Outcome :=
    .finished ⟨none, [], if refusal.isNone then text else "", w.disk⟩
  (readArguments arguments).map fun
    | .help long => explained (helpText long)
    | .version => explained versionText
    | .run settings => runSettings settings w refusal

end SymbolMarkup.CommandLine
