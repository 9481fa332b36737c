import SymbolMarkup.CommandLine.Channels
import SymbolMarkup.Live

/-! Watching a file: looking at it again and again, and writing the output when it has changed.
A look may fail and a write may fail; neither ends the watch. -/
namespace SymbolMarkup.CommandLine

structure Refresh where
  live : Live
  delivery : Option String
  events : List Event

/-- Takes in a look at the input; `none` if it could not be read. Content that has not changed is
not converted again. -/
def refresh (l : Live) (content : Option String) : Refresh :=
  match content with
  | none => ⟨l, none, []⟩
  | some c =>
    if c = l.input then ⟨l, none, []⟩
    else
      let u := l.update c
      ⟨u.live, if u.changed then some (delivered u.live.output) else none, u.events⟩

structure Attempt where
  text : String
  error : Option RunError
  deriving DecidableEq, Repr

/-- A watch that has written its first output and goes on. The disk and the refusal are those of the
moment. -/
structure Watching where
  settings : Settings
  path : String
  live : Live
  disk : Disk
  refusal : Option Fault
  printed : String
  attempts : List Attempt

namespace Watching

def write (w : Watching) (text : String) : Watching :=
  match deliver w.settings.output w.disk w.refusal text with
  | .error e => { w with attempts := w.attempts ++ [⟨text, some e⟩] }
  | .ok (disk, printed) =>
    { w with disk, printed := w.printed ++ printed, attempts := w.attempts ++ [⟨text, none⟩] }

def poll (w : Watching) : Watching :=
  let r := refresh w.live (readFile w.disk w.path).toOption
  let seen := { w with live := r.live }
  match r.delivery with
  | none => seen
  | some text => seen.write text

end Watching

end SymbolMarkup.CommandLine
