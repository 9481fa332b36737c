import SymbolMarkup.Body

/-! A view that follows a text under edit. Every update converts the whole text anew, and a failure
shows as a line of the view instead of ending it. -/
namespace SymbolMarkup

def liveOutput (o : Options) (input : String) : String × List Event :=
  let t := convert o input
  match t.result with
  | .ok output =>
    (output, t.events ++ [.recomputed input.utf8ByteSize output.utf8ByteSize])
  | .error failure =>
    ("// error: " ++ failure.message, t.events ++ [.liveFailed failure.message])

structure Live where
  options : Options
  input : String
  output : String
  deriving DecidableEq, Repr

namespace Live

def start (o : Options) (input : String) : Live × List Event :=
  let (output, events) := liveOutput o input
  (⟨o, input, output⟩, events)

structure Update where
  live : Live
  changed : Bool
  events : List Event

def update (l : Live) (input : String) : Update :=
  let (output, events) := liveOutput l.options input
  ⟨{ l with input, output }, output ≠ l.output, events⟩

inductive Step where
  | update (input : String)
  | save
  | restore
  deriving DecidableEq, Repr

structure Session where
  live : Live
  kept : Live
  deriving DecidableEq, Repr

/-- Until something is saved, the view at the start is what is kept. -/
def Session.start (o : Options) (input : String) : Session :=
  let live := (Live.start o input).1
  ⟨live, live⟩

structure Session.Result where
  session : Session
  changed : Option Bool
  events : List Event

def Session.apply (s : Session) : Step → Session.Result
  | .update input =>
    let u := s.live.update input
    ⟨{ s with live := u.live }, some u.changed, u.events⟩
  | .save => ⟨{ s with kept := s.live }, none, []⟩
  | .restore => ⟨{ s with live := s.kept }, none, []⟩

end Live

end SymbolMarkup
