/-! The events a computation reports beside its answer, and computations that report them.
A computation that fails keeps the events it reported before. -/
namespace SymbolMarkup

inductive Event where
  | skipped (kind : String)
  | converted (nodes outputBytes : Nat)
  | recomputed (inputBytes outputBytes : Nat)
  | liveFailed (message : String)
  deriving DecidableEq, Repr

inductive Level where
  | debug
  | warn
  deriving DecidableEq, Repr

namespace Event

def level : Event → Level
  | skipped _ | liveFailed _ => .warn
  | converted .. | recomputed .. => .debug

def message : Event → String
  | skipped _ => "skipping unsupported node"
  | converted .. => "HTML converted to symbol DSL"
  | recomputed .. => "live output recomputed"
  | liveFailed _ => "live conversion failed"

/-- The line that stands for a warning in the log; nothing below that level has one. -/
def warning? : Event → Option String
  | e@(skipped kind) => some s!"WARN symbol_dsl_core::serialize: {e.message} kind={kind}"
  | e@(liveFailed error) => some s!"WARN symbol_dsl::live: {e.message} error={error}"
  | converted .. | recomputed .. => none

end Event

structure Traced (ε α : Type) where
  events : List Event
  result : Except ε α

namespace Traced

variable {ε α β : Type}

def bind (first : Traced ε α) (next : α → Traced ε β) : Traced ε β :=
  match first.result with
  | .error e => ⟨first.events, .error e⟩
  | .ok a => ⟨first.events ++ (next a).events, (next a).result⟩

instance : Monad (Traced ε) where
  pure a := ⟨[], .ok a⟩
  bind := bind

def report (e : Event) : Traced ε Unit := ⟨[e], .ok ()⟩

def fail (e : ε) : Traced ε α := ⟨[], .error e⟩

def ofExcept (r : Except ε α) : Traced ε α := ⟨[], r⟩

end Traced

end SymbolMarkup
