import Mathlib.Data.List.Nodup
import Mathlib.Data.List.Perm.Basic
import SymbolMarkup.CommandLine.Run

/-! The parts of what is asked for on a command line. Each settles something of its own, so it makes
no difference in which order they are gathered. -/
namespace SymbolMarkup.CommandLine

abbrev FileName := { text : String // text ≠ "" }

structure Wishes where
  input : Option FileName := none
  output : Option FileName := none
  siblingIndent : Option SiblingIndent := none
  strict : Bool := false
  watch : Bool := false
  intervalMs : Option UInt64 := none

/-- What is left open falls back to the layout of the parent and to half a second. -/
def Wishes.settings (w : Wishes) : Settings where
  input := w.input.map (·.val)
  output := w.output.map (·.val)
  siblingIndent := w.siblingIndent.getD .parent
  strict := w.strict
  watch := w.watch
  intervalMs := (w.intervalMs.map (·.toNat)).getD 500

inductive Part where
  | input (path : FileName)
  | output (path : FileName)
  | siblingIndent (indent : SiblingIndent)
  | strict
  | watch
  | intervalMs (ms : UInt64)
  deriving DecidableEq

def Part.argument : Part → Argument
  | input _ => .slot .input
  | output _ => .slot .output
  | siblingIndent _ => .slot .siblingIndent
  | strict => .flag .strict
  | watch => .flag .watch
  | intervalMs _ => .slot .intervalMs

def Wishes.parts (w : Wishes) : List Part :=
  w.input.toList.map .input ++ w.output.toList.map .output ++
    w.siblingIndent.toList.map .siblingIndent ++ (if w.strict then [.strict] else []) ++
    (if w.watch then [.watch] else []) ++ w.intervalMs.toList.map .intervalMs

/-! ### What a part adds -/

def Gathered.take (g : Gathered) : Part → Gathered
  | .input path => { g with input := some path }
  | .output path => { g with output := some path }
  | .siblingIndent indent => { g with siblingIndent := some indent }
  | .strict => { g with strict := true }
  | .watch => { g with watch := true }
  | .intervalMs ms => { g with intervalMs := some ms.toNat }

def Gathered.settles (g : Gathered) : Argument → Bool
  | .slot slot => g.has slot
  | .flag .strict => g.strict
  | .flag .watch => g.watch
  | .flag _ => false

theorem settles_take (g : Gathered) (part : Part) (other : Argument)
    (apart : part.argument ≠ other) : (g.take part).settles other = g.settles other := by
  cases part <;> rcases other with slot | flag
  all_goals first | cases slot | cases flag
  all_goals first | rfl | exact absurd rfl apart

theorem settles_foldl (parts : List Part) (g : Gathered) (other : Argument)
    (apart : other ∉ parts.map Part.argument) :
    (parts.foldl Gathered.take g).settles other = g.settles other := by
  induction parts generalizing g with
  | nil => rfl
  | cons part rest ih =>
    rw [List.map_cons, List.mem_cons, not_or] at apart
    rw [List.foldl_cons, ih _ apart.2, settles_take g part other (Ne.symm apart.1)]

theorem take_comm (g : Gathered) (a b : Part) (apart : a.argument ≠ b.argument) :
    (g.take a).take b = (g.take b).take a := by
  cases a <;> cases b
  all_goals first | rfl | exact absurd rfl apart

/-! ### Any order -/

theorem nodup_arguments (w : Wishes) : (w.parts.map Part.argument).Nodup := by
  have value {α : Type} (given : Option α) (part : α → Part) (a : Argument)
      (same : ∀ v, (part v).argument = a) :
      ((given.toList.map part).map Part.argument).Sublist [a] := by
    cases given with
    | none => exact List.nil_sublist _
    | some v => simp [same]
  have flag (asked : Bool) (part : Part) :
      ((if asked then [part] else []).map Part.argument).Sublist [part.argument] := by
    cases asked <;> simp
  have all := (((((value w.input .input _ fun _ => rfl).append
    (value w.output .output _ fun _ => rfl)).append
    (value w.siblingIndent .siblingIndent _ fun _ => rfl)).append
    (flag w.strict .strict)).append (flag w.watch .watch)).append
    (value w.intervalMs .intervalMs _ fun _ => rfl)
  simp only [← List.map_append] at all
  exact all.nodup (by decide)

theorem settings_parts (w : Wishes) : (w.parts.foldl Gathered.take {}).settings = w.settings := by
  obtain ⟨input, output, indent, strict, watch, ms⟩ := w
  -- one part after the other, since each doubles the cases
  have first : (input.toList.map Part.input).foldl Gathered.take {} =
      { input := input.map (·.val) } := by
    cases input <;> rfl
  have second (i : Option String) :
      (output.toList.map Part.output).foldl Gathered.take { input := i } =
        { input := i, output := output.map (·.val) } := by
    cases output <;> rfl
  have third (i o : Option String) :
      (indent.toList.map Part.siblingIndent).foldl Gathered.take { input := i, output := o } =
        { input := i, output := o, siblingIndent := indent } := by
    cases indent <;> rfl
  have fourth (i o : Option String) (s : Option SiblingIndent) :
      (if strict then [Part.strict] else []).foldl Gathered.take ⟨i, o, s, none, false, false⟩ =
        ⟨i, o, s, none, strict, false⟩ := by
    cases strict <;> rfl
  have fifth (i o : Option String) (s : Option SiblingIndent) (b : Bool) :
      (if watch then [Part.watch] else []).foldl Gathered.take ⟨i, o, s, none, b, false⟩ =
        ⟨i, o, s, none, b, watch⟩ := by
    cases watch <;> rfl
  have sixth (i o : Option String) (s : Option SiblingIndent) (b c : Bool) :
      (ms.toList.map Part.intervalMs).foldl Gathered.take ⟨i, o, s, none, b, c⟩ =
        ⟨i, o, s, ms.map (·.toNat), b, c⟩ := by
    cases ms <;> rfl
  simp only [Wishes.parts, List.foldl_append, first, second, third, fourth, fifth, sixth]
  rfl

theorem settings_perm (w : Wishes) (parts : List Part) (order : parts.Perm w.parts) :
    (parts.foldl Gathered.take {}).settings = w.settings := by
  have commute : ∀ a ∈ parts, ∀ b ∈ parts, ∀ g : Gathered,
      (g.take a).take b = (g.take b).take a := by
    intro a ha b hb g
    by_cases same : a.argument = b.argument
    · have once := List.inj_on_of_nodup_map (nodup_arguments w) (order.mem_iff.mp ha)
        (order.mem_iff.mp hb) same
      rw [once]
    · exact take_comm g a b same
  rw [order.foldl_eq' commute, settings_parts]

end SymbolMarkup.CommandLine
