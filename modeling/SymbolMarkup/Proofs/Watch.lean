import SymbolMarkup.CommandLine.Watch
import SymbolMarkup.Proofs.Live
import Mathlib.Data.List.Destutter

/-! What a watch tries to write, and what the output then holds. A look either finds nothing new or
is a trial: a rendering that differs from the one before. The view moves on with each trial whether
or not it can be written, so the output follows the trials that succeed and the view follows all.
Here a watch has no disk: a look is told what can be read and whether a write would succeed. -/
namespace SymbolMarkup.CommandLine

structure Poll where
  content : Option String
  writable : Bool
  deriving DecidableEq, Repr

/-- The view, the texts that there were attempts to write, and what the output holds. -/
structure Watch where
  live : Live
  attempts : List String
  shown : String
  deriving DecidableEq, Repr

namespace Watch

def start (o : Options) (content : String) : Watch :=
  let live := (Live.start o content).1
  let text := delivered live.output
  ⟨live, [text], text⟩

/-- A write that fails leaves the output as it was. -/
def poll (w : Watch) (p : Poll) : Watch :=
  let r := refresh w.live p.content
  match r.delivery with
  | none => { w with live := r.live }
  | some text =>
    ⟨r.live, w.attempts ++ [text], if p.writable then text else w.shown⟩

def run (o : Options) (content : String) (polls : List Poll) : Watch :=
  polls.foldl poll (start o content)

end Watch

structure Trial where
  text : String
  succeeds : Bool
  deriving DecidableEq, Repr

def looks (o : Options) (polls : List Poll) : List Trial :=
  polls.filterMap fun p => p.content.map fun content => ⟨rendered o content, p.writable⟩

/-- The looks that find another rendering than the look before. -/
def trials (before : String) : List Trial → List Trial
  | [] => []
  | t :: rest => if t.text = before then trials before rest else t :: trials t.text rest

def lastRead (first : String) (polls : List Poll) : String :=
  (polls.filterMap Poll.content).getLastD first

def lastWritten (first : String) (tried : List Trial) : String :=
  ((tried.filter Trial.succeeds).map Trial.text).getLastD first

@[simp] theorem looks_unread (o : Options) (writable : Bool) (polls : List Poll) :
    looks o (⟨none, writable⟩ :: polls) = looks o polls := rfl

@[simp] theorem looks_read (o : Options) (content : String) (writable : Bool)
    (polls : List Poll) :
    looks o (⟨some content, writable⟩ :: polls) =
      ⟨rendered o content, writable⟩ :: looks o polls := rfl

@[simp] theorem lastRead_unread (first : String) (writable : Bool) (polls : List Poll) :
    lastRead first (⟨none, writable⟩ :: polls) = lastRead first polls := rfl

@[simp] theorem lastRead_read (first content : String) (writable : Bool) (polls : List Poll) :
    lastRead first (⟨some content, writable⟩ :: polls) = lastRead content polls :=
  List.getLastD_cons ..

@[simp] theorem lastWritten_failed (first text : String) (tried : List Trial) :
    lastWritten first (⟨text, false⟩ :: tried) = lastWritten first tried := rfl

@[simp] theorem lastWritten_succeeded (first text : String) (tried : List Trial) :
    lastWritten first (⟨text, true⟩ :: tried) = lastWritten text tried :=
  List.getLastD_cons ..

theorem refresh_of (o : Options) (input content : String) :
    (refresh (Live.of o input) (some content)).live = Live.of o content ∧
      (refresh (Live.of o input) (some content)).delivery =
        if rendered o content = rendered o input then none
        else some (delivered (rendered o content)) := by
  unfold refresh
  by_cases same : content = input
  · subst same
    simp only [Live.of_input, if_true, and_self]
  · have moved := update_changed (Live.of o input) content
    simp only [Live.of_input, if_neg same, update_live, Live.of_options, Live.of_output] at moved ⊢
    refine ⟨trivial, ?_⟩
    by_cases alike : rendered o content = rendered o input
    · rw [if_pos alike, if_neg (fun changed => moved.mp changed alike)]
    · rw [if_neg alike, if_pos (moved.mpr alike)]

namespace Watch

theorem poll_unread (w : Watch) (writable : Bool) : w.poll ⟨none, writable⟩ = w := rfl

theorem poll_same (o : Options) (input content : String) (attempts : List String)
    (shown : String) (writable : Bool) (same : rendered o content = rendered o input) :
    poll ⟨Live.of o input, attempts, shown⟩ ⟨some content, writable⟩ =
      ⟨Live.of o content, attempts, shown⟩ := by
  have found := refresh_of o input content
  rw [if_pos same] at found
  simp only [poll, found]

theorem poll_trial (o : Options) (input content : String) (attempts : List String)
    (shown : String) (writable : Bool) (differs : rendered o content ≠ rendered o input) :
    poll ⟨Live.of o input, attempts, shown⟩ ⟨some content, writable⟩ =
      ⟨Live.of o content, attempts ++ [delivered (rendered o content)],
        if writable then delivered (rendered o content) else shown⟩ := by
  have found := refresh_of o input content
  rw [if_neg differs] at found
  simp only [poll, found]

theorem foldl_poll (o : Options) (input : String) (attempts : List String) (shown : String)
    (polls : List Poll) :
    polls.foldl poll ⟨Live.of o input, attempts, delivered shown⟩ =
      ⟨Live.of o (lastRead input polls),
        attempts ++ (trials (rendered o input) (looks o polls)).map (delivered ·.text),
        delivered (lastWritten shown (trials (rendered o input) (looks o polls)))⟩ := by
  induction polls generalizing input attempts shown with
  | nil => simp [lastRead, looks, trials, lastWritten]
  | cons p polls ih =>
    obtain ⟨content, writable⟩ := p
    rw [List.foldl_cons]
    cases content with
    | none => rw [poll_unread, ih, lastRead_unread, looks_unread]
    | some content =>
      rw [lastRead_read, looks_read, trials]
      by_cases same : rendered o content = rendered o input
      · rw [poll_same o input content attempts _ writable same, ih, if_pos same, same]
      · rw [poll_trial o input content attempts _ writable same, if_neg same]
        cases writable with
        | false =>
          rw [if_neg Bool.false_ne_true, ih, lastWritten_failed]
          simp
        | true =>
          rw [if_pos rfl, ih, lastWritten_succeeded]
          simp

theorem start_eq (o : Options) (content : String) :
    start o content =
      ⟨Live.of o content, [delivered (rendered o content)], delivered (rendered o content)⟩ := by
  simp only [start, start_live]
  rfl

theorem run_eq (o : Options) (content : String) (polls : List Poll) :
    run o content polls =
      ⟨Live.of o (lastRead content polls),
        delivered (rendered o content) ::
          (trials (rendered o content) (looks o polls)).map (delivered ·.text),
        delivered (lastWritten (rendered o content)
          (trials (rendered o content) (looks o polls)))⟩ := by
  rw [run, start_eq, foldl_poll, List.singleton_append]

end Watch

theorem looks_text (o : Options) (polls : List Poll) :
    (looks o polls).map Trial.text = (polls.filterMap Poll.content).map (rendered o) := by
  rw [looks, List.map_filterMap, List.map_filterMap]
  congr 1
  funext p
  rw [Option.map_map]
  rfl

theorem trials_text (first : String) (tried : List Trial) :
    (first :: tried.map Trial.text).destutter (· ≠ ·) =
      first :: (trials first tried).map Trial.text := by
  rw [List.destutter_cons']
  induction tried generalizing first with
  | nil => rfl
  | cons t rest ih =>
    rw [List.map_cons, List.destutter'_cons, trials]
    by_cases same : t.text = first
    · rw [if_neg (not_not.mpr same.symm), if_pos same, ih]
    · rw [if_pos (Ne.symm same), if_neg same, ih, List.map_cons]

/-- What a watch shows and tries to write depends on what could be read, and on nothing else. -/
structure Faithful (o : Options) (content : String) (polls : List Poll) (w : Watch) : Prop where
  attempts : w.attempts =
    (((content :: polls.filterMap Poll.content).map (rendered o)).destutter (· ≠ ·)).map delivered
  live : w.live = ⟨o, lastRead content polls, rendered o (lastRead content polls)⟩
  unread : ∀ writable, w.poll ⟨none, writable⟩ = w
  next : ∀ later writable,
    (w.poll ⟨some later, writable⟩).live = ⟨o, later, rendered o later⟩ ∧
      (w.poll ⟨some later, writable⟩).attempts =
        if rendered o later = w.live.output then w.attempts
        else w.attempts ++ [delivered (rendered o later)]

theorem run_faithful (o : Options) (content : String) (polls : List Poll) :
    Faithful o content polls (Watch.run o content polls) := by
  rw [Watch.run_eq]
  refine ⟨?_, rfl, fun writable => rfl, ?_⟩
  · rw [List.map_cons, ← looks_text, trials_text, List.map_cons, List.map_map]
    rfl
  · intro later writable
    by_cases same : rendered o later = rendered o (lastRead content polls)
    · rw [Watch.poll_same o _ later _ _ writable same, Live.of_output, if_pos same]
      exact ⟨rfl, rfl⟩
    · rw [Watch.poll_trial o _ later _ _ writable same, Live.of_output, if_neg same]
      exact ⟨rfl, rfl⟩

end SymbolMarkup.CommandLine
