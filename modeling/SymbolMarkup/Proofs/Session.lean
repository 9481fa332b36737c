import SymbolMarkup.Proofs.Live

/-! A view that is updated, kept and brought back. However it came to its input, it is what a view
started on that input would be, so a failure is gone with the input that caused it, and whoever
redraws only when an update reports a change has the current output before him. -/
namespace SymbolMarkup.Live

structure Inputs where
  latest : String
  kept : String
  deriving DecidableEq, Repr

def Inputs.after (i : Inputs) : Step → Inputs
  | .update input => { i with latest := input }
  | .save => { i with kept := i.latest }
  | .restore => { i with latest := i.kept }

def latestInput (initial : String) (steps : List Step) : String :=
  (steps.foldl Inputs.after ⟨initial, initial⟩).latest

def Inputs.session (o : Options) (i : Inputs) : Session := ⟨Live.of o i.latest, Live.of o i.kept⟩

def Session.run (s : Session) (steps : List Step) : Session :=
  steps.foldl (fun s step => (s.apply step).session) s

theorem run_cons (s : Session) (step : Step) (rest : List Step) :
    s.run (step :: rest) = (s.apply step).session.run rest := rfl

theorem start_session (o : Options) (initial : String) :
    Session.start o initial = Inputs.session o ⟨initial, initial⟩ := by
  simp only [Session.start, start_live, Inputs.session]

theorem apply_session (o : Options) (i : Inputs) (step : Step) :
    ((i.session o).apply step).session = (i.after step).session o := by
  cases step with
  | update input => simp only [Session.apply, Inputs.session, Inputs.after, update_live, of_options]
  | save => rfl
  | restore => rfl

theorem run_session (o : Options) (i : Inputs) (steps : List Step) :
    (i.session o).run steps = (steps.foldl Inputs.after i).session o := by
  induction steps generalizing i with
  | nil => rfl
  | cons step rest ih =>
    rw [run_cons, apply_session, ih, List.foldl_cons]

def Session.reached (o : Options) (initial : String) (steps : List Step) : Session :=
  (Session.start o initial).run steps

theorem reached_live (o : Options) (initial : String) (steps : List Step) :
    (Session.reached o initial steps).live = Live.of o (latestInput initial steps) := by
  rw [Session.reached, start_session, run_session]
  rfl

theorem apply_changed (s : Session) (input : String) :
    ∃ changed, (s.apply (.update input)).changed = some changed ∧
      (changed = true ↔
        (s.apply (.update input)).session.live.output ≠ s.live.output) := by
  refine ⟨(s.live.update input).changed, rfl, ?_⟩
  simp only [Session.apply, update_live, of_output]
  exact update_changed s.live input

/-! ### A display beside the view -/

structure Display where
  session : Session
  shown : String

def Display.start (o : Options) (initial : String) : Display :=
  let session := Session.start o initial
  ⟨session, session.live.output⟩

/-- The output is copied when the step reports that it has changed. -/
def Display.follow (d : Display) (step : Step) : Display :=
  let r := d.session.apply step
  ⟨r.session, if r.changed = some true then r.session.live.output else d.shown⟩

theorem start_display (o : Options) (initial : String) :
    (Display.start o initial).session = Session.start o initial ∧
      (Display.start o initial).shown = (Session.start o initial).live.output := by
  simp only [Display.start, and_self]

theorem follow_update (d : Display) (input : String)
    (current : d.shown = d.session.live.output) :
    (d.follow (.update input)).shown = (d.follow (.update input)).session.live.output := by
  obtain ⟨changed, report, differs⟩ := apply_changed d.session input
  simp only [Display.follow, report, Option.some.injEq]
  split
  · rfl
  · rename_i silent
    rw [current]
    exact (Decidable.not_not.mp (mt differs.mpr silent)).symm

theorem follow_updates (d : Display) (inputs : List String)
    (current : d.shown = d.session.live.output) :
    ((inputs.map .update).foldl Display.follow d).shown =
      (d.session.run (inputs.map .update)).live.output := by
  induction inputs generalizing d with
  | nil => exact current
  | cons input rest ih =>
    rw [List.map_cons, List.foldl_cons, ih _ (follow_update d input current), run_cons]
    simp only [Display.follow]

/-- Whatever has happened to a view, it is settled by the input in place; an update reports exactly
whether the output differs, so a display that follows the reports is never behind. -/
theorem latest_input_settles (o : Options) (initial : String) :
    (∀ steps : List Step,
      (Session.reached o initial steps).live = (Live.start o (latestInput initial steps)).1 ∧
      (Session.reached o initial steps).live =
        ⟨o, latestInput initial steps, rendered o (latestInput initial steps)⟩) ∧
    (∀ (steps : List Step) (input : String),
      let before := Session.reached o initial steps
      let after := before.apply (.update input)
      ∃ changed, after.changed = some changed ∧
        (changed = true ↔ after.session.live.output ≠ before.live.output)) ∧
    ∀ inputs : List String,
      ((inputs.map .update).foldl Display.follow (Display.start o initial)).shown =
        (Session.reached o initial (inputs.map .update)).live.output := by
  refine ⟨fun steps => ⟨?_, reached_live o initial steps⟩, fun _ input => apply_changed _ input,
    fun inputs => ?_⟩
  · rw [reached_live, start_live]
  · obtain ⟨session, shown⟩ := start_display o initial
    rw [follow_updates _ inputs (by rw [shown, session]), session, Session.reached]

end SymbolMarkup.Live
