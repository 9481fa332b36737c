import SymbolMarkup.Live

/-! A view is settled by its latest input: whatever it showed before, it shows what that input alone
leads to. -/
namespace SymbolMarkup

/-- What is shown for a text: its notation, or a line with the message of the failure. -/
def rendered (o : Options) (content : String) : String :=
  match (convert o content).result with
  | .ok output => output
  | .error failure => "// error: " ++ failure.message

def Live.of (o : Options) (content : String) : Live := ⟨o, content, rendered o content⟩

@[simp] theorem Live.of_options (o : Options) (content : String) :
    (Live.of o content).options = o := rfl

@[simp] theorem Live.of_input (o : Options) (content : String) :
    (Live.of o content).input = content := rfl

@[simp] theorem Live.of_output (o : Options) (content : String) :
    (Live.of o content).output = rendered o content := rfl

theorem liveOutput_fst (o : Options) (content : String) :
    (liveOutput o content).1 = rendered o content := by
  unfold liveOutput rendered
  cases h : (convert o content).result <;> simp only [h]

theorem start_live (o : Options) (content : String) :
    (Live.start o content).1 = Live.of o content := by
  simp only [Live.start, Live.of, liveOutput_fst]

theorem update_live (l : Live) (content : String) :
    (l.update content).live = Live.of l.options content := by
  simp only [Live.update, Live.of, liveOutput_fst]

theorem update_changed (l : Live) (content : String) :
    (l.update content).changed = true ↔ rendered l.options content ≠ l.output := by
  simp only [Live.update, liveOutput_fst, decide_eq_true_eq]

end SymbolMarkup
