import SymbolMarkup.Proofs.Rendering

/-! Passing over unsupported nodes and refusing them are two views of one traversal. The first gives
an answer whatever it meets and reports all of it; the second gives the same answer or names what
the first would have reported first, and reports nothing. -/
namespace SymbolMarkup

def unlessMet {α : Type} (kinds : List String) (answer : α) : Except Failure α :=
  match kinds.head? with
  | none => .ok answer
  | some kind => .error (.unsupportedKind kind)

theorem meeting_skip {α : Type} (kinds : List String) (answer : α) :
    Traced.meeting .skip kinds answer = ⟨kinds.map .skipped, .ok answer⟩ := rfl

theorem meeting_error {α : Type} (kinds : List String) (answer : α) :
    Traced.meeting .error kinds answer = ⟨[], unlessMet kinds answer⟩ := by
  cases kinds <;> rfl

/-- One output and one list of kinds explain both runs, on a forest and on a node alike. -/
theorem policies_agree (s : SiblingIndent) :
    (∀ nodes : List Node, ∃ output : String,
      renderForest ⟨s, .skip⟩ nodes =
        ⟨(Node.unsupportedKindsAmong nodes).map .skipped, .ok output⟩ ∧
      renderForest ⟨s, .error⟩ nodes =
        ⟨[], unlessMet (Node.unsupportedKindsAmong nodes) output⟩) ∧
    (∀ (indent : String) (node : Node), ∃ output : Option String,
      renderNode ⟨s, .skip⟩ indent node =
        ⟨node.unsupportedKinds.map .skipped, .ok output⟩ ∧
      renderNode ⟨s, .error⟩ indent node =
        ⟨[], unlessMet node.unsupportedKinds output⟩) := by
  constructor
  · intro nodes
    refine ⟨String.ofList (Form.forest s (Node.forms nodes)), ?_, ?_⟩
    · rw [renderForest_eq, meeting_skip]
    · rw [renderForest_eq, meeting_error]
  · intro indent node
    refine ⟨node.form?.map fun f => String.ofList (f.written s indent.toList), ?_, ?_⟩
    · rw [renderNode_eq, meeting_skip]
    · rw [renderNode_eq, meeting_error]

example :
    (renderForest ⟨.parent, .error⟩
      [.element "p" [] [.element "b" [] [.other "deep"]], .other "late"]).result =
      .error (.unsupportedKind "deep") := by rw [renderForest_eq]; rfl

end SymbolMarkup
