import SymbolMarkup.Proofs.Rendering

/-! Nodes side by side. What a list of siblings comes down to is put together from its parts, absent
nodes leaving nothing; and what is written of it is a join of the siblings that are shown.
Answers and reports of the siblings, each rendered on its own, are read off in the same order. -/
namespace SymbolMarkup

/-! ### Parts of a list -/

theorem forms_append (left right : List Node) :
    Node.forms (left ++ right) = Node.forms left ++ Node.forms right := by
  induction left with
  | nil => rfl
  | cons node rest ih =>
    rw [List.cons_append, Node.forms, Node.forms, ih, List.append_assoc]

theorem forms_eq_nil_iff (nodes : List Node) :
    Node.forms nodes = [] ↔ ∀ node ∈ nodes, node.form? = none := by
  induction nodes with
  | nil => simp [Node.forms]
  | cons node rest ih =>
    rw [Node.forms, List.append_eq_nil_iff, ih, List.forall_mem_cons, Option.toList_eq_nil_iff]

theorem unsupportedKindsAmong_append (left right : List Node) :
    Node.unsupportedKindsAmong (left ++ right) =
      Node.unsupportedKindsAmong left ++ Node.unsupportedKindsAmong right := by
  induction left with
  | nil => rfl
  | cons node rest ih =>
    rw [List.cons_append, Node.unsupportedKindsAmong, Node.unsupportedKindsAmong, ih,
      List.append_assoc]

def leadAfter (separator lead : List Char) (before : List Form) : List Char :=
  if before.isEmpty then lead else ',' :: '\n' :: separator

theorem writtenAll_append (s : SiblingIndent) (indent separator lead : List Char)
    (before after : List Form) :
    Form.writtenAll s indent separator lead (before ++ after) =
      Form.writtenAll s indent separator lead before ++
        Form.writtenAll s indent separator (leadAfter separator lead before) after := by
  induction before generalizing lead with
  | nil => rfl
  | cons form rest ih =>
    have lead_same : leadAfter separator (',' :: '\n' :: separator) rest =
        ',' :: '\n' :: separator := by
      unfold leadAfter
      split <;> rfl
    rw [List.cons_append, Form.writtenAll, ih, lead_same, Form.writtenAll, List.append_assoc,
      List.append_assoc]
    rfl

/-- The flag of the loop and the lead of the first sibling come to this: a join behind the lead. -/
theorem writtenAll_eq_intercalate (s : SiblingIndent) (indent separator lead : List Char)
    (form : Form) (rest : List Form) :
    Form.writtenAll s indent separator lead (form :: rest) =
      lead ++ (',' :: '\n' :: separator).intercalate
        ((form :: rest).map (Form.written s indent)) := by
  induction rest generalizing lead form with
  | nil => simp [Form.writtenAll]
  | cons next rest ih =>
    rw [Form.writtenAll, ih, List.map_cons, List.map_cons, List.map_cons,
      List.intercalate_cons_cons, List.append_assoc]

/-! ### Answers and reports -/

def Traced.shown? (run : Traced Failure (Option String)) : Option String :=
  match run.result with
  | .ok shown => shown
  | .error _ => none

def shownAmong (o : Options) (indent : String) (nodes : List Node) : List String :=
  nodes.filterMap fun node => (renderNode o indent node).shown?

def Rendered (o : Options) (indent : String) (node : Node) : Prop :=
  ∃ shown : Option String, (renderNode o indent node).result = .ok shown

theorem rendered_iff (o : Options) (indent : String) (node : Node) :
    Rendered o indent node ↔ Traced.Tolerated o.unsupported node.unsupportedKinds := by
  simp only [Rendered, renderNode_eq, Traced.meeting_ok_iff, exists_and_left, exists_eq', and_true]

theorem all_rendered_iff (o : Options) (indent : String) (nodes : List Node) :
    (∀ node ∈ nodes, Rendered o indent node) ↔
      Traced.Tolerated o.unsupported (Node.unsupportedKindsAmong nodes) := by
  induction nodes with
  | nil => simp [Traced.Tolerated, Node.unsupportedKindsAmong]
  | cons node rest ih =>
    rw [List.forall_mem_cons, ih, rendered_iff, Node.unsupportedKindsAmong,
      Traced.tolerated_append]

theorem shownAmong_eq (o : Options) (indent : String) (nodes : List Node)
    (rendered : ∀ node ∈ nodes, Rendered o indent node) :
    shownAmong o indent nodes = (Node.forms nodes).map fun f =>
      String.ofList (f.written o.siblingIndent indent.toList) := by
  induction nodes with
  | nil => rfl
  | cons node rest ih =>
    obtain ⟨first, others⟩ := List.forall_mem_cons.mp rendered
    have tail := ih others
    have head : (renderNode o indent node).shown? =
        node.form?.map fun f => String.ofList (f.written o.siblingIndent indent.toList) := by
      rw [renderNode_eq, Traced.meeting_tolerated _ _ _ ((rendered_iff o indent node).mp first)]
      rfl
    rw [shownAmong] at tail ⊢
    rw [List.filterMap_cons, head, tail, Node.forms]
    cases node.form? <;> rfl

theorem events_among (o : Options) (indent : String) (nodes : List Node) :
    (nodes.flatMap fun node => (renderNode o indent node).events) =
      Traced.reported o.unsupported (Node.unsupportedKindsAmong nodes) := by
  induction nodes with
  | nil => cases h : o.unsupported <;> rfl
  | cons node rest ih =>
    rw [List.flatMap_cons, ih, renderNode_eq, Traced.meeting_events, Node.unsupportedKindsAmong,
      Traced.reported_append]

end SymbolMarkup
