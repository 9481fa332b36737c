import SymbolMarkup.Proofs.Rendering

/-! What is shown depends on forms alone. Absent nodes can come, go and move without a trace as long
as no element is left without children or given its first ones: the comma behind the last attribute
and the line in front of the closing parenthesis tell whether there are children, absent or not. -/
namespace SymbolMarkup

/-- A forest before and after absent nodes came and went, here or further down. A node that moves
goes in one place and comes in another. -/
inductive Edited : List Node → List Node → Prop where
  | nil : Edited [] []
  | gone {node : Node} {left right : List Node} :
      node.isAbsent = true → Edited left right → Edited (node :: left) right
  | come {node : Node} {left right : List Node} :
      node.isAbsent = true → Edited left right → Edited left (node :: right)
  | kept (node : Node) {left right : List Node} :
      Edited left right → Edited (node :: left) (node :: right)
  | within (tag : String) (attributes : List Attribute) {before after left right : List Node} :
      (before = [] ↔ after = []) → Edited before after → Edited left right →
      Edited (.element tag attributes before :: left) (.element tag attributes after :: right)

theorem forms_absent {node : Node} (absent : node.isAbsent = true) (rest : List Node) :
    Node.forms (node :: rest) = Node.forms rest := by
  rw [Node.forms, (form?_eq_none_iff node).mpr absent]
  rfl

theorem form?_element (tag : String) (attributes : List Attribute) (before after : List Node)
    (listed : before = [] ↔ after = []) (same : Node.forms before = Node.forms after) :
    (Node.element tag attributes before).form? = (Node.element tag attributes after).form? := by
  rw [Node.form?, Node.form?, same]
  -- an empty child list makes a form of its own, so both lists are empty or neither is
  by_cases bare : before = []
  · rw [bare, listed.mp bare]
  · have nested : after ≠ [] := fun h => bare (listed.mpr h)
    rw [if_neg (by simpa using bare), if_neg (by simpa using nested)]

theorem Edited.forms_eq {left right : List Node} (h : Edited left right) :
    Node.forms left = Node.forms right := by
  induction h with
  | nil => rfl
  | gone absent _ ih => rw [forms_absent absent, ih]
  | come absent _ ih => rw [forms_absent absent, ih]
  | kept node _ ih => rw [Node.forms, Node.forms, ih]
  | within tag attributes listed _ _ inside beside =>
    rw [Node.forms, Node.forms, form?_element tag attributes _ _ listed inside, beside]

def SameOutput (o : Options) (left right : List Node) : Prop :=
  ∃ output : String,
    (renderForest o left).result = .ok output ∧ (renderForest o right).result = .ok output

theorem sameOutput_of_forms (o : Options) (left right : List Node)
    (toleratedLeft : Traced.Tolerated o.unsupported (Node.unsupportedKindsAmong left))
    (toleratedRight : Traced.Tolerated o.unsupported (Node.unsupportedKindsAmong right))
    (same : Node.forms left = Node.forms right) : SameOutput o left right := by
  refine ⟨String.ofList (Form.forest o.siblingIndent (Node.forms left)), ?_, ?_⟩
  · rw [renderForest_eq, Traced.meeting_tolerated _ _ _ toleratedLeft]
  · rw [renderForest_eq, Traced.meeting_tolerated _ _ _ toleratedRight, same]

theorem sameOutput_skip (s : SiblingIndent) (left right : List Node)
    (same : Node.forms left = Node.forms right) : SameOutput ⟨s, .skip⟩ left right :=
  sameOutput_of_forms ⟨s, .skip⟩ left right (fun strict => by contradiction)
    (fun strict => by contradiction) same

theorem sameOutput_error (s : SiblingIndent) (left right : List Node)
    (supportedLeft : Node.unsupportedKindsAmong left = [])
    (supportedRight : Node.unsupportedKindsAmong right = [])
    (same : Node.forms left = Node.forms right) : SameOutput ⟨s, .error⟩ left right :=
  sameOutput_of_forms ⟨s, .error⟩ left right (fun _ => supportedLeft) (fun _ => supportedRight)
    same

/-- Forests of one form have one output, so absent nodes leave no trace; and under the strict policy
it is the same as long as there is nothing that it refuses. -/
theorem forms_settle_output (s : SiblingIndent) (left right : List Node) :
    (Node.forms left = Node.forms right → SameOutput ⟨s, .skip⟩ left right) ∧
    (Edited left right → SameOutput ⟨s, .skip⟩ left right) ∧
    (Node.unsupportedKindsAmong left = [] → Node.unsupportedKindsAmong right = [] →
      Node.forms left = Node.forms right ∨ Edited left right →
      SameOutput ⟨s, .error⟩ left right) := by
  refine ⟨sameOutput_skip s left right, fun edited => ?_, fun supported supported' alike => ?_⟩
  · exact sameOutput_skip s left right edited.forms_eq
  · refine sameOutput_error s left right supported supported' ?_
    rcases alike with same | edited
    · exact same
    · exact edited.forms_eq

def paragraph (children : List Node) : Node := .element "P" [⟨"title", "a\n b"⟩] children

def cluttered : List Node :=
  [.text " ", paragraph [.text "\n", .comment "c", .other "pi"], .text "x"]

def rearranged : List Node := [paragraph [.comment "c", .text " "], .text "x", .text "\t"]

theorem forms_settle_output_paragraph :
    Edited cluttered rearranged ∧ SameOutput {} cluttered rearranged ∧
    Node.forms [paragraph [.text " x "]] =
      Node.forms [.element "p" [⟨"title", "a b"⟩] [.text "x"]] ∧
    SameOutput ⟨.child, .skip⟩ [paragraph [.text " x "]]
      [.element "p" [⟨"title", "a b"⟩] [.text "x"]] ∧
    Node.unsupportedKindsAmong [paragraph [.text "\n", .comment "c"]] = [] ∧
    Node.unsupportedKindsAmong [paragraph [.comment "c"]] = [] ∧
    SameOutput ⟨.parent, .error⟩ [paragraph [.text "\n", .comment "c"]]
      [paragraph [.comment "c"]] := by
  have blank : ∀ s ∈ [" ", "\n", "\t"], (Node.text s).isAbsent = true := by decide
  have edited : Edited cluttered rearranged :=
    .gone (blank " " (by simp)) <|
      .within "P" _ (by simp)
        (.gone (blank "\n" (by simp)) (.kept _ (.gone rfl (.come (blank " " (by simp)) .nil))))
        (.kept _ (.come (blank "\t" (by simp)) .nil))
  have alike : Node.forms [paragraph [.text " x "]] =
      Node.forms [.element "p" [⟨"title", "a b"⟩] [.text "x"]] := by
    have tag : Text.lowercase "P" = Text.lowercase "p" := by decide +kernel
    have title : Text.normalize "a\n b" = Text.normalize "a b" := by decide +kernel
    have text : Text.trim " x " = Text.trim "x" := by decide +kernel
    simp only [paragraph, Node.forms, Node.form?, Form.ofText?, List.map_cons, Attribute.normal,
      tag, title, text]
    rfl
  have lost : Edited [paragraph [.text "\n", .comment "c"]] [paragraph [.comment "c"]] :=
    .within "P" _ (by simp) (.gone (blank "\n" (by simp)) (.kept _ .nil)) .nil
  have supported : Node.unsupportedKindsAmong [paragraph [.text "\n", .comment "c"]] = [] := rfl
  have supported' : Node.unsupportedKindsAmong [paragraph [.comment "c"]] = [] := rfl
  exact ⟨edited, (forms_settle_output _ _ _).2.1 edited, alike,
    (forms_settle_output _ _ _).1 alike, supported, supported',
    (forms_settle_output _ _ _).2.2 supported supported' (.inr lost)⟩

example : ¬ SameOutput {} [.element "p" [] []] [.element "p" [] [.text " "]] := by
  rintro ⟨output, left, right⟩
  rw [renderForest_eq] at left right
  have same := (Traced.meeting_ok _ _ _ _ left).trans (Traced.meeting_ok _ _ _ _ right).symm
  exact absurd same (by decide +kernel)

end SymbolMarkup
