import SymbolMarkup.Proofs.Legible

/-! The trees inside a tree. What is asked of every node at every depth is asked of each of them,
and what holds of them holds of the forms inside the form they come down to. -/
namespace SymbolMarkup

mutual

def Node.subtrees : Node → List Node
  | .element tag attributes children =>
    .element tag attributes children :: Node.subtreesAmong children
  | .text content => [.text content]
  | .comment content => [.comment content]
  | .other kind => [.other kind]

def Node.subtreesAmong : List Node → List Node
  | [] => []
  | node :: rest => Node.subtrees node ++ Node.subtreesAmong rest

end

mutual

def Form.subtrees : Form → List Form
  | .text content => [.text content]
  | .comment content => [.comment content]
  | .bare tag attributes => [.bare tag attributes]
  | .nested tag attributes children =>
    .nested tag attributes children :: Form.subtreesAmong children

def Form.subtreesAmong : List Form → List Form
  | [] => []
  | form :: rest => Form.subtrees form ++ Form.subtreesAmong rest

end

theorem self_mem_subtrees (f : Form) : f ∈ f.subtrees := by
  cases f <;> simp [Form.subtrees]

theorem node_mem_subtrees (node : Node) : node ∈ node.subtrees := by
  cases node <;> simp [Node.subtrees]

mutual

/-- A form inside the form of a tree is the form of a tree inside that tree. -/
theorem exists_subtree (node : Node) (f g : Form) (form : node.form? = some f)
    (inside : g ∈ f.subtrees) : ∃ m ∈ node.subtrees, m.form? = some g := by
  -- a leaf among the forms is the form itself
  have whole (same : g = f) : ∃ m ∈ node.subtrees, m.form? = some g :=
    ⟨node, node_mem_subtrees node, same ▸ form⟩
  cases comesTo_of_form? node f form with
  | text content => exact whole (List.mem_singleton.mp inside)
  | comment content => exact whole (List.mem_singleton.mp inside)
  | bare tag attributes => exact whole (List.mem_singleton.mp inside)
  | nested tag attributes children =>
    rw [Form.subtrees] at inside
    rcases List.mem_cons.mp inside with same | inside
    · exact whole same
    · obtain ⟨m, hm, same⟩ := exists_subtree_among children g inside
      exact ⟨m, by rw [Node.subtrees]; exact List.mem_cons_of_mem _ hm, same⟩

theorem exists_subtree_among (nodes : List Node) (g : Form)
    (inside : g ∈ Form.subtreesAmong (Node.forms nodes)) :
    ∃ m ∈ Node.subtreesAmong nodes, m.form? = some g := by
  cases nodes with
  | nil => contradiction
  | cons node rest =>
    have later (found : g ∈ Form.subtreesAmong (Node.forms rest)) :
        ∃ m ∈ Node.subtreesAmong (node :: rest), m.form? = some g := by
      obtain ⟨m, hm, same⟩ := exists_subtree_among rest g found
      exact ⟨m, List.mem_append_right _ hm, same⟩
    rw [Node.forms] at inside
    cases form : node.form? with
    | none =>
      rw [form] at inside
      exact later inside
    | some f =>
      rw [form] at inside
      rcases List.mem_append.mp inside with inside | inside
      · obtain ⟨m, hm, same⟩ := exists_subtree node f g form inside
        exact ⟨m, List.mem_append_left _ hm, same⟩
      · exact later inside

end

/-! ### What keeps to one line -/

def Node.NamesOneLine : Node → Prop
  | .element tag attributes _ =>
    '\n' ∉ (Text.lowercase tag).toList ∧ ∀ a ∈ attributes, '\n' ∉ a.name.toList
  | .text _ | .comment _ | .other _ => True

def Node.TextOneLine : Node → Prop
  | .text content => '\n' ∉ (Text.trim content).toList
  | .element .. | .comment _ | .other _ => True

instance : DecidablePred Node.NamesOneLine
  | .element tag attributes _ => inferInstanceAs (Decidable
      ('\n' ∉ (Text.lowercase tag).toList ∧ ∀ a ∈ attributes, '\n' ∉ a.name.toList))
  | .text _ | .comment _ | .other _ => .isTrue trivial

instance : DecidablePred Node.TextOneLine
  | .text content => inferInstanceAs (Decidable ('\n' ∉ (Text.trim content).toList))
  | .element .. | .comment _ | .other _ => .isTrue trivial

def Form.MarkupOneLine : Form → Prop
  | .text _ => True
  | .comment content => '\n' ∉ content.toList
  | .bare tag attributes | .nested tag attributes _ =>
    '\n' ∉ tag.toList ∧ ∀ a ∈ attributes, '\n' ∉ a.name.toList ∧ '\n' ∉ a.value.toList

def Form.TextOneLine : Form → Prop
  | .text content => '\n' ∉ content.toList
  | .comment _ | .bare .. | .nested .. => True

theorem normal_oneLine (attributes : List Attribute)
    (names : ∀ a ∈ attributes, '\n' ∉ a.name.toList) :
    ∀ a ∈ attributes.map Attribute.normal, '\n' ∉ a.name.toList ∧ '\n' ∉ a.value.toList := by
  intro a ha
  obtain ⟨b, hb, rfl⟩ := List.mem_map.mp ha
  exact ⟨names b hb, Text.newline_not_mem_normalize b.value⟩

theorem form_markupOneLine (node : Node) (names : node.NamesOneLine) (f : Form)
    (form : node.form? = some f) : f.MarkupOneLine := by
  cases comesTo_of_form? node f form with
  | text content => trivial
  | comment content => exact Text.newline_not_mem_normalize content
  | bare tag attributes => exact ⟨names.1, normal_oneLine attributes names.2⟩
  | nested tag attributes children => exact ⟨names.1, normal_oneLine attributes names.2⟩

theorem form_textOneLine (node : Node) (text : node.TextOneLine) (f : Form)
    (form : node.form? = some f) : f.TextOneLine := by
  cases comesTo_of_form? node f form with
  | text content => exact text
  | comment | bare | nested => trivial

end SymbolMarkup
