import SymbolMarkup.Render

/-! The form of a node: what is left of it once absent nodes are gone, tags are in lower case, texts
are trimmed and whatever has to stay on one line is normal. An element keeps, besides the forms of
its children, whether it was given any children at all.
The form knows nothing of indentation. How it is written down is settled in `Proofs.Written`. -/
namespace SymbolMarkup

/-- What a node comes down to. Two constructors for elements, so that one without a child list
cannot have forms of children. -/
inductive Form where
  | text (content : String)
  | comment (content : String)
  | bare (tag : String) (attributes : List Attribute)
  | nested (tag : String) (attributes : List Attribute) (children : List Form)
  deriving Repr

def Attribute.normal (a : Attribute) : Attribute := ⟨a.name, Text.normalize a.value⟩

def Form.ofText? (content : String) : Option Form :=
  if (Text.trim content).isEmpty then none else some (.text (Text.trim content))

mutual

def Node.form? : Node → Option Form
  | .element tag attributes children =>
    if children.isEmpty then some (.bare (Text.lowercase tag) (attributes.map Attribute.normal))
    else
      some (.nested (Text.lowercase tag) (attributes.map Attribute.normal) (Node.forms children))
  | .text content => Form.ofText? content
  | .comment content => some (.comment (Text.normalize content))
  | .other _ => none

def Node.forms : List Node → List Form
  | [] => []
  | node :: rest => (Node.form? node).toList ++ Node.forms rest

end

def Node.isAbsent : Node → Bool
  | .element .. | .comment _ => false
  | .text content => (Text.trim content).isEmpty
  | .other _ => true

theorem form?_eq_none_iff (node : Node) : node.form? = none ↔ node.isAbsent = true := by
  cases node with
  | element tag attributes children =>
    rw [Node.form?]
    split <;> simp [Node.isAbsent]
  | text content => simp [Node.form?, Form.ofText?, Node.isAbsent]
  | comment content => simp [Node.form?, Node.isAbsent]
  | other kind => simp [Node.form?, Node.isAbsent]

inductive Node.ComesTo : Node → Form → Prop where
  | text (content : String) : ¬ (Text.trim content).isEmpty →
      ComesTo (.text content) (.text (Text.trim content))
  | comment (content : String) : ComesTo (.comment content) (.comment (Text.normalize content))
  | bare (tag : String) (attributes : List Attribute) :
      ComesTo (.element tag attributes [])
        (.bare (Text.lowercase tag) (attributes.map Attribute.normal))
  | nested (tag : String) (attributes : List Attribute) (children : List Node) : children ≠ [] →
      ComesTo (.element tag attributes children)
        (.nested (Text.lowercase tag) (attributes.map Attribute.normal) (Node.forms children))

theorem comesTo_of_form? (node : Node) (f : Form) (form : node.form? = some f) :
    node.ComesTo f := by
  cases node with
  | element tag attributes children =>
    rw [Node.form?] at form
    cases children with
    | nil =>
      cases Option.some.inj form
      exact .bare tag attributes
    | cons child rest =>
      cases Option.some.inj form
      exact .nested tag attributes _ (List.cons_ne_nil child rest)
  | text content =>
    rw [Node.form?, Form.ofText?] at form
    split at form
    · contradiction
    · rename_i nonblank
      cases Option.some.inj form
      exact .text content nonblank
  | comment content =>
    cases Option.some.inj form
    exact .comment content
  | other kind => contradiction

theorem length_forms (nodes : List Node) :
    (Node.forms nodes).length = nodes.countP fun node => !node.isAbsent := by
  induction nodes with
  | nil => rfl
  | cons node rest ih =>
    rw [Node.forms, List.length_append, ih, List.countP_cons, Nat.add_comm]
    congr 1
    have absent := form?_eq_none_iff node
    cases h : node.form? with
    | none => simp [absent.mp h]
    | some f =>
      have present : node.isAbsent = false := by simpa [h] using absent
      simp [present]

mutual

def Node.unsupportedKinds : Node → List String
  | .element _ _ children => Node.unsupportedKindsAmong children
  | .text _ | .comment _ => []
  | .other kind => [kind]

def Node.unsupportedKindsAmong : List Node → List String
  | [] => []
  | node :: rest => Node.unsupportedKinds node ++ Node.unsupportedKindsAmong rest

end

mutual

/-- Every tag keeps to one line, every attribute name is one word on one line, and no text has a
quote. Nothing is asked of attribute values and comments. -/
def Node.Legible : Node → Prop
  | .element tag attributes children =>
    '\n' ∉ (Text.lowercase tag).toList ∧
      (∀ a ∈ attributes, ' ' ∉ a.name.toList ∧ '\n' ∉ a.name.toList) ∧
      Node.LegibleAll children
  | .text content => '"' ∉ content.toList
  | .comment _ | .other _ => True

def Node.LegibleAll : List Node → Prop
  | [] => True
  | node :: rest => Node.Legible node ∧ Node.LegibleAll rest

end

mutual

def Node.decLegible : (node : Node) → Decidable node.Legible
  | .element tag attributes children =>
    have := Node.decLegibleAll children
    inferInstanceAs (Decidable ('\n' ∉ (Text.lowercase tag).toList ∧
      (∀ a ∈ attributes, ' ' ∉ a.name.toList ∧ '\n' ∉ a.name.toList) ∧
      Node.LegibleAll children))
  | .text content => inferInstanceAs (Decidable ('"' ∉ content.toList))
  | .comment _ | .other _ => .isTrue trivial

def Node.decLegibleAll : (nodes : List Node) → Decidable (Node.LegibleAll nodes)
  | [] => .isTrue trivial
  | node :: rest =>
    have := Node.decLegible node
    have := Node.decLegibleAll rest
    inferInstanceAs (Decidable (Node.Legible node ∧ Node.LegibleAll rest))

end

instance : DecidablePred Node.LegibleAll := Node.decLegibleAll

end SymbolMarkup
