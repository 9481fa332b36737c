import Mathlib.Data.List.Forall2
import SymbolMarkup.Body

/-! The nodes of a body mirror its trees. Each tree has a node in its place, of its kind and with
its content, and an element has as many children as before. Only what lies below a tree that is
neither element, text nor comment is out of sight, since its node is a leaf. -/
namespace SymbolMarkup

open Html (Tree TreeAttribute ElementName)

structure ShownAs (a : TreeAttribute) (shown : Attribute) : Prop where
  value : shown.value = a.value
  name : match a.name.qualifier with
    | none => shown.name = a.name.base
    | some qualifier => shown.name = qualifier ++ ":" ++ a.name.base

inductive Mirrors : Tree → Node → Prop where
  | element (name : ElementName) {attributes : List TreeAttribute} {shown : List Attribute}
      {children : List Tree} {nodes : List Node} : List.Forall₂ ShownAs attributes shown →
      List.Forall₂ Mirrors children nodes →
      Mirrors (.element name attributes children) (.element name.name shown nodes)
  | text (content : String) : Mirrors (.text content) (.text content)
  | comment (content : String) : Mirrors (.comment content) (.comment content)
  | doctype : Mirrors .doctype (.other "doctype")
  | processingInstruction : Mirrors .processingInstruction (.other "processing-instruction")
  | document (children : List Tree) : Mirrors (.document children) (.other "document")
  | fragment (children : List Tree) : Mirrors (.fragment children) (.other "document-fragment")

/-! ### Every tree has a node -/

theorem shownAs_shown (attributes : List TreeAttribute) :
    List.Forall₂ ShownAs attributes (attributes.map fun a => ⟨a.name.shown, a.value⟩) := by
  induction attributes with
  | nil => exact .nil
  | cons a rest ih =>
    refine .cons ⟨rfl, ?_⟩ ih
    cases h : a.name.qualifier <;> simp [Html.AttributeName.shown, h]

mutual

theorem mirrors_ofTree (t : Tree) : Mirrors t (Node.ofTree t) := by
  cases t with
  | element name attributes children =>
    exact .element name (shownAs_shown attributes) (mirrors_ofTrees children)
  | text content => exact .text content
  | comment content => exact .comment content
  | doctype => exact .doctype
  | processingInstruction => exact .processingInstruction
  | document children => exact .document children
  | fragment children => exact .fragment children

theorem mirrors_ofTrees (ts : List Tree) : List.Forall₂ Mirrors ts (Node.ofTrees ts) := by
  cases ts with
  | nil => exact .nil
  | cons t rest => exact .cons (mirrors_ofTree t) (mirrors_ofTrees rest)

end

mutual

def Node.ofElement? : Tree → Option Node
  | .element name attributes children =>
    some (.element name.name (attributes.map fun a => ⟨a.name.shown, a.value⟩)
      (Node.ofChecked children))
  | .document _ | .fragment _ | .text _ | .comment _ | .doctype | .processingInstruction => none

/-- As `ofTrees`, but with an element checked once more for being one, and left out if it is not. -/
def Node.ofChecked : List Tree → List Node
  | [] => []
  | t :: rest =>
    match t with
    | .element .. =>
      match Node.ofElement? t with
      | some node => node :: Node.ofChecked rest
      | none => Node.ofChecked rest
    | .text content => .text content :: Node.ofChecked rest
    | .comment content => .comment content :: Node.ofChecked rest
    | .doctype => .other "doctype" :: Node.ofChecked rest
    | .processingInstruction => .other "processing-instruction" :: Node.ofChecked rest
    | .document _ => .other "document" :: Node.ofChecked rest
    | .fragment _ => .other "document-fragment" :: Node.ofChecked rest

end

mutual

theorem ofElement?_eq (t : Tree) (element : t.elementName?.isSome) :
    Node.ofElement? t = some (Node.ofTree t) := by
  cases t with
  | element name attributes children =>
    rw [Node.ofElement?, Node.ofTree, ofChecked_eq children]
  | _ => contradiction

theorem ofChecked_eq (ts : List Tree) : Node.ofChecked ts = Node.ofTrees ts := by
  cases ts with
  | nil => rfl
  | cons t rest =>
    have others := ofChecked_eq rest
    cases t with
    | element name attributes children =>
      have one := ofElement?_eq (.element name attributes children) rfl
      simp only [Node.ofChecked, one, others, Node.ofTrees]
    | _ => simp only [Node.ofChecked, others, Node.ofTrees, Node.ofTree]

end

/-! ### Places in a tree -/

def Node.children : Node → List Node
  | .element _ _ children => children
  | .text _ | .comment _ | .other _ => []

def Node.at? (node : Node) : List Nat → Option Node
  | [] => some node
  | k :: path => node.children[k]?.bind fun child => child.at? path

def Html.Tree.at? (t : Tree) : List Nat → Option Tree
  | [] => some t
  | k :: path => t.children[k]?.bind fun child => child.at? path

/-- The path leads through a tree that is no element. -/
def Html.Tree.Hides (t : Tree) (path : List Nat) : Prop :=
  ∃ front back u, path = front ++ back ∧ back ≠ [] ∧ t.at? front = some u ∧ u.elementName? = none

theorem node_at?_append (node : Node) (front back : List Nat) :
    node.at? (front ++ back) = (node.at? front).bind fun m => m.at? back := by
  induction front generalizing node with
  | nil => rfl
  | cons k front ih =>
    rw [List.cons_append, Node.at?, Node.at?]
    cases node.children[k]? with
    | none => rfl
    | some child => exact ih child

theorem tree_at?_append (t : Tree) (front back : List Nat) :
    t.at? (front ++ back) = (t.at? front).bind fun u => u.at? back := by
  induction front generalizing t with
  | nil => rfl
  | cons k front ih =>
    rw [List.cons_append, Tree.at?, Tree.at?]
    cases t.children[k]? with
    | none => rfl
    | some child => exact ih child

theorem mirrors_children (t : Tree) (node : Node) (mirrors : Mirrors t node) :
    (t.elementName? ≠ none ∧ List.Forall₂ Mirrors t.children node.children) ∨
      (t.elementName? = none ∧ node.children = []) := by
  cases mirrors with
  | element name _ children => exact .inl ⟨Option.some_ne_none name, children⟩
  | _ => exact .inr ⟨rfl, rfl⟩

theorem related_at {α β : Type} {R : α → β → Prop} {xs : List α} {ys : List β}
    (same : List.Forall₂ R xs ys) (k : Nat) :
    (xs[k]? = none ∧ ys[k]? = none) ∨ ∃ x y, xs[k]? = some x ∧ ys[k]? = some y ∧ R x y := by
  induction same generalizing k with
  | nil => exact .inl ⟨rfl, rfl⟩
  | cons first _ ih =>
    cases k with
    | zero => exact .inr ⟨_, _, rfl, rfl, first⟩
    | succ k => exact ih k

theorem hides_below (t child : Tree) (k : Nat) (path : List Nat)
    (here : t.children[k]? = some child) (hides : child.Hides path) : t.Hides (k :: path) := by
  obtain ⟨front, back, u, rfl, more, at_u, other⟩ := hides
  refine ⟨k :: front, back, u, rfl, more, ?_, other⟩
  rw [Tree.at?, here]
  exact at_u

theorem seen_or_hidden (t : Tree) (node : Node) (mirrors : Mirrors t node) (path : List Nat) :
    (∃ u m, t.at? path = some u ∧ node.at? path = some m ∧ Mirrors u m) ∨
      (node.at? path = none ∧ (t.at? path = none ∨ t.Hides path)) := by
  induction path generalizing t node with
  | nil => exact .inl ⟨t, node, rfl, rfl, mirrors⟩
  | cons k path ih =>
    rw [Tree.at?, Node.at?]
    rcases mirrors_children t node mirrors with ⟨-, same⟩ | ⟨other, leaf⟩
    · rcases related_at same k with ⟨noTree, noNode⟩ | ⟨child, m, here, there, below⟩
      · rw [noTree, noNode]
        exact .inr ⟨rfl, .inl rfl⟩
      · rw [here, there]
        rcases ih child m below with seen | ⟨gone, absent | hides⟩
        · exact .inl seen
        · exact .inr ⟨gone, .inl absent⟩
        · exact .inr ⟨gone, .inr (hides_below t child k path here hides)⟩
    · rw [leaf]
      exact .inr ⟨rfl, .inr ⟨[], k :: path, t, rfl, List.cons_ne_nil k path, rfl, other⟩⟩

theorem unseen_of_hides (t : Tree) (node : Node) (mirrors : Mirrors t node) (path : List Nat)
    (hides : t.Hides path) : node.at? path = none := by
  obtain ⟨front, back, u, rfl, more, at_u, other⟩ := hides
  rw [node_at?_append]
  rcases seen_or_hidden t node mirrors front with ⟨v, m, tree, seen, below⟩ | ⟨gone, -⟩
  · cases Option.some.inj (tree.symm.trans at_u)
    rcases mirrors_children u m below with ⟨element, -⟩ | ⟨-, leaf⟩
    · contradiction
    · obtain ⟨k, rest, rfl⟩ := List.exists_cons_of_ne_nil more
      rw [seen, Option.bind_some, Node.at?, leaf]
      rfl
  · rw [gone]
    rfl

/-- What can be seen at the end of a path, and what cannot. -/
structure Sighted (t : Tree) (node : Node) (path : List Nat) : Prop where
  genuine : ∀ m, node.at? path = some m → ∃ u, t.at? path = some u ∧ Mirrors u m
  unseen : ∀ u, t.at? path = some u → (node.at? path = none ↔ t.Hides path)

theorem sighted_of_mirrors (t : Tree) (node : Node) (mirrors : Mirrors t node) (path : List Nat) :
    Sighted t node path := by
  rcases seen_or_hidden t node mirrors path with ⟨u, m, tree, seen, below⟩ | ⟨gone, why⟩
  · constructor
    · intro n hn
      cases Option.some.inj (seen.symm.trans hn)
      exact ⟨u, tree, below⟩
    · intro v _
      constructor
      · intro none
        rw [seen] at none
        contradiction
      · exact unseen_of_hides t node mirrors path
  · constructor
    · intro m hm
      rw [gone] at hm
      contradiction
    · intro u hu
      rcases why with absent | hides
      · rw [absent] at hu
        contradiction
      · exact ⟨fun _ => hides, fun _ => gone⟩

end SymbolMarkup
