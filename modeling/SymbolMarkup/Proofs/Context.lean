import SymbolMarkup.Proofs.Siblings

/-! A tree with a hole among the children of one of its elements. What is written around the hole is
settled by the tree alone: no comma, no separator and no closing line looks at what the hole holds.
The hole stands two spaces deeper for each element around it, whichever sibling it is, although the
line that separates it from the sibling before may be indented one level less. -/
namespace SymbolMarkup

inductive Context where
  | hole
  | within (tag : String) (attributes : List Attribute) (before : List Node) (inner : Context)
      (after : List Node)

namespace Context

def fill : Context → Node → Node
  | .hole, node => node
  | .within tag attributes before inner after, node =>
    .element tag attributes (before ++ inner.fill node :: after)

def depth : Context → Nat
  | .hole => 0
  | .within _ _ _ inner _ => inner.depth + 1

/-- The trees beside the way to the hole that come before it, in document order. -/
def nodesBefore : Context → List Node
  | .hole => []
  | .within _ _ before inner _ => before ++ inner.nodesBefore

def nodesAfter : Context → List Node
  | .hole => []
  | .within _ _ _ inner after => inner.nodesAfter ++ after

def front (s : SiblingIndent) (indent : List Char) : Context → List Char
  | .hole => []
  | .within tag attributes before inner _ =>
    opening (Text.lowercase tag) ++
      (attributeLines indent true (attributes.map Attribute.normal) ++
        (Form.writtenAll s (deeper indent) (s.separator indent) (deeper indent)
            (Node.forms before) ++
          (leadAfter (s.separator indent) (deeper indent) (Node.forms before) ++
            inner.front s (deeper indent))))

def back (s : SiblingIndent) (indent : List Char) : Context → List Char
  | .hole => []
  | .within _ _ _ inner after =>
    inner.back s (deeper indent) ++
      (Form.writtenAll s (deeper indent) (s.separator indent) (',' :: '\n' :: s.separator indent)
          (Node.forms after) ++ '\n' :: (indent ++ [')']))

theorem unsupportedKinds_fill (c : Context) (node : Node) :
    (c.fill node).unsupportedKinds =
      Node.unsupportedKindsAmong c.nodesBefore ++ (node.unsupportedKinds ++
        Node.unsupportedKindsAmong c.nodesAfter) := by
  induction c with
  | hole => simp [fill, nodesBefore, nodesAfter, Node.unsupportedKindsAmong]
  | within tag attributes before inner after ih =>
    rw [fill, Node.unsupportedKinds, unsupportedKindsAmong_append, Node.unsupportedKindsAmong, ih,
      nodesBefore, nodesAfter, unsupportedKindsAmong_append, unsupportedKindsAmong_append]
    simp only [List.append_assoc]

theorem deeper_replicate (indent : List Char) (n : Nat) :
    deeper indent ++ List.replicate (2 * n) ' ' = indent ++ List.replicate (2 * (n + 1)) ' ' := by
  have sum : 2 * (n + 1) = 2 + 2 * n := by omega
  rw [deeper, List.append_assoc, sum, ← List.replicate_append_replicate]
  rfl

theorem form?_fill (s : SiblingIndent) (indent : List Char) (c : Context) (node : Node) (f : Form)
    (present : node.form? = some f) :
    ∃ g, (c.fill node).form? = some g ∧
      g.written s indent =
        c.front s indent ++
          (f.written s (indent ++ List.replicate (2 * c.depth) ' ') ++ c.back s indent) := by
  induction c generalizing indent with
  | hole => exact ⟨f, present, by simp [front, back, depth]⟩
  | within tag attributes before inner after ih =>
    obtain ⟨g, filled, inside⟩ := ih (deeper indent)
    have children : (before ++ inner.fill node :: after).isEmpty = false := by simp
    have forms : Node.forms (before ++ inner.fill node :: after) =
        Node.forms before ++ g :: Node.forms after := by
      rw [forms_append, Node.forms, filled]
      rfl
    refine ⟨_, by rw [fill, Node.form?, if_neg (by simp [children])], ?_⟩
    rw [Form.written, forms, writtenAll_append, Form.writtenAll, inside, deeper_replicate, front,
      back, depth]
    simp only [List.append_assoc]

end Context

def spaces (n : Nat) : String := String.ofList (List.replicate n ' ')

/-- Whatever node fills the hole, the text and the reports around its own stay the same. -/
theorem edits_local (o : Options) (indent : String) (c : Context)
    (supported : o.unsupported = .error →
      Node.unsupportedKindsAmong (c.nodesBefore ++ c.nodesAfter) = []) :
    ∃ (early late : List Event) (front back : String), ∀ (node : Node) (shown : String),
      (renderNode o (indent ++ spaces (2 * c.depth)) node).result = .ok (some shown) →
      renderNode o indent (c.fill node) =
        ⟨early ++ (renderNode o (indent ++ spaces (2 * c.depth)) node).events ++ late,
          .ok (some (front ++ shown ++ back))⟩ := by
  refine ⟨Traced.reported o.unsupported (Node.unsupportedKindsAmong c.nodesBefore),
    Traced.reported o.unsupported (Node.unsupportedKindsAmong c.nodesAfter),
    String.ofList (c.front o.siblingIndent indent.toList),
    String.ofList (c.back o.siblingIndent indent.toList), fun node shown rendered => ?_⟩
  rw [renderNode_eq, Traced.meeting_ok_iff] at rendered
  obtain ⟨tolerated, answer⟩ := rendered
  obtain ⟨f, present, rfl⟩ := Option.map_eq_some_iff.mp answer
  obtain ⟨g, filled, written⟩ := c.form?_fill o.siblingIndent indent.toList node f present
  have beside := (Traced.tolerated_append o.unsupported _ _).mp
    (unsupportedKindsAmong_append c.nodesBefore c.nodesAfter ▸ supported)
  have all : Traced.Tolerated o.unsupported (c.fill node).unsupportedKinds := by
    rw [c.unsupportedKinds_fill, Traced.tolerated_append, Traced.tolerated_append]
    exact ⟨beside.1, tolerated, beside.2⟩
  rw [renderNode_eq o indent, Traced.meeting_tolerated _ _ _ all, filled, renderNode_eq,
    Traced.meeting_events, c.unsupportedKinds_fill, Traced.reported_append,
    Traced.reported_append, Option.map_some, written]
  simp [spaces, String.ofList_append, String.append_assoc]

def outline : Context :=
  .within "UL" [⟨"id", "x"⟩] [.text " ", .comment "c"]
    (.within "Li" [] [.text "first"] .hole [.text "\n"]) [.element "br" [] []]

theorem edits_local_outline :
    (UnsupportedPolicy.error = .error →
      Node.unsupportedKindsAmong (outline.nodesBefore ++ outline.nodesAfter) = []) ∧
    (renderNode ⟨.parent, .error⟩ ("" ++ spaces (2 * outline.depth)) (.text "y\nz")).result =
      .ok (some "\"\"\"y\nz\"\"\"") ∧
    (renderNode ⟨.parent, .error⟩ ("" ++ spaces (2 * outline.depth))
      (.element "b" [] [.text "y"])).result = .ok (some "'b(\n      \"y\"\n    )") ∧
    ∃ front back : String,
      (renderNode ⟨.parent, .error⟩ "" (outline.fill (.text "y\nz"))).result =
        .ok (some (front ++ "\"\"\"y\nz\"\"\"" ++ back)) ∧
      (renderNode ⟨.parent, .error⟩ "" (outline.fill (.element "b" [] [.text "y"]))).result =
        .ok (some (front ++ "'b(\n      \"y\"\n    )" ++ back)) := by
  have supported : UnsupportedPolicy.error = .error →
      Node.unsupportedKindsAmong (outline.nodesBefore ++ outline.nodesAfter) = [] := fun _ => rfl
  have text : (renderNode ⟨.parent, .error⟩ ("" ++ spaces (2 * outline.depth))
      (.text "y\nz")).result = .ok (some "\"\"\"y\nz\"\"\"") := by
    rw [renderNode_eq]
    rfl
  have element : (renderNode ⟨.parent, .error⟩ ("" ++ spaces (2 * outline.depth))
      (.element "b" [] [.text "y"])).result = .ok (some "'b(\n      \"y\"\n    )") := by
    rw [renderNode_eq]
    rfl
  obtain ⟨early, late, front, back, filled⟩ := edits_local ⟨.parent, .error⟩ "" outline supported
  exact ⟨supported, text, element, front, back, by rw [filled _ _ text],
    by rw [filled _ _ element]⟩

end SymbolMarkup
