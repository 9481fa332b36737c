import Mathlib.Data.List.Nodup
import SymbolMarkup.Body
import SymbolMarkup.Proofs.Subtrees
import SymbolMarkup.Proofs.Visible

/-! Names of attributes once they are shown as one text. A tag has no name twice, and what is shown
can be told apart as well, with one exception: foreign elements show `xmlns` behind an empty
qualifier and so just as a name that was written with the colon. -/
namespace SymbolMarkup

open Html (Namespace TagAttributes IsFolded Draft Tree Drawn drawn_children)
open Text (asciiLower)

def shownName (space : Namespace) (name : String) : String := (space.attributeName name).shown

def shownAttributes (space : Namespace) (written : TagAttributes) : List Attribute :=
  written.entries.map fun a => ⟨shownName space a.name, a.value⟩

def Clash (space : Namespace) (written : TagAttributes) : Prop :=
  space ≠ .html ∧ "xmlns" ∈ written.entries.map (·.name) ∧
    ":xmlns" ∈ written.entries.map (·.name)

/-! ### Reading a name back -/

theorem recase_folds (listed : List String) (name : String) (folded : IsFolded name.toList) :
    (Html.recase listed name).toList.map asciiLower = name.toList := by
  rw [Html.recase]
  cases found : listed.find? fun l => l.toList.map asciiLower == name.toList with
  | none => exact folded
  | some l => simpa using List.find?_some found

theorem foreignNames_shown : ∀ entry ∈ Html.foreignNames,
    entry.1 ≠ "xmlns" → entry.2.shown = entry.1 := by decide +kernel

theorem lookup_xmlns : Html.foreignNames.lookup "xmlns" = some ⟨some "", "xmlns"⟩ := by
  decide +kernel

theorem casedAttribute_folds (space : Namespace) (name : String) (folded : IsFolded name.toList) :
    (space.casedAttribute name).toList.map asciiLower = name.toList := by
  cases space with
  | html => exact folded
  | svg => exact recase_folds _ name folded
  | mathml => exact recase_folds _ name folded

theorem shownName_folds (space : Namespace) (name : String) (folded : IsFolded name.toList)
    (foreign : space ≠ .html) :
    (shownName space name).toList.map asciiLower =
      (if name = "xmlns" then ":xmlns" else name).toList := by
  have read : space.attributeName name =
      (Html.foreignNames.lookup name).getD ⟨none, space.casedAttribute name⟩ := by
    cases space with
    | html => contradiction
    | svg | mathml => rfl
  rw [shownName, read]
  by_cases plain : name = "xmlns"
  · rw [if_pos plain, plain, lookup_xmlns, Option.getD_some]
    decide
  · rw [if_neg plain]
    cases found : Html.foreignNames.lookup name with
    | none => exact casedAttribute_folds space name folded
    | some shown =>
      have listed : (name, shown) ∈ Html.foreignNames := by
        obtain ⟨front, back, cut, -⟩ := List.lookup_eq_some_iff.mp found
        rw [cut]
        exact List.mem_append_right front List.mem_cons_self
      rw [Option.getD_some, foreignNames_shown _ listed plain]
      exact folded

/-- Two names of one tag that are shown alike are the two that foreign elements confuse. -/
theorem shownName_injective (space : Namespace) (a b : String) (foldedA : IsFolded a.toList)
    (foldedB : IsFolded b.toList) (same : shownName space a = shownName space b) :
    a = b ∨ (space ≠ .html ∧ ((a = "xmlns" ∧ b = ":xmlns") ∨ (a = ":xmlns" ∧ b = "xmlns"))) := by
  by_cases html : space = .html
  · subst html
    exact .inl same
  · have first := shownName_folds space a foldedA html
    rw [same, shownName_folds space b foldedB html, String.toList_inj] at first
    by_cases plainA : a = "xmlns" <;> by_cases plainB : b = "xmlns"
    · exact .inl (plainA.trans plainB.symm)
    · rw [if_neg plainB, if_pos plainA] at first
      exact .inr ⟨html, .inl ⟨plainA, first⟩⟩
    · rw [if_pos plainB, if_neg plainA] at first
      exact .inr ⟨html, .inr ⟨first.symm, plainB⟩⟩
    · rw [if_neg plainB, if_neg plainA] at first
      exact .inl first.symm

theorem shownName_clash (space : Namespace) (foreign : space ≠ .html) :
    shownName space "xmlns" = ":xmlns" ∧ shownName space ":xmlns" = ":xmlns" := by
  cases space with
  | html => contradiction
  | svg | mathml => decide +kernel

section Written

variable (space : Namespace) (written : TagAttributes)

theorem shown_names : (shownAttributes space written).map (·.name) =
    (written.entries.map (·.name)).map (shownName space) := by
  simp [shownAttributes]

theorem folded_names : ∀ name ∈ written.entries.map (·.name), IsFolded name.toList := by
  intro name hn
  obtain ⟨a, ha, rfl⟩ := List.mem_map.mp hn
  exact written.folded a ha

theorem distinct_iff : ((shownAttributes space written).map (·.name)).Nodup ↔
    ¬ Clash space written := by
  have folded := folded_names written
  rw [shown_names, List.nodup_map_iff_inj_on written.distinct]
  constructor
  · rintro injective ⟨foreign, plain, colon⟩
    obtain ⟨first, second⟩ := shownName_clash space foreign
    have same := injective _ plain _ colon (first.trans second.symm)
    exact absurd same (by decide)
  · intro apart a ha b hb same
    rcases shownName_injective space a b (folded a ha) (folded b hb) same with
      equal | ⟨foreign, ⟨rfl, rfl⟩ | ⟨rfl, rfl⟩⟩
    · exact equal
    · exact absurd ⟨foreign, ha, hb⟩ apart
    · exact absurd ⟨foreign, hb, ha⟩ apart

theorem others_distinct :
    (((shownAttributes space written).map (·.name)).filter (· ≠ ":xmlns")).Nodup := by
  have folded := folded_names written
  rw [shown_names, List.filter_map, List.nodup_map_iff_inj_on (written.distinct.filter _)]
  intro a ha b hb same
  obtain ⟨listedA, shownA⟩ := List.mem_filter.mp ha
  obtain ⟨listedB, shownB⟩ := List.mem_filter.mp hb
  rcases shownName_injective space a b (folded a listedA) (folded b listedB) same with
    equal | ⟨foreign, ⟨rfl, rfl⟩ | ⟨rfl, rfl⟩⟩
  · exact equal
  · simp [(shownName_clash space foreign).1] at shownA
  · simp [(shownName_clash space foreign).1] at shownB

end Written

/-! ### Elements that were read -/

/-- An element comes from one in a tree, and carries what the tag of that one said, as the namespace
of that one shows it. -/
def Node.TaggedIn (t : Tree) : Node → Prop
  | .element tag attributes _ => ∃ path space written trees,
      t.at? path = some (.element ⟨space, tag⟩ (Draft.treeAttributes space written) trees) ∧
        attributes = shownAttributes space written
  | .text _ | .comment _ | .other _ => True

theorem taggedIn_child (t child : Tree) (k : Nat) (here : t.children[k]? = some child) (n : Node)
    (tagged : n.TaggedIn child) : n.TaggedIn t := by
  cases n with
  | element tag attributes children =>
    obtain ⟨path, space, written, trees, there, shown⟩ := tagged
    refine ⟨k :: path, space, written, trees, ?_, shown⟩
    rw [Tree.at?, here]
    exact there
  | _ => trivial

theorem drawn_attributes (d : Draft) (name : Html.ElementName)
    (attributes : List Html.TreeAttribute) (children : List Tree)
    (drawn : Drawn d (.element name attributes children)) :
    ∃ written, attributes = Draft.treeAttributes name.space written := by
  obtain ⟨depth, id, read⟩ := drawn
  cases depth with
  | zero => contradiction
  | succ depth =>
    rw [Draft.treeAt] at read
    cases cell : d.cells[id]? with
    | none => simp [cell] at read
    | some c =>
      cases content : c.content with
      | element n written =>
        simp only [cell, content] at read
        obtain ⟨rfl, rfl, -⟩ := Tree.element.inj read
        exact ⟨written, rfl⟩
      | _ => simp [cell, content] at read

mutual

theorem tagged_subtrees (d : Draft) (t : Tree) (drawn : Drawn d t) :
    ∀ n ∈ (Node.ofTree t).subtrees, n.TaggedIn t := by
  cases t with
  | element name attributes children =>
    obtain ⟨written, rfl⟩ := drawn_attributes d name attributes children drawn
    intro n hn
    rcases List.mem_cons.mp hn with rfl | below
    · refine ⟨[], name.space, written, children, rfl, ?_⟩
      simp [shownAttributes, shownName, Draft.treeAttributes]
    · obtain ⟨k, child, here, tagged⟩ := tagged_among d children (drawn_children d _ drawn) n below
      exact taggedIn_child (.element name _ children) child k here n tagged
  | _ =>
    intro n hn
    cases List.mem_singleton.mp hn
    trivial

theorem tagged_among (d : Draft) (ts : List Tree) (drawn : ∀ t ∈ ts, Drawn d t) :
    ∀ n ∈ Node.subtreesAmong (Node.ofTrees ts),
      ∃ (k : Nat) (t : Tree), ts[k]? = some t ∧ n.TaggedIn t := by
  cases ts with
  | nil => simp [Node.ofTrees, Node.subtreesAmong]
  | cons t rest =>
    obtain ⟨first, others⟩ := List.forall_mem_cons.mp drawn
    intro n hn
    rcases List.mem_append.mp hn with hn | hn
    · exact ⟨0, t, rfl, tagged_subtrees d t first n hn⟩
    · obtain ⟨k, u, here, tagged⟩ := tagged_among d rest others n hn
      exact ⟨k + 1, u, here, tagged⟩

end

theorem tagged_body (html : String) (nodes : List Node) (read : parseBody html = .ok nodes) :
    ∃ body, (Html.parse html).body? = some body ∧
      ∀ n ∈ Node.subtreesAmong nodes, n.TaggedIn body := by
  rw [parseBody, bodyNodes] at read
  cases found : (Html.parse html).body? with
  | none => simp [found] at read
  | some body =>
    simp only [found, Except.ok.injEq] at read
    subst read
    obtain ⟨root, isRoot, -⟩ := Option.bind_eq_some_iff.mp found
    obtain ⟨d, whole⟩ : ∃ d : Draft, Html.parse html = d.toTree := ⟨_, rfl⟩
    have drawn := body_drawn isRoot ⟨_, _, whole⟩ body found
    refine ⟨body, rfl, fun n hn => ?_⟩
    obtain ⟨k, child, here, tagged⟩ :=
      tagged_among d body.children (drawn_children d body drawn) n hn
    exact taggedIn_child body child k here n tagged

/-- The attributes of every element that was read have different names, unless a foreign element was
given both of the names that come to the same. No other name is ever shown twice. -/
theorem names_distinct_iff (html : String) (nodes : List Node) (read : parseBody html = .ok nodes)
    (tag : String) (attributes : List Attribute) (children : List Node)
    (inside : .element tag attributes children ∈ Node.subtreesAmong nodes) :
    ∃ body path space written trees, (Html.parse html).body? = some body ∧
      body.at? path = some (.element ⟨space, tag⟩ (Draft.treeAttributes space written) trees) ∧
      attributes = shownAttributes space written ∧
      ((attributes.map (·.name)).Nodup ↔ ¬ Clash space written) ∧
      ((attributes.map (·.name)).filter (· ≠ ":xmlns")).Nodup := by
  obtain ⟨body, found, tagged⟩ := tagged_body html nodes read
  obtain ⟨path, space, written, trees, there, rfl⟩ := tagged _ inside
  exact ⟨body, path, space, written, trees, found, there, rfl, distinct_iff space written,
    others_distinct space written⟩

def drawing : String := "<p Title=t title=u><svg viewbox=a xlink:href=b XMLNS=c>"

def drawingAttributes : List Attribute := [⟨"viewBox", "a"⟩, ⟨"xlink:href", "b"⟩, ⟨":xmlns", "c"⟩]

def drawingNodes : List Node :=
  [.element "p" [⟨"title", "t"⟩] [.element "svg" drawingAttributes []]]

theorem names_distinct_drawing :
    parseBody drawing = .ok drawingNodes ∧
    .element "svg" drawingAttributes [] ∈ Node.subtreesAmong drawingNodes ∧
    ∃ body path space written trees, (Html.parse drawing).body? = some body ∧
      body.at? path = some (.element ⟨space, "svg"⟩ (Draft.treeAttributes space written) trees) ∧
      drawingAttributes = shownAttributes space written ∧
      ((drawingAttributes.map (·.name)).Nodup ↔ ¬ Clash space written) ∧
      ((drawingAttributes.map (·.name)).filter (· ≠ ":xmlns")).Nodup := by
  have read : parseBody drawing = .ok drawingNodes := ok_of_toOption _ _ (by decide +kernel)
  have inside : .element "svg" drawingAttributes [] ∈ Node.subtreesAmong drawingNodes := by decide
  exact ⟨read, inside,
    names_distinct_iff drawing drawingNodes read "svg" drawingAttributes [] inside⟩

def twiceNamed : String := "<svg xmlns=a :xmlns=b>"

def confused : List Attribute := [⟨":xmlns", "a"⟩, ⟨":xmlns", "b"⟩]

theorem xmlns_shown_twice :
    parseBody twiceNamed = .ok [.element "svg" confused []] ∧
    .element "svg" confused [] ∈ Node.subtreesAmong [.element "svg" confused []] ∧
    ¬ (confused.map (·.name)).Nodup ∧
    (convert {} twiceNamed).result = .ok "'svg(\n  ':xmlns /= \"a\",\n  ':xmlns /= \"b\"\n)" := by
  have inside : .element "svg" confused [] ∈ Node.subtreesAmong [.element "svg" confused []] := by
    decide
  have twice : ¬ (confused.map (·.name)).Nodup := by decide
  have read : parseBody twiceNamed = .ok [.element "svg" confused []] :=
    ok_of_toOption _ _ (by decide +kernel)
  refine ⟨read, inside, twice, ?_⟩
  rw [convert, read]
  rfl

end SymbolMarkup
