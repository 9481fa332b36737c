import SymbolMarkup.Proofs.Mirror
import SymbolMarkup.Proofs.Runs

/-! Documents and their bodies. The nodes of a document mirror the first body in its root, and in a
document that was read nothing is out of sight but the contents of templates. -/
namespace SymbolMarkup

open Html (Tree Draft Drawn ElementName)

/-! ### Templates -/

/-- Below the fragment of a template. -/
def Html.Tree.InTemplate (t : Tree) (path : List Nat) : Prop :=
  ∃ front k back template fragment, path = front ++ k :: back ∧ back ≠ [] ∧
    t.at? front = some template ∧ template.kind = .element (.html "template") ∧
    template.children[k]? = some fragment ∧ fragment.kind = .fragment

section Read

variable {d : Draft} {t u : Tree}

theorem drawn_at (path : List Nat) (drawn : Drawn d t) (there : t.at? path = some u) :
    Drawn d u := by
  induction path generalizing t with
  | nil => exact Option.some.inj there ▸ drawn
  | cons k path ih =>
    obtain ⟨child, here, below⟩ := Option.bind_eq_some_iff.mp there
    exact ih (Html.drawn_children d t drawn child (List.mem_of_getElem? here)) below

theorem children_of_at? (back : List Nat) (more : back ≠ []) (there : t.at? back = some u) :
    t.children ≠ [] := by
  obtain ⟨k, rest, rfl⟩ := List.exists_cons_of_ne_nil more
  intro empty
  rw [Tree.at?, empty] at there
  contradiction

theorem inTemplate_of_hides (placed : d.Placed) (drawn : Drawn d t)
    (element : t.elementName? ≠ none) (path : List Nat) (there : t.at? path = some u)
    (hides : t.Hides path) : t.InTemplate path := by
  obtain ⟨front, back, v, rfl, more, at_v, other⟩ := hides
  rcases List.eq_nil_or_concat front with rfl | ⟨front, k, rfl⟩
  · cases Option.some.inj at_v
    contradiction
  · rw [tree_at?_append, at_v, Option.bind_some] at there
    have filled := children_of_at? back more there
    -- what hides the path has a parent, in which it fits
    rw [List.concat_eq_append, tree_at?_append, Option.bind_eq_some_iff] at at_v
    obtain ⟨parent, at_parent, child⟩ := at_v
    obtain ⟨w, here, same⟩ := Option.bind_eq_some_iff.mp child
    cases Option.some.inj same
    have parent_drawn := drawn_at front drawn at_parent
    rcases Html.fits_of_drawn placed parent parent_drawn v (List.mem_of_getElem? here) with
      rfl | ⟨noDocument, inTemplate⟩
    · contradiction
    · cases v with
      | fragment contents =>
        exact ⟨front, k, back, parent, _, by simp, more, at_parent, inTemplate rfl, here, rfl⟩
      | _ => contradiction

theorem hides_of_inTemplate (path : List Nat) (inTemplate : t.InTemplate path) : t.Hides path := by
  obtain ⟨front, k, back, template, fragment, rfl, more, at_template, -, here, kind⟩ := inTemplate
  refine ⟨front ++ [k], back, fragment, by simp, more, ?_, ?_⟩
  · rw [tree_at?_append, at_template, Option.bind_some, Tree.at?, here]
    rfl
  · cases fragment with
    | fragment contents => rfl
    | _ => contradiction

end Read

/-! ### Bodies -/

def Html.Tree.IsBody (t : Tree) : Prop := ∃ name, t.elementName? = some name ∧ name.name = "body"

theorem isBody_iff (t : Tree) :
    (t.elementName?.any fun n => n.name == "body") = true ↔ t.IsBody := by
  cases h : t.elementName? <;> simp [Tree.IsBody, h]

section Root

variable {document root : Tree} (isRoot : document.root? = some root)
include isRoot

theorem body?_eq_some_iff (body : Tree) : document.body? = some body ↔
    body.IsBody ∧ ∃ before after, root.children = before ++ body :: after ∧
      ∀ t ∈ before, ¬ t.IsBody := by
  rw [Tree.body?, isRoot, Option.bind_some, List.find?_eq_some_iff_append, isBody_iff]
  simp only [Bool.not_eq_true', Bool.eq_false_iff, ne_eq, isBody_iff]

theorem body?_eq_none_iff : document.body? = none ↔ ∀ t ∈ root.children, ¬ t.IsBody := by
  rw [Tree.body?, isRoot, Option.bind_some, List.find?_eq_none]
  simp only [isBody_iff]

theorem body_drawn {d : Draft} (drawn : Drawn d document) (body : Tree)
    (found : document.body? = some body) : Drawn d body := by
  have root_drawn := Html.drawn_children d document drawn root (List.mem_of_find?_eq_some isRoot)
  rw [Tree.body?, isRoot, Option.bind_some] at found
  exact Html.drawn_children d root root_drawn body (List.mem_of_find?_eq_some found)

end Root

theorem children_ofTree (t : Tree) (element : t.elementName? ≠ none) :
    (Node.ofTree t).children = Node.ofTrees t.children := by
  cases t with
  | element name attributes children => rfl
  | _ => contradiction

theorem body_mirrored (document root : Tree) (isRoot : document.root? = some root) :
    (∀ (before after : List Tree) (body : Tree), root.children = before ++ body :: after →
      body.IsBody → (∀ t ∈ before, ¬ t.IsBody) →
      ∃ node, bodyNodes document = .ok node.children ∧
        node.children = Node.ofChecked body.children ∧ Mirrors body node ∧
        (∀ path, Sighted body node path) ∧
        ∀ html, document = Html.parse html → parseBody html = .ok node.children ∧
          ∀ path u, body.at? path = some u →
            (node.at? path = none ↔ body.InTemplate path)) ∧
    ((∀ t ∈ root.children, ¬ t.IsBody) → bodyNodes document = .error .missingBody ∧
      ∀ html, document = Html.parse html → parseBody html = .error .missingBody) := by
  constructor
  · intro before after body listed isBody earlier
    have found : document.body? = some body :=
      (body?_eq_some_iff isRoot body).mpr ⟨isBody, before, after, listed, earlier⟩
    obtain ⟨name, isElement, -⟩ := isBody
    have element : body.elementName? ≠ none := by simp [isElement]
    have mirrors := mirrors_ofTree body
    have sighted := sighted_of_mirrors body _ mirrors
    have children := children_ofTree body element
    have nodes : bodyNodes document = .ok (Node.ofTree body).children := by
      rw [bodyNodes, found, children]
    refine ⟨Node.ofTree body, nodes, ?_, mirrors, sighted, ?_⟩
    · rw [children, ofChecked_eq]
    · rintro html rfl
      refine ⟨nodes, fun path u there => ?_⟩
      obtain ⟨d, placed, read⟩ := Html.parse_placed html
      have drawn := body_drawn isRoot ⟨_, _, read⟩ body found
      rw [(sighted path).unseen u there]
      exact ⟨inTemplate_of_hides placed drawn element path there, hides_of_inTemplate path⟩
  · intro noBody
    have missing : bodyNodes document = .error .missingBody := by
      rw [bodyNodes, (body?_eq_none_iff isRoot).mpr noBody]
    refine ⟨missing, ?_⟩
    rintro html rfl
    exact missing

theorem ok_of_toOption {ε α : Type} (answer : Except ε α) (a : α)
    (some : answer.toOption = some a) : answer = .ok a := by
  cases answer with
  | error e => contradiction
  | ok b => exact congrArg Except.ok (Option.some.inj some)

def page : String := "<!doctype html><p ID=a>x<template>y<i>z</i></template><svg xlink:href=w>"

def pageNodes : List Node :=
  [.element "p" [⟨"id", "a"⟩]
    [.text "x", .element "template" [] [.other "document-fragment"],
      .element "svg" [⟨"xlink:href", "w"⟩] []]]

def framesPage : String := "<frameset></frameset>"

/-- The contents of the template are out of sight, and a page of frames has no body. -/
theorem body_mirrored_page :
    (∃ root before body after node, (Html.parse page).root? = some root ∧
      root.children = before ++ body :: after ∧ body.IsBody ∧ (∀ t ∈ before, ¬ t.IsBody) ∧
      parseBody page = .ok pageNodes ∧ node.children = pageNodes ∧ Mirrors body node ∧
      (body.at? [0, 1, 0, 1, 0]).isSome ∧ body.InTemplate [0, 1, 0, 1, 0]) ∧
    parseBody framesPage = .error .missingBody := by
  constructor
  · obtain ⟨root, isRoot⟩ : ∃ root, (Html.parse page).root? = some root :=
      Option.isSome_iff_exists.mp (by decide +kernel)
    obtain ⟨u, deep⟩ : ∃ u, ((Html.parse page).body?.bind (·.at? [0, 1, 0, 1, 0])) = some u :=
      Option.isSome_iff_exists.mp (by decide +kernel)
    obtain ⟨body, found, there⟩ := Option.bind_eq_some_iff.mp deep
    obtain ⟨isBody, before, after, listed, earlier⟩ := (body?_eq_some_iff isRoot body).mp found
    obtain ⟨node, -, -, mirrors, -, parsed⟩ :=
      (body_mirrored (Html.parse page) root isRoot).1 before after body listed isBody earlier
    obtain ⟨converted, hidden⟩ := parsed page rfl
    have read : parseBody page = .ok pageNodes := ok_of_toOption _ _ (by decide +kernel)
    have shown : node.children = pageNodes := Except.ok.inj (converted.symm.trans read)
    refine ⟨root, before, body, after, node, isRoot, listed, isBody, earlier, read, shown, mirrors,
      by rw [there]; rfl, ?_⟩
    apply (hidden _ u there).mp
    rw [Node.at?, shown]
    rfl
  · obtain ⟨root, isRoot⟩ : ∃ root, (Html.parse framesPage).root? = some root :=
      Option.isSome_iff_exists.mp (by decide +kernel)
    have none : (Html.parse framesPage).body? = none :=
      Option.isNone_iff_eq_none.mp (by decide +kernel)
    have noBody := (body?_eq_none_iff isRoot).mp none
    exact ((body_mirrored (Html.parse framesPage) root isRoot).2 noBody).2 framesPage rfl

end SymbolMarkup
