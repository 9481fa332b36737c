import Mathlib.Data.List.TakeDrop
import SymbolMarkup.Html.Draft

/-! Which nodes of a draft stand below which. A document stands below nothing and a fragment below a
template only, and whatever a draft is asked to do, it stays that way. -/
namespace SymbolMarkup.Html

inductive Kind where
  | document
  | fragment
  | element (name : ElementName)
  | leaf
  deriving DecidableEq

def Content.kind : Content → Kind
  | .document => .document
  | .fragment => .fragment
  | .element name _ => .element name
  | .text _ | .comment _ | .doctype => .leaf

namespace Draft

variable {d d' : Draft}

def kind? (d : Draft) (id : NodeId) : Option Kind := d.cells[id]?.map (·.content.kind)

def Fits (d : Draft) (parent child : NodeId) : Prop :=
  ∃ kind, d.kind? child = some kind ∧ kind ≠ .document ∧
    (kind = .fragment → d.kind? parent = some (.element (.html "template")))

def Plain (d : Draft) (id : NodeId) : Prop :=
  ∃ kind, d.kind? id = some kind ∧ kind ≠ .document ∧ kind ≠ .fragment

def Placed (d : Draft) : Prop := ∀ parent, ∀ child ∈ d.children parent, d.Fits parent child

/-- Nodes stay what they are, and those that have moved fit where they are now. -/
structure Grows (d d' : Draft) : Prop where
  kept : ∀ id kind, d.kind? id = some kind → d'.kind? id = some kind
  moved : ∀ parent, ∀ child ∈ d'.children parent, child ∈ d.children parent ∨ d'.Fits parent child

theorem Plain.fits {id : NodeId} (plain : d.Plain id) (parent : NodeId) : d.Fits parent id := by
  obtain ⟨kind, known, noDocument, noFragment⟩ := plain
  exact ⟨kind, known, noDocument, fun fragment => absurd fragment noFragment⟩

theorem plain_of_element {id : NodeId} {name : ElementName}
    (known : d.kind? id = some (.element name)) : d.Plain id :=
  ⟨.element name, known, by simp, by simp⟩

theorem plain_of_leaf {id : NodeId} (known : d.kind? id = some .leaf) : d.Plain id :=
  ⟨.leaf, known, by simp, by simp⟩

theorem Grows.fits (grows : d.Grows d') {parent child : NodeId} (fits : d.Fits parent child) :
    d'.Fits parent child := by
  obtain ⟨kind, known, noDocument, inTemplate⟩ := fits
  exact ⟨kind, grows.kept child kind known, noDocument,
    fun fragment => grows.kept parent _ (inTemplate fragment)⟩

theorem Grows.plain (grows : d.Grows d') {id : NodeId} (plain : d.Plain id) : d'.Plain id := by
  obtain ⟨kind, known, other⟩ := plain
  exact ⟨kind, grows.kept id kind known, other⟩

theorem Grows.refl (d : Draft) : d.Grows d := ⟨fun _ _ known => known, fun _ _ here => .inl here⟩

theorem Grows.trans {e : Draft} (first : d.Grows d') (second : d'.Grows e) : d.Grows e := by
  constructor
  · intro id kind known
    exact second.kept id kind (first.kept id kind known)
  · intro parent child here
    rcases second.moved parent child here with before | fits
    · rcases first.moved parent child before with first | fits
      · exact .inl first
      · exact .inr (second.fits fits)
    · exact .inr fits

theorem Grows.placed (grows : d.Grows d') (placed : d.Placed) : d'.Placed := by
  intro parent child here
  rcases grows.moved parent child here with before | fits
  · exact grows.fits (placed parent child before)
  · exact fits

/-! ### One step -/

theorem kind?_modify (d : Draft) (id : NodeId) (f : Cell → Cell)
    (same : ∀ c, (f c).content.kind = c.content.kind) : (d.modify id f).kind? = d.kind? := by
  funext other
  rw [kind?, kind?, modify, Array.getElem?_modify]
  split
  · cases d.cells[other]? with
    | none => rfl
    | some c => exact congrArg some (same c)
  · rfl

theorem mem_children_modify (d : Draft) (id : NodeId) (f : Cell → Cell) (parent child : NodeId)
    (here : child ∈ (d.modify id f).children parent) :
    child ∈ d.children parent ∨
      ∃ c, d.cells[id]? = some c ∧ parent = id ∧ child ∈ (f c).children := by
  rw [children, modify, Array.getElem?_modify] at here
  by_cases there : id = parent
  · subst there
    cases cell : d.cells[id]? with
    | none => simp [cell] at here
    | some c => exact .inr ⟨c, rfl, rfl, by simpa [cell] using here⟩
  · rw [if_neg there] at here
    exact .inl here

theorem grows_modify (d : Draft) (id : NodeId) (f : Cell → Cell)
    (same : ∀ c, (f c).content.kind = c.content.kind)
    (listed : ∀ c, d.cells[id]? = some c → ∀ child ∈ (f c).children,
      child ∈ c.children ∨ d.Fits id child) : d.Grows (d.modify id f) := by
  have kinds := kind?_modify d id f same
  constructor
  · intro other kind known
    rw [kinds]
    exact known
  · intro parent child here
    rcases mem_children_modify d id f parent child here with before | ⟨c, cell, rfl, inside⟩
    · exact .inl before
    · rcases listed c cell child inside with before | fits
      · left
        rw [children, cell]
        exact before
      · right
        rw [Fits, kinds]
        exact fits

theorem grows_relist (d : Draft) (parent : NodeId) (f : Array NodeId → Array NodeId)
    (listed : ∀ ids, ∀ child ∈ f ids, child ∈ ids ∨ d.Fits parent child) :
    d.Grows (d.modify parent fun c => { c with children := f c.children }) :=
  grows_modify d parent _ (fun _ => rfl) fun c _ child here => listed c.children child here

theorem grows_setParent (d : Draft) (id : NodeId) (parent : Option NodeId) :
    d.Grows (d.modify id fun c => { c with parent }) :=
  grows_modify d id _ (fun _ => rfl) fun _ _ _ here => .inl here

theorem kind?_create (d : Draft) (content : Content) :
    (d.create content).1.kind? (d.create content).2 = some content.kind := by
  simp [create, kind?]

theorem grows_create (d : Draft) (content : Content) : d.Grows (d.create content).1 := by
  constructor
  · intro id kind known
    rw [kind?, Option.map_eq_some_iff] at known
    obtain ⟨c, cell, rfl⟩ := known
    have inside := (Array.getElem?_eq_some_iff.mp cell).1
    rw [kind?, create, Array.getElem?_push_lt inside, ← Array.getElem?_eq_getElem inside, cell]
    rfl
  · intro parent child here
    left
    rw [children, create, Array.getElem?_push] at here
    split at here
    · rename_i c cell
      split at cell
      · cases cell
        simp at here
      · rw [children, cell]
        exact here
    · simp at here

theorem grows_detach (d : Draft) (id : NodeId) : d.Grows (d.detach id) := by
  rw [detach]
  cases d.parent? id with
  | none => exact .refl d
  | some parent =>
    have left := grows_relist d parent (·.erase id) fun ids child here =>
      .inl (Array.mem_of_mem_erase here)
    exact left.trans (grows_setParent _ id none)

theorem grows_append (d : Draft) (parent id : NodeId) (fits : d.Fits parent id) :
    d.Grows (d.append parent id) := by
  have freed := grows_detach d id
  have listed := grows_relist (d.detach id) parent (·.push id) fun ids child here => by
    rcases Array.mem_push.mp here with before | rfl
    · exact .inl before
    · exact .inr (freed.fits fits)
  exact freed.trans (listed.trans (grows_setParent _ id (some parent)))

theorem mem_span_insert (ids : List NodeId) (sibling id child : NodeId)
    (here : child ∈ (ids.span (· ≠ sibling)).1 ++ id :: (ids.span (· ≠ sibling)).2) :
    child ∈ ids ∨ child = id := by
  rw [List.span_eq_takeWhile_dropWhile, List.mem_append, List.mem_cons] at here
  have cut := List.takeWhile_append_dropWhile (p := (· ≠ sibling)) (l := ids)
  rw [← cut, List.mem_append]
  rcases here with front | rfl | back
  · exact .inl (.inl front)
  · exact .inr rfl
  · exact .inl (.inr back)

theorem grows_insertBefore (d : Draft) (sibling id : NodeId) (plain : d.Plain id) :
    d.Grows (d.insertBefore sibling id) := by
  have freed := grows_detach d id
  simp only [insertBefore]
  cases (d.detach id).parent? sibling with
  | none => exact freed
  | some parent =>
    have listed := grows_relist (d.detach id) parent
      (fun ids => ((ids.toList.span (· ≠ sibling)).1 ++
        id :: (ids.toList.span (· ≠ sibling)).2).toArray) fun ids child here => by
      rcases mem_span_insert _ sibling id child (List.mem_toArray.mp here) with before | rfl
      · exact .inl (Array.mem_toList_iff.mp before)
      · exact .inr ((freed.plain plain).fits parent)
    exact freed.trans (listed.trans (grows_setParent _ id (some parent)))

theorem grows_extendText (d : Draft) (id : NodeId) (more : String) :
    d.Grows (d.extendText id more) := by
  refine grows_modify d id _ ?_ ?_
  · intro c
    split
    · rename_i content text
      rw [text]
      rfl
    · rfl
  · intro c _ child here
    left
    split at here <;> exact here

theorem grows_mergeAttributes (d : Draft) (id : NodeId) (more : TagAttributes) :
    d.Grows (d.mergeAttributes id more) := by
  refine grows_modify d id _ ?_ ?_
  · intro c
    split
    · rename_i name attributes element
      rw [element]
      rfl
    · rfl
  · intro c _ child here
    left
    split at here <;> exact here

/-! ### Several steps -/

theorem grows_appendText (d : Draft) (parent : NodeId) (content : String) :
    d.Grows (d.appendText parent content) := by
  rw [appendText]
  split
  · exact grows_extendText d _ content
  · have plain := plain_of_leaf (kind?_create d (.text content))
    exact (grows_create d _).trans (grows_append _ parent _ (plain.fits parent))

theorem grows_insertTextBefore (d : Draft) (sibling : NodeId) (content : String) :
    d.Grows (d.insertTextBefore sibling content) := by
  simp only [insertTextBefore]
  split
  · exact grows_extendText d _ content
  · have plain := plain_of_leaf (kind?_create d (.text content))
    exact (grows_create d _).trans (grows_insertBefore _ sibling _ plain)

theorem grows_appendAll (target : NodeId) (ids : List NodeId) (d : Draft)
    (fits : ∀ id ∈ ids, d.Fits target id) :
    d.Grows (ids.foldl (fun d id => d.append target id) d) := by
  induction ids generalizing d with
  | nil => exact .refl d
  | cons id rest ih =>
    obtain ⟨first, others⟩ := List.forall_mem_cons.mp fits
    have step := grows_append d target id first
    exact step.trans (ih _ fun other here => step.fits (others other here))

/-- The children of an element that is no template may go anywhere. -/
theorem grows_moveChildren (d : Draft) (source target : NodeId) (placed : d.Placed)
    (ordinary : d.kind? source ≠ some (.element (.html "template"))) :
    d.Grows (d.moveChildren source target) := by
  rw [moveChildren, ← Array.foldl_toList]
  apply grows_appendAll
  intro id here
  obtain ⟨kind, known, noDocument, inTemplate⟩ := placed source id (Array.mem_toList_iff.mp here)
  exact ⟨kind, known, noDocument, fun fragment => absurd (inTemplate fragment) ordinary⟩

end Draft

/-! ### Trees that are read off a draft -/

variable {d : Draft}

def Drawn (d : Draft) (t : Tree) : Prop := ∃ depth id, t = d.treeAt depth id

theorem exists_child (t : Tree) (drawn : Drawn d t) (child : Tree) (here : child ∈ t.children) :
    ∃ depth parent id, t = d.treeAt (depth + 1) parent ∧ id ∈ d.children parent ∧
      child = d.treeAt depth id := by
  obtain ⟨depth, parent, rfl⟩ := drawn
  cases depth with
  | zero => simp [Draft.treeAt, Tree.children] at here
  | succ depth =>
    refine ⟨depth, parent, ?_⟩
    rw [Draft.treeAt] at here
    rw [Draft.children]
    cases cell : d.cells[parent]? with
    | none => simp [cell, Tree.children] at here
    | some c =>
      rw [cell] at here
      have listed : child ∈ c.children.toList.map (d.treeAt depth) := by
        cases content : c.content <;> simp_all [Tree.children]
      obtain ⟨id, inside, rfl⟩ := List.mem_map.mp listed
      exact ⟨id, rfl, Array.mem_toList_iff.mp inside, rfl⟩

theorem drawn_children (d : Draft) (t : Tree) (drawn : Drawn d t) :
    ∀ child ∈ t.children, Drawn d child := by
  intro child here
  obtain ⟨depth, parent, id, -, -, read⟩ := exists_child t drawn child here
  exact ⟨depth, id, read⟩

def Tree.kind : Tree → Kind
  | .document _ => .document
  | .fragment _ => .fragment
  | .element name _ _ => .element name
  | .text _ | .comment _ | .doctype | .processingInstruction => .leaf

/-- Where a draft cannot be read there is an empty document. -/
theorem kind_treeAt (d : Draft) (depth : Nat) (id : NodeId) :
    d.treeAt depth id = .document [] ∨ d.kind? id = some (d.treeAt depth id).kind := by
  cases depth with
  | zero => exact .inl rfl
  | succ depth =>
    rw [Draft.treeAt, Draft.kind?]
    cases cell : d.cells[id]? with
    | none => exact .inl rfl
    | some c =>
      right
      rcases c with ⟨content, parent, children⟩
      cases content <;> rfl

def Tree.Fits (parent child : Tree) : Prop :=
  child = .document [] ∨
    child.kind ≠ .document ∧ (child.kind = .fragment → parent.kind = .element (.html "template"))

theorem fits_of_drawn (placed : d.Placed) (t : Tree) (drawn : Drawn d t) (child : Tree)
    (here : child ∈ t.children) : t.Fits child := by
  obtain ⟨depth, parent, id, rfl, inside, rfl⟩ := exists_child t drawn child here
  obtain ⟨kind, known, noDocument, inTemplate⟩ := placed parent id inside
  rcases kind_treeAt d depth id with empty | read
  · exact .inl empty
  · right
    cases Option.some.inj (read.symm.trans known)
    refine ⟨noDocument, fun fragment => ?_⟩
    rcases kind_treeAt d (depth + 1) parent with empty | above
    · rw [empty] at here
      contradiction
    · exact Option.some.inj (above.symm.trans (inTemplate fragment))

end SymbolMarkup.Html
