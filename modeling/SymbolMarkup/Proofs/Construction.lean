import SymbolMarkup.Html.Document
import SymbolMarkup.Proofs.Placement

/-! Tree construction never puts a node where it does not fit: each of its steps keeps the draft in
order, and the open elements in the draft. -/
namespace SymbolMarkup.Html

def Draft.Has (d : Draft) (e : OpenElement) : Prop := d.kind? e.id = some (.element e.name)

/-- The draft is in order, and the elements at hand are nodes of it. -/
structure Sound (draft : Draft) (stack : List OpenElement) (head : Option OpenElement) : Prop where
  placed : draft.Placed
  stack : ∀ e ∈ stack, draft.Has e
  head : ∀ e ∈ head, draft.Has e

def State.Sound (s : State) : Prop := Html.Sound s.draft s.stack s.head

namespace Sound

variable {draft grown : Draft} {stack shorter : List OpenElement} {head : Option OpenElement}

theorem narrow (sound : Sound draft stack head) (part : ∀ e ∈ shorter, e ∈ stack) :
    Sound draft shorter head :=
  ⟨sound.placed, fun e he => sound.stack e (part e he), sound.head⟩

theorem grow (sound : Sound draft stack head) (grows : draft.Grows grown) :
    Sound grown stack head := by
  constructor
  · exact grows.placed sound.placed
  · exact fun e he => grows.kept e.id _ (sound.stack e he)
  · exact fun e he => grows.kept e.id _ (sound.head e he)

theorem opened (sound : Sound draft stack head) {e : OpenElement} (has : draft.Has e) :
    Sound draft (e :: stack) head := by
  refine ⟨sound.placed, ?_, sound.head⟩
  intro other here
  rcases List.mem_cons.mp here with rfl | before
  · exact has
  · exact sound.stack other before

end Sound

namespace State

variable {s s' : State}

/-! ### Shortening the stack -/

theorem sound_pop (sound : s.Sound) : s.pop.Sound :=
  sound.narrow fun _ here => List.mem_of_mem_tail here

theorem sound_dropWhile (sound : s.Sound) (p : OpenElement → Bool) :
    { s with stack := s.stack.dropWhile p }.Sound :=
  sound.narrow fun _ here => (List.dropWhile_suffix p).subset here

theorem sound_popThrough (sound : s.Sound) (names : List String) : (s.popThrough names).Sound :=
  sound_pop (sound_dropWhile sound _)

theorem sound_popDownTo (sound : s.Sound) (names : List String) : (s.popDownTo names).Sound :=
  sound_dropWhile sound _

theorem sound_popImplied (sound : s.Sound) (names : List String) : (s.popImplied names).Sound :=
  sound_dropWhile sound _

theorem sound_popImpliedExcept (sound : s.Sound) (name : String) :
    (s.popImpliedExcept name).Sound :=
  sound_popImplied sound _

theorem sound_removeFromStack (sound : s.Sound) (id : NodeId) : (s.removeFromStack id).Sound :=
  sound.narrow fun _ here => List.mem_of_mem_eraseP here

theorem sound_closeParagraph (sound : s.Sound) : s.closeParagraph.Sound :=
  sound_popThrough (sound_popImplied sound _) _

theorem sound_closeParagraphInScope (sound : s.Sound) : s.closeParagraphInScope.Sound := by
  rw [closeParagraphInScope]
  split
  · exact sound_closeParagraph sound
  · exact sound

/-! ### Adding nodes -/

structure Adds (s s' : State) : Prop where
  grows : s.draft.Grows s'.draft
  stack : s'.stack = s.stack
  head : s'.head = s.head

theorem Adds.trans {s'' : State} (first : Adds s s') (second : Adds s' s'') : Adds s s'' :=
  ⟨first.grows.trans second.grows, second.stack.trans first.stack, second.head.trans first.head⟩

theorem Adds.sound (adds : Adds s s') (sound : s.Sound) : s'.Sound := by
  rw [State.Sound, adds.stack, adds.head]
  exact sound.grow adds.grows

theorem adds_placeNode (s : State) (point : InsertionPoint) (id : NodeId)
    (plain : s.draft.Plain id) : Adds s (s.placeNode point id) := by
  cases point with
  | lastChild parent => exact ⟨Draft.grows_append _ parent id (plain.fits parent), rfl, rfl⟩
  | beforeTable table around =>
    rw [placeNode]
    split
    · exact ⟨Draft.grows_insertBefore _ table id plain, rfl, rfl⟩
    · exact ⟨Draft.grows_append _ around id (plain.fits around), rfl, rfl⟩

theorem adds_placeText (s : State) (point : InsertionPoint) (content : String) :
    Adds s (s.placeText point content) := by
  cases point with
  | lastChild parent => exact ⟨Draft.grows_appendText _ parent content, rfl, rfl⟩
  | beforeTable table around =>
    rw [placeText]
    split
    · exact ⟨Draft.grows_insertTextBefore _ table content, rfl, rfl⟩
    · exact ⟨Draft.grows_appendText _ around content, rfl, rfl⟩

theorem sound_appendText (sound : s.Sound) (cs : List Char) : (s.appendText cs).Sound :=
  (adds_placeText s _ _).sound sound

theorem adds_create {content : Content} {id : NodeId} (made : s.create content = (s', id)) :
    Adds s s' ∧ s'.draft.kind? id = some content.kind := by
  cases made
  exact ⟨⟨Draft.grows_create s.draft content, rfl, rfl⟩, Draft.kind?_create s.draft content⟩

theorem sound_placeComment (sound : s.Sound) (content : String) (id : NodeId)
    (point : InsertionPoint) (made : s.create (.comment content) = (s', id)) :
    (s'.placeNode point id).Sound := by
  obtain ⟨adds, known⟩ := adds_create made
  have plain := Draft.plain_of_leaf known
  exact (adds.trans (adds_placeNode s' point id plain)).sound sound

theorem sound_appendComment (sound : s.Sound) (content : String) :
    (s.appendComment content).Sound :=
  sound_placeComment sound content _ _ rfl

theorem sound_appendCommentTo (sound : s.Sound) (parent : NodeId) (content : String) :
    (s.appendCommentTo parent content).Sound :=
  sound_placeComment sound content _ _ rfl

theorem adds_createElement {name : ElementName} {attributes : TagAttributes} {id : NodeId}
    (made : s.createElement name attributes = (s', id)) : Adds s s' ∧ s'.draft.Has ⟨id, name⟩ := by
  obtain ⟨s₁, outer, start⟩ : ∃ s₁ id, s.create (.element name attributes) = (s₁, id) := ⟨_, _, rfl⟩
  obtain ⟨adds, known⟩ := adds_create start
  simp only [createElement, start] at made
  split at made
  · rename_i template
    obtain ⟨s₂, inner, filled⟩ : ∃ s₂ content, s₁.create .fragment = (s₂, content) := ⟨_, _, rfl⟩
    obtain ⟨more, fragment⟩ := adds_create filled
    have kept := more.grows.kept outer _ known
    have named : name = .html "template" := by
      cases name
      simpa [ElementName.isHtml, ElementName.html] using template
    have fits : s₂.draft.Fits outer inner :=
      ⟨.fragment, fragment, by simp, fun _ => named ▸ kept⟩
    have grows := Draft.grows_append s₂.draft outer inner fits
    rw [filled] at made
    cases made
    exact ⟨adds.trans (more.trans ⟨grows, rfl, rfl⟩), grows.kept id _ kept⟩
  · cases made
    exact ⟨adds, known⟩

theorem adds_insertClosed {name : ElementName} {attributes : TagAttributes} {e : OpenElement}
    (made : s.insertClosed name attributes = (s', e)) : Adds s s' ∧ s'.draft.Has e := by
  obtain ⟨s₁, id, start⟩ : ∃ s₁ id, s.createElement name attributes = (s₁, id) := ⟨_, _, rfl⟩
  obtain ⟨adds, has⟩ := adds_createElement start
  have placed := adds_placeNode s₁ (s₁.insertionPoint s₁.current?) id (Draft.plain_of_element has)
  simp only [insertClosed, start] at made
  cases made
  exact ⟨adds.trans placed, placed.grows.kept id _ has⟩

theorem sound_insertClosed (sound : s.Sound) (name : ElementName) (attributes : TagAttributes) :
    (s.insertClosed name attributes).1.Sound :=
  (adds_insertClosed rfl).1.sound sound

theorem insertOpen_has (s : State) (name : ElementName) (attributes : TagAttributes) :
    (s.insertOpen name attributes).1.draft.Has (s.insertOpen name attributes).2 :=
  (adds_insertClosed (s := s) rfl).2

theorem sound_insertOpen (sound : s.Sound) (name : ElementName) (attributes : TagAttributes) :
    (s.insertOpen name attributes).1.Sound :=
  (sound_insertClosed sound name attributes).opened (insertOpen_has s name attributes)

theorem sound_insert (sound : s.Sound) (tag : Tag) : (s.insert tag).Sound :=
  sound_insertOpen sound _ _

theorem sound_insertVoid (sound : s.Sound) (tag : Tag) : (s.insertVoid tag).Sound :=
  sound_insertClosed sound _ _

theorem sound_insertNamed (sound : s.Sound) (name : String) : (s.insertNamed name).1.Sound :=
  sound_insertOpen sound _ _

theorem sound_insertRaw (sound : s.Sound) (tag : Tag) (reading : String → Reading) :
    (s.insertRaw tag reading).Sound :=
  sound_insert sound tag

/-! ### Formatting elements -/

theorem sound_reopen (sound : s.Sound) (entries : List FormattingEntry) :
    (s.reopen entries).Sound := by
  induction entries generalizing s with
  | nil => exact sound
  | cons entry rest ih =>
    cases entry with
    | marker => exact ih sound
    | element id tag =>
      rw [reopen]
      exact ih (sound_insertOpen sound (.html tag.name) tag.attributes)

theorem sound_reconstruct (sound : s.Sound) : s.reconstruct.Sound := by
  simp only [reconstruct]
  split
  · exact sound
  · apply sound_reopen
    exact sound

theorem sound_insertFormatting (sound : s.Sound) (tag : Tag) : (s.insertFormatting tag).Sound := by
  simp only [insertFormatting]
  apply sound_insertOpen
  split
  · cases (s.recentFormatting.filter _).getLast? <;> exact sound
  · exact sound

theorem sound_closeGeneric (sound : s.Sound) (name : String) : (s.closeGeneric name).Sound := by
  rw [closeGeneric]
  split
  · exact sound
  · exact sound_pop (sound_dropWhile sound _)

/-- What has been climbed past: the copies are in the draft, and nothing was opened or closed. -/
structure Climbed (s : State) (c : Climb) : Prop where
  adds : Adds s c.state
  kept : ∀ e ∈ c.kept, c.state.draft.Has e
  last : c.state.draft.Plain c.lastNode

theorem climbed_step (block : NodeId) (c : Climb) (count : Nat) (e : OpenElement)
    (climbed : Climbed s c) : Climbed s (climbStep block c count e) := by
  rw [climbStep]
  split
  · rename_i id tag found
    split
    · exact ⟨climbed.adds.trans ⟨.refl _, rfl, rfl⟩, climbed.kept, climbed.last⟩
    · obtain ⟨s₁, copy, made⟩ :
          ∃ s₁ copy, c.state.createElement (.html tag.name) tag.attributes = (s₁, copy) :=
        ⟨_, _, rfl⟩
      obtain ⟨adds, has⟩ := adds_createElement made
      have grows := Draft.grows_append s₁.draft copy c.lastNode
        ((adds.grows.plain climbed.last).fits copy)
      simp only [made]
      refine ⟨climbed.adds.trans (adds.trans ⟨grows, rfl, rfl⟩), ?_, ?_⟩
      · intro other here
        rcases List.mem_cons.mp here with rfl | before
        · exact grows.kept _ _ has
        · exact grows.kept _ _ (adds.grows.kept _ _ (climbed.kept other before))
      · exact grows.plain (Draft.plain_of_element has)
  · exact climbed

theorem climbed_climb (block : NodeId) (between : List OpenElement) (c : Climb) (count : Nat)
    (climbed : Climbed s c) : Climbed s (climb block c count between) := by
  induction between generalizing c count with
  | nil => exact climbed
  | cons e rest ih => exact ih _ _ (climbed_step block c count e climbed)

/-- The children of the block move, so it must not be a template. -/
theorem sound_wrap (tag : Tag) (block : OpenElement) (inner outer : List OpenElement)
    (sound : Html.Sound s.draft (inner ++ block :: outer) s.head)
    (ordinary : block.name ≠ .html "template") {copy : NodeId}
    (made : s.createElement (.html tag.name) tag.attributes = (s', copy)) :
    Html.Sound ((s'.draft.moveChildren block.id copy).append block.id copy)
      (inner ++ ⟨copy, .html tag.name⟩ :: block :: outer) s'.head := by
  obtain ⟨adds, has⟩ := adds_createElement made
  rw [adds.head]
  have block_has := sound.stack block (List.mem_append_right inner List.mem_cons_self)
  have known := adds.grows.kept _ _ block_has
  have moved := Draft.grows_moveChildren s'.draft block.id copy (adds.grows.placed sound.placed)
    (by simpa [known] using ordinary)
  have plain := moved.plain (Draft.plain_of_element has)
  have around := moved.trans (Draft.grows_append _ _ _ (plain.fits block.id))
  have grows := adds.grows.trans around
  refine ⟨grows.placed sound.placed, ?_, fun e he => grows.kept _ _ (sound.head e he)⟩
  intro e he
  rcases List.mem_append.mp he with before | here
  · exact grows.kept _ _ (sound.stack e (List.mem_append_left _ before))
  · rcases List.mem_cons.mp here with rfl | after
    · exact around.kept _ _ has
    · exact grows.kept _ _ (sound.stack e (List.mem_append_right _ after))

theorem sound_rearrange (sound : s.Sound) (formatter : OpenElement) (tag : Tag)
    (above below : List OpenElement) (open_above : ∀ e ∈ above, e ∈ s.stack)
    (open_below : ∀ e ∈ below, e ∈ s.stack) (ordinary : ∀ e ∈ above, e.name ≠ .html "template")
    (next : State) (done : s.rearrange formatter tag above below = some next) : next.Sound := by
  rw [rearrange] at done
  split at done
  · rename_i block ancestor found around
    have block_above : block ∈ above := List.mem_reverse.mp (List.mem_of_find?_eq_some found)
    have block_has := sound.stack block (open_above block block_above)
    have climbed := climbed_climb block.id (above.dropWhile (·.id ≠ block.id)).tail
      ⟨s, [], block.id, .replace formatter.id⟩ 1
      ⟨⟨.refl _, rfl, rfl⟩, by simp, Draft.plain_of_element block_has⟩
    dsimp only at done
    -- the stages of the round: past the climb, the last node taken out, the last node put back
    generalize climb block.id _ 1 _ = c at climbed done
    generalize freed : { c.state with draft := c.state.draft.detach c.lastNode } = s₁ at done
    have adds : Adds c.state s₁ := by
      subst freed
      exact ⟨Draft.grows_detach _ _, rfl, rfl⟩
    have placed := adds_placeNode s₁ (s₁.insertionPoint (some ancestor)) c.lastNode
      (adds.grows.plain climbed.last)
    generalize s₁.placeNode _ c.lastNode = s₂ at placed done
    have later := adds.trans placed
    have total := climbed.adds.trans later
    rw [← Option.some.inj done]
    -- the stack of this round is made of elements that were open and of copies
    refine sound_wrap tag block _ _ ⟨total.grows.placed sound.placed, ?_, ?_⟩
      (ordinary block block_above) rfl
    · intro e he
      rcases List.mem_append.mp he with inner | outer
      · have opened := open_above e ((List.takeWhile_sublist _).subset inner)
        exact total.grows.kept _ _ (sound.stack e opened)
      · rcases List.mem_cons.mp outer with rfl | rest
        · exact total.grows.kept _ _ block_has
        · rcases List.mem_append.mp rest with copied | outside
          · exact later.grows.kept _ _ (climbed.kept e (List.mem_reverse.mp copied))
          · exact total.grows.kept _ _ (sound.stack e (open_below e outside))
    · rw [total.head]
      exact fun e he => total.grows.kept _ _ (sound.head e he)
  · contradiction

/-- What stands above an element in scope bounds no scope, so it is no template. -/
theorem ordinary_above (id : NodeId) (stack : List OpenElement)
    (inScope : inScopeBy (·.id == id) boundsScope stack = true) :
    ∀ e ∈ stack.takeWhile (·.id ≠ id), e.name ≠ .html "template" := by
  induction stack with
  | nil => simp
  | cons top rest ih =>
    intro e he
    rw [List.takeWhile_cons] at he
    split at he
    · rename_i other
      rw [inScopeBy] at inScope
      have passed : boundsScope top.name = false ∧
          inScopeBy (·.id == id) boundsScope rest = true := by
        simpa [of_decide_eq_true other] using inScope
      rcases List.mem_cons.mp he with rfl | below
      · rintro template
        rw [template] at passed
        exact absurd passed.1 (by decide)
      · exact ih passed.2 e below
    · contradiction

theorem sound_adopt (sound : s.Sound) (name : String) (rounds : Nat) :
    (adopt name rounds s).Sound := by
  induction rounds generalizing s with
  | zero => exact sound
  | succ rounds ih =>
    rw [adopt]
    split
    · exact sound_closeGeneric sound name
    · rename_i id tag found
      split
      · exact sound
      · rename_i formatter below rest
        have outside : ∀ e ∈ below, e ∈ s.stack := fun e he =>
          (List.dropWhile_suffix _).subset (rest ▸ List.mem_cons_of_mem formatter he)
        split
        · exact sound
        · rename_i inScope
          split
          · rename_i next done
            have ordinary := ordinary_above id s.stack (by simpa using inScope)
            apply ih
            exact sound_rearrange sound formatter tag _ below
              (fun e he => (List.takeWhile_sublist _).subset he) outside ordinary next done
          · exact sound.narrow outside

theorem sound_closeFormatting (sound : s.Sound) (name : String) :
    (s.closeFormatting name).Sound := by
  rw [closeFormatting]
  split
  · split
    · exact sound_pop sound
    · exact sound_adopt sound name 8
  · exact sound_adopt sound name 8

theorem sound_closeOpenLink (sound : s.Sound) : s.closeOpenLink.Sound := by
  rw [closeOpenLink]
  split
  · exact sound
  · exact sound_removeFromStack (sound_closeFormatting sound "a") _

end State

end SymbolMarkup.Html
