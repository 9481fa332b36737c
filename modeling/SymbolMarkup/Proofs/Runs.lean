import SymbolMarkup.Proofs.Construction

/-! Every rule of tree construction keeps the draft in order, and so does a run over any input. In
every document that is read, fragments stand below templates only. -/
namespace SymbolMarkup.Html

open State

def Outcome.Sound : Outcome → Prop
  | .done s | .again s _ _ => s.Sound

def Rule.Sound (rule : Rule) : Prop := ∀ s token, s.Sound → (rule s token).Sound

attribute [simp] sound_pop sound_popThrough sound_popDownTo sound_popImplied sound_popImpliedExcept
  sound_removeFromStack sound_closeParagraph sound_closeParagraphInScope sound_appendText
  sound_appendComment sound_appendCommentTo sound_insertClosed sound_insertOpen sound_insert
  sound_insertVoid sound_insertNamed sound_insertRaw sound_reconstruct sound_insertFormatting
  sound_closeGeneric sound_closeFormatting sound_closeOpenLink

section Outcomes

variable {s : State} {c : Prop} [Decidable c]

@[simp] theorem sound_done : (Outcome.done s).Sound ↔ s.Sound := Iff.rfl

@[simp] theorem sound_again (mode : Mode) (token : Token) :
    (Outcome.again s mode token).Sound ↔ s.Sound := Iff.rfl

@[simp] theorem sound_setMode (mode : Mode) : (s.setMode mode).Sound ↔ s.Sound := Iff.rfl

@[simp] theorem sound_forbidFrames : s.forbidFrames.Sound ↔ s.Sound := Iff.rfl

@[simp] theorem sound_pushMarker : s.pushMarker.Sound ↔ s.Sound := Iff.rfl

@[simp] theorem sound_clearToMarker : s.clearToMarker.Sound ↔ s.Sound := Iff.rfl

@[simp] theorem sound_ite (a b : State) :
    (if c then a else b).Sound ↔ (c → a.Sound) ∧ (¬ c → b.Sound) := by
  split <;> simp [*]

@[simp] theorem outcome_ite (a b : Outcome) :
    (if c then a else b).Sound ↔ (c → a.Sound) ∧ (¬ c → b.Sound) := by
  split <;> simp [*]

@[simp] theorem sound_mk (draft : Draft) (mode returnMode : Mode) (templateModes : List Mode)
    (tableText : List (List Char)) (oldLayout : Bool) (stack : List OpenElement)
    (formatting : List FormattingEntry) (head : Option OpenElement) (form : Option NodeId)
    (framesAllowed skipNewline fosterParenting : Bool) (reading : Reading) :
    (State.mk draft mode returnMode templateModes tableText oldLayout stack formatting head form
      framesAllowed skipNewline fosterParenting reading).Sound ↔ Html.Sound draft stack head :=
  Iff.rfl

@[simp] theorem sound_parts : Html.Sound s.draft s.stack s.head ↔ s.Sound := Iff.rfl

end Outcomes

section Steps

variable {s : State}

@[simp] theorem sound_createRoot (sound : s.Sound) (attributes : TagAttributes) :
    (s.createRoot attributes).Sound := by
  obtain ⟨s', id, made⟩ : ∃ s' id, s.createElement (.html "html") attributes = (s', id) :=
    ⟨_, _, rfl⟩
  obtain ⟨adds, has⟩ := adds_createElement made
  have plain := Draft.plain_of_element has
  have grows := Draft.grows_append s'.draft Draft.documentId id (plain.fits Draft.documentId)
  rw [createRoot, made]
  exact ((adds.sound sound).grow grows).opened (grows.kept id _ has)

@[simp] theorem sound_mergeIntoRoot (sound : s.Sound) (tag : Tag) :
    (s.mergeIntoRoot tag).Sound := by
  rw [mergeIntoRoot]
  split
  · exact sound
  · cases s.rootElement? with
    | none => exact sound
    | some root => exact sound.grow (Draft.grows_mergeAttributes _ root.id _)

@[simp] theorem sound_insertHead (sound : s.Sound) (tag : Tag) : (s.insertHead tag).Sound := by
  have opened := sound_insertOpen sound (.html "head") tag.attributes
  have has := insertOpen_has s (.html "head") tag.attributes
  refine ⟨opened.placed, opened.stack, ?_⟩
  intro e he
  cases Option.mem_some.mp he
  exact has

@[simp] theorem sound_openTemplate (sound : s.Sound) (tag : Tag) : (s.openTemplate tag).Sound := by
  simp [openTemplate, sound]

@[simp] theorem sound_leaveTemplate (sound : s.Sound) : s.leaveTemplate.Sound := by
  simp [leaveTemplate, sound]

@[simp] theorem sound_closeTemplate (sound : s.Sound) : s.closeTemplate.Sound := by
  simp [closeTemplate, sound]

end Steps

/-! ### Before the body -/

theorem sound_initial : Rule.Sound initial := by
  intro s token sound
  cases token <;> simp [initial, sound]

theorem sound_beforeHtml : Rule.Sound beforeHtml := by
  intro s token sound
  cases token <;> simp [beforeHtml, sound]

theorem sound_beforeHead : Rule.Sound beforeHead := by
  intro s token sound
  cases token <;> simp [beforeHead, sound]

theorem sound_inHead : Rule.Sound inHead := by
  intro s token sound
  cases token <;> simp [inHead, sound]

theorem sound_map (f : State → State) (keeps : ∀ s : State, s.Sound → (f s).Sound) (o : Outcome)
    (sound : o.Sound) : (o.map f).Sound := by
  cases o with
  | done s => exact keeps s sound
  | again s mode token => exact keeps s sound

theorem sound_lateHead (s : State) (token : Token) (sound : s.Sound) (head : OpenElement)
    (there : s.head = some head) :
    ((inHead (s.push head) token).map (·.removeFromStack head.id)).Sound := by
  have pushed : (s.push head).Sound := sound.opened (sound.head head there)
  exact sound_map _ (fun _ kept => sound_removeFromStack kept head.id) _
    (sound_inHead _ token pushed)

theorem sound_afterHead : Rule.Sound afterHead := by
  intro s token sound
  cases token with
  | startTag tag =>
    have late := sound_lateHead s (.startTag tag) sound
    cases there : s.head with
    | none => simp [afterHead, sound, there]
    | some head => simp [afterHead, sound, there, late head there]
  | endTag name => simp [afterHead, sound, sound_inHead s _ sound]
  | _ => simp [afterHead, sound]

theorem sound_templateAtEnd : Rule.Sound templateAtEnd := by
  intro s token sound
  simp [templateAtEnd, sound]

/-! ### The body -/

section Steps

variable {s : State}

@[simp] theorem sound_insertForeign (sound : s.Sound) (space : Namespace) (tag : Tag) :
    (s.insertForeign space tag).Sound := by
  simp [insertForeign, sound]

@[simp] theorem sound_insertBlock (sound : s.Sound) (tag : Tag) : (s.insertBlock tag).Sound := by
  simp [insertBlock, sound]

@[simp] theorem sound_closeInScope (sound : s.Sound) (name : String) :
    (s.closeInScope name).Sound := by
  simp [closeInScope, sound]

@[simp] theorem sound_mergeIntoBody (sound : s.Sound) (tag : Tag) :
    (s.mergeIntoBody tag).Sound := by
  rw [mergeIntoBody]
  split
  · rename_i body _
    split
    · exact sound
    · exact sound.grow (Draft.grows_mergeAttributes _ body.id _)
  · exact sound

@[simp] theorem sound_replaceBody (sound : s.Sound) (tag : Tag) : (s.replaceBody tag).Sound := by
  rw [replaceBody]
  split
  · rename_i body _ _
    apply sound_insert
    refine (sound.grow (Draft.grows_detach _ body.id)).narrow ?_
    intro e he
    exact List.mem_of_getLast? (Option.mem_toList.mp he)
  · exact sound

@[simp] theorem sound_insertItem (sound : s.Sound) (names : List String) (tag : Tag) :
    (s.insertItem names tag).Sound := by
  apply sound_insertBlock
  cases itemToClose names s.forbidFrames.stack with
  | none => exact sound
  | some name => exact sound_popThrough (sound_popImpliedExcept sound name) [name]

@[simp] theorem sound_insertHeading (sound : s.Sound) (tag : Tag) :
    (s.insertHeading tag).Sound := by
  apply sound_insert
  split
  · exact sound_pop (sound_closeParagraphInScope sound)
  · exact sound_closeParagraphInScope sound

@[simp] theorem sound_insertForm (sound : s.Sound) (tag : Tag) : (s.insertForm tag).Sound := by
  simp [insertForm, sound]

@[simp] theorem sound_closeForm (sound : s.Sound) : s.closeForm.Sound := by
  rw [closeForm]
  cases s.form <;> simp [sound]

@[simp] theorem sound_insertButton (sound : s.Sound) (tag : Tag) : (s.insertButton tag).Sound :=
  sound_insert (sound_reconstruct (sound_closeInScope sound "button")) tag

@[simp] theorem sound_closeItem (sound : s.Sound) (name : String) : (s.closeItem name).Sound := by
  simp [closeItem, sound]

@[simp] theorem sound_closeHeading (sound : s.Sound) : s.closeHeading.Sound := by
  simp [closeHeading, sound]

@[simp] theorem sound_insertLink (sound : s.Sound) (tag : Tag) : (s.insertLink tag).Sound :=
  sound_insertFormatting (sound_reconstruct (sound_closeOpenLink sound)) tag

@[simp] theorem sound_insertUnbroken (sound : s.Sound) (tag : Tag) :
    (s.insertUnbroken tag).Sound := by
  have open_again := sound_reconstruct sound
  apply sound_insertFormatting
  split
  · exact sound_reconstruct (sound_closeFormatting open_again "nobr")
  · exact open_again

@[simp] theorem sound_insertTable (sound : s.Sound) (tag : Tag) : (s.insertTable tag).Sound := by
  simp [insertTable, sound]

@[simp] theorem sound_insertSelect (sound : s.Sound) (tag : Tag) : (s.insertSelect tag).Sound := by
  simp [insertSelect, sound]

@[simp] theorem sound_insertOption (sound : s.Sound) (tag : Tag) : (s.insertOption tag).Sound := by
  apply sound_insert
  apply sound_reconstruct
  split
  · exact sound_pop sound
  · exact sound

@[simp] theorem sound_insertRuby (sound : s.Sound) (except : String) (tag : Tag) :
    (s.insertRuby except tag).Sound := by
  simp [insertRuby, sound]

@[simp] theorem sound_insertInlineVoid (sound : s.Sound) (tag : Tag) :
    (s.insertInlineVoid tag).Sound := by
  simp [insertInlineVoid, sound]

end Steps

theorem sound_bodyStartTag (s : State) (sound : s.Sound) (tag : Tag) :
    (bodyStartTag s tag).Sound := by
  have closed := sound_closeParagraphInScope sound
  simp [bodyStartTag, sound, closed, sound_inHead s _ sound]

theorem sound_bodyEndTag (s : State) (sound : s.Sound) (name : String) :
    (bodyEndTag s name).Sound := by
  simp [bodyEndTag, sound, sound_inHead s _ sound]

theorem sound_inBody : Rule.Sound inBody := by
  intro s token sound
  cases token with
  | startTag tag => exact sound_bodyStartTag s sound tag
  | endTag name => exact sound_bodyEndTag s sound name
  | endOfInput => simp [inBody, sound, sound_templateAtEnd s _ sound]
  | _ => simp [inBody, sound]

/-! ### Tables and select elements -/

theorem sound_foster : Rule.Sound foster := by
  intro s token sound
  have body := sound_inBody { s with fosterParenting := true } token sound
  exact sound_map (fun s => { s with fosterParenting := false }) (fun _ kept => kept) _ body

theorem sound_tableCharacters : Rule.Sound tableCharacters := by
  intro s token sound
  simp [tableCharacters, sound, sound_foster s token sound]

theorem sound_tableStartTag (s : State) (sound : s.Sound) (tag : Tag) :
    (tableStartTag s tag).Sound := by
  simp [tableStartTag, sound, sound_inHead s _ sound, sound_foster s _ sound]

theorem sound_tableEndTag (s : State) (sound : s.Sound) (name : String) :
    (tableEndTag s name).Sound := by
  simp [tableEndTag, sound, sound_inHead s _ sound, sound_foster s _ sound]

theorem sound_inTable : Rule.Sound inTable := by
  intro s token sound
  cases token with
  | text cs => exact sound_tableCharacters s _ sound
  | null => exact sound_tableCharacters s _ sound
  | startTag tag => exact sound_tableStartTag s sound tag
  | endTag name => exact sound_tableEndTag s sound name
  | endOfInput => exact sound_inBody s .endOfInput sound
  | comment content => exact sound_appendComment sound content
  | flaw => exact sound
  | doctype d => exact sound

theorem sound_foldl {α : Type} (step : State → α → State)
    (keeps : ∀ s a, s.Sound → (step s a).Sound) (items : List α) (s : State) (sound : s.Sound) :
    (items.foldl step s).Sound := by
  induction items generalizing s with
  | nil => exact sound
  | cons a rest ih => exact ih (step s a) (keeps s a sound)

theorem sound_fosterText (s : State) (cs : List Char) (sound : s.Sound) :
    (fosterText s cs).Sound := by
  have fostered := sound_foster s (.text cs) sound
  rw [fosterText]
  cases fosterd : foster s (.text cs) <;> rwa [fosterd] at fostered

theorem sound_inTableText : Rule.Sound inTableText := by
  intro s token sound
  have blank := sound_foldl appendText fun s cs kept => sound_appendText kept cs
  have moved := sound_foldl fosterText sound_fosterText
  cases token with
  | text cs => exact sound
  | null => exact sound
  | _ =>
    simp only [inTableText, sound_again]
    split
    · exact blank _ _ sound
    · exact moved _ _ sound

theorem sound_leaveCaption (s : State) (sound : s.Sound) (next : State → Outcome)
    (keeps : ∀ s : State, s.Sound → (next s).Sound) : (leaveCaption s next).Sound := by
  rw [leaveCaption]
  split
  · exact keeps _ (sound_popThrough (sound_popImplied sound impliedEnds) ["caption"])
  · exact sound

theorem sound_inCaption : Rule.Sound inCaption := by
  intro s token sound
  have leave := sound_leaveCaption s sound
  have body := sound_inBody s token sound
  cases token <;> simp [inCaption, sound, leave, body]

theorem sound_inColumnGroup : Rule.Sound inColumnGroup := by
  intro s token sound
  have head := sound_inHead s token sound
  have body := sound_inBody s token sound
  cases token <;> simp [inColumnGroup, sound, head, body]

theorem sound_inTableBody : Rule.Sound inTableBody := by
  intro s token sound
  have table := sound_inTable s token sound
  cases token <;> simp [inTableBody, sound, table]

theorem sound_inRow : Rule.Sound inRow := by
  intro s token sound
  have table := sound_inTable s token sound
  cases token <;> simp [inRow, sound, table]

theorem sound_inCell : Rule.Sound inCell := by
  intro s token sound
  have body := sound_inBody s token sound
  cases token <;> simp [inCell, closeCell, sound, body]

@[simp] theorem sound_popIfCurrent (name : String) (s : State) (sound : s.Sound) :
    (popIfCurrent name s).Sound := by
  simp [popIfCurrent, sound]

theorem sound_leaveSelect (s : State) (sound : s.Sound) (next : State → Outcome)
    (keeps : ∀ s : State, s.Sound → (next s).Sound) : (leaveSelect s next).Sound := by
  rw [leaveSelect]
  split
  · exact keeps _ (sound_popThrough sound ["select"])
  · exact sound

theorem sound_inSelect : Rule.Sound inSelect := by
  intro s token sound
  have leave := sound_leaveSelect s sound
  have option := sound_popIfCurrent "option" s sound
  have group := sound_popIfCurrent "optgroup" _ option
  have head := sound_inHead s token sound
  have body := sound_inBody s token sound
  cases token <;> simp [inSelect, sound, leave, option, group, head, body]

theorem sound_inSelectInTable : Rule.Sound inSelectInTable := by
  intro s token sound
  have select := sound_inSelect s token sound
  cases token <;> simp [inSelectInTable, sound, select]

theorem sound_inTemplate : Rule.Sound inTemplate := by
  intro s token sound
  have head := sound_inHead s token sound
  have body := sound_inBody s token sound
  have ended := sound_templateAtEnd s token sound
  cases token <;> simp [inTemplate, sound, head, body, ended]

/-! ### Raw text, framesets and endings -/

theorem sound_rawText : Rule.Sound rawText := by
  intro s token sound
  cases token <;> simp [rawText, sound]

theorem sound_afterBody : Rule.Sound afterBody := by
  intro s token sound
  have body := sound_inBody s token sound
  cases token <;> simp [afterBody, sound, body]

theorem sound_afterAfterBody : Rule.Sound afterAfterBody := by
  intro s token sound
  have body := sound_inBody s token sound
  cases token <;> simp [afterAfterBody, sound, body]

theorem sound_closeFrameset (s : State) (sound : s.Sound) : (closeFrameset s).Sound := by
  simp [closeFrameset, sound]

theorem sound_inFrameset : Rule.Sound inFrameset := by
  intro s token sound
  have head := sound_inHead s token sound
  cases token <;> simp [inFrameset, sound, sound_closeFrameset, head]

theorem sound_afterFrameset : Rule.Sound afterFrameset := by
  intro s token sound
  have head := sound_inHead s token sound
  cases token <;> simp [afterFrameset, sound, head]

theorem sound_afterAfterFrameset : Rule.Sound afterAfterFrameset := by
  intro s token sound
  have head := sound_inHead s token sound
  have body := sound_inBody s token sound
  cases token <;> simp [afterAfterFrameset, sound, head, body]

theorem sound_rule (mode : Mode) : mode.rule.Sound := by
  cases mode with
  | initial => exact sound_initial
  | beforeHtml => exact sound_beforeHtml
  | beforeHead => exact sound_beforeHead
  | inHead => exact sound_inHead
  | afterHead => exact sound_afterHead
  | inBody => exact sound_inBody
  | text => exact sound_rawText
  | inTable => exact sound_inTable
  | inTableText => exact sound_inTableText
  | inCaption => exact sound_inCaption
  | inColumnGroup => exact sound_inColumnGroup
  | inTableBody => exact sound_inTableBody
  | inRow => exact sound_inRow
  | inCell => exact sound_inCell
  | inSelect => exact sound_inSelect
  | inSelectInTable => exact sound_inSelectInTable
  | inTemplate => exact sound_inTemplate
  | afterBody => exact sound_afterBody
  | inFrameset => exact sound_inFrameset
  | afterFrameset => exact sound_afterFrameset
  | afterAfterBody => exact sound_afterAfterBody
  | afterAfterFrameset => exact sound_afterAfterFrameset

/-! ### Foreign content -/

theorem closeForeign_part (name : String) (stack rest : List OpenElement)
    (closed : closeForeign name stack = some (some rest)) : ∀ e ∈ rest, e ∈ stack := by
  fun_induction closeForeign name stack with
  | case1 | case2 => cases Option.some.inj closed
  | case3 e outer below same =>
    cases closed
    exact fun e he => List.mem_cons_of_mem _ he
  | case4 => contradiction
  | case5 e outer below other deeper ih =>
    exact fun e he => List.mem_cons_of_mem _ (ih closed e he)

theorem sound_foreignContent : Rule.Sound foreignContent := by
  intro s token sound
  have left : (leaveForeign s).Sound := sound_dropWhile sound _
  have outside := fun token => sound_rule s.mode (leaveForeign s) token left
  have inside := fun token => sound_rule s.mode s token sound
  cases token with
  | startTag tag =>
    cases top : s.current? <;> simp [foreignContent, sound, outside, top]
  | endTag name =>
    simp only [foreignContent]
    split
    · exact outside _
    · split
      · rename_i rest closed
        exact sound.narrow (closeForeign_part name s.stack rest closed)
      · exact sound
      · exact inside _
  | _ => simp [foreignContent, sound]

/-! ### Runs -/

theorem sound_settle (turns : Nat) (s : State) (token : Token) (sound : s.Sound) :
    (settle turns s token).Sound := by
  induction turns generalizing s token with
  | zero => exact sound
  | succ turns ih =>
    have kept : ((if takesForeign s token then foreignContent else s.mode.rule) s token).Sound := by
      split
      · exact sound_foreignContent s token sound
      · exact sound_rule s.mode s token sound
    rw [settle]
    generalize (if takesForeign s token then foreignContent else s.mode.rule) s token = o at kept ⊢
    cases o with
    | done next => exact kept
    | again next mode token => exact ih (next.setMode mode) token kept

theorem sound_declare (s : State) (d : Doctype) (sound : s.Sound) : (declare s d).Sound := by
  rw [declare]
  split
  · obtain ⟨s', id, made⟩ : ∃ s' id, s.create .doctype = (s', id) := ⟨_, _, rfl⟩
    obtain ⟨adds, known⟩ := adds_create made
    have plain := Draft.plain_of_leaf known
    rw [made]
    exact (adds.sound sound).grow (Draft.grows_append _ _ id (plain.fits Draft.documentId))
  · exact sound

theorem sound_process (s : State) (token : Token) (sound : s.Sound) : (process s token).Sound := by
  have pass := fun turns token => sound_settle turns { s with skipNewline := false } token sound
  cases token with
  | doctype d => exact sound_declare _ d sound
  | flaw => exact sound
  | text cs => exact sound_foldl _ (fun s part kept => sound_settle _ s (.text part) kept) _ _ sound
  | _ => exact pass _ _

theorem sound_readAll (steps : Nat) (s : State) (cs : List Char) (sound : s.Sound) :
    (readAll steps s cs).Sound := by
  induction steps generalizing s cs with
  | zero => exact sound_process s .endOfInput sound
  | succ steps ih =>
    rw [readAll]
    split
    · exact sound_process s .endOfInput sound
    · apply ih
      exact sound_foldl process sound_process _ _ sound

theorem placed_empty : Draft.empty.Placed := by
  intro parent child here
  cases parent with
  | zero => exact absurd here (by simp [Draft.children, Draft.empty])
  | succ parent => exact absurd here (by simp [Draft.children, Draft.empty])

/-- Reading any text gives a document in which every node fits where it stands. -/
theorem parse_placed (html : String) : ∃ d : Draft, d.Placed ∧ parse html = d.toTree := by
  have start : State.Sound {} := ⟨placed_empty, by simp, by simp⟩
  exact ⟨_, (sound_readAll _ {} _ start).placed, rfl⟩

end SymbolMarkup.Html
