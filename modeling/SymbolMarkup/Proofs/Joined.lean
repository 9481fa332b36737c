import SymbolMarkup.Proofs.Legible
import SymbolMarkup.Proofs.Siblings

/-! The notation of a forest is a join. A separator is put in when there is output already, and
there is output already exactly when a node has been shown: whatever is shown has a first character,
so it is not empty. Forests that are put one behind the other are rendered one after the other. -/
namespace SymbolMarkup

/-! ### What a shown node begins and ends with -/

theorem mark_among (f : Form) : f.mark ∈ ['\'', '"', '/'] := by
  cases f <;> simp [Form.mark]

theorem quoted_last (text : List Char) : (quoted text).getLast? = some '"' := by
  unfold quoted
  split <;> simp [List.getLast?_cons]

theorem written_last (s : SiblingIndent) (indent : List Char) (f : Form)
    (comment : ∀ content, f = .comment content → '\n' ∉ content.toList) :
    (f.written s indent).getLast? ≠ some '\n' := by
  cases f with
  | text content =>
    rw [Form.written, quoted_last]
    decide
  | comment content =>
    have line : '\n' ∉ '/' :: '/' :: ' ' :: content.toList := by simpa using comment content rfl
    exact fun last => line (List.mem_of_getLast? last)
  | bare tag attributes =>
    rw [Form.written, ← List.append_assoc, ← List.append_assoc, List.getLast?_concat]
    decide
  | nested tag attributes children =>
    rw [Form.written, ← List.cons_append, ← List.append_assoc, ← List.append_assoc,
      ← List.append_assoc, List.getLast?_concat]
    decide

theorem form_last (s : SiblingIndent) (indent : List Char) (node : Node) (f : Form)
    (form : node.form? = some f) : (f.written s indent).getLast? ≠ some '\n' := by
  refine written_last s indent f fun content same => ?_
  subst same
  cases comesTo_of_form? node _ form with
  | comment content => exact Text.newline_not_mem_normalize content

structure Delimited (shown : String) : Prop where
  nonempty : shown ≠ ""
  begins : ∃ c ∈ ['\'', '"', '/'], shown.toList.head? = some c
  ends : shown.toList.getLast? ≠ some '\n'

theorem shown_delimited (o : Options) (indent : String) (node : Node) (shown : String)
    (rendered : (renderNode o indent node).result = .ok (some shown)) : Delimited shown := by
  rw [renderNode_eq, Traced.meeting_ok_iff] at rendered
  obtain ⟨f, form, rfl⟩ := Option.map_eq_some_iff.mp rendered.2
  obtain ⟨rest, begins⟩ := written_begins o.siblingIndent indent.toList f
  constructor
  · simp [written_ne_nil]
  · exact ⟨f.mark, mark_among f, by rw [String.toList_ofList, begins]; rfl⟩
  · rw [String.toList_ofList]
    exact form_last o.siblingIndent indent.toList node f form

/-! ### The join -/

theorem forest_eq_intercalate (s : SiblingIndent) (forms : List Form) :
    Form.forest s forms = [',', '\n'].intercalate (forms.map (Form.written s [])) := by
  cases forms with
  | nil => rfl
  | cons form rest => exact writtenAll_eq_intercalate s [] [] [] form rest

theorem forest_eq_nil_iff (s : SiblingIndent) (forms : List Form) :
    Form.forest s forms = [] ↔ forms = [] := by
  cases forms with
  | nil => simp [Form.forest, Form.writtenAll]
  | cons form rest => simp [Form.forest, Form.writtenAll, written_ne_nil]

def beside (first second : String) : String :=
  if first = "" then second else if second = "" then first else first ++ ",\n" ++ second

theorem beside_forest (s : SiblingIndent) (left right : List Form) :
    beside (String.ofList (Form.forest s left)) (String.ofList (Form.forest s right)) =
      String.ofList (Form.forest s (left ++ right)) := by
  have empty (forms : List Form) : String.ofList (Form.forest s forms) = "" ↔ forms = [] := by
    rw [← forest_eq_nil_iff s forms, ← String.toList_inj, String.toList_ofList]
    rfl
  unfold beside
  simp only [empty]
  cases left with
  | nil => rfl
  | cons f rest =>
    rw [if_neg (List.cons_ne_nil f rest)]
    cases right with
    | nil => rw [if_pos rfl, List.append_nil]
    | cons g others =>
      rw [if_neg (List.cons_ne_nil g others), Form.forest, Form.forest, Form.forest,
        writtenAll_append]
      exact String.toList_inj.mp (by simp [Form.writtenAll, leadAfter])

/-- The first run is gone through, and the second one only if the first has not failed. -/
structure Traced.Joined (first second both : Traced Failure String) : Prop where
  firstFails : ∀ e, first.result = .error e → both = ⟨first.events, .error e⟩
  secondFails : ∀ a e, first.result = .ok a → second.result = .error e →
    both = ⟨first.events ++ second.events, .error e⟩
  joins : ∀ a b, first.result = .ok a → second.result = .ok b →
    both = ⟨first.events ++ second.events, .ok (beside a b)⟩

theorem Traced.meeting_joined (policy : UnsupportedPolicy) (left right : List String)
    (a b : String) :
    Joined (meeting policy left a) (meeting policy right b)
      (meeting policy (left ++ right) (beside a b)) := by
  cases policy with
  | skip => constructor <;> simp [meeting]
  | error => cases left <;> cases right <;> constructor <;> simp [meeting]

theorem renderForest_append (o : Options) (left right : List Node) :
    Traced.Joined (renderForest o left) (renderForest o right)
      (renderForest o (left ++ right)) := by
  rw [renderForest_eq, renderForest_eq, renderForest_eq, forms_append,
    unsupportedKindsAmong_append, ← beside_forest]
  exact Traced.meeting_joined o.unsupported _ _ _ _

theorem renderForest_join (o : Options) (nodes : List Node)
    (rendered : ∀ node ∈ nodes, Rendered o "" node) :
    (renderForest o nodes).result = .ok (",\n".intercalate (shownAmong o "" nodes)) := by
  have tolerated := (all_rendered_iff o "" nodes).mp rendered
  rw [renderForest_eq, Traced.meeting_tolerated _ _ _ tolerated, shownAmong_eq o "" nodes rendered,
    forest_eq_intercalate]
  refine congrArg Except.ok (String.toList_inj.mp ?_)
  rw [String.toList_ofList, String.toList_intercalate, List.map_map]
  refine congrArg _ (List.map_congr_left fun f _ => ?_)
  rw [Function.comp_apply, String.toList_ofList]
  rfl

theorem renderForest_empty_iff (o : Options) (nodes : List Node) (output : String)
    (rendered : (renderForest o nodes).result = .ok output) :
    output = "" ↔ ∀ node ∈ nodes, (renderNode o "" node).result = .ok none := by
  rw [renderForest_eq, Traced.meeting_ok_iff] at rendered
  obtain ⟨tolerated, rfl⟩ := rendered
  have each := (all_rendered_iff o "" nodes).mpr tolerated
  rw [← String.toList_inj, String.toList_ofList]
  change Form.forest o.siblingIndent (Node.forms nodes) = [] ↔ _
  rw [forest_eq_nil_iff, forms_eq_nil_iff]
  refine forall₂_congr fun node hn => ?_
  rw [renderNode_eq, Traced.meeting_ok_iff, Option.map_eq_none_iff,
    and_iff_right ((rendered_iff o "" node).mp (each node hn))]

/-- The driver joins what is shown, and asking whether the output is empty tells it when to. -/
theorem forest_joined (o : Options) :
    (∀ nodes : List Node, (∀ node ∈ nodes, Rendered o "" node) →
      (renderForest o nodes).result = .ok (",\n".intercalate (shownAmong o "" nodes))) ∧
    (∀ (indent : String) (node : Node) (shown : String),
      (renderNode o indent node).result = .ok (some shown) → Delimited shown) ∧
    (∀ (nodes : List Node) (output : String), (renderForest o nodes).result = .ok output →
      (output = "" ↔ ∀ node ∈ nodes, (renderNode o "" node).result = .ok none)) ∧
    ∀ left right : List Node,
      Traced.Joined (renderForest o left) (renderForest o right)
        (renderForest o (left ++ right)) :=
  ⟨renderForest_join o, shown_delimited o, renderForest_empty_iff o, renderForest_append o⟩

def gappyForest : List Node := [.text " ", .element "DIV" [] [], .other "pi", .comment "c\n"]

def gappyText : String := "'div(\n),\n// c "

def strictForest : List Node := [.element "b" [] [.text " ", .other "pi"], .other "doctype"]

theorem forest_joined_gappy :
    (∀ node ∈ gappyForest, Rendered {} "" node) ∧
    (renderForest {} gappyForest).result =
      .ok (",\n".intercalate (shownAmong {} "" gappyForest)) ∧
    (renderForest {} gappyForest).result = .ok gappyText ∧
    (gappyText = "" ↔ ∀ node ∈ gappyForest, (renderNode {} "" node).result = .ok none) ∧
    (renderNode {} " " (.comment "")).result = .ok (some "// ") ∧ Delimited "// " ∧
    renderForest ⟨.child, .error⟩ ([.text "x"] ++ strictForest) =
      ⟨(renderForest ⟨.child, .error⟩ [.text "x"]).events ++
        (renderForest ⟨.child, .error⟩ strictForest).events, .error (.unsupportedKind "pi")⟩ := by
  have rendered : ∀ node ∈ gappyForest, Rendered {} "" node :=
    (all_rendered_iff {} "" gappyForest).mpr fun strict => by contradiction
  have shown : (renderForest {} gappyForest).result = .ok gappyText := by
    rw [renderForest_eq]
    rfl
  have comment : (renderNode {} " " (.comment "")).result = .ok (some "// ") := by
    rw [renderNode_eq]
    rfl
  have first : (renderForest ⟨.child, .error⟩ [.text "x"]).result = .ok "\"x\"" := by
    rw [renderForest_eq]
    rfl
  have second : (renderForest ⟨.child, .error⟩ strictForest).result =
      .error (.unsupportedKind "pi") := by
    rw [renderForest_eq]
    rfl
  obtain ⟨join, delimited, empty, -⟩ := forest_joined {}
  obtain ⟨-, -, -, append⟩ := forest_joined ⟨.child, .error⟩
  exact ⟨rendered, join gappyForest rendered, shown, empty gappyForest gappyText shown, comment,
    delimited " " (.comment "") "// " comment,
    (append [.text "x"] strictForest).secondFails _ _ first second⟩

end SymbolMarkup
