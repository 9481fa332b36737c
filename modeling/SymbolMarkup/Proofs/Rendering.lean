import SymbolMarkup.Proofs.Written

/-! A rendering writes down the form of what it is given, whichever way it takes unsupported nodes.
Only the way to the answer differs: passing over such nodes reports each of them, and refusing them
stops at the first. -/
namespace SymbolMarkup

namespace Traced

variable {α β : Type}

/-- An answer on the way to which nodes of these unsupported kinds are met. -/
def meeting (policy : UnsupportedPolicy) (kinds : List String) (answer : α) : Traced Failure α :=
  match policy, kinds with
  | .skip, kinds => ⟨kinds.map .skipped, .ok answer⟩
  | .error, [] => ⟨[], .ok answer⟩
  | .error, kind :: _ => ⟨[], .error (.unsupportedKind kind)⟩

theorem pure_eq_meeting (policy : UnsupportedPolicy) (answer : α) :
    (pure answer : Traced Failure α) = meeting policy [] answer := by
  cases policy <;> rfl

theorem meeting_bind (policy : UnsupportedPolicy) (first second : List String) (a : α) (b : β)
    (next : α → Traced Failure β) (after : next a = meeting policy second b) :
    (meeting policy first a >>= next) = meeting policy (first ++ second) b := by
  cases policy with
  | skip =>
    change Traced.bind _ _ = _
    simp only [Traced.bind, meeting, after, List.map_append]
  | error =>
    cases first with
    | nil =>
      change Traced.bind _ _ = _
      simp only [Traced.bind, meeting, after, List.nil_append]
    | cons kind rest => rfl

theorem meeting_map (policy : UnsupportedPolicy) (kinds : List String) (a : α) (f : α → β) :
    (meeting policy kinds a >>= fun x => pure (f x)) = meeting policy kinds (f a) := by
  simpa using meeting_bind policy kinds [] a (f a) _ (pure_eq_meeting policy (f a))

def reported (policy : UnsupportedPolicy) (kinds : List String) : List Event :=
  match policy with
  | .skip => kinds.map .skipped
  | .error => []

theorem reported_append (policy : UnsupportedPolicy) (left right : List String) :
    reported policy (left ++ right) = reported policy left ++ reported policy right := by
  cases policy with
  | skip => exact List.map_append
  | error => rfl

theorem meeting_events (policy : UnsupportedPolicy) (kinds : List String) (answer : α) :
    (meeting policy kinds answer).events = reported policy kinds := by
  cases policy with
  | skip => rfl
  | error => cases kinds <;> rfl

def Tolerated (policy : UnsupportedPolicy) (kinds : List String) : Prop :=
  policy = .error → kinds = []

theorem meeting_ok_iff (policy : UnsupportedPolicy) (kinds : List String) (a b : α) :
    (meeting policy kinds a).result = .ok b ↔ Tolerated policy kinds ∧ a = b := by
  cases policy with
  | skip => simp [meeting, Tolerated]
  | error => cases kinds <;> simp [meeting, Tolerated]

theorem meeting_tolerated (policy : UnsupportedPolicy) (kinds : List String)
    (answer : α) (tolerated : Tolerated policy kinds) :
    meeting policy kinds answer = ⟨reported policy kinds, .ok answer⟩ := by
  cases policy with
  | skip => rfl
  | error => rw [tolerated rfl]; rfl

theorem tolerated_append (policy : UnsupportedPolicy) (left right : List String) :
    Tolerated policy (left ++ right) ↔ Tolerated policy left ∧ Tolerated policy right := by
  cases policy <;> simp [Tolerated]

theorem meeting_ok (policy : UnsupportedPolicy) (kinds : List String) (a b : α)
    (h : (meeting policy kinds a).result = .ok b) : a = b :=
  ((meeting_ok_iff policy kinds a b).mp h).2

end Traced

/-! Every part of a rendering is compared with what is written down as characters. -/

theorem toList_indent (indent : String) : (indent ++ indentUnit).toList = deeper indent.toList := by
  simp [indentUnit, deeper]

theorem toList_separatorIndent (o : Options) (indent : String) :
    (o.separatorIndent indent).toList = o.siblingIndent.separator indent.toList := by
  unfold Options.separatorIndent SiblingIndent.separator
  cases o.siblingIndent with
  | parent => rfl
  | child => exact toList_indent indent

theorem renderText_eq (s : SiblingIndent) (indent : List Char) (content : String) :
    renderText content =
      (Form.ofText? content).map fun f => String.ofList (f.written s indent) := by
  unfold renderText Form.ofText?
  by_cases blank : (Text.trim content).isEmpty
  · simp only [if_pos blank, Option.map_none]
  · simp only [if_neg blank, Option.map_some, Form.written, quoted, List.contains_iff_mem]
    split <;> exact congrArg some (String.toList_inj.mp (by simp))

theorem renderComment_eq (s : SiblingIndent) (indent : List Char) (content : String) :
    renderComment content =
      String.ofList ((Form.comment (Text.normalize content)).written s indent) :=
  String.toList_inj.mp (by simp [renderComment, Form.written])

theorem toList_renderAttribute (a : Attribute) (more : Bool) :
    (renderAttribute a ++ if more then "," else "").toList = a.normal.line more := by
  cases more <;> simp [renderAttribute, Attribute.normal, Attribute.line, lineEnd]

theorem toList_renderAttributes (indent : String) (hasChildren : Bool) (as : List Attribute)
    (out : String) :
    (renderAttributes indent hasChildren as out).toList =
      out.toList ++ attributeLines indent.toList hasChildren (as.map Attribute.normal) := by
  induction as generalizing out with
  | nil => simp [renderAttributes, attributeLines]
  | cons a rest ih =>
    have line := toList_renderAttribute a (!rest.isEmpty || hasChildren)
    rw [String.toList_append] at line
    simp only [renderAttributes, List.map_cons, attributeLines, ih, List.isEmpty_map, ← line,
      ← toList_indent, String.toList_append, List.append_assoc]
    rfl

/-- What is put in front of the next sibling, once one has been `emitted` or before. -/
def leadChars (o : Options) (indent : String) (emitted : Bool) : List Char :=
  if emitted then ',' :: '\n' :: o.siblingIndent.separator indent.toList
  else deeper indent.toList

theorem toList_lead (o : Options) (indent : String) (emitted : Bool) :
    (if emitted then ",\n" ++ o.separatorIndent indent else indent ++ indentUnit).toList =
      leadChars o indent emitted := by
  cases emitted with
  | false => exact toList_indent indent
  | true => simp [leadChars, toList_separatorIndent]

mutual

theorem renderNode_eq (o : Options) (indent : String) (node : Node) :
    renderNode o indent node = Traced.meeting o.unsupported node.unsupportedKinds
      (node.form?.map fun f => String.ofList (f.written o.siblingIndent indent.toList)) := by
  cases node with
  | element tag attributes children =>
    simp only [renderNode, renderChildren_eq, Traced.meeting_map, Node.unsupportedKinds,
      Node.form?]
    cases children with
    | nil =>
      refine congrArg _ (congrArg some (String.toList_inj.mp ?_))
      simp [toList_renderAttributes, Node.forms, Form.writtenAll, Form.written, opening]
    | cons child rest =>
      refine congrArg _ (congrArg some (String.toList_inj.mp ?_))
      simp [toList_renderAttributes, Form.written, opening, leadChars]
  | text content =>
    rw [renderNode, renderText_eq o.siblingIndent indent.toList]
    exact Traced.pure_eq_meeting o.unsupported _
  | comment content =>
    rw [renderNode, renderComment_eq o.siblingIndent indent.toList]
    exact Traced.pure_eq_meeting o.unsupported _
  | other kind =>
    rw [renderNode]
    cases o.unsupported <;> rfl

theorem renderChildren_eq (o : Options) (indent : String) (children : List Node) (emitted : Bool)
    (out : String) :
    renderChildren o indent children emitted out =
      Traced.meeting o.unsupported (Node.unsupportedKindsAmong children)
        (String.ofList (out.toList ++ Form.writtenAll o.siblingIndent (deeper indent.toList)
          (o.siblingIndent.separator indent.toList) (leadChars o indent emitted)
          (Node.forms children))) := by
  cases children with
  | nil =>
    rw [renderChildren, Traced.pure_eq_meeting o.unsupported]
    simp [Node.unsupportedKindsAmong, Node.forms, Form.writtenAll]
  | cons child rest =>
    rw [renderChildren, renderNode_eq o (indent ++ indentUnit) child]
    apply Traced.meeting_bind
    cases h : child.form? with
    | none =>
      simp only [Option.map_none, renderChildren_eq o indent rest, Node.forms, h]
      rfl
    | some f =>
      simp only [Option.map_some, renderChildren_eq o indent rest, Node.forms, h]
      refine congrArg _ (congrArg String.ofList ?_)
      rw [toList_indent, String.toList_append, String.toList_append, toList_lead,
        String.toList_ofList, List.append_assoc, List.append_assoc]
      rfl

end

theorem renderForestFrom_eq (o : Options) (nodes : List Node) (out : String) :
    renderForestFrom o nodes out =
      Traced.meeting o.unsupported (Node.unsupportedKindsAmong nodes)
        (String.ofList (out.toList ++ Form.writtenAll o.siblingIndent [] []
          (if out.isEmpty then [] else [',', '\n']) (Node.forms nodes))) := by
  induction nodes generalizing out with
  | nil =>
    rw [renderForestFrom, Traced.pure_eq_meeting o.unsupported]
    simp [Node.unsupportedKindsAmong, Node.forms, Form.writtenAll]
  | cons node rest ih =>
    rw [renderForestFrom, renderNode_eq o "" node]
    apply Traced.meeting_bind
    cases h : node.form? with
    | none =>
      simp only [Option.map_none, ih, Node.forms, h]
      rfl
    | some f =>
      simp only [Option.map_some, ih, Node.forms, h]
      -- what has been written of `f` is not empty, so a separator comes next
      have more : (out ++ (if out.isEmpty then "" else ",\n") ++
          String.ofList (f.written o.siblingIndent "".toList)).isEmpty = false := by
        simp [written_ne_nil]
      have lead : (if out.isEmpty then "" else ",\n").toList =
          if out.isEmpty then [] else [',', '\n'] := by
        split <;> rfl
      refine congrArg _ (congrArg String.ofList ?_)
      rw [more, String.toList_append, String.toList_append, lead, String.toList_ofList,
        List.append_assoc, List.append_assoc]
      rfl

theorem renderForest_eq (o : Options) (nodes : List Node) :
    renderForest o nodes = Traced.meeting o.unsupported (Node.unsupportedKindsAmong nodes)
      (String.ofList (Form.forest o.siblingIndent (Node.forms nodes))) :=
  renderForestFrom_eq o nodes ""

end SymbolMarkup
