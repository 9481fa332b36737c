import SymbolMarkup.Proofs.Context
import SymbolMarkup.Proofs.Separators
import SymbolMarkup.Proofs.Subtrees

/-! Moving a node to the right is an operation on its text. Every newline that a rendering puts out
is followed by the indentation of what comes next, once, but for the empty line of an element whose
children are all absent. So a longer indentation goes in behind each newline that no other newline
follows, and nowhere else. Newlines inside a text or a name have no indentation behind them: the
nodes here have none. -/
namespace SymbolMarkup

/-- Puts `pre` behind each newline that is not itself followed by a newline. -/
def insertAfterNewlines (pre : List Char) : List Char → List Char
  | [] => []
  | c :: rest =>
    if c = '\n' ∧ rest.head? ≠ some '\n' then c :: (pre ++ insertAfterNewlines pre rest)
    else c :: insertAfterNewlines pre rest

def insertAtStart (pre text : List Char) : List Char :=
  if text.head? = some '\n' then insertAfterNewlines pre text
  else pre ++ insertAfterNewlines pre text

/-! ### Insertion, character by character -/

section Insertion

variable (pre : List Char)

theorem insert_cons (c : Char) (hc : c ≠ '\n') (x : List Char) :
    insertAfterNewlines pre (c :: x) = c :: insertAfterNewlines pre x := by
  rw [insertAfterNewlines, if_neg fun h => hc h.1]

theorem insert_newline (x : List Char) :
    insertAfterNewlines pre ('\n' :: x) = '\n' :: insertAtStart pre x := by
  rw [insertAfterNewlines, insertAtStart]
  by_cases blank : x.head? = some '\n'
  · rw [if_neg fun h => h.2 blank, if_pos blank]
  · rw [if_pos ⟨rfl, blank⟩, if_neg blank]

theorem insert_append (text x : List Char) (oneLine : '\n' ∉ text) :
    insertAfterNewlines pre (text ++ x) = text ++ insertAfterNewlines pre x := by
  induction text with
  | nil => rfl
  | cons c text ih =>
    have hc : c ≠ '\n' := fun h => oneLine (h ▸ List.mem_cons_self)
    rw [List.cons_append, insert_cons pre c hc, ih (List.not_mem_of_not_mem_cons oneLine),
      List.cons_append]

theorem insertAtStart_newline (x : List Char) :
    insertAtStart pre ('\n' :: x) = '\n' :: insertAtStart pre x := by
  have blank : ('\n' :: x).head? = some '\n' := rfl
  rw [insertAtStart, if_pos blank, insert_newline]

theorem insertAtStart_indent (indent x : List Char) (c : Char) (oneLine : '\n' ∉ indent)
    (hc : c ≠ '\n') :
    insertAtStart pre (indent ++ c :: x) = pre ++ indent ++ insertAfterNewlines pre (c :: x) := by
  have visible : (indent ++ c :: x).head? ≠ some '\n' := by
    cases indent with
    | nil => simpa using hc
    | cons d indent => simpa using fun h : d = '\n' => oneLine (h ▸ List.mem_cons_self)
  rw [insertAtStart, if_neg visible, insert_append pre indent _ oneLine, List.append_assoc]

end Insertion

/-! ### The parts of an element -/

section Shift

variable (pre indent : List Char)

theorem deeper_append : deeper (pre ++ indent) = pre ++ deeper indent := by
  simp [deeper]

theorem separator_append (s : SiblingIndent) :
    s.separator (pre ++ indent) = pre ++ s.separator indent := by
  cases s with
  | parent => rfl
  | child => exact deeper_append pre indent

theorem newline_not_mem_separator (oneLine : '\n' ∉ indent) (s : SiblingIndent) :
    '\n' ∉ s.separator indent := by
  cases s with
  | parent => exact oneLine
  | child => exact newline_not_mem_deeper indent oneLine

theorem opening_shifted (tag : String) (x : List Char) (tagOneLine : '\n' ∉ tag.toList) :
    insertAfterNewlines pre (opening tag ++ x) = opening tag ++ insertAtStart pre x := by
  have front : '\n' ∉ '\'' :: (tag.toList ++ ['(']) := by simp [tagOneLine]
  have split (y : List Char) : opening tag ++ y = '\'' :: (tag.toList ++ ['(']) ++ '\n' :: y := by
    simp [opening]
  rw [split, split, insert_append pre _ _ front, insert_newline]

theorem close_shifted (oneLine : '\n' ∉ indent) (x : List Char) :
    insertAtStart pre (indent ++ ')' :: x) =
      pre ++ indent ++ ')' :: insertAfterNewlines pre x := by
  rw [insertAtStart_indent pre indent x ')' oneLine (by decide), insert_cons pre ')' (by decide)]

theorem attributeLines_shifted (oneLine : '\n' ∉ indent) (more : Bool)
    (attributes : List Attribute) (x : List Char)
    (flat : ∀ a ∈ attributes, '\n' ∉ a.name.toList ∧ '\n' ∉ a.value.toList) :
    insertAtStart pre (attributeLines indent more attributes ++ x) =
      attributeLines (pre ++ indent) more attributes ++ insertAtStart pre x := by
  induction attributes with
  | nil => rfl
  | cons a rest ih =>
    obtain ⟨⟨name, value⟩, others⟩ := List.forall_mem_cons.mp flat
    have line := newline_not_mem_line a name value (!rest.isEmpty || more)
    obtain ⟨tail, quote⟩ : ∃ tail, a.line (!rest.isEmpty || more) = '\'' :: tail := ⟨_, rfl⟩
    simp only [attributeLines, List.append_assoc, List.cons_append]
    rw [quote, List.cons_append, insertAtStart_indent pre (deeper indent) _ '\''
      (newline_not_mem_deeper indent oneLine) (by decide), ← List.cons_append, ← quote,
      insert_append pre _ _ line, insert_newline, ih others, deeper_append, List.append_assoc]

theorem written_at_indent (oneLine : '\n' ∉ indent) (s : SiblingIndent) (inner : List Char)
    (f : Form) (x : List Char) :
    insertAtStart pre (indent ++ (f.written s inner ++ x)) =
      pre ++ indent ++ insertAfterNewlines pre (f.written s inner ++ x) := by
  obtain ⟨tail, begins⟩ := written_begins s inner f
  rw [begins, List.cons_append, insertAtStart_indent pre indent _ f.mark oneLine
    (mark_ne_newline f)]

end Shift

/-! ### Forms and siblings -/

theorem quoted_oneLine (text : List Char) (oneLine : '\n' ∉ text) : '\n' ∉ quoted text := by
  rw [quoted, if_neg oneLine]
  simp [oneLine]

def Form.Flat (f : Form) : Prop := f.MarkupOneLine ∧ f.TextOneLine

mutual

/-- What comes behind a form is arbitrary here: a form ends in no newline, so the insertion goes on
behind it as if nothing had come before. -/
theorem written_shifted (s : SiblingIndent) (pre indent : List Char) (f : Form) (x : List Char)
    (oneLine : '\n' ∉ indent) (flat : ∀ g ∈ f.subtrees, g.Flat) :
    insertAfterNewlines pre (f.written s indent ++ x) =
      f.written s (pre ++ indent) ++ insertAfterNewlines pre x := by
  have here := flat f (self_mem_subtrees f)
  cases f with
  | text content => exact insert_append pre _ x (quoted_oneLine _ here.2)
  | comment content =>
    have comment : '\n' ∉ content.toList := here.1
    have line : '\n' ∉ '/' :: '/' :: ' ' :: content.toList := by simpa using comment
    exact insert_append pre _ x line
  | bare tag attributes =>
    simp only [Form.written, List.append_assoc, List.cons_append, List.nil_append]
    rw [opening_shifted pre tag _ here.1.1,
      attributeLines_shifted pre indent oneLine false attributes _ here.1.2,
      close_shifted pre indent oneLine, List.append_assoc]
  | nested tag attributes children =>
    have inner := newline_not_mem_deeper indent oneLine
    have between := newline_not_mem_separator indent oneLine s
    have below : ∀ g ∈ Form.subtreesAmong children, g.Flat := fun g hg =>
      flat g (List.mem_cons_of_mem _ hg)
    simp only [Form.written, List.append_assoc, List.cons_append, List.nil_append]
    rw [opening_shifted pre tag _ here.1.1,
      attributeLines_shifted pre indent oneLine true attributes _ here.1.2]
    congr 2
    cases children with
    | nil =>
      -- no form, so the line stays empty and the closing line follows
      simp only [Form.writtenAll, List.nil_append]
      rw [insertAtStart_newline, close_shifted pre indent oneLine, List.append_assoc]
    | cons form rest =>
      obtain ⟨first, others⟩ := List.forall_mem_append.mp below
      simp only [Form.writtenAll, List.append_assoc]
      rw [written_at_indent pre (deeper indent) inner s,
        written_shifted s pre (deeper indent) form _ inner first,
        writtenAll_shifted s pre (deeper indent) (s.separator indent) rest _ inner between others,
        insert_newline, close_shifted pre indent oneLine, deeper_append, separator_append]
      simp only [List.append_assoc]

theorem writtenAll_shifted (s : SiblingIndent) (pre indent separator : List Char)
    (forms : List Form) (x : List Char) (oneLine : '\n' ∉ indent) (between : '\n' ∉ separator)
    (flat : ∀ g ∈ Form.subtreesAmong forms, g.Flat) :
    insertAfterNewlines pre
        (Form.writtenAll s indent separator (',' :: '\n' :: separator) forms ++ x) =
      Form.writtenAll s (pre ++ indent) (pre ++ separator) (',' :: '\n' :: (pre ++ separator))
          forms ++ insertAfterNewlines pre x := by
  cases forms with
  | nil => rfl
  | cons form rest =>
    obtain ⟨first, others⟩ := List.forall_mem_append.mp flat
    simp only [Form.writtenAll, List.append_assoc, List.cons_append]
    rw [insert_cons pre ',' (by decide), insert_newline,
      written_at_indent pre separator between s,
      written_shifted s pre indent form _ oneLine first,
      writtenAll_shifted s pre indent separator rest x oneLine between others]
    simp only [List.append_assoc]

end

/-! ### Renderings -/

structure Reindented (pre before after : String) : Prop where
  text : after.toList = insertAfterNewlines pre.toList before.toList
  firstLine : after.toList.takeWhile (· ≠ '\n') = before.toList.takeWhile (· ≠ '\n')

theorem takeWhile_insert (pre text : List Char) :
    (insertAfterNewlines pre text).takeWhile (· ≠ '\n') = text.takeWhile (· ≠ '\n') := by
  induction text with
  | nil => rfl
  | cons c rest ih =>
    by_cases hc : c = '\n'
    · subst hc
      rw [insert_newline]
      rfl
    · rw [insert_cons pre c hc, List.takeWhile_cons, List.takeWhile_cons, ih]

theorem form_reindented (s : SiblingIndent) (pre indent : String) (f : Form)
    (oneLine : '\n' ∉ indent.toList) (flat : ∀ g ∈ f.subtrees, g.Flat) :
    Reindented pre (String.ofList (f.written s indent.toList))
      (String.ofList (f.written s (pre ++ indent).toList)) := by
  have shifted := written_shifted s pre.toList indent.toList f [] oneLine flat
  rw [List.append_nil, insertAfterNewlines, List.append_nil] at shifted
  have text : f.written s (pre ++ indent).toList =
      insertAfterNewlines pre.toList (f.written s indent.toList) := by
    rw [shifted, String.toList_append]
  constructor
  · rw [String.toList_ofList, String.toList_ofList, text]
  · rw [String.toList_ofList, String.toList_ofList, text, takeWhile_insert]

theorem renderNode_reindented (s : SiblingIndent) (pre indent : String) (node : Node)
    (oneLine : '\n' ∉ indent.toList)
    (flat : ∀ n ∈ node.subtrees, n.NamesOneLine ∧ n.TextOneLine) :
    Option.Rel (Reindented pre)
      (node.form?.map fun f => String.ofList (f.written s indent.toList))
      (node.form?.map fun f => String.ofList (f.written s (pre ++ indent).toList)) := by
  cases form : node.form? with
  | none => exact .none
  | some f =>
    refine .some (form_reindented s pre indent f oneLine fun g hg => ?_)
    obtain ⟨n, hn, same⟩ := exists_subtree node f g form hg
    obtain ⟨names, text⟩ := flat n hn
    exact ⟨form_markupOneLine n names g same, form_textOneLine n text g same⟩

/-! ### Elements whose children are all absent -/

theorem attributeLines_end (indent : List Char) (more : Bool) (attributes : List Attribute)
    (front : List Char) :
    ∃ head, front ++ '\n' :: attributeLines indent more attributes = head ++ ['\n'] := by
  induction attributes generalizing front with
  | nil => exact ⟨front, rfl⟩
  | cons a rest ih =>
    obtain ⟨head, same⟩ :=
      ih (front ++ '\n' :: (deeper indent ++ a.line (!rest.isEmpty || more)))
    exact ⟨head, by rw [← same, attributeLines]; simp⟩

theorem hollow_written (s : SiblingIndent) (indent : List Char) (tag : String)
    (attributes : List Attribute) :
    ∃ head, (Form.nested tag attributes []).written s indent =
      head ++ '\n' :: '\n' :: (indent ++ [')']) := by
  obtain ⟨head, same⟩ := attributeLines_end indent true attributes ('\'' :: (tag.toList ++ ['(']))
  have front : opening tag ++ attributeLines indent true attributes = head ++ ['\n'] := by
    rw [← same]
    simp [opening]
  refine ⟨head, ?_⟩
  rw [Form.written, Form.writtenAll, ← List.append_assoc, front]
  simp

theorem hollow_in_context (o : Options) (indent : String) (c : Context) (tag : String)
    (attributes : List Attribute) (children : List Node) (shown : String)
    (listed : children ≠ []) (absent : ∀ child ∈ children, child.isAbsent = true)
    (rendered : (renderNode o indent (c.fill (.element tag attributes children))).result =
      .ok (some shown)) :
    ∃ head tail : String,
      shown = head ++ "\n\n" ++ (indent ++ spaces (2 * c.depth)) ++ ")" ++ tail := by
  have hollow : Node.forms children = [] :=
    (forms_eq_nil_iff children).mpr fun child hc => (form?_eq_none_iff child).mpr (absent child hc)
  have form : (Node.element tag attributes children).form? =
      some (.nested (Text.lowercase tag) (attributes.map Attribute.normal) []) := by
    rw [Node.form?, if_neg (by simpa using listed), hollow]
  obtain ⟨g, filled, written⟩ := c.form?_fill o.siblingIndent indent.toList _ _ form
  obtain ⟨head, blank⟩ := hollow_written o.siblingIndent
    (indent.toList ++ List.replicate (2 * c.depth) ' ') (Text.lowercase tag)
    (attributes.map Attribute.normal)
  rw [renderNode_eq, Traced.meeting_ok_iff, filled] at rendered
  have answer : String.ofList (g.written o.siblingIndent indent.toList) = shown :=
    Option.some.inj rendered.2
  refine ⟨String.ofList (c.front o.siblingIndent indent.toList ++ head),
    String.ofList (c.back o.siblingIndent indent.toList), ?_⟩
  rw [← answer, written, blank]
  exact String.toList_inj.mp (by simp [spaces])

/-- At a longer indentation a node fails, is absent or is shown as it was, with the addition put in
behind every newline but those in front of an empty line; and such a line stays empty wherever its
element stands. -/
theorem reindenting_textual (o : Options) (indent : String) :
    (∀ (pre : String) (node : Node), '\n' ∉ indent.toList →
      (∀ n ∈ node.subtrees, n.NamesOneLine ∧ n.TextOneLine) →
      Traced.Together (Option.Rel (Reindented pre))
        (renderNode o indent node) (renderNode o (pre ++ indent) node)) ∧
    ∀ (c : Context) (tag : String) (attributes : List Attribute) (children : List Node)
      (shown : String), children ≠ [] → (∀ child ∈ children, child.isAbsent = true) →
      (renderNode o indent (c.fill (.element tag attributes children))).result =
        .ok (some shown) →
      ∃ head tail : String,
        shown = head ++ "\n\n" ++ (indent ++ spaces (2 * c.depth)) ++ ")" ++ tail := by
  constructor
  · intro pre node oneLine flat
    rw [renderNode_eq, renderNode_eq]
    exact Traced.meeting_together o.unsupported _
      (renderNode_reindented o.siblingIndent pre indent node oneLine flat)
  · intro c tag attributes children shown listed absent rendered
    exact hollow_in_context o indent c tag attributes children shown listed absent rendered

def besideHollow : Context :=
  .within "Ul" [⟨"title", "a\n b"⟩] [.text " ", .comment "c\nd"] .hole
    [.other "pi", .element "br" [] []]

def hollowItem : Node := .element "li" [] [.text "\n"]

def hollowList : Node := besideHollow.fill hollowItem

def hollowListText : String :=
  "'ul(\n   'title /= \"a b\",\n   // c d,\n   'li(\n\n   ),\n   'br(\n   )\n )"

theorem reindenting_textual_hollow :
    '\n' ∉ " ".toList ∧
    (∀ n ∈ hollowList.subtrees, n.NamesOneLine ∧ n.TextOneLine) ∧
    Traced.Together (Option.Rel (Reindented "#\n> "))
      (renderNode ⟨.child, .skip⟩ " " hollowList)
      (renderNode ⟨.child, .skip⟩ ("#\n> " ++ " ") hollowList) ∧
    [Node.text "\n"] ≠ [] ∧ (∀ child ∈ [Node.text "\n"], child.isAbsent = true) ∧
    (renderNode ⟨.child, .skip⟩ " " hollowList).result = .ok (some hollowListText) ∧
    ∃ head tail : String,
      hollowListText =
        head ++ "\n\n" ++ (" " ++ spaces (2 * besideHollow.depth)) ++ ")" ++ tail := by
  have oneLine : '\n' ∉ " ".toList := by decide
  have flat : ∀ n ∈ hollowList.subtrees, n.NamesOneLine ∧ n.TextOneLine := by decide +kernel
  have listed : [Node.text "\n"] ≠ [] := List.cons_ne_nil _ _
  have absent : ∀ child ∈ [Node.text "\n"], child.isAbsent = true := by decide +kernel
  have shown : (renderNode ⟨.child, .skip⟩ " " hollowList).result = .ok (some hollowListText) := by
    rw [renderNode_eq]
    rfl
  obtain ⟨moved, hollow⟩ := reindenting_textual ⟨.child, .skip⟩ " "
  exact ⟨oneLine, flat, moved "#\n> " hollowList oneLine flat, listed, absent, shown,
    hollow besideHollow "li" [] _ hollowListText listed absent shown⟩

end SymbolMarkup
