import Mathlib.Algebra.GroupWithZero.Nat
import SymbolMarkup.Proofs.Reindent

/-! The lines of a rendering. An element has a newline behind its tag, one behind each attribute and
one behind each child that is shown; if it has children and none is shown there is one all the same,
and it leaves an empty line. Texts add the lines inside them. -/
namespace SymbolMarkup

def emptyLines (cs : List Char) : Nat := (cs.zip cs.tail).count ('\n', '\n')

def shownCount (nodes : List Node) : Nat := nodes.countP fun node => !node.isAbsent

/-- What a node adds to the newlines, the nodes inside it left aside. -/
def Node.ownNewlines : Node → Nat
  | .element _ attributes children =>
    1 + attributes.length + if children = [] then 0 else max 1 (shownCount children)
  | .text content => (Text.trim content).toList.count '\n'
  | .comment _ | .other _ => 0

def Node.ownEmptyLines : Node → Nat
  | .element _ _ children => if children ≠ [] ∧ ∀ child ∈ children, child.isAbsent then 1 else 0
  | .text content => emptyLines (Text.trim content).toList
  | .comment _ | .other _ => 0

/-! ### Weighing newlines

Each newline weighs `each`, and `more` besides if another one follows. -/

section Weight

variable (each more : Nat)

def weigh : List Char → Nat
  | [] => 0
  | c :: rest =>
    (if c = '\n' then each + (if rest.head? = some '\n' then more else 0) else 0) + weigh rest

theorem weigh_cons (c : Char) (hc : c ≠ '\n') (x : List Char) :
    weigh each more (c :: x) = weigh each more x := by
  rw [weigh, if_neg hc, Nat.zero_add]

theorem weigh_append (text x : List Char) (oneLine : '\n' ∉ text) :
    weigh each more (text ++ x) = weigh each more x := by
  induction text with
  | nil => rfl
  | cons c text ih =>
    have hc : c ≠ '\n' := fun h => oneLine (h ▸ List.mem_cons_self)
    rw [List.cons_append, weigh_cons each more c hc, ih (List.not_mem_of_not_mem_cons oneLine)]

theorem weigh_before (text : List Char) (c : Char) (hc : c ≠ '\n') (x : List Char) :
    weigh each more (text ++ c :: x) = weigh each more text + weigh each more x := by
  induction text with
  | nil => rw [List.nil_append, weigh_cons each more c hc, weigh, Nat.zero_add]
  | cons d text ih =>
    have next : (text ++ c :: x).head? = some '\n' ↔ text.head? = some '\n' := by
      cases text <;> simp [hc]
    simp only [List.cons_append, weigh, ih, next]
    omega

theorem weigh_line (indent x : List Char) (c : Char) (oneLine : '\n' ∉ indent)
    (begins : x.head? = some c) (hc : c ≠ '\n') :
    weigh each more ('\n' :: (indent ++ x)) = each + weigh each more x := by
  have visible : (indent ++ x).head? ≠ some '\n' := by
    cases indent with
    | nil => simpa [begins] using hc
    | cons d indent => simpa using fun h : d = '\n' => oneLine (h ▸ List.mem_cons_self)
  rw [weigh, if_pos rfl, if_neg visible, Nat.add_zero, weigh_append each more indent _ oneLine]

theorem weigh_empty_line (x : List Char) :
    weigh each more ('\n' :: '\n' :: x) = each + more + weigh each more ('\n' :: x) := by
  have follows : ('\n' :: x).head? = some '\n' := rfl
  rw [weigh, if_pos rfl, if_pos follows]

/-! ### The parts of an element -/

theorem weigh_opening (tag : String) (x : List Char) (tagOneLine : '\n' ∉ tag.toList) :
    weigh each more (opening tag ++ x) = weigh each more ('\n' :: x) := by
  have front : '\n' ∉ '\'' :: (tag.toList ++ ['(']) := by simp [tagOneLine]
  have split : opening tag ++ x = '\'' :: (tag.toList ++ ['(']) ++ '\n' :: x := by
    simp [opening]
  rw [split, weigh_append each more _ _ front]

theorem weigh_close (indent x : List Char) (oneLine : '\n' ∉ indent) :
    weigh each more ('\n' :: (indent ++ ')' :: x)) = each + weigh each more x := by
  have visible : ')' ≠ '\n' := by decide
  rw [weigh_line each more indent _ ')' oneLine rfl visible, weigh_cons each more ')' visible]

theorem weigh_attributeLines (indent : List Char) (oneLine : '\n' ∉ indent) (children : Bool)
    (attributes : List Attribute) (x : List Char)
    (flat : ∀ a ∈ attributes, '\n' ∉ a.name.toList ∧ '\n' ∉ a.value.toList) :
    weigh each more ('\n' :: (attributeLines indent children attributes ++ x)) =
      each * attributes.length + weigh each more ('\n' :: x) := by
  induction attributes with
  | nil => simp [attributeLines]
  | cons a rest ih =>
    obtain ⟨⟨name, value⟩, others⟩ := List.forall_mem_cons.mp flat
    have line := newline_not_mem_line a name value (!rest.isEmpty || children)
    simp only [attributeLines, List.append_assoc, List.cons_append]
    rw [weigh_line each more (deeper indent) _ '\'' (newline_not_mem_deeper indent oneLine) rfl
        (by decide), weigh_append each more _ _ line, ih others, List.length_cons, Nat.mul_succ]
    omega

theorem weigh_quoted (text x : List Char) :
    weigh each more (quoted text ++ x) = weigh each more text + weigh each more x := by
  have visible : '"' ≠ '\n' := by decide
  unfold quoted
  split
  · simp only [List.cons_append, List.append_assoc, List.nil_append]
    rw [weigh_cons each more _ visible, weigh_cons each more _ visible,
      weigh_cons each more _ visible, weigh_before each more text '"' visible,
      weigh_cons each more _ visible, weigh_cons each more _ visible]
  · simp only [List.cons_append, List.append_assoc, List.nil_append]
    rw [weigh_cons each more _ visible, weigh_before each more text '"' visible]

theorem weigh_written_line (indent : List Char) (oneLine : '\n' ∉ indent) (s : SiblingIndent)
    (inner : List Char) (f : Form) (x : List Char) :
    weigh each more ('\n' :: (indent ++ (f.written s inner ++ x))) =
      each + weigh each more (f.written s inner ++ x) := by
  obtain ⟨tail, begins⟩ := written_begins s inner f
  have first : (f.written s inner ++ x).head? = some f.mark := by rw [begins]; rfl
  exact weigh_line each more indent _ f.mark oneLine first (mark_ne_newline f)

/-! ### Forms and siblings -/

def Form.weight : Form → Nat
  | .text content => weigh each more content.toList
  | .comment _ => 0
  | .bare _ attributes => each * (1 + attributes.length)
  | .nested _ attributes children =>
    each * (1 + attributes.length + max 1 children.length) + if children = [] then more else 0

def Form.weights (forms : List Form) : Nat := (forms.map (Form.weight each more)).sum

theorem weights_append (left right : List Form) :
    Form.weights each more (left ++ right) =
      Form.weights each more left + Form.weights each more right := by
  rw [Form.weights, List.map_append, List.sum_append]
  rfl

theorem weights_cons (f : Form) (forms : List Form) :
    Form.weights each more (f :: forms) = f.weight each more + Form.weights each more forms := by
  rw [Form.weights, List.map_cons, List.sum_cons]
  rfl

mutual

/-- No form ends in a newline, so what comes behind it is weighed by itself. -/
theorem weigh_written (s : SiblingIndent) (indent : List Char) (f : Form) (x : List Char)
    (oneLine : '\n' ∉ indent) (flat : ∀ g ∈ f.subtrees, g.MarkupOneLine) :
    weigh each more (f.written s indent ++ x) =
      Form.weights each more f.subtrees + weigh each more x := by
  have here := flat f (self_mem_subtrees f)
  cases f with
  | text content =>
    rw [Form.written, weigh_quoted]
    simp [Form.subtrees, Form.weights, Form.weight]
  | comment content =>
    have comment : '\n' ∉ content.toList := here
    have line : '\n' ∉ '/' :: '/' :: ' ' :: content.toList := by simpa using comment
    rw [Form.written, weigh_append each more _ _ line]
    simp [Form.subtrees, Form.weights, Form.weight]
  | bare tag attributes =>
    simp only [Form.written, List.append_assoc, List.cons_append, List.nil_append]
    rw [weigh_opening each more tag _ here.1,
      weigh_attributeLines each more indent oneLine false attributes _ here.2,
      weigh_close each more indent x oneLine]
    simp only [Form.subtrees, Form.weights, Form.weight, List.map_cons, List.map_nil,
      List.sum_cons, List.sum_nil, Nat.mul_add]
    omega
  | nested tag attributes children =>
    have inner := newline_not_mem_deeper indent oneLine
    have between := newline_not_mem_separator indent oneLine s
    have below : ∀ g ∈ Form.subtreesAmong children, g.MarkupOneLine := fun g hg =>
      flat g (List.mem_cons_of_mem _ hg)
    simp only [Form.written, List.append_assoc, List.cons_append, List.nil_append]
    rw [weigh_opening each more tag _ here.1,
      weigh_attributeLines each more indent oneLine true attributes _ here.2, Form.subtrees,
      weights_cons, Form.weight]
    cases children with
    | nil =>
      -- the newline that ends the line of the last child is all there is
      simp only [Form.writtenAll, List.nil_append, Form.subtreesAmong]
      rw [weigh_empty_line, weigh_close each more indent x oneLine]
      simp only [Form.weights, List.map_nil, List.sum_nil, List.length_nil, Nat.mul_add, if_pos,
        Nat.max_eq_left, Nat.zero_le]
      omega
    | cons form rest =>
      obtain ⟨first, others⟩ := List.forall_mem_append.mp below
      simp only [Form.writtenAll, List.append_assoc]
      rw [weigh_written_line each more (deeper indent) inner s,
        weigh_written s (deeper indent) form _ inner first,
        weigh_writtenAll s (deeper indent) (s.separator indent) rest _ inner between others,
        weigh_close each more indent x oneLine, Form.subtreesAmong, weights_append,
        if_neg (List.cons_ne_nil form rest), List.length_cons, Nat.max_eq_right (by omega)]
      simp only [Nat.mul_add, Nat.mul_one]
      omega

theorem weigh_writtenAll (s : SiblingIndent) (indent separator : List Char) (forms : List Form)
    (x : List Char) (oneLine : '\n' ∉ indent) (between : '\n' ∉ separator)
    (flat : ∀ g ∈ Form.subtreesAmong forms, g.MarkupOneLine) :
    weigh each more (Form.writtenAll s indent separator (',' :: '\n' :: separator) forms ++ x) =
      each * forms.length + Form.weights each more (Form.subtreesAmong forms) +
        weigh each more x := by
  cases forms with
  | nil => simp [Form.writtenAll, Form.subtreesAmong, Form.weights]
  | cons form rest =>
    obtain ⟨first, others⟩ := List.forall_mem_append.mp flat
    simp only [Form.writtenAll, List.append_assoc, List.cons_append]
    rw [weigh_cons each more ',' (by decide), weigh_written_line each more separator between s,
      weigh_written s indent form _ oneLine first,
      weigh_writtenAll s indent separator rest x oneLine between others, Form.subtreesAmong,
      weights_append, List.length_cons, Nat.mul_succ]
    omega

end

theorem weigh_forest (s : SiblingIndent) (forms : List Form)
    (flat : ∀ g ∈ Form.subtreesAmong forms, g.MarkupOneLine) :
    weigh each more (Form.forest s forms) =
      Form.weights each more (Form.subtreesAmong forms) + each * (forms.length - 1) := by
  cases forms with
  | nil => rfl
  | cons form rest =>
    obtain ⟨first, others⟩ := List.forall_mem_append.mp flat
    have none : '\n' ∉ ([] : List Char) := List.not_mem_nil
    have later := weigh_writtenAll each more s [] [] rest [] none none others
    rw [List.append_nil] at later
    rw [Form.forest, Form.writtenAll, List.nil_append,
      weigh_written each more s [] form _ none first, later, Form.subtreesAmong, weights_append,
      List.length_cons, Nat.add_sub_cancel, weigh]
    omega

end Weight

/-! ### Trees -/

theorem weigh_newlines (cs : List Char) : weigh 1 0 cs = cs.count '\n' := by
  induction cs with
  | nil => rfl
  | cons c rest ih =>
    rw [weigh, ih, List.count_cons, Nat.add_comm]
    simp

theorem weigh_emptyLines (cs : List Char) : weigh 0 1 cs = emptyLines cs := by
  induction cs with
  | nil => rfl
  | cons c rest ih =>
    rw [weigh, ih]
    cases rest with
    | nil => simp [emptyLines]
    | cons d rest =>
      simp only [emptyLines, List.tail_cons, List.zip_cons_cons, List.count_cons, List.head?_cons]
      by_cases hc : c = '\n' <;> by_cases hd : d = '\n' <;> simp [hc, hd]
      omega

structure Weighs (own : Node → Nat) (each more : Nat) : Prop where
  shown : ∀ (node : Node) (f : Form), node.form? = some f → own node = f.weight each more
  absent : ∀ node : Node, node.form? = none → own node = 0

theorem subtrees_of_absent (node : Node) (absent : node.form? = none) : node.subtrees = [node] := by
  cases node with
  | element tag attributes children =>
    rw [Node.form?] at absent
    split at absent <;> contradiction
  | text | comment | other => rfl

section Total

variable {own : Node → Nat} {each more : Nat}

mutual

theorem total_subtrees (weighs : Weighs own each more) (node : Node) (f : Form)
    (form : node.form? = some f) :
    (node.subtrees.map own).sum = Form.weights each more f.subtrees := by
  have here := weighs.shown node f form
  cases comesTo_of_form? node f form with
  | text | comment => simpa [Node.subtrees, Form.subtrees, Form.weights] using here
  | bare tag attributes =>
    simpa [Node.subtrees, Node.subtreesAmong, Form.subtrees, Form.weights] using here
  | nested tag attributes children =>
    rw [Node.subtrees, Form.subtrees, weights_cons, List.map_cons, List.sum_cons, here,
      total_subtreesAmong weighs children]

theorem total_subtreesAmong (weighs : Weighs own each more) (nodes : List Node) :
    ((Node.subtreesAmong nodes).map own).sum =
      Form.weights each more (Form.subtreesAmong (Node.forms nodes)) := by
  cases nodes with
  | nil => rfl
  | cons node rest =>
    have others := total_subtreesAmong weighs rest
    rw [Node.subtreesAmong, List.map_append, List.sum_append, others, Node.forms]
    cases form : node.form? with
    | none => simp [subtrees_of_absent node form, weighs.absent node form]
    | some f =>
      rw [total_subtrees weighs node f form, ← weights_append]
      rfl

end

end Total

theorem absent_text (content : String) (absent : (Node.text content).form? = none) :
    (Text.trim content).toList = [] := by
  have blank : (Text.trim content).isEmpty = true :=
    (form?_eq_none_iff (.text content)).mp absent
  rw [String.isEmpty_iff.mp blank]
  rfl

theorem forms_eq_nil_iff_absent (nodes : List Node) :
    Node.forms nodes = [] ↔ ∀ node ∈ nodes, node.isAbsent := by
  rw [forms_eq_nil_iff]
  exact forall₂_congr fun node _ => form?_eq_none_iff node

theorem newlines_weigh : Weighs Node.ownNewlines 1 0 := by
  constructor
  · intro node f form
    cases comesTo_of_form? node f form with
    | text content => rw [Form.weight, weigh_newlines, Node.ownNewlines]
    | comment content => rfl
    | bare tag attributes => simp [Node.ownNewlines, Form.weight]
    | nested tag attributes children listed =>
      simp [Node.ownNewlines, Form.weight, listed, length_forms, shownCount]
  · intro node absent
    cases node with
    | element tag attributes children =>
      have gone := (form?_eq_none_iff _).mp absent
      contradiction
    | text content => rw [Node.ownNewlines, absent_text content absent, List.count_nil]
    | comment | other => rfl

theorem emptyLines_weigh : Weighs Node.ownEmptyLines 0 1 := by
  constructor
  · intro node f form
    cases comesTo_of_form? node f form with
    | text content => rw [Form.weight, weigh_emptyLines, Node.ownEmptyLines]
    | comment content => rfl
    | bare tag attributes => simp [Node.ownEmptyLines, Form.weight]
    | nested tag attributes children listed =>
      simp only [Node.ownEmptyLines, Form.weight, forms_eq_nil_iff_absent, Nat.zero_mul,
        Nat.zero_add, listed, ne_eq, not_false_eq_true, true_and]
  · intro node absent
    cases node with
    | element tag attributes children =>
      have gone := (form?_eq_none_iff _).mp absent
      contradiction
    | text content =>
      rw [Node.ownEmptyLines, absent_text content absent]
      rfl
    | comment | other => rfl

/-- The lines of the notation, counted on the tree. -/
structure Accounted (nodes : List Node) (output : String) : Prop where
  newlines : output.toList.count '\n' =
    ((Node.subtreesAmong nodes).map Node.ownNewlines).sum + (shownCount nodes - 1)
  empty : emptyLines output.toList = ((Node.subtreesAmong nodes).map Node.ownEmptyLines).sum

theorem forest_accounted (s : SiblingIndent) (nodes : List Node)
    (names : ∀ n ∈ Node.subtreesAmong nodes, n.NamesOneLine) :
    Accounted nodes (String.ofList (Form.forest s (Node.forms nodes))) := by
  have flat : ∀ g ∈ Form.subtreesAmong (Node.forms nodes), g.MarkupOneLine := by
    intro g hg
    obtain ⟨n, hn, same⟩ := exists_subtree_among nodes g hg
    exact form_markupOneLine n (names n hn) g same
  constructor
  · rw [String.toList_ofList, ← weigh_newlines, weigh_forest 1 0 s _ flat,
      total_subtreesAmong newlines_weigh, length_forms, Nat.one_mul]
    rfl
  · rw [String.toList_ofList, ← weigh_emptyLines, weigh_forest 0 1 s _ flat,
      total_subtreesAmong emptyLines_weigh, Nat.zero_mul, Nat.add_zero]

/-- The lines of a rendering are those that its nodes account for, whichever layout it has. -/
theorem lines_accounted (o : Options) (nodes : List Node) (output : String)
    (names : ∀ n ∈ Node.subtreesAmong nodes, n.NamesOneLine)
    (rendered : (renderForest o nodes).result = .ok output) :
    Accounted nodes output ∧
    (∀ s : SiblingIndent, ∃ other, (renderForest ⟨s, o.unsupported⟩ nodes).result = .ok other ∧
      other.toList.count '\n' = output.toList.count '\n' ∧
      emptyLines other.toList = emptyLines output.toList) ∧
    ∀ (indent : String) (node : Node) (shown : Option String),
      (renderNode o indent node).result = .ok shown → (shown = none ↔ node.isAbsent = true) := by
  rw [renderForest_eq, Traced.meeting_ok_iff] at rendered
  obtain ⟨tolerated, rfl⟩ := rendered
  have here := forest_accounted o.siblingIndent nodes names
  refine ⟨here, ?_, renderNode_none_iff o⟩
  intro s
  have there := forest_accounted s nodes names
  have laidOut : (renderForest ⟨s, o.unsupported⟩ nodes).result =
      .ok (String.ofList (Form.forest s (Node.forms nodes))) := by
    rw [renderForest_eq, Traced.meeting_ok_iff]
    exact ⟨tolerated, rfl⟩
  exact ⟨_, laidOut, there.newlines.trans here.newlines.symm,
    there.empty.trans here.empty.symm⟩

def sparseForest : List Node :=
  [.element "UL" [⟨"class", "a\n b"⟩]
    [.text " ", .element "li" [] [.text "\n", .other "pi"], .text "x\n\ny\n", .text "\t"],
    .other "doctype", .comment "c\n\nd"]

def sparseText : String :=
  "'ul(\n  'class /= \"a b\",\n  'li(\n\n  ),\n  \"\"\"x\n\ny\"\"\"\n),\n// c d"

theorem lines_accounted_sparse :
    (∀ n ∈ Node.subtreesAmong sparseForest, n.NamesOneLine) ∧
    (renderForest ⟨.child, .skip⟩ sparseForest).result = .ok sparseText ∧
    Accounted sparseForest sparseText ∧
    sparseText.toList.count '\n' = 9 ∧ emptyLines sparseText.toList = 2 := by
  have names : ∀ n ∈ Node.subtreesAmong sparseForest, n.NamesOneLine := by decide +kernel
  have shown : (renderForest ⟨.child, .skip⟩ sparseForest).result = .ok sparseText := by
    rw [renderForest_eq]
    rfl
  obtain ⟨accounted, -, -⟩ := lines_accounted ⟨.child, .skip⟩ sparseForest sparseText names shown
  exact ⟨names, shown, accounted, by decide +kernel, by decide +kernel⟩

end SymbolMarkup
