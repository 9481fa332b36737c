import SymbolMarkup.Proofs.Rendering

/-! The two layouts of siblings. The line between two siblings stands two spaces deeper in one than
in the other, and this is all that they differ in: what is reported, how a rendering fails, what is
absent and every line that is not such a line are the same. -/
namespace SymbolMarkup

/-! ### Texts that differ in the indentation of lines -/

/-- The second text is the first with two more spaces in front of `n` of its lines. -/
inductive Deepened : Nat → List Char → List Char → Prop where
  | nil : Deepened 0 [] []
  | cons (c : Char) {n : Nat} {xs ys : List Char} :
      Deepened n xs ys → Deepened n (c :: xs) (c :: ys)
  | line (indent : List Char) {n : Nat} {xs ys : List Char} : (∀ c ∈ indent, c = ' ') →
      Deepened n xs ys → Deepened (n + 1) ('\n' :: (indent ++ xs)) ('\n' :: (deeper indent ++ ys))

namespace Deepened

theorem refl (xs : List Char) : Deepened 0 xs xs := by
  induction xs with
  | nil => exact .nil
  | cons c xs ih => exact .cons c ih

theorem append {m n : Nat} {as bs xs ys : List Char} (front : Deepened m as bs)
    (back : Deepened n xs ys) : Deepened (m + n) (as ++ xs) (bs ++ ys) := by
  induction front with
  | nil => simpa using back
  | cons c _ ih => exact .cons c ih
  | line indent blank _ ih =>
    rw [Nat.add_right_comm, List.cons_append, List.cons_append, List.append_assoc,
      List.append_assoc]
    exact .line indent blank ih

theorem behind (as : List Char) {n : Nat} {xs ys : List Char} (back : Deepened n xs ys) :
    Deepened n (as ++ xs) (as ++ ys) := by
  simpa using (refl as).append back

theorem before (bs : List Char) {n : Nat} {xs ys : List Char} (front : Deepened n xs ys) :
    Deepened n (xs ++ bs) (ys ++ bs) :=
  front.append (refl bs)

end Deepened

/-- Drops the spaces that stand directly behind a newline, however many there are. `opened` tells
that a newline and nothing but spaces came before. -/
def dropIndents (opened : Bool) : List Char → List Char
  | [] => []
  | c :: rest =>
    if c = '\n' then c :: dropIndents true rest
    else if opened ∧ c = ' ' then dropIndents true rest
    else c :: dropIndents false rest

theorem dropIndents_indent (indent rest : List Char) (blank : ∀ c ∈ indent, c = ' ') :
    dropIndents true (indent ++ rest) = dropIndents true rest := by
  induction indent with
  | nil => rfl
  | cons c indent ih =>
    cases blank c List.mem_cons_self
    rw [List.cons_append, dropIndents, if_neg (by decide), if_pos ⟨rfl, rfl⟩]
    exact ih fun d hd => blank d (List.mem_cons_of_mem _ hd)

theorem blank_deeper (indent : List Char) (blank : ∀ c ∈ indent, c = ' ') :
    ∀ c ∈ deeper indent, c = ' ' := by
  intro c hc
  rcases List.mem_append.mp hc with hc | hc
  · exact blank c hc
  · simpa using hc

theorem Deepened.dropIndents_eq {n : Nat} {xs ys : List Char} (h : Deepened n xs ys)
    (opened : Bool) : dropIndents opened xs = dropIndents opened ys := by
  induction h generalizing opened with
  | nil => rfl
  | cons c _ ih => simp only [dropIndents, ih]
  | line indent blank _ ih =>
    rw [dropIndents, dropIndents, if_pos rfl, if_pos rfl, dropIndents_indent indent _ blank,
      dropIndents_indent (deeper indent) _ (blank_deeper indent blank), ih]

theorem Deepened.length_eq {n : Nat} {xs ys : List Char} (h : Deepened n xs ys) :
    ys.length = xs.length + 2 * n := by
  induction h with
  | nil => rfl
  | cons c _ ih =>
    simp only [List.length_cons, ih]
    omega
  | line indent blank _ ih =>
    simp only [deeper, List.length_cons, List.length_append, List.length_nil, ih]
    omega

theorem Deepened.utf8ByteSize_eq {n : Nat} {xs ys : List Char} (h : Deepened n xs ys) :
    (String.ofList ys).utf8ByteSize = (String.ofList xs).utf8ByteSize + 2 * n := by
  induction h with
  | nil => rfl
  | cons c _ ih =>
    simp only [String.ofList_cons, String.utf8ByteSize_append, ih]
    omega
  | line indent blank _ ih =>
    -- what a line gets in front is two bytes as well as two characters
    have unit : (String.ofList [' ', ' ']).utf8ByteSize = 2 := rfl
    simp only [deeper, String.ofList_cons, String.ofList_append, String.utf8ByteSize_append, ih]
    simp only [String.ofList_cons, String.utf8ByteSize_append] at unit
    omega

/-! ### The lines between siblings -/

mutual

def Form.separators : Form → Nat
  | .text _ | .comment _ | .bare .. => 0
  | .nested _ _ children => (children.length - 1) + Form.separatorsAmong children

def Form.separatorsAmong : List Form → Nat
  | [] => 0
  | form :: rest => Form.separators form + Form.separatorsAmong rest

end

mutual

def Node.separators : Node → Nat
  | .element _ _ children =>
    (children.countP (fun child => !child.isAbsent) - 1) + Node.separatorsAmong children
  | .text _ | .comment _ | .other _ => 0

def Node.separatorsAmong : List Node → Nat
  | [] => 0
  | node :: rest => Node.separators node + Node.separatorsAmong rest

end

def leadsDeepened (first later : Nat) : List Form → Nat
  | [] => 0
  | _ :: rest => first + rest.length * later

theorem leadsDeepened_same (each : Nat) (forms : List Form) :
    leadsDeepened each each forms = forms.length * each := by
  cases forms with
  | nil => simp [leadsDeepened]
  | cons form rest =>
    rw [leadsDeepened, List.length_cons, Nat.succ_mul, Nat.add_comm]

mutual

theorem written_deepened (indent : List Char) (blank : ∀ c ∈ indent, c = ' ') (f : Form) :
    Deepened f.separators (f.written .parent indent) (f.written .child indent) := by
  cases f with
  | text content => exact .refl _
  | comment content => exact .refl _
  | bare tag attributes => exact .refl _
  | nested tag attributes children =>
    have siblings := writtenAll_deepened (deeper indent) indent (deeper indent) (deeper indent)
      (deeper indent) 0 1 (blank_deeper indent blank) (.refl _)
      (.cons ',' (by simpa using Deepened.line indent blank .nil)) children
    have count : leadsDeepened 0 1 children = children.length - 1 := by
      cases children with
      | nil => rfl
      | cons child rest => simp [leadsDeepened]
    rw [count] at siblings
    exact (siblings.before _).behind _ |>.behind _

theorem writtenAll_deepened (indent separator separator' lead lead' : List Char)
    (first later : Nat) (blank : ∀ c ∈ indent, c = ' ')
    (leads : Deepened first lead lead')
    (separates : Deepened later (',' :: '\n' :: separator) (',' :: '\n' :: separator'))
    (forms : List Form) :
    Deepened (leadsDeepened first later forms + Form.separatorsAmong forms)
      (Form.writtenAll .parent indent separator lead forms)
      (Form.writtenAll .child indent separator' lead' forms) := by
  cases forms with
  | nil => exact .nil
  | cons form rest =>
    have one := written_deepened indent blank form
    -- behind the first sibling every lead is a separator
    have others := writtenAll_deepened indent separator separator' _ _ later later blank separates
      separates rest
    have both := leads.append (one.append others)
    have count : leadsDeepened first later (form :: rest) + Form.separatorsAmong (form :: rest) =
        first + (form.separators +
          (leadsDeepened later later rest + Form.separatorsAmong rest)) := by
      rw [leadsDeepened_same, leadsDeepened, Form.separatorsAmong]
      omega
    rw [count]
    exact both

end

theorem forest_deepened (forms : List Form) :
    Deepened (Form.separatorsAmong forms) (Form.forest .parent forms)
      (Form.forest .child forms) := by
  -- nothing is indented at the root, so the separators there are the same
  have count : leadsDeepened 0 0 forms = 0 := by rw [leadsDeepened_same, Nat.mul_zero]
  have siblings := writtenAll_deepened [] [] [] [] [] 0 0 (by simp) (.refl _) (.refl _) forms
  rw [count, Nat.zero_add] at siblings
  exact siblings

mutual

theorem separators_form (node : Node) :
    (node.form?.map Form.separators).getD 0 = node.separators := by
  cases node with
  | element tag attributes children =>
    rw [Node.form?, Node.separators, ← length_forms, ← separatorsAmong_forms children]
    cases children with
    | nil => rfl
    | cons child rest => rfl
  | text content =>
    rw [Node.form?, Form.ofText?]
    split <;> rfl
  | comment content => rfl
  | other kind => rfl

theorem separatorsAmong_forms (nodes : List Node) :
    Form.separatorsAmong (Node.forms nodes) = Node.separatorsAmong nodes := by
  cases nodes with
  | nil => rfl
  | cons node rest =>
    have one := separators_form node
    have others := separatorsAmong_forms rest
    rw [Node.forms, Node.separatorsAmong, ← one, ← others]
    cases node.form? with
    | none => simp
    | some f => rfl

end

/-! ### Two runs side by side -/

structure Traced.Together {ε α : Type} (related : α → α → Prop) (first second : Traced ε α) :
    Prop where
  events : first.events = second.events
  ends : match first.result, second.result with
    | .ok a, .ok b => related a b
    | .error e, .error f => e = f
    | _, _ => False

theorem Traced.meeting_together {α : Type} {related : α → α → Prop} {a b : α}
    (policy : UnsupportedPolicy) (kinds : List String) (answers : related a b) :
    Together related (meeting policy kinds a) (meeting policy kinds b) := by
  cases policy with
  | skip => exact ⟨rfl, answers⟩
  | error =>
    cases kinds with
    | nil => exact ⟨rfl, answers⟩
    | cons kind rest => exact ⟨rfl, rfl⟩

structure Respaced (n : Nat) (shallow deep : String) : Prop where
  unindented : dropIndents false shallow.toList = dropIndents false deep.toList
  length : deep.length = shallow.length + 2 * n
  bytes : deep.utf8ByteSize = shallow.utf8ByteSize + 2 * n

theorem Deepened.respaced {n : Nat} {xs ys : List Char} (h : Deepened n xs ys) :
    Respaced n (String.ofList xs) (String.ofList ys) := by
  refine ⟨?_, ?_, h.utf8ByteSize_eq⟩
  · rw [String.toList_ofList, String.toList_ofList, h.dropIndents_eq]
  · rw [String.length_ofList, String.length_ofList, h.length_eq]

theorem renderNode_none_iff (o : Options) (indent : String) (node : Node) (shown : Option String)
    (rendered : (renderNode o indent node).result = .ok shown) :
    shown = none ↔ node.isAbsent = true := by
  rw [renderNode_eq] at rendered
  cases Traced.meeting_ok _ _ _ _ rendered
  rw [Option.map_eq_none_iff, form?_eq_none_iff]

theorem renderNode_respaced (indent : String) (blank : ∀ c ∈ indent.toList, c = ' ')
    (node : Node) :
    Option.Rel (Respaced node.separators)
      (node.form?.map fun f => String.ofList (f.written .parent indent.toList))
      (node.form?.map fun f => String.ofList (f.written .child indent.toList)) := by
  have count := separators_form node
  cases h : node.form? with
  | none => exact .none
  | some f =>
    rw [h] at count
    rw [← count]
    exact .some (written_deepened indent.toList blank f).respaced

/-- Under either policy the two layouts go the same way. Where there is notation, it differs by two
spaces on each line between siblings that are shown, and by nothing else. -/
theorem layouts_agree (policy : UnsupportedPolicy) :
    (∀ (indent : String) (node : Node), (∀ c ∈ indent.toList, c = ' ') →
      Traced.Together (Option.Rel (Respaced node.separators))
        (renderNode ⟨.parent, policy⟩ indent node) (renderNode ⟨.child, policy⟩ indent node)) ∧
    (∀ nodes : List Node,
      Traced.Together (Respaced (Node.separatorsAmong nodes))
        (renderForest ⟨.parent, policy⟩ nodes) (renderForest ⟨.child, policy⟩ nodes)) ∧
    ∀ (o : Options) (indent : String) (node : Node) (shown : Option String),
      (renderNode o indent node).result = .ok shown → (shown = none ↔ node.isAbsent = true) := by
  refine ⟨fun indent node blank => ?_, fun nodes => ?_, renderNode_none_iff⟩
  · rw [renderNode_eq, renderNode_eq]
    exact Traced.meeting_together policy _ (renderNode_respaced indent blank node)
  · rw [renderForest_eq, renderForest_eq, ← separatorsAmong_forms]
    exact Traced.meeting_together policy _ (forest_deepened (Node.forms nodes)).respaced

def scatteredList : Node :=
  .element "ul" []
    [.text " ", .element "li" [] [.text "a\n    b", .other "doctype", .comment "c"], .other "pi",
      .element "li" [] [.text "\n"], .text "\t", .text "end"]

def scatteredText : String :=
  "'ul(\n    'li(\n      \"\"\"a\n    b\"\"\",\n      // c\n    ),\n    " ++
    "'li(\n\n    ),\n    \"end\"\n  )"

theorem layouts_agree_scattered :
    (∀ c ∈ "  ".toList, c = ' ') ∧
      Traced.Together (Option.Rel (Respaced 3)) (renderNode ⟨.parent, .skip⟩ "  " scatteredList)
        (renderNode ⟨.child, .skip⟩ "  " scatteredList) ∧
      (renderNode ⟨.child, .skip⟩ "  " scatteredList).result = .ok (some scatteredText) ∧
      scatteredList.isAbsent ≠ true := by
  have blank : ∀ c ∈ "  ".toList, c = ' ' := by simp
  have shown : (renderNode ⟨.child, .skip⟩ "  " scatteredList).result =
      .ok (some scatteredText) := by
    rw [renderNode_eq]
    rfl
  obtain ⟨ofNode, -, absent⟩ := layouts_agree .skip
  exact ⟨blank, ofNode "  " scatteredList blank, shown,
    fun gone => Option.some_ne_none _ ((absent _ _ _ _ shown).mpr gone)⟩

end SymbolMarkup
