import SymbolMarkup.Proofs.Boundary
import SymbolMarkup.Proofs.Rendering

/-! The notation is unambiguous: what is written determines the form of what was rendered. Two forms
are compared in front of arbitrary texts that can follow them, and each part is cut off from what
comes behind it in turn: the tag, the attributes, the children, the end. -/
namespace SymbolMarkup

/-! ### The parts of an element -/

theorem opening_cut (tag tag' : String) (x y : List Char) (ht : '\n' ∉ tag.toList)
    (ht' : '\n' ∉ tag'.toList) (h : opening tag ++ x = opening tag' ++ y) :
    tag = tag' ∧ x = y := by
  have ht : '\n' ∉ tag.toList ++ ['('] := by simp [ht]
  have ht' : '\n' ∉ tag'.toList ++ ['('] := by simp [ht']
  obtain ⟨same, rest⟩ := cut_at_mark '\n' _ _ x y ht ht' (by simpa [opening] using h)
  exact ⟨String.toList_inj.mp (List.append_cancel_right same), rest⟩

theorem opening_ne_line (tag : String) (a : Attribute) (more : Bool) (x y : List Char)
    (ht : '\n' ∉ tag.toList) (ha : a.Legible) :
    opening tag ++ x ≠ a.line more ++ '\n' :: y := by
  intro h
  have ht : '\n' ∉ '\'' :: (tag.toList ++ ['(']) := by simp [ht]
  obtain ⟨same, -⟩ := cut_at_mark '\n' _ _ x y ht
    (newline_not_mem_line a ha.nameOneLine ha.valueOneLine more) (by simpa [opening] using h)
  exact tag_ne_line tag.toList a more same

theorem written_ne_line (s : SiblingIndent) (indent : List Char) (f : Form) (a : Attribute)
    (more : Bool) (x y : List Char) (hf : f.Legible) (ha : a.Legible) :
    f.written s indent ++ x ≠ a.line more ++ '\n' :: y := by
  cases f with
  | text content =>
    rw [Form.written, quoted, Attribute.line]
    split <;> simp
  | comment content => simp [Form.written, Attribute.line]
  | bare tag attributes =>
    rw [Form.written, List.append_assoc]
    exact opening_ne_line tag a more _ y hf.1 ha
  | nested tag attributes children =>
    rw [Form.written, List.append_assoc]
    exact opening_ne_line tag a more _ y hf.1 ha

def NoLine (indent text : List Char) : Prop :=
  ∀ (a : Attribute) (more : Bool) (rest : List Char), a.Legible →
    text ≠ deeper indent ++ (a.line more ++ '\n' :: rest)

theorem attributes_cut (indent : List Char) (as bs : List Attribute) (more more' : Bool)
    (x y : List Char) (ha : ∀ a ∈ as, a.Legible) (hb : ∀ b ∈ bs, b.Legible)
    (hx : NoLine indent x) (hy : NoLine indent y)
    (h : attributeLines indent more as ++ x = attributeLines indent more' bs ++ y) :
    as = bs ∧ x = y := by
  induction as generalizing bs with
  | nil =>
    cases bs with
    | nil => exact ⟨rfl, h⟩
    | cons b bs =>
      simp only [attributeLines, List.nil_append, List.append_assoc, List.cons_append] at h
      exact absurd h (hx b _ _ (hb b List.mem_cons_self))
  | cons a as ih =>
    cases bs with
    | nil =>
      simp only [attributeLines, List.nil_append, List.append_assoc, List.cons_append] at h
      exact absurd h.symm (hy a _ _ (ha a List.mem_cons_self))
    | cons b bs =>
      have legible := ha a List.mem_cons_self
      have legible' := hb b List.mem_cons_self
      simp only [attributeLines, List.append_assoc, List.cons_append] at h
      obtain ⟨line, rest⟩ := cut_at_mark '\n' _ _ _ _
        (newline_not_mem_line a legible.nameOneLine legible.valueOneLine _)
        (newline_not_mem_line b legible'.nameOneLine legible'.valueOneLine _)
        (List.append_cancel_left h)
      obtain ⟨same, behind⟩ := ih bs (fun a' h' => ha a' (List.mem_cons_of_mem a h'))
        (fun b' h' => hb b' (List.mem_cons_of_mem b h')) rest
      exact ⟨by rw [line_cut a b legible legible' _ _ line, same], behind⟩

theorem newline_ne_indented (indent x y : List Char) (c : Char) (oneLine : '\n' ∉ indent)
    (hc : c ≠ '\n') : '\n' :: x ≠ indent ++ c :: y := by
  intro h
  cases indent with
  | nil => exact hc (List.cons.inj h).1.symm
  | cons d indent => exact oneLine ((List.cons.inj h).1 ▸ List.mem_cons_self)

theorem newline_ne_deeper (indent x y : List Char) (oneLine : '\n' ∉ indent) :
    '\n' :: x ≠ deeper indent ++ y := by
  rw [deeper, List.append_assoc]
  exact newline_ne_indented indent x _ ' ' oneLine (by decide)

theorem noLine_close (indent x : List Char) : NoLine indent (indent ++ ')' :: x) :=
  fun _ _ _ _ h => deeper_ne_close indent _ x h.symm

theorem noLine_children (s : SiblingIndent) (indent separator : List Char) (children : List Form)
    (x : List Char) (oneLine : '\n' ∉ indent) (legible : Form.LegibleAll children) :
    NoLine indent
      (Form.writtenAll s (deeper indent) separator (deeper indent) children ++ '\n' :: x) := by
  intro a more rest ha h
  cases children with
  | nil => exact newline_ne_deeper indent x _ oneLine h
  | cons f children =>
    rw [Form.writtenAll, List.append_assoc, List.append_assoc] at h
    exact written_ne_line s (deeper indent) f a more _ rest legible.1 ha
      (List.append_cancel_left h)

theorem close_ne_children (s : SiblingIndent) (indent separator : List Char)
    (children : List Form) (x y : List Char) (oneLine : '\n' ∉ indent) :
    indent ++ ')' :: x ≠
      Form.writtenAll s (deeper indent) separator (deeper indent) children ++ '\n' :: y := by
  intro h
  cases children with
  | nil => exact newline_ne_indented indent y x ')' oneLine (by decide) h.symm
  | cons f children =>
    rw [Form.writtenAll, List.append_assoc] at h
    exact deeper_ne_close indent _ x h.symm

/-! ### Forms and siblings -/

/-- Behind `lead` no form can be taken for the end of a line. -/
def LeadsOn (lead : List Char) : Prop :=
  ∀ (f : Form) (x y : List Char), lead ++ f.mark :: x ≠ '\n' :: y

theorem leadsOn_nil : LeadsOn [] := fun f _ _ h => mark_ne_newline f (List.cons.inj h).1

theorem leadsOn_deeper (indent : List Char) (oneLine : '\n' ∉ indent) : LeadsOn (deeper indent) :=
  fun _ _ y h => newline_ne_deeper indent y _ oneLine h.symm

theorem leadsOn_comma (rest : List Char) : LeadsOn (',' :: rest) :=
  fun _ _ _ h => absurd (List.cons.inj h).1 (by decide)

theorem siblings_ne_newline (s : SiblingIndent) (indent separator lead : List Char) (f : Form)
    (rest : List Form) (x y : List Char) (leads : LeadsOn lead) :
    Form.writtenAll s indent separator lead (f :: rest) ++ x ≠ '\n' :: y := by
  intro h
  obtain ⟨tail, begins⟩ := written_begins s indent f
  rw [Form.writtenAll, begins, List.append_assoc, List.cons_append, List.cons_append] at h
  exact leads f _ y h

theorem follows_rest (s : SiblingIndent) (indent separator close : List Char) (rest : List Form)
    (x : List Char) :
    Follows separator close
      (Form.writtenAll s indent separator (',' :: '\n' :: separator) rest ++
        '\n' :: (close ++ ')' :: x)) := by
  cases rest with
  | nil => exact .inl ⟨x, rfl⟩
  | cons f rest =>
    obtain ⟨tail, begins⟩ := written_begins s indent f
    exact .inr ⟨f, _, by
      rw [Form.writtenAll, begins, List.append_assoc, List.append_assoc, List.cons_append,
        List.cons_append, List.cons_append]⟩

theorem element_cut (indent : List Char) (tag tag' : String) (as bs : List Attribute)
    (more more' : Bool) (x y : List Char) (ht : '\n' ∉ tag.toList) (ht' : '\n' ∉ tag'.toList)
    (ha : ∀ a ∈ as, a.Legible) (hb : ∀ b ∈ bs, b.Legible)
    (hx : NoLine indent x) (hy : NoLine indent y)
    (h : opening tag ++ (attributeLines indent more as ++ x) =
      opening tag' ++ (attributeLines indent more' bs ++ y)) :
    tag = tag' ∧ as = bs ∧ x = y := by
  obtain ⟨same, rest⟩ := opening_cut tag tag' _ _ ht ht' h
  exact ⟨same, attributes_cut indent as bs more more' x y ha hb hx hy rest⟩

theorem bare_ne_nested (s : SiblingIndent) (indent : List Char) (tag tag' : String)
    (as bs : List Attribute) (children : List Form) (x y : List Char) (oneLine : '\n' ∉ indent)
    (hf : (Form.bare tag as).Legible) (hg : (Form.nested tag' bs children).Legible) :
    (Form.bare tag as).written s indent ++ x ≠
      (Form.nested tag' bs children).written s indent ++ y := by
  intro h
  simp only [Form.written, List.append_assoc, List.cons_append, List.nil_append] at h
  obtain ⟨-, -, rest⟩ := element_cut indent tag tag' as bs false true _ _ hf.1 hg.1 hf.2 hg.2.1
    (noLine_close indent x) (noLine_children s indent _ children _ oneLine hg.2.2) h
  exact close_ne_children s indent _ children x _ oneLine rest

mutual

/-- What can follow a form tells where it ends, and what it is. -/
theorem written_cut (s : SiblingIndent) (indent separator close : List Char) (f g : Form)
    (x y : List Char) (oneLine : '\n' ∉ indent) (apart : Apart separator close)
    (hf : f.Legible) (hg : g.Legible)
    (hx : Follows separator close x) (hy : Follows separator close y)
    (h : f.written s indent ++ x = g.written s indent ++ y) : f = g ∧ x = y := by
  have mark : f.mark = g.mark := by
    obtain ⟨tail, begins⟩ := written_begins s indent f
    obtain ⟨tail', begins'⟩ := written_begins s indent g
    rw [begins, begins'] at h
    exact (List.cons.inj h).1
  cases f with
  | text content =>
    cases g with
    | text content' =>
      obtain ⟨same, rest⟩ := quoted_cut _ _ x y hf hg h
      exact ⟨by rw [String.toList_inj.mp same], rest⟩
    | comment | bare | nested => simp [Form.mark] at mark
  | comment content =>
    cases g with
    | comment content' =>
      simp only [Form.written, List.cons_append, List.cons.injEq, true_and] at h
      obtain ⟨same, rest⟩ := comment_cut separator close apart _ _ x y hf hg hx hy h
      exact ⟨by rw [String.toList_inj.mp same], rest⟩
    | text | bare | nested => simp [Form.mark] at mark
  | bare tag attributes =>
    cases g with
    | bare tag' attributes' =>
      simp only [Form.written, List.append_assoc, List.singleton_append] at h
      obtain ⟨same, sames, rest⟩ := element_cut indent tag tag' attributes attributes' false false
        _ _ hf.1 hg.1 hf.2 hg.2 (noLine_close indent x) (noLine_close indent y) h
      exact ⟨by rw [same, sames], (List.cons.inj (List.append_cancel_left rest)).2⟩
    | nested tag' attributes' children =>
      exact absurd h (bare_ne_nested s indent tag tag' _ _ children x y oneLine hf hg)
    | text | comment => simp [Form.mark] at mark
  | nested tag attributes children =>
    cases g with
    | nested tag' attributes' children' =>
      simp only [Form.written, List.append_assoc, List.cons_append, List.nil_append] at h
      obtain ⟨same, sames, rest⟩ := element_cut indent tag tag' attributes attributes' true true
        _ _ hf.1 hg.1 hf.2.1 hg.2.1
        (noLine_children s indent _ children _ oneLine hf.2.2)
        (noLine_children s indent _ children' _ oneLine hg.2.2) h
      obtain ⟨inside, behind⟩ := writtenAll_cut s (deeper indent) (s.separator indent) indent
        (deeper indent) children children' x y (newline_not_mem_deeper indent oneLine)
        (apart_separator s indent) (leadsOn_deeper indent oneLine) hf.2.2 hg.2.2 rest
      exact ⟨by rw [same, sames, inside], behind⟩
    | bare tag' attributes' =>
      exact absurd h.symm (bare_ne_nested s indent tag' tag _ _ children y x oneLine hg hf)
    | text | comment => simp [Form.mark] at mark

theorem writtenAll_cut (s : SiblingIndent) (indent separator close lead : List Char)
    (fs gs : List Form) (x y : List Char) (oneLine : '\n' ∉ indent)
    (apart : Apart separator close) (leads : LeadsOn lead)
    (hf : Form.LegibleAll fs) (hg : Form.LegibleAll gs)
    (h : Form.writtenAll s indent separator lead fs ++ '\n' :: (close ++ ')' :: x) =
      Form.writtenAll s indent separator lead gs ++ '\n' :: (close ++ ')' :: y)) :
    fs = gs ∧ x = y := by
  cases fs with
  | nil =>
    cases gs with
    | nil => exact ⟨rfl, (List.cons.inj (List.append_cancel_left (List.cons.inj h).2)).2⟩
    | cons g gs => exact absurd h.symm (siblings_ne_newline s indent separator lead g gs _ _ leads)
  | cons f fs =>
    cases gs with
    | nil => exact absurd h (siblings_ne_newline s indent separator lead f fs _ _ leads)
    | cons g gs =>
      simp only [Form.writtenAll, List.append_assoc] at h
      obtain ⟨same, rest⟩ := written_cut s indent separator close f g _ _ oneLine apart hf.1 hg.1
        (follows_rest s indent separator close fs x) (follows_rest s indent separator close gs y)
        (List.append_cancel_left h)
      obtain ⟨sames, behind⟩ := writtenAll_cut s indent separator close _ fs gs x y oneLine apart
        (leadsOn_comma _) hf.2 hg.2 rest
      exact ⟨by rw [same, sames], behind⟩

end

theorem forest_cut (s : SiblingIndent) (fs gs : List Form) (hf : Form.LegibleAll fs)
    (hg : Form.LegibleAll gs) (h : Form.forest s fs = Form.forest s gs) : fs = gs := by
  have ended : Form.forest s fs ++ ['\n', ')'] = Form.forest s gs ++ ['\n', ')'] := by rw [h]
  exact (writtenAll_cut s [] [] [] [] fs gs [] [] (List.not_mem_nil) (apart_same []) leadsOn_nil
    hf hg ended).1

/-- Forests that are rendered alike have the same form, sibling by sibling and at every depth. -/
theorem rendering_unambiguous (o : Options) (left right : List Node) (output : String)
    (legibleLeft : Node.LegibleAll left) (legibleRight : Node.LegibleAll right)
    (shownLeft : (renderForest o left).result = .ok output)
    (shownRight : (renderForest o right).result = .ok output) :
    Node.forms left = Node.forms right := by
  rw [renderForest_eq] at shownLeft shownRight
  have same :=
    (Traced.meeting_ok _ _ _ _ shownLeft).trans (Traced.meeting_ok _ _ _ _ shownRight).symm
  exact forest_cut o.siblingIndent _ _ (forms_legible left legibleLeft)
    (forms_legible right legibleRight) (String.ofList_injective same)

def untidy : List Node :=
  [.element "UL" [⟨"title", "a\n  \"b\","⟩]
    [.text "\n'x(\n", .other "doctype", .comment "n,", .element "Br" [] [.text " "]], .text " "]

def tidy : List Node :=
  [.element "ul" [⟨"title", "a \"b\","⟩]
    [.text "'x(", .comment "n,", .element "br" [] [.other "fragment"]]]

def tidyText : String :=
  "'ul(\n  'title /= \"a \"b\",\",\n  \"'x(\",\n// n,,\n'br(\n\n  )\n)"

theorem untidy_same_form :
    Node.LegibleAll untidy ∧ Node.LegibleAll tidy ∧
      (renderForest {} untidy).result = .ok tidyText ∧
      (renderForest {} tidy).result = .ok tidyText ∧
      Node.forms untidy = Node.forms tidy := by
  have legible : Node.LegibleAll untidy := by decide +kernel
  have legible' : Node.LegibleAll tidy := by decide +kernel
  have shown : (renderForest {} untidy).result = .ok tidyText := by
    rw [renderForest_eq]
    rfl
  have shown' : (renderForest {} tidy).result = .ok tidyText := by
    rw [renderForest_eq]
    rfl
  exact ⟨legible, legible', shown, shown',
    rendering_unambiguous {} untidy tidy tidyText legible legible' shown shown'⟩

end SymbolMarkup
