import SymbolMarkup.Proofs.Siblings

/-! The layout of an element, as a join. The two loops that write an element decide on each comma
and each lead by what has been and what is still to come; here the lines of the attributes and the
notations of the children are joined, and the ends are added to the joins. -/
namespace SymbolMarkup

namespace Layout

def attributeLine (indent : String) (a : Attribute) : String :=
  indent ++ "  '" ++ a.name ++ " /= \"" ++ Text.normalize a.value ++ "\""

def attributes (indent : String) (listed : Bool) (as : List Attribute) : String :=
  if as.isEmpty then ""
  else ",\n".intercalate (as.map (attributeLine indent)) ++ (if listed then "," else "") ++ "\n"

def separator (o : Options) (indent : String) : String :=
  match o.siblingIndent with
  | .parent => indent
  | .child => indent ++ "  "

def children (o : Options) (indent : String) (shown : List String) : String :=
  if shown.isEmpty then ""
  else indent ++ "  " ++ (",\n" ++ separator o indent).intercalate shown

/-- An element at `indent`, of whose children those in `shown` are not absent. -/
def element (o : Options) (indent tag : String) (as : List Attribute) (listed : Bool)
    (shown : List String) : String :=
  "'" ++ Text.lowercase tag ++ "(\n" ++ attributes indent listed as ++
    (if listed then children o indent shown ++ "\n" else "") ++ indent ++ ")"

end Layout

theorem toList_deeper (indent : String) : (indent ++ "  ").toList = deeper indent.toList :=
  toList_indent indent

theorem toList_separator (o : Options) (indent : String) :
    (Layout.separator o indent).toList = o.siblingIndent.separator indent.toList :=
  toList_separatorIndent o indent

theorem line_more (a : Attribute) (more : Bool) :
    a.line more = a.line false ++ if more then [','] else [] := by
  cases more <;> simp [Attribute.line, lineEnd]

theorem attributeLines_eq_intercalate (indent : List Char) (more : Bool) (a : Attribute)
    (rest : List Attribute) :
    attributeLines indent more (a :: rest) =
      [',', '\n'].intercalate ((a :: rest).map fun a => deeper indent ++ a.line false) ++
        ((if more then [','] else []) ++ ['\n']) := by
  induction rest generalizing a with
  | nil => simp [attributeLines, line_more a more]
  | cons next rest ih =>
    have comma : a.line (!(next :: rest).isEmpty || more) = a.line false ++ [','] :=
      line_more a true
    rw [attributeLines, ih, comma, List.map_cons, List.map_cons, List.map_cons,
      List.intercalate_cons_cons]
    simp only [List.append_assoc, List.cons_append, List.nil_append]

theorem toList_attributeLine (indent : String) (a : Attribute) :
    (Layout.attributeLine indent a).toList =
      deeper indent.toList ++ a.normal.line false := by
  simp [Layout.attributeLine, deeper, Attribute.line, lineEnd, Attribute.normal]

theorem toList_attributes (indent : String) (listed : Bool) (as : List Attribute) :
    (Layout.attributes indent listed as).toList =
      attributeLines indent.toList listed (as.map Attribute.normal) := by
  cases as with
  | nil => rfl
  | cons a rest =>
    have lines : (((a :: rest).map (Layout.attributeLine indent)).map String.toList) =
        ((a :: rest).map Attribute.normal).map fun a => deeper indent.toList ++ a.line false := by
      rw [List.map_map, List.map_map]
      exact List.map_congr_left fun b _ => toList_attributeLine indent b
    rw [List.map_cons (f := Attribute.normal), attributeLines_eq_intercalate, ← List.map_cons,
      ← lines, Layout.attributes, if_neg (by simp)]
    cases listed <;> simp [String.toList_intercalate]

theorem toList_children (o : Options) (indent : String) (forms : List Form) :
    (Layout.children o indent (forms.map fun f =>
        String.ofList (f.written o.siblingIndent (indent ++ "  ").toList))).toList =
      Form.writtenAll o.siblingIndent (deeper indent.toList)
        (o.siblingIndent.separator indent.toList) (deeper indent.toList) forms := by
  cases forms with
  | nil => rfl
  | cons form rest =>
    have texts : ((form :: rest).map fun f =>
        String.ofList (f.written o.siblingIndent (indent ++ "  ").toList)).map String.toList =
        (form :: rest).map (Form.written o.siblingIndent (deeper indent.toList)) := by
      rw [List.map_map, toList_deeper]
      exact List.map_congr_left fun f _ => String.toList_ofList
    rw [writtenAll_eq_intercalate, ← texts, Layout.children, if_neg (by simp),
      String.toList_append, String.toList_intercalate, toList_deeper, String.toList_append,
      toList_separator]
    rfl

/-- An element is shown in this layout, and reports what its children report. -/
theorem element_laid_out (o : Options) (indent tag : String) (attributes : List Attribute)
    (children : List Node) (rendered : ∀ child ∈ children, Rendered o (indent ++ "  ") child) :
    renderNode o indent (.element tag attributes children) =
      ⟨children.flatMap fun child => (renderNode o (indent ++ "  ") child).events,
        .ok (some (Layout.element o indent tag attributes (!children.isEmpty)
          (shownAmong o (indent ++ "  ") children)))⟩ := by
  have tolerated := (all_rendered_iff o (indent ++ "  ") children).mp rendered
  have inside : (Layout.children o indent (shownAmong o (indent ++ "  ") children)).toList =
      Form.writtenAll o.siblingIndent (deeper indent.toList)
        (o.siblingIndent.separator indent.toList) (deeper indent.toList) (Node.forms children) := by
    rw [shownAmong_eq o _ children rendered, toList_children]
  rw [renderNode_eq, Node.unsupportedKinds, Traced.meeting_tolerated _ _ _ tolerated,
    events_among, Node.form?]
  congr 2
  cases children with
  | nil =>
    refine congrArg some (String.toList_inj.mp ?_)
    simp [Layout.element, toList_attributes, Form.written, opening]
  | cons child rest =>
    refine congrArg some (String.toList_inj.mp ?_)
    simp [Layout.element, toList_attributes, inside, Form.written, opening]

def patchyChildren : List Node :=
  [.text " ", .element "BR" [] [], .other "pi", .text "x\ny", .text "\n"]

def patchyText : String :=
  "'p(\n   'id /= \"a b\",\n   'lang /= \"\",\n   'br(\n   ),\n \"\"\"x\ny\"\"\"\n )"

theorem element_laid_out_patchy :
    (∀ child ∈ patchyChildren, Rendered {} (" " ++ "  ") child) ∧
    renderNode {} " " (.element "P" [⟨"id", "a\nb"⟩, ⟨"lang", ""⟩] patchyChildren) =
      ⟨patchyChildren.flatMap fun child => (renderNode {} (" " ++ "  ") child).events,
        .ok (some (Layout.element {} " " "P" [⟨"id", "a\nb"⟩, ⟨"lang", ""⟩] true
          (shownAmong {} (" " ++ "  ") patchyChildren)))⟩ ∧
    (renderNode {} " " (.element "P" [⟨"id", "a\nb"⟩, ⟨"lang", ""⟩] patchyChildren)).result =
      .ok (some patchyText) := by
  have rendered : ∀ child ∈ patchyChildren, Rendered {} (" " ++ "  ") child :=
    (all_rendered_iff {} (" " ++ "  ") patchyChildren).mpr fun strict => by contradiction
  refine ⟨rendered, element_laid_out {} " " "P" _ patchyChildren rendered, ?_⟩
  rw [renderNode_eq]
  rfl

end SymbolMarkup
