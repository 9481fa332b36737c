import SymbolMarkup.Proofs.Written

/-! Forms that can be told apart once they are written down, and the trees that have such forms.
What is normal has no newline whatever it was before, so comments and attribute values are free. -/
namespace SymbolMarkup

namespace Text

theorem mem_of_mem_squeezeSpaces {c : Char} (cs : List Char) (h : c ∈ squeezeSpaces cs) :
    c ∈ cs := by
  induction cs using squeezeSpaces.induct with
  | case1 => exact h
  | case2 d => exact h
  | case3 a b rest both ih =>
    rw [squeezeSpaces, if_pos both] at h
    exact List.mem_cons_of_mem a (ih h)
  | case4 a b rest apart ih =>
    rw [squeezeSpaces, if_neg apart] at h
    rcases List.mem_cons.mp h with rfl | h
    · exact List.mem_cons_self
    · exact List.mem_cons_of_mem a (ih h)

theorem newline_not_mem_joinLines (cs : List Char) : '\n' ∉ joinLines cs := by
  intro h
  obtain ⟨c, -, hc⟩ := List.mem_map.mp h
  split at hc
  · contradiction
  · contradiction

theorem newline_not_mem_normalize (s : String) : '\n' ∉ (normalize s).toList := by
  rw [normalize, String.toList_ofList]
  exact fun h => newline_not_mem_joinLines s.toList (mem_of_mem_squeezeSpaces _ h)

theorem mem_of_mem_trim {c : Char} {s : String} (h : c ∈ (trim s).toList) : c ∈ s.toList := by
  rw [trim, String.toList_ofList, dropTrailingBlanks, dropLeadingBlanks] at h
  have back := List.mem_reverse.mp ((List.dropWhile_suffix isBlank).mem (List.mem_reverse.mp h))
  exact (List.dropWhile_suffix isBlank).mem back

end Text

theorem newline_not_mem_deeper (indent : List Char) (oneLine : '\n' ∉ indent) :
    '\n' ∉ deeper indent := by
  simp [deeper, oneLine]

theorem newline_not_mem_line (a : Attribute) (name : '\n' ∉ a.name.toList)
    (value : '\n' ∉ a.value.toList) (more : Bool) : '\n' ∉ a.line more := by
  cases more <;> simp [Attribute.line, lineEnd, name, value]

structure Attribute.Legible (a : Attribute) : Prop where
  oneWord : ' ' ∉ a.name.toList
  nameOneLine : '\n' ∉ a.name.toList
  valueOneLine : '\n' ∉ a.value.toList

mutual

def Form.Legible : Form → Prop
  | .text content => content.toList ≠ [] ∧ '"' ∉ content.toList
  | .comment content => '\n' ∉ content.toList
  | .bare tag attributes => '\n' ∉ tag.toList ∧ ∀ a ∈ attributes, a.Legible
  | .nested tag attributes children =>
    '\n' ∉ tag.toList ∧ (∀ a ∈ attributes, a.Legible) ∧ Form.LegibleAll children

def Form.LegibleAll : List Form → Prop
  | [] => True
  | form :: rest => Form.Legible form ∧ Form.LegibleAll rest

end

theorem normal_legible (attributes : List Attribute)
    (names : ∀ a ∈ attributes, ' ' ∉ a.name.toList ∧ '\n' ∉ a.name.toList) :
    ∀ a ∈ attributes.map Attribute.normal, a.Legible := by
  intro a ha
  obtain ⟨b, hb, rfl⟩ := List.mem_map.mp ha
  exact ⟨(names b hb).1, (names b hb).2, Text.newline_not_mem_normalize b.value⟩

theorem trim_legible (content : String) (nonblank : ¬ (Text.trim content).isEmpty)
    (clean : '"' ∉ content.toList) : (Form.text (Text.trim content)).Legible := by
  refine ⟨fun empty => nonblank ?_, fun hq => clean (Text.mem_of_mem_trim hq)⟩
  rw [String.toList_eq_nil_iff.mp empty]
  rfl

mutual

theorem form_legible (node : Node) (legible : node.Legible) (f : Form) (h : node.form? = some f) :
    f.Legible := by
  cases comesTo_of_form? node f h with
  | text content nonblank => exact trim_legible content nonblank legible
  | comment content => exact Text.newline_not_mem_normalize content
  | bare tag attributes => exact ⟨legible.1, normal_legible attributes legible.2.1⟩
  | nested tag attributes children =>
    obtain ⟨oneLine, names, inside⟩ := legible
    exact ⟨oneLine, normal_legible attributes names, forms_legible children inside⟩

theorem forms_legible (nodes : List Node) (legible : Node.LegibleAll nodes) :
    Form.LegibleAll (Node.forms nodes) := by
  cases nodes with
  | nil => trivial
  | cons node rest =>
    have tail := forms_legible rest legible.2
    rw [Node.forms]
    cases h : node.form? with
    | none => exact tail
    | some f => exact ⟨form_legible node legible.1 f h, tail⟩

end

end SymbolMarkup
