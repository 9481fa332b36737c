import SymbolMarkup.Proofs.Form

/-! How a form is written down, character by character. Indentation is handed down from the root,
and each form but the first among its siblings is led in by a comma and the line that separates. -/
namespace SymbolMarkup

def deeper (indent : List Char) : List Char := indent ++ [' ', ' ']

def SiblingIndent.separator (s : SiblingIndent) (indent : List Char) : List Char :=
  match s with
  | .parent => indent
  | .child => deeper indent

def quoted (text : List Char) : List Char :=
  if '\n' ∈ text then '"' :: '"' :: '"' :: (text ++ ['"', '"', '"']) else '"' :: (text ++ ['"'])

def opening (tag : String) : List Char := '\'' :: (tag.toList ++ ['(', '\n'])

def lineEnd (more : Bool) : List Char := if more then ['"', ','] else ['"']

def Attribute.line (a : Attribute) (more : Bool) : List Char :=
  '\'' :: (a.name.toList ++ ' ' :: '/' :: '=' :: ' ' :: '"' :: (a.value.toList ++ lineEnd more))

def attributeLines (indent : List Char) (more : Bool) : List Attribute → List Char
  | [] => []
  | a :: rest =>
    deeper indent ++ (a.line (!rest.isEmpty || more) ++ '\n' :: attributeLines indent more rest)

mutual

/-- A form that stands at `indent`. Its first line is not indented. -/
def Form.written (s : SiblingIndent) (indent : List Char) : Form → List Char
  | .text content => quoted content.toList
  | .comment content => '/' :: '/' :: ' ' :: content.toList
  | .bare tag attributes =>
    opening tag ++ (attributeLines indent false attributes ++ (indent ++ [')']))
  | .nested tag attributes children =>
    opening tag ++ (attributeLines indent true attributes ++
      (Form.writtenAll s (deeper indent) (s.separator indent) (deeper indent) children ++
        '\n' :: (indent ++ [')'])))

/-- Siblings that stand at `indent`. `lead` comes in front of the first one, and a comma, a newline
and `separator` in front of the others. -/
def Form.writtenAll (s : SiblingIndent) (indent separator lead : List Char) : List Form → List Char
  | [] => []
  | form :: rest =>
    lead ++ (Form.written s indent form ++
      Form.writtenAll s indent separator (',' :: '\n' :: separator) rest)

end

def Form.forest (s : SiblingIndent) (forms : List Form) : List Char :=
  Form.writtenAll s [] [] [] forms

def Form.mark : Form → Char
  | .text _ => '"'
  | .comment _ => '/'
  | .bare .. | .nested .. => '\''

theorem mark_ne_newline (f : Form) : f.mark ≠ '\n' := by
  cases f <;> simp [Form.mark]

theorem written_begins (s : SiblingIndent) (indent : List Char) (f : Form) :
    ∃ rest, f.written s indent = f.mark :: rest := by
  cases f with
  | text content =>
    by_cases h : '\n' ∈ content.toList
    · exact ⟨_, by rw [Form.written, quoted, if_pos h]; rfl⟩
    · exact ⟨_, by rw [Form.written, quoted, if_neg h]; rfl⟩
  | comment content => exact ⟨_, by rw [Form.written]; rfl⟩
  | bare tag attributes => exact ⟨_, by rw [Form.written, opening, List.cons_append]; rfl⟩
  | nested tag attributes children =>
    exact ⟨_, by rw [Form.written, opening, List.cons_append]; rfl⟩

theorem written_ne_nil (s : SiblingIndent) (indent : List Char) (f : Form) :
    f.written s indent ≠ [] := by
  obtain ⟨rest, h⟩ := written_begins s indent f
  rw [h]
  exact List.cons_ne_nil f.mark rest

end SymbolMarkup
