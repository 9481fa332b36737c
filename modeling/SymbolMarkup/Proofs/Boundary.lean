import SymbolMarkup.Proofs.Legible

/-! Where one part of a written forest ends and the next one begins. Nothing is escaped, so an end
is known by what can come behind it: a mark, the end of a line, or a line that only a parent or
only a sibling can begin. -/
namespace SymbolMarkup

theorem cut_at_mark (mark : Char) (a b x y : List Char) (ha : mark ∉ a) (hb : mark ∉ b)
    (h : a ++ mark :: x = b ++ mark :: y) : a = b ∧ x = y := by
  induction a generalizing b with
  | nil =>
    cases b with
    | nil => exact ⟨rfl, (List.cons.inj h).2⟩
    | cons d b => exact absurd ((List.cons.inj h).1 ▸ List.mem_cons_self) hb
  | cons c a ih =>
    cases b with
    | nil => exact absurd ((List.cons.inj h).1 ▸ List.mem_cons_self) ha
    | cons d b =>
      obtain ⟨head, tail⟩ := List.cons.inj h
      obtain ⟨same, rest⟩ := ih b (List.not_mem_of_not_mem_cons ha)
        (List.not_mem_of_not_mem_cons hb) tail
      exact ⟨by rw [head, same], rest⟩

/-! ### Lines of attributes and of tags -/

theorem lineEnd_cut (v w : List Char) (more more' : Bool)
    (h : v ++ lineEnd more = w ++ lineEnd more') : v = w := by
  have last := congrArg List.getLast? h
  cases more <;> cases more' <;> simp [lineEnd] at last h ⊢
  · exact h
  · exact h

theorem line_cut (a b : Attribute) (ha : a.Legible) (hb : b.Legible) (more more' : Bool)
    (h : a.line more = b.line more') : a = b := by
  obtain ⟨name, rest⟩ := cut_at_mark ' ' _ _ _ _ ha.oneWord hb.oneWord (List.cons.inj h).2
  have value := lineEnd_cut _ _ more more' (by simpa using rest)
  cases a
  cases b
  rw [Attribute.mk.injEq]
  exact ⟨String.toList_inj.mp name, String.toList_inj.mp value⟩

theorem tag_ne_line (tag : List Char) (a : Attribute) (more : Bool) :
    '\'' :: (tag ++ ['(']) ≠ a.line more := by
  intro h
  have last := congrArg List.getLast? (List.cons.inj h).2
  cases more <;> simp [lineEnd, List.getLast?_cons] at last

/-! ### What can come behind a form -/

def Follows (separator close rest : List Char) : Prop :=
  (∃ tail, rest = '\n' :: (close ++ ')' :: tail)) ∨
    ∃ (f : Form) (tail : List Char), rest = ',' :: '\n' :: (separator ++ f.mark :: tail)

def Apart (separator close : List Char) : Prop :=
  ∀ (f : Form) (x y : List Char), separator ++ f.mark :: x ≠ close ++ ')' :: y

theorem mark_ne_paren (f : Form) : f.mark ≠ ')' := by
  cases f <;> simp [Form.mark]

theorem apart_same (indent : List Char) : Apart indent indent :=
  fun f _ _ h => mark_ne_paren f (List.cons.inj (List.append_cancel_left h)).1

theorem deeper_ne_close (indent x y : List Char) : deeper indent ++ x ≠ indent ++ ')' :: y := by
  intro h
  rw [deeper, List.append_assoc] at h
  exact absurd (List.cons.inj (List.append_cancel_left h)).1 (by decide)

theorem apart_separator (s : SiblingIndent) (indent : List Char) :
    Apart (s.separator indent) indent := by
  cases s with
  | parent => exact apart_same indent
  | child => exact fun f x y => deeper_ne_close indent (f.mark :: x) y

/-- A comment ends with its line. A comma at the end of the line belongs to it only if no sibling
begins on the next one. -/
theorem comment_cut (separator close : List Char) (apart : Apart separator close)
    (a b x y : List Char) (ha : '\n' ∉ a) (hb : '\n' ∉ b)
    (hx : Follows separator close x) (hy : Follows separator close y)
    (h : a ++ x = b ++ y) : a = b ∧ x = y := by
  have ha' : '\n' ∉ a ++ [','] := by simp [ha]
  have hb' : '\n' ∉ b ++ [','] := by simp [hb]
  rcases hx with ⟨tail, rfl⟩ | ⟨f, tail, rfl⟩
  · rcases hy with ⟨tail', rfl⟩ | ⟨g, tail', rfl⟩
    · obtain ⟨same, rest⟩ := cut_at_mark '\n' a b _ _ ha hb h
      exact ⟨same, by rw [rest]⟩
    · obtain ⟨-, rest⟩ := cut_at_mark '\n' a (b ++ [',']) _ _ ha hb' (by simpa using h)
      exact absurd rest.symm (apart g tail' tail)
  · rcases hy with ⟨tail', rfl⟩ | ⟨g, tail', rfl⟩
    · obtain ⟨-, rest⟩ := cut_at_mark '\n' (a ++ [',']) b _ _ ha' hb (by simpa using h)
      exact absurd rest (apart f tail tail')
    · obtain ⟨same, rest⟩ :=
        cut_at_mark '\n' (a ++ [',']) (b ++ [',']) _ _ ha' hb' (by simpa using h)
      exact ⟨List.append_cancel_right same, by rw [rest]⟩

theorem quote_ne_start (text x y : List Char) (ht : text ≠ [] ∧ '"' ∉ text) :
    '"' :: x ≠ text ++ y := by
  intro h
  cases text with
  | nil => exact ht.1 rfl
  | cons c text => exact ht.2 ((List.cons.inj h).1 ▸ List.mem_cons_self)

/-- A text ends at the first quote inside, and three quotes in front tell that it spans lines. -/
theorem quoted_cut (a b x y : List Char) (ha : a ≠ [] ∧ '"' ∉ a) (hb : b ≠ [] ∧ '"' ∉ b)
    (h : quoted a ++ x = quoted b ++ y) : a = b ∧ x = y := by
  unfold quoted at h
  split at h <;> split at h <;>
    simp only [List.cons_append, List.append_assoc, List.nil_append, List.cons.injEq,
      true_and] at h
  · obtain ⟨same, rest⟩ := cut_at_mark '"' a b _ _ ha.2 hb.2 h
    exact ⟨same, (List.cons.inj (List.cons.inj rest).2).2⟩
  · exact absurd h (quote_ne_start b _ _ hb)
  · exact absurd h.symm (quote_ne_start a _ _ ha)
  · exact cut_at_mark '"' a b x y ha.2 hb.2 h

end SymbolMarkup
