import Mathlib.Data.List.TakeWhile
import SymbolMarkup.Proofs.Rendering

/-! Texts between quotes. A text loses the blanks at both ends and nothing else. What is left can
hold quotes, and none of them is escaped; still it can be read off again, since three quotes stand
around texts that span lines, and one quote around all others. -/
namespace SymbolMarkup

namespace Text

def whiteSpace : List Char :=
  ['\t', '\n', '\x0b', '\x0c', '\r', ' ', '\u0085', '\u00a0', '\u1680', '\u2000', '\u2001',
    '\u2002', '\u2003', '\u2004', '\u2005', '\u2006', '\u2007', '\u2008', '\u2009', '\u200a',
    '\u2028', '\u2029', '\u202f', '\u205f', '\u3000']

def AllBlank (cs : List Char) : Prop := ∀ c ∈ cs, c ∈ whiteSpace

def Tight (cs : List Char) : Prop :=
  (∃ c ∈ cs.head?, c ∉ whiteSpace) ∧ ∃ c ∈ cs.getLast?, c ∉ whiteSpace

/-- A newline stands between the first and the last character that are not blank. -/
def SpansLines (cs : List Char) : Prop :=
  ∃ before after, cs = before ++ '\n' :: after ∧ ¬ AllBlank before ∧ ¬ AllBlank after

theorem isBlank_iff (c : Char) : isBlank c = true ↔ c ∈ whiteSpace := by
  simp only [isBlank, whiteSpace, List.mem_cons, List.not_mem_nil, or_false, Bool.or_eq_true,
    Bool.and_eq_true, decide_eq_true_eq, beq_iff_eq, Char.le_def, UInt32.le_iff_toNat_le,
    Char.ext_iff, ← UInt32.toNat_inj, Char.reduceVal, UInt32.reduceToNat]
  omega

theorem not_isBlank_iff (c : Char) : ¬ isBlank c = true ↔ c ∉ whiteSpace :=
  not_congr (isBlank_iff c)

theorem newline_blank : '\n' ∈ whiteSpace := by decide

/-! ### Trimming -/

theorem dropLeadingBlanks_spec (cs : List Char) :
    ∃ lead, cs = lead ++ dropLeadingBlanks cs ∧ AllBlank lead ∧
      ∀ c ∈ (dropLeadingBlanks cs).head?, c ∉ whiteSpace := by
  refine ⟨cs.takeWhile isBlank, List.takeWhile_append_dropWhile.symm, ?_, ?_⟩
  · intro c hc
    exact (isBlank_iff c).mp (List.mem_takeWhile_imp hc)
  · intro c hc
    have stop := List.head?_dropWhile_not isBlank cs
    rw [← not_isBlank_iff, Bool.not_eq_true]
    rwa [← dropLeadingBlanks, Option.mem_def.mp hc] at stop

theorem dropTrailingBlanks_eq (cs : List Char) :
    dropTrailingBlanks cs = (dropLeadingBlanks cs.reverse).reverse := rfl

theorem dropTrailingBlanks_spec (cs : List Char) :
    ∃ trail, cs = dropTrailingBlanks cs ++ trail ∧ AllBlank trail ∧
      ∀ c ∈ (dropTrailingBlanks cs).getLast?, c ∉ whiteSpace := by
  obtain ⟨lead, cut, blank, start⟩ := dropLeadingBlanks_spec cs.reverse
  refine ⟨lead.reverse, ?_, ?_, ?_⟩
  · rw [dropTrailingBlanks_eq, ← List.reverse_append, ← cut, List.reverse_reverse]
  · intro c hc
    exact blank c (List.mem_reverse.mp hc)
  · rw [dropTrailingBlanks_eq, List.getLast?_reverse]
    exact start

theorem toList_trim (s : String) :
    (trim s).toList = dropTrailingBlanks (dropLeadingBlanks s.toList) := by
  rw [trim, String.toList_ofList]

theorem trim_spec (s : String) :
    ∃ lead trail, s.toList = lead ++ (trim s).toList ++ trail ∧ AllBlank lead ∧ AllBlank trail ∧
      ((trim s).toList = [] ∨ Tight (trim s).toList) := by
  obtain ⟨lead, front, blankLead, start⟩ := dropLeadingBlanks_spec s.toList
  obtain ⟨trail, back, blankTrail, stop⟩ := dropTrailingBlanks_spec (dropLeadingBlanks s.toList)
  rw [← toList_trim] at back stop
  refine ⟨lead, trail, ?_, blankLead, blankTrail, ?_⟩
  · rw [List.append_assoc, ← back, ← front]
  · cases core : (trim s).toList with
    | nil => exact .inl rfl
    | cons c rest =>
      rw [back, core] at start
      rw [core] at stop
      exact .inr ⟨⟨c, rfl, start c rfl⟩, _, List.getLast?_cons, stop _ List.getLast?_cons⟩

theorem allBlank_append (a b : List Char) : AllBlank (a ++ b) ↔ AllBlank a ∧ AllBlank b :=
  List.forall_mem_append

theorem Tight.not_allBlank {core : List Char} (tight : Tight core) (lead trail : List Char) :
    ¬ AllBlank (lead ++ core ++ trail) := by
  obtain ⟨⟨c, first, other⟩, -⟩ := tight
  rw [allBlank_append, allBlank_append]
  exact fun blank => other (blank.1.2 c (List.mem_of_mem_head? first))

theorem trim_eq_nil_iff (s : String) : (trim s).toList = [] ↔ AllBlank s.toList := by
  obtain ⟨lead, trail, cut, blankLead, blankTrail, left⟩ := trim_spec s
  constructor
  · intro nothing
    rw [cut, nothing, List.append_nil, allBlank_append]
    exact ⟨blankLead, blankTrail⟩
  · intro blank
    rcases left with nothing | tight
    · exact nothing
    · rw [cut] at blank
      exact absurd blank (tight.not_allBlank lead trail)

/-! ### Newlines that count -/

theorem newline_mem_of_spansLines (lead core trail : List Char) (blankLead : AllBlank lead)
    (blankTrail : AllBlank trail) (spans : SpansLines (lead ++ core ++ trail)) : '\n' ∈ core := by
  obtain ⟨before, after, cut, filledBefore, filledAfter⟩ := spans
  have later (y : List Char) (behind : trail = y ++ '\n' :: after) : False := by
    rw [behind, allBlank_append] at blankTrail
    exact filledAfter fun c hc => blankTrail.2 c (List.mem_cons_of_mem _ hc)
  -- the newline cannot stand in front of the core, nor behind it
  rw [List.append_assoc] at cut
  rcases List.append_eq_append_iff.mp cut with ⟨x, -, rest⟩ | ⟨x, rfl, -⟩
  · rcases List.append_eq_append_iff.mp rest with ⟨y, -, behind⟩ | ⟨y, rfl, behind⟩
    · exact (later y behind).elim
    · cases y with
      | nil => exact (later [] behind.symm).elim
      | cons c y =>
        rw [(List.cons.inj behind).1]
        exact List.mem_append_right x List.mem_cons_self
  · exact absurd ((allBlank_append _ _).mp blankLead).1 filledBefore

theorem spansLines_of_newline_mem (lead core trail : List Char) (tight : Tight core)
    (inside : '\n' ∈ core) : SpansLines (lead ++ core ++ trail) := by
  obtain ⟨⟨c, first, hc⟩, d, last, hd⟩ := tight
  obtain ⟨before, after, rfl⟩ := List.append_of_mem inside
  have filledBefore : c ∈ before := by
    cases before with
    | nil => exact absurd (Option.some.inj first ▸ newline_blank) hc
    | cons e before => exact Option.some.inj first ▸ List.mem_cons_self
  have filledAfter : d ∈ after := by
    rw [List.getLast?_append, List.getLast?_cons] at last
    cases ending : after.getLast? with
    | none =>
      rw [ending] at last
      exact absurd (Option.some.inj last ▸ newline_blank) hd
    | some e =>
      rw [ending] at last
      exact Option.some.inj last ▸ List.mem_of_getLast? ending
  refine ⟨lead ++ before, after ++ trail, by simp, ?_, ?_⟩
  · exact fun blank => hc (blank c (List.mem_append_right lead filledBefore))
  · exact fun blank => hd (blank d (List.mem_append_left trail filledAfter))

theorem spansLines_iff (lead core trail : List Char) (blankLead : AllBlank lead)
    (blankTrail : AllBlank trail) (tight : Tight core) :
    SpansLines (lead ++ core ++ trail) ↔ '\n' ∈ core :=
  ⟨newline_mem_of_spansLines lead core trail blankLead blankTrail,
    spansLines_of_newline_mem lead core trail tight⟩

end Text

/-! ### Quotes -/

theorem newline_mem_quoted (text : List Char) : '\n' ∈ quoted text ↔ '\n' ∈ text := by
  unfold quoted
  split <;> simp

/-- No text is cut short or drawn out by quotes that it holds itself. -/
theorem quoted_inj (a b : List Char) : quoted a = quoted b ↔ a = b := by
  constructor
  · intro same
    have alike : '\n' ∈ a ↔ '\n' ∈ b := by
      rw [← newline_mem_quoted, same, newline_mem_quoted]
    unfold quoted at same
    by_cases spans : '\n' ∈ a
    · rw [if_pos spans, if_pos (alike.mp spans)] at same
      simpa using same
    · rw [if_neg spans, if_neg (mt alike.mpr spans)] at same
      simpa using same
  · rintro rfl
    rfl

theorem isEmpty_trim_iff (s : String) : (Text.trim s).isEmpty = true ↔ Text.AllBlank s.toList := by
  rw [String.isEmpty_iff, ← String.toList_eq_nil_iff, Text.trim_eq_nil_iff]

theorem renderText_blank (s : String) (blank : Text.AllBlank s.toList) : renderText s = none := by
  unfold renderText
  rw [if_pos ((isEmpty_trim_iff s).mpr blank)]

theorem renderText_filled (s : String) (filled : ¬ Text.AllBlank s.toList) :
    renderText s = some (String.ofList (quoted (Text.trim s).toList)) := by
  rw [renderText_eq .parent [], Form.ofText?, if_neg (mt (isEmpty_trim_iff s).mp filled)]
  rfl

theorem renderText_eq_none_iff (s : String) :
    renderText s = none ↔ Text.AllBlank s.toList := by
  constructor
  · intro absent
    by_contra filled
    rw [renderText_filled s filled] at absent
    contradiction
  · exact renderText_blank s

theorem renderText_quotes (s : String) (filled : ¬ Text.AllBlank s.toList) :
    '\n' ∈ (Text.trim s).toList ∧ renderText s = some ("\"\"\"" ++ Text.trim s ++ "\"\"\"") ∨
      '\n' ∉ (Text.trim s).toList ∧ renderText s = some ("\"" ++ Text.trim s ++ "\"") := by
  rw [renderText_filled s filled]
  unfold quoted
  by_cases spans : '\n' ∈ (Text.trim s).toList
  · rw [if_pos spans]
    exact .inl ⟨spans, congrArg some (String.toList_inj.mp (by simp))⟩
  · rw [if_neg spans]
    exact .inr ⟨spans, congrArg some (String.toList_inj.mp (by simp))⟩

theorem renderText_inj (s other : String) :
    renderText s = renderText other ↔ Text.trim s = Text.trim other := by
  by_cases filled : Text.AllBlank s.toList ∨ Text.AllBlank other.toList
  · -- a blank text is absent, and so is only what is blank too
    have blank (a b : String) (ha : Text.AllBlank a.toList) :
        renderText a = renderText b ↔ Text.trim a = Text.trim b := by
      rw [renderText_blank a ha, eq_comm, renderText_eq_none_iff, ← Text.trim_eq_nil_iff,
        ← (Text.trim_eq_nil_iff a).mpr ha, String.toList_inj, eq_comm]
    rcases filled with first | second
    · exact blank s other first
    · rw [eq_comm, blank other s second, eq_comm]
  · rw [not_or] at filled
    rw [renderText_filled s filled.1, renderText_filled other filled.2, Option.some.injEq,
      String.ofList_inj, quoted_inj, String.toList_inj]

/-- Of a text that is shown, exactly what was trimmed off is lost. -/
theorem text_shown_reversibly (s : String) :
    (renderText s = none ↔ Text.AllBlank s.toList) ∧
    (Text.AllBlank s.toList ∧ Text.trim s = "" ∨
      ∃ lead core trail : String, s = lead ++ core ++ trail ∧ Text.trim s = core ∧
        Text.AllBlank lead.toList ∧ Text.AllBlank trail.toList ∧ Text.Tight core.toList ∧
        (Text.SpansLines s.toList ∧ renderText s = some ("\"\"\"" ++ core ++ "\"\"\"") ∨
          ¬ Text.SpansLines s.toList ∧ renderText s = some ("\"" ++ core ++ "\""))) ∧
    ∀ other : String, renderText s = renderText other ↔ Text.trim s = Text.trim other := by
  refine ⟨renderText_eq_none_iff s, ?_, renderText_inj s⟩
  obtain ⟨lead, trail, cut, blankLead, blankTrail, left⟩ := Text.trim_spec s
  rcases left with nothing | tight
  · exact .inl ⟨(Text.trim_eq_nil_iff s).mp nothing, String.toList_eq_nil_iff.mp nothing⟩
  · have filled : ¬ Text.AllBlank s.toList := cut ▸ tight.not_allBlank lead trail
    have spans : Text.SpansLines s.toList ↔ '\n' ∈ (Text.trim s).toList := by
      rw [cut, Text.spansLines_iff lead _ trail blankLead blankTrail tight]
    refine .inr ⟨String.ofList lead, Text.trim s, String.ofList trail, ?_, rfl, ?_, ?_, tight, ?_⟩
    · exact String.toList_inj.mp (by simp [cut])
    · rwa [String.toList_ofList]
    · rwa [String.toList_ofList]
    · rw [spans]
      exact renderText_quotes s filled

example : renderText " \"\"\"\n" = some "\"\"\"\"\"" ∧
    renderText "\"a\n\"" = some "\"\"\"\"a\n\"\"\"\"" := by decide

end SymbolMarkup
