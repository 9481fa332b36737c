import Mathlib.Data.List.SplitBy
import Mathlib.Data.List.TakeWhile
import SymbolMarkup.Proofs.Legible

/-! Normal text. Joining lines and then shrinking runs of spaces comes to one pass over the text in
which every maximal run of spaces and newlines leaves one space. What it leaves is on one line and
has no space beside a space, and text of this kind is all that stays as it is. -/
namespace SymbolMarkup.Text

def isGap (c : Char) : Bool := c == ' ' || c == '\n'

/-- One space for each maximal run of spaces and newlines. Any other character stands alone here,
and stays. -/
def collapseGaps (cs : List Char) : List Char :=
  (cs.splitBy fun a b => isGap a && isGap b).flatMap fun run =>
    if run.all isGap then [' '] else run

def collapseFrom (inGap : Bool) : List Char → List Char
  | [] => []
  | c :: rest =>
    if isGap c then (if inGap then [] else [' ']) ++ collapseFrom true rest
    else c :: collapseFrom false rest

/-- Replaces, from left to right, each longest run of two or more spaces by one space. `skip` counts
the characters of a run that are still to be passed over. -/
def replaceSpaceRuns : Nat → List Char → List Char
  | _, [] => []
  | skip + 1, _ :: rest => replaceSpaceRuns skip rest
  | 0, c :: rest =>
    let run := (c :: rest).takeWhile (· == ' ')
    if 2 ≤ run.length then ' ' :: replaceSpaceRuns (run.length - 1) rest
    else c :: replaceSpaceRuns 0 rest

def IsNormal (cs : List Char) : Prop := '\n' ∉ cs ∧ ¬ [' ', ' '] <:+: cs

/-! ### Shrinking runs of spaces -/

theorem squeezeSpaces_cons (c : Char) (x : List Char) :
    squeezeSpaces (c :: x) =
      if c = ' ' ∧ x.head? = some ' ' then squeezeSpaces x else c :: squeezeSpaces x := by
  cases x with
  | nil => simp [squeezeSpaces]
  | cons d rest => simp [squeezeSpaces]

theorem head?_squeezeSpaces (x : List Char) : (squeezeSpaces x).head? = x.head? := by
  induction x with
  | nil => rfl
  | cons c x ih =>
    rw [squeezeSpaces_cons]
    split
    · rename_i both
      rw [ih, both.2, both.1]
      rfl
    · rfl

theorem no_spaces_squeezeSpaces (x : List Char) : ¬ [' ', ' '] <:+: squeezeSpaces x := by
  induction x with
  | nil => decide
  | cons c x ih =>
    rw [squeezeSpaces_cons]
    split
    · exact ih
    · rename_i apart
      intro inside
      rcases List.infix_cons_iff.mp inside with front | later
      · obtain ⟨hc, next⟩ := List.cons_prefix_cons.mp front
        have head : (squeezeSpaces x).head? = some ' ' := by
          obtain ⟨tail, same⟩ := next
          rw [← same]
          rfl
        exact apart ⟨hc.symm, head?_squeezeSpaces x ▸ head⟩
      · exact ih later

theorem squeezeSpaces_of_no_spaces (x : List Char) (none : ¬ [' ', ' '] <:+: x) :
    squeezeSpaces x = x := by
  induction x with
  | nil => rfl
  | cons c x ih =>
    have apart : ¬ (c = ' ' ∧ x.head? = some ' ') := by
      rintro ⟨rfl, head⟩
      obtain ⟨tail, rfl⟩ := List.head?_eq_some_iff.mp head
      exact none ⟨[], tail, rfl⟩
    rw [squeezeSpaces_cons, if_neg apart, ih fun later => none (List.infix_cons later)]

theorem squeezeSpaces_append_right (x y : List Char) :
    squeezeSpaces (x ++ squeezeSpaces y) = squeezeSpaces (x ++ y) := by
  induction x with
  | nil => exact squeezeSpaces_of_no_spaces _ (no_spaces_squeezeSpaces y)
  | cons c x ih =>
    have head : (x ++ squeezeSpaces y).head? = (x ++ y).head? := by
      rw [List.head?_append, List.head?_append, head?_squeezeSpaces]
    rw [List.cons_append, List.cons_append, squeezeSpaces_cons, squeezeSpaces_cons, head, ih]

theorem squeezeSpaces_append_left (x y : List Char) :
    squeezeSpaces (squeezeSpaces x ++ y) = squeezeSpaces (x ++ y) := by
  induction x with
  | nil => rfl
  | cons c x ih =>
    have head : (squeezeSpaces x ++ y).head? = (x ++ y).head? := by
      rw [List.head?_append, List.head?_append, head?_squeezeSpaces]
    rw [squeezeSpaces_cons]
    split
    · rename_i both
      -- the space that is dropped has a space behind it in the whole text too
      have next : (x ++ y).head? = some ' ' := by rw [List.head?_append, both.2]; rfl
      rw [ih, List.cons_append, squeezeSpaces_cons, if_pos ⟨both.1, next⟩]
    · rw [List.cons_append, List.cons_append, squeezeSpaces_cons, squeezeSpaces_cons, head, ih]

theorem squeezeSpaces_space (x : List Char) :
    squeezeSpaces (' ' :: x) = ' ' :: squeezeSpaces (x.dropWhile (· == ' ')) := by
  induction x with
  | nil => rfl
  | cons c x ih =>
    rw [squeezeSpaces_cons]
    by_cases hc : c = ' '
    · subst hc
      rw [if_pos ⟨rfl, rfl⟩, ih, List.dropWhile_cons_of_pos (by decide)]
    · have apart : ¬ (' ' = ' ' ∧ (c :: x).head? = some ' ') := by simpa using hc
      rw [if_neg apart, List.dropWhile_cons_of_neg (by simpa using hc)]

/-! ### Replacing longest runs from the left -/

theorem replaceSpaceRuns_skip (skip : Nat) (x : List Char) :
    replaceSpaceRuns skip x = replaceSpaceRuns 0 (x.drop skip) := by
  induction skip generalizing x with
  | zero => rfl
  | succ skip ih =>
    cases x with
    | nil => simp [replaceSpaceRuns]
    | cons c x => rw [replaceSpaceRuns, ih, List.drop_succ_cons]

theorem replaceSpaceRuns_space (x : List Char) :
    replaceSpaceRuns 0 (' ' :: x) = ' ' :: replaceSpaceRuns 0 (x.dropWhile (· == ' ')) := by
  have split := List.takeWhile_append_dropWhile (p := (· == ' ')) (l := x)
  have past : x.drop (x.takeWhile (· == ' ')).length = x.dropWhile (· == ' ') := by
    calc x.drop (x.takeWhile (· == ' ')).length
      _ = (x.takeWhile (· == ' ') ++ x.dropWhile (· == ' ')).drop
            (x.takeWhile (· == ' ')).length := by rw [split]
      _ = x.dropWhile (· == ' ') := List.drop_left
  rw [replaceSpaceRuns, List.takeWhile_cons_of_pos (by decide), List.length_cons,
    Nat.add_sub_cancel, replaceSpaceRuns_skip, past]
  split
  · rfl
  · -- the space stands alone, so nothing is dropped behind it
    have alone : x.takeWhile (· == ' ') = [] := List.length_eq_zero_iff.mp (by omega)
    rw [alone, List.nil_append] at split
    rw [split]

theorem replaceSpaceRuns_other (c : Char) (x : List Char) (hc : c ≠ ' ') :
    replaceSpaceRuns 0 (c :: x) = c :: replaceSpaceRuns 0 x := by
  have none : (c :: x).takeWhile (· == ' ') = [] :=
    List.takeWhile_cons_of_neg (by simpa using hc)
  rw [replaceSpaceRuns, none]
  rfl

theorem replaceSpaceRuns_eq (x : List Char) : replaceSpaceRuns 0 x = squeezeSpaces x := by
  induction h : x.length using Nat.strong_induction_on generalizing x with
  | _ n ih =>
    cases x with
    | nil => rfl
    | cons c x =>
      rw [List.length_cons] at h
      by_cases hc : c = ' '
      · have shorter := (List.dropWhile_suffix (· == ' ') (l := x)).length_le
        rw [hc, replaceSpaceRuns_space, squeezeSpaces_space, ih _ (by omega) _ rfl]
      · rw [replaceSpaceRuns_other c x hc, squeezeSpaces_cons, if_neg fun both => hc both.1,
          ih _ (by omega) _ rfl]

/-! ### One pass -/

theorem isGap_iff (c : Char) : isGap c = true ↔ c = ' ' ∨ c = '\n' := by
  simp [isGap]

theorem squeezeSpaces_joinLines (cs : List Char) :
    squeezeSpaces (' ' :: joinLines cs) = ' ' :: collapseFrom true cs ∧
      squeezeSpaces (joinLines cs) = collapseFrom false cs := by
  induction cs with
  | nil => exact ⟨rfl, rfl⟩
  | cons c rest ih =>
    by_cases gap : isGap c = true
    · have shown : joinLines (c :: rest) = ' ' :: joinLines rest := by
        rcases (isGap_iff c).mp gap with rfl | rfl <;> rfl
      constructor
      · rw [shown, squeezeSpaces_cons, if_pos ⟨rfl, rfl⟩, ih.1, collapseFrom, if_pos gap]
        rfl
      · rw [shown, ih.1, collapseFrom, if_pos gap]
        rfl
    · have other : c ≠ ' ' ∧ c ≠ '\n' := by simpa [isGap_iff] using gap
      have shown : joinLines (c :: rest) = c :: joinLines rest := by
        rw [joinLines, List.map_cons, if_neg other.2]
        rfl
      have stays : squeezeSpaces (c :: joinLines rest) = c :: collapseFrom false rest := by
        rw [squeezeSpaces_cons, if_neg fun both => other.1 both.1, ih.2]
      have apart : ¬ (' ' = ' ' ∧ (c :: joinLines rest).head? = some ' ') := by
        simpa using other.1
      constructor
      · rw [shown, squeezeSpaces_cons, if_neg apart, stays, collapseFrom, if_neg gap]
      · rw [shown, stays, collapseFrom, if_neg gap]

theorem collapseGaps_other (c : Char) (rest : List Char) (hc : isGap c = false) :
    collapseGaps (c :: rest) = c :: collapseGaps rest := by
  have alone : ∀ x ∈ [c].getLast?, ∀ y ∈ rest.head?, (isGap x && isGap y) = false := by
    simp [hc]
  have cut := List.splitBy_append alone
  rw [List.singleton_append] at cut
  rw [collapseGaps, cut, List.splitBy_of_isChain (List.cons_ne_nil c []) (.singleton c)]
  simp [collapseGaps, hc]

theorem collapseGaps_gap (c : Char) (rest : List Char) (gap : isGap c = true) :
    collapseGaps (c :: rest) = ' ' :: collapseGaps (rest.dropWhile isGap) := by
  -- the run that begins here, and what ends it
  have gaps : ∀ d ∈ c :: rest.takeWhile isGap, isGap d = true := by
    intro d hd
    rcases List.mem_cons.mp hd with rfl | hd
    · exact gap
    · exact List.mem_takeWhile_imp hd
  have ends : ∀ d ∈ (rest.dropWhile isGap).head?, isGap d = false := by
    intro d hd
    have stop := List.head?_dropWhile_not isGap rest
    rwa [Option.mem_def.mp hd] at stop
  have whole : (c :: rest.takeWhile isGap).IsChain fun a b => (isGap a && isGap b) = true :=
    (List.pairwise_of_forall_mem_list fun a ha b hb => by simp [gaps a ha, gaps b hb]).isChain
  have cut : (c :: rest.takeWhile isGap ++ rest.dropWhile isGap).splitBy
      (fun a b => isGap a && isGap b) = _ :=
    List.splitBy_append fun x _ y hy => by simp [ends y hy]
  rw [List.cons_append, List.takeWhile_append_dropWhile,
    List.splitBy_of_isChain (List.cons_ne_nil c _) whole] at cut
  have blank : (c :: rest.takeWhile isGap).all isGap = true := List.all_eq_true.mpr gaps
  rw [collapseGaps, cut, List.flatMap_append, List.flatMap_singleton, if_pos blank]
  rfl

theorem collapseFrom_eq (cs : List Char) :
    collapseFrom true cs = collapseGaps (cs.dropWhile isGap) ∧
      collapseFrom false cs = collapseGaps cs := by
  induction cs with
  | nil => exact ⟨rfl, rfl⟩
  | cons c rest ih =>
    by_cases gap : isGap c = true
    · have run := collapseGaps_gap c rest gap
      constructor
      · rw [collapseFrom, if_pos gap, ih.1, List.dropWhile_cons_of_pos gap]
        rfl
      · rw [collapseFrom, if_pos gap, ih.1, run]
        rfl
    · have other : isGap c = false := by simpa using gap
      constructor
      · rw [collapseFrom, if_neg gap, ih.2, List.dropWhile_cons_of_neg gap,
          collapseGaps_other c rest other]
      · rw [collapseFrom, if_neg gap, ih.2, collapseGaps_other c rest other]

/-! ### The normal form -/

theorem toList_normalize (s : String) :
    (normalize s).toList = squeezeSpaces (joinLines s.toList) := by
  rw [normalize, String.toList_ofList]

theorem joinLines_of_one_line (cs : List Char) (oneLine : '\n' ∉ cs) : joinLines cs = cs := by
  rw [joinLines]
  refine (List.map_congr_left fun c hc => ?_).trans (List.map_id cs)
  have other : c ≠ '\n' := fun newline => oneLine (newline ▸ hc)
  exact if_neg other

theorem normalize_isNormal (s : String) : IsNormal (normalize s).toList := by
  refine ⟨newline_not_mem_normalize s, ?_⟩
  rw [toList_normalize]
  exact no_spaces_squeezeSpaces _

theorem normalize_eq_self_iff (s : String) : normalize s = s ↔ IsNormal s.toList := by
  constructor
  · intro same
    have normal := normalize_isNormal s
    rwa [same] at normal
  · intro normal
    refine String.toList_inj.mp ?_
    rw [toList_normalize, joinLines_of_one_line _ normal.1,
      squeezeSpaces_of_no_spaces _ normal.2]

theorem normalize_append (a b : String) :
    normalize (a ++ b) = normalize (normalize a ++ normalize b) := by
  have joined (s : String) : joinLines (normalize s).toList = (normalize s).toList :=
    joinLines_of_one_line _ (newline_not_mem_normalize s)
  have both (x y : List Char) : joinLines (x ++ y) = joinLines x ++ joinLines y :=
    List.map_append
  refine String.toList_inj.mp ?_
  rw [toList_normalize, toList_normalize, String.toList_append, String.toList_append, both, both,
    joined, joined, toList_normalize, toList_normalize, squeezeSpaces_append_right,
    squeezeSpaces_append_left]

/-- Two passes do the work of one, and what they give is a normal form. -/
theorem runs_collapsed :
    (∀ s : String, (normalize s).toList = replaceSpaceRuns 0 (joinLines s.toList)) ∧
    (∀ s : String, (normalize s).toList = collapseGaps s.toList ∧
      (normalize s).toList = collapseFrom false s.toList) ∧
    (∀ s : String, IsNormal (normalize s).toList) ∧
    (∀ s : String, normalize s = s ↔ IsNormal s.toList) ∧
    (∀ s : String, normalize (normalize s) = normalize s) ∧
    ∀ a b : String, normalize (a ++ b) = normalize (normalize a ++ normalize b) := by
  refine ⟨fun s => ?_, fun s => ?_, normalize_isNormal, normalize_eq_self_iff, fun s => ?_,
    normalize_append⟩
  · rw [toList_normalize, replaceSpaceRuns_eq]
  · have onePass := (squeezeSpaces_joinLines s.toList).2
    rw [toList_normalize, onePass]
    exact ⟨(collapseFrom_eq s.toList).2, rfl⟩
  · exact (normalize_eq_self_iff (normalize s)).mpr (normalize_isNormal s)

example : collapseGaps "\n a\t \n b".toList = " a\t b".toList := by decide

end SymbolMarkup.Text
