import Mathlib.Data.List.Forall2
import SymbolMarkup.Proofs.Parts

/-! The many ways to say one thing on a command line. Most parts have several spellings, and a value
that stands apart from its name is settled only when the next part comes; still, after every part
reading stands where the parts so far would have been gathered. -/
namespace SymbolMarkup.CommandLine

/-! ### Spellings -/

def Numeral (n : Nat) (text : String) : Prop :=
  ∃ (signed : Bool) (zeros : Nat), text.toList =
    (if signed then ['+'] else []) ++ (List.replicate zeros '0' ++ (toString n).toList)

inductive Worded : Part → Slot → String → Prop where
  | input (path : FileName) : Worded (.input path) .input path
  | output (path : FileName) : Worded (.output path) .output path
  | parent : Worded (.siblingIndent .parent) .siblingIndent "parent"
  | child : Worded (.siblingIndent .child) .siblingIndent "child"
  | intervalMs (ms : UInt64) (text : String) : Numeral ms.toNat text →
      Worded (.intervalMs ms) .intervalMs text

inductive Named : Slot → String → Prop where
  | output : Named .output "--output"
  | short : Named .output "-o"
  | siblingIndent : Named .siblingIndent "--sibling-indent"
  | intervalMs : Named .intervalMs "--interval-ms"

def StandsAlone (text : String) : Prop := text = "-" ∨ text.toList.head? ≠ some '-'

inductive Spelt : Part → List String → Prop where
  | plain (path : FileName) : StandsAlone path → Spelt (.input path) [path.val]
  | apart (part : Part) (slot : Slot) (name value : String) : Worded part slot value →
      Named slot name → StandsAlone value → Spelt part [name, value]
  | joined (part : Part) (slot : Slot) (name value : String) : Worded part slot value →
      Named slot name → Spelt part [name ++ "=" ++ value]
  | glued (path : FileName) : path.val.toList.head? ≠ some '=' →
      Spelt (.output path) ["-o" ++ path.val]
  | strict : Spelt .strict ["--strict"]
  | watch : Spelt .watch ["--watch"]

/-- Each part is spelt once, in any order; the input may come last, behind a double dash. -/
inductive SpeltOut (w : Wishes) : List String → Prop where
  | mixed (parts : List Part) (spellings : List (List String)) : parts.Perm w.parts →
      List.Forall₂ Spelt parts spellings → SpeltOut w spellings.flatten
  | inputLast (path : FileName) (parts : List Part) (spellings : List (List String)) :
      (.input path :: parts).Perm w.parts → List.Forall₂ Spelt parts spellings →
      SpeltOut w (spellings.flatten ++ ["--", path.val])

/-! ### Numbers -/

theorem le_ofDigitChars (cs : List Char) (value : Nat) :
    value ≤ Nat.ofDigitChars 10 cs value := by
  rw [Nat.ofDigitChars_eq_ofDigitChars_zero]
  have grown := Nat.le_mul_of_pos_left value (Nat.pow_pos (n := cs.length) (a := 10) (by decide))
  omega

theorem readDigits_eq (cs : List Char) (value : Nat) (digits : ∀ c ∈ cs, c.isDigit = true)
    (small : Nat.ofDigitChars 10 cs value ≤ maxInterval) :
    readDigits value cs = .ok (Nat.ofDigitChars 10 cs value) := by
  induction cs generalizing value with
  | nil => rfl
  | cons c rest ih =>
    have digit : '0' ≤ c ∧ c ≤ '9' := by
      simpa [Char.isDigit, Char.le_def] using digits c List.mem_cons_self
    have next : value * 10 + (c.toNat - 48) = 10 * value + (c.toNat - '0'.toNat) := by
      rw [Nat.mul_comm]
      rfl
    rw [Nat.ofDigitChars_cons] at small ⊢
    have fits := Nat.le_trans (le_ofDigitChars rest _) small
    unfold readDigits
    rw [if_pos digit, next, if_pos fits]
    exact ih _ (fun d hd => digits d (List.mem_cons_of_mem c hd)) small

theorem readNumber_digits (c : Char) (rest : List Char) (text : String) (signed : Bool)
    (digits : ∀ d ∈ c :: rest, d.isDigit = true)
    (shown : text.toList = (if signed then ['+'] else []) ++ c :: rest) :
    readNumber text = readDigits 0 (c :: rest) := by
  unfold readNumber
  cases signed with
  | true =>
    rw [shown]
    rfl
  | false =>
    have unsigned : c ≠ '+' := by
      rintro rfl
      exact absurd (digits '+' List.mem_cons_self) (by decide)
    rw [shown]
    simp [unsigned]

theorem readNumber_numeral (n : Nat) (text : String) (numeral : Numeral n text)
    (small : n ≤ maxInterval) : readNumber text = .ok n := by
  obtain ⟨signed, zeros, shown⟩ := numeral
  rw [Nat.toString_eq_repr, Nat.toList_repr] at shown
  have digits : ∀ d ∈ List.replicate zeros '0' ++ Nat.toDigits 10 n, d.isDigit = true := by
    intro d hd
    rcases List.mem_append.mp hd with hd | hd
    · rw [List.eq_of_mem_replicate hd]
      rfl
    · exact Nat.isDigit_of_mem_toDigits (by decide) (by decide) hd
  have value : Nat.ofDigitChars 10 (List.replicate zeros '0' ++ Nat.toDigits 10 n) 0 = n := by
    rw [Nat.ofDigitChars_append, Nat.ofDigitChars_replicate_zero, Nat.mul_zero,
      Nat.ofDigitChars_ten_toDigits]
  cases all : List.replicate zeros '0' ++ Nat.toDigits 10 n with
  | nil => exact absurd (List.append_eq_nil_iff.mp all).2 Nat.toDigits_ne_nil
  | cons c rest =>
    rw [all] at digits value shown
    rw [readNumber_digits c rest text signed digits shown,
      readDigits_eq _ 0 digits (by rw [value]; exact small), value]

/-! ### Values -/

theorem assign_worded (g : Gathered) (part : Part) (slot : Slot) (value : String)
    (worded : Worded part slot value) (fresh : g.settles part.argument = false) :
    g.assign slot (some value) = .ok (g.take part) := by
  have free : g.has slot = false := by cases worded <;> exact fresh
  unfold Gathered.assign
  rw [free]
  cases worded with
  | input path | output path =>
    have filled : path.val.isEmpty = false := by simpa using path.property
    simp [filled, Gathered.take]
  | parent | child => simp [Gathered.take]
  | intervalMs ms _ numeral =>
    have small : ms.toNat ≤ maxInterval := Nat.le_of_lt_succ ms.toNat_lt
    simp [readNumber_numeral _ _ numeral small, Gathered.take]

/-! ### Names -/

theorem splitValue_joined (name value : List Char) (plain : '=' ∉ name) :
    splitValue (name ++ '=' :: value) = (String.ofList name, some (String.ofList value)) := by
  have front : (name ++ '=' :: value).takeWhile (· ≠ '=') = name := by
    have other : ∀ c ∈ name, decide (c ≠ '=') = true := by
      intro c hc
      exact decide_eq_true (ne_of_mem_of_not_mem hc plain)
    rw [List.takeWhile_append_of_pos other, List.takeWhile_cons_of_neg (by decide),
      List.append_nil]
  unfold splitValue
  rw [front]
  simp

theorem spelling_plain (text : String) (alone : StandsAlone text) : spelling text = .plain := by
  rcases alone with rfl | start
  · rfl
  · unfold spelling
    split <;> simp_all

theorem spelling_long (text name value : String) (plain : '=' ∉ name.toList)
    (shown : text.toList = '-' :: '-' :: (name.toList ++ '=' :: value.toList)) :
    spelling text = .long name (some value) := by
  have cut := splitValue_joined name.toList value.toList plain
  unfold spelling
  rw [shown]
  cases rest : name.toList ++ '=' :: value.toList with
  | nil => exact absurd rest (by simp)
  | cons c cs =>
    rw [rest] at cut
    simp [cut]

theorem spelling_short_joined (text value : String)
    (shown : text.toList = '-' :: 'o' :: '=' :: value.toList) :
    spelling text = .short 'o' (some value) := by
  unfold spelling
  rw [shown]
  simp

theorem spelling_glued (text value : String) (filled : value ≠ "")
    (start : value.toList.head? ≠ some '=') (shown : text.toList = '-' :: 'o' :: value.toList) :
    spelling text = .short 'o' (some value) := by
  unfold spelling
  rw [shown]
  cases rest : value.toList with
  | nil => exact absurd (String.toList_eq_nil_iff.mp rest) filled
  | cons c cs =>
    have other : c ≠ '=' := by simpa [rest] using start
    have whole : String.ofList (c :: cs) = value := by rw [← rest, String.ofList_toList]
    simp [other, whole]

theorem takeArgument_named (p : Progress) (slot : Slot) (name : String) (named : Named slot name)
    (reading : p.onlyInputs = false) :
    takeArgument p name = .proceed <$> p.addValue slot none := by
  unfold takeArgument
  rw [reading]
  cases named <;> rfl

theorem takeArgument_long (p : Progress) (slot : Slot) (name value : String)
    (known : Argument.ofLongName? name = some (.slot slot)) (plain : '=' ∉ name.toList)
    (reading : p.onlyInputs = false) :
    takeArgument p ("--" ++ name ++ "=" ++ value) =
      .proceed <$> p.addValue slot (some value) := by
  have spelt := spelling_long ("--" ++ name ++ "=" ++ value) name value plain (by simp)
  unfold takeArgument
  rw [reading, spelt]
  simp [known]

theorem takeArgument_short (p : Progress) (text value : String)
    (spelt : spelling text = .short 'o' (some value)) (reading : p.onlyInputs = false) :
    takeArgument p text = .proceed <$> p.addValue .output (some value) := by
  unfold takeArgument
  rw [reading, spelt]
  simp [Argument.ofShortName?]

theorem takeArgument_joined (p : Progress) (slot : Slot) (name value : String)
    (named : Named slot name) (reading : p.onlyInputs = false) :
    takeArgument p (name ++ "=" ++ value) = .proceed <$> p.addValue slot (some value) := by
  cases named with
  | output => exact takeArgument_long p .output "output" value rfl (by decide) reading
  | short => exact takeArgument_short p _ value (spelling_short_joined _ _ (by simp)) reading
  | siblingIndent =>
    exact takeArgument_long p .siblingIndent "sibling-indent" value rfl (by decide) reading
  | intervalMs => exact takeArgument_long p .intervalMs "interval-ms" value rfl (by decide) reading

/-! ### Reading part by part -/

/-- Where reading stands when the arguments so far come to `g`. The value that was read last may
still have to be settled. -/
inductive Stands : Progress → Gathered → Prop where
  | settled (g : Gathered) : Stands ⟨g, none, false⟩ g
  | waiting (g : Gathered) (part : Part) (slot : Slot) (value : String) :
      Worded part slot value → g.settles part.argument = false →
      Stands ⟨g, some (slot, some value), false⟩ (g.take part)

theorem Stands.reading {p : Progress} {g : Gathered} (stands : Stands p g) :
    p.onlyInputs = false := by
  cases stands <;> rfl

theorem Stands.resolve {p : Progress} {g : Gathered} (stands : Stands p g) (only : Bool) :
    ({ p with onlyInputs := only } : Progress).resolve = .ok ⟨g, none, only⟩ := by
  cases stands with
  | settled => rfl
  | waiting g part slot value worded fresh =>
    unfold Progress.resolve
    simp only [assign_worded g part slot value worded fresh, Except.map]

theorem Stands.resolve_self {p : Progress} {g : Gathered} (stands : Stands p g) :
    p.resolve = .ok ⟨g, none, false⟩ :=
  stands.reading ▸ stands.resolve p.onlyInputs

theorem Stands.hasInput {p : Progress} {g : Gathered} (stands : Stands p g) :
    p.hasInput = g.has .input := by
  cases stands with
  | settled => exact Bool.or_false _
  | waiting g part slot value worded fresh =>
    cases worded <;> simp [Progress.hasInput, Gathered.has, Gathered.take]

theorem addInput_eq (p : Progress) (g : Gathered) (only : Bool) (text : String)
    (absent : p.hasInput = false) (resolved : p.resolve = .ok ⟨g, none, only⟩) :
    p.addInput text = .ok ⟨g, some (.input, some text), only⟩ := by
  unfold Progress.addInput
  rw [absent, resolved]
  rfl

theorem Stands.addPlain {p : Progress} {g : Gathered} (stands : Stands p g) (text : String)
    (free : g.has .input = false) :
    p.addPlain text = .ok ⟨g, some (.input, some text), false⟩ := by
  have added := addInput_eq p g false text (stands.hasInput.trans free) stands.resolve_self
  cases stands <;> exact added

theorem Stands.addName {p : Progress} {g : Gathered} (stands : Stands p g) (slot : Slot) :
    p.addValue slot none = .ok ⟨g, some (slot, none), false⟩ := by
  unfold Progress.addValue
  rw [stands.resolve_self]
  rfl

theorem Stands.addValue {p : Progress} {g : Gathered} (stands : Stands p g) (part : Part)
    (slot : Slot) (value : String) (worded : Worded part slot value)
    (fresh : g.settles part.argument = false) :
    p.addValue slot (some value) = .ok ⟨g.take part, none, false⟩ := by
  have assigned := assign_worded g part slot value worded fresh
  unfold Progress.addValue
  rw [stands.resolve_self]
  simp [bind, Except.bind, pure, Except.pure, assigned]

theorem Stands.takeFlag {p : Progress} {g : Gathered} (stands : Stands p g) (part : Part)
    (flag : Flag) (same : part.argument = .flag flag) (fresh : g.settles part.argument = false) :
    takeFlag p flag true = .ok (.proceed ⟨g.take part, none, false⟩) := by
  unfold CommandLine.takeFlag
  rw [stands.resolve_self]
  cases part with
  | strict =>
    cases same
    change Turn.proceed <$> Progress.addFlag ⟨g, none, false⟩ .strict g.strict _ = _
    rw [show g.strict = false from fresh]
    rfl
  | watch =>
    cases same
    change Turn.proceed <$> Progress.addFlag ⟨g, none, false⟩ .watch g.watch _ = _
    rw [show g.watch = false from fresh]
    rfl
  | _ => contradiction

theorem readFrom_proceed (p q : Progress) (text : String) (rest : List String)
    (taken : takeArgument p text = .ok (.proceed q)) :
    readFrom p (text :: rest) = readFrom q rest := by
  rw [readFrom, taken]

theorem readFrom_part (p : Progress) (g : Gathered) (part : Part) (spelt : List String)
    (stands : Stands p g) (fresh : g.settles part.argument = false) (spelling : Spelt part spelt) :
    ∃ q, Stands q (g.take part) ∧ ∀ rest, readFrom p (spelt ++ rest) = readFrom q rest := by
  cases spelling with
  | plain path alone =>
    refine ⟨_, .waiting g _ .input path (.input path) fresh, fun rest => ?_⟩
    apply readFrom_proceed
    unfold takeArgument
    rw [stands.reading, spelling_plain _ alone]
    simp [stands.addPlain _ fresh]
  | apart _ slot name value worded named alone =>
    refine ⟨_, .waiting g part slot value worded fresh, fun rest => ?_⟩
    have first : takeArgument p name = .ok (.proceed ⟨g, some (slot, none), false⟩) := by
      rw [takeArgument_named p slot name named stands.reading, stands.addName slot]
      rfl
    have second : takeArgument ⟨g, some (slot, none), false⟩ value =
        .ok (.proceed ⟨g, some (slot, some value), false⟩) := by
      unfold takeArgument
      rw [spelling_plain value alone]
      rfl
    exact (readFrom_proceed _ _ _ _ first).trans (readFrom_proceed _ _ _ _ second)
  | joined _ slot name value worded named =>
    refine ⟨_, .settled _, fun rest => ?_⟩
    apply readFrom_proceed
    rw [takeArgument_joined p slot name value named stands.reading,
      stands.addValue part slot value worded fresh]
    rfl
  | glued path start =>
    refine ⟨_, .settled _, fun rest => ?_⟩
    apply readFrom_proceed
    have spelt := spelling_glued ("-o" ++ path.val) path path.property start (by simp)
    rw [takeArgument_short p _ path spelt stands.reading,
      stands.addValue _ .output path (.output path) fresh]
    rfl
  | strict =>
    refine ⟨_, .settled _, fun rest => ?_⟩
    apply readFrom_proceed
    unfold takeArgument
    rw [stands.reading]
    exact stands.takeFlag .strict .strict rfl fresh
  | watch =>
    refine ⟨_, .settled _, fun rest => ?_⟩
    apply readFrom_proceed
    unfold takeArgument
    rw [stands.reading]
    exact stands.takeFlag .watch .watch rfl fresh

/-! ### Reading all parts -/

theorem readFrom_parts (parts : List Part) (spellings : List (List String))
    (spelled : List.Forall₂ Spelt parts spellings) (p : Progress) (g : Gathered)
    (stands : Stands p g) (fresh : ∀ part ∈ parts, g.settles part.argument = false)
    (distinct : (parts.map Part.argument).Nodup) :
    ∃ q, Stands q (parts.foldl Gathered.take g) ∧
      ∀ rest, readFrom p (spellings.flatten ++ rest) = readFrom q rest := by
  induction spelled generalizing p g with
  | nil => exact ⟨p, stands, fun _ => rfl⟩
  | @cons part spelt parts spellings one _ ih =>
    rw [List.map_cons, List.nodup_cons] at distinct
    obtain ⟨q, stands', first⟩ :=
      readFrom_part p g part spelt stands (fresh part List.mem_cons_self) one
    have fresh' : ∀ other ∈ parts, (g.take part).settles other.argument = false := by
      intro other later
      have apart : part.argument ≠ other.argument :=
        fun same => distinct.1 (same ▸ List.mem_map_of_mem later)
      rw [settles_take g part _ apart]
      exact fresh other (List.mem_cons_of_mem part later)
    obtain ⟨r, stands'', others⟩ := ih q (g.take part) stands' fresh' distinct.2
    refine ⟨r, stands'', fun rest => ?_⟩
    rw [List.flatten_cons, List.append_assoc, first, others]

theorem readFrom_end (p : Progress) (g : Gathered) (stands : Stands p g) :
    readFrom p [] = .ok (.run g.settings) := by
  rw [readFrom, stands.resolve_self]
  rfl

theorem readFrom_inputLast (p : Progress) (g : Gathered) (path : FileName) (stands : Stands p g)
    (free : g.has .input = false) :
    readFrom p ["--", path.val] = .ok (.run (g.take (.input path)).settings) := by
  have behind : takeArgument p "--" = .ok (.proceed { p with onlyInputs := true }) := by
    unfold takeArgument
    rw [stands.reading]
    rfl
  have added : takeArgument { p with onlyInputs := true } path =
      .ok (.proceed ⟨g, some (.input, some path.val), true⟩) := by
    have read := addInput_eq { p with onlyInputs := true } g true path
      (stands.hasInput.trans free) (stands.resolve true)
    unfold takeArgument
    rw [if_pos rfl, read]
    rfl
  have assigned := assign_worded g (.input path) .input path (.input path) free
  rw [readFrom_proceed _ _ _ _ behind, readFrom_proceed _ _ _ _ added]
  simp [readFrom, Progress.resolve, assigned, Except.map]

theorem readArguments_spelt (w : Wishes) (arguments : List String) (spelt : SpeltOut w arguments) :
    readArguments arguments = .ok (.run w.settings) := by
  have blank : ∀ part : Part, ({} : Gathered).settles part.argument = false := by
    intro part
    cases part <;> rfl
  unfold readArguments
  cases spelt with
  | mixed parts spellings order spelled =>
    have distinct := (order.map Part.argument).nodup_iff.mpr (nodup_arguments w)
    obtain ⟨q, stands, read⟩ := readFrom_parts parts spellings spelled {} {} (.settled {})
      (fun part _ => blank part) distinct
    rw [← List.append_nil spellings.flatten, read, readFrom_end q _ stands,
      settings_perm w parts order]
  | inputLast path parts spellings order spelled =>
    have distinct := (order.map Part.argument).nodup_iff.mpr (nodup_arguments w)
    rw [List.map_cons, List.nodup_cons] at distinct
    obtain ⟨q, stands, read⟩ := readFrom_parts parts spellings spelled {} {} (.settled {})
      (fun part _ => blank part) distinct.2
    have free := (settles_foldl parts {} _ distinct.1).trans (blank (.input path))
    -- the input is the last part to be gathered, behind all others
    have last := settings_perm w (parts ++ [.input path])
      ((List.perm_append_singleton _ parts).trans order)
    rw [List.foldl_append, List.foldl_cons, List.foldl_nil] at last
    rw [read, readFrom_inputLast q _ path stands free, last]

/-- However a command line spells what is asked for, and in whatever order, it is read as what is
asked for; so all such lines lead to one run. -/
theorem spellings_agree (w : Wishes) (arguments : List String) (spelt : SpeltOut w arguments) :
    readArguments arguments = .ok (.run w.settings) ∧
    ∀ (world : World) (refusal : Option Fault),
      run arguments world refusal = .ok (runSettings w.settings world refusal) ∧
      ∀ other : List String, SpeltOut w other →
        run other world refusal = run arguments world refusal := by
  have read (line : List String) (spelt : SpeltOut w line) (world : World)
      (refusal : Option Fault) :
      run line world refusal = .ok (runSettings w.settings world refusal) := by
    rw [run, readArguments_spelt w line spelt]
    rfl
  refine ⟨readArguments_spelt w arguments spelt, fun world refusal => ?_⟩
  refine ⟨read arguments spelt world refusal, fun other spelt' => ?_⟩
  rw [read other spelt' world refusal, read arguments spelt world refusal]

def everything : Wishes where
  input := some ⟨"-", by decide⟩
  output := some ⟨"a=b", by decide⟩
  siblingIndent := some .child
  strict := true
  watch := true
  intervalMs := some 7

def everythingDashed : List String :=
  ["--watch", "-oa=b", "--interval-ms", "+007", "--strict", "--sibling-indent=child", "--", "-"]

def everythingPlain : List String :=
  ["--strict", "-", "--output=a=b", "--sibling-indent", "child", "--interval-ms=7", "--watch"]

theorem spellings_agree_everything :
    SpeltOut everything everythingDashed ∧ SpeltOut everything everythingPlain ∧
      readArguments everythingDashed = .ok (.run ⟨some "-", some "a=b", .child, true, true, 7⟩) ∧
      ∀ world refusal,
        run everythingPlain world refusal = run everythingDashed world refusal := by
  have seven : Worded (.intervalMs 7) .intervalMs "7" :=
    .intervalMs 7 "7" ⟨false, 0, by decide⟩
  have padded : Worded (.intervalMs 7) .intervalMs "+007" :=
    .intervalMs 7 "+007" ⟨true, 2, by decide⟩
  have spelt : SpeltOut everything everythingDashed := by
    refine .inputLast ⟨"-", by decide⟩
      [.watch, .output ⟨"a=b", by decide⟩, .intervalMs 7, .strict, .siblingIndent .child]
      [["--watch"], ["-oa=b"], ["--interval-ms", "+007"], ["--strict"],
        ["--sibling-indent=child"]] (by decide) ?_
    exact .cons .watch <| .cons (.glued _ (by decide)) <|
      .cons (.apart _ _ _ _ padded .intervalMs (.inr (by decide))) <| .cons .strict <|
      .cons (.joined _ _ _ _ .child .siblingIndent) .nil
  have spelt' : SpeltOut everything everythingPlain := by
    refine .mixed
      [.strict, .input ⟨"-", by decide⟩, .output ⟨"a=b", by decide⟩, .siblingIndent .child,
        .intervalMs 7, .watch]
      [["--strict"], ["-"], ["--output=a=b"], ["--sibling-indent", "child"],
        ["--interval-ms=7"], ["--watch"]] (by decide) ?_
    exact .cons .strict <| .cons (.plain _ (.inl rfl)) <|
      .cons (.joined _ _ _ _ (.output _) .output) <|
      .cons (.apart _ _ _ _ .child .siblingIndent (.inr (by decide))) <|
      .cons (.joined _ _ _ _ seven .intervalMs) <| .cons .watch .nil
  have agree := spellings_agree everything everythingDashed spelt
  exact ⟨spelt, spelt', agree.1,
    fun world refusal => (agree.2 world refusal).2 everythingPlain spelt'⟩

end SymbolMarkup.CommandLine
