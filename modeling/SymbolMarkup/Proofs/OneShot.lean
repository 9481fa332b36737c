import SymbolMarkup.CommandLine.Run
import SymbolMarkup.Proofs.Delivery

/-! Runs that convert once. Such a run either delivers the whole text, and touches nothing but the
place that it is told to write to, or it leaves no trace but a message. What it delivers is settled
by the bytes that it reads and by two flags, not by where the bytes come from or where the text
goes. -/
namespace SymbolMarkup.CommandLine

def selectedBytes (s : Settings) (w : World) : Except Fault ByteArray :=
  match s.inputPath with
  | some path => w.disk.read path
  | none => .ok w.standardInput

theorem decodeText_eq_ok_iff (bytes : ByteArray) (html : String) :
    decodeText bytes = .ok html ↔ String.fromUTF8? bytes = some html := by
  unfold decodeText
  cases String.fromUTF8? bytes <;> simp

theorem mapError_eq_ok_iff {ε ε' α : Type} (explain : ε → ε') (x : Except ε α) (a : α) :
    x.mapError explain = .ok a ↔ x = .ok a := by
  cases x with
  | error e =>
    constructor
    · intro h
      contradiction
    · intro h
      contradiction
  | ok b =>
    change Except.ok b = Except.ok a ↔ Except.ok b = Except.ok a
    rw [Except.ok.injEq, Except.ok.injEq]

theorem readInput_eq_ok_iff (s : Settings) (w : World) (html : String) :
    readInput s w = .ok html ↔
      ∃ bytes, selectedBytes s w = .ok bytes ∧ String.fromUTF8? bytes = some html := by
  unfold readInput selectedBytes
  simp only [← decodeText_eq_ok_iff]
  cases s.inputPath with
  | none => simp only [mapError_eq_ok_iff, Except.ok.injEq, exists_eq_left']
  | some path =>
    simp only [readFile, mapError_eq_ok_iff]
    cases w.disk.read path with
    | error fault => simp [Except.bind]
    | ok bytes => simp only [Except.bind, Except.ok.injEq, exists_eq_left']

def ConvertsTo (layout : SiblingIndent) (strict : Bool) (bytes : ByteArray) (output : String) :
    Prop :=
  ∃ html, String.fromUTF8? bytes = some html ∧
    (convert ⟨layout, if strict then .error else .skip⟩ html).result = .ok output

theorem convertsTo_unique (layout : SiblingIndent) (strict : Bool) (bytes : ByteArray)
    (output output' : String) (one : ConvertsTo layout strict bytes output)
    (other : ConvertsTo layout strict bytes output') : output = output' := by
  obtain ⟨html, decoded, converted⟩ := one
  obtain ⟨html', decoded', converted'⟩ := other
  cases Option.some.inj (decoded.symm.trans decoded')
  exact Except.ok.inj (converted.symm.trans converted')

/-- A run that delivers what it is asked for, or else leaves no trace. -/
structure AllOrNothing (s : Settings) (w : World) (refusal : Option Fault) (r : Report) : Prop where
  exits : r.exitCode = 0 ∨ r.exitCode = 1
  succeeds_iff : r.exitCode = 0 ↔ ∃ bytes output, selectedBytes s w = .ok bytes ∧
    ConvertsTo s.siblingIndent s.strict bytes output ∧ Writable s.output w.disk refusal
  delivers : r.exitCode = 0 → ∀ bytes output, selectedBytes s w = .ok bytes →
    ConvertsTo s.siblingIndent s.strict bytes output →
    Delivered s.output w.disk r.disk r.standardOutput (output ++ "\n")
  fails : r.exitCode = 1 → r.standardOutput = "" ∧ r.disk = w.disk

section Outcomes

variable (s : Settings) (w : World) (refusal : Option Fault)

theorem failed_run (e : RunError) (events : List Event)
    (cannot : ∀ bytes output, selectedBytes s w = .ok bytes →
      ConvertsTo s.siblingIndent s.strict bytes output → ¬ Writable s.output w.disk refusal) :
    AllOrNothing s w refusal ⟨some e, events, "", w.disk⟩ where
  exits := .inr rfl
  succeeds_iff := by
    constructor
    · intro success
      contradiction
    · rintro ⟨bytes, output, selected, converts, writable⟩
      exact absurd writable (cannot bytes output selected converts)
  delivers := fun success => by contradiction
  fails := fun _ => ⟨rfl, rfl⟩

theorem finished_run (events : List Event) (printed : String) (after : Disk) (bytes : ByteArray)
    (output : String) (selected : selectedBytes s w = .ok bytes)
    (converts : ConvertsTo s.siblingIndent s.strict bytes output)
    (writable : Writable s.output w.disk refusal)
    (done : Delivered s.output w.disk after printed (delivered output)) :
    AllOrNothing s w refusal ⟨none, events, printed, after⟩ where
  exits := .inl rfl
  succeeds_iff := ⟨fun _ => ⟨bytes, output, selected, converts, writable⟩, fun _ => rfl⟩
  delivers := by
    intro _ bytes' output' selected' converts'
    cases Except.ok.inj (selected.symm.trans selected')
    cases convertsTo_unique _ _ bytes output output' converts converts'
    exact done
  fails := fun failure => by contradiction

theorem convertOnce_allOrNothing : AllOrNothing s w refusal (convertOnce s w refusal) := by
  unfold convertOnce
  -- reading, converting and writing in this order: what fails first leaves the disk as it was
  cases input : readInput s w with
  | error e =>
    refine failed_run s w refusal e [] fun bytes output selected ⟨html, decoded, _⟩ => ?_
    have read := (readInput_eq_ok_iff s w html).mpr ⟨bytes, selected, decoded⟩
    rw [input] at read
    contradiction
  | ok html =>
    obtain ⟨bytes, selected, decoded⟩ := (readInput_eq_ok_iff s w html).mp input
    cases conversion : (convert s.options html).result with
    | error failure =>
      simp only [conversion]
      refine failed_run s w refusal _ _
        fun bytes' output selected' ⟨html', decoded', converted⟩ => ?_
      cases Except.ok.inj (selected.symm.trans selected')
      cases Option.some.inj (decoded.symm.trans decoded')
      have failed := conversion.symm.trans converted
      contradiction
    | ok output =>
      have converts : ConvertsTo s.siblingIndent s.strict bytes output :=
        ⟨html, decoded, conversion⟩
      simp only [conversion]
      rcases deliver_cases s.output w.disk refusal (delivered output) with
        ⟨after, printed, delivery, writable, done⟩ | ⟨fault, delivery, unwritable⟩
      · rw [delivery]
        exact finished_run s w refusal _ printed after bytes output selected converts writable done
      · rw [delivery]
        exact failed_run s w refusal _ _ fun _ _ _ _ => unwritable

end Outcomes

def Report.received (r : Report) (output : Option String) : Option ByteArray :=
  match output with
  | none => some r.standardOutput.toUTF8
  | some path => (r.disk.read path).toOption

theorem received_of_delivered (output : Option String) (before : Disk) (r : Report)
    (text : String) (done : Delivered output before r.disk r.standardOutput text) :
    r.received output = some text.toUTF8 := by
  cases output with
  | none => rw [Report.received, done.1]
  | some path =>
    rw [Report.received, done.2.1]
    rfl

structure RunsOnce (arguments : List String) (s : Settings) (w : World) (refusal : Option Fault)
    (r : Report) : Prop where
  accepted : readArguments arguments = .ok (.run s)
  once : s.watch = false
  ends : run arguments w refusal = .ok (.finished r)

theorem run_once (arguments : List String) (s : Settings) (w : World) (refusal : Option Fault)
    (accepted : readArguments arguments = .ok (.run s)) (once : s.watch = false) :
    RunsOnce arguments s w refusal (convertOnce s w refusal) := by
  refine ⟨accepted, once, ?_⟩
  simp only [run, accepted, Except.map, runSettings, once, Bool.false_eq_true, if_false]

section Run

variable {arguments : List String} {s : Settings} {w : World} {refusal : Option Fault} {r : Report}

theorem RunsOnce.allOrNothing (h : RunsOnce arguments s w refusal r) :
    AllOrNothing s w refusal r := by
  have same := h.ends.symm.trans (run_once arguments s w refusal h.accepted h.once).ends
  cases Except.ok.inj same
  exact convertOnce_allOrNothing s w refusal

theorem RunsOnce.received (h : RunsOnce arguments s w refusal r) (success : r.exitCode = 0)
    (bytes : ByteArray) (selected : selectedBytes s w = .ok bytes) :
    ∃ output, ConvertsTo s.siblingIndent s.strict bytes output ∧
      r.received s.output = some (output ++ "\n").toUTF8 := by
  obtain ⟨bytes', output, selected', converts, -⟩ := h.allOrNothing.succeeds_iff.mp success
  cases Except.ok.inj (selected.symm.trans selected')
  exact ⟨output, converts,
    received_of_delivered _ _ _ _ (h.allOrNothing.delivers success bytes output selected converts)⟩

end Run

end SymbolMarkup.CommandLine
