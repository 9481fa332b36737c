import SymbolMarkup.CommandLine.Channels
import SymbolMarkup.Proofs.Disk

/-! Delivering a text. Whether that can be done is no matter of the text. If it can, the text goes
where it belongs and nowhere else; if it cannot, the error names the output. -/
namespace SymbolMarkup.CommandLine

/-- The output takes texts at the moment. A path has to lead to a name in a directory that is there,
and no directory may have the name. -/
def Writable (output : Option String) (d : Disk) (refusal : Option Fault) : Prop :=
  refusal = none ∧ match output with
    | none => True
    | some path =>
      ∃ l, d.locate path = .ok (.name l false) ∧ Disk.Short l ∧ d.entry? l ≠ some .directory

/-- The text has gone where it belongs, and nowhere else. -/
def Delivered (output : Option String) (before after : Disk) (printed text : String) : Prop :=
  match output with
  | none => printed = text ∧ after = before
  | some path =>
    printed = "" ∧ after.read path = .ok text.toUTF8 ∧
      ∃ l, before.locate path = .ok (.name l false) ∧ ∀ k, k ≠ l → after.entry? k = before.entry? k

theorem delivered_put (d : Disk) (path : String) (l : Location) (text : String)
    (target : d.target path = .ok l) :
    Delivered (some path) d (d.put l text.toUTF8) "" text := by
  have place := ((Disk.target_eq_ok_iff d path l).mp target).1
  exact ⟨rfl, Disk.read_put d path l _ target, l, place,
    fun k other => Disk.entry?_put_other d l k _ other⟩

theorem deliver_cases (output : Option String) (d : Disk) (refusal : Option Fault)
    (text : String) :
    (∃ after printed, deliver output d refusal text = .ok (after, printed) ∧
      Writable output d refusal ∧ Delivered output d after printed text) ∨
    ∃ fault, deliver output d refusal text = .error (.writing output fault) ∧
      ¬ Writable output d refusal := by
  cases output with
  | none =>
    cases refusal with
    | none => exact .inl ⟨d, text, rfl, ⟨rfl, trivial⟩, rfl, rfl⟩
    | some fault => exact .inr ⟨fault, rfl, fun writable => nomatch writable.1⟩
  | some path =>
    cases target : d.target path with
    | error fault =>
      refine .inr ⟨fault, ?_, ?_⟩
      · simp only [deliver, Disk.write, target, Except.map]
      · rintro ⟨-, l, place⟩
        rw [(Disk.target_eq_ok_iff d path l).mpr place] at target
        contradiction
    | ok l =>
      cases refusal with
      | none =>
        refine .inl ⟨d.put l text.toUTF8, "", ?_, ⟨rfl, l, ?_⟩, delivered_put d path l text target⟩
        · simp only [deliver, Disk.write, target, Except.map]
        · exact (Disk.target_eq_ok_iff d path l).mp target
      | some fault =>
        refine .inr ⟨fault, ?_, fun writable => nomatch writable.1⟩
        simp only [deliver, Disk.write, target, Except.map]

theorem deliver_isOk (output : Option String) (d : Disk) (refusal : Option Fault)
    (text : String) :
    (deliver output d refusal text).isOk = true ↔ Writable output d refusal := by
  rcases deliver_cases output d refusal text with
    ⟨after, printed, done, writable, -⟩ | ⟨fault, failed, not⟩
  · rw [done]
    exact ⟨fun _ => writable, fun _ => rfl⟩
  · rw [failed]
    exact ⟨(nomatch ·), fun writable => absurd writable not⟩

instance (output : Option String) (d : Disk) (refusal : Option Fault) :
    Decidable (Writable output d refusal) := decidable_of_iff _ (deliver_isOk output d refusal "")

end SymbolMarkup.CommandLine
