import SymbolMarkup.Proofs.Watching

/-! When the output of a watch is up to date. A look asks for a write when the rendering differs
from the one before, not when it differs from what the output holds. So after a write that fails,
content that is rendered alike leaves the output as stale as it was. What a run says of its output
holds of the file that a watch writes to, as long as nobody else writes there. -/
namespace SymbolMarkup.CommandLine

def Watch.Fresh (w : Watch) : Prop := w.shown = delivered w.live.output

instance (w : Watch) : Decidable w.Fresh := inferInstanceAs (Decidable (_ = _))

theorem run_append (o : Options) (content : String) (polls : List Poll) (p : Poll) :
    Watch.run o content (polls ++ [p]) = (Watch.run o content polls).poll p := by
  rw [Watch.run, List.foldl_append]
  rfl

theorem delivered_inj (a b : String) : delivered a = delivered b ↔ a = b :=
  String.append_left_inj "\n"

theorem lastWritten_eq (o : Options) (content : String) (polls : List Poll)
    (written : ∀ p ∈ polls, p.writable = true) :
    lastWritten (rendered o content) (trials (rendered o content) (looks o polls)) =
      rendered o (lastRead content polls) := by
  induction polls generalizing content with
  | nil => rfl
  | cons p polls ih =>
    have later : ∀ q ∈ polls, q.writable = true := fun q hq => written q (List.mem_cons_of_mem p hq)
    obtain ⟨found, writable⟩ := p
    cases found with
    | none => exact ih content later
    | some found =>
      cases (written ⟨some found, writable⟩ List.mem_cons_self : writable = true)
      rw [looks_read, lastRead_read, trials]
      by_cases same : rendered o found = rendered o content
      · rw [if_pos same, ← same, ih found later]
      · rw [if_neg same, lastWritten_succeeded, ih found later]

/-- Nothing but a failed write makes an output stale. -/
theorem fresh_of_all_written (o : Options) (content : String) (polls : List Poll)
    (written : ∀ p ∈ polls, p.writable = true) : (Watch.run o content polls).Fresh := by
  rw [Watch.run_eq, Watch.Fresh, lastWritten_eq o content polls written, Live.of_output]

/-- Content that was read when writing is possible is on the output exactly if it is rendered in
another way than what was read before it, or in the way that was written last. -/
theorem fresh_iff (o : Options) (content later : String) (polls : List Poll) :
    (Watch.run o content (polls ++ [⟨some later, true⟩])).Fresh ↔
      rendered o later ≠ rendered o (lastRead content polls) ∨
        rendered o later =
          lastWritten (rendered o content) (trials (rendered o content) (looks o polls)) := by
  rw [run_append, Watch.run_eq, Watch.Fresh]
  by_cases same : rendered o later = rendered o (lastRead content polls)
  · rw [Watch.poll_same o _ later _ _ true same, Live.of_output, delivered_inj]
    constructor
    · intro fresh
      exact .inr fresh.symm
    · rintro (differs | written)
      · exact absurd same differs
      · exact written.symm
  · rw [Watch.poll_trial o _ later _ _ true same, Live.of_output, if_pos rfl]
    exact ⟨fun _ => .inl same, fun _ => rfl⟩

theorem stale_after_failed_write :
    ¬ ∀ (o : Options) (content later : String) (polls : List Poll),
      later ≠ (Watch.run o content polls).live.input →
        (Watch.run o content (polls ++ [⟨some later, true⟩])).Fresh := by
  intro fresh
  have differs : "b " ≠ (Watch.run {} "a" [⟨some "b", false⟩]).live.input := by decide +kernel
  have stale : ¬ (Watch.run {} "a" ([⟨some "b", false⟩] ++ [⟨some "b ", true⟩])).Fresh := by
    decide +kernel
  exact stale (fresh {} "a" "b " [⟨some "b", false⟩] differs)

/-! ### The file of a watch -/

/-- Every look finds the file at a path as the look before has left it. -/
def Watching.Undisturbed (out : String) (w : Watching) : List Scene → Prop
  | [] => True
  | c :: scenes => c.disk.read out = w.disk.read out ∧ (w.lookOn c).Undisturbed out scenes

/-- The file at a path is what was written last. -/
def Watching.Keeps (out : String) (w : Watching) : Prop :=
  ∃ text, (written w.attempts).getLast? = some text ∧ w.disk.read out = .ok text.toUTF8

/-- The file at a path holds what the view shows. -/
def Watching.FileFresh (out : String) (w : Watching) : Prop :=
  w.disk.read out = .ok (delivered w.live.output).toUTF8

section File

variable {s : Settings} {path out : String} {w w' : Watching} {v : Watch}

theorem looked_keeps (toFile : w.settings.output = some out) (keeps : w.Keeps out)
    (looked : Looked w w') : w'.Keeps out := by
  obtain ⟨text, last, there⟩ := keeps
  cases looked with
  | unread e lost => exact ⟨text, last, there⟩
  | alike content found same => exact ⟨text, last, there⟩
  | wrote content found differs writable after printed done =>
    rw [toFile] at done
    refine ⟨_, ?_, done.2.1⟩
    rw [written_done, List.getLast?_concat]
  | failed content found differs unwritable fault =>
    refine ⟨text, ?_, there⟩
    rwa [written_failed]

theorem foldl_keeps (follows : Follows s path w v) (toFile : s.output = some out)
    (keeps : w.Keeps out) (scenes : List Scene) (undisturbed : w.Undisturbed out scenes) :
    (scenes.foldl Watching.lookOn w).Keeps out := by
  induction scenes generalizing w v with
  | nil => exact keeps
  | cons c scenes ih =>
    -- the file comes to the next look as the look before has left it
    obtain ⟨same, later⟩ := undisturbed
    have here : (w.enter c).Keeps out := by
      obtain ⟨text, last, there⟩ := keeps
      exact ⟨text, last, same.trans there⟩
    have output : (w.enter c).settings.output = some out := by
      rw [← toFile, ← follows.settings]
      rfl
    exact ih (lookOn_follows follows c) (looked_keeps output here (lookOn_looked follows c)) later

theorem begun_keeps {world : World} {content : String} (toFile : s.output = some out)
    (begun : Begun s world path content w) : w.Keeps out := by
  have done := begun.done
  rw [toFile] at done
  refine ⟨_, ?_, done.2.1⟩
  rw [begun.attempts]
  rfl

end File

theorem toUTF8_inj (a b : String) : a.toUTF8 = b.toUTF8 ↔ a = b := String.toByteArray_inj

/-- The file of a watch is up to date whenever the output of the run is that the watch follows. -/
theorem file_fresh_iff (s : Settings) (world : World) (refusal : Option Fault) (w : Watching)
    (out : String) (started : startWatch s world refusal = .watching w)
    (toFile : s.output = some out) :
    ∃ path content, s.inputPath = some path ∧ readFile world.disk path = .ok content ∧
      ∀ scenes : List Scene, w.Undisturbed out scenes →
        (scenes.foldl Watching.lookOn w).disk.read out =
            .ok (Watch.run s.options content (scenes.map (pollOn s path))).shown.toUTF8 ∧
          ((scenes.foldl Watching.lookOn w).FileFresh out ↔
            (Watch.run s.options content (scenes.map (pollOn s path))).Fresh) := by
  obtain ⟨path, content, input, contents, begun⟩ := begun_of_watching s world refusal w started
  refine ⟨path, content, input, contents, fun scenes undisturbed => ?_⟩
  have after := foldl_follows begun.follows scenes
  obtain ⟨text, last, there⟩ :=
    foldl_keeps begun.follows toFile (begun_keeps toFile begun) scenes undisturbed
  cases Option.some.inj (last.symm.trans after.shown)
  refine ⟨there, ?_⟩
  rw [Watching.FileFresh, there, Except.ok.injEq, toUTF8_inj, after.live]
  rfl

/-- The file keeps the first text, although the view has moved on twice. -/
example :
    let w := begunOn toFile (pageAndOutput "a" "\"a\"\n") ""
    ((outputScenes.take 3).foldl Watching.lookOn w).disk.read "out" = .ok "\"a\"\n".toUTF8 ∧
      ((outputScenes.take 3).foldl Watching.lookOn w).live = ⟨{}, "b ", "\"b\""⟩ := by
  decide +kernel

end SymbolMarkup.CommandLine
