import SymbolMarkup.CommandLine.Run
import SymbolMarkup.Proofs.Delivery
import SymbolMarkup.Proofs.Watch

/-! A watch of a file. The disk may be another one at every look, and so may what the output takes;
what can be read and written there is all that a look has from its scene. So a watch of a file is a
run of looks, and what it writes is found in the file that it writes to. -/
namespace SymbolMarkup.CommandLine

structure Scene where
  disk : Disk
  refusal : Option Fault

def Scene.content (path : String) (c : Scene) : Option String := (readFile c.disk path).toOption

def pollOn (s : Settings) (path : String) (c : Scene) : Poll :=
  ⟨c.content path, decide (Writable s.output c.disk c.refusal)⟩

theorem pollOn_unread (s : Settings) {path : String} (c : Scene) {e : RunError}
    (lost : readFile c.disk path = .error e) :
    pollOn s path c = ⟨none, decide (Writable s.output c.disk c.refusal)⟩ := by
  rw [pollOn, Scene.content, lost]
  rfl

theorem pollOn_read (s : Settings) {path : String} (c : Scene) {content : String}
    (found : readFile c.disk path = .ok content) :
    pollOn s path c = ⟨some content, decide (Writable s.output c.disk c.refusal)⟩ := by
  rw [pollOn, Scene.content, found]
  rfl

namespace Watching

def enter (w : Watching) (c : Scene) : Watching := { w with disk := c.disk, refusal := c.refusal }

def lookOn (w : Watching) (c : Scene) : Watching := (w.enter c).poll

end Watching

/-- The texts that have reached the output. -/
def written (attempts : List Attempt) : List String :=
  (attempts.filter fun a => a.error.isNone).map Attempt.text

theorem written_done (attempts : List Attempt) (text : String) :
    written (attempts ++ [⟨text, none⟩]) = written attempts ++ [text] := by
  simp [written]

theorem written_failed (attempts : List Attempt) (text : String) (e : RunError) :
    written (attempts ++ [⟨text, some e⟩]) = written attempts := by
  simp [written]

/-! ### One look -/

/-- What a look leaves. A write that fails is kept as an attempt with its error, and nothing else
comes of it. -/
inductive Looked (w : Watching) : Watching → Prop where
  | unread (e : RunError) (lost : readFile w.disk w.path = .error e) : Looked w w
  | alike (content : String) (found : readFile w.disk w.path = .ok content)
      (same : rendered w.settings.options content = w.live.output) :
      Looked w { w with live := Live.of w.settings.options content }
  | wrote (content : String) (found : readFile w.disk w.path = .ok content)
      (differs : rendered w.settings.options content ≠ w.live.output)
      (writable : Writable w.settings.output w.disk w.refusal) (after : Disk) (printed : String)
      (done : Delivered w.settings.output w.disk after printed
        (delivered (rendered w.settings.options content))) :
      Looked w { w with
        live := Live.of w.settings.options content
        disk := after
        printed := w.printed ++ printed
        attempts := w.attempts ++ [⟨delivered (rendered w.settings.options content), none⟩] }
  | failed (content : String) (found : readFile w.disk w.path = .ok content)
      (differs : rendered w.settings.options content ≠ w.live.output)
      (unwritable : ¬ Writable w.settings.output w.disk w.refusal) (fault : Fault) :
      Looked w { w with
        live := Live.of w.settings.options content
        attempts := w.attempts ++ [⟨delivered (rendered w.settings.options content),
          some (.writing w.settings.output fault)⟩] }

theorem poll_looked (w : Watching) (input : String)
    (view : w.live = Live.of w.settings.options input) : Looked w w.poll := by
  unfold Watching.poll
  cases found : readFile w.disk w.path with
  | error e => exact .unread e found
  | ok content =>
    obtain ⟨live, delivery⟩ := refresh_of w.settings.options input content
    rw [← view] at live delivery
    have output : rendered w.settings.options input = w.live.output := by rw [view, Live.of_output]
    rw [output] at delivery
    by_cases same : rendered w.settings.options content = w.live.output
    · rw [if_pos same] at delivery
      simp only [Except.toOption, live, delivery]
      exact .alike content found same
    · rw [if_neg same] at delivery
      simp only [Except.toOption, live, delivery, Watching.write]
      rcases deliver_cases w.settings.output w.disk w.refusal
        (delivered (rendered w.settings.options content)) with
        ⟨after, printed, delivery, writable, done⟩ | ⟨fault, delivery, unwritable⟩
      · simp only [delivery]
        exact .wrote content found same writable after printed done
      · simp only [delivery]
        exact .failed content found same unwritable fault

/-! ### A run of looks -/

/-- A watch of a file has come to what a run of looks without a disk has come to. -/
structure Follows (s : Settings) (path : String) (w : Watching) (v : Watch) : Prop where
  settings : w.settings = s
  path : w.path = path
  live : w.live = v.live
  view : ∃ content, v.live = Live.of s.options content
  attempts : w.attempts.map Attempt.text = v.attempts
  shown : (written w.attempts).getLast? = some v.shown
  printed : w.printed = if s.output.isNone then String.join (written w.attempts) else ""

section Look

variable {s : Settings} {path : String} {w w' : Watching} {v : Watch}

theorem printed_done {output : Option String} {before after : Disk} {sofar printed text : String}
    {texts : List String} (done : Delivered output before after printed text)
    (told : sofar = if output.isNone then String.join texts else "") :
    sofar ++ printed = if output.isNone then String.join (texts ++ [text]) else "" := by
  cases output with
  | none =>
    rw [told, done.1]
    simp [String.join]
  | some path =>
    rw [told, done.1]
    rfl

theorem looked_follows (follows : Follows s path w v) (looked : Looked w w') :
    Follows s path w' (v.poll (pollOn s path ⟨w.disk, w.refusal⟩)) := by
  obtain ⟨live, attempts, shown⟩ := v
  obtain ⟨rfl, rfl, seen, ⟨input, rfl⟩, tried, holds, told⟩ := follows
  have output : w.live.output = rendered w.settings.options input := by rw [seen, Live.of_output]
  -- each way that a look can go is one way that a poll can go
  cases looked with
  | unread e lost =>
    rw [pollOn_unread w.settings ⟨w.disk, w.refusal⟩ lost, Watch.poll_unread]
    exact ⟨rfl, rfl, seen, ⟨input, rfl⟩, tried, holds, told⟩
  | alike content found same =>
    rw [pollOn_read w.settings ⟨w.disk, w.refusal⟩ found,
      Watch.poll_same w.settings.options input content _ _ _ (same.trans output)]
    exact ⟨rfl, rfl, rfl, ⟨content, rfl⟩, tried, holds, told⟩
  | wrote content found differs writable after printed done =>
    rw [output] at differs
    rw [pollOn_read w.settings ⟨w.disk, w.refusal⟩ found,
      Watch.poll_trial w.settings.options input content _ _ _ differs,
      if_pos (decide_eq_true writable)]
    refine ⟨rfl, rfl, rfl, ⟨content, rfl⟩, ?_, ?_, ?_⟩
    · rw [List.map_append, tried]
      rfl
    · rw [written_done, List.getLast?_concat]
    · rw [written_done]
      exact printed_done done told
  | failed content found differs unwritable fault =>
    rw [output] at differs
    rw [pollOn_read w.settings ⟨w.disk, w.refusal⟩ found,
      Watch.poll_trial w.settings.options input content _ _ _ differs,
      if_neg (by simpa using unwritable)]
    refine ⟨rfl, rfl, rfl, ⟨content, rfl⟩, ?_, ?_, ?_⟩
    · rw [List.map_append, tried]
      rfl
    · rwa [written_failed]
    · rwa [written_failed]

theorem follows_enter (follows : Follows s path w v) (c : Scene) :
    Follows s path (w.enter c) v :=
  ⟨follows.settings, follows.path, follows.live, follows.view, follows.attempts, follows.shown,
    follows.printed⟩

theorem lookOn_looked (follows : Follows s path w v) (c : Scene) :
    Looked (w.enter c) (w.lookOn c) := by
  obtain ⟨input, view⟩ := follows.view
  rw [← follows.live, ← follows.settings] at view
  unfold Watching.lookOn
  exact poll_looked (w.enter c) input view

theorem lookOn_follows (follows : Follows s path w v) (c : Scene) :
    Follows s path (w.lookOn c) (v.poll (pollOn s path c)) := by
  have after := looked_follows (follows_enter follows c) (lookOn_looked follows c)
  have here : (⟨(w.enter c).disk, (w.enter c).refusal⟩ : Scene) = c := rfl
  rwa [here] at after

theorem foldl_follows (follows : Follows s path w v) (scenes : List Scene) :
    Follows s path (scenes.foldl Watching.lookOn w)
      ((scenes.map (pollOn s path)).foldl Watch.poll v) := by
  induction scenes generalizing w v with
  | nil => exact follows
  | cons c scenes ih => exact ih (lookOn_follows follows c)

end Look

/-! ### The start -/

section Start

variable (s : Settings) (world : World) (refusal : Option Fault)

/-- A watch that has just begun: the first text is where it belongs. -/
structure Begun (path content : String) (w : Watching) : Prop where
  follows : Follows s path w (Watch.start s.options content)
  attempts : w.attempts = [⟨delivered (rendered s.options content), none⟩]
  done : Delivered s.output world.disk w.disk w.printed (delivered (rendered s.options content))

theorem startWatch_begun (path content : String) (input : s.inputPath = some path)
    (contents : readFile world.disk path = .ok content)
    (writable : Writable s.output world.disk refusal) :
    ∃ w, startWatch s world refusal = .watching w ∧ Begun s world path content w := by
  simp only [startWatch, input, contents, start_live, Live.of_output]
  rcases deliver_cases s.output world.disk refusal (delivered (rendered s.options content)) with
    ⟨after, printed, delivery, -, done⟩ | ⟨fault, delivery, unwritable⟩
  · rw [delivery]
    refine ⟨_, rfl, ?_, rfl, done⟩
    rw [Watch.start_eq]
    -- nothing has been printed before the first text
    have blank : "" = if s.output.isNone then String.join [] else "" := by
      split <;> rfl
    have told := printed_done done blank
    rw [String.empty_append] at told
    exact ⟨rfl, rfl, rfl, ⟨content, rfl⟩, rfl, rfl, told⟩
  · exact absurd writable unwritable

theorem startWatch_watching (w : Watching) (started : startWatch s world refusal = .watching w) :
    ∃ path content, s.inputPath = some path ∧ readFile world.disk path = .ok content ∧
      Writable s.output world.disk refusal := by
  unfold startWatch at started
  cases input : s.inputPath with
  | none =>
    simp only [input] at started
    contradiction
  | some path =>
    cases contents : readFile world.disk path with
    | error e =>
      simp only [input, contents] at started
      contradiction
    | ok content =>
      refine ⟨path, content, rfl, contents, ?_⟩
      simp only [input, contents] at started
      rcases deliver_cases s.output world.disk refusal
        (delivered (Live.start s.options content).1.output) with
        ⟨after, printed, -, writable, -⟩ | ⟨fault, delivery, -⟩
      · exact writable
      · rw [delivery] at started
        contradiction

theorem run_watch (arguments : List String) (accepted : readArguments arguments = .ok (.run s))
    (asked : s.watch = true) :
    run arguments world refusal = .ok (startWatch s world refusal) := by
  simp only [run, accepted, Except.map, runSettings, asked, if_true]

theorem begun_of_watching (w : Watching) (started : startWatch s world refusal = .watching w) :
    ∃ path content, s.inputPath = some path ∧ readFile world.disk path = .ok content ∧
      Begun s world path content w := by
  obtain ⟨path, content, input, contents, writable⟩ :=
    startWatch_watching s world refusal w started
  obtain ⟨w', started', begun⟩ :=
    startWatch_begun s world refusal path content input contents writable
  cases started.symm.trans started'
  exact ⟨path, content, input, contents, begun⟩

end Start

/-- What a watch that read `content` first has come to behind these scenes, and what comes next. -/
structure Watched (s : Settings) (path content : String) (scenes : List Scene) (w : Watching) :
    Prop where
  attempts : w.attempts.map Attempt.text =
    (((content :: scenes.filterMap (Scene.content path)).map (rendered s.options)).destutter
      (· ≠ ·)).map delivered
  live : w.live = Live.of s.options ((scenes.filterMap (Scene.content path)).getLastD content)
  follows : Follows s path w (Watch.run s.options content (scenes.map (pollOn s path)))
  next : ∀ c, Looked (w.enter c) (w.lookOn c)

theorem foldl_watched (s : Settings) (path content : String) (w : Watching)
    (follows : Follows s path w (Watch.start s.options content)) (scenes : List Scene) :
    Watched s path content scenes (scenes.foldl Watching.lookOn w) := by
  have after := foldl_follows follows scenes
  have run := run_faithful s.options content (scenes.map (pollOn s path))
  have read : (scenes.map (pollOn s path)).filterMap Poll.content =
      scenes.filterMap (Scene.content path) := by
    rw [List.filterMap_map]
    rfl
  refine ⟨?_, ?_, after, lookOn_looked after⟩
  · rw [← read, ← run.attempts]
    exact after.attempts
  · rw [← read]
    exact after.live.trans run.live

/-- A run tries each rendering of what could be read, equal neighbours merged, and shows the last.
A watch of a file is such a run whatever becomes of its disk and its output: from the first text on,
each one that is tried is delivered or fails, and a look that tries none changes nothing but the
view. A watch begins if the file can be read and the first text can be delivered. -/
theorem watch_faithful :
    (∀ (o : Options) (content : String) (polls : List Poll),
      Faithful o content polls (Watch.run o content polls)) ∧
    ∀ (s : Settings) (world : World) (refusal : Option Fault),
      (∀ arguments : List String, readArguments arguments = .ok (.run s) → s.watch = true →
        run arguments world refusal = .ok (startWatch s world refusal)) ∧
      ((∃ w, startWatch s world refusal = .watching w) ↔ ∃ path content,
        s.inputPath = some path ∧ readFile world.disk path = .ok content ∧
          Writable s.output world.disk refusal) ∧
      ∀ w, startWatch s world refusal = .watching w → ∃ path content,
        s.inputPath = some path ∧ readFile world.disk path = .ok content ∧
        Begun s world path content w ∧
        ∀ scenes : List Scene, Watched s path content scenes (scenes.foldl Watching.lookOn w) := by
  refine ⟨run_faithful, fun s world refusal => ⟨run_watch s world refusal, ⟨?_, ?_⟩, ?_⟩⟩
  · rintro ⟨w, started⟩
    exact startWatch_watching s world refusal w started
  · rintro ⟨path, content, input, contents, writable⟩
    obtain ⟨w, started, -⟩ := startWatch_begun s world refusal path content input contents writable
    exact ⟨w, started⟩
  · intro w started
    obtain ⟨path, content, input, contents, begun⟩ :=
      begun_of_watching s world refusal w started
    exact ⟨path, content, input, contents, begun, foldl_watched s path content w begun.follows⟩

def pageDisk (page : String) : Disk := ⟨[(["page"], .file page.toUTF8)]⟩

def pageAndOutput (page output : String) : Disk :=
  ⟨[(["page"], .file page.toUTF8), (["out"], .file output.toUTF8)]⟩

def toScreen : Settings := { input := some "page", watch := true }

def toFile : Settings := { toScreen with output := some "out" }

/-- The page is lost, comes back with another letter, gets a blank behind it, and then a third
letter. -/
def pageScenes : List Scene :=
  [⟨.empty, none⟩, ⟨pageDisk "b", none⟩, ⟨pageDisk "b ", none⟩, ⟨pageDisk "c", none⟩]

/-- The same, while the output keeps what was written first, and refuses the second text. -/
def outputScenes : List Scene :=
  [⟨⟨[(["out"], .file "\"a\"\n".toUTF8)]⟩, none⟩,
    ⟨pageAndOutput "b" "\"a\"\n", some (.other "Permission denied (os error 13)")⟩,
    ⟨pageAndOutput "b " "\"a\"\n", none⟩, ⟨pageAndOutput "c" "\"a\"\n", none⟩]

def begunOn (s : Settings) (disk : Disk) (printed : String) : Watching where
  settings := s
  path := "page"
  live := Live.of {} "a"
  disk := disk
  refusal := none
  printed := printed
  attempts := [⟨delivered (rendered {} "a"), none⟩]

theorem watch_faithful_page :
    (∃ w, run ["page", "--watch"] ⟨pageDisk "a", .empty⟩ = .ok (.watching w) ∧
      (pageScenes.foldl Watching.lookOn w).live.input = "c" ∧
      (pageScenes.foldl Watching.lookOn w).printed = "\"a\"\n\"b\"\n\"c\"\n") ∧
    ∃ w, run ["--watch", "-o", "out", "page"] ⟨pageDisk "a", .empty⟩ = .ok (.watching w) ∧
      w.disk.read "out" = .ok "\"a\"\n".toUTF8 ∧
      (outputScenes.foldl Watching.lookOn w).attempts.map Attempt.text =
        ["\"a\"\n", "\"b\"\n", "\"c\"\n"] ∧
      written (outputScenes.foldl Watching.lookOn w).attempts = ["\"a\"\n", "\"c\"\n"] ∧
      (outputScenes.foldl Watching.lookOn w).disk.read "out" = .ok "\"c\"\n".toUTF8 ∧
      (outputScenes.foldl Watching.lookOn w).printed = "" := by
  have contents : readFile (pageDisk "a") "page" = .ok "a" := rfl
  have text : delivered (rendered {} "a") = "\"a\"\n" := by decide +kernel
  have input : toScreen.inputPath = some "page" := by decide
  have input' : toFile.inputPath = some "page" := by decide
  constructor
  · have started : startWatch toScreen ⟨pageDisk "a", .empty⟩ none =
        .watching (begunOn toScreen (pageDisk "a") (delivered (rendered {} "a"))) := by
      simp only [startWatch, input, contents, start_live]
      rfl
    obtain ⟨runs, -, follows⟩ := watch_faithful.2 toScreen ⟨pageDisk "a", .empty⟩ none
    obtain ⟨path, content, same, contents', -, later⟩ := follows _ started
    cases Option.some.inj (input.symm.trans same)
    cases Except.ok.inj (contents.symm.trans contents')
    refine ⟨_, (runs _ rfl rfl).trans (congrArg _ started), ?_, ?_⟩
    · rw [(later pageScenes).live]
      decide +kernel
    · rw [(later pageScenes).follows.printed]
      decide +kernel
  · have started : startWatch toFile ⟨pageDisk "a", .empty⟩ none =
        .watching (begunOn toFile
          ((pageDisk "a").put ["out"] (delivered (rendered {} "a")).toUTF8) "") := by
      simp only [startWatch, input', contents, start_live]
      rfl
    obtain ⟨runs, -, follows⟩ := watch_faithful.2 toFile ⟨pageDisk "a", .empty⟩ none
    obtain ⟨path, content, same, contents', begun, later⟩ := follows _ started
    cases Option.some.inj (input'.symm.trans same)
    cases Except.ok.inj (contents.symm.trans contents')
    refine ⟨_, (runs _ rfl rfl).trans (congrArg _ started), ?_, ?_, ?_, ?_, ?_⟩
    · rw [← text]
      exact begun.done.2.1
    · rw [(later outputScenes).attempts]
      decide +kernel
    · decide +kernel
    · decide +kernel
    · exact (later outputScenes).follows.printed

end SymbolMarkup.CommandLine
