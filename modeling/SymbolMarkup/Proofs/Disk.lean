import SymbolMarkup.CommandLine.Disk

/-! What writing a file does to a disk. The file is found under the path that it was written to, and
no other place changes. A path leads where it led before, since a file is never written in the place
of a directory. -/
namespace SymbolMarkup.CommandLine.Disk

theorem lookup_past {k name : Location} (other : k ≠ name) (e : Entry)
    (rest : List (Location × Entry)) : ((name, e) :: rest).lookup k = rest.lookup k := by
  rw [List.lookup_cons, beq_eq_false_iff_ne.mpr other]

theorem lookup_replaced (entries : List (Location × Entry)) (l k : Location) (e : Entry) :
    (entries.map fun old => if old.1 = l then (l, e) else old).lookup k =
      if k = l then (entries.lookup k).map fun _ => e else entries.lookup k := by
  induction entries with
  | nil => simp
  | cons old rest ih =>
    obtain ⟨name, entry⟩ := old
    rw [List.map_cons]
    by_cases same : k = name
    · subst same
      by_cases there : k = l <;> simp [there]
    · rw [lookup_past same, ← ih]
      by_cases there : name = l
      · subst there
        rw [if_pos rfl, lookup_past same]
      · rw [if_neg there, lookup_past same]

theorem lookup_put (d : Disk) (l k : Location) (bytes : ByteArray) :
    (d.put l bytes).entries.lookup k =
      if k = l then some (.file bytes) else d.entries.lookup k := by
  unfold put
  split
  · rename_i present
    obtain ⟨old, there⟩ := Option.isSome_iff_exists.mp present
    rw [lookup_replaced]
    split
    · rename_i same
      rw [same, there, Option.map_some]
    · rfl
  · rename_i missing
    rw [List.lookup_append]
    by_cases same : k = l
    · subst same
      simp [Option.not_isSome_iff_eq_none.mp missing]
    · rw [if_neg same, lookup_past same, List.lookup_nil, Option.or_none]

theorem entry?_put_self (d : Disk) (l : Location) (bytes : ByteArray)
    (below : l.isAbove = false) : entry? (d.put l bytes) l = some (.file bytes) := by
  unfold entry?
  rw [below, if_neg Bool.false_ne_true, lookup_put, if_pos rfl]

theorem entry?_put_other (d : Disk) (l k : Location) (bytes : ByteArray) (other : k ≠ l) :
    entry? (d.put l bytes) k = d.entry? k := by
  unfold entry?
  rw [lookup_put, if_neg other]

def Short (l : Location) : Prop := ∀ name ∈ l, name.utf8ByteSize ≤ 255

instance (l : Location) : Decidable (Short l) :=
  inferInstanceAs (Decidable (∀ name ∈ l, name.utf8ByteSize ≤ 255))

theorem find_long (d : Disk) (l : Location) (long : ¬ Short l) :
    d.find l = .error .nameTooLong := by
  rw [find, if_pos]
  simpa [Short] using long

theorem find_short (d : Disk) (l : Location) (there : Option Entry) (short : Short l)
    (found : d.entry? l = there) : d.find l = there.elim (.error .notFound) .ok := by
  rw [find, found, if_neg]
  · cases there <;> rfl
  · simpa [Short] using short

theorem find_eq_ok_iff (d : Disk) (l : Location) (e : Entry) :
    d.find l = .ok e ↔ Short l ∧ d.entry? l = some e := by
  by_cases short : Short l
  · rw [find_short d l _ short rfl]
    cases d.entry? l <;> simp [short]
  · rw [find_long d l short]
    simp [short]

theorem target_of_name (d : Disk) (path : String) (k : Location)
    (place : d.locate path = .ok (.name k false)) :
    d.target path = .ok k ↔ Short k ∧ d.entry? k ≠ some .directory := by
  simp only [target, place, bind, Except.bind, Bool.false_eq_true, if_false]
  by_cases short : Short k
  · rw [find_short d k _ short rfl]
    cases d.entry? k with
    | none => simp [short]
    | some e => cases e <;> simp [short]
  · rw [find_long d k short]
    simp [short]

theorem locate_of_target (d : Disk) (path : String) (l : Location)
    (writable : d.target path = .ok l) : d.locate path = .ok (.name l false) := by
  unfold target at writable
  cases place : d.locate path with
  | error fault =>
    rw [place] at writable
    contradiction
  | ok there =>
    rw [place] at writable
    cases there with
    | directory k => contradiction
    | name k slash =>
      cases slash with
      | true => contradiction
      | false =>
        -- what has the name decides whether it can be written to, not where it is
        simp only [bind, Except.bind, Bool.false_eq_true, if_false] at writable
        split at writable
        · contradiction
        · contradiction
        · rw [Except.ok.inj writable]

/-- The path leads to a name in a directory that is there, and no directory has the name. -/
theorem target_eq_ok_iff (d : Disk) (path : String) (l : Location) :
    d.target path = .ok l ↔
      d.locate path = .ok (.name l false) ∧ Short l ∧ d.entry? l ≠ some .directory := by
  constructor
  · intro writable
    have place := locate_of_target d path l writable
    exact ⟨place, (target_of_name d path l place).mp writable⟩
  · rintro ⟨place, free⟩
    exact (target_of_name d path l place).mpr free

/-! ### Paths on a disk that has been written to -/

def KeepsDirectories (d d' : Disk) : Prop :=
  ∀ l, d.find l = .ok .directory → d'.find l = .ok .directory

theorem put_keepsDirectories (d : Disk) (l : Location) (bytes : ByteArray)
    (free : d.entry? l ≠ some .directory) : d.KeepsDirectories (d.put l bytes) := by
  intro k found
  obtain ⟨short, there⟩ := (find_eq_ok_iff d k .directory).mp found
  have other : k ≠ l := fun same => free (same ▸ there)
  have still := (entry?_put_other d l k bytes other).trans there
  exact (find_eq_ok_iff _ k .directory).mpr ⟨short, still⟩

theorem enter_kept (d d' : Disk) (keeps : d.KeepsDirectories d') (parts : List String)
    (here there : Location) (entered : d.enter here parts = .ok there) :
    d'.enter here parts = .ok there := by
  induction parts generalizing here with
  | nil => exact entered
  | cons part rest ih =>
    rw [enter] at entered ⊢
    split at entered
    · rename_i back
      rw [if_pos back]
      exact ih _ entered
    · rename_i down
      rw [if_neg down]
      split at entered
      · contradiction
      · contradiction
      · rename_i found
        rw [keeps _ found]
        exact ih _ entered

theorem map_enter_kept (d d' : Disk) (keeps : d.KeepsDirectories d') (parts : List String)
    (here : Location) (f : Location → Place) (place : Place)
    (found : (d.enter here parts).map f = .ok place) :
    (d'.enter here parts).map f = .ok place := by
  cases entered : d.enter here parts with
  | error fault =>
    rw [entered] at found
    contradiction
  | ok there =>
    rw [enter_kept d d' keeps parts here there entered]
    rwa [entered] at found

theorem locate_kept (d d' : Disk) (keeps : d.KeepsDirectories d') (path : String) (place : Place)
    (found : d.locate path = .ok place) : d'.locate path = .ok place := by
  simp only [locate] at found ⊢
  split at found
  · contradiction
  · rename_i fits
    rw [if_neg fits]
    split at found
    · exact found
    · split at found
      · rename_i dots
        rw [if_pos dots]
        exact map_enter_kept d d' keeps _ _ _ place found
      · rename_i named
        rw [if_neg named]
        exact map_enter_kept d d' keeps _ _ _ place found

theorem read_of_name (d : Disk) (path : String) (l : Location) (bytes : ByteArray)
    (place : d.locate path = .ok (.name l false)) (short : Short l)
    (there : d.entry? l = some (.file bytes)) : d.read path = .ok bytes := by
  have found := (find_eq_ok_iff d l (.file bytes)).mpr ⟨short, there⟩
  simp only [read, place, found, bind, Except.bind, Bool.false_eq_true, if_false]

theorem read_put (d : Disk) (path : String) (l : Location) (bytes : ByteArray)
    (writable : d.target path = .ok l) : (d.put l bytes).read path = .ok bytes := by
  obtain ⟨place, short, free⟩ := (target_eq_ok_iff d path l).mp writable
  have keeps := put_keepsDirectories d l bytes free
  -- the places above the working directory are directories, so no file goes there
  have below : l.isAbove = false := by
    rw [← Bool.not_eq_true]
    exact fun above => free (if_pos above)
  exact read_of_name _ path l bytes (locate_kept d _ keeps path _ place) short
    (entry?_put_self d l bytes below)

end SymbolMarkup.CommandLine.Disk
