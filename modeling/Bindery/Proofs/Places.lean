import Bindery.Output.FileSystem
import Bindery.Proofs.Scope

/-!
# Where paths lead

Reading and writing follow a path to a place. Which place that is depends on the directories alone
and on what they refuse, and writing a file changes neither. So a path leads to the same place
before and after other files are written, and can be written to before if and only if it can be
after.

**Following.** Each component is taken in a directory that can be read (`follow_cons_eq_ok_iff`).
What a path leads to is therefore the same in two file systems with the same directories and
refusals (`SameTree.locate_eq_ok_iff`).

**Writing.** A path can be written to if it leads to a place that is no directory, by way of its
last component, and that place does not refuse it (`target_eq_ok_iff`). That place alone changes
(`entry?_of_write`).

Main results: `SameTree.target_eq_ok_iff` and `write_eq_ok_iff`.
-/

namespace Bindery.FileSystem

/-- The file systems have the same directories, and refuse the same. -/
structure SameTree (fs fs' : FileSystem) : Prop where
  current : fs'.current = fs.current
  refusals : fs'.refusals = fs.refusals
  directory : ∀ location,
    fs'.entry? location = some .directory ↔ fs.entry? location = some .directory

variable {fs fs' : FileSystem} {path : String} {location : Location} {access : Access}

/-! ## Entries -/

theorem lookup_filter_ne {entries : List (Location × Entry)} {other : Location}
    (h : other ≠ location) :
    (entries.filter (·.1 != location)).lookup other = entries.lookup other := by
  induction entries with
  | nil => rfl
  | cons entry rest ih =>
    obtain ⟨place, content⟩ := entry
    by_cases hplace : place = location
    · have hother : (other == location) = false := by simp [h]
      simp [List.lookup_cons, hplace, hother, ih]
    · simp [List.lookup_cons, hplace, ih]

theorem entry?_set (h : location ≠ []) (entry : Entry) (other : Location) :
    entry? (fs.set location entry) other =
      if other = location then some entry else fs.entry? other := by
  by_cases hother : other = location
  · simp [hother, entry?, set, h]
  · rw [if_neg hother]
    unfold entry? set
    have hbeq : (other == location) = false := by simp [hother]
    rw [List.lookup_cons, hbeq]
    simp only [lookup_filter_ne hother]

theorem SameTree.refl (fs : FileSystem) : SameTree fs fs :=
  ⟨rfl, rfl, fun _ => Iff.rfl⟩

theorem SameTree.symm (h : SameTree fs fs') : SameTree fs' fs :=
  ⟨h.current.symm, h.refusals.symm, fun location => (h.directory location).symm⟩

theorem SameTree.trans {fs'' : FileSystem} (h : SameTree fs fs') (h' : SameTree fs' fs'') :
    SameTree fs fs'' :=
  ⟨h'.current.trans h.current, h'.refusals.trans h.refusals, fun location =>
    (h'.directory location).trans (h.directory location)⟩

theorem SameTree.permit (h : SameTree fs fs') :
    fs'.permit access location = fs.permit access location := by
  rw [FileSystem.permit, FileSystem.permit, h.refusals]

/-! ## Following -/

/-- Where one component leads. -/
def advance (location : Location) (name : String) : Location :=
  if name = "" || name = "." then location
  else if name = ".." then location.dropLast
  else location ++ [name]

theorem follow_cons_eq_ok_iff {start : Location} {name : String} {names : List String} :
    fs.follow start (name :: names) = .ok location ↔
      fs.entry? start = some .directory ∧ fs.permit .reading start = .ok () ∧
        name.utf8ByteSize ≤ maxNameSize ∧ fs.follow (advance start name) names = .ok location := by
  rw [follow]
  cases hentry : fs.entry? start with
  | none => simp
  | some entry =>
    cases entry with
    | file content => simp
    | directory =>
      have hnext : (if name.utf8ByteSize > maxNameSize then .error .nameTooLong
          else if name = "" || name = "." then fs.follow start names
          else if name = ".." then fs.follow start.dropLast names
          else fs.follow (start ++ [name]) names) = Except.ok location ↔
          name.utf8ByteSize ≤ maxNameSize ∧
          fs.follow (advance start name) names = .ok location := by
        by_cases hsize : name.utf8ByteSize > maxNameSize
        · simp [hsize, Nat.not_le.mpr hsize]
        · have hle : name.utf8ByteSize ≤ maxNameSize := Nat.not_lt.mp hsize
          simp only [if_neg hsize, hle, true_and, advance]
          split_ifs <;> rfl
      rw [then_eq_ok_iff, hnext]
      simp

theorem follow_append {start : Location} {names names' : List String} :
    fs.follow start (names ++ names') = .ok location ↔
      ∃ place, fs.follow start names = .ok place ∧ fs.follow place names' = .ok location := by
  induction names generalizing start with
  | nil => simp [follow]
  | cons name names ih =>
    simp only [List.cons_append, follow_cons_eq_ok_iff, ih]
    constructor
    · intro ⟨hstart, hopen, hsize, place, hplace, hlast⟩
      exact ⟨place, ⟨hstart, hopen, hsize, hplace⟩, hlast⟩
    · intro ⟨place, ⟨hstart, hopen, hsize, hplace⟩, hlast⟩
      exact ⟨hstart, hopen, hsize, place, hplace, hlast⟩

theorem SameTree.follow (h : SameTree fs fs') {start : Location} {names : List String}
    (hfollow : fs.follow start names = .ok location) :
    fs'.follow start names = .ok location := by
  induction names generalizing start with
  | nil => exact hfollow
  | cons name names ih =>
    obtain ⟨hstart, hopen, hsize, hrest⟩ := follow_cons_eq_ok_iff.mp hfollow
    exact follow_cons_eq_ok_iff.mpr
      ⟨(h.directory start).mpr hstart, h.permit.trans hopen, hsize, ih hrest⟩

theorem locate_eq_ok_iff : fs.locate path = .ok location ↔
    checkPath path = .ok () ∧ fs.follow (fs.origin path) (components path) = .ok location := by
  rw [locate, then_eq_ok_iff]

theorem SameTree.origin (h : SameTree fs fs') (path : String) :
    fs'.origin path = fs.origin path := by
  rw [FileSystem.origin, FileSystem.origin, h.current]

theorem SameTree.locate (h : SameTree fs fs') (hlocate : fs.locate path = .ok location) :
    fs'.locate path = .ok location := by
  obtain ⟨hpath, hfollow⟩ := locate_eq_ok_iff.mp hlocate
  refine locate_eq_ok_iff.mpr ⟨hpath, ?_⟩
  rw [h.origin]
  exact h.follow hfollow

/-- **Following.** Paths lead to the same places if the directories are the same. -/
theorem SameTree.locate_eq_ok_iff (h : SameTree fs fs') :
    fs'.locate path = .ok location ↔ fs.locate path = .ok location :=
  ⟨h.symm.locate, h.locate⟩

/-- What is read is the file that the path leads to. -/
theorem readBytes_eq_ok_iff {content : Bytes} : fs.readBytes path = .ok content ↔
    ∃ location, fs.locate path = .ok location ∧ fs.entry? location = some (.file content) := by
  rw [readBytes, chain_eq_ok_iff]
  refine exists_congr fun location => and_congr_right fun _ => ?_
  split
  · rename_i hentry
    simp [hentry, throw, throwThe, MonadExceptOf.throw]
  · rename_i hentry
    simp [hentry, throw, throwThe, MonadExceptOf.throw]
  · rename_i held hentry
    simp [hentry, pure, Except.pure]

/-! ## Writing -/

/-- The components of a path, less the empty ones at its end. -/
def named (path : String) : List String :=
  ((components path).reverse.dropWhile (· == "")).reverse

/-- A step that refuses under a condition and else goes on. -/
theorem refuse_eq_ok_iff {α β ε : Type} {P : Prop} [Decidable P] {e : ε} {f : α → Except ε β}
    {next : Except ε β} {b : β} :
    (if P then throw e >>= f else next) = .ok b ↔ ¬P ∧ next = .ok b := by
  by_cases h : P
  · rw [if_pos h]
    constructor
    · intro hthrow
      cases hthrow
    · intro hnot
      exact absurd h hnot.1
  · rw [if_neg h]
    exact ⟨fun hnext => ⟨h, hnext⟩, fun hnext => hnext.2⟩

/-- What a path has to be for its last component to be written in its directory. -/
theorem target_eq_ok_iff : fs.target path = .ok location ↔
    checkPath path = .ok () ∧ ∃ last directory, (named path).getLast? = some last ∧
      fs.follow (fs.origin path) ((named path).dropLast ++ ["."]) = .ok directory ∧
      ((last ≠ "." ∧ last ≠ "..") ∧ (components path).length ≤ (named path).length) ∧
      last.utf8ByteSize ≤ maxNameSize ∧ fs.entry? (directory ++ [last]) ≠ some .directory ∧
      fs.permit .writing (directory ++ [last]) = .ok () ∧ location = directory ++ [last] := by
  simp only [target, chain_eq_ok_iff, named]
  cases ((components path).reverse.dropWhile (· == "")).reverse.getLast? with
  | none => simp [throw, throwThe, MonadExceptOf.throw]
  | some last =>
    simp only [chain_eq_ok_iff, refuse_eq_ok_iff, Bool.or_eq_true, decide_eq_true_eq, not_or,
      Nat.not_lt, gt_iff_lt]
    constructor
    · intro ⟨_, hpath, directory, hfollow, hlast, hsize, hentry, _, hopen, hlocation⟩
      exact ⟨hpath, last, directory, rfl, hfollow, hlast, hsize, hentry, hopen,
        (Except.ok.inj hlocation).symm⟩
    · intro ⟨hpath, _, directory, hsome, hfollow, hlast, hsize, hentry, hopen, hlocation⟩
      obtain rfl := Option.some.inj hsome
      exact ⟨(), hpath, directory, hfollow, hlast, hsize, hentry, (), hopen,
        congrArg Except.ok hlocation.symm⟩

theorem SameTree.target (h : SameTree fs fs') (htarget : fs.target path = .ok location) :
    fs'.target path = .ok location := by
  obtain ⟨hpath, last, directory, hsome, hfollow, hlast, hsize, hentry, hopen, hlocation⟩ :=
    target_eq_ok_iff.mp htarget
  refine target_eq_ok_iff.mpr
    ⟨hpath, last, directory, hsome, ?_, hlast, hsize, ?_, h.permit.trans hopen, hlocation⟩
  · rw [h.origin]
    exact h.follow hfollow
  · intro hdirectory
    exact hentry ((h.directory _).mp hdirectory)

/-- **Writing.** The same paths can be written to if the directories are the same. -/
theorem SameTree.target_eq_ok_iff (h : SameTree fs fs') :
    fs'.target path = .ok location ↔ fs.target path = .ok location :=
  ⟨h.symm.target, h.target⟩

theorem named_isPrefix (path : String) : named path <+: components path := by
  have hsuffix := List.dropWhile_suffix (l := (components path).reverse) (· == "")
  have hprefix := List.reverse_prefix.mpr hsuffix
  rwa [List.reverse_reverse] at hprefix

theorem ne_empty_of_getLast?_named {last : String} (h : (named path).getLast? = some last) :
    last ≠ "" := by
  rw [named, List.getLast?_reverse] at h
  have hhead := List.head?_dropWhile_not (· == "") (components path).reverse
  rw [h] at hhead
  simpa using hhead

/-- A path that can be written to leads to where it is written. -/
theorem locate_of_target (h : fs.target path = .ok location) : fs.locate path = .ok location := by
  obtain ⟨hpath, last, directory, hsome, hfollow, ⟨⟨hdot, hdots⟩, hlength⟩, hsize, -, -, rfl⟩ :=
    target_eq_ok_iff.mp h
  refine locate_eq_ok_iff.mpr ⟨hpath, ?_⟩
  obtain ⟨place, hplace, hhere⟩ := follow_append.mp hfollow
  obtain ⟨hentry, hopen, -, hdirectory⟩ := follow_cons_eq_ok_iff.mp hhere
  have hsame : place = directory := Except.ok.inj hdirectory
  -- No empty component stands at the end, so the last one is that of the whole path.
  have hall : components path = (named path).dropLast ++ [last] := by
    rw [← (named_isPrefix path).eq_of_length_le hlength]
    exact (List.dropLast_append_getLast? last hsome).symm
  have hadvance : advance directory last = directory ++ [last] := by
    simp [advance, ne_empty_of_getLast?_named hsome, hdot, hdots]
  rw [hall]
  refine follow_append.mpr ⟨place, hplace, follow_cons_eq_ok_iff.mpr ⟨hentry, hopen, hsize, ?_⟩⟩
  rw [hsame, hadvance]
  rfl

theorem ne_nil_of_target (h : fs.target path = .ok location) : location ≠ [] := by
  obtain ⟨-, last, directory, -, -, -, -, -, -, rfl⟩ := target_eq_ok_iff.mp h
  simp

theorem entry?_of_target (h : fs.target path = .ok location) :
    fs.entry? location ≠ some .directory := by
  obtain ⟨-, last, directory, -, -, -, -, hentry, -, rfl⟩ := target_eq_ok_iff.mp h
  exact hentry

theorem write_eq_ok_iff {text : String} : fs.write path text = .ok fs' ↔
    ∃ location, fs.target path = .ok location ∧ fs' = fs.set location (.file (Wire.utf8 text)) := by
  rw [write, chain_eq_ok_iff]
  constructor
  · intro ⟨location, htarget, hset⟩
    exact ⟨location, htarget, (Except.ok.inj hset).symm⟩
  · intro ⟨location, htarget, hset⟩
    exact ⟨location, htarget, congrArg Except.ok hset.symm⟩

/-- The place that a path leads to holds the text, and all others hold what they did. -/
theorem entry?_of_write (h : fs.target path = .ok location) (content : Bytes) (other : Location) :
    entry? (fs.set location (.file content)) other =
      if other = location then some (.file content) else fs.entry? other :=
  entry?_set (ne_nil_of_target h) _ other

theorem sameTree_of_write (h : fs.target path = .ok location) (content : Bytes) :
    SameTree fs (fs.set location (.file content)) := by
  refine ⟨rfl, rfl, fun other => ?_⟩
  rw [entry?_of_write h]
  by_cases hother : other = location
  · simp [hother, entry?_of_target h]
  · rw [if_neg hother]

end Bindery.FileSystem
