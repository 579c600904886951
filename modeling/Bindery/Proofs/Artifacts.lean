import Bindery.Proofs.Canonical
import Bindery.Proofs.CppHygiene
import Bindery.Proofs.Loading
import Bindery.Proofs.Running

/-!
# What a run without failures leaves

Output paths are up to the user's templates, and nothing keeps two of them from leading to the same
file, or to an input file. Files are then overwritten without a word. This module says what is there
after a run in which nothing failed.

**Documents and artifacts.** What is written starts as a comment, which no document does
(`parse_ne_ok_of_isArtifact`). So a file that was overwritten does not load any more, and in a run
without failures every input file was still as at the start when its turn came (`Overlaid.load`).

**Who comes last.** Each file and role therefore writes what it would have written at the start, and
a place holds what was written there last (`Completes.written_last`).

Main results: `artifacts_delivered`, and `echo_overwritten` for what can go wrong.
-/

namespace Bindery

/-! ## Documents and artifacts -/

/-- The text starts like a comment. -/
def IsArtifact (text : String) : Prop :=
  text.toList.head? = some '/'

theorem Emitter.isArtifact (emitter : Emitter) (input code : String) :
    IsArtifact (emitter.banner input ++ code) := by
  have hmark : emitter.language.commentMark = "//" := by
    cases emitter.language <;> rfl
  simp [IsArtifact, banner, hmark]

theorem parse_ne_ok_of_isArtifact {text : String} (h : IsArtifact text)
    (definitions : Definitions) : Definitions.parse text ≠ .ok definitions := by
  obtain ⟨rest, hrest⟩ := List.head?_eq_some_iff.mp h
  have hread : Document.Value.read? text = none := by
    rw [Document.Value.read?, hrest, Document.Value.readFrom]
    split
    · rfl
    · rename_i hsome
      cases (Document.Token.next?_slash rest).symm.trans hsome
  rw [Definitions.parse, Document.readInterfaces?, hread]
  intro hparse
  cases hparse

theorem utf8_injective : Function.Injective Wire.utf8 := by
  intro text text' h
  have hread := congrArg Wire.ofUtf8? h
  rwa [Wire.Decoder.ofUtf8?_utf8, Wire.Decoder.ofUtf8?_utf8, Option.some.injEq] at hread

namespace FileSystem

variable {files files' : FileSystem} {path : String}

/-- The paths lead to the same place. -/
def SameFile (files : FileSystem) (path path' : String) : Prop :=
  ∃ location, files.locate path = .ok location ∧ files.locate path' = .ok location

theorem read_eq_ok_iff {text : String} : files.read path = .ok text ↔
    ∃ location, files.locate path = .ok location ∧
      files.entry? location = some (.file (Wire.utf8 text)) := by
  rw [← readBytes_eq_ok_iff, read, chain_eq_ok_iff]
  constructor
  · intro ⟨bytes, hbytes, htext⟩
    cases hdecoded : Wire.ofUtf8? bytes with
    | none => simp [hdecoded, throw, throwThe, MonadExceptOf.throw] at htext
    | some decoded =>
      rw [hdecoded] at htext
      obtain rfl : decoded = text := Except.ok.inj htext
      rwa [Wire.Decoder.utf8_of_ofUtf8? hdecoded]
  · intro hbytes
    refine ⟨_, hbytes, ?_⟩
    rw [Wire.Decoder.ofUtf8?_utf8]
    rfl

/-- What is fetched is the content of a file that can be read. -/
theorem fetch_eq_ok_iff {text : String} : files.fetch path = .ok text ↔
    ∃ location, files.locate path = .ok location ∧ files.permit .reading location = .ok () ∧
      files.entry? location = some (.file (Wire.utf8 text)) := by
  rw [fetch, chain_eq_ok_iff]
  refine exists_congr fun location => and_congr_right fun hlocate => ?_
  cases hentry : files.entry? location with
  | none =>
    have hread : files.read path ≠ .ok text := by
      simp [read_eq_ok_iff, hlocate, hentry]
    simpa using hread
  | some entry =>
    have hread : files.read path = .ok text ↔ entry = .file (Wire.utf8 text) := by
      simp [read_eq_ok_iff, hlocate, hentry]
    rw [Option.isSome_some, if_pos rfl, then_eq_ok_iff, hread, Option.some.injEq]

theorem load_eq_ok_iff {input : String} {definitions : Definitions} :
    files.load input = .ok definitions ↔
      ∃ text, files.fetch input = .ok text ∧ Definitions.parse text = .ok definitions := by
  unfold load
  cases files.fetch input with
  | error cause => simp
  | ok text => simp

/-- The second file system is the first, with artifacts in some places. -/
structure Overlaid (files files' : FileSystem) : Prop where
  tree : files.SameTree files'
  entry : ∀ location, files'.entry? location = files.entry? location ∨
    ∃ text, IsArtifact text ∧ files'.entry? location = some (.file (Wire.utf8 text))

theorem Overlaid.refl (files : FileSystem) : Overlaid files files :=
  ⟨.refl files, fun _ => .inl rfl⟩

/-- What loads was there from the start. -/
theorem Overlaid.load (h : Overlaid files files') {input : String} {definitions : Definitions}
    (hload : files'.load input = .ok definitions) : files.load input = .ok definitions := by
  obtain ⟨text, hfetch, hparse⟩ := load_eq_ok_iff.mp hload
  obtain ⟨location, hlocate, hopen, hentry⟩ := fetch_eq_ok_iff.mp hfetch
  refine load_eq_ok_iff.mpr ⟨text, fetch_eq_ok_iff.mpr ⟨location, ?_, ?_, ?_⟩, hparse⟩
  · exact h.tree.locate_eq_ok_iff.mp hlocate
  · exact h.tree.permit.symm.trans hopen
  · -- An artifact at the place would not have been read as a document.
    obtain hsame | ⟨text', hartifact, hentry'⟩ := h.entry location
    · exact hsame.symm.trans hentry
    · have hbytes : Wire.utf8 text = Wire.utf8 text' := by
        simpa using hentry.symm.trans hentry'
      have htext := utf8_injective hbytes
      exact absurd hparse (parse_ne_ok_of_isArtifact (htext ▸ hartifact) definitions)

end FileSystem

/-! ## One visit -/

namespace Emitter

variable {emitter : Emitter} {files : FileSystem} {visit : Visit} {location : Location}

/-- A place holds after a visit what the server puts there, else what the client does, else what it
held before. What they put is seen from `files`. -/
def Settles (emitter : Emitter) (files before : FileSystem) (input : String) (after : FileSystem)
    (location : Location) : Prop :=
  (∃ role text, emitter.Puts files input role location text ∧
    (role = .client → ∀ text', ¬emitter.Puts files input .server location text') ∧
    after.entry? location = some (.file (Wire.utf8 text))) ∨
  ((∀ role text, ¬emitter.Puts files input role location text) ∧
    after.entry? location = before.entry? location)

theorem Accounts.settles (h : emitter.Accounts visit) (location : Location) :
    emitter.Settles visit.before visit.before visit.input visit.after location := by
  by_cases hserver : ∃ text, emitter.Puts visit.before visit.input .server location text
  · obtain ⟨text, hputs⟩ := hserver
    exact .inl ⟨.server, text, hputs, nofun, h.emitted .server location text hputs nofun⟩
  · have hserver' := not_exists.mp hserver
    by_cases hclient : ∃ text, emitter.Puts visit.before visit.input .client location text
    · obtain ⟨text, hputs⟩ := hclient
      exact .inl ⟨.client, text, hputs, fun _ => hserver',
        h.emitted .client location text hputs fun text' _ => hserver' text'⟩
    · have hnone : ∀ role text, ¬emitter.Puts visit.before visit.input role location text := by
        intro role
        cases role with
        | client => exact not_exists.mp hclient
        | server => exact hserver'
      exact .inr ⟨hnone, h.frame location hnone⟩

theorem Puts.isArtifact {input : String} {role : Role} {text : String}
    (h : emitter.Puts files input role location text) : IsArtifact text := by
  obtain ⟨-, code, -, -, -, rfl⟩ := h
  exact emitter.isArtifact input code

theorem Puts.locate {input : String} {role : Role} {text : String}
    (h : emitter.Puts files input role location text) :
    files.locate (emitter.outputPath input role) = .ok location := by
  obtain ⟨-, -, -, -, htarget, -⟩ := h
  exact FileSystem.locate_of_target htarget

/-- A file and role write one text. -/
theorem Puts.text_eq {input : String} {role : Role} {location' : Location} {text text' : String}
    (h : emitter.Puts files input role location text)
    (h' : emitter.Puts files input role location' text') : text' = text := by
  obtain ⟨definitions, code, hload, hcode, -, rfl⟩ := h
  obtain ⟨definitions', code', hload', hcode', -, rfl⟩ := h'
  obtain rfl := Except.ok.inj (hload.symm.trans hload')
  rw [Except.ok.inj (hcode.symm.trans hcode')]

theorem Emits.load {input : String} {role : Role} (h : emitter.Emits files input role) :
    ∃ definitions, files.load input = .ok definitions := by
  obtain ⟨-, -, definitions, -, hload, -⟩ := h
  exact ⟨definitions, hload⟩

theorem Accounts.overlaid (h : emitter.Accounts visit) (hover : files.Overlaid visit.before) :
    files.Overlaid visit.after := by
  refine ⟨hover.tree.trans h.sameTree, ?_⟩
  intro location
  obtain ⟨role, text, hputs, -, hentry⟩ | ⟨-, hentry⟩ := h.settles location
  · exact .inr ⟨text, hputs.isArtifact, hentry⟩
  · rw [hentry]
    exact hover.entry location

theorem Accounts.emits (h : emitter.Accounts visit) (hok : visit.succeeded = true) (role : Role) :
    emitter.Emits visit.before visit.input role := by
  by_contra hemits
  have hfailed := h.failed_iff.mpr (.inr ⟨role, hemits⟩)
  cases hok.symm.trans hfailed

/-- A visit that succeeds puts what it would have put at the start. -/
theorem Accounts.puts_iff (h : emitter.Accounts visit) (hok : visit.succeeded = true)
    (hover : files.Overlaid visit.before) {role : Role} {text : String} :
    emitter.Puts visit.before visit.input role location text ↔
      emitter.Puts files visit.input role location text := by
  obtain ⟨definitions, hload⟩ := (h.emits hok role).load
  rw [puts_iff_of_load hload, puts_iff_of_load (hover.load hload)]
  simp only [hover.tree.target_eq_ok_iff]

/-! ## All visits -/

/-- A visit to an input file that writes both roles as it would have at the start. -/
structure Deposits (emitter : Emitter) (files before : FileSystem) (input : String)
    (after : FileSystem) : Prop where
  emits : ∀ role, emitter.Emits files input role
  settles : ∀ location, emitter.Settles files before input after location

/-- Visits to input files that all write as they would have at the start. -/
inductive Completes (emitter : Emitter) (files : FileSystem) :
    FileSystem → List String → FileSystem → Prop where
  | nil (finish : FileSystem) : emitter.Completes files finish [] finish
  | cons {start middle finish : FileSystem} {input : String} {inputs : List String}
      (head : emitter.Deposits files start input middle)
      (tail : emitter.Completes files middle inputs finish) :
      emitter.Completes files start (input :: inputs) finish

theorem Accounts.deposits (h : emitter.Accounts visit) (hok : visit.succeeded = true)
    (hover : files.Overlaid visit.before) :
    emitter.Deposits files visit.before visit.input visit.after := by
  constructor
  · intro role
    obtain ⟨location, text, hputs⟩ := h.emits hok role
    exact ⟨location, text, (h.puts_iff hok hover).mp hputs⟩
  · intro location
    have hsettles := h.settles location
    unfold Settles at hsettles ⊢
    simpa only [h.puts_iff hok hover] using hsettles

theorem Visits.completes {visits : List Visit} {start finish : FileSystem}
    (h : emitter.Visits start visits finish) (hover : files.Overlaid start)
    (hok : ∀ visit ∈ visits, visit.succeeded = true) :
    emitter.Completes files start (visits.map Visit.input) finish := by
  induction h with
  | nil finish => exact .nil finish
  | cons head tail ih =>
    obtain ⟨hhead, htail⟩ := List.forall_mem_cons.mp hok
    exact .cons (head.deposits hhead hover) (ih (head.overlaid hover) htail)

theorem Visits.sameTree {visits : List Visit} {start finish : FileSystem}
    (h : emitter.Visits start visits finish) : start.SameTree finish := by
  induction h with
  | nil finish => exact .refl finish
  | cons head tail ih => exact head.sameTree.trans ih

/-- The files and roles of a run, in the order in which they are written. -/
def jobs (inputs : List String) : List (String × Role) :=
  inputs.flatMap fun input => Role.both.map (Prod.mk input)

theorem jobs_cons (input : String) (inputs : List String) :
    jobs (input :: inputs) = (input, .client) :: (input, .server) :: jobs inputs := rfl

section Completes

variable {start finish : FileSystem} {inputs : List String}

theorem mem_jobs_iff {job : String × Role} : job ∈ jobs inputs ↔ job.1 ∈ inputs := by
  obtain ⟨input, role⟩ := job
  simp only [jobs, List.mem_flatMap, List.mem_map, Prod.mk.injEq]
  constructor
  · intro ⟨_, hmem, _, _, heq, _⟩
    exact heq ▸ hmem
  · intro hmem
    exact ⟨input, hmem, role, by cases role <;> decide, rfl, rfl⟩

theorem Completes.emits (h : emitter.Completes files start inputs finish) {input : String}
    (hmem : input ∈ inputs) (role : Role) : emitter.Emits files input role := by
  induction h with
  | nil finish => simp at hmem
  | cons head tail ih =>
    obtain rfl | hmem := List.mem_cons.mp hmem
    · exact head.emits role
    · exact ih hmem

/-- A place that holds a text keeps it if nothing else is put there. -/
theorem Completes.keeps (h : emitter.Completes files start inputs finish) {text : String}
    (hentry : start.entry? location = some (.file (Wire.utf8 text)))
    (hputs : ∀ job ∈ jobs inputs, ∀ text',
      emitter.Puts files job.1 job.2 location text' → text' = text) :
    finish.entry? location = some (.file (Wire.utf8 text)) := by
  induction h with
  | nil finish => exact hentry
  | @cons _ middle _ input inputs head tail ih =>
    -- A first file that goes to the place puts the same text there.
    have hmiddle : middle.entry? location = some (.file (Wire.utf8 text)) := by
      obtain ⟨role, text', hput, -, hafter⟩ | ⟨-, hafter⟩ := head.settles location
      · have hjob : (input, role) ∈ jobs (input :: inputs) := mem_jobs_iff.mpr List.mem_cons_self
        rw [hafter, hputs _ hjob text' hput]
      · exact hafter.trans hentry
    apply ih hmiddle
    intro job hjob
    exact hputs job (List.mem_cons_of_mem _ (List.mem_cons_of_mem _ hjob))

/-- A visit leaves what a role puts, unless it is the client and the server puts something else. -/
theorem Deposits.written {before after : FileSystem} {input : String}
    (h : emitter.Deposits files before input after) {role : Role} {text : String}
    (hput : emitter.Puts files input role location text)
    (hserver : ∀ text', emitter.Puts files input .server location text' → text' = text) :
    after.entry? location = some (.file (Wire.utf8 text)) := by
  obtain ⟨role', text', hput', hlast, hafter⟩ | ⟨hnone, -⟩ := h.settles location
  · have htext : text' = text := by
      cases role' with
      | server => exact hserver text' hput'
      | client =>
        cases role with
        | client => exact hput.text_eq hput'
        | server => exact absurd hput (hlast rfl text)
    rw [hafter, htext]
  · exact absurd hput (hnone role text)

/-- A place holds what was put there last. -/
theorem Completes.written_last (h : emitter.Completes files start inputs finish)
    {earlier later : List (String × Role)} {input : String} {role : Role} {text : String}
    (hjobs : jobs inputs = earlier ++ (input, role) :: later)
    (hput : emitter.Puts files input role location text)
    (hlater : ∀ job ∈ later, ∀ text',
      emitter.Puts files job.1 job.2 location text' → text' = text) :
    finish.entry? location = some (.file (Wire.utf8 text)) := by
  induction h generalizing earlier with
  | nil finish => simp [jobs] at hjobs
  | @cons _ middle _ first inputs head tail ih =>
    rw [jobs_cons] at hjobs
    -- The job is the client or the server of the first file, or belongs to a later one.
    match earlier with
    | [] =>
      simp only [List.nil_append, List.cons.injEq, Prod.mk.injEq] at hjobs
      obtain ⟨⟨rfl, rfl⟩, rfl⟩ := hjobs
      obtain ⟨hserver, hrest⟩ := List.forall_mem_cons.mp hlater
      exact tail.keeps (head.written hput hserver) hrest
    | [_] =>
      simp only [List.cons_append, List.nil_append, List.cons.injEq, Prod.mk.injEq] at hjobs
      obtain ⟨-, ⟨rfl, rfl⟩, rfl⟩ := hjobs
      exact tail.keeps (head.written hput fun text' => hput.text_eq) hlater
    | _ :: _ :: earlier =>
      simp only [List.cons_append, List.cons.injEq] at hjobs
      exact ih hjobs.2.2

/-- A place where something is put holds an artifact from then on. -/
theorem Completes.artifact (h : emitter.Completes files start inputs finish)
    (hput : (∃ text, IsArtifact text ∧ start.entry? location = some (.file (Wire.utf8 text))) ∨
      ∃ job ∈ jobs inputs, ∃ text, emitter.Puts files job.1 job.2 location text) :
    ∃ text, IsArtifact text ∧ finish.entry? location = some (.file (Wire.utf8 text)) := by
  induction h with
  | nil finish => simpa [jobs] using hput
  | @cons _ middle _ first inputs head tail ih =>
    apply ih
    obtain ⟨role, text, hput', -, hafter⟩ | ⟨hnone, hafter⟩ := head.settles location
    · exact .inl ⟨text, hput'.isArtifact, hafter⟩
    · rw [hafter]
      refine hput.imp_right ?_
      intro ⟨job, hjob, text, hput'⟩
      obtain rfl | hjob := List.mem_cons.mp (mem_jobs_iff.mp hjob)
      · exact absurd hput' (hnone job.2 text)
      · exact ⟨job, mem_jobs_iff.mpr hjob, text, hput'⟩

end Completes

end Emitter

/-! ## What is left -/

/-- What a run over input files leaves of them and of what it writes. -/
structure Emitter.Delivered (emitter : Emitter) (inputs : List String)
    (files files' : FileSystem) : Prop where
  /-- Every input file has definitions at the start. -/
  loads : ∀ input ∈ inputs, ∃ definitions, files.load input = .ok definitions
  /-- What was written for a file and role is there, unless something else was written to the same
  file later. -/
  written : ∀ earlier input role later, jobs inputs = earlier ++ (input, role) :: later →
    (∀ job ∈ later, job ≠ (input, role) →
      ¬files.SameFile (emitter.outputPath input role) (emitter.outputPath job.1 job.2)) →
    ∃ definitions code, files.load input = .ok definitions ∧
      emitter.language.target.generate definitions role = .ok code ∧
      files'.read (emitter.outputPath input role) = .ok (emitter.banner input ++ code)
  /-- An input file is as it was just if nothing was written to it. -/
  kept_iff : ∀ input ∈ inputs, files'.readBytes input = files.readBytes input ↔
    ∀ job ∈ jobs inputs, ¬files.SameFile input (emitter.outputPath job.1 job.2)

theorem Emitter.Completes.delivered {emitter : Emitter} {files files' : FileSystem}
    {inputs : List String} (h : emitter.Completes files files inputs files')
    (htree : files.SameTree files') : emitter.Delivered inputs files files' where
  loads input hmem := (h.emits hmem .client).load
  written earlier input role later hjobs hlater := by
    have hmem : input ∈ inputs :=
      mem_jobs_iff.mp (hjobs ▸ List.mem_append_right _ List.mem_cons_self)
    obtain ⟨location, text, hput⟩ := h.emits hmem role
    have hentry := h.written_last hjobs hput ?_
    · obtain ⟨definitions, code, hload, hcode, htarget, rfl⟩ := hput
      have hlocate := htree.locate (FileSystem.locate_of_target htarget)
      exact ⟨definitions, code, hload, hcode,
        FileSystem.read_eq_ok_iff.mpr ⟨location, hlocate, hentry⟩⟩
    · intro job hjob text' hput'
      by_cases heq : job = (input, role)
      · subst heq
        exact hput.text_eq hput'
      · exact absurd ⟨location, hput.locate, hput'.locate⟩ (hlater job hjob heq)
  kept_iff input hmem := by
    obtain ⟨definitions, hload⟩ := (h.emits hmem .client).load
    obtain ⟨text, hfetch, hparse⟩ := FileSystem.load_eq_ok_iff.mp hload
    obtain ⟨location, hlocate, -, hentry⟩ := FileSystem.fetch_eq_ok_iff.mp hfetch
    have hbytes := FileSystem.readBytes_eq_ok_iff.mpr ⟨location, hlocate, hentry⟩
    rw [hbytes, FileSystem.readBytes_eq_ok_iff]
    constructor
    · intro ⟨location₁, hlocate₁, hentry₁⟩ job hjob ⟨location₂, hlocate₂, hpath⟩
      obtain rfl := Except.ok.inj (hlocate₁.symm.trans (htree.locate hlocate))
      obtain rfl := Except.ok.inj (hlocate.symm.trans hlocate₂)
      obtain ⟨location₃, written, hput⟩ := h.emits (mem_jobs_iff.mp hjob) job.2
      obtain rfl := Except.ok.inj (hpath.symm.trans hput.locate)
      -- What the job wrote stays an artifact, and the document was none.
      obtain ⟨text', hartifact, hentry'⟩ := h.artifact (.inr ⟨job, hjob, written, hput⟩)
      have htext : text = text' := by
        apply utf8_injective
        simpa using hentry₁.symm.trans hentry'
      exact parse_ne_ok_of_isArtifact (htext ▸ hartifact) definitions hparse
    · intro hnone
      refine ⟨location, htree.locate hlocate, h.keeps hentry ?_⟩
      intro job hjob text' hput
      exact absurd ⟨location, hlocate, hput.locate⟩ (hnone job hjob)

theorem Emitter.Visits.delivered {emitter : Emitter} {files files' : FileSystem}
    {visits : List Visit} (h : emitter.Visits files visits files')
    (hok : ∀ visit ∈ visits, visit.succeeded = true) :
    emitter.Delivered (visits.map Visit.input) files files' :=
  (h.completes (.refl files) hok).delivered h.sameTree

/-! ## A run on one file -/

/-- One file that can be emitted makes a run without failures. -/
theorem Invocation.processIn_one {invocation : Invocation} {world : World} {emitter : Emitter}
    {input : String} (hjob : invocation.job = .ok (emitter, [input]))
    (hemits : ∀ role, emitter.Emits world.files input role) :
    (invocation.processIn world).1 = .ok 0 ∧
      emitter.Delivered [input] world.files (invocation.processIn world).2.files := by
  obtain ⟨visits, world', hinputs, hvisits, hprocess⟩ := processIn_of_ok hjob world
  obtain ⟨visit, rfl, rfl⟩ := List.map_eq_singleton_iff.mp hinputs
  have hok : ∀ visit' ∈ [visit], visit'.succeeded = true := by
    intro visit' hmem
    obtain rfl := List.mem_singleton.mp hmem
    generalize world.files = files at hemits hvisits
    cases hvisits with
    | cons head tail =>
      by_contra hfailed
      obtain ⟨e, he⟩ | ⟨role, hrole⟩ := head.failed_iff.mp (Bool.not_eq_true _ ▸ hfailed)
      · obtain ⟨definitions, hload⟩ := (hemits .client).load
        cases he.symm.trans hload
      · exact hrole (hemits role)
  rw [hprocess]
  exact ⟨by simpa using hok, hvisits.delivered hok⟩

namespace Conformance

/-- A directory with one document. -/
def echoWorld : World where
  files := { entries := [(["echo.json"], .file (Wire.utf8 echoDocument))] }

/-- Both roles are to be written to one path. -/
def echoRun (path : String) : Invocation :=
  ⟨"ipcgen", ["-c", path, "-s", path, "echo.json"]⟩

/-- The settings of that run. -/
def echoEmitter (path : String) : Emitter where
  language := .cpp
  client := ⟨[.text path]⟩
  server := ⟨[.text path]⟩
  command := (echoRun path).command

theorem echo_locate : echoWorld.files.locate "echo.json" = .ok ["echo.json"] := by
  rfl

theorem echo_load : echoWorld.files.load "echo.json" = .ok echoDefinitions := by
  have hfetch := FileSystem.fetch_eq_ok_iff.mpr ⟨_, echo_locate, rfl, rfl⟩
  have hinterfaces := Definitions.readInterfaces?_of_spelled echo_spelled echo_written
  exact FileSystem.load_eq_ok_iff.mpr ⟨_, hfetch, Definitions.parse_of_readInterfaces? hinterfaces⟩

theorem echo_generates (role : Role) :
    ∃ code, Target.cpp.generate echoDefinitions role = .ok code := by
  apply Cpp.generate_succeeds_iff.mpr
  cases role <;> decide

theorem wordsOf_echo {role : Role} {code : String}
    (h : Target.cpp.generate echoDefinitions role = .ok code) :
    wordsOf code = Cpp.classWords (echo.plan role) := by
  obtain ⟨-, texts, htexts, rfl⟩ := Target.generate_eq_ok_iff.mp h
  simp only [echoDefinitions, List.mapM_cons, List.mapM_nil, chain_eq_ok_iff] at htexts
  obtain ⟨text, htext, _, hnil, hpure⟩ := htexts
  obtain rfl := Except.ok.inj hnil
  obtain rfl := Except.ok.inj hpure
  exact Cpp.wordsOf_eq htext

theorem echo_client_ne_server {code code' : String}
    (h : Target.cpp.generate echoDefinitions .client = .ok code)
    (h' : Target.cpp.generate echoDefinitions .server = .ok code') : code ≠ code' := by
  intro heq
  have hwords : Cpp.classWords (echo.plan .client) = Cpp.classWords (echo.plan .server) := by
    rw [← wordsOf_echo h, ← wordsOf_echo h', heq]
  revert hwords
  decide

theorem echo_job {path : String} (hparse : Template.parse path = .ok ⟨[.text path]⟩) :
    (echoRun path).job = .ok (echoEmitter path, ["echo.json"]) :=
  Invocation.job_eq_ok_iff.mpr ⟨⟨["echo.json"], some path, some path, none⟩, rfl, by simp,
    ⟨rfl, hparse, hparse⟩, rfl, rfl⟩

theorem echo_emits {path : String} {location : Location}
    (hpath : ∀ role, (echoEmitter path).outputPath "echo.json" role = path)
    (htarget : echoWorld.files.target path = .ok location) (role : Role) :
    (echoEmitter path).Emits echoWorld.files "echo.json" role := by
  obtain ⟨code, hcode⟩ := echo_generates role
  refine ⟨location, _, echoDefinitions, code, echo_load, hcode, ?_, rfl⟩
  rw [hpath, htarget]

/-- The server's code is what is left on the path. -/
theorem echo_server_last {path : String} {files' : FileSystem}
    (hpath : ∀ role, (echoEmitter path).outputPath "echo.json" role = path)
    (h : (echoEmitter path).Delivered ["echo.json"] echoWorld.files files') :
    ∃ code, Target.cpp.generate echoDefinitions .server = .ok code ∧
      files'.read path = .ok ((echoEmitter path).banner "echo.json" ++ code) := by
  obtain ⟨definitions, code, hload, hcode, hread⟩ :=
    h.written [("echo.json", .client)] "echo.json" .server [] rfl (by simp)
  obtain rfl := Except.ok.inj (echo_load.symm.trans hload)
  rw [hpath] at hread
  exact ⟨code, hcode, hread⟩

theorem echo_header_path (role : Role) :
    (echoEmitter "echo.h").outputPath "echo.json" role = "echo.h" := by
  cases role <;> rfl

theorem echo_input_path (role : Role) :
    (echoEmitter "echo.json").outputPath "echo.json" role = "echo.json" := by
  cases role <;> rfl

end Conformance

/-! ## Runs without failures -/

/-- **Delivery.** After a run in which nothing failed, what was written is there unless something
else was written over it later, and input files to which no output path leads are as they were. -/
theorem artifacts_delivered {invocation : Invocation} {world : World}
    (h : (invocation.processIn world).1 = .ok 0) :
    ∃ emitter inputs, invocation.job = .ok (emitter, inputs) ∧
      emitter.Delivered inputs world.files (invocation.processIn world).2.files := by
  cases hjob : invocation.job with
  | error e =>
    rw [Invocation.processIn_of_error hjob] at h
    cases h
  | ok job =>
    obtain ⟨emitter, inputs⟩ := job
    obtain ⟨visits, world', rfl, hvisits, hprocess⟩ := Invocation.processIn_of_ok hjob world
    rw [hprocess] at h ⊢
    have hok : ∀ visit ∈ visits, visit.succeeded = true := by
      simpa [List.countP_eq_zero] using h
    exact ⟨emitter, _, rfl, hvisits.delivered hok⟩

open Conformance in
theorem artifacts_delivered_echo :
    ((echoRun "echo.h").processIn echoWorld).1 = .ok 0 ∧
    (∃ code, Target.cpp.generate echoDefinitions .server = .ok code ∧
      ((echoRun "echo.h").processIn echoWorld).2.files.read "echo.h" =
        .ok ((echoEmitter "echo.h").banner "echo.json" ++ code)) ∧
    ((echoRun "echo.h").processIn echoWorld).2.files.readBytes "echo.json" =
      echoWorld.files.readBytes "echo.json" := by
  have hjob := @echo_job "echo.h" (by decide +kernel)
  have htarget : echoWorld.files.target "echo.h" = .ok ["echo.h"] := by decide +kernel
  have hok := (Invocation.processIn_one hjob (echo_emits echo_header_path htarget)).1
  obtain ⟨emitter, inputs, hjob', hdelivered⟩ := artifacts_delivered hok
  obtain ⟨rfl, rfl⟩ := Prod.mk.inj (Except.ok.inj (hjob.symm.trans hjob'))
  refine ⟨hok, echo_server_last echo_header_path hdelivered, ?_⟩
  apply (hdelivered.kept_iff "echo.json" (by simp)).mpr
  intro job hjob ⟨location, hinput, houtput⟩
  obtain ⟨input, role⟩ := job
  obtain rfl : input = "echo.json" := by simpa using Emitter.mem_jobs_iff.mp hjob
  rw [echo_header_path, FileSystem.locate_of_target htarget] at houtput
  obtain rfl := Except.ok.inj (echo_locate.symm.trans hinput)
  exact absurd (Except.ok.inj houtput) (by decide)

open Conformance in
/-- **Overwriting.** Nothing fails when both roles are written over the input file. What was written
for the client is lost then, and so is the document. -/
theorem echo_overwritten :
    ((echoRun "echo.json").processIn echoWorld).1 = .ok 0 ∧
    (echoRun "echo.json").job = .ok (echoEmitter "echo.json", ["echo.json"]) ∧
    echoWorld.files.load "echo.json" = .ok echoDefinitions ∧
    (∃ code, Target.cpp.generate echoDefinitions .client = .ok code ∧
      ((echoRun "echo.json").processIn echoWorld).2.files.read
        ((echoEmitter "echo.json").outputPath "echo.json" .client) ≠
          .ok ((echoEmitter "echo.json").banner "echo.json" ++ code)) ∧
    ((echoRun "echo.json").processIn echoWorld).2.files.readBytes "echo.json" ≠
      echoWorld.files.readBytes "echo.json" := by
  have hjob := @echo_job "echo.json" (by decide +kernel)
  have htarget : echoWorld.files.target "echo.json" = .ok ["echo.json"] := by decide +kernel
  obtain ⟨hok, hdelivered⟩ :=
    Invocation.processIn_one hjob (echo_emits echo_input_path htarget)
  obtain ⟨code, hcode⟩ := echo_generates .client
  obtain ⟨code', hcode', hread⟩ := echo_server_last echo_input_path hdelivered
  refine ⟨hok, hjob, echo_load, ⟨code, hcode, ?_⟩, ?_⟩
  · rw [echo_input_path, hread]
    intro heq
    apply echo_client_ne_server hcode hcode'
    simpa using heq.symm
  · intro hkept
    have hnone := (hdelivered.kept_iff "echo.json" (by simp)).mp hkept
    apply hnone ("echo.json", .client) (Emitter.mem_jobs_iff.mpr (by simp))
    exact ⟨_, echo_locate, echo_input_path .client ▸ echo_locate⟩

end Bindery
