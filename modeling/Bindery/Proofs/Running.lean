import Bindery.Command.World
import Bindery.Proofs.Places
import Bindery.Proofs.Plan

/-!
# What a run does to the files

A run visits the input files in order. A visit loads the file and attempts each role, and whatever
fails there fails by itself. This module says what a visit does to the file system, and what it adds
to the count of failures, in terms of the file system as the file was reached.

**The log.** What is logged has no influence on files and results, so a part of the program is
described by where it ends from given files (`Ends`), with any log.

**One role.** A role is put at the place that its output path leads to, if its code can be generated
and that place can be written (`Emitter.Puts`). Else nothing changes (`Emitter.attempt`). The client
comes first, but what it writes makes no difference to whether the server can be written, because
directories stay as they are.

**One file, all files.** A visit is accounted for by what its roles put (`Emitter.Accounts`), and a
run by its visits, each of which starts where the one before it ended (`Emitter.Visits`).

Main result: `run_accounted`.
-/

namespace Bindery

/-! ## Programs and files -/

/-- Started on `files`, the program gives `result` and leaves `files'`, whatever was logged. -/
def Ends {α : Type} (program : StateM World α) (files : FileSystem) (result : α)
    (files' : FileSystem) : Prop :=
  ∀ log, ∃ log', program.run ⟨files, log⟩ = (result, ⟨files', log'⟩)

section Ends

variable {α β : Type} {files files' files'' : FileSystem}

theorem ends_pure (a : α) (files : FileSystem) : Ends (pure a) files a files := by
  intro log
  exact ⟨log, rfl⟩

theorem Ends.bind {program : StateM World α} {next : α → StateM World β} {a : α} {b : β}
    (h : Ends program files a files') (hnext : Ends (next a) files' b files'') :
    Ends (program >>= next) files b files'' := by
  intro log
  obtain ⟨log', hlog'⟩ := h log
  obtain ⟨log'', hlog''⟩ := hnext log'
  refine ⟨log'', ?_⟩
  rw [StateT.run_bind, hlog']
  exact hlog''

theorem ends_log (record : Record) (files : FileSystem) :
    Ends (Host.log record) files () files := by
  intro log
  exact ⟨log ++ [record], rfl⟩

theorem ends_logAll {items : List α} (record : α → Record) (files : FileSystem) :
    Ends (items.forM fun item => Host.log (record item)) files () files := by
  induction items with
  | nil => exact ends_pure () files
  | cons item rest ih => exact (ends_log (record item) files).bind ih

theorem ends_read (path : String) (files : FileSystem) :
    Ends (Host.read path) files (files.fetch path) files := by
  intro log
  exact ⟨log, rfl⟩

theorem ends_write_of_ok {path text : String} (h : files.write path text = .ok files') :
    Ends (Host.write path text) files (.ok ()) files' := by
  intro log
  refine ⟨log, ?_⟩
  simp [Host.write, h]
  rfl

theorem ends_write_of_error {path text : String} {e : FileError}
    (h : files.write path text = .error e) :
    Ends (Host.write path text) files (.error e) files := by
  intro log
  refine ⟨log, ?_⟩
  simp [Host.write, h]
  rfl

end Ends

/-- The definitions in a file. -/
def FileSystem.load (files : FileSystem) (input : String) : Except LoadError Definitions :=
  match files.fetch input with
  | .error cause => .error (.unreadable input cause)
  | .ok text => Definitions.parse text

theorem ends_load (input : String) (files : FileSystem) :
    Ends (Definitions.load input) files (files.load input) files := by
  refine (ends_read input files).bind ?_
  unfold FileSystem.load
  cases files.fetch input with
  | error cause => exact ends_pure _ files
  | ok text =>
    simp only
    cases Definitions.parse text with
    | error e => exact ends_pure _ files
    | ok definitions => exact (ends_log _ files).bind (ends_pure _ files)

/-! ## One role -/

namespace Emitter

/-- Seen from these files, a role of an input file goes to this place, with this text: the file
loads, its code can be generated, and the place can be written. -/
def Puts (emitter : Emitter) (files : FileSystem) (input : String) (role : Role)
    (location : Location) (text : String) : Prop :=
  ∃ definitions code, files.load input = .ok definitions ∧
    emitter.language.target.generate definitions role = .ok code ∧
    files.target (emitter.outputPath input role) = .ok location ∧
    text = emitter.banner input ++ code

/-- A role of an input file can be emitted. -/
def Emits (emitter : Emitter) (files : FileSystem) (input : String) (role : Role) : Prop :=
  ∃ location text, emitter.Puts files input role location text

/-- The files with the code for a role of some definitions, if it can be written. -/
def attempt (emitter : Emitter) (input : String) (definitions : Definitions) (role : Role)
    (files : FileSystem) : Option FileSystem :=
  match emitter.language.target.generate definitions role with
  | .error _ => none
  | .ok code =>
    (files.write (emitter.outputPath input role) (emitter.banner input ++ code)).toOption

variable {emitter : Emitter} {input : String} {definitions : Definitions} {role : Role}
  {files files' : FileSystem}

section Emitting

variable {code : String}

theorem ends_emit_of_refused {cause : GenerateError}
    (h : emitter.language.target.generate definitions role = .error cause) :
    Ends (emitter.emit input definitions role) files (.error (.generate role cause)) files := by
  refine (ends_logAll Record.planned files).bind ?_
  rw [show (emitter.language.target.generation definitions role).text = .error cause from h]
  exact ends_pure _ files

theorem ends_emit_of_unwritten {cause : FileError}
    (h : emitter.language.target.generate definitions role = .ok code)
    (hwrite : files.write (emitter.outputPath input role) (emitter.banner input ++ code) =
      .error cause) :
    Ends (emitter.emit input definitions role) files
      (.error (.write (emitter.outputPath input role) cause)) files := by
  refine (ends_logAll Record.planned files).bind ?_
  rw [show (emitter.language.target.generation definitions role).text = .ok code from h]
  exact (ends_log _ files).bind ((ends_write_of_error hwrite).bind (ends_pure _ files))

theorem ends_emit_of_written
    (h : emitter.language.target.generate definitions role = .ok code)
    (hwrite : files.write (emitter.outputPath input role) (emitter.banner input ++ code) =
      .ok files') :
    Ends (emitter.emit input definitions role) files (.ok (emitter.outputPath input role))
      files' := by
  refine (ends_logAll Record.planned files).bind ?_
  rw [show (emitter.language.target.generation definitions role).text = .ok code from h]
  exact (ends_log _ files).bind ((ends_write_of_ok hwrite).bind (ends_pure _ files'))

end Emitting

theorem ends_emitRole : Ends (emitter.emitRole input definitions role) files
    (emitter.attempt input definitions role files).isSome
    ((emitter.attempt input definitions role files).getD files) := by
  have hemit : ∀ {outcome files'}, Ends (emitter.emit input definitions role) files outcome files' →
      Ends (emitter.emitRole input definitions role) files outcome.toOption.isSome files' := by
    intro outcome files' h
    refine h.bind ?_
    cases outcome with
    | error e => exact (ends_log _ files').bind (ends_pure _ files')
    | ok output => exact (ends_log _ files').bind (ends_pure _ files')
  unfold attempt
  cases hcode : emitter.language.target.generate definitions role with
  | error cause => exact hemit (ends_emit_of_refused hcode)
  | ok code =>
    simp only
    cases hwrite : files.write (emitter.outputPath input role) (emitter.banner input ++ code) with
    | error cause => exact hemit (ends_emit_of_unwritten hcode hwrite)
    | ok files' => exact hemit (ends_emit_of_written hcode hwrite)

theorem attempt_of_ok {code : String} {location : Location}
    (hcode : emitter.language.target.generate definitions role = .ok code)
    (htarget : files.target (emitter.outputPath input role) = .ok location) :
    emitter.attempt input definitions role files =
      some (files.set location (.file (Wire.utf8 (emitter.banner input ++ code)))) := by
  have hwrite :
      files.write (emitter.outputPath input role) (emitter.banner input ++ code) = .ok _ :=
    FileSystem.write_eq_ok_iff.mpr ⟨location, htarget, rfl⟩
  rw [attempt, hcode]
  simp only [hwrite]
  rfl

theorem attempt_eq_some_iff : emitter.attempt input definitions role files = some files' ↔
    ∃ code location, emitter.language.target.generate definitions role = .ok code ∧
      files.target (emitter.outputPath input role) = .ok location ∧
      files' = files.set location (.file (Wire.utf8 (emitter.banner input ++ code))) := by
  constructor
  · intro h
    unfold attempt at h
    cases hcode : emitter.language.target.generate definitions role with
    | error e => simp [hcode] at h
    | ok code =>
      simp only [hcode] at h
      cases hwrite : files.write (emitter.outputPath input role) (emitter.banner input ++ code) with
      | error e => simp [hwrite, Except.toOption] at h
      | ok written =>
        obtain ⟨location, htarget, rfl⟩ := FileSystem.write_eq_ok_iff.mp hwrite
        rw [hwrite] at h
        exact ⟨code, location, rfl, htarget, (Option.some.inj h).symm⟩
  · intro ⟨code, location, hcode, htarget, hfiles⟩
    rw [hfiles, attempt_of_ok hcode htarget]

/-- The files once a role was attempted. -/
def left (emitter : Emitter) (input : String) (definitions : Definitions) (role : Role)
    (files : FileSystem) : FileSystem :=
  (emitter.attempt input definitions role files).getD files

theorem sameTree_left : files.SameTree (emitter.left input definitions role files) := by
  unfold left
  cases h : emitter.attempt input definitions role files with
  | none => exact .refl files
  | some files' =>
    obtain ⟨code, location, -, htarget, rfl⟩ := attempt_eq_some_iff.mp h
    exact FileSystem.sameTree_of_write htarget _

/-- Nothing changes where the role does not go. -/
theorem entry?_left_of_ne {location : Location}
    (h : ∀ code, emitter.language.target.generate definitions role = .ok code →
      files.target (emitter.outputPath input role) ≠ .ok location) :
    FileSystem.entry? (emitter.left input definitions role files) location =
      files.entry? location := by
  unfold left
  cases hattempt : emitter.attempt input definitions role files with
  | none => rfl
  | some files' =>
    obtain ⟨code, place, hcode, htarget, rfl⟩ := attempt_eq_some_iff.mp hattempt
    have hne : location ≠ place := by
      intro heq
      exact h code hcode (heq ▸ htarget)
    rw [Option.getD_some, FileSystem.entry?_of_write htarget, if_neg hne]

theorem entry?_left_of_ok {code : String} {location : Location}
    (hcode : emitter.language.target.generate definitions role = .ok code)
    (htarget : files.target (emitter.outputPath input role) = .ok location) :
    FileSystem.entry? (emitter.left input definitions role files) location =
      some (.file (Wire.utf8 (emitter.banner input ++ code))) := by
  rw [left, attempt_of_ok hcode htarget, Option.getD_some, FileSystem.entry?_of_write htarget,
    if_pos rfl]

end Emitter

/-! ## One file -/

/-- One input file, as a run came to it and left it. -/
structure Visit where
  input : String
  before : FileSystem
  succeeded : Bool
  after : FileSystem

namespace Emitter

/-- How a visit is accounted for, in terms of the files as it started. -/
structure Accounts (emitter : Emitter) (visit : Visit) : Prop where
  /-- It is what the program does with the file there. -/
  processed : Ends (emitter.process visit.input) visit.before visit.succeeded visit.after
  /-- It fails if the file does not load or a role cannot be emitted. -/
  failed_iff : visit.succeeded = false ↔ (∃ e, visit.before.load visit.input = .error e) ∨
    ∃ role, ¬emitter.Emits visit.before visit.input role
  /-- A file that does not load changes nothing. -/
  unloaded : ∀ e, visit.before.load visit.input = .error e → visit.after = visit.before
  /-- A role whose code cannot be generated writes nothing at its path; only the other may. -/
  ungenerated : ∀ definitions role e location, visit.before.load visit.input = .ok definitions →
    emitter.language.target.generate definitions role = .error e →
    visit.before.locate (emitter.outputPath visit.input role) = .ok location →
    (∀ text, ¬emitter.Puts visit.before visit.input role.peer location text) →
    visit.after.entry? location = visit.before.entry? location
  /-- A role that can be emitted is, whatever becomes of the other; the server comes last. -/
  emitted : ∀ role location text, emitter.Puts visit.before visit.input role location text →
    (∀ text', role = .client → ¬emitter.Puts visit.before visit.input .server location text') →
    visit.after.entry? location = some (.file (Wire.utf8 text))
  /-- All other places hold what they did. -/
  frame : ∀ location, (∀ role text, ¬emitter.Puts visit.before visit.input role location text) →
    visit.after.entry? location = visit.before.entry? location
  /-- No directory comes or goes. -/
  sameTree : visit.before.SameTree visit.after

variable {emitter : Emitter} {input : String} {definitions : Definitions} {role : Role}
  {files : FileSystem}

theorem puts_iff_of_load (h : files.load input = .ok definitions) {location : Location}
    {text : String} : emitter.Puts files input role location text ↔
      ∃ code, emitter.language.target.generate definitions role = .ok code ∧
        files.target (emitter.outputPath input role) = .ok location ∧
        text = emitter.banner input ++ code := by
  constructor
  · intro ⟨_, code, hload, hputs⟩
    obtain rfl := Except.ok.inj (h.symm.trans hload)
    exact ⟨code, hputs⟩
  · intro ⟨code, hputs⟩
    exact ⟨definitions, code, h, hputs⟩

theorem not_puts_of_load {e : LoadError} (h : files.load input = .error e) {location : Location}
    {text : String} : ¬emitter.Puts files input role location text := by
  intro ⟨_, _, hload, _⟩
  cases h.symm.trans hload

/-- Processing a file that does not load. -/
def visitUnloaded (input : String) (files : FileSystem) : Visit :=
  ⟨input, files, false, files⟩

/-- Processing a file with these definitions: the client first, then the server. -/
def visitLoaded (emitter : Emitter) (input : String) (definitions : Definitions)
    (files : FileSystem) : Visit where
  input := input
  before := files
  succeeded := (emitter.attempt input definitions .client files).isSome &&
    (emitter.attempt input definitions .server
      (emitter.left input definitions .client files)).isSome
  after := emitter.left input definitions .server (emitter.left input definitions .client files)

theorem accounts_visitUnloaded {e : LoadError} (h : files.load input = .error e) :
    emitter.Accounts (visitUnloaded input files) where
  processed := by
    refine (ends_load input files).bind ?_
    rw [h]
    exact (ends_log _ files).bind (ends_pure false files)
  failed_iff := ⟨fun _ => .inl ⟨e, h⟩, fun _ => rfl⟩
  unloaded _ _ := rfl
  ungenerated _ _ _ _ _ _ _ _ := rfl
  emitted role location text hputs _ := absurd hputs (not_puts_of_load h)
  frame _ _ := rfl
  sameTree := .refl files

theorem isSome_attempt_iff : (emitter.attempt input definitions role files).isSome = true ↔
    ∃ code location, emitter.language.target.generate definitions role = .ok code ∧
      files.target (emitter.outputPath input role) = .ok location := by
  constructor
  · intro h
    obtain ⟨files', hsome⟩ := Option.isSome_iff_exists.mp h
    obtain ⟨code, location, hcode, htarget, -⟩ := attempt_eq_some_iff.mp hsome
    exact ⟨code, location, hcode, htarget⟩
  · intro ⟨code, location, hcode, htarget⟩
    rw [attempt_of_ok hcode htarget]
    rfl

/-- A role succeeds wherever the directories are those of the files it was loaded from. -/
theorem isSome_attempt_iff_emits (hload : files.load input = .ok definitions)
    {files' : FileSystem} (htree : files.SameTree files') :
    (emitter.attempt input definitions role files').isSome = true ↔
      emitter.Emits files input role := by
  simp only [isSome_attempt_iff, Emits, puts_iff_of_load hload, htree.target_eq_ok_iff]
  constructor
  · intro ⟨code, location, hcode, htarget⟩
    exact ⟨location, _, code, hcode, htarget, rfl⟩
  · intro ⟨location, _, code, hcode, htarget, _⟩
    exact ⟨code, location, hcode, htarget⟩

/-- Nothing changes where the role does not go, seen from the files it was loaded from. -/
theorem entry?_left_of_not_puts (hload : files.load input = .ok definitions)
    {files' : FileSystem} (htree : files.SameTree files') {location : Location}
    (h : ∀ text, ¬emitter.Puts files input role location text) :
    FileSystem.entry? (emitter.left input definitions role files') location =
      files'.entry? location := by
  apply entry?_left_of_ne
  intro code hcode htarget
  exact h _ ((puts_iff_of_load hload).mpr ⟨code, hcode, htree.target_eq_ok_iff.mp htarget, rfl⟩)

theorem entry?_left_of_puts (hload : files.load input = .ok definitions)
    {files' : FileSystem} (htree : files.SameTree files') {location : Location} {text : String}
    (h : emitter.Puts files input role location text) :
    FileSystem.entry? (emitter.left input definitions role files') location =
      some (.file (Wire.utf8 text)) := by
  obtain ⟨code, hcode, htarget, rfl⟩ := (puts_iff_of_load hload).mp h
  exact entry?_left_of_ok hcode (htree.target_eq_ok_iff.mpr htarget)

theorem not_puts_of_generate {e : GenerateError} (hload : files.load input = .ok definitions)
    (h : emitter.language.target.generate definitions role = .error e) {location : Location}
    {text : String} : ¬emitter.Puts files input role location text := by
  intro hputs
  obtain ⟨code, hcode, -⟩ := (puts_iff_of_load hload).mp hputs
  cases h.symm.trans hcode

theorem frame_visitLoaded (hload : files.load input = .ok definitions) {location : Location}
    (h : ∀ role text, ¬emitter.Puts files input role location text) :
    FileSystem.entry? (emitter.visitLoaded input definitions files).after location =
      files.entry? location := by
  have hserver := entry?_left_of_not_puts hload
    (@sameTree_left emitter input definitions .client files) (h .server)
  have hclient := entry?_left_of_not_puts hload (.refl files) (h .client)
  exact hserver.trans hclient

theorem succeeded_visitLoaded (hload : files.load input = .ok definitions) :
    (emitter.visitLoaded input definitions files).succeeded = true ↔
      ∀ role, emitter.Emits files input role := by
  have htree := @sameTree_left emitter input definitions .client files
  rw [visitLoaded, Bool.and_eq_true, isSome_attempt_iff_emits hload (.refl files),
    isSome_attempt_iff_emits hload htree]
  constructor
  · intro ⟨hclient, hserver⟩ role
    cases role with
    | client => exact hclient
    | server => exact hserver
  · intro h
    exact ⟨h .client, h .server⟩

theorem accounts_visitLoaded (hload : files.load input = .ok definitions) :
    emitter.Accounts (emitter.visitLoaded input definitions files) where
  processed := by
    refine (ends_load input files).bind ?_
    rw [hload]
    exact ends_emitRole.bind (ends_emitRole.bind (ends_pure _ _))
  failed_iff := by
    rw [← Bool.not_eq_true, succeeded_visitLoaded hload, not_forall]
    constructor
    · exact .inr
    · intro h
      obtain ⟨e, herror⟩ | hrole := h
      · cases hload.symm.trans herror
      · exact hrole
  unloaded e h := by cases hload.symm.trans h
  ungenerated definitions' role e location hload' hgenerate _ hpeer := by
    apply frame_visitLoaded hload
    intro role' text
    obtain rfl | rfl := role.eq_or_eq_peer role'
    · exact not_puts_of_generate hload' hgenerate
    · exact hpeer text
  emitted role location text hputs hlast := by
    have htree := @sameTree_left emitter input definitions .client files
    cases role with
    | client =>
      have hserver := entry?_left_of_not_puts hload htree (fun text' => hlast text' rfl)
      exact hserver.trans (entry?_left_of_puts hload (.refl files) hputs)
    | server => exact entry?_left_of_puts hload htree hputs
  frame location := frame_visitLoaded hload
  sameTree := sameTree_left.trans sameTree_left

/-- Every file can be visited. -/
theorem exists_accounts (emitter : Emitter) (input : String) (files : FileSystem) :
    ∃ visit, visit.input = input ∧ visit.before = files ∧ emitter.Accounts visit := by
  cases hload : files.load input with
  | error e => exact ⟨visitUnloaded input files, rfl, rfl, accounts_visitUnloaded hload⟩
  | ok definitions =>
    exact ⟨emitter.visitLoaded input definitions files, rfl, rfl, accounts_visitLoaded hload⟩

/-! ## All files -/

/-- The visits lead from the first files to the last: each starts where the one before it ended,
whatever that came to. -/
inductive Visits (emitter : Emitter) : FileSystem → List Visit → FileSystem → Prop where
  | nil (files : FileSystem) : emitter.Visits files [] files
  | cons {visit : Visit} {visits : List Visit} {files : FileSystem}
      (head : emitter.Accounts visit) (tail : emitter.Visits visit.after visits files) :
      emitter.Visits visit.before (visit :: visits) files

theorem Visits.frame {visits : List Visit} {files' : FileSystem}
    (h : emitter.Visits files visits files') {location : Location}
    (hputs : ∀ visit ∈ visits, ∀ role text,
      ¬emitter.Puts visit.before visit.input role location text) :
    files'.entry? location = files.entry? location := by
  induction h with
  | nil files => rfl
  | cons head tail ih =>
    have hrest := ih fun visit hmem => hputs visit (List.mem_cons_of_mem _ hmem)
    exact hrest.trans (head.frame location (hputs _ List.mem_cons_self))

/-- A run over input files is a sequence of visits, and counts those that failed. -/
theorem exists_visits (emitter : Emitter) (inputs : List String) (files : FileSystem) :
    ∃ visits files', visits.map Visit.input = inputs ∧ emitter.Visits files visits files' ∧
      Ends (emitter.processAll inputs) files (visits.countP (!·.succeeded)) files' := by
  induction inputs generalizing files with
  | nil => exact ⟨[], files, rfl, .nil files, ends_pure 0 files⟩
  | cons input inputs ih =>
    obtain ⟨visit, rfl, rfl, haccounts⟩ := emitter.exists_accounts input files
    obtain ⟨visits, files', rfl, hvisits, hends⟩ := ih visit.after
    refine ⟨visit :: visits, files', rfl, .cons haccounts hvisits, ?_⟩
    refine haccounts.processed.bind (hends.bind ?_)
    have hcount : (if visit.succeeded then visits.countP (!·.succeeded)
        else visits.countP (!·.succeeded) + 1) = (visit :: visits).countP (!·.succeeded) := by
      cases h : visit.succeeded <;> simp [h]
    rw [hcount]
    exact ends_pure _ files'

end Emitter

/-! ## The command line -/

/-- The settings that options ask for. -/
structure Options.Asks (options : Options) (emitter : Emitter) : Prop where
  language : Language.ofName (options.language.getD "cpp") = .ok emitter.language
  client : Template.parse (options.client.getD Template.clientDefault) = .ok emitter.client
  server : Template.parse (options.server.getD Template.serverDefault) = .ok emitter.server

/-- Options that no run can start from. -/
def Options.Unusable (options : Options) : Prop :=
  options.files = [] ∨ (∃ e, Language.ofName (options.language.getD "cpp") = .error e) ∨
    (∃ e, Template.parse (options.client.getD Template.clientDefault) = .error e) ∨
    ∃ e, Template.parse (options.server.getD Template.serverDefault) = .error e

/-- A command line that no run can start from. -/
def Invocation.Unusable (invocation : Invocation) : Prop :=
  ∀ options, Options.parse? invocation.arguments = some options → options.Unusable

theorem mapError_eq_ok_iff {α ε ε' : Type} {x : Except ε α} {f : ε → ε'} {a : α} :
    x.mapError f = .ok a ↔ x = .ok a := by
  cases x <;> simp [Except.mapError]

theorem exists_ok_of_no_error {α ε : Type} {x : Except ε α} (h : ¬∃ e, x = .error e) :
    ∃ a, x = .ok a := by
  cases x with
  | error e => exact absurd ⟨e, rfl⟩ h
  | ok a => exact ⟨a, rfl⟩

namespace Invocation

variable {invocation : Invocation}

theorem job_eq_ok_iff {emitter : Emitter} {inputs : List String} :
    invocation.job = .ok (emitter, inputs) ↔
      ∃ options, Options.parse? invocation.arguments = some options ∧ options.files ≠ [] ∧
        options.Asks emitter ∧ emitter.command = invocation.command ∧ inputs = options.files := by
  unfold job
  cases Options.parse? invocation.arguments with
  | none => simp [throw, throwThe, MonadExceptOf.throw]
  | some options =>
    simp only [chain_eq_ok_iff, FileSystem.refuse_eq_ok_iff, mapError_eq_ok_iff, List.isEmpty_iff,
      Option.some.injEq, exists_eq_left']
    constructor
    · intro ⟨hfiles, language, hlanguage, client, hclient, server, hserver, hresult⟩
      obtain ⟨rfl, rfl⟩ := Prod.mk.inj (Except.ok.inj hresult)
      exact ⟨hfiles, ⟨hlanguage, hclient, hserver⟩, rfl, rfl⟩
    · intro ⟨hfiles, hasks, hcommand, hinputs⟩
      refine ⟨hfiles, _, hasks.language, _, hasks.client, _, hasks.server, ?_⟩
      rw [hinputs, ← hcommand]
      rfl

theorem job_of_unusable (h : invocation.Unusable) : ∃ e, invocation.job = .error e := by
  cases hjob : invocation.job with
  | error e => exact ⟨e, rfl⟩
  | ok job =>
    obtain ⟨options, hparse, hfiles, hasks, -, -⟩ := job_eq_ok_iff.mp hjob
    obtain hnone | ⟨e, he⟩ | ⟨e, he⟩ | ⟨e, he⟩ := h options hparse
    · exact absurd hnone hfiles
    · cases hasks.language.symm.trans he
    · cases hasks.client.symm.trans he
    · cases hasks.server.symm.trans he

theorem job_of_not_unusable (h : ¬invocation.Unusable) :
    ∃ options emitter, Options.parse? invocation.arguments = some options ∧
      options.Asks emitter ∧ emitter.command = invocation.command ∧
      invocation.job = .ok (emitter, options.files) := by
  obtain ⟨options, husable⟩ := not_forall.mp h
  obtain ⟨hparse, husable⟩ := Classical.not_imp.mp husable
  simp only [Options.Unusable, not_or] at husable
  obtain ⟨hfiles, hlanguage, hclient, hserver⟩ := husable
  obtain ⟨language, hlanguage⟩ := exists_ok_of_no_error hlanguage
  obtain ⟨client, hclient⟩ := exists_ok_of_no_error hclient
  obtain ⟨server, hserver⟩ := exists_ok_of_no_error hserver
  have hasks : options.Asks ⟨language, client, server, invocation.command⟩ :=
    ⟨hlanguage, hclient, hserver⟩
  have hjob := job_eq_ok_iff.mpr ⟨options, hparse, hfiles, hasks, rfl, rfl⟩
  exact ⟨options, _, hparse, hasks, rfl, hjob⟩

/-- What the program gives up to its final report, and the world it leaves. -/
def processIn (invocation : Invocation) (world : World) : Except UsageError Nat × World :=
  (invocation.process : StateM World (Except UsageError Nat)).run world

/-- The exit status of the program, and the world it leaves. -/
def runIn (invocation : Invocation) (world : World) : UInt32 × World :=
  (invocation.run : StateM World UInt32).run world

theorem processIn_of_error {e : UsageError} (hjob : invocation.job = .error e) (world : World) :
    invocation.processIn world = (.error e, world) := by
  rw [processIn, process, hjob]
  rfl

theorem processIn_of_ok {emitter : Emitter} {inputs : List String}
    (hjob : invocation.job = .ok (emitter, inputs)) (world : World) :
    ∃ visits world', visits.map Visit.input = inputs ∧
      emitter.Visits world.files visits world'.files ∧
      invocation.processIn world = (.ok (visits.countP (!·.succeeded)), world') := by
  obtain ⟨visits, files', hinputs, hvisits, hends⟩ := emitter.exists_visits inputs world.files
  have hprocess : Ends invocation.process world.files (.ok (visits.countP (!·.succeeded)))
      files' := by
    unfold process
    rw [hjob]
    exact hends.bind (ends_pure _ files')
  obtain ⟨log', hrun⟩ := hprocess world.log
  exact ⟨visits, ⟨files', log'⟩, hinputs, hvisits, hrun⟩

/-- The exit status tells a run without failures from all others. -/
theorem runIn_processIn (invocation : Invocation) (world : World) :
    ((invocation.runIn world).1 = 0 ↔ (invocation.processIn world).1 = .ok 0) ∧
      (invocation.runIn world).2.files = (invocation.processIn world).2.files := by
  unfold runIn processIn run
  rw [StateT.run_bind]
  obtain ⟨result, world'⟩ := (invocation.process : StateM World (Except UsageError Nat)).run world
  have hone : ¬(1 : UInt32) = 0 := by decide
  cases result with
  | error e => exact ⟨iff_of_false hone (by simp), rfl⟩
  | ok count =>
    cases count with
    | zero => exact ⟨iff_of_true rfl rfl, rfl⟩
    | succ count => exact ⟨iff_of_false hone (by simp), rfl⟩

end Invocation

/-- **Accounting.** A command line that cannot be used gives an error and leaves everything as it
was. Any other visits all its files in order and gives how many of the visits failed; each visit is
accounted for by the files it started from, and places where no visit puts anything hold what they
did. The exit status is that of success if and only if no visit failed. -/
theorem run_accounted (invocation : Invocation) (world : World) :
    (invocation.Unusable → ∃ e, invocation.processIn world = (.error e, world)) ∧
    (¬invocation.Unusable → ∃ options emitter visits world',
      Options.parse? invocation.arguments = some options ∧ options.Asks emitter ∧
      emitter.command = invocation.command ∧
      invocation.processIn world = (.ok (visits.countP (!·.succeeded)), world') ∧
      visits.map Visit.input = options.files ∧
      emitter.Visits world.files visits world'.files ∧
      ∀ location, (∀ visit ∈ visits, ∀ role text,
        ¬emitter.Puts visit.before visit.input role location text) →
          world'.files.entry? location = world.files.entry? location) ∧
    ((invocation.runIn world).1 = 0 ↔ (invocation.processIn world).1 = .ok 0) ∧
    (invocation.runIn world).2.files = (invocation.processIn world).2.files := by
  refine ⟨?_, ?_, invocation.runIn_processIn world⟩
  · intro hunusable
    obtain ⟨e, hjob⟩ := Invocation.job_of_unusable hunusable
    exact ⟨e, Invocation.processIn_of_error hjob world⟩
  · intro husable
    obtain ⟨options, emitter, hparse, hasks, hcommand, hjob⟩ :=
      Invocation.job_of_not_unusable husable
    obtain ⟨visits, world', hinputs, hvisits, hprocess⟩ := Invocation.processIn_of_ok hjob world
    exact ⟨options, emitter, visits, world', hparse, hasks, hcommand, hprocess, hinputs, hvisits,
      fun location hputs => hvisits.frame hputs⟩

end Bindery
