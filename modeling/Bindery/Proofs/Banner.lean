import Bindery.Proofs.Artifacts
import Bindery.Proofs.OutputPaths
import Bindery.Proofs.Pieces

/-!
# Banners

A banner is a comment with a path and a command in it, put there as they were given. A line feed in
one of them ends the comment, and what follows it is no comment any more, unless it happens to look
like one.

**Remarks.** A line is a remark if it is empty or starts with the mark of a comment (`isRemark`).
The banner consists of remarks exactly if all lines of what it says are remarks but the first, which
comes after a mark (`Emitter.StaysComment`).

**Code.** Nothing that is generated starts with a remark (`withoutRemarks_generate`). So what is
left of an output file without the remarks at its top is the code, or else begins inside of the
banner.

**Runs.** Inputs are arguments or parts of them (`files_of_addAll`), and the command has all
arguments in it. So one condition on the command is enough for all banners of a run.

Main result: `banner_only_comment_iff`.
-/

namespace Bindery

open Layout Text

/-! ## Remarks -/

/-- Whether a line is empty or starts with the mark. -/
def isRemark (mark : String) (line : List Char) : Bool :=
  (bare line).isEmpty || mark.toList.isPrefixOf (bare line)

/-- The text without the remarks at its top. -/
def withoutRemarks (mark text : String) : String :=
  String.ofList (['\n'].intercalate ((text.toList.splitOn '\n').dropWhile (isRemark mark)))

theorem isRemark_iff {mark : String} {line : List Char} : isRemark mark line = true ↔
    String.ofList (bare line) = "" ∨ mark.toList <+: (String.ofList (bare line)).toList := by
  rw [isRemark, Bool.or_eq_true, List.isEmpty_iff, List.isPrefixOf_iff_prefix, String.toList_ofList]
  simp

theorem linesFrom_intercalate {fields : List (List Char)} (hne : fields ≠ [])
    (h : ∀ field ∈ fields, '\n' ∉ field) (rest : List Char) :
    linesFrom [] (['\n'].intercalate fields ++ '\n' :: rest) =
      fields.map (fun field => String.ofList (bare field)) ++ linesFrom [] rest := by
  induction fields with
  | nil => exact absurd rfl hne
  | cons field fields ih =>
    obtain ⟨hfield, hfields⟩ := List.forall_mem_cons.mp h
    rcases eq_or_ne fields [] with rfl | hmore
    · rw [List.intercalate_singleton]
      exact linesFrom_append hfield [] rest
    · rw [List.intercalate_cons_of_ne_nil hmore, List.append_assoc, List.append_assoc,
        List.singleton_append, linesFrom_append hfield [], ih hmore hfields]
      rfl

/-- The lines of a text up to a line feed are its fields, and the rest has lines of its own. -/
theorem lines_append_feed (text rest : String) :
    lines (text ++ "\n" ++ rest) =
      (text.toList.splitOn '\n').map (fun field => String.ofList (bare field)) ++ lines rest := by
  have hlines := linesFrom_intercalate (List.splitOn_ne_nil '\n' text.toList)
    (fun field => notMem_of_mem_splitOn) rest.toList
  rw [List.intercalate_splitOn] at hlines
  simpa [lines] using hlines

section Remarks

variable {mark : String}

theorem bare_append {line rest : List Char} (h : rest ≠ []) :
    bare (line ++ rest) = line ++ bare rest := by
  rw [bare, bare, List.getLast?_append_of_ne_nil line h, List.dropLast_append_of_ne_nil h]
  split <;> rfl

theorem isRemark_of_mem_empty :
    ∀ line ∈ "".toList.splitOn '\n', isRemark mark line = true := by
  intro line hline
  rw [List.mem_singleton.mp hline]
  rfl

/-- A line with the mark in front is a remark, whatever it was. -/
theorem isRemark_append {line : List Char} (h : line ≠ []) :
    isRemark mark (mark.toList ++ line) = true := by
  rw [isRemark, bare_append h, Bool.or_eq_true, List.isPrefixOf_iff_prefix]
  exact .inr (List.prefix_append _ _)

theorem isRemark_cons {c d : Char} {ds : List Char} (hmark : mark.toList = d :: ds) (hne : d ≠ c)
    (hreturn : c ≠ '\r') (line : List Char) : isRemark mark (c :: line) = false := by
  obtain ⟨rest, hrest⟩ : ∃ rest, bare (c :: line) = c :: rest := by
    rcases eq_or_ne line [] with rfl | hline
    · exact ⟨[], by simp [bare, hreturn]⟩
    · exact ⟨bare line, @bare_append [c] line hline⟩
  simp [isRemark, hrest, hmark, List.isPrefixOf, hne]

theorem withoutRemarks_append {text : String}
    (h : ∀ line ∈ text.toList.splitOn '\n', isRemark mark line = true) (rest : String) :
    withoutRemarks mark (text ++ "\n" ++ rest) = withoutRemarks mark rest := by
  have htext : (text ++ "\n" ++ rest).toList = text.toList ++ '\n' :: rest.toList := by simp
  rw [withoutRemarks, htext, List.splitOn_append_cons_self, List.dropWhile_append_of_pos h,
    withoutRemarks]

/-- A line that is no remark keeps the text after it from being all that is left. -/
theorem length_lt_withoutRemarks {text : String} {line : List Char}
    (hline : line ∈ text.toList.splitOn '\n') (h : isRemark mark line = false)
    (rest : String) :
    rest.toList.length < (withoutRemarks mark (text ++ "\n" ++ rest)).toList.length := by
  have htext : (text ++ "\n" ++ rest).toList = text.toList ++ '\n' :: rest.toList := by simp
  have hleft : (text.toList.splitOn '\n').dropWhile (isRemark mark) ≠ [] := by
    intro hnil
    have hall := List.dropWhile_eq_nil_iff.mp hnil line hline
    rw [h] at hall
    cases hall
  rw [withoutRemarks, String.toList_ofList, htext,
    List.splitOn_append_cons_self, List.dropWhile_append, if_neg (by simpa using hleft),
    intercalate_append hleft (List.splitOn_ne_nil _ _), List.intercalate_splitOn]
  simp only [List.length_append, List.length_singleton]
  omega

theorem withoutRemarks_of_head {c d : Char} {ds : List Char} {text : String}
    (hhead : text.toList.head? = some c) (hmark : mark.toList = d :: ds) (hne : d ≠ c)
    (hfeed : c ≠ '\n') (hreturn : c ≠ '\r') : withoutRemarks mark text = text := by
  obtain ⟨cs, hcs⟩ := List.head?_eq_some_iff.mp hhead
  obtain ⟨field, fields, hfields⟩ := List.exists_cons_of_ne_nil (List.splitOn_ne_nil '\n' cs)
  have hc : ∀ b ∈ [c], (b == '\n') = false := by simpa using hfeed
  have hsplit : text.toList.splitOn '\n' = (c :: field) :: fields := by
    rw [hcs]
    exact splitOnP_append_of_forall hc hfields
  have hline : ¬isRemark mark (c :: field) = true := by simp [isRemark_cons hmark hne hreturn]
  rw [withoutRemarks, hsplit, List.dropWhile_cons_of_neg hline, ← hsplit, List.intercalate_splitOn,
    String.ofList_toList]

end Remarks

/-! ## Code -/

/-- What is generated starts neither like a comment nor with an empty line. -/
theorem head?_of_generateInterface {language : Language} {interface : Interface} {role : Role}
    {text : String} (h : language.target.generateInterface interface role = .ok text) :
    ∃ c, text.toList.head? = some c ∧ '/' ≠ c ∧ c ≠ '\n' ∧ c ≠ '\r' := by
  obtain ⟨-, -, hrender⟩ := Target.generateInterface_eq_ok_iff.mp h
  cases language with
  | cpp =>
    obtain ⟨rest, hrest⟩ := prefix_of_render? hrender
    refine ⟨'c', ?_, by decide⟩
    rw [← hrest]
    simp [String.append_assoc]
  | rust =>
    obtain ⟨rest, hrest⟩ := prefix_of_render? hrender
    refine ⟨'#', ?_, by decide⟩
    rw [← hrest]
    rfl

theorem withoutRemarks_generate {language : Language} {definitions : Definitions} {role : Role}
    {code : String} (h : language.target.generate definitions role = .ok code) :
    withoutRemarks language.commentMark code = code := by
  have hmark : language.commentMark.toList = ['/', '/'] := by cases language <;> rfl
  obtain ⟨-, texts, htexts, rfl⟩ := Target.generate_eq_ok_iff.mp h
  cases texts with
  | nil => rfl
  | cons text others =>
    obtain ⟨interface, htext⟩ : ∃ interface,
        language.target.generateInterface interface role = .ok text := by
      cases hinterfaces : definitions.interfaces with
      | nil => cases hinterfaces ▸ htexts
      | cons interface rest =>
        rw [hinterfaces, List.mapM_cons, chain_eq_ok_iff] at htexts
        obtain ⟨first, hfirst, hrest⟩ := htexts
        obtain ⟨_, -, hpure⟩ := chain_eq_ok_iff.mp hrest
        obtain ⟨rfl, -⟩ := List.cons.inj (Except.ok.inj hpure)
        exact ⟨interface, hfirst⟩
    obtain ⟨c, hhead, hslash, hfeed, hreturn⟩ := head?_of_generateInterface htext
    have hstart : ("\n".intercalate (text :: others)).toList.head? = some c := by
      obtain ⟨cs, hcs⟩ := List.head?_eq_some_iff.mp hhead
      cases others <;> simp [String.intercalate_cons_cons, hcs]
    exact withoutRemarks_of_head hstart hmark hslash hfeed hreturn

/-! ## Files -/

theorem FileSystem.read_of_write {files files' : FileSystem} {path text : String}
    (h : files.write path text = .ok files') : files'.read path = .ok text := by
  obtain ⟨location, htarget, rfl⟩ := write_eq_ok_iff.mp h
  refine read_eq_ok_iff.mpr ⟨location, ?_, ?_⟩
  · exact (sameTree_of_write htarget _).locate (locate_of_target htarget)
  · rw [entry?_of_write htarget, if_pos rfl]

/-! ## Banners -/

namespace Emitter

variable {emitter : Emitter} {input : String}

/-- What a banner says about where the code comes from. -/
def origin (emitter : Emitter) (input : String) : String :=
  input ++ " by running \"" ++ emitter.command ++ "\"."

/-- Every line of what the banner says is a remark, the first apart. -/
def StaysComment (emitter : Emitter) (input : String) : Prop :=
  ∀ line ∈ ((emitter.origin input).toList.splitOn '\n').tail,
    isRemark emitter.language.commentMark line = true

/-- The first line of a banner, if it is one line. -/
def heading (emitter : Emitter) (input : String) : String :=
  emitter.language.commentMark ++ " Generated from " ++ emitter.origin input

def warning (emitter : Emitter) : String :=
  emitter.language.commentMark ++ " Do not edit: changes are overwritten on the next run."

theorem banner_append (emitter : Emitter) (input code : String) :
    emitter.banner input ++ code =
      emitter.heading input ++ "\n" ++ (emitter.warning ++ "\n" ++ ("" ++ "\n" ++ code)) := by
  rw [← String.toList_inj]
  simp [banner, heading, warning, origin]

theorem staysComment_iff : emitter.StaysComment input ↔
    ∀ line ∈ (emitter.heading input).toList.splitOn '\n',
      isRemark emitter.language.commentMark line = true := by
  obtain ⟨first, later, hlines⟩ :=
    List.exists_cons_of_ne_nil (List.splitOn_ne_nil '\n' (emitter.origin input).toList)
  have hplain : ∀ c ∈ (emitter.language.commentMark ++ " Generated from ").toList,
      (c == '\n') = false := by
    cases emitter.language <;> simp [Language.commentMark]
  have hfirst := @isRemark_append emitter.language.commentMark (" Generated from ".toList ++ first)
    (by simp)
  rw [heading, String.toList_append, List.splitOn, splitOnP_append_of_forall hplain hlines,
    List.forall_mem_cons,
    String.toList_append, List.append_assoc, StaysComment, hlines]
  exact (and_iff_right hfirst).symm

theorem isRemark_warning : ∀ line ∈ emitter.warning.toList.splitOn '\n',
    isRemark emitter.language.commentMark line = true := by
  rw [warning]
  cases emitter.language <;> decide +kernel

theorem remarks_banner_iff : (∀ line ∈ lines (emitter.banner input),
    line = "" ∨ emitter.language.commentMark.toList <+: line.toList) ↔
      emitter.StaysComment input := by
  have hbanner := emitter.banner_append input ""
  rw [String.append_empty] at hbanner
  have hnone : lines "" = [] := rfl
  rw [hbanner, lines_append_feed, lines_append_feed, lines_append_feed, hnone]
  simp only [List.forall_mem_append, List.forall_mem_map, ← isRemark_iff]
  rw [staysComment_iff]
  exact and_iff_left ⟨isRemark_warning, isRemark_of_mem_empty, by simp⟩

/-- What is left of an output file without the remarks at its top is the code, unless a line of the
banner is no remark. -/
theorem withoutRemarks_banner_iff {code : String}
    (h : withoutRemarks emitter.language.commentMark code = code) :
    withoutRemarks emitter.language.commentMark (emitter.banner input ++ code) = code ↔
      emitter.StaysComment input := by
  rw [banner_append, staysComment_iff]
  constructor
  · intro hleft line hline
    by_contra hnot
    have hlong := length_lt_withoutRemarks hline (by simpa using hnot)
      (emitter.warning ++ "\n" ++ ("" ++ "\n" ++ code))
    rw [hleft] at hlong
    simp only [String.toList_append, List.length_append] at hlong
    omega
  · intro hremarks
    rw [withoutRemarks_append hremarks, withoutRemarks_append isRemark_warning,
      withoutRemarks_append isRemark_of_mem_empty, h]

/-- An output file that was written can be read, and what is in it is the banner and the code. -/
theorem emit_eq_ok {definitions : Definitions} {role : Role} {world world' : World}
    {path : String}
    (h : (emitter.emit input definitions role : StateM World _).run world = (.ok path, world')) :
    ∃ code, emitter.language.target.generate definitions role = .ok code ∧
      world'.files.read path = .ok (emitter.banner input ++ code) := by
  obtain ⟨files, log⟩ := world
  cases hcode : emitter.language.target.generate definitions role with
  | error cause =>
    have hends : Ends (emitter.emit input definitions role) files _ files :=
      ends_emit_of_refused hcode
    obtain ⟨log', hrun⟩ := hends log
    cases h.symm.trans hrun
  | ok code =>
    cases hwrite : files.write (emitter.outputPath input role) (emitter.banner input ++ code) with
    | error cause =>
      obtain ⟨log', hrun⟩ := ends_emit_of_unwritten hcode hwrite log
      cases h.symm.trans hrun
    | ok files' =>
      obtain ⟨log', hrun⟩ := ends_emit_of_written hcode hwrite log
      obtain ⟨hpath, rfl⟩ := Prod.mk.inj (h.symm.trans hrun)
      obtain rfl := Except.ok.inj hpath
      exact ⟨code, rfl, FileSystem.read_of_write hwrite⟩

end Emitter

/-! ## Command lines -/

namespace Options

theorem suffix_of_ofOption {key? : String → Option Key} {text : List Char} {key : Key}
    {value : String} (h : Argument.ofOption key? text = .option key (some value)) :
    value.toList <:+ text := by
  unfold Argument.ofOption at h
  dsimp only at h
  split at h
  · obtain ⟨-, hvalue⟩ := Argument.option.inj h
    split at hvalue
    · cases hvalue
    · rename_i c rest hdrop
      rw [← Option.some.inj hvalue, String.toList_ofList]
      exact (List.suffix_cons c rest).trans (hdrop ▸ List.dropWhile_suffix _)
  · cases h

/-- The value of an option ends the argument that it is written in. -/
theorem suffix_of_ofText {argument value : String} {key : Key}
    (h : Argument.ofText argument = .option key (some value)) :
    value.toList <:+ argument.toList := by
  unfold Argument.ofText at h
  split at h
  · cases h
  · rename_i long hlong
    exact hlong ▸ (suffix_of_ofOption h).trans ((List.suffix_cons _ _).trans (List.suffix_cons _ _))
  · rename_i short _ _ hshort
    exact hshort ▸ (suffix_of_ofOption h).trans (List.suffix_cons _ _)
  · cases h

theorem eq_of_ofText {argument path : String} (h : Argument.ofText argument = .file path) :
    path = argument := by
  unfold Argument.ofText Argument.ofOption at h
  split at h
  · cases h
  · dsimp only at h
    split at h <;> cases h
  · dsimp only at h
    split at h <;> cases h
  · exact (Argument.file.inj h).symm

/-- Where a file comes from if a value was set before the rest of the arguments. -/
theorem files_of_set {options : Options} {key : Key} {value file : String}
    {arguments rest : List String}
    (h : file ∈ (options.set key value).files ∨
      ∃ argument ∈ rest, file.toList <:+ argument.toList)
    (hvalue : ∃ argument ∈ arguments, value.toList <:+ argument.toList)
    (hrest : ∀ argument ∈ rest, argument ∈ arguments) :
    file ∈ options.files ∨ ∃ argument ∈ arguments, file.toList <:+ argument.toList := by
  rcases h with hset | ⟨argument, hargument, hsuffix⟩
  · have hmem : file ∈ options.files ∨ file = value := by
      cases key with
      | files => simpa [set] using hset
      | client => exact .inl hset
      | server => exact .inl hset
      | language => exact .inl hset
    rcases hmem with hold | rfl
    · exact .inl hold
    · exact .inr hvalue
  · exact .inr ⟨argument, hrest argument hargument, hsuffix⟩

/-- **Files.** Every file is an argument, or the end of one. -/
theorem files_of_addAll {options options' : Options} {arguments : List String}
    (h : options.addAll arguments = some options') {file : String} (hfile : file ∈ options'.files) :
    file ∈ options.files ∨ ∃ argument ∈ arguments, file.toList <:+ argument.toList := by
  fun_induction addAll options arguments with
  | case1 options =>
    obtain rfl := Option.some.inj h
    exact .inl hfile
  | case2 options argument rest hend =>
    obtain rfl := Option.some.inj h
    rcases List.mem_append.mp hfile with hold | hrest
    · exact .inl hold
    · exact .inr ⟨file, List.mem_cons_of_mem argument hrest, List.suffix_rfl⟩
  | case3 options argument rest key value hoption ih =>
    exact files_of_set (ih h) ⟨argument, List.mem_cons_self, suffix_of_ofText hoption⟩
      fun other => List.mem_cons_of_mem argument
  | case4 options argument key hoption value rest ih =>
    have hrest : ∀ other ∈ value :: rest, other ∈ argument :: value :: rest :=
      fun other => List.mem_cons_of_mem argument
    exact files_of_set (ih h) ⟨value, hrest value List.mem_cons_self, List.suffix_rfl⟩
      fun other hother => hrest other (List.mem_cons_of_mem value hother)
  | case5 => cases h
  | case6 => cases h
  | case7 options argument rest path hpath ih =>
    obtain rfl := eq_of_ofText hpath
    exact files_of_set (ih h) ⟨path, List.mem_cons_self, List.suffix_rfl⟩
      fun other => List.mem_cons_of_mem path

end Options

theorem mem_intercalate {separator text : String} {texts : List String} (h : text ∈ texts)
    {c : Char} (hc : c ∈ text.toList) : c ∈ (separator.intercalate texts).toList := by
  induction texts with
  | nil => cases h
  | cons first rest ih =>
    cases rest with
    | nil =>
      obtain rfl := List.mem_singleton.mp h
      simpa using hc
    | cons next others =>
      rw [String.intercalate_cons_cons, String.toList_append, String.toList_append, List.mem_append,
        List.mem_append]
      rcases List.mem_cons.mp h with rfl | h
      · exact .inl (.inl hc)
      · exact .inr (ih h)

/-- No banner of a run ends its comment too early if the command is a single line. -/
theorem Invocation.staysComment {invocation : Invocation} {emitter : Emitter}
    {inputs : List String} (hjob : invocation.job = .ok (emitter, inputs))
    (hcommand : '\n' ∉ invocation.command.toList) {input : String} (hinput : input ∈ inputs) :
    emitter.StaysComment input := by
  obtain ⟨options, hparse, -, -, hsame, rfl⟩ := job_eq_ok_iff.mp hjob
  obtain ⟨argument, hargument, hsuffix⟩ : ∃ argument ∈ invocation.arguments,
      input.toList <:+ argument.toList :=
    (Options.files_of_addAll hparse hinput).resolve_left List.not_mem_nil
  have hfeed : '\n' ∉ input.toList := fun hmem =>
    hcommand (mem_intercalate (List.mem_cons_of_mem _ hargument) (hsuffix.subset hmem))
  have horigin : '\n' ∉ (emitter.origin input).toList := by
    simp [Emitter.origin, hsame, hfeed, hcommand]
  simp [Emitter.StaysComment, List.splitOn_eq_singleton horigin]

/-! ## Output files -/

/-- **Banners.** The banner of an output file is only comment exactly if all lines of the path and
the command in it are remarks but the first, and exactly then the code is what is left of the file
without the remarks at its top. A command of a single line makes sure of it. -/
theorem banner_only_comment_iff (emitter : Emitter) (input : String) :
    ((∀ line ∈ lines (emitter.banner input),
      line = "" ∨ emitter.language.commentMark.toList <+: line.toList) ↔
        emitter.StaysComment input) ∧
    (∀ (definitions : Definitions) (role : Role) (world world' : World) (path : String),
      (emitter.emit input definitions role : StateM World _).run world = (.ok path, world') →
        ∃ code, emitter.language.target.generate definitions role = .ok code ∧
          world'.files.read path = .ok (emitter.banner input ++ code) ∧
          (withoutRemarks emitter.language.commentMark (emitter.banner input ++ code) = code ↔
            emitter.StaysComment input)) ∧
    ∀ (invocation : Invocation) (inputs : List String),
      invocation.job = .ok (emitter, inputs) → input ∈ inputs →
        '\n' ∉ invocation.command.toList → emitter.StaysComment input := by
  refine ⟨Emitter.remarks_banner_iff, fun definitions role world world' path h => ?_,
    fun invocation inputs hjob hinput hcommand => Invocation.staysComment hjob hcommand hinput⟩
  obtain ⟨code, hcode, hread⟩ := Emitter.emit_eq_ok h
  exact ⟨code, hcode, hread, Emitter.withoutRemarks_banner_iff (withoutRemarks_generate hcode)⟩

open Conformance in
theorem banner_only_comment_iff_echo :
    (∀ line ∈ lines ((echoEmitter "echo.h").banner "echo.json"),
      line = "" ∨ "//".toList <+: line.toList) ∧
    ∃ (world : World) (code : String),
      ((echoEmitter "echo.h").emit "echo.json" echoDefinitions .client : StateM World _).run
        echoWorld = (.ok "echo.h", world) ∧
      Target.cpp.generate echoDefinitions .client = .ok code ∧
      ∃ text, world.files.read "echo.h" = .ok text ∧ withoutRemarks "//" text = code := by
  obtain ⟨hlines, hemit, hjob⟩ := banner_only_comment_iff (echoEmitter "echo.h") "echo.json"
  have hstays := hjob _ _ (echo_job (by decide +kernel)) List.mem_cons_self (by decide +kernel)
  have htarget : echoWorld.files.target "echo.h" = .ok ["echo.h"] := by decide +kernel
  obtain ⟨code, hcode⟩ := echo_generates .client
  have hwrite : echoWorld.files.write "echo.h" ((echoEmitter "echo.h").banner "echo.json" ++ code) =
      .ok _ := FileSystem.write_eq_ok_iff.mpr ⟨_, htarget, rfl⟩
  rw [← echo_header_path .client] at hwrite
  obtain ⟨log, hrun⟩ := @Emitter.ends_emit_of_written (echoEmitter "echo.h") "echo.json"
    echoDefinitions .client _ _ code hcode hwrite echoWorld.log
  rw [echo_header_path] at hrun
  obtain ⟨code', hcode', hread, hleft⟩ := hemit _ _ _ _ _ hrun
  obtain rfl := Except.ok.inj (hcode.symm.trans hcode')
  exact ⟨hlines.mpr hstays, _, code, hrun, hcode, _, hread, hleft.mpr hstays⟩

namespace Conformance

/-- The name of the file has a line feed in it. -/
def brokenRun : Invocation :=
  ⟨"ipcgen", ["a\nb.json"]⟩

/-- The settings of that run. -/
def brokenEmitter : Emitter where
  language := .cpp
  client := ⟨[.filename, .text "-client.", .extension]⟩
  server := ⟨[.filename, .text "-server.", .extension]⟩
  command := brokenRun.command

end Conformance

open Conformance in
/-- **Breaking out.** What follows a line feed in the name of a file stands in the output file as if
it were code. -/
theorem feed_breaks_out :
    brokenRun.job = .ok (brokenEmitter, ["a\nb.json"]) ∧
    (∃ line ∈ lines (brokenEmitter.banner "a\nb.json"),
      ¬(line = "" ∨ brokenEmitter.language.commentMark.toList <+: line.toList)) ∧
    ∃ code, Target.cpp.generate echoDefinitions .client = .ok code ∧
      withoutRemarks "//" (brokenEmitter.banner "a\nb.json" ++ code) ≠ code := by
  have hline : "b.json by running \"ipcgen a" ∈ lines (brokenEmitter.banner "a\nb.json") := by
    decide +kernel
  have hcode : ¬("b.json by running \"ipcgen a" = "" ∨
      brokenEmitter.language.commentMark.toList <+: "b.json by running \"ipcgen a".toList) := by
    decide
  obtain ⟨code, hgenerate⟩ := echo_generates .client
  have hbare : withoutRemarks brokenEmitter.language.commentMark code = code :=
    @withoutRemarks_generate .cpp _ _ _ hgenerate
  have hjob : brokenRun.job = .ok (brokenEmitter, ["a\nb.json"]) :=
    Invocation.job_eq_ok_iff.mpr ⟨⟨["a\nb.json"], none, none, none⟩, rfl, by simp,
      ⟨rfl, Template.parse_clientDefault, Template.parse_serverDefault⟩, rfl, rfl⟩
  refine ⟨hjob, ⟨_, hline, hcode⟩, code, hgenerate, fun hleft => ?_⟩
  have hstays := (Emitter.withoutRemarks_banner_iff hbare).mp hleft
  exact hcode (Emitter.remarks_banner_iff.mpr hstays _ hline)

end Bindery
