import Bindery.Output.Emitter
import Bindery.Proofs.Splitting
import Mathlib.Data.List.DropRight

/-!
# Output paths

The path of an output file is that of the input's parent with a name put behind it. Nothing of that
is lost: the parent and the name can be read off the path again.

**Tidy paths** (`IsTidy`). A path is tidy if no void components stand at its end. Every parent is
tidy (`isTidy_of_parent?`), because the first fields of a path have the lead that the path has
(`splitLead_of_fields`).

**Joining.** The parent of a tidy path with a file name behind it is the tidy path (`parent?_join`),
and its file name is the file name (`fileName?_join`). Paths that are joined from different
directories or names are therefore different.

Main result: `default_paths_distinct`.
-/

namespace Bindery

open Text

namespace Path

variable {cs : List Char} {fields : List (List Char)}

/-! ## Leads -/

theorem splitLead_text (cs : List Char) : (splitLead cs).1.text ++ (splitLead cs).2 = cs := by
  unfold splitLead
  split <;> rfl

theorem splitLead_lead (lead : Lead) : splitLead lead.text = (lead, []) := by
  cases lead <;> rfl

/-- A lead does not depend on what follows a slash. -/
theorem splitLead_append (h : cs ≠ []) (rest : List Char) :
    splitLead (cs ++ '/' :: rest) = ((splitLead cs).1, (splitLead cs).2 ++ '/' :: rest) := by
  fun_cases splitLead cs with
  | case1 => rfl
  | case2 => rfl
  | case3 => rfl
  | case4 _ hroot hdot hhere =>
    refine splitLead.eq_4 _ (fun more heq => ?_) (fun heq => ?_) fun more heq => ?_
    · obtain ⟨rfl, -⟩ | ⟨tail, rfl, -⟩ := List.append_eq_cons_iff.mp heq
      · exact h rfl
      · exact hroot tail rfl
    · obtain ⟨rfl, -⟩ | ⟨tail, rfl, htail⟩ := List.append_eq_cons_iff.mp heq
      · exact h rfl
      · simp at htail
    · obtain ⟨rfl, -⟩ | ⟨tail, rfl, htail⟩ := List.append_eq_cons_iff.mp heq
      · exact h rfl
      · obtain ⟨rfl, -⟩ | ⟨others, rfl, -⟩ := List.append_eq_cons_iff.mp htail.symm
        · exact hdot rfl
        · exact hhere others rfl

/-- The first fields of a path have its lead. -/
theorem splitLead_of_fields (h : fields <+: (splitLead cs).2.splitOn '/') :
    splitLead ((splitLead cs).1.text ++ ['/'].intercalate fields) =
      ((splitLead cs).1, ['/'].intercalate fields) := by
  generalize hlead : (splitLead cs).1 = lead
  rcases eq_or_ne fields [] with rfl | hne
  · rw [List.intercalate_nil, List.append_nil, splitLead_lead]
  generalize htext : lead.text ++ ['/'].intercalate fields = text
  -- The text and the path have the same lead, or the text is empty and has none.
  have hsame : (splitLead text).1 = lead := by
    have hcs := splitLead_text cs
    obtain hbody | ⟨rest, hbody⟩ := eq_or_eq_append_of_fields h hne
    · rw [hlead, hbody, htext] at hcs
      rw [hcs, hlead]
    · rw [hlead, hbody, ← List.append_assoc, htext] at hcs
      rcases eq_or_ne text [] with rfl | hfull
      · cases lead <;> simp [Lead.text] at htext
        rfl
      · rw [← hlead, ← hcs, splitLead_append hfull]
  have hrest : lead.text ++ (splitLead text).2 = lead.text ++ ['/'].intercalate fields := by
    rw [htext, ← hsame, splitLead_text]
  exact Prod.ext hsame (List.append_cancel_left hrest)

/-! ## Components -/

theorem dropVoid_append {last : List Char} (h : isVoid last = false) (fields : List (List Char)) :
    dropVoid (fields ++ [last]) = fields ++ [last] := by
  simp [dropVoid, h]

theorem dropVoid_isPrefix (fields : List (List Char)) : dropVoid fields <+: fields := by
  rw [← List.reverse_suffix, dropVoid, List.reverse_reverse]
  exact List.dropWhile_suffix isVoid

theorem dropVoid_dropVoid (fields : List (List Char)) :
    dropVoid (dropVoid fields) = dropVoid fields := by
  simp [dropVoid, List.dropWhile_idempotent]

theorem isVoid_getLast?_dropVoid {last : List Char}
    (h : (dropVoid fields).getLast? = some last) : isVoid last = false := by
  rw [dropVoid, List.getLast?_reverse] at h
  simpa [h] using List.head?_dropWhile_not isVoid fields.reverse

theorem components_isPrefix (cs : List Char) : components cs <+: cs.splitOn '/' :=
  dropVoid_isPrefix _

theorem components_intercalate (h : ∀ field ∈ fields, '/' ∉ field) :
    components (['/'].intercalate fields) = dropVoid fields := by
  rcases eq_or_ne fields [] with rfl | hne
  · rfl
  · rw [components, List.splitOn_intercalate '/' h hne]

theorem parent?_of_components_ne {path : String} (h : components (splitLead path.toList).2 ≠ []) :
    parent? path = some (String.ofList ((splitLead path.toList).1.text ++
      ['/'].intercalate (dropVoid (components (splitLead path.toList).2).dropLast))) := by
  unfold parent?
  generalize splitLead path.toList = parts at h ⊢
  obtain ⟨field, fields, hfields⟩ := List.exists_cons_of_ne_nil h
  simp only [hfields]

/-- A path without components has no parent, unless it says that it stands where one is. -/
theorem parent?_of_components_nil {path : String} (h : components (splitLead path.toList).2 = []) :
    parent? path = if (splitLead path.toList).1 = .here then some "" else none := by
  unfold parent?
  generalize splitLead path.toList = parts at h ⊢
  obtain ⟨lead, body⟩ := parts
  simp only [h]
  cases lead <;> rfl

/-! ## Tidy paths -/

/-- No void components stand at the end of the path. -/
def IsTidy (path : String) : Prop :=
  (splitLead path.toList).1.text ++ ['/'].intercalate (components (splitLead path.toList).2) =
    path.toList

theorem isTidy_of_parent? {path directory : String} (h : parent? path = some directory) :
    IsTidy directory := by
  rcases eq_or_ne (components (splitLead path.toList).2) [] with hnil | hne
  · rw [parent?_of_components_nil hnil, Option.ite_none_right_eq_some] at h
    obtain rfl := Option.some.inj h.2
    rfl
  · obtain rfl := Option.some.inj ((parent?_of_components_ne hne).symm.trans h)
    generalize hfields : dropVoid (components (splitLead path.toList).2).dropLast = fields
    have hinit := List.dropLast_prefix (components (splitLead path.toList).2)
    have hfirst : fields <+: (splitLead path.toList).2.splitOn '/' :=
      hfields ▸ ((dropVoid_isPrefix _).trans hinit).trans (components_isPrefix _)
    have hslash : ∀ field ∈ fields, '/' ∉ field := fun field hfield =>
      notMem_of_mem_splitOn (hfirst.subset hfield)
    rw [IsTidy, String.toList_ofList, splitLead_of_fields hfirst, components_intercalate hslash,
      ← hfields, dropVoid_dropVoid]

/-- Of the tidy paths, only the root ends in a slash. -/
theorem IsTidy.eq_root {directory : String} (h : IsTidy directory)
    (hlast : directory.toList.getLast? = some '/') : directory = "/" := by
  rw [← String.toList_inj, ← h]
  rw [← h] at hlast
  generalize splitLead directory.toList = parts at hlast ⊢
  obtain ⟨lead, body⟩ := parts
  rcases List.eq_nil_or_concat' (components body) with hnil | ⟨fields, last, hfields⟩
  · simp only [hnil, List.intercalate_nil, List.append_nil] at hlast ⊢
    cases lead with
    | none => cases hlast
    | root => rfl
    | here => cases hlast
  · -- The last component is not empty and has no slash.
    have hend : (components body).getLast? = some last := by rw [hfields, List.getLast?_concat]
    have hvisible : isVoid last = false := isVoid_getLast?_dropVoid hend
    have hslash : '/' ∉ last :=
      notMem_of_mem_splitOn ((components_isPrefix body).subset (List.mem_of_getLast? hend))
    have hne : last ≠ [] := by
      rintro rfl
      cases hvisible
    obtain ⟨before, hbefore⟩ := @suffix_intercalate _ ['/'] fields last
    rw [hfields, ← hbefore, ← List.append_assoc, List.getLast?_append_of_ne_nil _ hne] at hlast
    exact absurd (List.mem_of_getLast? hlast) hslash

/-! ## Joining -/

/-- What can be put behind a directory as the name of a file. -/
structure IsFileName (name : List Char) : Prop where
  slash : '/' ∉ name
  visible : isVoid name = false
  stays : name ≠ ['.', '.']

section Joining

variable {directory name : String}

theorem IsFileName.components {name : List Char} (h : IsFileName name) :
    components name = [name] := by
  rw [Path.components, List.splitOn_eq_singleton h.slash]
  exact dropVoid_append h.visible []

theorem IsFileName.components_append {name : List Char} (h : IsFileName name) (cs : List Char) :
    Path.components (cs ++ '/' :: name) = cs.splitOn '/' ++ [name] := by
  rw [Path.components, List.splitOn_append_cons_self, List.splitOn_eq_singleton h.slash,
    dropVoid_append h.visible]

/-- **Joining.** The components of a tidy directory come back without void ones, and the name comes
last. -/
theorem components_join (hdirectory : IsTidy directory) (hname : IsFileName name.toList) :
    ∃ fields, components (splitLead (join directory name).toList).2 = fields ++ [name.toList] ∧
      (splitLead (join directory name).toList).1.text ++ ['/'].intercalate (dropVoid fields) =
        directory.toList := by
  have hrelative : name.toList.head? ≠ some '/' := fun h => hname.slash (List.mem_of_mem_head? h)
  rw [join, if_neg hrelative]
  split_ifs with hbase
  · rw [Bool.or_eq_true, String.isEmpty_iff, decide_eq_true_eq] at hbase
    rcases hbase with rfl | hslash
    · have hlead : splitLead name.toList = (.none, name.toList) := by
        refine splitLead.eq_4 _ (fun rest heq => ?_) (fun heq => ?_) fun rest heq => ?_
        · exact hname.slash (heq ▸ List.mem_cons_self)
        · have := hname.visible
          rw [heq] at this
          cases this
        · exact hname.slash (heq ▸ List.mem_cons_of_mem _ List.mem_cons_self)
      refine ⟨[], ?_, ?_⟩
      · rw [String.empty_append, hlead, hname.components, List.nil_append]
      · rw [String.empty_append, hlead]
        rfl
    · obtain rfl := hdirectory.eq_root hslash
      have hlead : splitLead ("/" ++ name).toList = (.root, name.toList) := by
        rw [String.toList_append]
        rfl
      refine ⟨[], ?_, ?_⟩
      · rw [hlead, hname.components, List.nil_append]
      · rw [hlead]
        rfl
  · rw [Bool.or_eq_true, String.isEmpty_iff, decide_eq_true_eq, not_or] at hbase
    have hfull : directory.toList ≠ [] := by simpa using hbase.1
    have hlead := splitLead_append hfull name.toList
    have htext : (directory ++ "/" ++ name).toList = directory.toList ++ '/' :: name.toList := by
      simp
    rw [htext, hlead]
    exact ⟨_, hname.components_append _, hdirectory⟩

theorem suffix_join (directory name : String) : name.toList <:+ (join directory name).toList := by
  unfold join
  split_ifs
  · exact List.suffix_rfl
  · rw [String.toList_append]
    exact List.suffix_append _ _
  · rw [String.toList_append]
    exact List.suffix_append _ _

theorem parent?_join (hdirectory : IsTidy directory) (hname : IsFileName name.toList) :
    parent? (join directory name) = some directory := by
  obtain ⟨fields, hfields, htext⟩ := components_join hdirectory hname
  rw [parent?_of_components_ne (by simp [hfields]), hfields, List.dropLast_concat, htext,
    String.ofList_toList]

theorem fileName?_join (hdirectory : IsTidy directory) (hname : IsFileName name.toList) :
    fileName? (join directory name) = some name := by
  obtain ⟨fields, hfields, -⟩ := components_join hdirectory hname
  simp only [fileName?, hfields, List.getLast?_concat, if_neg hname.stays, String.ofList_toList]

end Joining

theorem isFileName_of_dash {name : List Char} (hslash : '/' ∉ name) (hdash : '-' ∈ name) :
    IsFileName name := by
  refine ⟨hslash, ?_, ?_⟩
  · rw [isVoid, Bool.or_eq_false_iff, beq_eq_false_iff_ne, beq_eq_false_iff_ne]
    constructor <;> (rintro rfl; simp at hdash)
  · rintro rfl
    simp at hdash

/-! ## Stems -/

theorem slash_notMem_of_fileName? {path name : String} (h : fileName? path = some name) :
    '/' ∉ name.toList := by
  unfold fileName? at h
  split at h
  case h_2 => cases h
  case h_1 last hlast =>
    rw [Option.ite_none_left_eq_some] at h
    rw [← Option.some.inj h.2, String.toList_ofList]
    exact notMem_of_mem_splitOn ((components_isPrefix _).subset (List.mem_of_getLast? hlast))

theorem stemOf_subset (name : List Char) : stemOf name ⊆ name := by
  unfold stemOf
  split
  case h_1 => exact List.Subset.refl name
  case h_2 before hbefore =>
    intro c hc
    have hrest := (List.drop_suffix 1 _).subset (List.mem_reverse.mp hc)
    exact List.mem_reverse.mp ((List.dropWhile_suffix _).subset hrest)

theorem slash_notMem_of_fileStem? {path stem : String} (h : fileStem? path = some stem) :
    '/' ∉ stem.toList := by
  obtain ⟨name, hname, rfl⟩ := Option.map_eq_some_iff.mp h
  rw [String.toList_ofList]
  exact fun hslash => slash_notMem_of_fileName? hname (stemOf_subset _ hslash)

end Path

/-! ## Output files -/

open Bindery.Path

theorem Template.parse_clientDefault :
    parse clientDefault = .ok ⟨[.filename, .text "-client.", .extension]⟩ := by
  decide +kernel

theorem Template.parse_serverDefault :
    parse serverDefault = .ok ⟨[.filename, .text "-server.", .extension]⟩ := by
  decide +kernel

namespace Emitter

section Defaults

variable {emitter : Emitter} (hclient : Template.parse Template.clientDefault = .ok emitter.client)
  (hserver : Template.parse Template.serverDefault = .ok emitter.server)

include hclient hserver

theorem expand_default (role : Role) (filename extension : String) :
    (emitter.template role).expand filename extension =
      filename ++ ("-" ++ role.name ++ "." ++ extension) := by
  cases role with
  | client =>
    rw [template, Except.ok.inj (hclient.symm.trans Template.parse_clientDefault)]
    simp [Template.expand, Role.name]
  | server =>
    rw [template, Except.ok.inj (hserver.symm.trans Template.parse_serverDefault)]
    simp [Template.expand, Role.name]

/-- The parent and the name that an output path is joined from can be read off it. -/
theorem outputPath_parts (input : String) (role : Role) :
    parent? (emitter.outputPath input role) = some ((parent? input).getD "") ∧
    fileName? (emitter.outputPath input role) = some ((fileStem? input).getD "" ++
      ("-" ++ role.name ++ "." ++ emitter.language.extension)) := by
  have htidy : IsTidy ((parent? input).getD "") := by
    cases hparent : parent? input with
    | none => rfl
    | some directory => exact isTidy_of_parent? hparent
  have hstem : '/' ∉ ((fileStem? input).getD "").toList := by
    cases hstem : fileStem? input with
    | none => exact List.not_mem_nil
    | some stem => exact slash_notMem_of_fileStem? hstem
  have hending : '/' ∉ ("-" ++ role.name ++ "." ++ emitter.language.extension).toList := by
    cases role <;> cases emitter.language <;> decide
  have hname : IsFileName ((fileStem? input).getD "" ++
      ("-" ++ role.name ++ "." ++ emitter.language.extension)).toList := by
    refine isFileName_of_dash ?_ (by simp)
    rw [String.toList_append, List.mem_append]
    exact not_or.mpr ⟨hstem, hending⟩
  rw [outputPath, expand_default hclient hserver]
  exact ⟨parent?_join htidy hname, fileName?_join htidy hname⟩

theorem suffix_outputPath (input : String) (role : Role) :
    emitter.language.extension.toList <:+ (emitter.outputPath input role).toList := by
  rw [outputPath, expand_default hclient hserver, ← String.append_assoc]
  exact .trans (by rw [String.toList_append]; exact List.suffix_append _ _) (suffix_join _ _)

end Defaults

theorem ending_inj {extension stem stem' : String} {role role' : Role}
    (h : stem ++ ("-" ++ role.name ++ "." ++ extension) =
      stem' ++ ("-" ++ role'.name ++ "." ++ extension)) : role = role' ∧ stem = stem' := by
  have hlength : ("-" ++ role.name ++ "." ++ extension).toList.length =
      ("-" ++ role'.name ++ "." ++ extension).toList.length := by
    cases role <;> cases role' <;> simp [Role.name]
  have htext : stem.toList ++ ("-" ++ role.name ++ "." ++ extension).toList =
      stem'.toList ++ ("-" ++ role'.name ++ "." ++ extension).toList := by
    rw [← String.toList_append, h, String.toList_append]
  obtain ⟨hstem, hending⟩ := List.append_inj' htext hlength
  refine ⟨?_, String.toList_inj.mp hstem⟩
  cases role <;> cases role' <;> simp [Role.name] at hending ⊢

end Emitter

/-- **Default output paths.** Unless the user says otherwise, two output files have the same path
exactly if they are for the same role and the input files have the same parent and the same stem.
An output file lies next to its input file and has its stem, and it never has the ending of input
files. -/
theorem default_paths_distinct {emitter : Emitter}
    (hclient : Template.parse Template.clientDefault = .ok emitter.client)
    (hserver : Template.parse Template.serverDefault = .ok emitter.server)
    (input : String) (role : Role) :
    (∀ input' role', emitter.outputPath input role = emitter.outputPath input' role' ↔
      role = role' ∧ (parent? input).getD "" = (parent? input').getD "" ∧
        (fileStem? input).getD "" = (fileStem? input').getD "") ∧
    (fileName? input ≠ none → ∃ directory stem,
      parent? input = some directory ∧ fileStem? input = some stem ∧
      parent? (emitter.outputPath input role) = some directory ∧
      fileName? (emitter.outputPath input role) =
        some (stem ++ ("-" ++ role.name ++ "." ++ emitter.language.extension))) ∧
    ∀ path, ".json".toList <:+ path.toList → emitter.outputPath input role ≠ path := by
  obtain ⟨hparent, hname⟩ := emitter.outputPath_parts hclient hserver input role
  refine ⟨fun input' role' => ⟨fun heq => ?_, ?_⟩, fun hfile => ?_, fun path hjson heq => ?_⟩
  · obtain ⟨hparent', hname'⟩ := emitter.outputPath_parts hclient hserver input' role'
    rw [← heq] at hparent' hname'
    obtain ⟨hrole, hstem⟩ := Emitter.ending_inj (Option.some.inj (hname.symm.trans hname'))
    exact ⟨hrole, Option.some.inj (hparent.symm.trans hparent'), hstem⟩
  · rintro ⟨rfl, hdirectory, hstem⟩
    rw [Emitter.outputPath, Emitter.outputPath, hdirectory, hstem]
  · obtain ⟨name, hsome⟩ := Option.ne_none_iff_exists'.mp hfile
    have hcomponents : components (splitLead input.toList).2 ≠ [] := by
      intro hnil
      simp [fileName?, hnil] at hsome
    have hdirectory := parent?_of_components_ne hcomponents
    obtain ⟨stem, hstem⟩ : ∃ stem, fileStem? input = some stem := by simp [fileStem?, hsome]
    rw [hdirectory] at hparent
    rw [hstem] at hname
    exact ⟨_, _, hdirectory, hstem, hparent, hname⟩
  · obtain ⟨before, hbefore⟩ := hjson
    obtain ⟨before', hbefore'⟩ := emitter.suffix_outputPath hclient hserver input role
    have hends : (emitter.outputPath input role).toList.getLast? = some 'n' := by
      rw [heq, ← hbefore, List.getLast?_append_of_ne_nil _ (by decide)]
      rfl
    rw [← hbefore'] at hends
    cases hlanguage : emitter.language <;> simp [hlanguage, Language.extension] at hends

theorem default_paths_distinct_echo :
    ∃ emitter : Emitter, Template.parse Template.clientDefault = .ok emitter.client ∧
      Template.parse Template.serverDefault = .ok emitter.server ∧
      emitter.outputPath "a//b/./echo.v2.json" .client =
        emitter.outputPath "a//b/echo.v2.txt/" .client ∧
      emitter.outputPath "a//b/./echo.v2.json" .client ≠
        emitter.outputPath "a//b/echo.v2.txt/" .server ∧
      parent? (emitter.outputPath "a//b/./echo.v2.json" .client) = some "a//b" ∧
      fileName? (emitter.outputPath "a//b/./echo.v2.json" .client) = some "echo.v2-client.h" ∧
      emitter.outputPath "a//b/./echo.v2.json" .client ≠ "a//b/echo.v2-client.json" := by
  have hparent : parent? "a//b/./echo.v2.json" = some "a//b" := by decide +kernel
  have hparent' : parent? "a//b/echo.v2.txt/" = some "a//b" := by decide +kernel
  have hstem : fileStem? "a//b/./echo.v2.json" = some "echo.v2" := by decide +kernel
  have hstem' : fileStem? "a//b/echo.v2.txt/" = some "echo.v2" := by decide +kernel
  refine ⟨⟨.cpp, _, _, "ipcgen a//b/./echo.v2.json"⟩, Template.parse_clientDefault,
    Template.parse_serverDefault, ?_⟩
  obtain ⟨hsame, hnext, hjson⟩ :=
    @default_paths_distinct ⟨.cpp, _, _, "ipcgen a//b/./echo.v2.json"⟩
      Template.parse_clientDefault Template.parse_serverDefault "a//b/./echo.v2.json" .client
  obtain ⟨directory, stem, hdirectory, hname, hout, hout'⟩ :=
    hnext (by decide +kernel)
  obtain rfl := Option.some.inj (hparent.symm.trans hdirectory)
  obtain rfl := Option.some.inj (hstem.symm.trans hname)
  refine ⟨(hsame _ _).mpr ⟨rfl, ?_, ?_⟩, fun heq => ?_, hout, hout', hjson _ (by decide)⟩
  · rw [hparent, hparent']
  · rw [hstem, hstem']
  · cases ((hsame _ _).mp heq).1

end Bindery
