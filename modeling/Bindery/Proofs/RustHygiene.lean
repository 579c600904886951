import Bindery.Proofs.Realisation
import Bindery.Proofs.Spellings

/-!
# Hygiene of Rust names

Names that were checked are legal in the language and stay apart where they stand side by side.
What is legal is said here by the language's own list of keywords, not by the words that parameters
are escaped for: every keyword is escaped, and none is that cannot be.

The text declares just these names: a module first, then routines in the order of the plan, each
with the parameters of its message (`NamesPlan`).

Main result: `names_hygienic`.
-/

namespace Bindery.Rust

open Scope Text

/-! ## Legal names -/

/-- The keywords in use. -/
def strictKeywords : List String :=
  ["as", "async", "await", "break", "const", "continue", "crate", "dyn", "else", "enum", "extern",
   "false", "fn", "for", "if", "impl", "in", "let", "loop", "match", "mod", "move", "mut", "pub",
   "ref", "return", "self", "Self", "static", "struct", "super", "trait", "true", "type", "unsafe",
   "use", "where", "while"]

/-- The keywords set aside for later. -/
def futureKeywords : List String :=
  ["abstract", "become", "box", "do", "final", "gen", "macro", "override", "priv", "try", "typeof",
   "unsized", "virtual", "yield"]

def languageKeywords : List String :=
  strictKeywords ++ futureKeywords

/-- The words that stay what they are when they are marked raw. -/
def neverRaw : List String := ["crate", "self", "super", "Self", "_"]

/-- An identifier with a meaning of its own. -/
def IsLegal (name : String) : Prop :=
  isIdentifier name.toList = true ∧ name ≠ "_" ∧ name ∉ languageKeywords

instance (name : String) : Decidable (IsLegal name) :=
  inferInstanceAs (Decidable (_ ∧ _))

/-- A keyword that is marked raw. -/
def IsRaw (name : String) : Prop :=
  ∃ word ∈ languageKeywords, word ∉ neverRaw ∧ name = "r#" ++ word

theorem isLegal_of_isPlain {name : String} (h : IsPlain name) (husable : isUsable name = true)
    (hne : name ≠ "_") (hkeyword : name ∉ languageKeywords) : IsLegal name := by
  obtain ⟨hnil, hdigit⟩ := (isUsable_iff h).mp husable
  exact ⟨isIdentifier_iff.mpr ⟨hnil, hdigit, h⟩, hne, hkeyword⟩

theorem isLegal_moduleName {name : String} (h : isIdentifier name.toList = true) {role : Role}
    (husable : isUsable (moduleName name role) = true) : IsLegal (moduleName name role) := by
  have hunderscore : '_' ∈ (moduleName name role).toList := by simp [moduleName]
  have hlast : (moduleName name role).toList.getLast? ≠ some '_' := by
    cases role <;> simp [moduleName, Role.name]
  refine isLegal_of_isPlain (isPlain_moduleName h role) husable (fun heq => hlast (heq ▸ rfl)) ?_
  intro hmem
  have hplain : ∀ word ∈ languageKeywords, '_' ∉ word.toList := by decide
  exact hplain _ hmem hunderscore

/-- **Escaping.** A parameter that can be used is either no keyword or one that is marked raw. -/
theorem isLegal_or_isRaw_parameterName {name : String} (h : isIdentifier name.toList = true)
    (husable : isUsable (parameterName name) = true)
    (hfree : parameterName name ∉ reservedLocals) :
    IsLegal (parameterName name) ∨ IsRaw (parameterName name) := by
  rcases parameterName_cases name with ⟨hpath, heq⟩ | ⟨hkeyword, heq⟩ | ⟨hpath, hkeyword, heq⟩
  · have hlegal : ∀ word ∈ pathKeywords, IsLegal (word ++ "_") := by decide
    rw [heq]
    exact .inl (hlegal _ hpath)
  · have hraw : ∀ word ∈ keywords, word ∈ languageKeywords ∧ word ∉ neverRaw := by decide
    exact .inr ⟨_, (hraw _ hkeyword).1, (hraw _ hkeyword).2, heq⟩
  · -- The one keyword that is not escaped has a capital.
    have hescaped : ∀ word ∈ languageKeywords,
        word ∈ pathKeywords ∨ word ∈ keywords ∨ 'S' ∈ word.toList := by decide
    rw [heq] at husable hfree ⊢
    have hplain := isPlain_of_isIdentifier h
    refine .inl (isLegal_of_isPlain (isPlain_snakeCase hplain) husable ?_ ?_)
    · intro hunderscore
      exact hfree (hunderscore ▸ List.mem_cons_self)
    · intro hmem
      rcases hescaped _ hmem with hmem | hmem | hcapital
      · exact hpath hmem
      · exact hkeyword hmem
      · exact absurd ((isSnake_snakeCase hplain).isSnakeChar_or_underscore _ hcapital) (by decide)

/-! ## Names side by side -/

/-- The names in the module for a plan. -/
structure PlanHygienic (plan : RolePlan) : Prop where
  /-- The methods of the trait. -/
  methods_nodup : (plan.incoming.map naming.handler ++ plan.outgoing.map naming.sender).Nodup
  methods_free : ∀ name ∈ plan.incoming.map naming.handler ++ plan.outgoing.map naming.sender,
    name ≠ "dispatch" ∧ name ≠ "send"
  /-- The routines of the private module. -/
  readers_nodup : (plan.incoming.map naming.reader).Nodup
  readers_free : ∀ name ∈ plan.incoming.map naming.reader, name ≠ "dispatch"
  /-- The variables of each routine. -/
  parameters_nodup : ∀ message ∈ plan.incoming ++ plan.outgoing, (naming.rendered message).Nodup
  parameters_legal : ∀ message ∈ plan.incoming ++ plan.outgoing,
    ∀ name ∈ naming.rendered message, IsLegal name ∨ IsRaw name
  parameters_free : ∀ message ∈ plan.incoming ++ plan.outgoing,
    ∀ name ∈ naming.rendered message, name ≠ "cursor" ∧ name ≠ "handler" ∧ name ≠ "message"

theorem NamesFit.planHygienic {plan : RolePlan} (h : NamesFit plan) (hnamed : plan.WellNamed) :
    PlanHygienic plan where
  methods_nodup := h.methods.1
  methods_free name hname := by
    simpa [not_or] using (h.methods.2 name hname).2
  readers_nodup := h.readers.1
  readers_free name hname := by
    simpa using (h.readers.2 name hname).2
  parameters_nodup message hmessage := (h.parameters message hmessage).1
  parameters_legal message hmessage name hname := by
    obtain ⟨husable, hfree⟩ := (h.parameters message hmessage).2 name hname
    rw [rendered_eq] at hname
    obtain ⟨p, hp, rfl⟩ := List.mem_map.mp hname
    have hwell := (hnamed.2 message hmessage).parameters.1 p hp
    exact isLegal_or_isRaw_parameterName hwell.1 husable hfree
  parameters_free message hmessage name hname := by
    have hfree := ((h.parameters message hmessage).2 name hname).2
    simp only [reservedLocals, List.mem_cons, not_or] at hfree
    exact ⟨hfree.2.1, hfree.2.2.1, hfree.2.2.2.1⟩

/-! ## Names in texts -/

/-- The text is that of a module of this name, and what it declares has the names of a plan. -/
structure NamesPlan (name : String) (plan : RolePlan) (text : String) : Prop where
  opens : ∃ rest, text = Layout.Line.textOf Target.rust.indentation 0
    [⟨0, "#[allow(clippy::all, unused)]"⟩, ⟨0, "pub mod " ++ name ++ " \x7b"⟩] ++ rest
  /-- The routines, beside the two that dispatch. -/
  routines : (Language.rust.outline text).filterMap Mark.routine? =
    (plan.incoming.map naming.handler ++ plan.outgoing.map naming.sender) ++
      "dispatch" :: plan.incoming.map naming.reader ++ ["dispatch"]
  /-- The parameters of each handler, with some types. -/
  handlers : ∀ message ∈ plan.incoming, ∃ parameters : List (String × String),
    parameters.map Prod.fst = naming.rendered message ∧
    Layout.HasPassage Target.rust.indentation text [⟨0, "fn " ++ naming.handler message ++
      "(&mut self" ++ String.join (parameters.map fun p => ", " ++ p.1 ++ ": " ++ p.2) ++ ");"⟩]
  senders : ∀ message ∈ plan.outgoing, ∃ parameters,
    parameters.map Prod.fst = naming.rendered message ∧
    Language.rust.Takes text (naming.sender message) parameters
  /-- The variables of each routine that reads. -/
  readers : ∀ message ∈ plan.incoming, ∃ locals,
    locals.map Prod.fst = naming.rendered message ∧
    Language.rust.Declares text (naming.reader message) locals

theorem map_fst_typed (spelled : Spelling → String) (message : Message) :
    (Language.rust.typed spelled message).map Prod.fst = naming.rendered message := by
  rw [typed_eq, rendered_eq, List.map_map, Function.comp_def]

theorem namesPlan {interface : Interface} {role : Role} {text : String}
    (h : Target.rust.generateInterface interface role = .ok text) :
    NamesPlan (moduleName interface.name role) (interface.plan role) text := by
  obtain ⟨hwell, -, hrender⟩ := Target.generateInterface_eq_ok_iff.mp h
  refine ⟨?_, ?_, fun message hmem => ?_, fun message hmem => ?_, fun message hmem => ?_⟩
  · exact Layout.exists_rest_of_block (Layout.draws_line rfl) hrender
  · rw [@Language.outline_eq .rust _ _ _ h, Frame.routines_outline]
    simp [Language.frame, frame]
  · have hpassage := passage_handler hrender hmem
    refine ⟨_, map_fst_typed Spelling.receive message, ?_⟩
    rwa [parameterList_eq] at hpassage
  · exact ⟨_, map_fst_typed _ _, Language.rust.takes_sender hmem hrender⟩
  · exact ⟨_, map_fst_typed _ _, Language.rust.declares_reader hmem hrender⟩

/-- The names in the code for a role of all interfaces. -/
structure Hygienic (definitions : Definitions) (role : Role) (text : String) : Prop where
  /-- The modules stand side by side. -/
  modules_nodup :
    (definitions.interfaces.map fun interface => moduleName interface.name role).Nodup
  modules_legal : ∀ interface ∈ definitions.interfaces, IsLegal (moduleName interface.name role)
  /-- The text is made of the modules, and each declares the names of its plan. -/
  plans : ∃ parts, text = "\n".intercalate parts ∧
    List.Forall₂ (fun interface part => ∃ plan,
      RolePlan.ofInterface interface role = .ok plan ∧
      Target.rust.generateInterface interface role = .ok part ∧
      NamesPlan (moduleName interface.name role) plan part ∧
      PlanHygienic plan) definitions.interfaces parts

/-- **Hygiene.** In code that was generated, modules, methods, routines and variables have distinct
names, which the language and the code around them leave free. -/
theorem names_hygienic {definitions : Definitions} {role : Role} {text : String}
    (h : Target.rust.generate definitions role = .ok text) : Hygienic definitions role text := by
  obtain ⟨hmodules, texts, htexts, rfl⟩ := Target.generate_eq_ok_iff.mp h
  have hfit := checkModules_eq_ok_iff.mp hmodules
  refine ⟨hfit.1, fun interface hinterface => ?_, texts, rfl, ?_⟩
  · have hwell := definitions.wellFormed interface hinterface
    exact isLegal_moduleName hwell.1 (hfit.2 _ (List.mem_map_of_mem hinterface)).1
  · refine (forall₂_of_mapM htexts).imp fun interface part hpart => ?_
    obtain ⟨hwell, hnames, -⟩ := Target.generateInterface_eq_ok_iff.mp hpart
    exact ⟨interface.plan role, RolePlan.ofInterface_of_wellFormed hwell role, hpart,
      namesPlan hpart, (checkNames_eq_ok_iff.mp hnames).planHygienic (hwell.wellNamed role)⟩

/-- Names of several words, and a parameter called like a keyword. -/
theorem names_hygienic_conformance :
    ∃ text, Target.rust.generate Conformance.definitions .server = .ok text ∧
      Hygienic Conformance.definitions .server text := by
  obtain ⟨text, h⟩ := (@generate_succeeds_iff Conformance.definitions .server).mpr
    acceptable_conformance
  exact ⟨text, h, names_hygienic h⟩

end Bindery.Rust
