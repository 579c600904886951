import Bindery.Proofs.CppAcceptance
import Mathlib.Data.List.Perm.Basic

/-!
# Hygiene of C++ names

Names that were checked stay apart from each other. From the words around them they stay apart only
as far as the lists of words go that they are checked against, and these lists are not complete.

**Parameters.** A parameter is mistaken if the language or the body of its routine gives its name
another meaning (`Routine.Mistakes`). All words of a routine are known, so it can be said exactly
which names these are: keywords that are not escaped for, and types that the body names
(`mistakes_iff`).

**Classes.** Members never clash, and no two classes do. Only the name of the class itself is not
checked against its members. Pieced together from other parts, it is still the name of a routine
that sends if the interface starts like one and the rpc ends like a class
(`sender_eq_className_iff`).

Main results: `parameters_mistaken_iff` and `classes_apart`.
-/

namespace Bindery.Cpp

open Scope

/-! ## Parameters taken for something else -/

/-- The keywords of the language, with those that stand for operators. -/
def languageKeywords : List String :=
  ["alignas", "alignof", "asm", "auto", "bool", "break", "case", "catch", "char", "char8_t",
   "char16_t", "char32_t", "class", "concept", "const", "consteval", "constexpr", "constinit",
   "const_cast", "continue", "co_await", "co_return", "co_yield", "decltype", "default", "delete",
   "do", "double", "dynamic_cast", "else", "enum", "explicit", "export", "extern", "false", "float",
   "for", "friend", "goto", "if", "inline", "int", "long", "mutable", "namespace", "new",
   "noexcept", "nullptr", "operator", "private", "protected", "public", "register",
   "reinterpret_cast", "requires", "return", "short", "signed", "sizeof", "static",
   "static_assert", "static_cast", "struct", "switch", "template", "this", "thread_local", "throw",
   "true", "try", "typedef", "typeid", "typename", "union", "unsigned", "using", "virtual", "void",
   "volatile", "wchar_t", "while", "and", "and_eq", "bitand", "bitor", "compl", "not", "not_eq",
   "or", "or_eq", "xor", "xor_eq"]

/-- The keywords that parameters are not escaped for. -/
def unescapedKeywords : List String :=
  languageKeywords.filter fun word => !keywords.contains word

/-- A parameter with a name that the language has a use for, or the body for something else. The
first line, where types stand between the parameters, does not count. -/
def Routine.Mistakes (routine : Routine) (name : String) : Prop :=
  .parameter name ∈ routine.head ++ routine.body ∧
    (name ∈ languageKeywords ∨ .other name ∈ routine.body)

instance (routine : Routine) (name : String) : Decidable (routine.Mistakes name) :=
  inferInstanceAs (Decidable (_ ∧ _))

/-- The routines of a class mistake no parameter. -/
def Hygienic (plan : RolePlan) : Prop :=
  ∀ routine ∈ shownRoutines plan ++ hiddenRoutines plan, ∀ name, ¬routine.Mistakes name

/-- A word that escaping neither changes nor leads to. -/
def Unescaped (word : String) : Prop :=
  word ∉ keywords ∧ word.toList.getLast? ≠ some '_'

instance (word : String) : Decidable (Unescaped word) :=
  inferInstanceAs (Decidable (_ ∧ _))

theorem unescaped_of_mem_unescapedKeywords : ∀ word ∈ unescapedKeywords, Unescaped word := by
  have hend : ∀ word ∈ languageKeywords, word.toList.getLast? ≠ some '_' := by decide +kernel
  intro word hword
  obtain ⟨hlanguage, hkeyword⟩ := List.mem_filter.mp hword
  exact ⟨by simpa using hkeyword, hend word hlanguage⟩

theorem parameterName_eq_of_unescaped {name word : String} (h : Unescaped word) :
    parameterName name = word ↔ name = word := by
  rcases parameterName_cases name with ⟨hkeyword, heq⟩ | ⟨-, heq⟩
  · have hne : name ≠ word := fun hname => h.1 (hname ▸ hkeyword)
    have hescaped : name ++ "_" ≠ word := by
      intro hname
      refine h.2 ?_
      simp [← hname]
    simp [heq, hescaped, hne]
  · rw [heq]

theorem parameterName_notMem_keywords (name : String) : parameterName name ∉ keywords := by
  rcases parameterName_cases name with ⟨hkeyword, heq⟩ | ⟨hfree, heq⟩
  · rw [heq]
    exact escape_notMem_keywords name hkeyword
  · rwa [heq]

section Messages

variable {message : Message} {name : String}

theorem mem_rendered_of_unescaped (h : Unescaped name) :
    name ∈ naming.rendered message ↔ name ∈ message.parameters.map Parameter.name := by
  rw [rendered_eq, List.mem_map]
  simp only [parameterName_eq_of_unescaped h, exists_eq_right]

theorem notMem_keywords_of_mem_rendered (h : name ∈ naming.rendered message) :
    name ∉ keywords := by
  rw [rendered_eq] at h
  obtain ⟨source, -, rfl⟩ := List.mem_map.mp h
  exact parameterName_notMem_keywords source

/-- **Mistaken parameters.** If the body of a routine has a use for `taken` and else only for words
that no parameter can be called, then the parameters it mistakes are known from their definition. -/
theorem mistakes_iff {routine : Routine} {taken : List String}
    (hparameter : .parameter name ∈ routine.head ++ routine.body ↔ name ∈ naming.rendered message)
    (htaken : ∀ word ∈ taken, Unescaped word ∧ .other word ∈ routine.body)
    (hother : name ∈ naming.rendered message → .other name ∈ routine.body →
      name ∈ languageKeywords ∨ name ∈ taken) :
    routine.Mistakes name ↔
      name ∈ message.parameters.map Parameter.name ∧ name ∈ unescapedKeywords ++ taken := by
  have hknown : ∀ word ∈ unescapedKeywords ++ taken, Unescaped word :=
    List.forall_mem_append.mpr
      ⟨unescaped_of_mem_unescapedKeywords, fun word hword => (htaken word hword).1⟩
  rw [Routine.Mistakes, hparameter]
  constructor
  · intro ⟨hname, huse⟩
    have hpitfall : name ∈ unescapedKeywords ++ taken := by
      have hescaped := notMem_keywords_of_mem_rendered hname
      rcases huse.elim .inl (hother hname) with hword | hword
      · exact List.mem_append_left _ (List.mem_filter.mpr ⟨hword, by simp [hescaped]⟩)
      · exact List.mem_append_right _ hword
    exact ⟨(mem_rendered_of_unescaped (hknown name hpitfall)).mp hname, hpitfall⟩
  · intro ⟨hname, hpitfall⟩
    refine ⟨(mem_rendered_of_unescaped (hknown name hpitfall)).mpr hname, ?_⟩
    exact (List.mem_append.mp hpitfall).imp (fun hword => (List.mem_filter.mp hword).1)
      fun hword => (htaken name hword).2

theorem parameter_mem_parameterWords {parameters : List Parameter} :
    .parameter name ∈ parameterWords parameters ↔
      name ∈ (parameters.map Parameter.name).map parameterName := by
  unfold parameterWords
  split
  · rename_i hempty
    simp [List.isEmpty_iff.mp hempty]
  · simp [eq_comm]

theorem mistakes_handler_iff :
    (handlerRoutine message).Mistakes name ↔
      name ∈ message.parameters.map Parameter.name ∧ name ∈ unescapedKeywords := by
  have h := @mistakes_iff message name (handlerRoutine message) [] ?_ (by simp) ?_
  · simpa using h
  · simp [handlerRoutine, parameter_mem_parameterWords, rendered_eq]
  · simp [handlerRoutine]

/-- What the body of a routine that sends says beside its parameters. -/
theorem other_of_mem_sender (h : .other name ∈ (senderRoutine message).body) :
    name ∈ ["static_cast", "int16_t"] ∨ name ∈ reservedLocals := by
  simp only [senderRoutine, List.mem_append, List.mem_map, List.mem_flatMap, List.mem_cons] at h
  simp only [reservedLocals, List.mem_cons]
  grind

theorem mistakes_sender_iff (h : Fits reservedLocals (naming.rendered message)) :
    (senderRoutine message).Mistakes name ↔
      name ∈ message.parameters.map Parameter.name ∧
        name ∈ unescapedKeywords ++ ["int16_t"] := by
  refine mistakes_iff ?_ ?_ ?_
  · rw [rendered_eq]
    simp [senderRoutine, parameter_mem_parameterWords, eq_comm]
  · simp only [List.forall_mem_singleton]
    exact ⟨by decide, by simp [senderRoutine]⟩
  · intro hname huse
    rcases other_of_mem_sender huse with hword | hreserved
    · have hcast : "static_cast" ∈ languageKeywords := by decide
      rcases List.mem_cons.mp hword with rfl | hword
      · exact .inl hcast
      · exact .inr hword
    · exact absurd hreserved (h.2 name hname).2

/-- The words of the types that a routine declares its variables with. -/
def declaredTypes (message : Message) : List String :=
  message.parameters.flatMap fun p => typeWords p.type

theorem unescaped_of_mem_typeWords {type : ParamType} :
    ∀ word ∈ typeWords type, Unescaped word := by
  have hnames : ∀ s : Scalar, Unescaped (scalarWord s) := by
    intro s
    cases s <;> decide
  have hvector : Unescaped "vector" := by decide
  induction type with
  | scalar s => simpa [typeWords] using hnames s
  | repeated element ih => exact List.forall_mem_cons.mpr ⟨hvector, ih⟩

/-- What the body of a routine that reads says beside its parameters. -/
theorem other_of_mem_reader (h : .other name ∈ (readerRoutine message).body) :
    name ∈ ["if", "return", "false", "true"] ∨ name ∈ reservedLocals ∨
      name = naming.handler message ∨ name ∈ declaredTypes message := by
  simp only [readerRoutine, List.mem_append, List.mem_map, List.mem_flatMap, List.mem_cons] at h
  simp only [reservedLocals, declaredTypes, List.mem_cons, List.mem_flatMap]
  grind

theorem mistakes_reader_iff
    (h : Fits reservedLocals (naming.handler message :: naming.rendered message)) :
    (readerRoutine message).Mistakes name ↔
      name ∈ message.parameters.map Parameter.name ∧
        name ∈ unescapedKeywords ++ declaredTypes message := by
  refine mistakes_iff ?_ ?_ ?_
  · rw [rendered_eq]
    simp only [readerRoutine, List.mem_append, List.mem_map, List.mem_flatMap, List.mem_cons]
    grind
  · intro word hword
    obtain ⟨p, hp, htype⟩ := List.mem_flatMap.mp hword
    refine ⟨unescaped_of_mem_typeWords word htype, ?_⟩
    simp only [readerRoutine, List.mem_append, List.mem_map, List.mem_flatMap]
    grind
  · intro hname huse
    have hkeywords : ∀ word ∈ ["if", "return", "false", "true"], word ∈ languageKeywords := by
      decide
    rcases other_of_mem_reader huse with hword | hreserved | hhandler | htype
    · exact .inl (hkeywords name hword)
    · exact absurd hreserved (h.2 name (List.mem_cons_of_mem _ hname)).2
    · exact absurd (hhandler ▸ hname) (List.nodup_cons.mp h.1).1
    · exact .inr htype

end Messages

/-- Dispatching has no parameters of messages. -/
theorem not_mistakes_dispatcher (messages : List Message) (name : String) :
    ¬(dispatcherRoutine messages).Mistakes name := by
  intro h
  have hparameter := h.1
  simp [dispatcherRoutine] at hparameter

/-- **Hygienic classes.** -/
theorem hygienic_iff {plan : RolePlan} (h : NamesFit plan) :
    Hygienic plan ↔
      (∀ message ∈ plan.incoming, ∀ name ∈ message.parameters.map Parameter.name,
        name ∉ unescapedKeywords ++ declaredTypes message) ∧
      ∀ message ∈ plan.outgoing, ∀ name ∈ message.parameters.map Parameter.name,
        name ∉ unescapedKeywords ++ ["int16_t"] := by
  have hincoming : ∀ message ∈ plan.incoming,
      ((∀ name, ¬(handlerRoutine message).Mistakes name) ∧
        ∀ name, ¬(readerRoutine message).Mistakes name) ↔
      ∀ name ∈ message.parameters.map Parameter.name,
        name ∉ unescapedKeywords ++ declaredTypes message := by
    intro message hmessage
    simp only [mistakes_handler_iff, mistakes_reader_iff (h.incoming message hmessage)]
    grind
  have houtgoing : ∀ message ∈ plan.outgoing,
      (∀ name, ¬(senderRoutine message).Mistakes name) ↔
      ∀ name ∈ message.parameters.map Parameter.name,
        name ∉ unescapedKeywords ++ ["int16_t"] := by
    intro message hmessage
    simp only [mistakes_sender_iff (h.outgoing message hmessage)]
    grind
  rw [← forall₂_congr hincoming, ← forall₂_congr houtgoing]
  simp only [Hygienic, shownRoutines, hiddenRoutines, List.forall_mem_append, List.forall_mem_map,
    List.forall_mem_singleton, not_mistakes_dispatcher, not_false_eq_true, implies_true, and_true]
  grind

/-- The words of generated code. -/
theorem wordsOf_eq {interface : Interface} {role : Role} {text : String}
    (h : Target.cpp.generateInterface interface role = .ok text) :
    wordsOf text = classWords (interface.plan role) := by
  obtain ⟨hwell, -, hrender⟩ := Target.generateInterface_eq_ok_iff.mp h
  obtain ⟨text', hrender', hwords⟩ := wordsOf_classLayout (hwell.wellNamed role)
  obtain rfl : text' = text := Option.some.inj (hrender'.symm.trans hrender)
  exact hwords

/-- **Parameters.** The words of generated code are those of the plan's routines. There a parameter
is mistaken exactly if it is called like a keyword that is not escaped for, like the type that
opcodes are cast to (where it is sent), or like a type in the message (where it is read). -/
theorem parameters_mistaken_iff {interface : Interface} {role : Role} {text : String}
    (h : Target.cpp.generateInterface interface role = .ok text) :
    ∃ plan, RolePlan.ofInterface interface role = .ok plan ∧ wordsOf text = classWords plan ∧
      (∀ message ∈ plan.incoming, ∀ name,
        ((handlerRoutine message).Mistakes name ↔
          name ∈ message.parameters.map Parameter.name ∧ name ∈ unescapedKeywords) ∧
        ((readerRoutine message).Mistakes name ↔
          name ∈ message.parameters.map Parameter.name ∧
            name ∈ unescapedKeywords ++ declaredTypes message)) ∧
      (∀ message ∈ plan.outgoing, ∀ name,
        (senderRoutine message).Mistakes name ↔
          name ∈ message.parameters.map Parameter.name ∧
            name ∈ unescapedKeywords ++ ["int16_t"]) ∧
      (Hygienic plan ↔
        (∀ message ∈ plan.incoming, ∀ name ∈ message.parameters.map Parameter.name,
          name ∉ unescapedKeywords ++ declaredTypes message) ∧
        ∀ message ∈ plan.outgoing, ∀ name ∈ message.parameters.map Parameter.name,
          name ∉ unescapedKeywords ++ ["int16_t"]) := by
  obtain ⟨hwell, hnames, -⟩ := Target.generateInterface_eq_ok_iff.mp h
  have hfit := checkNames_eq_ok_iff.mp hnames
  refine ⟨interface.plan role, RolePlan.ofInterface_of_wellFormed hwell role, wordsOf_eq h,
    fun message hmessage name => ⟨mistakes_handler_iff, ?_⟩, fun message hmessage name => ?_,
    hygienic_iff hfit⟩
  · exact mistakes_reader_iff (hfit.incoming message hmessage)
  · exact mistakes_sender_iff (hfit.outgoing message hmessage)

/-- Parameters that are called like types, each in a message where its routine has no use for the
type. -/
def mixed : Interface where
  name := "Mixed"
  sends := [{ name := "Put", request := [⟨"vector", .scalar .u8⟩, ⟨"nullptr_", .scalar .text⟩],
              reply := [⟨"int16_t", .repeated (.scalar .u32)⟩] }]

theorem parameters_mistaken_iff_mixed :
    ∃ text plan, Target.cpp.generateInterface mixed .client = .ok text ∧
      RolePlan.ofInterface mixed .client = .ok plan ∧ wordsOf text = classWords plan ∧
      Hygienic plan := by
  have hwell : mixed.WellFormed := by decide
  obtain ⟨text, h⟩ := (@generateInterface_succeeds_iff mixed hwell .client).mpr (by decide +kernel)
  obtain ⟨plan, hplan, hwords, -, -, hhygienic⟩ := parameters_mistaken_iff h
  refine ⟨text, plan, h, hplan, hwords, hhygienic.mpr ?_⟩
  obtain ⟨-, rfl⟩ := RolePlan.ofInterface_eq_ok_iff.mp hplan
  decide +kernel

/-- A port is opened by a pointer, which is sent as a number. -/
def ports : Interface where
  name := "Ports"
  sends := [{ name := "Open", request := [⟨"nullptr", .scalar .u8⟩] }]

/-- A keyword that is not escaped for becomes a parameter. -/
theorem ports_not_hygienic :
    ∃ text, Target.cpp.generateInterface ports .client = .ok text ∧
      wordsOf text = classWords (ports.plan .client) ∧ ¬Hygienic (ports.plan .client) := by
  have hwell : ports.WellFormed := by decide
  obtain ⟨text, h⟩ := (@generateInterface_succeeds_iff ports hwell .client).mpr (by decide +kernel)
  refine ⟨text, h, wordsOf_eq h, ?_⟩
  rw [hygienic_iff ((namesFit_plan_iff hwell .client).mpr (by decide +kernel))]
  decide +kernel

/-! ## Classes and members -/

/-- The members of a class, in the order in which they stand. -/
def memberNames (plan : RolePlan) : List String :=
  plan.incoming.map naming.handler ++ plan.outgoing.map naming.sender ++
    plan.incoming.map naming.reader ++ ["Dispatch"]

theorem nodup_memberNames {plan : RolePlan} (h : Fits ["Dispatch"] (members plan)) :
    (memberNames plan).Nodup := by
  have hpairs : (plan.incoming.map naming.handler ++ plan.incoming.map naming.reader).Perm
      (plan.incoming.flatMap fun message => [naming.handler message, naming.reader message]) := by
    rw [List.map_eq_flatMap, List.map_eq_flatMap]
    exact List.flatMap_append_perm _ _ _
  have hperm : (plan.incoming.map naming.handler ++ plan.outgoing.map naming.sender ++
      plan.incoming.map naming.reader).Perm (members plan) := by
    rw [List.append_assoc]
    refine ((List.perm_append_comm).append_left _).trans ?_
    rw [← List.append_assoc]
    exact hpairs.append_right _
  refine List.nodup_append.mpr ⟨hperm.nodup_iff.mpr h.1, List.nodup_singleton _, ?_⟩
  intro name hname other hother heq
  exact (h.2 name (hperm.mem_iff.mp hname)).2 (heq ▸ hother)

/-- How the name of a routine that sends begins. -/
def senderStem : Leg → String
  | .request => "SendRequest"
  | .reply => "SendReplyFor"

theorem sender_eq (message : Message) :
    naming.sender message = senderStem message.leg ++ message.rpc.name := by
  obtain ⟨rpc, leg, opcode⟩ := message
  cases leg <;> rfl

/-- The interface starts like a routine that sends, and the rpc goes on like the name of the class
does behind that. -/
def TakesClassName (interface : String) (role : Role) (message : Message) : Prop :=
  ∃ stem, interface = senderStem message.leg ++ stem ∧
    message.rpc.name = stem ++ (role.label ++ "Ipc")

/-- No part of how a routine that sends begins is how the name of a class ends. -/
theorem drop_senderStem_prefix (leg : Leg) (role : Role) : ∀ n < 13,
    (senderStem leg).toList.drop n <+: (role.label ++ "Ipc").toList →
      (senderStem leg).toList.drop n = [] := by
  cases leg <;> cases role <;> decide

theorem sender_eq_className_iff {interface : String} {role : Role} {message : Message} :
    naming.sender message = className interface role ↔ TakesClassName interface role message := by
  rw [sender_eq, className, String.append_assoc]
  constructor
  · intro h
    have hchars := congrArg String.toList h
    rw [String.toList_append, String.toList_append] at hchars
    rcases List.append_eq_append_iff.mp hchars with ⟨stem, hinterface, hrpc⟩ | ⟨tail, hstem, hclass⟩
    · refine ⟨String.ofList stem, ?_, ?_⟩
      · simp [← String.toList_inj, hinterface]
      · simp only [← String.toList_inj, String.toList_append, String.toList_ofList]
        simpa using hrpc
    · -- The interface ends within the stem, so the stem would go on like the class does.
      have hdrop : (senderStem message.leg).toList.drop interface.toList.length = tail := by
        rw [hstem, List.drop_left]
      have hlength : interface.toList.length < 13 := by
        have hstems : (senderStem message.leg).toList.length < 13 := by
          cases message.leg <;> decide
        rw [hstem, List.length_append] at hstems
        omega
      have hnone := drop_senderStem_prefix message.leg role _ hlength
        (hdrop.symm ▸ ⟨_, hclass.symm⟩)
      rw [hdrop] at hnone
      subst hnone
      rw [List.append_nil, String.toList_inj] at hstem
      refine ⟨"", by simp [hstem], ?_⟩
      simpa [← String.toList_inj] using hclass.symm
  · rintro ⟨stem, rfl, hrpc⟩
    rw [hrpc, String.append_assoc]

theorem getLast?_toList_append {a b : String} {c : Char} (h : b.toList.getLast? = some c) :
    (a ++ b).toList.getLast? = some c := by
  rw [String.toList_append, List.getLast?_append, h, Option.some_or]

theorem getLast?_className (interface : String) (role : Role) :
    (className interface role).toList.getLast? = some 'c' :=
  getLast?_toList_append (by decide)

/-- The class is no handler, no reader and not the dispatcher, since these end in other letters. -/
theorem className_mem_memberNames {interface : String} {role : Role} {plan : RolePlan} :
    className interface role ∈ memberNames plan ↔
      ∃ message ∈ plan.outgoing, TakesClassName interface role message := by
  have hclass := getLast?_className interface role
  have hleg : ∀ message : Message,
      (naming.handler message).toList.getLast? ≠ some 'c' ∧
      (naming.reader message).toList.getLast? ≠ some 'c' := by
    intro message
    obtain ⟨d, hlabel, hne⟩ :
        ∃ d, message.leg.label.toList.getLast? = some d ∧ some d ≠ some 'c' := by
      cases message.leg with
      | request => exact ⟨'t', by decide, by decide⟩
      | reply => exact ⟨'y', by decide, by decide⟩
    have hname := @getLast?_toList_append message.rpc.name _ _ hlabel
    rw [handler_eq, reader_eq, getLast?_toList_append hname, getLast?_toList_append hname]
    exact ⟨hne, hne⟩
  have hhandlers : className interface role ∉ plan.incoming.map naming.handler := by
    intro hmem
    obtain ⟨message, -, heq⟩ := List.mem_map.mp hmem
    exact (hleg message).1 (heq ▸ hclass)
  have hreaders : className interface role ∉ plan.incoming.map naming.reader := by
    intro hmem
    obtain ⟨message, -, heq⟩ := List.mem_map.mp hmem
    exact (hleg message).2 (heq ▸ hclass)
  have hdispatcher : className interface role ≠ "Dispatch" := by
    intro heq
    rw [heq] at hclass
    exact absurd hclass (by decide)
  simp only [memberNames, List.mem_append, List.mem_singleton, hhandlers, hreaders, hdispatcher,
    List.mem_map, sender_eq_className_iff, false_or, or_false]

theorem className_ne_baseClass (interface : String) (role : Role) :
    className interface role ≠ baseClass role := by
  intro heq
  have hbase : (baseClass role).toList.getLast? = some 'e' := getLast?_toList_append (by decide)
  rw [← heq, getLast?_className] at hbase
  exact absurd hbase (by decide)

/-- The names of the classes for a role of all interfaces, and of their members. -/
structure ClassesApart (definitions : Definitions) (role : Role) : Prop where
  classes_nodup : (definitions.interfaces.map fun interface => className interface.name role).Nodup
  base_free : ∀ interface ∈ definitions.interfaces, className interface.name role ≠ baseClass role
  /-- The class begins with its name and its base, and it has the members of its plan. -/
  members : ∀ interface ∈ definitions.interfaces, ∃ plan text,
    RolePlan.ofInterface interface role = .ok plan ∧
    Target.cpp.generateInterface interface role = .ok text ∧
    ["class", className interface.name role, "public", baseClass role, "public"] <+: wordsOf text ∧
    (Language.cpp.outline text).filterMap Mark.routine? = memberNames plan ∧
    (memberNames plan).Nodup ∧
    (className interface.name role ∈ memberNames plan ↔
      ∃ message ∈ plan.outgoing, TakesClassName interface.name role message)

/-- **Classes.** Classes and members that were generated have distinct names, except that a routine
that sends may take the name of its class. -/
theorem classes_apart {definitions : Definitions} {role : Role} {text : String}
    (h : Target.cpp.generate definitions role = .ok text) : ClassesApart definitions role where
  classes_nodup := by
    have hnames := (checkInterfaces_eq_ok_iff.mp definitions.checked).2
    have hinj : ∀ a b : String, className a role = className b role → a = b := by
      intro a b hclass
      simpa [className] using hclass
    rw [List.nodup_iff_pairwise_ne, List.pairwise_map] at hnames ⊢
    exact hnames.imp fun hne hclass => hne (hinj _ _ hclass)
  base_free interface _ := className_ne_baseClass interface.name role
  members interface hinterface := by
    obtain ⟨-, texts, htexts, -⟩ := Target.generate_eq_ok_iff.mp h
    obtain ⟨part, hpart⟩ := mapM_succeeds_iff.mp ⟨texts, htexts⟩ interface hinterface
    obtain ⟨hwell, -⟩ := Target.generateInterface_eq_ok_iff.mp hpart
    refine ⟨interface.plan role, part, RolePlan.ofInterface_of_wellFormed hwell role, hpart, ?_,
      ?_, nodup_memberNames (fits_members hwell role), className_mem_memberNames⟩
    · rw [wordsOf_eq hpart, classWords, List.append_assoc, List.append_assoc]
      exact List.prefix_append _ _
    · rw [@Language.outline_eq .cpp _ _ _ hpart, Frame.routines_outline]
      simp [Language.frame, frame, memberNames]

theorem classes_apart_conformance :
    ∃ text, Target.cpp.generate Conformance.definitions .server = .ok text ∧
      ClassesApart Conformance.definitions .server := by
  obtain ⟨text, h⟩ :=
    (@generate_succeeds_iff Conformance.definitions .server).mpr (by decide +kernel)
  exact ⟨text, h, classes_apart h⟩

/-- An interface called like a routine that sends, with an rpc called like the end of a class. -/
def eponym : Definitions :=
  ⟨[{ name := "SendRequest", sends := [{ name := "ClientIpc" }] }],
    checkInterfaces_eq_ok_iff.mpr (by decide)⟩

/-- The class and the routine get the same name. -/
theorem eponym_class_is_member :
    ∃ text, Target.cpp.generate eponym .client = .ok text ∧
      ∃ interface ∈ eponym.interfaces, ∃ part,
        Target.cpp.generateInterface interface .client = .ok part ∧
        className interface.name .client ∈
          (Language.cpp.outline part).filterMap Mark.routine? := by
  have hacceptable : ∀ interface ∈ eponym.interfaces, InterfaceAcceptable interface .client := by
    decide +kernel
  obtain ⟨text, h⟩ := generate_succeeds_iff.mpr hacceptable
  have hmem : ⟨"SendRequest", [⟨"ClientIpc", [], []⟩], []⟩ ∈ eponym.interfaces :=
    List.mem_singleton.mpr rfl
  have hwell := eponym.wellFormed _ hmem
  obtain ⟨part, hpart⟩ := (generateInterface_succeeds_iff hwell).mpr (hacceptable _ hmem)
  refine ⟨text, h, _, hmem, part, hpart, ?_⟩
  rw [@Language.outline_eq .cpp _ _ _ hpart, Frame.routines_outline]
  decide

end Bindery.Cpp
