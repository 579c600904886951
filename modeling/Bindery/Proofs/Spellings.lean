import Bindery.Proofs.Delivery
import Bindery.Proofs.RustAcceptance
import Bindery.Proofs.RustRoutines

/-!
# Type spellings lose nothing

Each output language spells a type in three ways. In each of them the spelling of a sequence has a
mark that no scalar has, and what stands between its two ends is the spelling of the elements
(`Dialect.Marked`). So a spelling tells its type, however deep sequences are nested.

**Routines.** The routine that sends a message takes parameters in one spelling, and the routine
of the peer that reads the message declares variables in another. Both are passages of the generated
texts (`Language.Takes`, `Language.Declares`), and the types in both can only be those of the
message.

Main result: `spellings_lossless`.
-/

namespace Bindery

/-! ## Spellings -/

/-- In the spelling that `spelled` picks, a sequence is told from a scalar by a mark, and its
elements stand between two fixed texts. -/
structure Dialect.Marked (dialect : Dialect) (spelled : Spelling → String) (mark : Char)
    (opening closing : String) : Prop where
  scalar_injective : Function.Injective fun s => spelled (dialect.scalar s)
  notMem_scalar : ∀ s, mark ∉ (spelled (dialect.scalar s)).toList
  mem_opening : mark ∈ opening.toList
  sequence : ∀ element, spelled (dialect.sequence element) = opening ++ (element ++ closing)

namespace Dialect.Marked

variable {dialect : Dialect} {spelled : Spelling → String} {mark : Char} {opening closing : String}

theorem mem_sequence (h : dialect.Marked spelled mark opening closing) (element : String) :
    mark ∈ (spelled (dialect.sequence element)).toList := by
  rw [h.sequence, String.toList_append]
  exact List.mem_append_left _ h.mem_opening

theorem sequence_inj (h : dialect.Marked spelled mark opening closing) {element other : String}
    (heq : spelled (dialect.sequence element) = spelled (dialect.sequence other)) :
    element = other := by
  rw [h.sequence, h.sequence] at heq
  exact (String.append_left_inj _).mp ((String.append_right_inj _).mp heq)

/-- **One level of nesting.** Types that are spelled alike are both scalars or both sequences, and
they are the same if the variables for their elements tell the elements. -/
theorem eq_of_spell (h : dialect.Marked spelled mark opening closing) {type other : ParamType}
    (helement : ∀ element element', type = .repeated element → other = .repeated element' →
      (dialect.spell element).simple = (dialect.spell element').simple → element = element')
    (heq : spelled (dialect.spell type) = spelled (dialect.spell other)) : type = other := by
  cases type with
  | scalar s =>
    cases other with
    | scalar s' => exact congrArg ParamType.scalar (h.scalar_injective heq)
    | repeated element' =>
      have hmem := h.mem_sequence (dialect.spell element').simple
      exact absurd (heq ▸ hmem) (h.notMem_scalar s)
  | repeated element =>
    cases other with
    | scalar s' =>
      have hmem := h.mem_sequence (dialect.spell element).simple
      exact absurd (heq ▸ hmem) (h.notMem_scalar s')
    | repeated element' =>
      exact congrArg ParamType.repeated (helement element element' rfl rfl (h.sequence_inj heq))

/-- **Any depth.** A variable tells the type of its value. -/
theorem simple_injective (h : dialect.Marked Spelling.simple mark opening closing) :
    Function.Injective fun type => (dialect.spell type).simple := by
  intro type
  induction type with
  | scalar s => exact fun other heq => h.eq_of_spell (fun _ _ htype => by cases htype) heq
  | repeated element ih =>
    intro other heq
    refine h.eq_of_spell (fun element' other' htype _ hsimple => ?_) heq
    cases htype
    exact ih hsimple

/-- So does a parameter of a routine. -/
theorem injective (h : dialect.Marked spelled mark opening closing)
    (hsimple : Function.Injective fun type => (dialect.spell type).simple) :
    Function.Injective fun type => spelled (dialect.spell type) :=
  fun _ _ heq => h.eq_of_spell (fun _ _ _ _ helement => hsimple helement) heq

end Dialect.Marked

/-- No two types are spelled alike, what is sent is spelled like what is received, and only texts
and sequences are passed otherwise than they are kept. -/
structure Dialect.Lossless (dialect : Dialect) : Prop where
  simple_injective : Function.Injective fun type => (dialect.spell type).simple
  send_injective : Function.Injective fun type => (dialect.spell type).send
  receive_injective : Function.Injective fun type => (dialect.spell type).receive
  send_eq_receive : ∀ type, (dialect.spell type).send = (dialect.spell type).receive
  send_ne_simple_iff : ∀ type,
    (dialect.spell type).send ≠ (dialect.spell type).simple ↔
      (dialect.spell type).byReference = true
  receive_ne_simple_iff : ∀ type,
    (dialect.spell type).receive ≠ (dialect.spell type).simple ↔
      (dialect.spell type).byReference = true
  byReference_iff : ∀ type, (dialect.spell type).byReference = true ↔
    type = .scalar .text ∨ ∃ element, type = .repeated element

/-- A spelling is passed as it is kept exactly if it is not passed by reference. -/
structure Spelling.Fair (spelling : Spelling) : Prop where
  send_eq_receive : spelling.send = spelling.receive
  send_ne_simple_iff : spelling.send ≠ spelling.simple ↔ spelling.byReference = true

theorem Spelling.Fair.copied (name : String) : (Spelling.copied name).Fair :=
  ⟨rfl, by simp [Spelling.copied]⟩

theorem Spelling.Fair.borrowed {simple reference : String} (h : reference.length ≠ simple.length) :
    (Spelling.borrowed simple reference).Fair := by
  have hne : reference ≠ simple := fun heq => h (congrArg String.length heq)
  exact ⟨rfl, by simp [Spelling.borrowed, hne]⟩

theorem Dialect.lossless_of_marked {dialect : Dialect} {mark mark' : Char}
    {opening closing opening' closing' : String}
    (hsimple : dialect.Marked Spelling.simple mark opening closing)
    (hsend : dialect.Marked Spelling.send mark' opening' closing')
    (hscalar : ∀ s, (dialect.scalar s).Fair)
    (hsequence : ∀ element, (dialect.sequence element).Fair)
    (htext : ∀ s, (dialect.scalar s).byReference = true ↔ s = .text)
    (hrepeated : ∀ element, (dialect.sequence element).byReference = true) :
    dialect.Lossless := by
  have hfair : ∀ type, (dialect.spell type).Fair := by
    intro type
    cases type with
    | scalar s => exact hscalar s
    | repeated element => exact hsequence _
  have hinjective := hsend.injective hsimple.simple_injective
  refine ⟨hsimple.simple_injective, hinjective, ?_, fun type => (hfair type).send_eq_receive,
    fun type => (hfair type).send_ne_simple_iff, fun type => ?_, fun type => ?_⟩
  · simpa only [(hfair _).send_eq_receive] using hinjective
  · rw [← (hfair type).send_eq_receive]
    exact (hfair type).send_ne_simple_iff
  · cases type with
    | scalar s => simp [Dialect.spell, htext]
    | repeated element => simp [Dialect.spell, hrepeated]

namespace Cpp

theorem marked_simple : dialect.Marked Spelling.simple '<' "vector<" ">" where
  scalar_injective s s' := by cases s <;> cases s' <;> decide
  notMem_scalar s := by cases s <;> decide
  mem_opening := by decide
  sequence _ := String.append_assoc

theorem marked_send : dialect.Marked Spelling.send '<' "const vector<" ">&" where
  scalar_injective s s' := by cases s <;> cases s' <;> decide
  notMem_scalar s := by cases s <;> decide
  mem_opening := by decide
  sequence _ := String.append_assoc

theorem lossless : dialect.Lossless := by
  refine Dialect.lossless_of_marked marked_simple marked_send (fun s => ?_) (fun element => ?_)
    (fun s => ?_) fun _ => rfl
  · cases s with
    | text => exact .borrowed (by decide)
    | u8 | u16 | u32 => exact .copied _
  · refine Spelling.Fair.borrowed ?_
    rw [String.length_append, String.length_append, String.length_append, String.length_append]
    show 13 + element.length + 2 ≠ 7 + element.length + 1
    omega
  · cases s <;> decide

end Cpp

namespace Rust

theorem marked_simple : dialect.Marked Spelling.simple '<' "::std::vec::Vec<" ">" where
  scalar_injective s s' := by cases s <;> cases s' <;> decide
  notMem_scalar s := by cases s <;> decide
  mem_opening := by decide
  sequence _ := String.append_assoc

theorem marked_send : dialect.Marked Spelling.send '[' "&[" "]" where
  scalar_injective s s' := by cases s <;> cases s' <;> decide
  notMem_scalar s := by cases s <;> decide
  mem_opening := by decide
  sequence _ := String.append_assoc

theorem lossless : dialect.Lossless := by
  refine Dialect.lossless_of_marked marked_simple marked_send (fun s => ?_) (fun element => ?_)
    (fun s => ?_) fun _ => rfl
  · cases s with
    | text => exact .borrowed (by decide)
    | u8 | u16 | u32 => exact .copied _
  · refine Spelling.Fair.borrowed ?_
    rw [String.length_append, String.length_append, String.length_append, String.length_append]
    show 2 + element.length + 1 ≠ 16 + element.length + 1
    omega
  · cases s <;> decide

end Rust

/-! ## Routines -/

open Layout Text

namespace Language

theorem lossless (language : Language) : language.target.dialect.Lossless := by
  cases language with
  | cpp => exact Cpp.lossless
  | rust => exact Rust.lossless

/-- The first line of a routine that sends. Its parameters are pairs of a name and the spelling of a
type. -/
def signature : (language : Language) → (routine : String) → List (String × String) → String
  | .cpp, routine, parameters =>
    "void " ++ routine ++ "(" ++ (if parameters.isEmpty then "void" else
      ", ".intercalate (parameters.map fun p => p.2 ++ " " ++ p.1)) ++ ")" ++ " \x7b"
  | .rust, routine, parameters =>
    "fn " ++ routine ++ "(&mut self" ++
      String.join (parameters.map fun p => ", " ++ p.1 ++ ": " ++ p.2) ++
      ") -> Result<(), EncodeError>" ++ " \x7b"

/-- The first line of a routine that reads, on behalf of a class or trait. -/
def opening : (language : Language) → (owner routine : String) → String
  | .cpp, _, routine => "bool " ++ routine ++ "(OutputCursor* cursor)" ++ " \x7b"
  | .rust, owner, routine => "pub(super) fn " ++ routine ++ "<H: " ++ owner ++
    ">(handler: &mut H, cursor: &mut Cursor<'_>) -> Result<(), DecodeError> \x7b"

/-- The lines that declare a variable for a parameter and read it. -/
def reading : (language : Language) → (v : String × String) → List Line
  | .cpp, v =>
    [⟨0, v.2 ++ " " ++ v.1 ++ ";"⟩, ⟨0, "if (!DecodeFromBuffer(cursor, &" ++ v.1 ++ "))"⟩,
     ⟨1, "return false;"⟩]
  | .rust, v => [⟨0, "let " ++ v.1 ++ ": " ++ v.2 ++ " = Decode::decode(cursor)?;"⟩]

/-- The text has a routine of this name that takes these parameters. -/
def Takes (language : Language) (text routine : String) (parameters : List (String × String)) :
    Prop :=
  ∃ rest, HasPassage language.target.indentation text
    (⟨0, language.signature routine parameters⟩ :: rest)

/-- The text has a routine of this name that starts by declaring and reading these variables, one
after the other. -/
def Declares (language : Language) (text routine : String) (locals : List (String × String)) :
    Prop :=
  ∃ owner rest, HasPassage language.target.indentation text
    (⟨0, language.opening owner routine⟩ ::
      ((locals.flatMap language.reading).map Line.deeper ++ rest))

/-- The parameters of a message, each with the type that `spelled` picks. -/
def typed (language : Language) (spelled : Spelling → String) (message : Message) :
    List (String × String) :=
  message.parameters.map fun p =>
    (language.target.naming.parameter p.name, spelled (language.target.dialect.spell p.type))

end Language

namespace Cpp

variable (message : Message)

theorem typed_eq (spelled : Spelling → String) : Language.cpp.typed spelled message =
    message.parameters.map fun p => (parameterName p.name, spelled (dialect.spell p.type)) := by
  simp only [Language.typed, Language.target, Target.cpp, naming]

theorem draws_sender : ∃ rest, Draws [sender message]
    (⟨0, Language.cpp.signature (naming.sender message)
      (Language.cpp.typed Spelling.send message)⟩ :: rest) := by
  have hopcode := draws_line (isBlankText_append_right rfl :
    isBlankText ("EncodeToBuffer(static_cast<int16_t>(" ++ message.opcode.digits ++
      "), SendCursor());") = false)
  have hparameters := draws_lines message.parameters
    fun p => (isBlankText_append_right rfl :
      isBlankText ("EncodeToBuffer(" ++ parameterName p.name ++ ", SendCursor());") = false)
  have hsend := draws_line (rfl : isBlankText "Send();" = false)
  have hheader : "void " ++ naming.sender message ++ "(" ++
      parameterList Spelling.send message.parameters ++ ")" ++ " \x7b" =
      Language.cpp.signature (naming.sender message)
        (Language.cpp.typed Spelling.send message) := by
    simp only [Language.signature, typed_eq, parameterList, List.isEmpty_map, List.map_map,
      Function.comp_def]
  have hblock := ((hopcode.append hparameters).append hsend).block
    ("void " ++ naming.sender message ++ "(" ++
      parameterList Spelling.send message.parameters ++ ")")
  rw [hheader] at hblock
  exact ⟨_, hblock⟩

theorem draws_readParameter (p : Parameter) : Draws (readParameter p)
    (Language.cpp.reading (parameterName p.name, (dialect.spell p.type).simple)) := by
  have hdeclare := draws_line (isBlankText_append_right rfl :
    isBlankText ((dialect.spell p.type).simple ++ " " ++ parameterName p.name ++ ";") = false)
  have hdecode := draws_line (isBlankText_append_right rfl :
    isBlankText ("if (!DecodeFromBuffer(cursor, &" ++ parameterName p.name ++ "))") = false)
  have hreturn := (draws_line (rfl : isBlankText "return false;" = false)).nested
  exact (hdeclare.append hdecode).append hreturn

theorem draws_reader : ∃ rest, Draws [reader message]
    (⟨0, Language.cpp.opening "" (naming.reader message)⟩ ::
      (((Language.cpp.typed Spelling.simple message).flatMap Language.cpp.reading).map
        Line.deeper ++ rest)) := by
  have hparameters := Draws.flatMap fun p (_ : p ∈ message.parameters) => draws_readParameter p
  have hcall := draws_call (isBlankText_append_right rfl :
    isBlankText (naming.handler message ++ "(") = false) ", "
    (message.parameters.map fun p => parameterName p.name) ");"
  have hreturn := draws_line (rfl : isBlankText "return true;" = false)
  have htyped : (Language.cpp.typed Spelling.simple message).flatMap Language.cpp.reading =
      message.parameters.flatMap fun p =>
        Language.cpp.reading (parameterName p.name, (dialect.spell p.type).simple) := by
    rw [typed_eq, List.flatMap_map]
  rw [← htyped] at hparameters
  have hblock := (hparameters.append (hcall.append hreturn)).block
    ("bool " ++ naming.reader message ++ "(OutputCursor* cursor)")
  rw [List.map_append, List.append_assoc, List.append_assoc] at hblock
  exact ⟨_, hblock⟩

variable {message} {plan : RolePlan}

theorem occurs_sender (h : message ∈ plan.outgoing) :
    Occurs [sender message] (classLayout plan) := by
  have hsenders : Occurs [sender message] (plan.outgoing.map sender) := .map h fun _ _ => rfl
  have hends : EndsLine ([.comment "//" "Implement these to handle incoming messages."] ++
      plan.incoming.map handlerDeclaration ++
      [.blank, .comment "//" "Use these to send messages to the peer."]) :=
    endsLine_of_isWhole (by simp [Step.isWhole, handlerDeclaration])
  exact (((Occurs.append_left (endsLine_of_isWhole rfl)
    (hsenders.append_left hends).nested).append_right _).append_right _).append_right _

theorem occurs_reader (h : message ∈ plan.incoming) :
    Occurs [reader message] (classLayout plan) := by
  have hreaders : Occurs [reader message] (plan.incoming.map reader) := .map h fun _ _ => rfl
  refine (Occurs.append_left (endsLine_of_isWhole ?_)
    ((hreaders.append_left (endsLine_of_isWhole rfl)).append_right _).nested).append_right _
  simp [nested, Step.isWhole, handlerDeclaration, sender]

end Cpp

namespace Rust

variable (message : Message)

theorem typed_eq (spelled : Spelling → String) : Language.rust.typed spelled message =
    message.parameters.map fun p => (parameterName p.name, spelled (dialect.spell p.type)) := by
  simp only [Language.typed, Language.target, Target.rust, naming]

theorem parameterList_eq (spelled : Spelling → String) :
    parameterList spelled message.parameters = String.join
      ((Language.rust.typed spelled message).map fun p => ", " ++ p.1 ++ ": " ++ p.2) := by
  rw [parameterList, typed_eq, List.map_map, Function.comp_def]

theorem signature_eq : Language.rust.signature (naming.sender message)
    (Language.rust.typed Spelling.send message) = senderHeader message ++ " \x7b" := by
  rw [Language.signature, senderHeader, parameterList_eq]

theorem readings_eq : (Language.rust.typed Spelling.simple message).flatMap Language.rust.reading =
    (message.parameters.map readStatement).map fun statement => ⟨0, statement.text⟩ := by
  rw [typed_eq, List.flatMap_map, List.map_map, Function.comp_def, List.map_eq_flatMap]
  simp only [Language.reading, readStatement, ReadStatement.text]

end Rust

/-! ## Both sides of a message -/

namespace Language

variable (language : Language) {message : Message} {plan : RolePlan} {text : String}

theorem takes_sender (h : message ∈ plan.outgoing)
    (hrender : render? language.target.indentation none (language.target.layout plan) = some text) :
    language.Takes text (language.target.naming.sender message)
      (language.typed Spelling.send message) := by
  cases language with
  | cpp =>
    obtain ⟨rest, hdraws⟩ := Cpp.draws_sender message
    exact ⟨rest, (Cpp.occurs_sender h).passage hdraws hrender⟩
  | rust =>
    have hpassage := Rust.passage_sender hrender h
    rw [Rust.senderLines, ← Rust.signature_eq] at hpassage
    exact ⟨_, hpassage⟩

theorem declares_reader (h : message ∈ plan.incoming)
    (hrender : render? language.target.indentation none (language.target.layout plan) = some text) :
    language.Declares text (language.target.naming.reader message)
      (language.typed Spelling.simple message) := by
  cases language with
  | cpp =>
    obtain ⟨rest, hdraws⟩ := Cpp.draws_reader message
    exact ⟨"", rest, (Cpp.occurs_reader h).passage hdraws hrender⟩
  | rust =>
    have hpassage := Rust.passage_reader hrender h
    rw [Rust.readerLines, Rust.braced, Rust.readerBody, List.map_append, ← Rust.readings_eq,
      List.map_append, List.append_assoc, List.append_assoc] at hpassage
    exact ⟨_, _, hpassage⟩

/-- These types and no others are spelled as in the parameters of a message. -/
theorem map_spell_eq_typed_iff {spelled : Spelling → String}
    (h : Function.Injective fun type => spelled (language.target.dialect.spell type))
    (types : List ParamType) :
    types.map (fun type => spelled (language.target.dialect.spell type)) =
      (language.typed spelled message).map Prod.snd ↔ types = message.types := by
  have htyped : (language.typed spelled message).map Prod.snd =
      message.types.map fun type => spelled (language.target.dialect.spell type) := by
    simp only [typed, Message.types, List.map_map]
    rfl
  rw [htyped]
  exact (List.map_injective_iff.mpr h).eq_iff

/-- The routine that sends a message and the one of the peer that reads it name the same parameters,
and both spell the types of the message. -/
structure TypedAlike (text peerText : String) (message : Message) : Prop where
  takes : language.Takes text (language.target.naming.sender message)
    (language.typed Spelling.send message)
  declares : language.Declares peerText (language.target.naming.reader message)
    (language.typed Spelling.simple message)
  names : (language.typed Spelling.send message).map Prod.fst =
    (language.typed Spelling.simple message).map Prod.fst
  taken_iff : ∀ types, types.map (fun type => (language.target.dialect.spell type).send) =
    (language.typed Spelling.send message).map Prod.snd ↔ types = message.types
  declared_iff : ∀ types, types.map (fun type => (language.target.dialect.spell type).simple) =
    (language.typed Spelling.simple message).map Prod.snd ↔ types = message.types

end Language

/-- **A spelling tells its type,** in every language. So the types that a routine of generated code
takes for a message and those that the peer's code declares for it can only be the same. -/
theorem spellings_lossless (language : Language) :
    language.target.dialect.Lossless ∧
    ∀ interface role text peerText,
      language.target.generateInterface interface role = .ok text →
      language.target.generateInterface interface role.peer = .ok peerText →
      ∃ plan, RolePlan.ofInterface interface role = .ok plan ∧
        ∀ message ∈ plan.outgoing, language.TypedAlike text peerText message := by
  have hlossless := language.lossless
  refine ⟨hlossless, fun interface role text peerText htext hpeer => ?_⟩
  obtain ⟨hwell, -, hrender⟩ := Target.generateInterface_eq_ok_iff.mp htext
  obtain ⟨-, -, hpeerRender⟩ := Target.generateInterface_eq_ok_iff.mp hpeer
  refine ⟨interface.plan role, RolePlan.ofInterface_of_wellFormed hwell role, ?_⟩
  intro message hmem
  -- What the role emits is what its peer accepts.
  have hincoming : (interface.plan role.peer).incoming = (interface.plan role).outgoing := by
    simp only [Interface.plan, Role.peer_peer]
  refine ⟨language.takes_sender hmem hrender, language.declares_reader ?_ hpeerRender, ?_,
    language.map_spell_eq_typed_iff hlossless.send_injective,
    language.map_spell_eq_typed_iff hlossless.simple_injective⟩
  · rwa [hincoming]
  · simp only [Language.typed, List.map_map]
    rfl

open Conformance in
/-- Series of readings are taken as a slice and declared as a vector. -/
theorem spellings_lossless_telemetry :
    ∃ text peerText,
      Language.rust.target.generateInterface telemetry .client = .ok text ∧
      Language.rust.target.generateInterface telemetry .server = .ok peerText ∧
      Language.rust.Takes text "send_request_sample"
        [("r#type", "u8"), ("readings", "&[::std::vec::Vec<u16>]"), ("sequence", "u32")] ∧
      Language.rust.Declares peerText "parse_sample_request"
        [("r#type", "u8"), ("readings", "::std::vec::Vec<::std::vec::Vec<u16>>"),
          ("sequence", "u32")] := by
  have hacceptable := Rust.acceptable_conformance.2 telemetry (by decide)
  have hwell := Conformance.wellFormed telemetry (by decide)
  obtain ⟨text, htext⟩ := (@Rust.generateInterface_succeeds_iff _ .client).mpr ⟨hwell, hacceptable⟩
  obtain ⟨peerText, hpeer⟩ :=
    (@Rust.generateInterface_succeeds_iff _ .server).mpr ⟨hwell, hacceptable⟩
  obtain ⟨plan, hplan, hboth⟩ :=
    (spellings_lossless .rust).2 telemetry .client text peerText htext hpeer
  have hmem : sample.message ∈ plan.outgoing := by
    rw [(RolePlan.ofInterface_eq_ok_iff.mp hplan).2]
    decide
  have halike := hboth sample.message hmem
  have hsender : Rust.naming.sender sample.message = "send_request_sample" := by decide +kernel
  have hreader : Rust.naming.reader sample.message = "parse_sample_request" := by decide +kernel
  have htaken : Language.rust.typed Spelling.send sample.message =
    [("r#type", "u8"), ("readings", "&[::std::vec::Vec<u16>]"), ("sequence", "u32")] := by
    decide +kernel
  have hdeclared : Language.rust.typed Spelling.simple sample.message =
    [("r#type", "u8"), ("readings", "::std::vec::Vec<::std::vec::Vec<u16>>"),
      ("sequence", "u32")] := by
    decide +kernel
  exact ⟨text, peerText, htext, hpeer, hsender ▸ htaken ▸ halike.takes,
    hreader ▸ hdeclared ▸ halike.declares⟩

end Bindery
