import Bindery.Proofs.Loading
import Mathlib.Data.List.Basic

/-!
# Unknown types are reported first

A document can be wrong in several places at once. Its declarations are turned into interfaces
before any interface is checked, and that fails only at a type that is unknown: so the first unknown
type of the whole document wins over every other fault, wherever that stands. Only a document
without unknown types is judged by the checks.

**Order** (`Converts`). Turning declarations into interfaces goes through three nested lists. At
each level the types are read in the order in which the parameters stand, and reading one thing
after the other reads the parameters of both (`Converts.bind`), so the nesting does not show in the
result.

Main result: `unknown_types_first`.
-/

namespace Bindery

namespace Document

/-! ## What is declared -/

/-- The parameters of an rpc, those of its request before those of its reply. -/
def RpcDeclaration.parameters (declaration : RpcDeclaration) : List ParameterDeclaration :=
  declaration.request ++ declaration.reply

/-- The parameters of an interface, rpc by rpc, what it sends before what it receives. -/
def InterfaceDeclaration.parameters (declaration : InterfaceDeclaration) :
    List ParameterDeclaration :=
  (declaration.sends ++ declaration.receives).flatMap RpcDeclaration.parameters

/-- The first parameter with a type that cannot be read. -/
def firstUnknown? (parameters : List ParameterDeclaration) : Option ParameterDeclaration :=
  parameters.find? fun parameter => !(ParamType.parse parameter.type).isOk

/-- The parameter has the declared name, and the type that is spelled. -/
def ParameterDeclaration.Declares (declaration : ParameterDeclaration) (parameter : Parameter) :
    Prop :=
  parameter.name = declaration.name ∧ ParamType.parse declaration.type = .ok parameter.type

/-- The rpc has the declared name and, leg by leg, the declared parameters in their order. -/
def RpcDeclaration.Declares (declaration : RpcDeclaration) (rpc : Rpc) : Prop :=
  rpc.name = declaration.name ∧
    List.Forall₂ ParameterDeclaration.Declares declaration.request rpc.request ∧
    List.Forall₂ ParameterDeclaration.Declares declaration.reply rpc.reply

/-- The interface has the declared name and, list by list, the declared rpcs in their order. -/
def InterfaceDeclaration.Declares (declaration : InterfaceDeclaration) (interface : Interface) :
    Prop :=
  interface.name = declaration.name ∧
    List.Forall₂ RpcDeclaration.Declares declaration.sends interface.sends ∧
    List.Forall₂ RpcDeclaration.Declares declaration.receives interface.receives

/-! ## The order of reading -/

/-- A result that depends on the types of these parameters: it names the first that is unknown, and
if there is none, it is what was declared. -/
structure Converts {β : Type} (result : Except SchemaError β)
    (parameters : List ParameterDeclaration) (declared : β → Prop) : Prop where
  unknown : ∀ parameter, firstUnknown? parameters = some parameter →
    result = .error (.unknownType parameter.type)
  known : firstUnknown? parameters = none → ∃ b, result = .ok b ∧ declared b

section Order

variable {α β : Type} {parameters parameters' : List ParameterDeclaration} {P : α → Prop}
  {Q : β → Prop}

theorem firstUnknown?_append :
    firstUnknown? (parameters ++ parameters') =
      (firstUnknown? parameters).or (firstUnknown? parameters') :=
  List.find?_append

theorem converts_pure {b : β} (h : Q b) : Converts (pure b) [] Q where
  unknown _ h' := nomatch h'
  known _ := ⟨b, rfl, h⟩

/-- What is read first decides, unless it is known. -/
theorem Converts.bind {first : Except SchemaError α} {next : α → Except SchemaError β}
    (hfirst : Converts first parameters P) (hnext : ∀ a, P a → Converts (next a) parameters' Q) :
    Converts (first >>= next) (parameters ++ parameters') Q := by
  cases hunknown : firstUnknown? parameters with
  | some parameter =>
    have hboth : firstUnknown? (parameters ++ parameters') = some parameter := by
      rw [firstUnknown?_append, hunknown, Option.some_or]
    rw [hfirst.unknown parameter hunknown]
    refine ⟨fun parameter' h => ?_, fun h => ?_⟩
    · obtain rfl : parameter = parameter' := Option.some.inj (hboth.symm.trans h)
      rfl
    · cases hboth.symm.trans h
  | none =>
    have hboth : firstUnknown? (parameters ++ parameters') = firstUnknown? parameters' := by
      rw [firstUnknown?_append, hunknown, Option.none_or]
    obtain ⟨a, rfl, ha⟩ := hfirst.known hunknown
    refine ⟨fun parameter h => ?_, fun h => ?_⟩
    · exact (hnext a ha).unknown parameter (hboth ▸ h)
    · exact (hnext a ha).known (hboth ▸ h)

/-- A list is read item by item. -/
theorem converts_mapM {convert : α → Except SchemaError β} {read : α → List ParameterDeclaration}
    {declares : α → β → Prop} (h : ∀ a, Converts (convert a) (read a) (declares a))
    (items : List α) :
    Converts (items.mapM convert) (items.flatMap read) (List.Forall₂ declares items) := by
  induction items with
  | nil => exact converts_pure .nil
  | cons a items ih =>
    rw [List.mapM_cons, List.flatMap_cons]
    refine (h a).bind fun b hb => ?_
    rw [← List.append_nil (items.flatMap read)]
    exact ih.bind fun bs hbs => converts_pure (.cons hb hbs)

end Order

/-! ## Parameters, rpcs and interfaces -/

theorem converts_parse (declaration : ParameterDeclaration) :
    Converts (ParamType.parse declaration.type) [declaration]
      fun type => ParamType.parse declaration.type = .ok type := by
  cases hparse : ParamType.parse declaration.type with
  | ok type =>
    have hknown : firstUnknown? [declaration] = none := by
      simp [firstUnknown?, hparse, Except.isOk, Except.toBool]
    refine ⟨fun parameter h => ?_, fun _ => ⟨type, rfl, rfl⟩⟩
    cases hknown.symm.trans h
  | error e =>
    have hunknown : firstUnknown? [declaration] = some declaration := by
      simp [firstUnknown?, hparse, Except.isOk, Except.toBool]
    refine ⟨fun parameter h => ?_, fun h => ?_⟩
    · obtain rfl : declaration = parameter := Option.some.inj (hunknown.symm.trans h)
      rw [ParamType.eq_unknownType_of_parse hparse]
    · cases hunknown.symm.trans h

theorem converts_toParameter (declaration : ParameterDeclaration) :
    Converts declaration.toParameter [declaration] declaration.Declares :=
  (converts_parse declaration).bind fun _ htype => converts_pure ⟨rfl, htype⟩

theorem converts_toRpc (declaration : RpcDeclaration) :
    Converts declaration.toRpc declaration.parameters declaration.Declares := by
  have hleg (leg : List ParameterDeclaration) :
      Converts (leg.mapM ParameterDeclaration.toParameter) leg
        (List.Forall₂ ParameterDeclaration.Declares leg) := by
    have hread := converts_mapM converts_toParameter leg
    rwa [List.flatMap_singleton'] at hread
  have hlegs := (hleg declaration.request).bind fun request hrequest =>
    (hleg declaration.reply).bind fun reply hreply =>
      converts_pure (b := Rpc.mk declaration.name request reply)
        (show declaration.Declares _ from ⟨rfl, hrequest, hreply⟩)
  rwa [List.append_nil] at hlegs

theorem converts_toInterface (declaration : InterfaceDeclaration) :
    Converts declaration.toInterface declaration.parameters declaration.Declares := by
  have hlists := (converts_mapM converts_toRpc declaration.sends).bind fun sends hsends =>
    (converts_mapM converts_toRpc declaration.receives).bind fun receives hreceives =>
      converts_pure (b := Interface.mk declaration.name sends receives)
        (show declaration.Declares _ from ⟨rfl, hsends, hreceives⟩)
  rwa [List.append_nil, ← List.flatMap_append] at hlists

end Document

open Document

/-- **Precedence.** In a document whose declarations can be read, the first unknown type in the
order of the document is reported as it is spelled there, whatever else is wrong. If all types are
known, the declarations make interfaces with the same names in the same order, and the document
loads as these interfaces do. -/
theorem unknown_types_first {text : String} {declarations : List InterfaceDeclaration}
    (hread : readInterfaces? text = .ok (some declarations)) :
    (∀ parameter, firstUnknown? (declarations.flatMap InterfaceDeclaration.parameters) =
        some parameter →
      Definitions.parse text = .error (.schema (.unknownType parameter.type))) ∧
    (firstUnknown? (declarations.flatMap InterfaceDeclaration.parameters) = none →
      ∃ interfaces, List.Forall₂ InterfaceDeclaration.Declares declarations interfaces ∧
        Definitions.parse text = (Definitions.ofInterfaces interfaces).mapError .schema) := by
  have hconverts := converts_mapM converts_toInterface declarations
  rw [Definitions.parse, hread]
  refine ⟨fun parameter hunknown => ?_, fun hknown => ?_⟩
  · simp only [Definitions.ofDeclarations, hconverts.unknown parameter hunknown]
    rfl
  · obtain ⟨interfaces, hinterfaces, hdeclared⟩ := hconverts.known hknown
    refine ⟨interfaces, hdeclared, ?_⟩
    simp only [Definitions.ofDeclarations, hinterfaces]
    rfl

namespace Conformance

/-- A document with a name that is no identifier, and behind it two unknown types. -/
def noteDocument : String :=
  "\x7b\"interfaces\":[\x7b\"name\":\"9\",\"sends\":[\x7b\"name\":\"Say\",\"sends\":[" ++
    "\x7b\"name\":\"a\",\"type\":\" float \"\x7d," ++
    "\x7b\"name\":\"a\",\"type\":\"u64\"\x7d]\x7d]\x7d]\x7d"

/-- The value that is written there. -/
def noteValue : Value :=
  .object [("interfaces", .list [.object [("name", .text "9"), ("sends", .list [.object
    [("name", .text "Say"), ("sends", .list
      [.object [("name", .text "a"), ("type", .text " float ")],
       .object [("name", .text "a"), ("type", .text "u64")]])]])]])]

/-- What it declares. -/
def noteDeclarations : List InterfaceDeclaration :=
  [⟨"9", [⟨"Say", [⟨"a", " float "⟩, ⟨"a", "u64"⟩], []⟩], []⟩]

theorem note_value : Value.read? noteDocument = some noteValue := by cbv

theorem note_read : readInterfaces? noteDocument = .ok (some noteDeclarations) := by
  rw [readInterfaces?, note_value]
  simp [noteValue, noteDeclarations, InterfaceDeclaration.ofValue, RpcDeclaration.ofValue,
    ParameterDeclaration.ofValue, fields, listField?, listField, textField, checkDistinct,
    checkDistinctFrom, List.lookup_cons, bind, Except.bind, pure, Except.pure, Functor.map,
    Except.map]

theorem note_unknown : firstUnknown? (noteDeclarations.flatMap InterfaceDeclaration.parameters) =
    some ⟨"a", " float "⟩ := by
  have hparse : ParamType.parse " float " = .error (.unknownType " float ") :=
    ParamType.parse_of_no_element (by decide) (show _ = none by decide)
  have hparameters : noteDeclarations.flatMap InterfaceDeclaration.parameters =
      [⟨"a", " float "⟩, ⟨"a", "u64"⟩] := rfl
  rw [hparameters, firstUnknown?, List.find?_cons_of_pos]
  simp [hparse, Except.isOk, Except.toBool]

theorem echo_known : firstUnknown? ([echo.declaration].flatMap InterfaceDeclaration.parameters) =
    none := by
  have hparameters : [echo.declaration].flatMap InterfaceDeclaration.parameters =
      [(texts "text").declaration] := rfl
  simp [hparameters, firstUnknown?, Parameter.declaration, ParamType.parse_spelling, Except.isOk,
    Except.toBool]

end Conformance

open Conformance in
/-- An unknown type among other faults, and a document without one. -/
theorem unknown_types_first_note :
    (readInterfaces? noteDocument = .ok (some noteDeclarations) ∧
      Definitions.parse noteDocument = .error (.schema (.unknownType " float "))) ∧
    readInterfaces? echoDocument = .ok (some [echo.declaration]) ∧
      ∃ interfaces, List.Forall₂ InterfaceDeclaration.Declares [echo.declaration] interfaces ∧
        Definitions.parse echoDocument =
          (Definitions.ofInterfaces interfaces).mapError .schema := by
  have hecho : readInterfaces? echoDocument = .ok (some [echo.declaration]) :=
    Definitions.readInterfaces?_of_spelled echo_spelled echo_written
  exact ⟨⟨note_read, (unknown_types_first note_read).1 _ note_unknown⟩, hecho,
    (unknown_types_first hecho).2 echo_known⟩

end Bindery
