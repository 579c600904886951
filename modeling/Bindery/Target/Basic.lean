import Bindery.Generate.Scope
import Bindery.Generate.Spelling
import Bindery.Layout.Script
import Bindery.Plan

/-!
# Output targets

A target turns the plan of a role into source text. It has names for the routines of every
message, spellings for types, a check that its names do not clash, and a layout. The layouts agree
in outline: handlers for the user to implement, routines that send, and then, out of sight, the
routines that read messages and the one that dispatches them.
-/

namespace Bindery

/-- What a target calls the routines and parameters of a message. -/
structure Naming where
  /-- The routine that sends the message. -/
  sender : Message → String
  /-- The routine the user writes to handle the message. -/
  handler : Message → String
  /-- The routine that reads the message and calls the handler. -/
  reader : Message → String
  /-- A parameter, given its name in the definition. -/
  parameter : String → String

/-- The parameters of a message with their rendered names. -/
def Naming.parameters (naming : Naming) (message : Message) : List (String × String) :=
  message.parameters.map fun p => (p.name, naming.parameter p.name)

/-- An output language as the generator needs it. -/
structure Target where
  naming : Naming
  dialect : Dialect
  indentation : String
  /-- Checks the names that all interfaces of a file share a scope with. -/
  checkTogether : Role → List Interface → Except GenerateError Unit
  /-- Checks the names inside the code for one plan. -/
  checkNames : RolePlan → Except GenerateError Unit
  layout : RolePlan → List Layout.Step

/-- Source text, and the plans that were made on the way to it. -/
structure Generation where
  plans : List RolePlan
  texts : Except GenerateError (List String)

/-- The texts with an empty line between them. -/
def Generation.text (generation : Generation) : Except GenerateError String :=
  generation.texts.map ("\n".intercalate ·)

namespace Target

def render (target : Target) (plan : RolePlan) : Except GenerateError String := do
  target.checkNames plan
  match Layout.render? target.indentation none (target.layout plan) with
  | some text => return text
  | none => throw .refusedText

/-- The code for one role of one interface. -/
def generateInterface (target : Target) (interface : Interface) (role : Role) :
    Except GenerateError String := do
  target.render (← RolePlan.ofInterface interface role)

/-- The code for one role of each interface, up to the first that fails. -/
def generateEach (target : Target) (role : Role) : List Interface → Generation
  | [] => ⟨[], .ok []⟩
  | interface :: rest =>
    match RolePlan.ofInterface interface role with
    | .error e => ⟨[], .error e⟩
    | .ok plan =>
      match target.render plan with
      | .error e => ⟨[plan], .error e⟩
      | .ok text =>
        let others := target.generateEach role rest
        ⟨plan :: others.plans, others.texts.map (text :: ·)⟩

/-- The code for one role of all interfaces, interface by interface. -/
def generation (target : Target) (definitions : Definitions) (role : Role) : Generation :=
  match target.checkTogether role definitions.interfaces with
  | .error e => ⟨[], .error e⟩
  | .ok () => target.generateEach role definitions.interfaces

/-- The code for one role of all interfaces, with an empty line between interfaces. -/
def generate (target : Target) (definitions : Definitions) (role : Role) :
    Except GenerateError String :=
  (target.generation definitions role).text

end Target

end Bindery
