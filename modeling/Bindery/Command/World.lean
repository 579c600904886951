import Bindery.Command.Log
import Bindery.Command.Options
import Bindery.Document.Load
import Bindery.Output.Emitter

/-!
# Running the program

The program processes the definition files of its command line one after the other, whatever
happened to earlier ones, and writes for each the code of both roles. It runs on any host that can
read and write text files and take log records.

A `World` is a host that is a plain value: a file system and the records logged so far. Running the
program there is a function from one world to the next.
-/

namespace Bindery

/-- What the program needs from where it runs. -/
class Host (m : Type → Type) where
  read : (path : String) → m (Except FileError String)
  write : (path text : String) → m (Except FileError Unit)
  log : Record → m Unit

/-- Why nothing was processed at all. -/
inductive UsageError where
  | badArguments
  | noFiles
  | language (cause : UnknownLanguage)
  | template (cause : TemplateError)
  deriving DecidableEq, Repr

def UsageError.message : UsageError → String
  | .badArguments => "Could not parse CLI arguments"
  | .noFiles => "no definition files given"
  | .language cause => cause.message
  | .template cause => cause.message

/-- How the program was called: the name it was called by, and its arguments. -/
structure Invocation where
  program : String
  arguments : List String
  deriving DecidableEq, Repr

/-- The command as the user typed it, with the program's bare name. -/
def Invocation.command (invocation : Invocation) : String :=
  let program := (Path.fileName? invocation.program).getD "ipcgen"
  " ".intercalate (program :: invocation.arguments)

/-- The settings of a run and its input files. -/
def Invocation.job (invocation : Invocation) : Except UsageError (Emitter × List String) := do
  let some options := Options.parse? invocation.arguments | throw .badArguments
  if options.files.isEmpty then throw .noFiles
  let language ← (Language.ofName (options.language.getD "cpp")).mapError .language
  let client ← (Template.parse (options.client.getD Template.clientDefault)).mapError .template
  let server ← (Template.parse (options.server.getD Template.serverDefault)).mapError .template
  return ({ language, client, server, command := invocation.command }, options.files)

/-! ## Records -/

namespace Record

def loaded (definitions : Definitions) : Record where
  level := .debug
  source := "ipcgen_types::definitions"
  message := "loaded definitions"
  fields := [("interfaces", toString definitions.interfaces.length)]

def planned (plan : RolePlan) : Record where
  level := .debug
  source := "ipcgen_codegen::plan"
  message := "planned role"
  fields := [("interface", plan.interface.name), ("role", plan.role.name),
    ("outgoing", toString plan.outgoing.length), ("incoming", toString plan.incoming.length)]

def writing (path text : String) : Record where
  level := .debug
  source := "ipcgen::emit"
  message := "writing artifact"
  fields := [("output", path), ("bytes", toString text.utf8ByteSize)]

def generated (input output : String) (role : Role) : Record where
  level := .info
  source := "ipcgen"
  message := "generated " ++ role.name
  fields := [("input", input), ("output", output)]

def failed (input message : String) : Record where
  level := .error
  source := "ipcgen"
  message
  fields := [("input", input)]

def incomplete (count : Nat) : Record where
  level := .error
  source := "ipcgen"
  message := "some definition files could not be processed"
  fields := [("failed", toString count)]

def misused (e : UsageError) : Record where
  level := .error
  source := "ipcgen"
  message := e.message

end Record

/-! ## Processing -/

variable {m : Type → Type} [Monad m] [Host m]

def Definitions.load (path : String) : m (Except LoadError Definitions) := do
  match ← Host.read path with
  | .error cause => return .error (.unreadable path cause)
  | .ok text =>
    let loaded := Definitions.parse text
    if let .ok definitions := loaded then Host.log (.loaded definitions)
    return loaded

/-- Writes the code for one role of an input file's definitions. Gives the path written. -/
def Emitter.emit (emitter : Emitter) (input : String) (definitions : Definitions) (role : Role) :
    m (Except EmitError String) := do
  let generation := emitter.language.target.generation definitions role
  generation.plans.forM fun plan => Host.log (.planned plan)
  match generation.text with
  | .error cause => return .error (.generate role cause)
  | .ok code =>
    let path := emitter.outputPath input role
    let text := emitter.banner input ++ code
    Host.log (.writing path text)
    match ← Host.write path text with
    | .error cause => return .error (.write path cause)
    | .ok () => return .ok path

/-- Writes the code for one role and reports on it. Gives whether all went well. -/
def Emitter.emitRole (emitter : Emitter) (input : String) (definitions : Definitions)
    (role : Role) : m Bool := do
  match ← emitter.emit input definitions role with
  | .ok output =>
    Host.log (.generated input output role)
    return true
  | .error e =>
    Host.log (.failed input e.message)
    return false

/-- Processes one input file. Gives whether all went well; a failing role does not keep the other
from being written. -/
def Emitter.process (emitter : Emitter) (input : String) : m Bool := do
  match ← Definitions.load input with
  | .error e =>
    Host.log (.failed input e.message)
    return false
  | .ok definitions =>
    let client ← emitter.emitRole input definitions .client
    let server ← emitter.emitRole input definitions .server
    return client && server

/-- Processes input files in order. Gives how many could not be processed. -/
def Emitter.processAll (emitter : Emitter) : (inputs : List String) → m Nat
  | [] => return 0
  | input :: inputs => do
    let ok ← emitter.process input
    let failed ← emitter.processAll inputs
    return if ok then failed else failed + 1

/-- Runs the program up to its final report. -/
def Invocation.process (invocation : Invocation) : m (Except UsageError Nat) := do
  match invocation.job with
  | .error e => return .error e
  | .ok (emitter, inputs) => return .ok (← emitter.processAll inputs)

/-- Runs the program. Gives its exit status: 0 if every file was processed, else 1. -/
def Invocation.run (invocation : Invocation) : m UInt32 := do
  match ← invocation.process with
  | .ok 0 => return 0
  | .ok failed =>
    Host.log (.incomplete failed)
    return 1
  | .error e =>
    Host.log (.misused e)
    return 1

/-! ## Worlds -/

/-- A file system and a log. -/
structure World where
  files : FileSystem
  log : List Record := []

instance : Host (StateM World) where
  read path := return (← get).files.fetch path
  write path text := do
    match (← get).files.write path text with
    | .error e => return .error e
    | .ok files =>
      modify fun world => { world with files }
      return .ok ()
  log record := modify fun world => { world with log := world.log ++ [record] }

end Bindery
