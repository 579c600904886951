import Bindery.Language
import Bindery.Output.FileSystem
import Bindery.Output.Path
import Bindery.Output.Template

/-!
# Output files

For every input file and role one file is written next to the input: a banner that says where the
text comes from, and the code.
-/

namespace Bindery

/-- Why an output file was not written. -/
inductive EmitError where
  | generate (role : Role) (cause : GenerateError)
  | write (path : String) (cause : FileError)
  deriving DecidableEq, Repr

namespace EmitError

def message : EmitError → String
  | .generate role cause => "failed to generate " ++ role.name ++ " code: " ++ cause.message
  | .write path cause => "failed to write " ++ path ++ ": " ++ cause.message

/-- The faults behind this one, in words, outermost first. -/
def causes : EmitError → List String
  | .generate _ cause => cause.message :: cause.causes
  | .write _ cause => [cause.message]

end EmitError

/-- What is generated, where it goes, and which command asked for it. -/
structure Emitter where
  language : Language
  client : Template
  server : Template
  command : String

namespace Emitter

def template (emitter : Emitter) : Role → Template
  | .client => emitter.client
  | .server => emitter.server

def outputPath (emitter : Emitter) (input : String) (role : Role) : String :=
  let stem := (Path.fileStem? input).getD ""
  let directory := (Path.parent? input).getD ""
  Path.join directory ((emitter.template role).expand stem emitter.language.extension)

/-- The comment at the top of an output file. -/
def banner (emitter : Emitter) (input : String) : String :=
  let mark := emitter.language.commentMark
  mark ++ " Generated from " ++ input ++ " by running \"" ++ emitter.command ++ "\".\n" ++
    mark ++ " Do not edit: changes are overwritten on the next run.\n\n"

end Emitter

end Bindery
