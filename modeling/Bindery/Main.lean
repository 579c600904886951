import Bindery.Command.World

/-!
# The command line program

The program on the operating system's files, with its log on standard error.
-/

namespace Bindery

/-- The reason with this number. Some operations of the system give the number negated. -/
def FileError.ofCode? (code : UInt32) : Option FileError :=
  match min code (-code) with
  | 2 => some .notFound
  | 13 => some .permissionDenied
  | 20 => some .notDirectory
  | 21 => some .isDirectory
  | 28 => some .noSpace
  | 36 => some .nameTooLong
  | _ => none

def FileError.ofSystem (e : IO.Error) : FileError :=
  let reason := match e with
    | .noFileOrDirectory _ code _ => ofCode? code
    | .permissionDenied _ code _ => ofCode? code
    | .resourceExhausted _ code _ => ofCode? code
    | .inappropriateType _ code _ => ofCode? code
    | .invalidArgument _ code _ => ofCode? code
    | _ => none
  reason.getD (.other (toString e))

/-- Runs an action on files, giving the reason if it fails. -/
def attempt {α : Type} (action : IO α) : IO (Except FileError α) := do
  match ← action.toBaseIO with
  | .ok value => return .ok value
  | .error e => return .error (.ofSystem e)

instance : Host IO where
  read path := do
    match ← attempt (IO.FS.readBinFile path) with
    | .error e => return .error e
    | .ok bytes =>
      match Wire.ofUtf8? bytes.toList with
      | some text => return .ok text
      | none => return .error .notText
  write path text := attempt (IO.FS.writeFile path text)
  log record := do
    let threshold := Threshold.ofSetting (← IO.getEnv "RUST_LOG")
    if threshold.shows record then IO.eprintln record.text

end Bindery

open Bindery

/-- Runs the program under the name of its own file. -/
def main (arguments : List String) : IO UInt32 := do
  let invocation : Invocation := { program := (← IO.appPath).toString, arguments }
  invocation.run
