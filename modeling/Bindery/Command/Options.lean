import Bindery.Text.Words

/-!
# Command line options

Options have a long name, written after two dashes in any case, and some a short one, written after
one dash. The value follows an equals sign or is the next argument, whatever that looks like. All
other arguments are files, and so is everything after `--`.

**Assumed.** The program leaves its arguments to a reader that is not its own. That one is assumed
to follow these rules, to compare long names after conversion to snake case, and to refuse unknown
options and options without a value. Nothing is assumed of an option that is given twice, where the
later value counts here, nor of an empty argument in front of `--`.
-/

namespace Bindery

/-- What a command line asks for. -/
structure Options where
  files : List String := []
  client : Option String := none
  server : Option String := none
  language : Option String := none
  deriving DecidableEq, Repr

namespace Options

/-- The options that take a value. -/
inductive Key where
  | files
  | client
  | server
  | language
  deriving DecidableEq, Repr

def Key.ofLong? (name : String) : Option Key :=
  match Text.snakeCase name with
  | "files" => some .files
  | "client" => some .client
  | "server" => some .server
  | "lang" => some .language
  | _ => none

def Key.ofShort? (name : String) : Option Key :=
  match name with
  | "c" => some .client
  | "s" => some .server
  | "l" => some .language
  | _ => none

def set (options : Options) (key : Key) (value : String) : Options :=
  match key with
  | .files => { options with files := options.files ++ [value] }
  | .client => { options with client := some value }
  | .server => { options with server := some value }
  | .language => { options with language := some value }

/-- How one argument reads. -/
inductive Argument where
  /-- All further arguments are files. -/
  | endOfOptions
  | option (key : Key) (value : Option String)
  | unknownOption
  | file (path : String)
  deriving DecidableEq, Repr

/-- An option, with the value after its first equals sign if it has one. -/
def Argument.ofOption (key? : String → Option Key) (text : List Char) : Argument :=
  let name := String.ofList (text.takeWhile (· != '='))
  let value := match text.dropWhile (· != '=') with
    | [] => none
    | _ :: value => some (String.ofList value)
  match key? name with
  | some key => .option key value
  | none => .unknownOption

def Argument.ofText (text : String) : Argument :=
  match text.toList with
  | ['-', '-'] => .endOfOptions
  | '-' :: '-' :: long => .ofOption Key.ofLong? long
  | '-' :: short => .ofOption Key.ofShort? short
  | _ => .file text

/-- Takes in the arguments in order; nothing if one is an unknown option or lacks its value. -/
def addAll (options : Options) : List String → Option Options
  | [] => some options
  | argument :: rest =>
    match Argument.ofText argument with
    | .endOfOptions => some { options with files := options.files ++ rest }
    | .option key (some value) => (options.set key value).addAll rest
    | .option key none =>
      match rest with
      | value :: rest => (options.set key value).addAll rest
      | [] => none
    | .unknownOption => none
    | .file path => (options.set .files path).addAll rest

def parse? (arguments : List String) : Option Options :=
  addAll {} arguments

end Options

end Bindery
