/-!
# Paths

A path is text with slashes between its components. Empty components and `.` name nothing and are
passed over at the end of a path, except for a `.` that stands first. What is left of a path keeps
its text, doubled slashes and all.
-/

namespace Bindery.Path

/-- What a path starts with: the root, the current directory by name, or neither. -/
inductive Lead where
  | none
  | root
  | here
  deriving DecidableEq, Repr

def Lead.text : Lead → List Char
  | .none => []
  | .root => ['/']
  | .here => ['.']

def splitLead : List Char → Lead × List Char
  | '/' :: rest => (.root, rest)
  | ['.'] => (.here, [])
  | '.' :: '/' :: rest => (.here, '/' :: rest)
  | cs => (.none, cs)

/-- Whether a component names nothing. -/
def isVoid (component : List Char) : Bool :=
  component == [] || component == ['.']

/-- The list without the void components at its end. -/
def dropVoid (components : List (List Char)) : List (List Char) :=
  (components.reverse.dropWhile isVoid).reverse

/-- The components of the text after the lead, without the void ones at the end. -/
def components (cs : List Char) : List (List Char) :=
  dropVoid (cs.splitOn '/')

/-- The last component, unless it goes up or there is none. -/
def fileName? (path : String) : Option String :=
  match (components (splitLead path.toList).2).getLast? with
  | some name => if name = ['.', '.'] then none else some (String.ofList name)
  | none => none

/-- The path without its last component. -/
def parent? (path : String) : Option String :=
  let (lead, body) := splitLead path.toList
  match components body, lead with
  | [], .here => some ""
  | [], _ => none
  | components, lead =>
    some (String.ofList (lead.text ++ ['/'].intercalate (dropVoid components.dropLast)))

/-- A file name without its last dot and what follows. A name whose only dot stands first has no
ending. -/
def stemOf (name : List Char) : List Char :=
  match (name.reverse.dropWhile (· != '.')).drop 1 with
  | [] => name
  | before => before.reverse

def fileStem? (path : String) : Option String :=
  (fileName? path).map fun name => String.ofList (stemOf name.toList)

/-- The path `relative` as seen from `base`: itself if it starts at the root. -/
def join (base relative : String) : String :=
  if relative.toList.head? = some '/' then relative
  else if base.isEmpty || base.toList.getLast? = some '/' then base ++ relative
  else base ++ "/" ++ relative

end Bindery.Path
