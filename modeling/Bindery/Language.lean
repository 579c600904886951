import Bindery.Target.CppClass
import Bindery.Target.RustModule

/-!
# Output languages
-/

namespace Bindery

/-- The languages code can be generated in. -/
inductive Language where
  | cpp
  | rust
  deriving DecidableEq, Repr

/-- The fault of asking for a language there is no target for. -/
structure UnknownLanguage where
  name : String
  deriving DecidableEq, Repr

def UnknownLanguage.message (e : UnknownLanguage) : String :=
  "unknown output language " ++ Text.quote e.name ++ " (expected cpp or rust)"

namespace Language

/-- All languages, in the order they are listed to users. -/
def all : List Language := [.cpp, .rust]

def name : Language → String
  | .cpp => "cpp"
  | .rust => "rust"

def extension : Language → String
  | .cpp => "h"
  | .rust => "rs"

/-- The mark that starts a comment to the end of the line. -/
def commentMark : Language → String
  | .cpp | .rust => "//"

/-- The language a user asks for, by its name or a common short form. -/
def ofName (name : String) : Except UnknownLanguage Language :=
  match name with
  | "cpp" | "c++" => .ok .cpp
  | "rust" | "rs" => .ok .rust
  | _ => .error ⟨name⟩

def target : Language → Target
  | .cpp => .cpp
  | .rust => .rust

end Language

end Bindery
