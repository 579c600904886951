import Bindery.Generate.Error
import Bindery.Schema.Check
import Std.Data.HashMap

/-!
# Scopes of generated names

Definitions are checked on the names as written. On the way out a name may still change (its case,
an escaped keyword), so two names can end up the same, or one can become empty or hide a variable
of the generated code. Every name is therefore claimed in the scope it will stand in before
anything is written.
-/

namespace Bindery

/-- The names of one scope: those the generated code needs itself, and those claimed so far, each
with the name in the definition it stands for. -/
structure Scope where
  reserved : List String
  taken : Std.HashMap String String

namespace Scope

def empty (reserved : List String) : Scope :=
  ⟨reserved, ∅⟩

/-- Whether a name may stand in generated code: an ASCII identifier, perhaps marked raw. -/
def isUsable (rendered : String) : Bool :=
  match rendered.toList with
  | 'r' :: '#' :: bare => isIdentifier bare
  | cs => isIdentifier cs

/-- Tries to claim the rendering of a name: whether it can be claimed, and the scope afterwards. -/
def tryClaim (scope : Scope) (interface name rendered : String) :
    Except GenerateError Unit × Scope :=
  if !isUsable rendered || scope.reserved.contains rendered then
    (.error (.unusableName interface name rendered), scope)
  else match scope.taken[rendered]? with
    | some first => (.error (.nameCollision interface first name rendered), scope)
    | none => (.ok (), { scope with taken := scope.taken.insert rendered name })

/-- Claims the rendering of a name. A check that claims names gives up where this fails. -/
def claim (scope : Scope) (interface name rendered : String) : Except GenerateError Scope :=
  match scope.tryClaim interface name rendered with
  | (.ok (), after) => .ok after
  | (.error e, _) => .error e

/-- Claims several names, each with its rendering, in order. -/
def claimAll (scope : Scope) (interface : String) (names : List (String × String)) :
    Except GenerateError Scope :=
  names.foldlM (fun scope (name, rendered) => scope.claim interface name rendered) scope

end Scope

end Bindery
