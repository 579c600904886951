import Bindery.Text.Alphanumeric

/-!
# Words inside a name

Generated code spells a name in the case its language is used to. For that a name is cut into
words. Characters that are neither letter nor digit divide words and vanish; within a run of
letters and digits a new word starts where the case turns from lower to upper, and before the last
of several capitals when a lower-case letter follows it (`HTTPServer` is `HTTP` and `Server`).
Digits have no case and keep to the letter before them. Case is that of ASCII, since names are
ASCII identifiers.
-/

namespace Bindery.Text

/-- The case of the letters read last in the current word; `none` before the first. -/
inductive Case where
  | none
  | lower
  | upper
  deriving DecidableEq, Repr

/-- The case after the character `c`, if no word ends there: a digit changes nothing. -/
def Case.next (case : Case) (c : Char) : Case :=
  if c.isLower then .lower else if c.isUpper then .upper else case

/-- The words of a run of letters and digits; `word` holds the current word so far, latest
character first. -/
def wordsFrom (case : Case) (word : List Char) : List Char → List (List Char)
  | [] => []
  | [c] => [(c :: word).reverse]
  | c :: n :: rest =>
    if case.next c = .lower && n.isUpper then
      (c :: word).reverse :: wordsFrom .none [] (n :: rest)
    else if case = .upper && c.isUpper && n.isLower then
      word.reverse :: wordsFrom .none [c] (n :: rest)
    else wordsFrom (case.next c) (c :: word) (n :: rest)

def words (name : String) : List (List Char) :=
  (name.toList.splitOnP fun c => !isAlphanumeric c).flatMap (wordsFrom .none [])

def lowercase (word : List Char) : List Char :=
  word.map Char.toLower

/-- The word with its first letter in upper case and the others in lower case. -/
def capitalize : List Char → List Char
  | [] => []
  | c :: rest => c.toUpper :: lowercase rest

/-- The name in snake case: its words in lower case, joined by underscores. -/
def snakeCase (name : String) : String :=
  String.ofList (['_'].intercalate ((words name).map lowercase))

/-- The name in camel case: its words capitalized and written together. -/
def camelCase (name : String) : String :=
  String.ofList ((words name).flatMap capitalize)

end Bindery.Text
