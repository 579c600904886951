/-!
# Tokens of a definition document

A document is made of braces, brackets, commas, colons, quoted texts and the word `null`, with
spaces, tabs and line ends between them. Nothing else occurs in a definition, so any other
character ends the reading.

**Assumed.** The program leaves documents to a JSON reader that is not its own. The modules on
documents say what is assumed of that reader. On tokens it is this:

* numbers, truth values and all other characters are refused, and so are comments: no token starts
  with a slash (`Token.next?_slash`). What a run leaves of its input files depends on that;
* `null` is known by its four letters, whatever follows them;
* a backslash in front of a character without an escape of its own gives that character, controls
  may stand in a quoted text as they are, and a plus sign may stand for the first of four digits.

A text that starts with a byte order mark is refused like any other character; nothing is claimed of
what the reader does with it.
-/

namespace Bindery.Document

inductive Token where
  | openObject
  | closeObject
  | openList
  | closeList
  | comma
  | colon
  | null
  | text (text : String)
  deriving DecidableEq, Repr

def hexDigit? (c : Char) : Option Nat :=
  if c.isDigit then some (c.toNat - '0'.toNat)
  else if 'a' ≤ c && c ≤ 'f' then some (c.toNat - 'a'.toNat + 10)
  else if 'A' ≤ c && c ≤ 'F' then some (c.toNat - 'A'.toNat + 10)
  else none

def hexNumber? (cs : List Char) : Option Nat :=
  cs.foldlM (fun n c => do return n * 16 + (← hexDigit? c)) 0

/-- The 16-bit unit that four characters spell: hexadecimal digits, the first of which may be a
plus sign instead. -/
def unit? (a b c d : Char) : Option Nat :=
  hexNumber? (if a = '+' then [b, c, d] else [a, b, c, d])

/-- Whether the unit is the first half of a character outside the 16-bit range. -/
def isHighHalf (unit : Nat) : Bool :=
  0xd800 ≤ unit && unit < 0xdc00

/-- Whether the unit is the second half of such a character. -/
def isLowHalf (unit : Nat) : Bool :=
  0xdc00 ≤ unit && unit < 0xe000

/-- The character that two halves make. -/
def joinHalves (high low : Nat) : Char :=
  Char.ofNat (0x10000 + (high - 0xd800) * 0x400 + (low - 0xdc00))

/-- The character that a backslash and `c` stand for, `u` apart. -/
def unescape (c : Char) : Char :=
  match c with
  | 'b' => '\x08'
  | 'f' => '\x0c'
  | 'n' => '\n'
  | 'r' => '\r'
  | 't' => '\t'
  | _ => c

/-- Reads the rest of a quoted text up to its closing quote; `done` holds the characters so far,
latest first. Gives the text and what follows it. -/
def readQuoted (done : List Char) : List Char → Option (String × List Char)
  | '"' :: rest => some (String.ofList done.reverse, rest)
  | '\\' :: 'u' :: a :: b :: c :: d :: rest =>
    match unit? a b c d with
    | none => none
    | some high =>
      if isHighHalf high then
        match rest with
        | '\\' :: 'u' :: a :: b :: c :: d :: rest =>
          match unit? a b c d with
          | none => none
          | some low =>
            if isLowHalf low then readQuoted (joinHalves high low :: done) rest else none
        | _ => none
      else if isLowHalf high then none
      else readQuoted (Char.ofNat high :: done) rest
  | '\\' :: 'u' :: _ => none
  | '\\' :: c :: rest => readQuoted (unescape c :: done) rest
  | ['\\'] => none
  | c :: rest => readQuoted (c :: done) rest
  | [] => none

/-- The first token of a text and what follows it. -/
def Token.next? : List Char → Option (Token × List Char)
  | ' ' :: rest | '\t' :: rest | '\n' :: rest | '\r' :: rest => next? rest
  | '\x7b' :: rest => some (.openObject, rest)
  | '\x7d' :: rest => some (.closeObject, rest)
  | '[' :: rest => some (.openList, rest)
  | ']' :: rest => some (.closeList, rest)
  | ',' :: rest => some (.comma, rest)
  | ':' :: rest => some (.colon, rest)
  | '"' :: rest => (readQuoted [] rest).map fun (content, after) => (.text content, after)
  | 'n' :: 'u' :: 'l' :: 'l' :: rest => some (.null, rest)
  | _ => none

theorem Token.next?_slash (rest : List Char) : Token.next? ('/' :: rest) = none := rfl

/-- A quoted text takes at least its closing quote. -/
theorem length_lt_of_readQuoted {done cs : List Char} {text : String} {rest : List Char}
    (h : readQuoted done cs = some (text, rest)) : rest.length < cs.length := by
  fun_induction readQuoted done cs <;> simp_all <;> omega

/-- Every token takes at least one character. -/
theorem Token.length_lt_of_next? {cs rest : List Char} {token : Token}
    (h : Token.next? cs = some (token, rest)) : rest.length < cs.length := by
  fun_induction Token.next? cs with
  | case11 quoted =>
    obtain ⟨⟨text, after⟩, read, same⟩ := Option.map_eq_some_iff.mp h
    have := length_lt_of_readQuoted read
    grind
  | _ => grind

end Bindery.Document
