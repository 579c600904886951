import Bindery.Document.Value
import Mathlib.Data.List.Forall2

/-!
# Reading what the grammar allows

A value can be written down in many ways: any character of a text may be escaped, and white space
may stand between any two tokens. The grammar says which texts are written forms of a value
(`Value.Written`); it is stricter than the reader, which does not insist on commas and colons.

**Texts.** Each character stands for itself or is given by an escape (`CharWritten`). Whichever it
is, reading on from behind it is reading on with that character done (`readQuoted_of_charWritten`).

**Tokens.** The tokens of a value are determined by it (`Value.tokens`). Reading takes one token
after the other (`run`), whatever stands between them (`readFrom_of_spaced`).

**Values.** Where a value is expected, its tokens put it there and leave all else as it was
(`run_value`), by induction along the value: the items of a list end up in its frame in reverse, and
so do the fields of an object.

Main result: `Value.read?_of_written`.
-/

namespace Bindery.Document

/-! ## The grammar -/

/-- A hexadecimal digit, in either case, and its value. -/
def HexDigit (c : Char) (n : Nat) : Prop :=
  "0123456789abcdef".toList[n]? = some c ∨ "0123456789ABCDEF".toList[n]? = some c

/-- Four hexadecimal digits that give a 16-bit unit. -/
inductive UnitWritten : Nat → List Char → Prop where
  | digits {a b c d : Char} {w x y z : Nat} (ha : HexDigit a w) (hb : HexDigit b x)
      (hc : HexDigit c y) (hd : HexDigit d z) :
      UnitWritten (w * 0x1000 + x * 0x100 + y * 0x10 + z) [a, b, c, d]

/-- The characters with a short escape, and the letter of the escape. -/
def shortEscapes : List (Char × Char) :=
  [('"', '"'), ('\\', '\\'), ('/', '/'), ('\x08', 'b'), ('\x0c', 'f'), ('\n', 'n'), ('\r', 'r'),
    ('\t', 't')]

/-- How a character of a text is written: as it is, if it is no control, quote or backslash, or by
a short escape, by its number, or by the numbers of its two halves. -/
inductive CharWritten : Char → List Char → Prop where
  | plain {c : Char} (visible : ' ' ≤ c) (quote : c ≠ '"') (backslash : c ≠ '\\') :
      CharWritten c [c]
  | short {c letter : Char} (h : (c, letter) ∈ shortEscapes) : CharWritten c ['\\', letter]
  | unit {c : Char} {digits : List Char} (h : UnitWritten c.toNat digits) :
      CharWritten c ('\\' :: 'u' :: digits)
  | halves {c : Char} {high low : Nat} {digits digits' : List Char}
      (hhigh : UnitWritten high digits) (hlow : UnitWritten low digits')
      (highRange : 0xd800 ≤ high ∧ high < 0xdc00) (lowRange : 0xdc00 ≤ low ∧ low < 0xe000)
      (h : c.toNat = 0x10000 + (high - 0xd800) * 0x400 + (low - 0xdc00)) :
      CharWritten c ('\\' :: 'u' :: (digits ++ '\\' :: 'u' :: digits'))

/-- How a token is written. -/
inductive TokenWritten : Token → List Char → Prop where
  | openObject : TokenWritten .openObject ['\x7b']
  | closeObject : TokenWritten .closeObject ['\x7d']
  | openList : TokenWritten .openList ['[']
  | closeList : TokenWritten .closeList [']']
  | comma : TokenWritten .comma [',']
  | colon : TokenWritten .colon [':']
  | null : TokenWritten .null ['n', 'u', 'l', 'l']
  | text {content : String} {pieces : List (List Char)}
      (h : List.Forall₂ CharWritten content.toList pieces) :
      TokenWritten (.text content) ('"' :: (pieces.flatten ++ ['"']))

/-- The white space of a document. -/
def IsSpace (c : Char) : Prop :=
  c ∈ [' ', '\t', '\n', '\r']

instance (c : Char) : Decidable (IsSpace c) :=
  inferInstanceAs (Decidable (c ∈ _))

/-- Tokens one after the other, with any white space before, between and behind them. -/
inductive Spaced : List Token → List Char → Prop where
  | nil {space : List Char} (h : ∀ c ∈ space, IsSpace c) : Spaced [] space
  | cons {space written rest : List Char} {token : Token} {tokens : List Token}
      (h : ∀ c ∈ space, IsSpace c) (hwritten : TokenWritten token written)
      (hrest : Spaced tokens rest) : Spaced (token :: tokens) (space ++ (written ++ rest))

mutual

/-- The tokens of a value. -/
def Value.tokens : Value → List Token
  | .null => [.null]
  | .text content => [.text content]
  | .list items => .openList :: ([Token.comma].intercalate (tokensOfItems items) ++ [.closeList])
  | .object fields =>
    .openObject :: ([Token.comma].intercalate (tokensOfFields fields) ++ [.closeObject])

/-- The tokens of each item. -/
def tokensOfItems : List Value → List (List Token)
  | [] => []
  | item :: rest => item.tokens :: tokensOfItems rest

/-- The tokens of each field. -/
def tokensOfFields : List (String × Value) → List (List Token)
  | [] => []
  | (key, value) :: rest => (.text key :: .colon :: value.tokens) :: tokensOfFields rest

end

/-- The text is a written form of the value. -/
def Value.Written (value : Value) (text : String) : Prop :=
  Spaced value.tokens text.toList

/-! ## Texts -/

theorem hexDigit?_of_hexDigit {c : Char} {n : Nat} (h : HexDigit c n) :
    hexDigit? c = some n ∧ c ≠ '+' := by
  have hlt : n < 16 := by
    cases h with
    | inl h => exact (List.getElem?_eq_some_iff.mp h).1
    | inr h => exact (List.getElem?_eq_some_iff.mp h).1
  have htable : ∀ n < 16, ∀ digits ∈ ["0123456789abcdef", "0123456789ABCDEF"],
      (digits.toList[n]?.all fun digit => hexDigit? digit = some n ∧ digit ≠ '+') = true := by
    decide
  cases h with
  | inl h => simpa only [h, Option.all_some, decide_eq_true_eq] using htable n hlt _ (.head _)
  | inr h =>
    simpa only [h, Option.all_some, decide_eq_true_eq] using htable n hlt _ (.tail _ (.head _))

theorem unit?_of_unitWritten {unit : Nat} {digits : List Char} (h : UnitWritten unit digits) :
    ∃ a b c d, digits = [a, b, c, d] ∧ unit? a b c d = some unit := by
  cases h with
  | @digits a b c d w x y z ha hb hc hd =>
    refine ⟨a, b, c, d, rfl, ?_⟩
    obtain ⟨ha, hplus⟩ := hexDigit?_of_hexDigit ha
    simp only [unit?, if_neg hplus, hexNumber?, List.foldlM_cons, List.foldlM_nil, ha,
      (hexDigit?_of_hexDigit hb).1, (hexDigit?_of_hexDigit hc).1, (hexDigit?_of_hexDigit hd).1]
    simp only [bind, Option.bind, pure, Option.some.injEq]
    omega

/-- A character is no half of another. -/
theorem not_half_toNat (c : Char) : isHighHalf c.toNat = false ∧ isLowHalf c.toNat = false := by
  have hvalid : c.toNat < 0xd800 ∨ 0xdfff < c.toNat ∧ c.toNat < 0x110000 := c.valid
  simp only [isHighHalf, isLowHalf, Bool.and_eq_false_iff, decide_eq_false_iff_not]
  omega

/-- **Characters.** Behind a written character, reading goes on with that character done. -/
theorem readQuoted_of_charWritten {c : Char} {written : List Char} (h : CharWritten c written)
    (done rest : List Char) : readQuoted done (written ++ rest) = readQuoted (c :: done) rest := by
  cases h with
  | plain visible quote backslash =>
    -- No other rule for a quoted text takes such a character.
    rw [List.singleton_append, readQuoted] <;> simp [quote, backslash]
  | short h =>
    simp only [shortEscapes, List.mem_cons, Prod.mk.injEq, List.not_mem_nil, or_false] at h
    rcases h with ⟨rfl, rfl⟩ | ⟨rfl, rfl⟩ | ⟨rfl, rfl⟩ | ⟨rfl, rfl⟩ | ⟨rfl, rfl⟩ | ⟨rfl, rfl⟩ |
      ⟨rfl, rfl⟩ | ⟨rfl, rfl⟩ <;> simp [readQuoted, unescape]
  | unit h =>
    obtain ⟨a, b, d, e, rfl, hunit⟩ := unit?_of_unitWritten h
    obtain ⟨hhigh, hlow⟩ := not_half_toNat c
    simp [readQuoted, hunit, hhigh, hlow]
  | @halves high low _ _ hhigh hlow highRange lowRange h =>
    obtain ⟨a, b, d, e, rfl, hunit⟩ := unit?_of_unitWritten hhigh
    obtain ⟨a', b', d', e', rfl, hunit'⟩ := unit?_of_unitWritten hlow
    have hhalf : isHighHalf high = true := by simp [isHighHalf, highRange]
    have hhalf' : isLowHalf low = true := by simp [isLowHalf, lowRange]
    have hjoin : joinHalves high low = c := by rw [joinHalves, ← h, Char.ofNat_toNat]
    simp [readQuoted, hunit, hunit', hhalf, hhalf', hjoin]

theorem readQuoted_of_written {cs : List Char} {pieces : List (List Char)}
    (h : List.Forall₂ CharWritten cs pieces) (done rest : List Char) :
    readQuoted done (pieces.flatten ++ '"' :: rest) =
      some (String.ofList (done.reverse ++ cs), rest) := by
  induction h generalizing done with
  | nil => simp [readQuoted]
  | cons hc _ ih =>
    rw [List.flatten_cons, List.append_assoc, readQuoted_of_charWritten hc, ih]
    simp

/-! ## Tokens -/

theorem next?_of_space {space : List Char} (h : ∀ c ∈ space, IsSpace c) (rest : List Char) :
    Token.next? (space ++ rest) = Token.next? rest := by
  induction space with
  | nil => rfl
  | cons c space ih =>
    obtain ⟨hc, hspace⟩ := List.forall_mem_cons.mp h
    rw [List.cons_append, ← ih hspace]
    simp only [IsSpace, List.mem_cons, List.not_mem_nil, or_false] at hc
    rcases hc with rfl | rfl | rfl | rfl <;> rw [Token.next?]

theorem next?_of_tokenWritten {token : Token} {written : List Char} (h : TokenWritten token written)
    (rest : List Char) : Token.next? (written ++ rest) = some (token, rest) := by
  cases h with
  | text h =>
    rw [List.cons_append, List.append_assoc, List.singleton_append, Token.next?,
      readQuoted_of_written h]
    simp
  | _ => rfl

/-- Takes tokens from where reading stands until the value is complete. -/
def run : List Token → Option Reading → Option Value
  | _, none => none
  | _, some (.complete value) => some value
  | [], some (.inside _) => none
  | token :: rest, some (.inside frames) => run rest (token.step frames)

theorem run_none (tokens : List Token) : run tokens none = none := by
  cases tokens <;> rfl

theorem run_complete (tokens : List Token) (value : Value) :
    run tokens (some (.complete value)) = some value := by
  cases tokens <;> rfl

theorem run_cons (token : Token) (tokens : List Token) (frames : List Frame) :
    run (token :: tokens) (some (.inside frames)) = run tokens (token.step frames) := by
  rfl

/-- **Tokens.** Only the tokens of a text matter. -/
theorem readFrom_of_spaced {tokens : List Token} {cs : List Char} (h : Spaced tokens cs)
    (frames : List Frame) : Value.readFrom frames cs = run tokens (some (.inside frames)) := by
  induction h generalizing frames with
  | @nil space h =>
    have hnext : Token.next? space = none := by
      rw [← List.append_nil space, next?_of_space h]
      rfl
    rw [Value.readFrom]
    split <;> simp_all [run]
  | @cons space written rest token tokens h hwritten hrest ih =>
    have hnext : Token.next? (space ++ (written ++ rest)) = some (token, rest) := by
      rw [next?_of_space h, next?_of_tokenWritten hwritten]
    rw [Value.readFrom, run_cons]
    split
    · simp_all
    · rename_i token' rest' hsome
      obtain ⟨rfl, rfl⟩ := Prod.mk.inj (Option.some.inj (hnext.symm.trans hsome))
      cases token.step frames with
      | none => rw [run_none]
      | some reading =>
        cases reading with
        | complete value => rw [run_complete]
        | inside frames => exact ih frames

/-! ## Values -/

/-- A value may come next: what is open innermost is not an object before a key. -/
def Awaits (frames : List Frame) : Prop :=
  ∀ fields afterComma rest, frames ≠ .key fields afterComma :: rest

theorem awaits_nil : Awaits [] := by
  intro _ _ _ h
  cases h

theorem awaits_list (items : List Value) (afterComma : Bool) (frames : List Frame) :
    Awaits (.list items afterComma :: frames) := by
  intro _ _ _ h
  cases h

theorem awaits_value (fields : List (String × Value)) (key : String) (afterColon : Bool)
    (frames : List Frame) : Awaits (.value fields key afterColon :: frames) := by
  intro _ _ _ h
  cases h

section Steps

variable {frames : List Frame} (h : Awaits frames)
include h

theorem step_text (content : String) :
    (Token.text content).step frames = (Value.text content).place frames := by
  cases frames with
  | nil => rfl
  | cons frame rest =>
    cases frame with
    | key fields afterComma => exact absurd rfl (h fields afterComma rest)
    | list | value => rfl

theorem opened_eq (frame : Frame) : frame.opened frames = some (.inside (frame :: frames)) := by
  cases frames with
  | nil => rfl
  | cons top rest =>
    cases top with
    | key fields afterComma => exact absurd rfl (h fields afterComma rest)
    | list | value => rfl

end Steps

theorem tokensOfItems_eq (items : List Value) : tokensOfItems items = items.map Value.tokens := by
  induction items with
  | nil => rfl
  | cons item rest ih => rw [tokensOfItems, ih, List.map_cons]

/-- The tokens of a field. -/
def fieldTokens (field : String × Value) : List Token :=
  .text field.1 :: .colon :: field.2.tokens

theorem tokensOfFields_eq (fields : List (String × Value)) :
    tokensOfFields fields = fields.map fieldTokens := by
  induction fields with
  | nil => rfl
  | cons field rest ih => rw [tokensOfFields, ih, List.map_cons, fieldTokens]

section Separated

variable {α : Type} (frame : List α → Bool → Frame) {piece : α → List Token} {frames : List Frame}
  (hcomma : ∀ done, Token.comma.step (frame done false :: frames) =
    some (.inside (frame done true :: frames)))
include hcomma

/-- If each item of a container joins those in its frame, so do all of them, with commas between
them. A comma that is read already has to be followed by an item. -/
theorem run_separated {items : List α}
    (hitem : ∀ a ∈ items, ∀ done afterComma tokens,
      run (piece a ++ tokens) (some (.inside (frame done afterComma :: frames))) =
        run tokens (some (.inside (frame (a :: done) false :: frames))))
    (tokens : List Token) (done : List α) (afterComma : Bool)
    (h : items = [] → afterComma = false) :
    run ([Token.comma].intercalate (items.map piece) ++ tokens)
        (some (.inside (frame done afterComma :: frames))) =
      run tokens (some (.inside (frame (items.reverse ++ done) false :: frames))) := by
  induction items generalizing done afterComma with
  | nil =>
    rw [h rfl]
    rfl
  | cons a rest ih =>
    obtain ⟨ha, hrest⟩ := List.forall_mem_cons.mp hitem
    cases rest with
    | nil => simpa using ha done afterComma tokens
    | cons b rest =>
      have hpieces : [Token.comma].intercalate ((a :: b :: rest).map piece) ++ tokens =
          piece a ++ (.comma :: ([Token.comma].intercalate ((b :: rest).map piece) ++ tokens)) := by
        simp [List.intercalate]
      rw [hpieces, ha, run_cons, hcomma, ih hrest _ _ (by simp)]
      simp

end Separated

/-- **Values.** The tokens of a value put it where it is expected. -/
theorem run_value (value : Value) (tokens : List Token) (frames : List Frame)
    (h : Awaits frames) :
    run (value.tokens ++ tokens) (some (.inside frames)) = run tokens (value.place frames) := by
  cases value with
  | null => rfl
  | text content => rw [Value.tokens, List.singleton_append, run_cons, step_text h]
  | list items =>
    have hopen : Token.openList.step frames = some (.inside (.list [] false :: frames)) :=
      opened_eq h _
    rw [Value.tokens, tokensOfItems_eq, List.cons_append, List.append_assoc, run_cons, hopen,
      run_separated .list (fun _ => rfl) _ _ _ _ (fun _ => rfl)]
    · rw [List.append_nil, List.singleton_append, run_cons, Token.step, List.reverse_reverse]
    · intro item hitem done afterComma tokens
      exact run_value item tokens _ (awaits_list done afterComma frames)
  | object fields =>
    have hopen : Token.openObject.step frames = some (.inside (.key [] false :: frames)) :=
      opened_eq h _
    rw [Value.tokens, tokensOfFields_eq, List.cons_append, List.append_assoc, run_cons, hopen,
      run_separated .key (fun _ => rfl) _ _ _ _ (fun _ => rfl)]
    · rw [List.append_nil, List.singleton_append, run_cons, Token.step, List.reverse_reverse]
    · intro field hfield done afterComma tokens
      -- The key and the colon leave an object that waits for a value.
      exact run_value field.2 tokens _ (awaits_value done field.1 true frames)
  termination_by sizeOf value
  decreasing_by
    · have := List.sizeOf_lt_of_mem hitem
      simp only [Value.list.sizeOf_spec]
      omega
    · have hlt := List.sizeOf_lt_of_mem hfield
      have hpair : sizeOf field = 1 + sizeOf field.1 + sizeOf field.2 := rfl
      simp only [Value.object.sizeOf_spec]
      omega

/-- **Reading.** A written form of a value is read as that value. -/
theorem Value.read?_of_written {value : Value} {text : String} (h : value.Written text) :
    Value.read? text = some value := by
  have hvalue := run_value value [] [] awaits_nil
  rw [List.append_nil] at hvalue
  rw [Value.read?, readFrom_of_spaced h, hvalue]
  rfl

end Bindery.Document
