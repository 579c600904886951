import Bindery.Generate.Scope
import Bindery.Proofs.Splitting
import Bindery.Text.Words

/-!
# Identifiers and snake case

Whether a text is an identifier depends on its characters and on the first of them not being a
digit (`isIdentifier_iff`). Case conversion keeps to the characters, but may lose all of them or
bring a digit to the front, so a name in snake case need not be an identifier any more.

**Snake case.** The words of an identifier are not empty and hold letters and digits only
(`isWord_of_mem_words`). Its snake case is therefore a row of words in lower case with single
underscores between them (`isSnake_snakeCase`): no underscore at either end, and no other character.

Main results: `isUsable_iff` and `isSnake_snakeCase`.
-/

namespace Bindery

open Text

/-! ## Letters and digits -/

section Characters

variable {c : Char}

theorem isDigit_iff : c.isDigit = true ↔ 48 ≤ c.toNat ∧ c.toNat ≤ 57 :=
  Char.isDigit_iff_toNat

theorem isUpper_iff : c.isUpper = true ↔ 65 ≤ c.toNat ∧ c.toNat ≤ 90 :=
  decide_eq_true_iff

theorem isLower_iff : c.isLower = true ↔ 97 ≤ c.toNat ∧ c.toNat ≤ 122 := by
  rw [show c.isLower = (decide (97 ≤ c.toNat) && decide (c.toNat ≤ 122)) from rfl]
  simp

theorem isAlpha_iff : c.isAlpha = true ↔ c.isUpper = true ∨ c.isLower = true :=
  Bool.or_eq_true_iff

theorem isAlphanum_iff : c.isAlphanum = true ↔ c.isAlpha = true ∨ c.isDigit = true :=
  Bool.or_eq_true_iff

theorem not_isAlpha_of_isDigit (h : c.isDigit = true) : c.isAlpha = false := by
  rw [← Bool.not_eq_true, isAlpha_iff, isUpper_iff, isLower_iff]
  rw [isDigit_iff] at h
  omega

theorem toLower_of_not_isUpper (h : ¬c.isUpper = true) : c.toLower = c :=
  dif_neg (mt isUpper_iff.mpr h)

theorem toNat_toLower_of_isUpper (h : c.isUpper = true) : c.toLower.toNat = c.toNat + 32 := by
  have hrange := isUpper_iff.mp h
  have hval : c.val.toNat = c.toNat := rfl
  have hlower : c.toLower.toNat = (c.val.toNat + 32) % 4294967296 :=
    congrArg Char.toNat (dif_pos hrange)
  omega

theorem toUpper_of_not_isLower (h : ¬c.isLower = true) : c.toUpper = c :=
  dif_neg (mt isLower_iff.mpr h)

theorem toNat_toUpper_of_isLower (h : c.isLower = true) : c.toUpper.toNat = c.toNat - 32 := by
  have hrange := isLower_iff.mp h
  have hval : c.val.toNat = c.toNat := rfl
  have ha : 'a'.val.toNat = 97 := rfl
  have hA : 'A'.val.toNat = 65 := rfl
  -- The conversion adds the difference of the two cases, modulo the size of a word.
  delta Char.toUpper
  rw [dif_pos (show 'a'.val ≤ c.val ∧ c.val ≤ 'z'.val from hrange)]
  change (c.val + ('A'.val - 'a'.val)).toNat = _
  rw [UInt32.toNat_add, UInt32.toNat_sub, ha, hA]
  omega

end Characters

/-! ## Identifiers -/

def isIdentifierChar (c : Char) : Bool :=
  c.isAlphanum || c == '_'

def startsWithDigit (cs : List Char) : Bool :=
  cs.head?.any Char.isDigit

theorem startsWithDigit_append {cs rest : List Char} (h : startsWithDigit rest = false) :
    startsWithDigit (cs ++ rest) = startsWithDigit cs := by
  cases cs with
  | nil => exact h
  | cons c cs => rfl

theorem isIdentifier_iff {cs : List Char} :
    isIdentifier cs = true ↔
      cs ≠ [] ∧ startsWithDigit cs = false ∧ ∀ c ∈ cs, isIdentifierChar c = true := by
  cases cs with
  | nil => simp [isIdentifier]
  | cons c rest =>
    -- The first character is a letter or an underscore: an identifier character but no digit.
    have hfirst : (c.isAlpha || c == '_') = true ↔
        c.isDigit = false ∧ isIdentifierChar c = true := by
      by_cases hdigit : c.isDigit = true
      · have hunderscore : c ≠ '_' := by rintro rfl; exact absurd hdigit (by decide)
        simp [hdigit, not_isAlpha_of_isDigit hdigit, hunderscore]
      · simp [hdigit, isIdentifierChar, isAlphanum_iff]
    simp only [isIdentifier, Bool.and_eq_true, hfirst, startsWithDigit, List.head?_cons,
      Option.any_some, List.all_eq_true, List.forall_mem_cons, ne_eq, reduceCtorEq,
      not_false_eq_true, true_and, and_assoc]
    rfl

/-- No identifier character marks a raw identifier. -/
theorem hash_notMem {cs : List Char} (h : ∀ c ∈ cs, isIdentifierChar c = true) : '#' ∉ cs :=
  fun hmem => absurd (h _ hmem) (by decide)

/-- A text with identifier characters only. -/
def IsPlain (text : String) : Prop :=
  ∀ c ∈ text.toList, isIdentifierChar c = true

theorem IsPlain.lit {cs : List Char} (h : cs.all isIdentifierChar = true) :
    IsPlain (String.ofList cs) := by
  simpa [IsPlain] using h

theorem IsPlain.append {text text' : String} (h : IsPlain text) (h' : IsPlain text') :
    IsPlain (text ++ text') := by
  rw [IsPlain, String.toList_append, List.forall_mem_append]
  exact ⟨h, h'⟩

theorem isPlain_of_isIdentifier {text : String} (h : isIdentifier text.toList = true) :
    IsPlain text :=
  (isIdentifier_iff.mp h).2.2

theorem isUsable_raw {name : String} :
    Scope.isUsable ("r#" ++ name) = isIdentifier name.toList := by
  simp [Scope.isUsable]

theorem isUsable_of_not_raw {rendered : String} (h : ∀ name, rendered ≠ "r#" ++ name) :
    Scope.isUsable rendered = isIdentifier rendered.toList := by
  unfold Scope.isUsable
  split
  · rename_i bare heq
    refine absurd ?_ (h (String.ofList bare))
    rw [← String.toList_inj, heq]
    simp
  · rfl

theorem IsPlain.ne_raw {rendered : String} (h : IsPlain rendered) (name : String) :
    rendered ≠ "r#" ++ name := by
  rintro rfl
  exact absurd (by simp) (hash_notMem h)

/-- A plain text can be used as a name if it starts with a character that is no digit. -/
theorem isUsable_iff {rendered : String} (h : IsPlain rendered) :
    Scope.isUsable rendered = true ↔
      rendered.toList ≠ [] ∧ startsWithDigit rendered.toList = false := by
  rw [isUsable_of_not_raw h.ne_raw, isIdentifier_iff]
  exact ⟨fun ⟨hne, hdigit, _⟩ => ⟨hne, hdigit⟩, fun ⟨hne, hdigit⟩ => ⟨hne, hdigit, h⟩⟩

namespace Text

/-! ## Words -/

/-- Words are never empty: a case is known only once a letter of the word was read. -/
theorem mem_of_mem_wordsFrom {case : Case} {word cs found : List Char}
    (hword : case ≠ .none → word ≠ []) (h : found ∈ wordsFrom case word cs) :
    found ≠ [] ∧ ∀ c ∈ found, c ∈ word ∨ c ∈ cs := by
  fun_induction wordsFrom case word cs with
  | case1 => simp at h
  | case2 case word c =>
    simp only [List.mem_singleton] at h
    subst h
    simp [or_comm]
  | case3 case word c n rest hturn ih =>
    rcases List.mem_cons.mp h with rfl | h
    · simp
      tauto
    · obtain ⟨hne, hmem⟩ := ih (by simp) h
      refine ⟨hne, fun d hd => ?_⟩
      have := hmem d hd
      simp_all
  | case4 case word c n rest hturn hlast ih =>
    rcases List.mem_cons.mp h with rfl | h
    · simp only [Bool.and_eq_true, decide_eq_true_eq] at hlast
      refine ⟨by simpa using hword (by simp [hlast.1.1]), fun d hd => ?_⟩
      exact Or.inl (by simpa using hd)
    · obtain ⟨hne, hmem⟩ := ih (by simp) h
      refine ⟨hne, fun d hd => ?_⟩
      have := hmem d hd
      simp_all
  | case5 case word c n rest hturn hlast ih =>
    obtain ⟨hne, hmem⟩ := ih (by simp) h
    refine ⟨hne, fun d hd => ?_⟩
    have := hmem d hd
    simp only [List.mem_cons] at this ⊢
    tauto

/-- A word: letters and digits, and at least one of them. -/
def IsWord (word : List Char) : Prop :=
  word ≠ [] ∧ ∀ c ∈ word, c.isAlphanum = true

theorem isWord_of_mem_words {name : String} (h : IsPlain name) {word : List Char}
    (hword : word ∈ words name) : IsWord word := by
  obtain ⟨field, hfield, hword⟩ := List.mem_flatMap.mp hword
  obtain ⟨hne, hmem⟩ := mem_of_mem_wordsFrom (by simp) hword
  refine ⟨hne, fun c hc => ?_⟩
  obtain ⟨hc, hkept⟩ := mem_of_mem_splitOnP hfield c ((hmem c hc).resolve_left List.not_mem_nil)
  -- The only identifier character that is neither letter nor digit divides words.
  have hunderscore : c ≠ '_' := by rintro rfl; exact absurd hkept (by decide)
  simpa [isIdentifierChar, hunderscore] using h c hc

/-! ## Snake case -/

def isSnakeChar (c : Char) : Bool :=
  c.isLower || c.isDigit

theorem isSnakeChar_toLower {c : Char} (h : c.isAlphanum = true) :
    isSnakeChar c.toLower = true := by
  rw [isSnakeChar, Bool.or_eq_true]
  by_cases hupper : c.isUpper = true
  · have hlower := toNat_toLower_of_isUpper hupper
    rw [isUpper_iff] at hupper
    rw [isLower_iff]
    omega
  · rw [isAlphanum_iff, isAlpha_iff, or_iff_right hupper] at h
    rwa [toLower_of_not_isUpper hupper]

theorem isIdentifierChar_of_isSnakeChar {c : Char} (h : isSnakeChar c = true) :
    isIdentifierChar c = true := by
  rw [isSnakeChar, Bool.or_eq_true] at h
  have halphanum : c.isAlphanum = true :=
    isAlphanum_iff.mpr (h.imp_left fun hlower => isAlpha_iff.mpr (.inr hlower))
  simp [isIdentifierChar, halphanum]

/-- A row of words in lower case with single underscores between them. -/
def IsSnake (cs : List Char) : Prop :=
  ∃ words, (∀ word ∈ words, word ≠ [] ∧ ∀ c ∈ word, isSnakeChar c = true) ∧
    cs = ['_'].intercalate words

/-- **Snake case.** The conversion of an identifier is in snake case. -/
theorem isSnake_snakeCase {name : String} (h : IsPlain name) :
    IsSnake (snakeCase name).toList := by
  refine ⟨(words name).map lowercase, fun word hword => ?_, by simp [snakeCase]⟩
  obtain ⟨source, hsource, rfl⟩ := List.mem_map.mp hword
  obtain ⟨hne, hchars⟩ := isWord_of_mem_words h hsource
  refine ⟨by simpa [lowercase] using hne, fun c hc => ?_⟩
  obtain ⟨d, hd, rfl⟩ := List.mem_map.mp hc
  exact isSnakeChar_toLower (hchars d hd)

theorem IsSnake.isSnakeChar_or_underscore {cs : List Char} (h : IsSnake cs) :
    ∀ c ∈ cs, isSnakeChar c = true ∨ c = '_' := by
  obtain ⟨words, hwords, rfl⟩ := h
  induction words with
  | nil => simp
  | cons word rest ih =>
    have hword := (hwords word List.mem_cons_self).2
    cases rest with
    | nil =>
      rw [List.intercalate_singleton]
      exact fun c hc => .inl (hword c hc)
    | cons next rest =>
      intro c hc
      rw [List.intercalate_cons_cons, List.mem_append, List.mem_append, List.mem_singleton] at hc
      rcases hc with (hc | rfl) | hc
      · exact .inl (hword c hc)
      · exact .inr rfl
      · exact ih (fun w hw => hwords w (List.mem_cons_of_mem word hw)) c hc

theorem IsSnake.isIdentifierChar {cs : List Char} (h : IsSnake cs) :
    ∀ c ∈ cs, isIdentifierChar c = true := by
  intro c hc
  rcases h.isSnakeChar_or_underscore c hc with hc | rfl
  · exact isIdentifierChar_of_isSnakeChar hc
  · decide

theorem isPlain_snakeCase {name : String} (h : IsPlain name) : IsPlain (snakeCase name) :=
  (isSnake_snakeCase h).isIdentifierChar

theorem IsSnake.getLast?_ne {cs : List Char} (h : IsSnake cs) : cs.getLast? ≠ some '_' := by
  obtain ⟨words, hwords, rfl⟩ := h
  induction words with
  | nil => simp
  | cons word rest ih =>
    cases rest with
    | nil =>
      rw [List.intercalate_singleton]
      intro hlast
      exact absurd ((hwords word List.mem_cons_self).2 _ (List.mem_of_getLast? hlast)) (by decide)
    | cons next rest =>
      have hnext := (hwords next (by simp)).1
      rw [List.intercalate_cons_cons,
        List.getLast?_append_of_ne_nil _ (intercalate_ne_nil hnext rest)]
      exact ih fun w hw => hwords w (List.mem_cons_of_mem word hw)

/-! ## Camel case -/

theorem isDigit_toLower (c : Char) : c.toLower.isDigit = c.isDigit := by
  by_cases h : c.isUpper = true
  · have hlower := toNat_toLower_of_isUpper h
    rw [isUpper_iff] at h
    rw [Bool.eq_iff_iff, isDigit_iff, isDigit_iff]
    omega
  · rw [toLower_of_not_isUpper h]

theorem isDigit_toUpper (c : Char) : c.toUpper.isDigit = c.isDigit := by
  by_cases h : c.isLower = true
  · have hupper := toNat_toUpper_of_isLower h
    rw [isLower_iff] at h
    rw [Bool.eq_iff_iff, isDigit_iff, isDigit_iff]
    omega
  · rw [toUpper_of_not_isLower h]

theorem isAlphanum_toUpper {c : Char} (h : c.isAlphanum = true) : c.toUpper.isAlphanum = true := by
  by_cases hlower : c.isLower = true
  · have hupper := toNat_toUpper_of_isLower hlower
    rw [isLower_iff] at hlower
    rw [isAlphanum_iff, isAlpha_iff, isUpper_iff]
    omega
  · rwa [toUpper_of_not_isLower hlower]

theorem isPlain_camelCase {name : String} (h : IsPlain name) : IsPlain (camelCase name) := by
  intro c hc
  rw [camelCase, String.toList_ofList, List.mem_flatMap] at hc
  obtain ⟨word, hword, hc⟩ := hc
  obtain ⟨-, hchars⟩ := isWord_of_mem_words h hword
  cases word with
  | nil => simp [capitalize] at hc
  | cons first rest =>
    obtain ⟨hfirst, hrest⟩ := List.forall_mem_cons.mp hchars
    rw [capitalize, List.mem_cons] at hc
    rcases hc with rfl | hc
    · simp [isIdentifierChar, isAlphanum_toUpper hfirst]
    · obtain ⟨d, hd, rfl⟩ := List.mem_map.mp hc
      exact isIdentifierChar_of_isSnakeChar (isSnakeChar_toLower (hrest d hd))

/-- The two conversions start with a digit alike. -/
theorem startsWithDigit_camelCase {name : String} (h : IsPlain name) :
    startsWithDigit (camelCase name).toList = startsWithDigit (snakeCase name).toList := by
  cases hwords : words name with
  | nil => simp [camelCase, snakeCase, hwords]
  | cons word rest =>
    obtain ⟨hne, -⟩ := isWord_of_mem_words h (hwords ▸ List.mem_cons_self)
    obtain ⟨c, tail, rfl⟩ := List.exists_cons_of_ne_nil hne
    cases rest <;>
      simp [camelCase, snakeCase, hwords, lowercase, capitalize, startsWithDigit,
        isDigit_toLower, isDigit_toUpper]

end Text

end Bindery
