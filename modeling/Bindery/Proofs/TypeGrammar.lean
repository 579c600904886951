import Bindery.Proofs.Loading
import Mathlib.Data.List.TakeWhile

/-!
# The grammar of type spellings

A type is spelled by a keyword, or by `repeated<` and `>` around the spelling of another type, and
white space may stand around every spelling (`ParamType.Derives`). The reader works from the outside
in: it trims a text, takes the two marks off its ends and reads what is left.

**Trimming.** What is trimmed off is white space, and it is all of it if what stays has none at its
ends (`trim_between`). A keyword and a sequence type have none there, so trimming takes off just
what the grammar put around them.

**Brackets.** Only the marks at the two ends of a trimmed text are looked at
(`elementSpelling?_eq_some_iff`). That they belong together need not be checked: with one `>` at the
end gone, what is left spells a type exactly if its own brackets match.

Main result: `type_spellings_recognised`.
-/

namespace Bindery

namespace Text

/-- The characters with the Unicode property `White_Space`. -/
def whiteSpace : List Char :=
  ['\t', '\n', '\x0b', '\x0c', '\r', ' ', '\u0085',
   '\u00a0', '\u1680', '\u2000', '\u2001', '\u2002', '\u2003', '\u2004', '\u2005', '\u2006',
   '\u2007', '\u2008', '\u2009', '\u200a', '\u2028', '\u2029', '\u202f', '\u205f', '\u3000']

/-- Nothing but white space. -/
def IsWhiteSpace (cs : List Char) : Prop :=
  ∀ c ∈ cs, c ∈ whiteSpace

end Text

namespace ParamType

open Text

/-- The grammar: `T ::= ws* K ws* | ws* repeated< T > ws*`, where `K` is the keyword of a scalar. -/
inductive Derives : ParamType → List Char → Prop where
  | scalar {before after : List Char} (s : Scalar) (hbefore : IsWhiteSpace before)
      (hafter : IsWhiteSpace after) :
      Derives (.scalar s) (before ++ (s.keyword.toList ++ after))
  | repeated {before inner after : List Char} {element : ParamType} (hbefore : IsWhiteSpace before)
      (h : Derives element inner) (hafter : IsWhiteSpace after) :
      Derives (.repeated element) (before ++ (("repeated<".toList ++ (inner ++ ['>'])) ++ after))

end ParamType

/-! ## Trimming -/

namespace Text

theorem isBlank_iff_mem_whiteSpace (c : Char) : isBlank c = true ↔ c ∈ whiteSpace := by
  simp only [whiteSpace, isBlank, List.mem_cons, List.not_mem_nil, or_false, ← Char.toNat_inj,
    Bool.or_eq_true, Bool.and_eq_true, decide_eq_true_eq, beq_iff_eq, Char.reduceToNat]
  omega

theorem isWhiteSpace_iff {cs : List Char} : IsWhiteSpace cs ↔ ∀ c ∈ cs, isBlank c = true := by
  simp only [IsWhiteSpace, isBlank_iff_mem_whiteSpace]

theorem exists_between_trim (cs : List Char) :
    ∃ before after,
      IsWhiteSpace before ∧ IsWhiteSpace after ∧ cs = before ++ (trim cs ++ after) := by
  have hspace : ∀ ds : List Char, IsWhiteSpace (ds.takeWhile isBlank) :=
    fun ds => isWhiteSpace_iff.mpr fun c hc => List.mem_takeWhile_imp hc
  refine ⟨cs.takeWhile isBlank, ((cs.dropWhile isBlank).reverse.takeWhile isBlank).reverse,
    hspace cs, fun c hc => hspace _ c (List.mem_reverse.mp hc), ?_⟩
  rw [trim, ← List.reverse_append, List.takeWhile_append_dropWhile, List.reverse_reverse,
    List.takeWhile_append_dropWhile]

/-- White space around a text that has none at its ends is trimmed off. -/
theorem trim_between {before core after : List Char} (hbefore : IsWhiteSpace before)
    (hafter : IsWhiteSpace after) (hcore : trim core = core) (hne : core ≠ []) :
    trim (before ++ (core ++ after)) = core := by
  have hkeep : core.dropWhile isBlank ≠ [] := by
    intro hnil
    rw [trim, hnil] at hcore
    exact hne hcore.symm
  rw [trim, List.dropWhile_append_of_pos (isWhiteSpace_iff.mp hbefore), List.dropWhile_append,
    if_neg (by simpa using hkeep), List.reverse_append, List.dropWhile_append_of_pos]
  · exact hcore
  · intro c hc
    exact isWhiteSpace_iff.mp hafter c (List.mem_reverse.mp hc)

end Text

/-! ## Brackets -/

namespace Scalar

theorem ofKeyword?_eq_some_iff {cs : List Char} {s : Scalar} :
    ofKeyword? cs = some s ↔ cs = s.keyword.toList := by
  constructor
  · intro h
    have hfound := List.find?_some h
    exact (beq_iff_eq.mp hfound).symm
  · intro h
    rw [h]
    cases s <;> decide

end Scalar

namespace ParamType

open Text

theorem elementSpelling?_eq_some_iff {cs inner : List Char} :
    elementSpelling? cs = some inner ↔ cs = opening ++ (inner ++ ['>']) := by
  constructor
  · intro h
    unfold elementSpelling? at h
    split at h
    · rename_i hmarks
      rw [Bool.and_eq_true, List.isPrefixOf_iff_prefix, beq_iff_eq] at hmarks
      obtain ⟨⟨rest, rfl⟩, hlast⟩ := hmarks
      rw [List.drop_left] at h hlast
      rw [← Option.some.inj h, List.dropLast_append_getLast? _ hlast]
    · cases h
  · intro h
    rw [h, elementSpelling?_repeated]

theorem trim_keyword (s : Scalar) : trim s.keyword.toList = s.keyword.toList :=
  trim_spelling (.scalar s)

theorem trim_brackets (inner : List Char) :
    trim (opening ++ (inner ++ ['>'])) = opening ++ (inner ++ ['>']) := by
  refine trim_of_ends ?_ ?_
  · intro c hc
    rw [← Option.some.inj hc]
    decide
  · intro c hc
    rw [← List.append_assoc, List.getLast?_concat] at hc
    rw [← Option.some.inj hc]
    decide

/-! ## Reading -/

/-- What is read is derived, by induction along the reader's own recursion. -/
theorem derives_of_ofSpelling? {cs : List Char} {type : ParamType}
    (h : ofSpelling? cs = some type) : Derives type cs := by
  induction cs using ofSpelling?.induct generalizing type with
  | case1 cs inner helement _ ih =>
    rw [ofSpelling?_of_element helement] at h
    obtain ⟨element, hread, rfl⟩ := Option.map_eq_some_iff.mp h
    obtain ⟨before, after, hbefore, hafter, hcs⟩ := exists_between_trim cs
    rw [elementSpelling?_eq_some_iff.mp helement] at hcs
    rw [hcs]
    exact .repeated hbefore (ih hread) hafter
  | case2 cs hnone =>
    rw [ofSpelling?_of_no_element hnone] at h
    obtain ⟨s, hkeyword, rfl⟩ := Option.map_eq_some_iff.mp h
    obtain ⟨before, after, hbefore, hafter, hcs⟩ := exists_between_trim cs
    rw [Scalar.ofKeyword?_eq_some_iff.mp hkeyword] at hcs
    rw [hcs]
    exact .scalar s hbefore hafter

/-- What is derived is read, by induction along the grammar. -/
theorem ofSpelling?_of_derives {cs : List Char} {type : ParamType} (h : Derives type cs) :
    ofSpelling? cs = some type := by
  induction h with
  | @scalar before after s hbefore hafter =>
    have htrim := trim_between hbefore hafter (trim_keyword s) (by cases s <;> decide)
    rw [ofSpelling?_of_no_element, htrim, Scalar.ofKeyword?_eq_some_iff.mpr rfl]
    · rfl
    · rw [htrim]
      cases s <;> decide
  | @repeated before inner after element hbefore _ hafter ih =>
    have htrim := trim_between hbefore hafter (trim_brackets inner) (by simp)
    have helement : elementSpelling? (trim (before ++ ((opening ++ (inner ++ ['>'])) ++ after))) =
        some inner := by
      rw [htrim, elementSpelling?_repeated]
    exact (ofSpelling?_of_element helement).trans (by rw [ih]; rfl)

theorem parse_eq_ok_iff_derives {spelling : String} {type : ParamType} :
    ParamType.parse spelling = .ok type ↔ Derives type spelling.toList := by
  have hread : ParamType.parse spelling = .ok type ↔ ofSpelling? spelling.toList = some type := by
    rw [parse_eq]
    cases ofSpelling? spelling.toList <;> simp
  rw [hread]
  exact ⟨derives_of_ofSpelling?, ofSpelling?_of_derives⟩

/-- Without its white space, a spelling is the one that is written. -/
theorem filter_of_derives {cs : List Char} {type : ParamType} (h : Derives type cs) :
    cs.filter (· ∉ whiteSpace) = type.spelling.toList := by
  have hgone : ∀ {ds : List Char}, IsWhiteSpace ds → ds.filter (· ∉ whiteSpace) = [] := by
    intro ds hds
    rw [List.filter_eq_nil_iff]
    intro c hc
    simpa using hds c hc
  induction h with
  | scalar s hbefore hafter =>
    have hkeyword : s.keyword.toList.filter (· ∉ whiteSpace) = s.keyword.toList := by
      cases s <;> decide
    rw [List.filter_append, List.filter_append, hgone hbefore, hgone hafter, hkeyword,
      List.append_nil, List.nil_append]
    rfl
  | repeated hbefore _ hafter ih =>
    have hopening : "repeated<".toList.filter (· ∉ whiteSpace) = "repeated<".toList := by decide
    have hclosing : ['>'].filter (· ∉ whiteSpace) = ['>'] := by decide
    simp only [List.filter_append, hgone hbefore, hgone hafter, hopening, hclosing, ih,
      List.append_nil, List.nil_append]
    exact (toList_spelling_repeated _).symm

end ParamType

open ParamType in
/-- **Type spellings.** A text is read as a type exactly if the grammar derives it for the type, and
it derives no text for two types. What is written for a type, however deep, is read as that type,
and it is what any spelling of the type is without its white space. A text that is not read,
wherever its fault lies, is reported as a whole. -/
theorem type_spellings_recognised (spelling : String) :
    (∀ type, ParamType.parse spelling = .ok type ↔ Derives type spelling.toList) ∧
    (∀ type type', Derives type spelling.toList → Derives type' spelling.toList → type = type') ∧
    (∀ type : ParamType, ParamType.parse type.spelling = .ok type) ∧
    (∀ type, ParamType.parse spelling = .ok type →
      spelling.toList.filter (· ∉ Text.whiteSpace) = type.spelling.toList) ∧
    ((∀ type, ¬Derives type spelling.toList) →
      ParamType.parse spelling = .error (.unknownType spelling)) ∧
    ∀ e, ParamType.parse spelling = .error e → e = .unknownType spelling := by
  refine ⟨fun type => parse_eq_ok_iff_derives, fun type type' h h' => ?_, parse_spelling,
    fun type h => filter_of_derives (parse_eq_ok_iff_derives.mp h), fun hnone => ?_,
    fun e => eq_unknownType_of_parse⟩
  · have hread := ofSpelling?_of_derives h
    rw [ofSpelling?_of_derives h'] at hread
    exact (Option.some.inj hread).symm
  · cases hread : ParamType.parse spelling with
    | ok type => exact absurd (parse_eq_ok_iff_derives.mp hread) (hnone type)
    | error e => rw [eq_unknownType_of_parse hread]

end Bindery
