import Bindery.Document.Load
import Bindery.Proofs.Grammar
import Bindery.Proofs.Violations

/-!
# Loading what was written

Definitions can be written down as a document in many ways: the fields of an object come in any
order, an empty list of rpcs or parameters may be written as `[]`, as `null` or not at all, and the
grammar leaves the white space and the escapes open. `Definitions.Spelled` says which values spell
definitions. Whatever way is chosen, loading gives the same definitions back, with all interfaces,
rpcs and parameters in their order.

**Fields.** The keys of an object differ, so what is found under a key does not depend on the order
(`lookup_of_perm`). A list field gives its items in each of its three forms
(`listField_of_spelled`).

**Types.** The spelling of a type has no white space at its ends and its brackets are the outermost,
so it is read as that type (`ParamType.ofSpelling?_spelling`).

Main result: `written_definitions_load`.
-/

namespace Bindery

open Document

/-! ## Documents that spell definitions -/

namespace Document

/-- The value is an object with these fields, in any order. -/
def HasFields (value : Value) (fields : List (String × Value)) : Prop :=
  ∃ ordered, value = .object ordered ∧ ordered.Perm fields

/-- How a list is spelled under a name: item by item or, if it is empty, also by `null` or by no
field at all. -/
inductive ListSpelled {α : Type} (spelled : α → Value → Prop) (name : String) :
    List α → List (String × Value) → Prop where
  | items {items : List α} {values : List Value} (h : List.Forall₂ spelled items values) :
      ListSpelled spelled name items [(name, .list values)]
  | null : ListSpelled spelled name [] [(name, .null)]
  | leftOut : ListSpelled spelled name [] []

/-- How something with a name and two lists is spelled. -/
def Spelled {α : Type} (spelled : α → Value → Prop) (name : String) (sends receives : List α)
    (value : Value) : Prop :=
  ∃ sent received, ListSpelled spelled "sends" sends sent ∧
    ListSpelled spelled "receives" receives received ∧
    HasFields value (("name", .text name) :: (sent ++ received))

end Document

/-- The value spells the parameter. -/
def Parameter.Spelled (parameter : Parameter) (value : Value) : Prop :=
  HasFields value [("name", .text parameter.name), ("type", .text parameter.type.spelling)]

/-- The value spells the rpc. -/
def Rpc.Spelled (rpc : Rpc) (value : Value) : Prop :=
  Document.Spelled Parameter.Spelled rpc.name rpc.request rpc.reply value

/-- The value spells the interface. -/
def Interface.Spelled (interface : Interface) (value : Value) : Prop :=
  Document.Spelled Rpc.Spelled interface.name interface.sends interface.receives value

/-- The value spells the definitions. -/
def Definitions.Spelled (definitions : Definitions) (value : Value) : Prop :=
  ∃ values, List.Forall₂ Interface.Spelled definitions.interfaces values ∧
    HasFields value [("interfaces", .list values)]

/-! ## Types -/

namespace Text

theorem trim_of_ends {cs : List Char} (hhead : ∀ c ∈ cs.head?, isBlank c = false)
    (hlast : ∀ c ∈ cs.getLast?, isBlank c = false) : trim cs = cs := by
  have hdrop : ∀ ds : List Char, (∀ c ∈ ds.head?, isBlank c = false) →
      ds.dropWhile isBlank = ds := by
    intro ds h
    cases ds with
    | nil => rfl
    | cons d rest => rw [List.dropWhile_cons_of_neg (by simp [h d rfl])]
  rw [trim, hdrop cs hhead, hdrop, List.reverse_reverse]
  rw [List.head?_reverse]
  exact hlast

end Text

namespace ParamType

theorem ofSpelling?_of_element {cs inner : List Char}
    (h : elementSpelling? (Text.trim cs) = some inner) :
    ofSpelling? cs = (ofSpelling? inner).map .repeated := by
  rw [ofSpelling?]
  split <;> simp_all

theorem ofSpelling?_of_no_element {cs : List Char} (h : elementSpelling? (Text.trim cs) = none) :
    ofSpelling? cs = (Scalar.ofKeyword? (Text.trim cs)).map .scalar := by
  rw [ofSpelling?]
  split <;> simp_all

theorem toList_spelling_repeated (element : ParamType) :
    (spelling (.repeated element)).toList = opening ++ (element.spelling.toList ++ ['>']) := by
  rw [spelling, String.toList_append, String.toList_append, List.append_assoc]
  rfl

theorem elementSpelling?_repeated (inner : List Char) :
    elementSpelling? (opening ++ (inner ++ ['>'])) = some inner := by
  simp [elementSpelling?]

/-- The ends of a spelling are no white space. -/
theorem trim_spelling (type : ParamType) :
    Text.trim type.spelling.toList = type.spelling.toList := by
  cases type with
  | scalar s => cases s <;> decide
  | repeated element =>
    rw [toList_spelling_repeated]
    refine Text.trim_of_ends ?_ ?_
    · intro c hc
      have hfirst : 'r' = c := Option.some.inj hc
      rw [← hfirst]
      decide
    · intro c hc
      rw [← List.append_assoc, List.getLast?_concat] at hc
      have hlast : '>' = c := Option.some.inj hc
      rw [← hlast]
      decide

/-- **Types.** A type is read back from its spelling. -/
theorem ofSpelling?_spelling (type : ParamType) : ofSpelling? type.spelling.toList = some type := by
  induction type with
  | scalar s =>
    rw [ofSpelling?_of_no_element (by cases s <;> decide), trim_spelling]
    cases s <;> decide
  | repeated element ih =>
    have helement : elementSpelling? (Text.trim (spelling (.repeated element)).toList) =
        some element.spelling.toList := by
      rw [trim_spelling, toList_spelling_repeated, elementSpelling?_repeated]
    rw [ofSpelling?_of_element helement, ih]
    rfl

theorem parse_of_element {spelling : String} {inner : List Char}
    (h : elementSpelling? (Text.trim spelling.toList) = some inner) :
    ParamType.parse spelling =
      ((ParamType.parse (String.ofList inner)).map .repeated).mapError
        fun _ => .unknownType spelling := by
  rw [ParamType.parse]
  split <;> simp_all

theorem parse_of_no_element {spelling : String} {result : Option Scalar}
    (h : elementSpelling? (Text.trim spelling.toList) = none)
    (hkeyword : Scalar.ofKeyword? (Text.trim spelling.toList) = result) :
    ParamType.parse spelling =
      match result.map ParamType.scalar with
      | some type => .ok type
      | none => .error (.unknownType spelling) := by
  rw [ParamType.parse]
  split
  · simp_all
  · cases result <;> simp [hkeyword]

/-- The faults of elements are replaced on the way out, so only the whole spelling is left. -/
theorem parse_eq (spelling : String) :
    ParamType.parse spelling =
      match ofSpelling? spelling.toList with
      | some type => .ok type
      | none => .error (.unknownType spelling) := by
  induction h : spelling.toList using ofSpelling?.induct generalizing spelling with
  | case1 cs inner helement _ ih =>
    rw [ofSpelling?_of_element helement, parse_of_element (h ▸ helement),
      ih _ String.toList_ofList]
    cases ofSpelling? inner <;> rfl
  | case2 cs hnone =>
    rw [ofSpelling?_of_no_element hnone, parse_of_no_element (h ▸ hnone) rfl, h]

theorem eq_unknownType_of_parse {spelling : String} {e : SchemaError}
    (h : ParamType.parse spelling = .error e) : e = .unknownType spelling := by
  rw [parse_eq] at h
  split at h
  · cases h
  · exact (Except.error.inj h).symm

theorem parse_spelling (type : ParamType) : ParamType.parse type.spelling = .ok type := by
  rw [parse_eq, ofSpelling?_spelling]

end ParamType

/-! ## Fields -/

namespace Document

section Lookup

variable {known : List String} {value : Value} {listed : List (String × Value)}

theorem lookup_eq_some_iff_mem (h : (listed.map Prod.fst).Nodup) {key : String} :
    listed.lookup key = some value ↔ (key, value) ∈ listed := by
  induction listed with
  | nil => simp
  | cons field rest ih =>
    obtain ⟨first, content⟩ := field
    obtain ⟨hfirst, hrest⟩ := List.nodup_cons.mp h
    rw [List.lookup_cons, List.mem_cons, ← ih hrest]
    by_cases hkey : key = first
    · subst hkey
      have hnone : rest.lookup key ≠ some value := by
        intro hsome
        exact hfirst (List.mem_map.mpr ⟨_, (ih hrest).mp hsome, rfl⟩)
      simp [hnone, eq_comm]
    · have hbeq : (key == first) = false := by simp [hkey]
      simp [hkey, hbeq]

theorem lookup_of_perm {ordered : List (String × Value)} (h : ordered.Perm listed)
    (hnodup : (listed.map Prod.fst).Nodup) (key : String) :
    ordered.lookup key = listed.lookup key := by
  refine Option.ext fun value => ?_
  rw [lookup_eq_some_iff_mem ((h.map Prod.fst).nodup_iff.mpr hnodup),
    lookup_eq_some_iff_mem hnodup, h.mem_iff]

/-- The fields of an object are taken if their keys are known and differ. -/
theorem fields_of_hasFields (h : HasFields value listed)
    (hknown : ∀ key ∈ listed.map Prod.fst, key ∈ known) (hnodup : (listed.map Prod.fst).Nodup) :
    ∃ ordered, fields known value = .ok ordered ∧
      ∀ key, ordered.lookup key = listed.lookup key := by
  obtain ⟨ordered, rfl, hperm⟩ := h
  refine ⟨ordered, ?_, lookup_of_perm hperm hnodup⟩
  have hchecked : checkDistinct Prod.fst
      (fun field : String × Value =>
        if known.contains field.1 then .ok () else .error (.unknownField field.1))
      (fun field => Fault.repeatedField field.1) ordered = .ok () := by
    refine checkDistinct_eq_ok_iff.mpr ⟨?_, (hperm.map Prod.fst).nodup_iff.mpr hnodup⟩
    intro field hfield
    have hmem := hknown field.1 (List.mem_map_of_mem (hperm.mem_iff.mp hfield))
    rw [if_pos (List.contains_iff_mem.mpr hmem)]
  rw [fields, hchecked]
  rfl

end Lookup

section Lists

variable {α β : Type} {spelled : α → Value → Prop} {name : String} {items : List α}
  {listed : List (String × Value)} {item : Value → Except Fault β} {declare : α → β}

theorem ListSpelled.keys (h : ListSpelled spelled name items listed) :
    (listed.map Prod.fst).Sublist [name] := by
  cases h with
  | items | null => exact List.Sublist.refl _
  | leftOut => exact List.nil_sublist _

theorem mapM_of_spelled (hitem : ∀ a value, spelled a value → item value = .ok (declare a))
    {values : List Value} (h : List.Forall₂ spelled items values) :
    values.mapM item = .ok (items.map declare) := by
  induction h with
  | nil => rfl
  | cons hspelled _ ih =>
    rw [List.mapM_cons, hitem _ _ hspelled, ih]
    rfl

/-- **Lists.** In whichever form a list is spelled, it is read with all its items. -/
theorem listField_of_spelled (hitem : ∀ a value, spelled a value → item value = .ok (declare a))
    (h : ListSpelled spelled name items listed) {all : List (String × Value)}
    (hlookup : all.lookup name = listed.lookup name) :
    listField item all name = .ok (items.map declare) := by
  rw [listField, listField?, hlookup]
  cases h with
  | items h =>
    rw [List.lookup_cons_self]
    simp only [mapM_of_spelled hitem h]
    rfl
  | null =>
    rw [List.lookup_cons_self]
    rfl
  | leftOut => rfl

/-- Reading what has a name and two lists. -/
theorem fields_of_spelled (hitem : ∀ a value, spelled a value → item value = .ok (declare a))
    {sends receives : List α} {value : Value} (h : Spelled spelled name sends receives value) :
    ∃ all, fields ["name", "sends", "receives"] value = .ok all ∧
      textField all "name" = .ok name ∧
      listField item all "sends" = .ok (sends.map declare) ∧
      listField item all "receives" = .ok (receives.map declare) := by
  obtain ⟨sent, received, hsent, hreceived, hfields⟩ := h
  have hkeys : ((("name", Value.text name) :: (sent ++ received)).map Prod.fst).Sublist
      ["name", "sends", "receives"] := by
    rw [List.map_cons, List.map_append]
    exact (hsent.keys.append hreceived.keys).cons_cons "name"
  obtain ⟨all, hall, hlookup⟩ := fields_of_hasFields hfields hkeys.subset
    (hkeys.nodup (by decide))
  refine ⟨all, hall, ?_, ?_, ?_⟩
  · rw [textField, hlookup, List.lookup_cons_self]
  · refine listField_of_spelled hitem hsent ?_
    rw [hlookup]
    cases hsent <;> cases hreceived <;> rfl
  · refine listField_of_spelled hitem hreceived ?_
    rw [hlookup]
    cases hsent <;> cases hreceived <;> rfl

end Lists

end Document

/-! ## Declarations -/

/-- The parameter as it is declared. -/
def Parameter.declaration (parameter : Parameter) : ParameterDeclaration where
  name := parameter.name
  type := parameter.type.spelling

/-- The rpc as it is declared. -/
def Rpc.declaration (rpc : Rpc) : RpcDeclaration where
  name := rpc.name
  request := rpc.request.map Parameter.declaration
  reply := rpc.reply.map Parameter.declaration

/-- The interface as it is declared. -/
def Interface.declaration (interface : Interface) : InterfaceDeclaration where
  name := interface.name
  sends := interface.sends.map Rpc.declaration
  receives := interface.receives.map Rpc.declaration

theorem Parameter.ofValue_of_spelled (parameter : Parameter) (value : Value)
    (h : parameter.Spelled value) :
    ParameterDeclaration.ofValue value = .ok parameter.declaration := by
  obtain ⟨all, hall, hlookup⟩ := fields_of_hasFields h
    (List.Subset.refl ["name", "type"]) (by simp)
  have hname : textField all "name" = .ok parameter.name := by
    rw [textField, hlookup]
    rfl
  have htype : textField all "type" = .ok parameter.type.spelling := by
    rw [textField, hlookup]
    rfl
  rw [ParameterDeclaration.ofValue, hall]
  simp only [bind, Except.bind, hname, htype]
  rfl

theorem Rpc.ofValue_of_spelled (rpc : Rpc) (value : Value) (h : rpc.Spelled value) :
    RpcDeclaration.ofValue value = .ok rpc.declaration := by
  obtain ⟨all, hall, hname, hsends, hreceives⟩ :=
    fields_of_spelled Parameter.ofValue_of_spelled h
  rw [RpcDeclaration.ofValue, hall]
  simp only [bind, Except.bind, hname, hsends, hreceives]
  rfl

theorem Interface.ofValue_of_spelled (interface : Interface) (value : Value)
    (h : interface.Spelled value) :
    InterfaceDeclaration.ofValue value = .ok interface.declaration := by
  obtain ⟨all, hall, hname, hsends, hreceives⟩ := fields_of_spelled Rpc.ofValue_of_spelled h
  rw [InterfaceDeclaration.ofValue, hall]
  simp only [bind, Except.bind, hname, hsends, hreceives]
  rfl

/-- What is declared item by item is given back item by item. -/
theorem mapM_of_declared {α β ε : Type} {declare : α → β} {back : β → Except ε α}
    (h : ∀ a, back (declare a) = .ok a) (items : List α) :
    (items.map declare).mapM back = .ok items := by
  induction items with
  | nil => rfl
  | cons a rest ih =>
    rw [List.map_cons, List.mapM_cons, h, ih]
    rfl

theorem Parameter.toParameter_declaration (parameter : Parameter) :
    parameter.declaration.toParameter = .ok parameter := by
  simp only [ParameterDeclaration.toParameter, declaration, ParamType.parse_spelling]
  rfl

theorem Rpc.toRpc_declaration (rpc : Rpc) : rpc.declaration.toRpc = .ok rpc := by
  simp only [RpcDeclaration.toRpc, declaration,
    mapM_of_declared Parameter.toParameter_declaration]
  rfl

theorem Interface.toInterface_declaration (interface : Interface) :
    interface.declaration.toInterface = .ok interface := by
  simp only [InterfaceDeclaration.toInterface, declaration,
    mapM_of_declared Rpc.toRpc_declaration]
  rfl

/-! ## Loading -/

namespace Definitions

theorem readInterfaces?_of_spelled {definitions : Definitions} {value : Value} {text : String}
    (hspelled : definitions.Spelled value) (hwritten : value.Written text) :
    readInterfaces? text = .ok (some (definitions.interfaces.map Interface.declaration)) := by
  obtain ⟨values, hvalues, hfields⟩ := hspelled
  obtain ⟨all, hall, hlookup⟩ := fields_of_hasFields hfields
    (List.Subset.refl ["interfaces"]) (by simp)
  have hitems := mapM_of_spelled Interface.ofValue_of_spelled hvalues
  simp only [readInterfaces?, Value.read?_of_written hwritten, hall, bind, Except.bind, listField?,
    hlookup, List.lookup_cons_self, hitems]
  rfl

theorem ofDeclarations_declaration (definitions : Definitions) :
    ofDeclarations (definitions.interfaces.map Interface.declaration) = .ok definitions := by
  rw [ofDeclarations, mapM_of_declared Interface.toInterface_declaration]
  exact ofInterfaces_eq_ok_iff.mpr rfl

theorem parse_of_readInterfaces? {definitions : Definitions} {text : String}
    (h : readInterfaces? text = .ok (some (definitions.interfaces.map Interface.declaration))) :
    parse text = .ok definitions := by
  rw [parse, h]
  simp only [ofDeclarations_declaration]
  rfl

end Definitions

/-- **Loading inverts writing.** However definitions are spelled and written down, the document
loads as these definitions. -/
theorem written_definitions_load {definitions : Definitions} {value : Value} {text : String}
    (hspelled : definitions.Spelled value) (hwritten : value.Written text) :
    Definitions.parse text = .ok definitions := by
  have hread := Definitions.readInterfaces?_of_spelled hspelled hwritten
  exact Definitions.parse_of_readInterfaces? hread

/-! ## A document -/

namespace Document

/-- A token without escapes. -/
def Token.plain : Token → List Char
  | .openObject => ['\x7b']
  | .closeObject => ['\x7d']
  | .openList => ['[']
  | .closeList => [']']
  | .comma => [',']
  | .colon => [':']
  | .null => ['n', 'u', 'l', 'l']
  | .text content => '"' :: (content.toList ++ ['"'])

/-- The token is a text with a character that has to be escaped. -/
def Token.needsEscape : Token → Bool
  | .text content => content.toList.any fun c => c < ' ' || c == '"' || c == '\\'
  | _ => false

theorem tokenWritten_plain {token : Token} (h : token.needsEscape = false) :
    TokenWritten token token.plain := by
  cases token with
  | text content =>
    have hplain : List.Forall₂ CharWritten content.toList (content.toList.map ([·])) := by
      rw [List.forall₂_map_right_iff, List.forall₂_same]
      intro c hc
      have hchar := List.any_eq_false.mp h c hc
      simp only [Bool.or_eq_true, not_or, decide_eq_true_eq, beq_iff_eq] at hchar
      exact .plain (Char.not_lt.mp hchar.1.1) hchar.1.2 hchar.2
    have hwritten := TokenWritten.text hplain
    rwa [← List.flatMap_def, List.flatMap_singleton'] at hwritten
  | _ => constructor

/-- Tokens without escapes, each behind its white space. -/
def lay (pieces : List (String × Token)) : List Char :=
  pieces.flatMap fun piece => piece.1.toList ++ piece.2.plain

theorem spaced_lay {pieces : List (String × Token)} {tokens : List Token} {rest : List Char}
    (h : ∀ piece ∈ pieces, piece.1.toList.all (IsSpace ·) = true ∧ piece.2.needsEscape = false)
    (hrest : Spaced tokens rest) : Spaced (pieces.map Prod.snd ++ tokens) (lay pieces ++ rest) := by
  induction pieces with
  | nil => exact hrest
  | cons piece pieces ih =>
    obtain ⟨⟨hspace, hplain⟩, hpieces⟩ := List.forall_mem_cons.mp h
    have hcons := Spaced.cons (by simpa using hspace) (tokenWritten_plain hplain) (ih hpieces)
    simpa only [lay, List.map_cons, List.cons_append, List.flatMap_cons, List.append_assoc]
      using hcons

end Document

namespace Conformance

/-- An interface with lists that are empty. -/
def echo : Interface where
  name := "Echo"
  sends := [{ name := "Say", request := [texts "text"] }]

/-- The interface by itself. -/
def echoDefinitions : Definitions :=
  ⟨[echo], checkInterfaces_eq_ok_iff.mpr (by decide)⟩

/-- A document for it, with fields in another order, lists left out and a letter escaped. -/
def echoDocument : String :=
  "\x7b\"interfaces\": [\n\t\x7b\"receives\": null, \"name\": \"Echo\",\n\t \"sends\":" ++
    "[\x7b\"name\":\"S\\u0061y\", \"sends\": [\x7b\"type\": \"repeated<string>\", " ++
    "\"name\" :\"text\"\x7d]\x7d]\x7d ]\x7d\n"

/-- What is written there. -/
def echoValue : Value :=
  .object [("interfaces", .list [.object [("receives", .null), ("name", .text "Echo"),
    ("sends", .list [.object [("name", .text "Say"),
      ("sends", .list [.object [("type", .text "repeated<string>"), ("name", .text "text")]])]])]])]

theorem echo_spelled : echoDefinitions.Spelled echoValue := by
  have htext : (texts "text").Spelled
      (.object [("type", .text "repeated<string>"), ("name", .text "text")]) :=
    ⟨_, rfl, .swap _ _ _⟩
  have hsay : Rpc.Spelled { name := "Say", request := [texts "text"] } _ :=
    ⟨_, _, .items (.cons htext .nil), .leftOut, _, rfl, .refl _⟩
  have hecho : echo.Spelled _ :=
    ⟨_, _, .items (.cons hsay .nil), .null, _, rfl, @List.perm_append_comm _ [_] [_, _]⟩
  exact ⟨_, .cons hecho .nil, _, rfl, .refl _⟩

/-- The tokens up to the one with an escape. -/
def echoStart : List (String × Token) :=
  [("", .openObject), ("", .text "interfaces"), ("", .colon), (" ", .openList),
    ("\n\t", .openObject), ("", .text "receives"), ("", .colon), (" ", .null), ("", .comma),
    (" ", .text "name"), ("", .colon), (" ", .text "Echo"), ("", .comma), ("\n\t ", .text "sends"),
    ("", .colon), ("", .openList), ("", .openObject), ("", .text "name"), ("", .colon)]

/-- The tokens behind it. -/
def echoEnd : List (String × Token) :=
  [("", .comma), (" ", .text "sends"), ("", .colon), (" ", .openList), ("", .openObject),
    ("", .text "type"), ("", .colon), (" ", .text "repeated<string>"), ("", .comma),
    (" ", .text "name"), (" ", .colon), ("", .text "text"), ("", .closeObject), ("", .closeList),
    ("", .closeObject), ("", .closeList), ("", .closeObject), (" ", .closeList), ("", .closeObject)]

theorem echo_written : echoValue.Written echoDocument := by
  have hS : CharWritten 'S' ['S'] := .plain (by decide) (by decide) (by decide)
  have ha : CharWritten 'a' ['\\', 'u', '0', '0', '6', '1'] :=
    .unit (@UnitWritten.digits '0' '0' '6' '1' 0 0 6 1 (.inl (by decide)) (.inl (by decide))
      (.inl (by decide)) (.inl (by decide)))
  have hy : CharWritten 'y' ['y'] := .plain (by decide) (by decide) (by decide)
  have hsay := @TokenWritten.text "Say" _ (.cons hS (.cons ha (.cons hy .nil)))
  have hspace : ∀ c ∈ ['\n'], IsSpace c := by simp [IsSpace]
  have hspaced := @spaced_lay echoStart _ _ (by decide)
    (@Spaced.cons [] _ _ _ _ (by simp) hsay (@spaced_lay echoEnd _ _ (by decide) (.nil hspace)))
  have htokens : echoValue.tokens = echoStart.map Prod.snd ++
      .text "Say" :: (echoEnd.map Prod.snd ++ []) := by decide
  have hchars : echoDocument.toList = lay echoStart ++ ([] ++ (('"' :: ([['S'],
      ['\\', 'u', '0', '0', '6', '1'], ['y']].flatten ++ ['"'])) ++ (lay echoEnd ++ ['\n']))) := by
    decide +kernel
  rw [Value.Written, htokens, hchars]
  exact hspaced

end Conformance

open Conformance in
theorem written_definitions_load_echo :
    echoDefinitions.Spelled echoValue ∧ echoValue.Written echoDocument ∧
    Definitions.parse echoDocument = .ok echoDefinitions :=
  ⟨echo_spelled, echo_written, written_definitions_load echo_spelled echo_written⟩

end Bindery
