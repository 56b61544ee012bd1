import LayerDoc.Function.Signature
import LayerDoc.Proofs.Identifier
import Mathlib.Data.Option.Basic

/-!
# Function types are read back

A list of items with a separator between each two is read back if the items are
(`readSeparated_intercalate`), and so unions of types, parameters and function types are
(`readUnion?_text`, `Parameter.read?_text`, `FunctionType.read?_text`). What is made from the
parameters of a function is the text of a function type (`FunctionSchema.text_type`), which is
therefore the one that is read (`FunctionSchema.reads_as_function_type`). Its parameters keep the
order of the items, so they are well-formed exactly if the optional items come last
(`FunctionSchema.isWellFormed_mapIdx_iff`).
-/

namespace LayerDoc

/-! ## Lists with separators -/

/-- Read items with a separator between each two, at most as many as the limit says, and give also
what follows. -/
def readSeparated {α : Type} (item : List Char → Option (α × List Char)) (sep : List Char) :
    Nat → List Char → Option (List α × List Char)
  | 0, _ => none
  | limit + 1, cs => do
    let (a, rest) ← item cs
    match rest.dropPrefix? sep with
    | some more =>
      let (others, after) ← readSeparated item sep limit more
      return (a :: others, after)
    | none => return ([a], rest)

/-- Items that are each read back, from before a separator and from before what follows, are read
back from the list of them. -/
theorem readSeparated_intercalate {α : Type} {item : List Char → Option (α × List Char)}
    {chars : α → List Char} {sep rest : List Char} (hrest : rest.dropPrefix? sep = none)
    {items : List α} (hne : items ≠ [])
    (hlast : ∀ a ∈ items, item (chars a ++ rest) = some (a, rest))
    (hmore : ∀ a ∈ items, ∀ more, item (chars a ++ (sep ++ more)) = some (a, sep ++ more))
    {limit : Nat} (hlimit : items.length ≤ limit) :
    readSeparated item sep limit (sep.intercalate (items.map chars) ++ rest) =
      some (items, rest) := by
  -- each item uses up one of the limit, so what is left of it is enough for the others
  induction items generalizing limit with
  | nil => exact absurd rfl hne
  | cons a others ih =>
    obtain ⟨limit, rfl⟩ := Nat.exists_eq_add_one.mpr (Nat.lt_of_lt_of_le (Nat.succ_pos _) hlimit)
    rw [List.forall_mem_cons] at hlast hmore
    rw [List.length_cons, Nat.add_le_add_iff_right] at hlimit
    cases others with
    | nil =>
      rw [List.map_singleton, List.intercalate_singleton, readSeparated, hlast.1]
      simp [hrest]
    | cons b others =>
      have hdrop : ∀ more, (sep ++ more).dropPrefix? sep = some more := fun more =>
        List.dropPrefix?_append_of_beq more (beq_self_eq_true sep)
      have ih' := ih (List.cons_ne_nil b others) hlast.2 hmore.2 hlimit
      rw [List.map_cons] at ih'
      rw [List.map_cons, List.map_cons, List.intercalate_cons_cons, List.append_assoc,
        List.append_assoc, readSeparated, hmore.1]
      simp [hdrop, ih']

/-! ## Types -/

/-- The types that words stand for in generated code. -/
inductive BasicType where
  | string
  | number
  | boolean
  | void
  | undefined
  | null
  | unknown
  | record
  | array
  deriving DecidableEq, Repr

namespace BasicType

def text : BasicType → String
  | .string => "string"
  | .number => "number"
  | .boolean => "boolean"
  | .void => "void"
  | .undefined => "undefined"
  | .null => "null"
  | .unknown => "unknown"
  | .record => "Record<string, unknown>"
  | .array => "unknown[]"

/-- All of these types. One whose text begins with that of another comes before this. -/
def all : List BasicType :=
  [.string, .number, .boolean, .void, .undefined, .null, .array, .unknown, .record]

/-- Read one of these types, and what follows it. -/
def read? (cs : List Char) : Option (BasicType × List Char) :=
  all.findSome? fun b => (cs.dropPrefix? b.text.toList).map (b, ·)

/-- A type is read back, if no brackets follow it. -/
theorem read?_text (b : BasicType) {rest : List Char} (h : rest.head? ≠ some '[') :
    read? (b.text.toList ++ rest) = some (b, rest) := by
  cases b with
  | unknown =>
    cases rest with
    | nil => rfl
    | cons c rest =>
      have hc : c ≠ '[' := by simpa using h
      simp [read?, all, text, List.findSome?, List.dropPrefix?, hc]
  | _ => simp [read?, all, text, List.findSome?, List.dropPrefix?]

/-- Some word stands for the type. -/
theorem text_mem (b : BasicType) : b.text ∈ ParamType.tokens.map Prod.snd := by
  cases b <;> decide

/-- The type that a word stands for. -/
def ofWord (word : String) : BasicType :=
  (all.find? fun b => b.text = ParamType.token word).getD .unknown

theorem token_mem (word : String) : ParamType.token word ∈ ParamType.tokens.map Prod.snd := by
  rw [ParamType.token]
  cases hget : Entries.get? ParamType.tokens word with
  | none => decide
  | some token => exact List.mem_map_of_mem (Entries.mem_of_get?_eq_some hget)

theorem text_ofWord (word : String) : (ofWord word).text = ParamType.token word := by
  have hall : ∀ token ∈ ParamType.tokens.map Prod.snd,
      ((all.find? fun b => b.text = token).getD .unknown).text = token := by decide
  exact hall _ (token_mem word)

end BasicType

/-- The text of a union of types. -/
def unionText (types : List BasicType) : String :=
  String.intercalate " | " (types.map BasicType.text)

/-- Read a union of types, and what follows it. -/
def readUnion? (cs : List Char) : Option (List BasicType × List Char) :=
  readSeparated BasicType.read? [' ', '|', ' '] cs.length cs

theorem length_le_length_intercalate {α : Type} {chars : α → List Char} {items : List α}
    (h : ∀ a ∈ items, chars a ≠ []) (sep rest : List Char) :
    items.length ≤ (sep.intercalate (items.map chars) ++ rest).length := by
  induction items with
  | nil => simp
  | cons a others ih =>
    rw [List.forall_mem_cons] at h
    have hpos := List.length_pos_iff.mpr h.1
    have ih' := ih h.2
    cases others with
    | nil =>
      simp only [List.map_singleton, List.intercalate_singleton, List.length_append,
        List.length_cons, List.length_nil]
      omega
    | cons b others =>
      simp only [List.map_cons, List.intercalate_cons_cons, List.length_append, List.length_cons]
        at ih' ⊢
      omega

theorem readUnion?_text {types : List BasicType} (hne : types ≠ []) {mark : Char}
    (hmark : mark = ',' ∨ mark = ')') (more : List Char) :
    readUnion? ((unionText types).toList ++ mark :: more) = some (types, mark :: more) := by
  have hfollow : mark ≠ '[' ∧ mark ≠ ' ' := by
    rcases hmark with rfl | rfl <;> decide
  have hchars : ∀ b : BasicType, b.text.toList ≠ [] := by
    intro b
    cases b <;> decide
  rw [unionText, String.toList_intercalate, List.map_map]
  refine readSeparated_intercalate (by simp [List.dropPrefix?, hfollow.2]) hne
    (fun b _ => b.read?_text (by simpa using hfollow.1)) (fun b _ more => b.read?_text (by simp))
    (length_le_length_intercalate (fun b _ => hchars b) _ _)

/-! ## Lists of parameters -/

/-- A parameter of a function type: its name, its types, and whether it may be left out or gathers
all arguments that are left. -/
structure Parameter where
  variadic : Bool
  name : String
  optional : Bool
  types : List BasicType
  deriving DecidableEq, Repr

namespace Parameter

/-- What stands between a parameter and its types. -/
def colon (optional : Bool) : String := if optional then "?: " else ": "

def text (p : Parameter) : String :=
  (if p.variadic then "..." else "") ++ p.name ++ colon p.optional ++ unionText p.types

/-- Read what stands between a parameter and its types. -/
def readColon? : List Char → Option (Bool × List Char)
  | '?' :: ':' :: ' ' :: rest => some (true, rest)
  | ':' :: ' ' :: rest => some (false, rest)
  | _ => none

/-- Read a name with its types. -/
def readTyped? (variadic : Bool) (cs : List Char) : Option (Parameter × List Char) := do
  let name := cs.takeWhile Identifier.isPart
  guard (Identifier.isValid name)
  let (optional, rest) ← readColon? (cs.dropWhile Identifier.isPart)
  let (types, after) ← readUnion? rest
  return (⟨variadic, String.ofList name, optional, types⟩, after)

/-- Read a parameter, and what follows it. -/
def read? : List Char → Option (Parameter × List Char)
  | '.' :: '.' :: '.' :: rest => readTyped? true rest
  | cs => readTyped? false cs

theorem text_ne_nil (p : Parameter) : p.text.toList ≠ [] := by
  cases hoptional : p.optional <;> simp [text, colon, hoptional]

/-- A parameter has an identifier for its name, and it has a type. -/
structure IsTyped (p : Parameter) : Prop where
  isValid_name : Identifier.isValid p.name.toList = true
  types_ne_nil : p.types ≠ []

theorem readColon?_colon (optional : Bool) (rest : List Char) :
    readColon? ((colon optional).toList ++ rest) = some (optional, rest) := by
  cases optional <;> simp [colon, readColon?]

/-- A name ends before what stands between it and its types. -/
theorem head_colon (optional : Bool) :
    ∃ c cs, (colon optional).toList = c :: cs ∧ Identifier.isPart c = false := by
  cases optional
  · exact ⟨':', [' '], rfl, by decide⟩
  · exact ⟨'?', [':', ' '], rfl, by decide⟩

theorem readTyped?_text {p : Parameter} (hp : p.IsTyped) {mark : Char}
    (hmark : mark = ',' ∨ mark = ')')
    (more : List Char) :
    readTyped? p.variadic
        (p.name.toList ++
          ((colon p.optional).toList ++ ((unionText p.types).toList ++ mark :: more))) =
      some (p, mark :: more) := by
  have hname := Identifier.isPart_of_isValid hp.isValid_name
  have hcolon := readColon?_colon p.optional ((unionText p.types).toList ++ mark :: more)
  obtain ⟨c, cs, hhead, hc⟩ := head_colon p.optional
  rw [hhead, List.cons_append] at hcolon ⊢
  rw [readTyped?, List.takeWhile_append_of_pos hname, List.dropWhile_append_of_pos hname,
    List.takeWhile_cons_of_neg (by simp [hc]), List.dropWhile_cons_of_neg (by simp [hc]),
    List.append_nil, hcolon]
  simp [hp.isValid_name, readUnion?_text hp.types_ne_nil hmark]

theorem read?_text {p : Parameter} (hp : p.IsTyped) {mark : Char} (hmark : mark = ',' ∨ mark = ')')
    (more : List Char) : read? (p.text.toList ++ mark :: more) = some (p, mark :: more) := by
  have htyped := readTyped?_text hp hmark more
  cases hvariadic : p.variadic with
  | true =>
    rw [hvariadic] at htyped
    rw [← htyped]
    simp [text, hvariadic, read?]
  | false =>
    rw [hvariadic] at htyped
    have htext : p.text.toList ++ mark :: more =
        p.name.toList ++
            ((colon p.optional).toList ++ ((unionText p.types).toList ++ mark :: more)) := by
      simp [text, hvariadic]
    rw [← htyped, htext]
    -- a name does not begin with a point
    have hname := hp.isValid_name
    cases hchars : p.name.toList with
    | nil => rw [hchars] at hname; cases hname
    | cons c rest =>
      rw [hchars, Identifier.isValid, Bool.and_eq_true] at hname
      have hc : c ≠ '.' := by
        rintro rfl
        exact absurd hname.1 (by decide)
      rw [List.cons_append, read?]
      exact fun _ hcons => absurd (List.head_eq_of_cons_eq hcons) hc

end Parameter

/-! ## Function types -/

/-- The type of a function: its parameters, in order, and the type of what it gives. -/
structure FunctionType where
  params : List Parameter
  result : BasicType
  deriving DecidableEq, Repr

namespace FunctionType

def text (t : FunctionType) : String :=
  "(" ++ String.intercalate ", " (t.params.map Parameter.text) ++ ") => " ++ t.result.text

/-- Read a list of parameters, if there is one, and give also what follows. -/
def readParams (cs : List Char) : List Parameter × List Char :=
  (readSeparated Parameter.read? [',', ' '] cs.length cs).getD ([], cs)

/-- Read a text that is a function type. -/
def read? (text : String) : Option FunctionType :=
  match text.toList with
  | '(' :: cs => do
    let (params, rest) := readParams cs
    let (result, after) ← (rest.dropPrefix? ") => ".toList).bind BasicType.read?
    if after.isEmpty then some ⟨params, result⟩ else none
  | _ => none

theorem readParams_text {params : List Parameter} (h : ∀ p ∈ params, p.IsTyped) (more : List Char) :
    readParams ((String.intercalate ", " (params.map Parameter.text)).toList ++ ')' :: more) =
      (params, ')' :: more) := by
  cases params with
  | nil => rfl
  | cons first others =>
    rw [String.toList_intercalate, List.map_map, readParams]
    exact congrArg (Option.getD · _) (readSeparated_intercalate rfl (List.cons_ne_nil first others)
      (fun p hp => Parameter.read?_text (h p hp) (Or.inr rfl) _)
      (fun p hp _ => Parameter.read?_text (h p hp) (Or.inl rfl) _)
      (length_le_length_intercalate (fun p _ => p.text_ne_nil) _ _))

/-- A function type whose parameters can stand in a list is read back. -/
theorem read?_text {t : FunctionType} (h : ∀ p ∈ t.params, p.IsTyped) : read? t.text = some t := by
  have htext : t.text.toList = '(' ::
    ((String.intercalate ", " (t.params.map Parameter.text)).toList ++
      ')' :: (' ' :: '=' :: '>' :: ' ' :: t.result.text.toList)) := by
    simp [text]
  have hresult : BasicType.read? (t.result.text.toList ++ []) = some (t.result, []) :=
    t.result.read?_text (by simp)
  rw [List.append_nil] at hresult
  rw [read?, htext]
  simp only [readParams_text h]
  simp [List.dropPrefix?, hresult]

/-- What is asked of a list of parameters, beyond its form. -/
structure IsWellFormed (t : FunctionType) : Prop where
  /-- No two parameters have one name. -/
  distinct : (t.params.map Parameter.name).Nodup
  /-- A parameter that may be left out is followed by none that may not, but for one that gathers
  all arguments that are left. -/
  ordered : t.params.Pairwise fun p q => p.optional = true → q.optional = true ∨ q.variadic = true
  /-- A parameter that gathers arguments is an array, and may not be left out. -/
  gathered : ∀ p ∈ t.params, p.variadic = true → p.optional = false ∧ p.types = [.array]
  /-- A parameter that gathers arguments is the last one. -/
  last : t.params.Pairwise fun p _ => p.variadic = false

theorem IsWellFormed.singleton {p : Parameter} {result : BasicType}
    (h : p.variadic = true → p.optional = false ∧ p.types = [.array]) :
    IsWellFormed ⟨[p], result⟩ where
  distinct := List.nodup_singleton _
  ordered := List.pairwise_singleton _ _
  gathered := fun _ hq => List.mem_singleton.mp hq ▸ h
  last := List.pairwise_singleton _ _

end FunctionType

/-! ## The types of functions -/

namespace ParamType

/-- The types of a parameter: that of the innermost word, and one for each wrapper. -/
def union : ParamType → List BasicType
  | .over word inner =>
    if word = "optional" then inner.union ++ [.undefined]
    else if word = "nullable" then inner.union ++ [.null]
    else [.ofWord word]
  | .plain word =>
    if word = "optional" then [.unknown, .undefined]
    else if word = "nullable" then [.unknown, .null]
    else [.ofWord word]

/-- The types of the inner type. -/
def innerUnion (p : ParamType) : List BasicType :=
  match p.inner? with
  | some inner => inner.union
  | none => [.unknown]

theorem union_ne_nil (p : ParamType) : p.union ≠ [] := by
  cases p <;> rw [union] <;> split_ifs <;> simp

theorem innerUnion_ne_nil : ∀ p : ParamType, p.innerUnion ≠ []
  | .plain _ => List.cons_ne_nil _ _
  | .over _ inner => inner.union_ne_nil

theorem unionText_concat {types : List BasicType} (hne : types ≠ []) (b : BasicType) :
    unionText (types ++ [b]) = unionText types ++ (" | " ++ b.text) := by
  rw [unionText, List.map_append,
    String.intercalate_append_of_ne_nil (by simpa using hne) (by simp)]
  simp [unionText, String.append_assoc]

theorem code_eq : ∀ p : ParamType, p.code = unionText p.union
  | .plain word => by
    rw [code, union]
    split_ifs
    · rfl
    · rfl
    · simp [unionText, BasicType.text_ofWord]
  | .over word inner => by
    rw [code, union, inner.code_eq]
    split_ifs
    · rw [unionText_concat inner.union_ne_nil]
      rfl
    · rw [unionText_concat inner.union_ne_nil]
      rfl
    · simp [unionText, BasicType.text_ofWord]

theorem innerCode_eq : ∀ p : ParamType, p.innerCode = unionText p.innerUnion
  | .plain _ => rfl
  | .over _ inner => inner.code_eq

end ParamType

/-- The parameter at an index. -/
def Parameter.ofType (index : Nat) (p : ParamType) : Parameter :=
  ⟨false, "arg" ++ toString index, p.word = "optional",
    if p.word = "optional" then p.innerUnion else p.union⟩

theorem Parameter.isTyped_ofType (index : Nat) (p : ParamType) :
    (Parameter.ofType index p).IsTyped := by
  constructor
  · rw [ofType, String.toList_append]
    exact Identifier.isValid_append (by decide) fun c hc => Identifier.isPart_of_mem_toString hc
  · rw [ofType]
    split_ifs
    · exact p.innerUnion_ne_nil
    · exact p.union_ne_nil

theorem Parameter.text_ofType (index : Nat) (p : ParamType) :
    (Parameter.ofType index p).text = (Param.ofType index p).code := by
  rw [Parameter.ofType, Param.ofType]
  split_ifs with hoptional
  · simp [Parameter.text, Parameter.colon, Param.code, Param.name, hoptional,
      ParamType.innerCode_eq]
  · simp [Parameter.text, Parameter.colon, Param.code, Param.name, hoptional, ParamType.code_eq]

namespace FunctionSchema

/-- The type of a function, from its parameters. -/
def type (f : FunctionSchema) : FunctionType :=
  match f.kind with
  | .tuple => ⟨f.items.mapIdx Parameter.ofType, .void⟩
  | .object => ⟨[⟨false, "params", false, [.record]⟩], .void⟩
  | .function => ⟨[⟨true, "args", false, [.array]⟩], .unknown⟩

theorem text_type (f : FunctionSchema) : f.type.text = f.code := by
  rw [type, code]
  cases f.kind with
  | tuple =>
    dsimp only
    split_ifs with hempty
    · rw [List.isEmpty_iff.mp hempty]
      rfl
    · have hparams : (f.items.mapIdx Parameter.ofType).map Parameter.text =
        f.params.map Param.code := by
        refine List.ext_getElem? fun i => ?_
        simp [params, Function.comp_def, Parameter.text_ofType]
      rw [FunctionType.text, hparams, String.append_assoc]
      rfl
  | object => rfl
  | function => rfl

theorem isTyped_of_mem_type {f : FunctionSchema} : ∀ p ∈ f.type.params, p.IsTyped := by
  intro p hp
  rw [type] at hp
  cases hkind : f.kind with
  | tuple =>
    rw [hkind] at hp
    obtain ⟨i, hi, rfl⟩ := List.mem_mapIdx.mp hp
    exact Parameter.isTyped_ofType i _
  | object =>
    rw [hkind] at hp
    rw [List.mem_singleton.mp hp]
    exact ⟨by decide, List.cons_ne_nil _ _⟩
  | function =>
    rw [hkind] at hp
    rw [List.mem_singleton.mp hp]
    exact ⟨by decide, List.cons_ne_nil _ _⟩

theorem read?_code (f : FunctionSchema) : FunctionType.read? f.code = some f.type := by
  rw [← f.text_type, FunctionType.read?_text isTyped_of_mem_type]

/-! ## Well-formed lists of parameters -/

theorem type_of_tuple {f : FunctionSchema} (h : f.kind = .tuple) :
    f.type = ⟨f.items.mapIdx Parameter.ofType, .void⟩ := by
  rw [type, h]

theorem nodup_names_mapIdx (items : List ParamType) :
    ((items.mapIdx Parameter.ofType).map Parameter.name).Nodup := by
  have hnames : (items.mapIdx Parameter.ofType).map Parameter.name =
      (List.range items.length).map fun i => "arg" ++ toString i := by
    refine List.ext_getElem (by simp) fun i hi hi' => ?_
    simp [Parameter.ofType]
  rw [hnames]
  exact List.nodup_range.map fun i j hij =>
    Identifier.toString_injective ((String.append_right_inj "arg").mp hij)

/-- The parameters of items are well-formed exactly if the optional ones come last. -/
theorem isWellFormed_mapIdx_iff (items : List ParamType) (result : BasicType) :
    FunctionType.IsWellFormed ⟨items.mapIdx Parameter.ofType, result⟩ ↔
      items.Pairwise fun p q => p.word = "optional" → q.word = "optional" := by
  have hvariadic : ∀ p ∈ items.mapIdx Parameter.ofType, p.variadic = false := by
    intro p hp
    obtain ⟨i, hi, rfl⟩ := List.mem_mapIdx.mp hp
    rfl
  have hordered : ((items.mapIdx Parameter.ofType).Pairwise fun p q =>
      p.optional = true → q.optional = true ∨ q.variadic = true) ↔
      items.Pairwise fun p q => p.word = "optional" → q.word = "optional" := by
    rw [List.pairwise_iff_getElem, List.pairwise_iff_getElem]
    simp [Parameter.ofType]
  refine ⟨fun h => hordered.mp h.ordered,
    fun h => ⟨nodup_names_mapIdx items, hordered.mpr h, ?_, ?_⟩⟩
  · intro p hp hgathers
    rw [hvariadic p hp] at hgathers
    cases hgathers
  · exact List.pairwise_iff_forall_sublist.mpr fun hsub =>
      hvariadic _ (hsub.subset List.mem_cons_self)

/-- The type that is made from parameters is one function type, whatever the words and wrappers: its
text is read back, and each parameter has a union of types that words stand for.

* For a function that takes its parameters in order, there is one for each item, in the order of the
  items and with a name of its own. It is marked as optional exactly if the item is, and then has
  the types of the inner type. A parameter that is not optional follows one that is exactly if there
  are two such items. * A function that takes them by name has one parameter for all, and any other
  function has one that gathers all arguments, whatever the items. -/
theorem reads_as_function_type (f : FunctionSchema) :
    ∃ t : FunctionType, FunctionType.read? f.code = some t ∧
      (∀ p ∈ t.params, p.types ≠ [] ∧ ∀ b ∈ p.types, b.text ∈ ParamType.tokens.map Prod.snd) ∧
      (f.kind = .tuple →
        t.result = .void ∧ t.params.length = f.items.length ∧
        (∀ (i : Nat) (item : ParamType), f.items[i]? = some item →
          t.params[i]? = some (⟨false, "arg" ++ toString i, item.word = "optional",
            if item.word = "optional" then item.innerUnion else item.union⟩ : Parameter)) ∧
        (t.params.map Parameter.name).Nodup ∧
        (t.IsWellFormed ↔
          f.items.Pairwise fun p q => p.word = "optional" → q.word = "optional")) ∧
      (f.kind = .object → t = ⟨[⟨false, "params", false, [.record]⟩], .void⟩ ∧ t.IsWellFormed) ∧
      (f.kind = .function →
        t = ⟨[⟨true, "args", false, [.array]⟩], .unknown⟩ ∧ t.IsWellFormed) := by
  refine ⟨f.type, f.read?_code, fun p hp =>
    ⟨(isTyped_of_mem_type p hp).types_ne_nil, fun b _ => b.text_mem⟩,
    fun hkind => ?_, fun hkind => ?_, fun hkind => ?_⟩
  · rw [type_of_tuple hkind]
    refine ⟨rfl, List.length_mapIdx, fun i item hitem => ?_, nodup_names_mapIdx f.items,
      isWellFormed_mapIdx_iff f.items .void⟩
    rw [List.getElem?_mapIdx, hitem]
    rfl
  · rw [type, hkind]
    exact ⟨rfl, .singleton (by simp)⟩
  · rw [type, hkind]
    exact ⟨rfl, .singleton (by simp)⟩

/-- A function of four parameters, the last two optional and one of these over a nullable one; one
that takes them by name; and one of which nothing is known. -/
theorem reads_types_of_three_kinds :
    let items : List ParamType := [.over "nullable" (.plain "array"), .plain "number?",
      .over "optional" (.plain "string"), .over "optional" (.over "nullable" (.plain "custom"))]
    let f (kind : ParamKind) : FunctionSchema := ⟨kind, items, []⟩
    (f .tuple).kind = .tuple ∧
      items[3]? = some (.over "optional" (.over "nullable" (.plain "custom"))) ∧
      (∃ t, FunctionType.read? (f .tuple).code = some t ∧ t.IsWellFormed ∧
        t.params[3]? = some ⟨false, "arg3", true, [.unknown, .null]⟩) ∧
      (f .object).kind = .object ∧ (∃ t, FunctionType.read? (f .object).code = some t ∧
        t = ⟨[⟨false, "params", false, [.record]⟩], .void⟩) ∧
      (f .function).kind = .function ∧ (∃ t, FunctionType.read? (f .function).code = some t ∧
        t = ⟨[⟨true, "args", false, [.array]⟩], .unknown⟩) ∧
      (f .tuple).code = "(arg0: unknown[] | null, arg1: unknown, arg2?: string, " ++
        "arg3?: unknown | null) => void" := by
  intro items f
  obtain ⟨t, hread, -, htuple, -⟩ := reads_as_function_type (f .tuple)
  obtain ⟨-, -, hitem, -, hformed⟩ := htuple rfl
  obtain ⟨named, hnamed, -, -, hobject, -⟩ := reads_as_function_type (f .object)
  obtain ⟨any, hany, -, -, -, hfunction⟩ := reads_as_function_type (f .function)
  exact ⟨rfl, rfl, ⟨t, hread, hformed.mpr (by decide), hitem 3 _ rfl⟩, rfl,
    ⟨named, hnamed, (hobject rfl).1⟩, rfl, ⟨any, hany, (hfunction rfl).1⟩, by decide +kernel⟩

/-- An optional item before one that is not: the parameters keep this order, which a list of
parameters must not have. A function that takes its parameters by name has no parameter for an item.
The data is accepted as that of a function. -/
theorem misplaces_optional :
    let items : List ParamType :=
      [.plain "string", .over "optional" (.plain "number"), .over "nullable" (.plain "array")]
    let f (kind : ParamKind) : FunctionSchema := ⟨kind, items, []⟩
    let written : Value := .list [.str "string", .str "number?",
      .object [("type", .str "nullable"), ("inner", .object [("type", .str "array")])]]
    FunctionSchema.read (.object [("items", written)]) = .ok (f .tuple) ∧
      (f .tuple).code = "(arg0: string, arg1?: number, arg2: unknown[] | null) => void" ∧
      (∃ t, FunctionType.read? (f .tuple).code = some t ∧ ¬ t.IsWellFormed) ∧
      FunctionSchema.read (.object [("kind", .str "object"), ("items", written)]) =
        .ok (f .object) ∧
      (FunctionType.read? (f .object).code).map (fun t => t.params.map Parameter.name) =
        some ["params"] := by
  intro items f written
  refine ⟨by cbv, by decide +kernel, ⟨_, (f .tuple).read?_code, fun h => ?_⟩, by cbv, ?_⟩
  · have hitems := (isWellFormed_mapIdx_iff items .void).mp h
    exact absurd hitems (by decide)
  · rw [(f .object).read?_code]
    rfl

end FunctionSchema

end LayerDoc
