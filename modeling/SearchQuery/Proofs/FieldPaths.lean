import Mathlib.Data.List.Nodup
import Mathlib.Data.List.Perm.Subperm
import SearchQuery.Proofs.Pieces
import SearchQuery.Schema.Basic

/-!
# Paths of fields

A field is declared by a list of names, one for each level of the schema. It is
listed at the path that its names are gathered to, level by level, and looked up
by the names that a path is split to. The listing and the lookup agree exactly
on schemas without a dot in a name and without fields below a field of the index
that has no name: a name with a dot is split, and a first name that is empty is
dropped.
-/

namespace SearchQuery
namespace FieldSpec

/-- The fields nested in a field. -/
def nested (spec : FieldSpec) : List (String × FieldSpec) :=
  spec.properties.getD []

/-- Names lead to a declaration, each of them one level further down. -/
inductive Declares : List (String × FieldSpec) → List String → FieldSpec → Prop
  | field {fields : List (String × FieldSpec)} {name : String}
    {spec : FieldSpec}
      (isField : (name, spec) ∈ fields) :
      Declares fields [name] spec
  | inside {fields : List (String × FieldSpec)} {name : String}
    {spec : FieldSpec}
      {names : List String} {inner : FieldSpec}
      (isField : (name, spec) ∈ fields)
      (declares : Declares spec.nested names inner) :
      Declares fields (name :: names) inner

/-- The fields of one level have different names, at every level. -/
inductive AreDistinct : List (String × FieldSpec) → Prop
  | intro {fields : List (String × FieldSpec)}
      (names : (fields.map Prod.fst).Nodup)
      (nested : ∀ field ∈ fields, AreDistinct field.2.nested) :
      AreDistinct fields

mutual

/-- The names that lead from a field to itself and to the fields nested in
it. -/
def places : FieldSpec → List (List String)
  | ⟨_, _, properties⟩ => [] :: optionPlaces properties

/-- The names that lead to nested fields, if there are any. -/
def optionPlaces : Option (List (String × FieldSpec)) → List (List String)
  | none => []
  | some fields => fieldPlaces fields

/-- The names that lead to named fields and to the fields nested in them. -/
def fieldPlaces : List (String × FieldSpec) → List (List String)
  | [] => []
  | (name, spec) :: rest => (places spec).map (name :: ·) ++ fieldPlaces rest

end

variable {fields : List (String × FieldSpec)} {names : List String}
  {spec : FieldSpec}

section Listing

mutual

theorem paths_eq : ∀ (path : String) (spec : FieldSpec),
    paths path spec = (places spec).map (List.foldl pathUnder path)
  | path, ⟨_, _, properties⟩ => by
      rw [paths, places, optionPaths_eq path properties]
      rfl

theorem optionPaths_eq :
    ∀ (parent : String) (properties : Option (List (String × FieldSpec))),
    optionPaths parent properties =
      (optionPlaces properties).map (List.foldl pathUnder parent)
  | _, none => rfl
  | parent, some fields => by
    rw [optionPaths, optionPlaces, fieldPaths_eq parent fields]

/-- The paths of named fields are gathered from their names. -/
theorem fieldPaths_eq :
    ∀ (parent : String) (fields : List (String × FieldSpec)),
    fieldPaths parent fields =
      (fieldPlaces fields).map (List.foldl pathUnder parent)
  | _, [] => rfl
  | parent, (name, spec) :: rest => by
      rw [fieldPaths, fieldPlaces, paths_eq (pathUnder parent name) spec,
        fieldPaths_eq parent rest, List.map_append, List.map_map]
      rfl

end

/-- A field is led to by its name, and what is nested in it by its name and the
names there. -/
theorem fieldPlaces_eq_flatMap (fields : List (String × FieldSpec)) :
    fieldPlaces fields =
      fields.flatMap fun field =>
        ([] :: fieldPlaces field.2.nested).map (field.1 :: ·) := by
  induction fields with
  | nil => rfl
  | cons field rest hypothesis =>
      obtain ⟨name, type, array, properties⟩ := field
      have nestedPlaces :
          optionPlaces properties = fieldPlaces (properties.getD []) := by
        cases properties <;> rfl
      rw [fieldPlaces, hypothesis, List.flatMap_cons, places, nestedPlaces]
      rfl

/-- Names lead to a field if its name is the first of them, and the others lead
from there. -/
theorem mem_fieldPlaces_cons {name : String} :
    name :: names ∈ fieldPlaces fields ↔
      ∃ spec, (name, spec) ∈ fields ∧
        (names = [] ∨ names ∈ fieldPlaces spec.nested) := by
  rw [fieldPlaces_eq_flatMap, List.mem_flatMap]
  simp only [List.mem_map, List.mem_cons, List.cons.injEq]
  constructor
  · rintro ⟨⟨_, spec⟩, isField, _, place, rfl, rfl⟩
    exact ⟨spec, isField, place⟩
  · rintro ⟨spec, isField, place⟩
    exact ⟨(name, spec), isField, names, place, rfl, rfl⟩

theorem nil_notMem_fieldPlaces : [] ∉ fieldPlaces fields := by
  rw [fieldPlaces_eq_flatMap]
  simp

/-- The fields that names lead to are those that are declared. -/
theorem mem_fieldPlaces_iff :
    names ∈ fieldPlaces fields ↔ ∃ spec, Declares fields names spec := by
  induction names generalizing fields with
  | nil =>
      constructor
      · exact fun isPlace => absurd isPlace nil_notMem_fieldPlaces
      · rintro ⟨spec, ⟨⟩⟩
  | cons name names hypothesis =>
      rw [mem_fieldPlaces_cons]
      constructor
      · rintro ⟨spec, isField, rfl | isPlace⟩
        · exact ⟨spec, .field isField⟩
        · obtain ⟨inner, declares⟩ := hypothesis.mp isPlace
          exact ⟨inner, .inside isField declares⟩
      · rintro ⟨inner, declares⟩
        cases declares with
        | field isField => exact ⟨inner, isField, .inl rfl⟩
        | inside isField declares =>
            exact ⟨_, isField, .inr (hypothesis.mpr ⟨inner, declares⟩)⟩

/-- Where names are distinct no names lead to two fields. -/
theorem nodup_fieldPlaces (distinct : AreDistinct fields) :
    (fieldPlaces fields).Nodup := by
  induction distinct with
  | @intro fields distinctNames nested hypothesis =>
      rw [fieldPlaces_eq_flatMap, List.nodup_flatMap]
      refine ⟨fun field isField => ?_, ?_⟩
      · refine List.Nodup.map (List.cons_injective) ?_
        exact List.nodup_cons.mpr ⟨nil_notMem_fieldPlaces,
          hypothesis field isField⟩
      · rw [List.Nodup, List.pairwise_map] at distinctNames
        refine distinctNames.imp
          fun {first second} differ names isFirst isSecond => differ ?_
        obtain ⟨_, _, rfl⟩ := List.mem_map.mp isFirst
        obtain ⟨_, _, equation⟩ := List.mem_map.mp isSecond
        exact (List.cons.inj equation).1.symm

end Listing

section Lookup

/-- Where names are distinct a name leads to its only declaration. -/
theorem lookup_eq_some_iff
    {name : String}
    (distinct : (fields.map Prod.fst).Nodup) :
    fields.lookup name = some spec ↔ (name, spec) ∈ fields := by
  induction fields with
  | nil => simp
  | cons field rest hypothesis =>
      obtain ⟨other, otherSpec⟩ := field
      obtain ⟨isNew, distinctRest⟩ := List.nodup_cons.mp distinct
      rw [List.lookup_cons, List.mem_cons, Prod.mk.injEq]
      cases same : name == other with
      | true =>
          rw [beq_iff_eq] at same
          subst same
          have notLater : (name, spec) ∉ rest := fun isLater =>
            isNew (List.mem_map.mpr ⟨_, isLater, rfl⟩)
          simp [notLater, eq_comm]
      | false =>
          rw [beq_eq_false_iff_ne] at same
          simp [same, hypothesis distinctRest]

/-- The lookup of a field below another goes on with the fields nested in it. -/
theorem find?_cons_cons (fields : List (String × FieldSpec))
    (name next : String) :
    find? fields (name :: next :: names) =
      (fields.lookup name).bind fun spec =>
        find? spec.nested (next :: names) := by
  have noneNested : find? [] (next :: names) = none := by
    cases names <;> rfl
  have step : find? fields (name :: next :: names) =
      (fields.lookup name).bind fun spec =>
    spec.properties.bind fun inner => find? inner (next :: names) := rfl
  rw [step]
  cases fields.lookup name with
  | none => rfl
  | some spec =>
      obtain ⟨type, array, properties⟩ := spec
      cases properties with
      | none => exact noneNested.symm
      | some fields => rfl

/-- The lookup of names finds what they lead to. -/
theorem find?_eq_some_iff (distinct : AreDistinct fields) :
    find? fields names = some spec ↔ Declares fields names spec := by
  induction names generalizing fields with
  | nil =>
      constructor
      · rintro ⟨⟩
      · rintro ⟨⟩
  | cons name names hypothesis =>
      obtain ⟨distinctNames, distinctNested⟩ := distinct
      cases names with
      | nil =>
          rw [find?, lookup_eq_some_iff distinctNames]
          constructor
          · exact .field
          · rintro (isField | ⟨_, ⟨⟩⟩)
            exact isField
      | cons next names =>
          rw [find?_cons_cons, Option.bind_eq_some_iff]
          simp only [lookup_eq_some_iff distinctNames]
          constructor
          · rintro ⟨outer, isField, found⟩
            exact .inside isField
              ((hypothesis (distinctNested _ isField)).mp found)
          · rintro (_ | ⟨isField, declares⟩)
            exact ⟨_, isField,
              (hypothesis (distinctNested _ isField)).mpr declares⟩

end Lookup

section Paths

/-- The path of names, which are joined by dots. -/
def dotted (names : List String) : String := ".".intercalate names

/-- The names that a path is split to. -/
def namesOf (path : String) : List String :=
  (Text.split '.' path.toList).map String.ofList

variable {path parent : String}

/-- The names of a path are joined to the path. -/
theorem dotted_namesOf (path : String) : dotted (namesOf path) = path := by
  have pieces : (namesOf path).map String.toList =
      Text.split '.' path.toList := by
    rw [namesOf, List.map_map]
    exact (List.map_congr_left fun piece _ => String.toList_ofList).trans
      (List.map_id _)
  rw [← String.toList_inj, dotted, String.toList_intercalate, pieces]
  exact Text.intercalate_split '.' path.toList

/-- Names without a dot are the names of their path. -/
theorem namesOf_dotted (plain : ∀ name ∈ names, '.' ∉ name.toList)
    (nonempty : names ≠ []) :
    namesOf (dotted names) = names := by
  have plainPieces : ∀ piece ∈ names.map String.toList, '.' ∉ piece := by
    intro piece isPiece
    obtain ⟨name, isName, rfl⟩ := List.mem_map.mp isPiece
    exact plain name isName
  have split :=
    Text.split_intercalate plainPieces (mt List.map_eq_nil_iff.mp nonempty)
  rw [namesOf, dotted, String.toList_intercalate]
  change ((Text.split '.' (['.'].intercalate (names.map String.toList))).map
    String.ofList) = names
  rw [split, List.map_map]
  exact (List.map_congr_left fun name _ => String.ofList_toList).trans
    (List.map_id _)

theorem plain_of_mem_namesOf {name : String} (isName : name ∈ namesOf path) :
    '.' ∉ name.toList := by
  obtain ⟨piece, isPiece, rfl⟩ := List.mem_map.mp isName
  rw [String.toList_ofList]
  exact Text.notMem_of_mem_split isPiece

theorem pathUnder_of_ne (isThere : parent ≠ "") (name : String) :
    pathUnder parent name = parent ++ "." ++ name :=
  if_neg (mt String.isEmpty_iff.mp isThere)

/-- Below a path that is not empty names are gathered to their path. -/
theorem foldl_pathUnder_of_ne (isThere : parent ≠ "") (names : List String) :
    names.foldl pathUnder parent = dotted (parent :: names) := by
  induction names generalizing parent with
  | nil => exact String.intercalate_singleton.symm
  | cons name rest hypothesis =>
      have longer : parent ++ "." ++ name ≠ "" := by
        simp [isThere]
      rw [List.foldl_cons, pathUnder_of_ne isThere, hypothesis longer,
        dotted, dotted, String.intercalate_cons_cons]
      cases rest with
      | nil => rw [String.intercalate_singleton, String.intercalate_singleton]
      | cons next rest =>
          rw [String.intercalate_cons_cons, String.intercalate_cons_cons]
          simp only [String.append_assoc]

/-- Names are gathered to their path unless the first is empty and there are
others. -/
theorem foldl_pathUnder_eq_dotted
    {name : String}
    (rooted : name = "" → names = []) :
    (name :: names).foldl pathUnder "" = dotted (name :: names) := by
  change names.foldl pathUnder name = _
  by_cases isEmpty : name = ""
  · rw [rooted isEmpty]
    exact String.intercalate_singleton.symm
  · exact foldl_pathUnder_of_ne isEmpty names

/-- Names without a dot are not gathered to a path that begins with one. -/
theorem head?_foldl_pathUnder_ne
    (plain : ∀ name ∈ names, '.' ∉ name.toList)
    (plainParent : parent.toList.head? ≠ some '.') :
    (names.foldl pathUnder parent).toList.head? ≠ some '.' := by
  induction names generalizing parent with
  | nil => exact plainParent
  | cons name rest hypothesis =>
      obtain ⟨plainName, plainRest⟩ := List.forall_mem_cons.mp plain
      refine hypothesis plainRest ?_
      by_cases isEmpty : parent = ""
      · rw [isEmpty]
        exact fun isDot => plainName (List.mem_of_mem_head? isDot)
      · obtain ⟨first, others, whole⟩ := List.exists_cons_of_ne_nil
          (mt String.toList_eq_nil_iff.mp isEmpty)
        rw [pathUnder_of_ne isEmpty, String.toList_append,
          String.toList_append, whole]
        rw [whole] at plainParent
        exact plainParent

end Paths
end FieldSpec

namespace Schema

open FieldSpec

variable {schema : Schema}

/-- Every field of the schema has a path of its own: no name has a dot, and no
field is nested in a field of the index that has no name. -/
structure IsAddressable (schema : Schema) : Prop where
  plain : ∀ names spec, Declares schema.properties names spec → ∀ name ∈ names,
    '.' ∉ name.toList
  rooted : ∀ spec, ("", spec) ∈ schema.properties → spec.nested = []

theorem paths_perm (schema : Schema) :
    schema.paths.Perm
      ((fieldPlaces schema.properties).map (List.foldl pathUnder "")) := by
  rw [← fieldPaths_eq]
  exact List.mergeSort_perm _ _

section Declaring

variable {fields : List (String × FieldSpec)} {name : String} {spec : FieldSpec}

/-- A field among those after a declaration is the declared one or was there
before. -/
theorem eq_or_mem_of_mem_setField
    {field : String × FieldSpec}
    (isField : field ∈ setField name spec fields) :
    field = (name, spec) ∨ field ∈ fields := by
  induction fields with
  | nil => exact .inl (List.mem_singleton.mp isField)
  | cons other rest hypothesis =>
      obtain ⟨otherName, otherSpec⟩ := other
      rw [setField] at isField
      split at isField
      · rcases List.mem_cons.mp isField with declared | isLater
        · exact .inl declared
        · exact .inr (List.mem_cons_of_mem _ isLater)
      · rcases List.mem_cons.mp isField with rfl | isLater
        · exact .inr List.mem_cons_self
        · exact (hypothesis isLater).imp_right (List.mem_cons_of_mem _)

/-- A declaration keeps names distinct. -/
theorem nodup_setField (distinct : (fields.map Prod.fst).Nodup) :
    ((setField name spec fields).map Prod.fst).Nodup := by
  induction fields with
  | nil => exact List.nodup_singleton name
  | cons other rest hypothesis =>
      obtain ⟨otherName, otherSpec⟩ := other
      obtain ⟨isNew, distinctRest⟩ := List.nodup_cons.mp distinct
      rw [setField]
      split
      · rename_i same
        subst same
        exact distinct
      · rename_i differ
        refine List.nodup_cons.mpr ⟨fun isLater => ?_, hypothesis distinctRest⟩
        obtain ⟨field, isField, same⟩ := List.mem_map.mp isLater
        rcases eq_or_mem_of_mem_setField isField with rfl | isEarlier
        · exact differ same.symm
        · exact isNew (List.mem_map.mpr ⟨field, isEarlier, same⟩)

theorem areDistinct_nil :
    AreDistinct [] := ⟨List.nodup_nil, fun _ isField => by cases isField⟩

/-- Schemas are distinct when they are built by declarations of fields that
are. -/
theorem areDistinct_declare
    (distinct : AreDistinct schema.properties)
    (distinctNested : AreDistinct spec.nested) :
    AreDistinct (schema.declare name spec).properties := by
  obtain ⟨names, nested⟩ := distinct
  refine ⟨nodup_setField names, fun field isField => ?_⟩
  rcases eq_or_mem_of_mem_setField isField with rfl | isEarlier
  · exact distinctNested
  · exact nested field isEarlier

end Declaring

section Distinct

variable (distinct : AreDistinct schema.properties)
include distinct

theorem has_iff (path : String) :
    schema.has path = true ↔ namesOf path ∈ fieldPlaces schema.properties := by
  rw [has, Option.isSome_iff_exists, mem_fieldPlaces_iff]
  exact exists_congr fun spec => find?_eq_some_iff distinct

omit distinct in
/-- Names that lead to a field of an addressable schema are gathered to their
path, and are the names of this path. -/
theorem IsAddressable.gathers
    (addressable : schema.IsAddressable)
    {names : List String}
    (isPlace : names ∈ fieldPlaces schema.properties) :
    names.foldl pathUnder "" = dotted names ∧
      namesOf (dotted names) = names := by
  obtain ⟨spec, declares⟩ := mem_fieldPlaces_iff.mp isPlace
  have plain := addressable.plain names spec declares
  cases names with
  | nil => cases declares
  | cons name rest =>
      refine ⟨foldl_pathUnder_eq_dotted ?_,
        namesOf_dotted plain (List.cons_ne_nil _ _)⟩
      rintro rfl
      cases declares with
      | field => rfl
      | inside isField declares =>
          rw [addressable.rooted _ isField] at declares
          cases declares <;> contradiction

/-- An addressable schema lists the paths that it finds, and each of them
once. -/
theorem IsAddressable.agree (addressable : schema.IsAddressable) :
    schema.paths.Nodup ∧ ∀ path, path ∈ schema.paths ↔
      schema.has path = true := by
  constructor
  · rw [schema.paths_perm.nodup_iff]
    refine (nodup_fieldPlaces distinct).map_on
      fun first isFirst second isSecond same => ?_
    obtain ⟨gathersFirst, namesFirst⟩ := addressable.gathers isFirst
    obtain ⟨gathersSecond, namesSecond⟩ := addressable.gathers isSecond
    rw [gathersFirst, gathersSecond] at same
    rw [← namesFirst, same, namesSecond]
  · intro path
    rw [schema.paths_perm.mem_iff, List.mem_map, has_iff distinct]
    constructor
    · rintro ⟨names, isPlace, rfl⟩
      obtain ⟨gathers, isNames⟩ := addressable.gathers isPlace
      rwa [gathers, isNames]
    · intro isPlace
      exact ⟨namesOf path, isPlace,
        (addressable.gathers isPlace).1.trans (dotted_namesOf path)⟩

section Agreeing

variable (nodup : schema.paths.Nodup)
  (agree : ∀ path, path ∈ schema.paths ↔ schema.has path = true)
include nodup agree

/-- Where the listing and the lookup agree, the names of the listed paths are
those that lead to fields: there are as many paths as fields, and the names of
each lead to another one. -/
theorem map_namesOf_perm :
    (schema.paths.map namesOf).Perm (fieldPlaces schema.properties) := by
  have namesDiffer : (schema.paths.map namesOf).Nodup := by
    refine nodup.map fun first second same => ?_
    rw [← dotted_namesOf first, same, dotted_namesOf]
  have arePlaces :
      schema.paths.map namesOf ⊆ fieldPlaces schema.properties := by
    intro names isNames
    obtain ⟨path, isListed, rfl⟩ := List.mem_map.mp isNames
    exact (has_iff distinct path).mp ((agree path).mp isListed)
  have asMany : (schema.paths.map namesOf).length =
      (fieldPlaces schema.properties).length := by
    rw [List.length_map, schema.paths_perm.length_eq, List.length_map]
  exact (List.subperm_of_subset namesDiffer arePlaces).perm_of_length_le
    (Nat.le_of_eq asMany.symm)

/-- Where the listing and the lookup agree, no name has a dot. -/
theorem plain_of_agree
    {names : List String}
    (isPlace : names ∈ fieldPlaces schema.properties) :
    ∀ name ∈ names, '.' ∉ name.toList := by
  intro name isName
  have isNames := (map_namesOf_perm distinct nodup agree).mem_iff.mpr isPlace
  obtain ⟨path, _, rfl⟩ := List.mem_map.mp isNames
  exact plain_of_mem_namesOf isName

/-- Where the listing and the lookup agree, no field is nested in one that has
no name: the path of such a field begins with a dot, and no listed path does. -/
theorem nested_eq_nil_of_agree
    {spec : FieldSpec}
    (isField : ("", spec) ∈ schema.properties) :
    spec.nested = [] := by
  have plain : ∀ names ∈ fieldPlaces schema.properties, ∀ name ∈ names, '.' ∉
      name.toList :=
    fun _ => plain_of_agree distinct nodup agree
  cases fields : spec.nested with
  | nil => rfl
  | cons field rest =>
      obtain ⟨name, inner⟩ := field
      have isPlace : ["", name] ∈ fieldPlaces schema.properties :=
        mem_fieldPlaces_iff.mpr
          ⟨inner, .inside isField (.field (fields ▸ List.mem_cons_self))⟩
      have found : schema.has (dotted ["", name]) = true := by
        rw [has_iff distinct,
          namesOf_dotted (plain _ isPlace) (List.cons_ne_nil _ _)]
        exact isPlace
      obtain ⟨names, isNames, gathered⟩ :=
        List.mem_map.mp (schema.paths_perm.mem_iff.mp ((agree _).mpr found))
      have noDot : (names.foldl pathUnder "").toList.head? ≠ some '.' :=
        head?_foldl_pathUnder_ne (plain names isNames) (by simp)
      rw [gathered, dotted, String.toList_intercalate] at noDot
      exact absurd rfl noDot

theorem isAddressable_of_agree : schema.IsAddressable where
  plain _ spec declares :=
    plain_of_agree distinct nodup agree
      (mem_fieldPlaces_iff.mpr ⟨spec, declares⟩)
  rooted _ := nested_eq_nil_of_agree distinct nodup agree

end Agreeing

/-- A declared field of an addressable schema is resolved at its path to its
declared type. -/
theorem IsAddressable.resolve_dotted
    (addressable : schema.IsAddressable)
    {names : List String}
    {spec : FieldSpec}
    (declares : Declares schema.properties names spec)
    (dynamic : DynamicMode) :
    schema.resolve (dotted names) dynamic = .ok spec.valueType := by
  have isPlace := mem_fieldPlaces_iff.mpr ⟨spec, declares⟩
  have found : schema.find? (dotted names) = some spec := by
    change FieldSpec.find? schema.properties
      (namesOf (dotted names)) = some spec
    rw [(addressable.gathers isPlace).2]
    exact (find?_eq_some_iff distinct).mpr declares
  unfold resolve
  rw [found]

/-- The listing and the lookup of fields agree exactly on addressable schemas:
each path that is found is listed once, and no other path is. There every
declared field is listed at the path of its names, and is resolved there to its
declared type, however other fields are taken. -/
theorem lists_found_iff_isAddressable :
    ((schema.paths.Nodup ∧ ∀ path, path ∈ schema.paths ↔
      schema.has path = true) ↔
      schema.IsAddressable) ∧
    (schema.IsAddressable →
      ∀ (names : List String) (spec : FieldSpec),
        Declares schema.properties names spec →
        dotted names ∈ schema.paths ∧
          ∀ dynamic, schema.resolve (dotted names) dynamic =
            .ok spec.valueType) := by
  refine ⟨⟨fun ⟨nodup, agree⟩ => isAddressable_of_agree distinct nodup agree,
    IsAddressable.agree distinct⟩, ?_⟩
  intro addressable names spec declares
  have isPlace := mem_fieldPlaces_iff.mpr ⟨spec, declares⟩
  obtain ⟨gathers, _⟩ := addressable.gathers isPlace
  refine ⟨?_, addressable.resolve_dotted distinct declares⟩
  rw [schema.paths_perm.mem_iff, ← gathers]
  exact List.mem_map_of_mem isPlace

end Distinct

/-- An index of authors with names, without other fields. -/
def ofAuthors : Schema :=
  strict.declare "author"
    ⟨.keyword, false, some [("name", ⟨.text, false, none⟩)]⟩

/-- An index of authors lists the paths that it finds, and the name of an author
is text. -/
theorem lists_found_iff_isAddressable_authors :
    (ofAuthors.paths.Nodup ∧ ∀ path, path ∈ ofAuthors.paths ↔
      ofAuthors.has path = true) ∧
      ofAuthors.resolve "author.name" .strict = .ok ⟨.text, false⟩ := by
  have distinctName :
      AreDistinct (empty.declare "name" ⟨.text, false, none⟩).properties :=
    areDistinct_declare areDistinct_nil areDistinct_nil
  have distinct : AreDistinct ofAuthors.properties :=
    areDistinct_declare areDistinct_nil distinctName
  obtain ⟨agree, resolves⟩ := lists_found_iff_isAddressable distinct
  have addressable : ofAuthors.IsAddressable := by
    constructor
    · intro names spec declares
      have plain : ∀ names ∈ fieldPlaces ofAuthors.properties, ∀ name ∈ names,
        '.' ∉ name.toList := by decide
      exact plain names (mem_fieldPlaces_iff.mpr ⟨spec, declares⟩)
    · intro spec isField
      simp [ofAuthors, declare, setField, strict] at isField
  refine ⟨agree.mpr addressable, ?_⟩
  exact (resolves addressable ["author", "name"] ⟨.text, false, none⟩
    (.inside List.mem_cons_self (.field List.mem_cons_self))).2 .strict

/-- The listing and the lookup do not agree on all schemas: a name with a dot is
listed, but not found. -/
theorem not_forall_lists_found :
    ¬∀ schema : Schema, AreDistinct schema.properties →
      schema.paths.Nodup ∧ ∀ path, path ∈ schema.paths ↔
        schema.has path = true := by
  intro law
  have distinct :
      AreDistinct (empty.declare "a.b" ⟨.long, false, none⟩).properties :=
    areDistinct_declare areDistinct_nil areDistinct_nil
  have isListed : "a.b" ∈ (empty.declare "a.b" ⟨.long, false, none⟩).paths :=
    (paths_perm _).mem_iff.mpr (by decide)
  have found := ((law _ distinct).2 "a.b").mp isListed
  exact absurd found (by decide)

end Schema
end SearchQuery
