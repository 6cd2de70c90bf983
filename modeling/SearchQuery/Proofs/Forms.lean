import SearchQuery.Proofs.CompiledTrees

/-!
# Forms are read back

Expressions, settings and schemas are read from their JSON forms as they were
written, at any depth. Only what a form cannot hold is excluded: a weight must
be finite, and a count must fit the word that holds it.
-/

namespace SearchQuery

namespace Json

@[simp] theorem field?_obj (names : List String) (name : String)
    (members : List (String × Json)) :
    (obj members).field? names name = members.lookup name :=
  rfl

@[simp] theorem withDefault_some {α : Type} (value : α) (read : Json → Option α)
    (form : Json) :
    withDefault value read (some form) = read form := by
  rw [withDefault]

/-- A form that is not `null` is read as a value that is given. -/
theorem optional?_of_ne_null
    {α : Type}
    {read : Json → Option α}
    {form : Json}
    (given : form ≠ .null) :
    form.optional? read = (read form).map some := by
  cases form with
  | null => exact absurd rfl given
  | _ => rfl

/-- A value that may be missing is read back if every value is. -/
theorem optional?_map_getD
    {α : Type}
    {read : Json → Option α}
    {write : α → Json}
    (reads : ∀ value, read (write value) = some value)
    (given : ∀ value, write value ≠ .null)
    (value : Option α) :
    ((value.map write).getD .null).optional? read = some value := by
  cases value with
  | none => rfl
  | some value =>
      rw [Option.map_some, Option.getD_some,
        optional?_of_ne_null (given value), reads]
      rfl

@[simp] theorem optional?_ofText? (text : Option String) :
    (ofText? text).optional? text? = some text := by
  cases text <;> rfl

theorem natural?_int {bound count : Nat} (fits : count < bound) :
    natural? bound (.int count) = some count := by
  rw [natural?, if_pos ⟨Int.natCast_nonneg count, Int.ofNat_lt.mpr fits⟩,
    Int.toNat_natCast]

/-- A count that may be missing is read back if it is below the bound of its
word. -/
theorem optional?_ofNat?
    {bound : Nat}
    {count : Option Nat}
    (fits : ∀ value ∈ count, value < bound) :
    (ofNat? count).optional? (natural? bound) = some count := by
  cases count with
  | none => rfl
  | some value =>
      rw [ofNat?, optional?_of_ne_null (by simp), natural?_int (fits value rfl)]
      rfl

/-- A number that may be missing is read back if it is finite. -/
theorem optional?_ofNumber?
    {number : Option Binary64}
    (finite : ∀ value ∈ number, value.isFinite = true) :
    (ofNumber? number).optional? number? = some number := by
  cases number with
  | none => rfl
  | some value =>
      rw [ofNumber?, ofBinary64, if_pos (finite value rfl)]
      rfl

@[simp] theorem byte?_int (byte : UInt8) :
    byte? (.int byte.toNat) = some byte := by
  rw [byte?, natural?_int byte.toNat_lt, Option.map_some, UInt8.ofNat_toNat]

@[simp] theorem texts?_arr (texts : List String) :
    texts? (.arr (texts.map .str)) = some texts := by
  rw [texts?]
  induction texts with
  | nil => rfl
  | cons first rest hypothesis =>
      rw [List.map_cons, List.mapM_cons, hypothesis]
      rfl

end Json

@[simp] theorem Fuzziness.ofForm?_toForm (fuzziness : Fuzziness) :
    ofForm? fuzziness.toForm = some fuzziness := by
  cases fuzziness with
  | distance edits => rw [toForm, ofForm?, Json.byte?_int, Option.map_some]
  | auto low high =>
      simp [toForm, ofForm?, Json.isCaseRecord, Json.isRecord, List.lookup_cons]

@[simp] theorem Comparison.ofForm?_toForm (comparison : Comparison) :
    ofForm? comparison.toForm = some comparison := by
  cases comparison <;> rfl

namespace Modifiers

/-- Options can be written: the weight is finite, and the counts fit the words
that hold them. -/
structure AreWritable (modifiers : Modifiers) : Prop where
  boost : ∀ value ∈ modifiers.boost, value.isFinite = true
  slop : ∀ value ∈ modifiers.slop, value < Nat.pow 2 32
  maxExpansions : ∀ value ∈ modifiers.maxExpansions, value < Nat.pow 2 64
  prefixLength : ∀ value ∈ modifiers.prefixLength, value < Nat.pow 2 64

/-- Options that can be written are read back. -/
theorem ofForm?_toForm {modifiers : Modifiers}
    (writable : modifiers.AreWritable) :
    ofForm? modifiers.toForm = some modifiers := by
  have boost := Json.optional?_ofNumber? writable.boost
  have slop := Json.optional?_ofNat? writable.slop
  have maxExpansions := Json.optional?_ofNat? writable.maxExpansions
  have prefixLength := Json.optional?_ofNat? writable.prefixLength
  have fuzziness := Json.optional?_map_getD Fuzziness.ofForm?_toForm
    (fun fuzziness => by cases fuzziness <;> simp [Fuzziness.toForm])
      modifiers.fuzziness
  simp [ofForm?, toForm, Json.isRecord, List.lookup_cons, boost, slop,
    maxExpansions, prefixLength, fuzziness]

end Modifiers

theorem Condition.ofForm?_toForm
    {condition : Condition}
    (writable : condition.modifiers.AreWritable) :
    ofForm? condition.toForm = some condition := by
  simp [ofForm?, toForm, Json.isRecord, List.lookup_cons, Json.text?,
    Modifiers.ofForm?_toForm writable]

namespace Expr

/-- The options of all conditions of an expression can be written. -/
def IsWritable (expression : Expr) : Prop :=
  expression.Every fun condition => condition.modifiers.AreWritable

/-- Expressions are read back as a list if each of them is. -/
theorem ofForms?_partForms
    {parts : List Expr}
    (reads : ∀ part ∈ parts, ofForm? part.toForm = some part) :
    ofForms? (partForms parts) = some parts := by
  induction parts with
  | nil => rfl
  | cons part rest hypothesis =>
      obtain ⟨readsPart, readsRest⟩ := List.forall_mem_cons.mp reads
      rw [partForms, ofForms?, readsPart, hypothesis readsRest]
      rfl

/-- An expression whose options can be written is read back. -/
theorem ofForm?_toForm {expression : Expr} (writable : expression.IsWritable) :
    ofForm? expression.toForm = some expression := by
  induction writable with
  | condition has => simp [toForm, ofForm?, Condition.ofForm?_toForm has]
  | all _ hypothesis =>
      simp [toForm, ofForm?, parts?, ofForms?_partForms hypothesis]
  | any _ hypothesis =>
      simp [toForm, ofForm?, parts?, ofForms?_partForms hypothesis]
  | not _ hypothesis => simp [toForm, ofForm?, hypothesis]

end Expr

@[simp] theorem FieldType.ofForm?_toForm (type : FieldType) :
    ofForm? type.toForm = some type := by
  rw [toForm, ofForm?, Json.caseName?, Option.bind_some, ofName?_name]

@[simp] theorem DynamicMode.ofForm?_toForm (dynamic : DynamicMode) :
    ofForm? dynamic.toForm = some dynamic := by
  cases dynamic <;> rfl

namespace FieldSpec

mutual

theorem ofForm?_toForm : ∀ spec : FieldSpec, ofForm? spec.toForm = some spec
  | ⟨type, array, none⟩ => by
      simp [toForm, ofForm?, propertiesMember, nestedMember?, ofParts?,
        List.lookup_cons, Json.flag?]
  | ⟨type, array, some fields⟩ => by
      simp [toForm, ofForm?, propertiesMember, nestedMember?, nested?, ofParts?,
        List.lookup_cons, Json.flag?, ofMembers?_fieldForms fields]

theorem ofMembers?_fieldForms :
    ∀ fields : List (String × FieldSpec),
      ofMembers? (fieldForms fields) = some fields
  | [] => rfl
  | (name, spec) :: rest => by
      simp [fieldForms, ofMembers?, ofForm?_toForm spec,
        ofMembers?_fieldForms rest]

end

end FieldSpec

theorem Schema.ofForm?_toForm (schema : Schema) :
    ofForm? schema.toForm = some schema := by
  simp [toForm, ofForm?, Json.isRecord, List.lookup_cons,
    FieldSpec.tableOfForm?, FieldSpec.ofMembers?_fieldForms]

/-- Settings whose count fits the word that holds it are read back. -/
theorem Settings.ofForm?_toForm
    {settings : Settings}
    (fits : settings.defaultMaxExpansions < Nat.pow 2 64) :
    ofForm? settings.toForm = some settings := by
  have dynamic := Json.optional?_map_getD DynamicMode.ofForm?_toForm
    (fun dynamic => by simp [DynamicMode.toForm]) settings.dynamic
  simp [toForm, ofForm?, Json.isRecord, List.lookup_cons, Json.text?,
    Json.flag?, Json.natural?_int fits, dynamic]

/-- The inputs of a compilation are read back from their forms: every expression
whose options can be written, all settings whose count fits the word that holds
it, and every schema. -/
theorem forms_read_back :
    (∀ expression : Expr, expression.IsWritable →
      Expr.ofForm? expression.toForm = some expression) ∧
    (∀ settings : Settings, settings.defaultMaxExpansions < Nat.pow 2 64 →
      Settings.ofForm? settings.toForm = some settings) ∧
    ∀ schema : Schema, Schema.ofForm? schema.toForm = some schema :=
  ⟨fun _ => Expr.ofForm?_toForm, fun _ => Settings.ofForm?_toForm,
    Schema.ofForm?_toForm⟩

/-- A nested expression with a weight, settings that refuse undeclared fields,
and a schema with a field inside another are read back. -/
theorem forms_read_back_year :
    let years : Condition :=
      ⟨"year", .between true false, ["2020", "*"],
        { Modifiers.none with
          boost := some .one
          slop := some 2
          fuzziness := some (.distance 1) }⟩
    let expression : Expr := .not (.any [.condition years, .all []])
    let settings : Settings :=
      { Settings.standard with dynamic := some .strict }
    let schema : Schema :=
      ⟨[("author", ⟨.keyword, false, some [("born", ⟨.date, true, none⟩)]⟩)],
        .strict⟩
    expression.IsWritable ∧ settings.defaultMaxExpansions < Nat.pow 2 64 ∧
      Expr.ofForm? expression.toForm = some expression ∧
      Settings.ofForm? settings.toForm = some settings ∧
      Schema.ofForm? schema.toForm = some schema := by
  intro years expression settings schema
  have fits : settings.defaultMaxExpansions < Nat.pow 2 64 := by decide
  have writable : years.modifiers.AreWritable := by
    constructor <;> rintro _ ⟨⟩ <;> decide
  have isWritable : expression.IsWritable := by
    refine .not (.any ?_)
    simp only [List.forall_mem_cons]
    exact ⟨.condition writable, .all (List.forall_mem_nil _),
      List.forall_mem_nil _⟩
  obtain ⟨expressions, allSettings, schemas⟩ := forms_read_back
  exact ⟨isWritable, fits, expressions _ isWritable, allSettings _ fits,
    schemas schema⟩

end SearchQuery
