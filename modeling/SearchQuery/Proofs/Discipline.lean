import SearchQuery.Proofs.Ranges
import SearchQuery.Proofs.WellFormed

/-!
# What leaves keep to

The leaves of a tree agree on the type of each field and hold values of its
kind. A field whose presence is asked for is no key of conditions that do not
read it. Leaves that are the same, and leaves that ask for the same, then hold
for the same documents.
-/

namespace SearchQuery

/-- What the leaves of a tree agree on: the type of each field, the fields on
which ranges may stand, the fields whose presence may be asked for, the keys
under which conditions stand that do not read the field of that name, and
whether ranges leave a place for a value. -/
structure Discipline where
  types : String → ValueType
  ordered : String → Prop
  probed : String → Prop
  foreign : String → Prop
  tight : Bool

/-- No key of conditions that read no field is a field whose presence is asked
for. -/
def Discipline.IsSeparated (discipline : Discipline) : Prop :=
  ∀ key, discipline.probed key → ¬discipline.foreign key

/-- A term has the type of its field and a value of its kind. -/
structure Term.Keeps (types : String → ValueType) (term : Term) : Prop where
  typed : term.type = types term.field
  kind : term.value.isOf term.type.fieldType = true

/-- A value set has the type of its field and holds values of its kind in
order. -/
structure ValueSet.Keeps (types : String → ValueType) (set : ValueSet) :
    Prop where
  typed : set.type = types set.field
  nonempty : set.values ≠ []
  arranged : IsArranged set.toScope set.values

/-- A range stands on a field for ranges, has the type of the field and bounds
of its kind, and leaves a place for a value where this is asked for. -/
structure Range.Keeps (discipline : Discipline) (range : Range) : Prop where
  typed : range.type = discipline.types range.field
  ordered : discipline.ordered range.field
  isOf : range.IsOf
  nonempty : discipline.tight = true → range.isEmpty = false

/-- A leaf keeps to a discipline. -/
def Leaf.Keeps (discipline : Discipline) : Leaf → Prop
  | .term content => content.Keeps discipline.types
  | .valueSet content => content.Keeps discipline.types
  | .range content => content.Keeps discipline
  | .fullText content => content.type = discipline.types content.field
  | .phrase content => content.type = discipline.types content.field
  | .pattern content => content.type = discipline.types content.field
  | .presence content => discipline.probed content.field
  | .ids _ => discipline.foreign IdSet.field
  | .queryText content => discipline.foreign (content.defaultField.getD "")
  | .everything _ | .nothing => True

namespace StoredDocument.Fits

variable {document : StoredDocument} {types : String → ValueType}
  (fits : document.Fits types) {field : String} {p q r : Value → Bool}
include fits

/-- Tests that agree on the values of a field's kind agree on the field. -/
theorem hasValue_congr
    (agree : ∀ value, value.isOf (types field).fieldType = true →
      p value = q value) :
    document.hasValue field p = document.hasValue field q := by
  unfold hasValue
  rw [Bool.eq_iff_iff, List.any_eq_true, List.any_eq_true]
  constructor
  · rintro ⟨value, isValue, passes⟩
    exact ⟨value, isValue,
      agree value (fits.kinds field value isValue) ▸ passes⟩
  · rintro ⟨value, isValue, passes⟩
    exact ⟨value, isValue,
      agree value (fits.kinds field value isValue) ▸ passes⟩

/-- A test that is passed where one of two is accepts what either accepts. -/
theorem hasValue_or
    (agree : ∀ value, value.isOf (types field).fieldType = true →
      r value = (p value || q value)) :
    document.hasValue field r =
      (document.hasValue field p || document.hasValue field q) := by
  rw [fits.hasValue_congr agree]
  unfold hasValue
  induction document.values field with
  | nil => rfl
  | cons value rest hypothesis =>
      rw [List.any_cons, List.any_cons, List.any_cons, hypothesis]
      ac_rfl

/-- On a field that is no array, a test that is passed where both of two are
accepts what both accept. -/
theorem hasValue_and
    (single : (types field).isArray = false)
    (agree : ∀ value, value.isOf (types field).fieldType = true →
      r value = (p value && q value)) :
    document.hasValue field r =
      (document.hasValue field p && document.hasValue field q) := by
  rw [fits.hasValue_congr agree]
  have short := fits.single field single
  unfold hasValue
  match document.values field, short with
  | [], _ => rfl
  | [value], _ => simp

/-- A test that is passed only where another is makes the other superfluous. -/
theorem hasValue_and_of_imp
    (implied : ∀ value, value.isOf (types field).fieldType = true →
      p value = true → q value = true) :
    (document.hasValue field p && document.hasValue field q) =
      document.hasValue field p := by
  rw [Bool.and_eq_left_iff_imp]
  unfold hasValue
  rw [List.any_eq_true, List.any_eq_true]
  rintro ⟨value, isValue, passes⟩
  exact ⟨value, isValue, implied value (fits.kinds field value isValue) passes⟩

end StoredDocument.Fits

/-- A field with a value that passes a test has a value. -/
theorem StoredDocument.values_ne_nil_of_hasValue
    {document : StoredDocument}
    {field : String}
    {test : Value → Bool}
    (passes : document.hasValue field test = true) :
    document.values field ≠ [] := by
  obtain ⟨value, isValue, _⟩ := List.any_eq_true.mp passes
  exact List.ne_nil_of_mem isValue

section Sizes

/-- Fields that hold one integer, and leaves that neither ask for presence nor
stand under the key of another field. -/
def Discipline.ofIntegers (tight : Bool) : Discipline :=
  ⟨fun _ => ⟨.integer, false⟩, fun _ => True, fun _ => False,
    fun _ => False, tight⟩

/-- The scope of conditions on a size. -/
def Scope.ofSize : Scope := ⟨"size", ⟨.integer, false⟩, .one, false⟩

/-- The condition that the size is a number. -/
def Leaf.sizeIs (size : Int64) : Leaf := .term ⟨.ofSize, .int size⟩

/-- The condition that the size is between two numbers, of which neither is
meant. -/
def Leaf.sizeBetween (low high : Int64) : Leaf :=
  .range ⟨.ofSize, some ⟨.gt, .int low⟩, some ⟨.lt, .int high⟩, none, none⟩

/-- A document of a size. -/
def StoredDocument.ofSize (size : Int64) : StoredDocument :=
  ⟨"", fun _ => [.int size]⟩

theorem Discipline.isSeparated_ofIntegers (tight : Bool) :
    (ofIntegers tight).IsSeparated :=
  fun _ => False.elim

theorem StoredDocument.fits_ofSize (size : Int64) (tight : Bool) :
    (ofSize size).Fits (Discipline.ofIntegers tight).types where
  kinds field value isValue := by
    rw [List.mem_singleton.mp isValue]
    rfl
  single _ _ := Nat.le_refl 1

theorem Leaf.wellFormed_sizeIs (size : Int64) (tight : Bool) :
    (Node.leaf (sizeIs size)).WellFormed (Keeps (.ofIntegers tight)) :=
  .leaf rfl ⟨rfl, rfl⟩

theorem Leaf.wellFormed_sizeBetween (low high : Int64) :
    (Node.leaf (sizeBetween low high)).WellFormed (Keeps (.ofIntegers false)) :=
  .leaf rfl ⟨rfl, trivial, ⟨by rintro _ ⟨⟩; rfl, by rintro _ ⟨⟩; rfl⟩,
    by rintro ⟨⟩⟩

end Sizes

end SearchQuery
