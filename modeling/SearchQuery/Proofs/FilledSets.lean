import Mathlib.Data.List.Forall2
import Mathlib.Data.List.Sort
import SearchQuery.Proofs.ValueSets

/-!
# Filling value sets

However values come into a set, at once or one after the other and in whatever
order, the set holds them in increasing order without repetition, and it
contains what equals one of them. Sets that are filled with the same values are
therefore equal value by value.
-/

namespace SearchQuery
namespace ValueSet

/-- The set with more values, which come one after the other. -/
def insertAll (set : ValueSet) (values : List Value) : ValueSet :=
  values.foldl insert set

/-- The set that begins with some values and takes others one after the
other. -/
def filled (scope : Scope) (initial added : List Value) : ValueSet :=
  (ofValues scope initial).insertAll added

/-- A set is filled with given values: it holds values in increasing order
without repetition, and they meet what the given values meet. -/
structure IsFilledWith (scope : Scope) (given : List Value) (set : ValueSet) :
    Prop where
  scope_eq : set.toScope = scope
  kinds : ∀ value ∈ given, value.isOf scope.type.fieldType = true
  arranged : IsArranged scope set.values
  meets : ∀ value, value.isOf scope.type.fieldType = true →
    scope.meets set.values value = scope.meets given value

variable {scope : Scope} {given values others : List Value}
  {set other : ValueSet} {value : Value}

/-- Values meet a value where one of them has its place. -/
theorem meets_iff_mem_places
    (ranking : Ranking scope.type.fieldType)
    (kinds : ∀ member ∈ values, member.isOf scope.type.fieldType = true)
    (isValue : value.isOf scope.type.fieldType = true) :
    scope.meets values value = true ↔
      ranking.place value ∈ values.map ranking.place := by
  rw [Scope.meets, List.any_eq_true, List.mem_map]
  exact exists_congr fun member => and_congr_right fun isMember =>
    ranking.equal_iff (kinds member isMember) isValue

theorem isFilledWith_ofValues
    (kinds : ∀ value ∈ given, value.isOf scope.type.fieldType = true) :
    IsFilledWith scope given (ofValues scope given) :=
  ⟨rfl, kinds, isArranged_arrange kinds, fun _ => meets_arrange kinds⟩

namespace IsFilledWith

/-- A set that takes one more value is filled with it as well. -/
theorem insert
    (isFilled : IsFilledWith scope given set)
    (isValue : value.isOf scope.type.fieldType = true) :
    IsFilledWith scope (given ++ [value]) (set.insert value) := by
  obtain ⟨rfl, kinds, arranged, meets⟩ := isFilled
  have kindsAppend : ∀ {members : List Value},
      (∀ member ∈ members, member.isOf set.type.fieldType = true) →
        ∀ member ∈ members ++ [value], member.isOf set.type.fieldType = true :=
          fun kinds =>
    List.forall_mem_append.mpr ⟨kinds, List.forall_mem_singleton.mpr isValue⟩
  have kindsStored := kindsAppend arranged.kinds
  refine ⟨rfl, kindsAppend kinds, isArranged_arrange kindsStored,
    fun other isOther => ?_⟩
  have stored : set.meets (set.insert value).values other =
      set.meets (set.values ++ [value]) other :=
    meets_arrange kindsStored isOther
  rw [stored, Scope.meets, Scope.meets, List.any_append, List.any_append]
  exact congrArg (· || _) (meets other isOther)

/-- A set that takes more values one after the other is filled with them as
well. -/
theorem insertAll
    (isFilled : IsFilledWith scope given set)
    (kinds : ∀ value ∈ values, value.isOf scope.type.fieldType = true) :
    IsFilledWith scope (given ++ values) (set.insertAll values) := by
  induction values generalizing given set with
  | nil => exact (List.append_nil given).symm ▸ isFilled
  | cons value rest hypothesis =>
      obtain ⟨isValue, kinds⟩ := List.forall_mem_cons.mp kinds
      rw [List.append_cons]
      exact hypothesis (isFilled.insert isValue) kinds

/-- A filled set contains what equals one of the given values. -/
theorem contains_iff
    (isFilled : IsFilledWith scope given set)
    (isValue : value.isOf scope.type.fieldType = true) :
    set.contains value = true ↔
      ∃ member ∈ given, scope.equal member value = true := by
  obtain ⟨rfl, _, arranged, meets⟩ := isFilled
  rw [contains_eq_meets set arranged isValue, meets value isValue, Scope.meets,
    List.any_eq_true]

/-- The values of a filled set have the places of the given ones. -/
theorem mem_places_iff
    (isFilled : IsFilledWith scope given set)
    (ranking : Ranking scope.type.fieldType)
    (place : ranking.Place) :
    place ∈ set.values.map ranking.place ↔ place ∈ given.map ranking.place := by
  have ofValue : ∀ value, value.isOf scope.type.fieldType = true →
      (ranking.place value ∈ set.values.map ranking.place ↔
        ranking.place value ∈ given.map ranking.place) := by
    intro value isValue
    rw [← meets_iff_mem_places ranking isFilled.arranged.kinds isValue,
      ← meets_iff_mem_places ranking isFilled.kinds isValue,
      isFilled.meets value isValue]
  constructor <;> intro isPlace <;> obtain ⟨value, isMember, rfl⟩ :=
    List.mem_map.mp isPlace
  · exact (ofValue value (isFilled.arranged.kinds value isMember)).mp isPlace
  · exact (ofValue value (isFilled.kinds value isMember)).mpr isPlace

/-- Sets that are filled with the same values are equal value by value. Their
places are the same, and they are in increasing order. -/
theorem forall₂_equal
    (isFilled : IsFilledWith scope given set)
    (isOther : IsFilledWith scope others other)
    (same : ∀ value, value ∈ given ↔ value ∈ others) :
    List.Forall₂ (fun a b => scope.equal a b = true) set.values
      other.values := by
  obtain ⟨ranking⟩ := exists_ranking scope.type.fieldType
  have increasing : ∀ {given : List Value} {set : ValueSet},
      IsFilledWith scope given set →
      (set.values.map ranking.place).Pairwise (· < ·) := fun isFilled =>
    List.pairwise_map.mpr
      ((pairwise_order_iff ranking isFilled.arranged.kinds).mp
        isFilled.arranged.increasing)
  have places :
      set.values.map ranking.place = other.values.map ranking.place := by
    refine (increasing isFilled).eq_of_mem_iff (increasing isOther) fun place =>
      ?_
    simp only [isFilled.mem_places_iff, isOther.mem_places_iff,
      List.mem_map, same]
  rw [← List.forall₂_eq_eq_eq, List.forall₂_map_left_iff,
    List.forall₂_map_right_iff, List.forall₂_iff_zip] at places
  refine List.forall₂_iff_zip.mpr ⟨places.1, fun isPair => ?_⟩
  obtain ⟨isMember, isOtherMember⟩ := List.of_mem_zip isPair
  exact (ranking.equal_iff (isFilled.arranged.kinds _ isMember)
    (isOther.arranged.kinds _ isOtherMember)).mpr (places.2 isPair)

end IsFilledWith

theorem isFilledWith_filled
    {initial added : List Value}
    (kinds : ∀ value ∈ initial ++ added, value.isOf scope.type.fieldType =
      true) :
    IsFilledWith scope (initial ++ added) (filled scope initial added) := by
  obtain ⟨kindsInitial, kindsAdded⟩ := List.forall_mem_append.mp kinds
  exact (isFilledWith_ofValues kindsInitial).insertAll kindsAdded

/-- A set that is filled with values of the kind of its field holds them in
increasing order without repetition, and contains what equals one of them. The
same values in another order, and otherwise split between those that it begins
with and those that it takes, lead to a set that is equal value by value. -/
theorem filled_of_perm
    (scope : Scope)
    {initial added : List Value}
    (kinds : ∀ value ∈ initial ++ added, value.isOf scope.type.fieldType =
      true) :
    ((filled scope initial added).values.Pairwise fun a b =>
      scope.order a b = .lt) ∧
    (∀ value, value.isOf scope.type.fieldType = true →
      ((filled scope initial added).contains value = true ↔
        ∃ member ∈ initial ++ added, scope.equal member value = true)) ∧
    ∀ otherInitial otherAdded : List Value,
      (otherInitial ++ otherAdded).Perm (initial ++ added) →
        List.Forall₂ (fun a b => scope.equal a b = true)
          (filled scope initial added).values
          (filled scope otherInitial otherAdded).values := by
  have isFilled := isFilledWith_filled kinds
  refine ⟨isFilled.arranged.increasing, fun value => isFilled.contains_iff, ?_⟩
  intro otherInitial otherAdded permutes
  have isOther := isFilledWith_filled fun value isOther =>
    kinds value (permutes.subset isOther)
  exact isFilled.forall₂_equal isOther fun value => permutes.symm.mem_iff

/-- Two addresses of one block and a wider block, which come in either order,
are a set of two that contains every address of the first block under its
length. -/
theorem filled_of_perm_blocks :
    let scope : Scope := ⟨"client", ⟨.ip, false⟩, .one, false⟩
    let first : Value := .ip ⟨.v4 0x0A000001, 24⟩
    let second : Value := .ip ⟨.v4 0x0A000002, 24⟩
    let wide : Value := .ip ⟨.v4 0x0A000000, 8⟩
    (filled scope [first, wide] [second]).values = [wide, first] ∧
      (filled scope [first, wide] [second]).contains
        (.ip ⟨.v4 0x0A000003, 24⟩) = true ∧
      List.Forall₂ (fun a b => scope.equal a b = true) [wide, first]
        (filled scope [second] [first, wide]).values := by
  intro scope first second wide
  have kinds : ∀ value ∈ [first, wide] ++ [second], value.isOf .ip =
      true := by decide
  have stored : (filled scope [first, wide] [second]).values =
      [wide, first] := by decide
  obtain ⟨_, contains, orders⟩ := filled_of_perm scope kinds
  refine ⟨stored, (contains _ rfl).mpr ⟨first, ?_, ?_⟩, ?_⟩
  · decide
  · decide
  · exact stored ▸ orders [second] [first, wide] List.perm_append_comm

end ValueSet
end SearchQuery
