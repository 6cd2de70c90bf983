import Mathlib.Order.Antisymmetrization
import SearchQuery.Proofs.VersionOrder
import SearchQuery.Value.Order
import SearchQuery.Value.Reader

/-!
# The order of values is consistent

Under every field type, the values of the kind that its texts are read as are
totally preordered. They can therefore be placed on a line, so that their order
is the order of the places. All arithmetic of ranges and value sets is done
there.
-/

namespace SearchQuery

instance : Std.TransCmp Binary64.order :=
  inferInstanceAs (Std.TransCmp (compareOn Binary64.place))

instance : Std.TransCmp Instant.order :=
  inferInstanceAs
    (Std.TransCmp
      (compareLex (compareOn Instant.seconds) (compareOn Instant.nanos)))

instance : Std.TransCmp Block.order :=
  inferInstanceAs
    (Std.TransCmp
      (compareLex (compareOn fun block : Block => block.address.width)
    (compareLex (compareOn Block.network)
      (compareOn fun block => block.length.toNat))))

instance : Std.TransCmp Version.textOrder :=
  inferInstanceAs (Std.TransCmp (compare : String → String → Ordering))

theorem transCmp_comap {α β : Type} (order : β → β → Ordering)
    [Std.TransCmp order] (part : α → β) :
    Std.TransCmp fun a b => order (part a) (part b) where
  eq_swap := Std.OrientedCmp.eq_swap
  isLE_trans := Std.TransCmp.isLE_trans

instance : Std.TransCmp Version.order := by
  have cores := transCmp_comap Version.coreOrder fun text : String =>
    Text.split '.' (Version.splitPreRelease text).1
  have suffixes := transCmp_comap Version.suffixOrder fun text : String =>
    (Version.splitPreRelease text).2
  have equation : Version.order = compareLex _ _ :=
    funext fun a => funext fun b => Version.order_eq_compareLex a b
  rw [equation]
  infer_instance

namespace Value

/-- The value is of the kind that texts of a field type are read as. -/
def isOf : FieldType → Value → Bool
  | .integer, .int _ | .long, .int _ => true
  | .unsignedLong, .uint _ => true
  | .float, .float _ | .double, .float _ => true
  | .keyword, .str _ | .text, .str _ => true
  | .date, .date _ => true
  | .ip, .ip _ => true
  | .version, .version _ => true
  | .boolean, .bool _ => true
  | _, _ => false

/-- The instant that a value is. -/
def instant? : Value → Option Instant
  | .date instant => some instant
  | _ => none

/-- The block of addresses that a value is. -/
def block? : Value → Option Block
  | .ip block => some block
  | _ => none

/-- The truth value that a value is. -/
def flag? : Value → Option Bool
  | .bool flag => some flag
  | _ => none

/-- A text is read as a value of the kind of its type. -/
theorem isOf_of_read {type : FieldType} {text : String} {value : Value}
    (success : read type text = .ok value) : value.isOf type = true := by
  unfold read readTrimmed at success
  cases type <;> simp only at success
  case ip =>
      cases block : readBlock (Text.trim text) with
      | error cause => rw [block] at success; cases success
      | ok content => rw [block] at success; cases success; rfl
  all_goals
    repeat' split at success
    all_goals first
      | cases success; rfl
      | cases success

end Value

/-- Places on a line for the values of a field type, which are ordered as the
values are. -/
structure Ranking (type : FieldType) where
  Place : Type
  [linear : LinearOrder Place]
  place : Value → Place
  order_eq : ∀ a b, a.isOf type = true → b.isOf type = true →
    Value.order type a b = compare (place a) (place b)

attribute [instance] Ranking.linear

namespace Ranking

variable {type : FieldType} (ranking : Ranking type) {a b : Value}

theorem order_eq_lt_iff (isA : a.isOf type = true) (isB : b.isOf type = true) :
    Value.order type a b = .lt ↔ ranking.place a < ranking.place b := by
  rw [ranking.order_eq a b isA isB, compare_lt_iff_lt]

theorem order_eq_gt_iff (isA : a.isOf type = true) (isB : b.isOf type = true) :
    Value.order type a b = .gt ↔ ranking.place b < ranking.place a := by
  rw [ranking.order_eq a b isA isB, compare_gt_iff_gt]

theorem equal_iff (isA : a.isOf type = true) (isB : b.isOf type = true) :
    Value.equal type a b = true ↔ ranking.place a = ranking.place b := by
  rw [Value.equal, ranking.order_eq a b isA isB, beq_iff_eq, compare_eq_iff_eq]

end Ranking

/-- Values that a consistent order compares can be placed on a line. -/
theorem exists_place_of_transCmp {α : Type} (order : α → α → Ordering)
    [Std.TransCmp order] :
    ∃ (Place : Type) (_ : LinearOrder Place) (place : α → Place),
      ∀ a b, order a b = compare (place a) (place b) := by
  classical
  let _ : Preorder α :=
    { le := fun a b => (order a b).isLE
      lt := fun a b => order a b = .lt
      le_refl := fun a => by simp [Std.ReflCmp.compare_self]
      le_trans := fun a b c => Std.TransCmp.isLE_trans
      lt_iff_le_not_ge := fun a b => by
        rw [@Std.OrientedCmp.eq_swap _ order _ b a]
        cases order a b <;> simp }
  have total : Std.Total (fun a b : α => a ≤ b) := ⟨fun a b => by
    change (order a b).isLE ∨ (order b a).isLE
    rw [@Std.OrientedCmp.eq_swap _ order _ b a]
    cases order a b <;> simp⟩
  refine ⟨Antisymmetrization α (· ≤ ·), inferInstance,
    toAntisymmetrization (· ≤ ·), ?_⟩
  intro a b
  cases equation : order a b with
  | lt =>
      symm
      rw [compare_lt_iff_lt, toAntisymmetrization_lt_toAntisymmetrization_iff]
      exact equation
  | eq =>
      symm
      rw [compare_eq_iff_eq]
      apply le_antisymm
      · rw [toAntisymmetrization_le_toAntisymmetrization_iff]
        change (order a b).isLE
        simp [equation]
      · rw [toAntisymmetrization_le_toAntisymmetrization_iff]
        change (order b a).isLE
        simp [Std.OrientedCmp.eq_symm equation]
  | gt =>
      symm
      rw [compare_gt_iff_gt, toAntisymmetrization_lt_toAntisymmetrization_iff]
      exact Std.OrientedCmp.lt_of_gt equation

/-- A type whose values are compared through a consistent order has a
ranking. -/
theorem Ranking.ofProjection
    (type : FieldType)
    {α : Type}
    (order : α → α → Ordering)
    [Std.TransCmp order]
    (project : Value → α)
    (order_eq : ∀ a b, a.isOf type = true → b.isOf type = true →
      Value.order type a b = order (project a) (project b)) :
    Nonempty (Ranking type) := by
  obtain ⟨Place, linear, place, place_eq⟩ := exists_place_of_transCmp order
  exact ⟨{
    Place := Place
    place := fun value => place (project value)
    order_eq := fun a b isA isB => by rw [order_eq a b isA isB, place_eq] }⟩

/-- Every type has a ranking of its values. -/
theorem exists_ranking (type : FieldType) : Nonempty (Ranking type) := by
  cases type with
  | integer | long | unsignedLong =>
      refine Ranking.ofProjection _ compare
        (fun value => value.integer?.getD 0) ?_
      intro a b isA isB
      cases a <;> cases isA
      all_goals
        cases b <;> cases isB
        rfl
  | float | double =>
      refine Ranking.ofProjection _ Binary64.order
        (fun value => value.binary64?.getD .zero) ?_
      intro a b isA isB
      cases a <;> cases isA
      all_goals
        cases b <;> cases isB
        rfl
  | keyword | text =>
      refine Ranking.ofProjection _ Version.textOrder
        (fun value => value.text?.getD "") ?_
      intro a b isA isB
      cases a <;> cases isA
      all_goals
        cases b <;> cases isB
        rfl
  | date =>
      refine Ranking.ofProjection _ Instant.order
        (fun value => value.instant?.getD .earliest) ?_
      intro a b isA isB
      cases a <;> cases isA
      all_goals
        cases b <;> cases isB
        rfl
  | ip =>
      refine Ranking.ofProjection _ Block.order
        (fun value => value.block?.getD ⟨.v4 0, 0⟩) ?_
      intro a b isA isB
      cases a <;> cases isA
      all_goals
        cases b <;> cases isB
        rfl
  | version =>
      refine Ranking.ofProjection _ Version.order
        (fun value => value.text?.getD "") ?_
      intro a b isA isB
      cases a <;> cases isA
      all_goals
        cases b <;> cases isB
        rfl
  | boolean =>
      refine Ranking.ofProjection _ compare
        (fun value => (value.flag?.getD false).toNat) ?_
      intro a b isA isB
      cases a <;> cases isA
      all_goals
        cases b <;> cases isB
        rfl

namespace Value

variable {type : FieldType} {a b c : Value}

theorem equal_self (isA : a.isOf type = true) : equal type a a = true := by
  obtain ⟨ranking⟩ := exists_ranking type
  exact (ranking.equal_iff isA isA).mpr rfl

theorem equal_comm (isA : a.isOf type = true) (isB : b.isOf type = true) :
    equal type a b = equal type b a := by
  obtain ⟨ranking⟩ := exists_ranking type
  rw [Bool.eq_iff_iff, ranking.equal_iff isA isB, ranking.equal_iff isB isA]
  exact eq_comm

/-- Equal values are equal to the same values. -/
theorem equal_congr
    (isA : a.isOf type = true)
    (isB : b.isOf type = true)
    (isC : c.isOf type = true)
    (same : equal type a b = true) :
    equal type a c = equal type b c := by
  obtain ⟨ranking⟩ := exists_ranking type
  rw [Bool.eq_iff_iff, ranking.equal_iff isA isC, ranking.equal_iff isB isC,
    (ranking.equal_iff isA isB).mp same]

theorem equal_congr_right
    (isA : a.isOf type = true)
    (isB : b.isOf type = true)
    (isC : c.isOf type = true)
    (same : equal type a b = true) :
    equal type c a = equal type c b := by
  rw [equal_comm isC isA, equal_comm isC isB, equal_congr isA isB isC same]

/-- Values that are the same are equal. -/
theorem equal_of_same
    (isA : a.isOf type = true)
    (isB : b.isOf type = true)
    (alike : same a b = true) :
    equal type a b = true := by
  cases a with
  | float numberA =>
      cases b with
      | float numberB =>
          have places : compare numberA.place numberB.place = .eq :=
            compare_eq_iff_eq.mpr (beq_iff_eq.mp alike)
          cases type with
          | float | double => exact beq_iff_eq.mpr places
          | _ => cases isA
      | _ => cases alike
  | _ =>
      obtain rfl := beq_iff_eq.mp alike
      exact equal_self isA

end Value
end SearchQuery
