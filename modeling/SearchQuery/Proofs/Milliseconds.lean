import SearchQuery.Proofs.LeafDocuments
import SearchQuery.Proofs.Ranges

/-!
# Bounds in milliseconds

The document of a range of instants states its bounds as counts of milliseconds,
rounded down. An instant on a whole millisecond meets them by its own count
exactly if the range includes it, except where a bound misplaces it. A count
belongs to a millisecond of a leap second and also to one of the second after
it, so bounds misplace instants of a leap second. And a bound that stands before
its instant, rounded down, stands before the whole millisecond of it.
-/

namespace SearchQuery

namespace Instant

/-- Counts of milliseconds do not tell whether an instant lies behind another
one. -/
def MisplacesBehind (bound t : Instant) : Prop :=
  bound.seconds < t.seconds ∧ t.milliseconds ≤ bound.milliseconds ∨
    t.seconds < bound.seconds ∧ bound.milliseconds < t.milliseconds

/-- Counts of milliseconds do not tell whether an instant lies before another
one. This may also be one inside of the millisecond. -/
def MisplacesBefore (bound t : Instant) : Prop :=
  t.seconds < bound.seconds ∧ bound.milliseconds ≤ t.milliseconds ∨
    bound.seconds < t.seconds ∧ t.milliseconds < bound.milliseconds ∨
    t.seconds = bound.seconds ∧ t.milliseconds = bound.milliseconds ∧
      bound.nanos % 1000000 ≠ 0

theorem order_eq_lt_iff (a b : Instant) :
    a.order b = .lt ↔ a.seconds < b.seconds ∨ a.seconds = b.seconds ∧
      a.nanos < b.nanos := by
  rw [order, Ordering.then_eq_lt, compare_lt_iff_lt, compare_eq_iff_eq,
    compare_lt_iff_lt]

/-- An instant on a whole millisecond lies behind another one exactly if its
count does, unless it is misplaced. -/
theorem not_misplacesBehind_iff {bound t : Instant}
    (whole : t.nanos % 1000000 = 0) :
    ¬bound.MisplacesBehind t ↔
      (bound.order t = .lt ↔ bound.milliseconds < t.milliseconds) := by
  rw [order_eq_lt_iff, MisplacesBehind]
  simp only [milliseconds]
  omega

/-- An instant on a whole millisecond lies before another one exactly if its
count does, unless it is misplaced. -/
theorem not_misplacesBefore_iff {bound t : Instant}
    (whole : t.nanos % 1000000 = 0) :
    ¬bound.MisplacesBefore t ↔
      (t.order bound = .lt ↔ t.milliseconds < bound.milliseconds) := by
  rw [order_eq_lt_iff, MisplacesBefore]
  simp only [milliseconds]
  omega

theorem not_misplacesBehind
    {bound t : Instant}
    (plainBound : bound.nanos < leap)
    (plain : t.nanos < leap) :
    ¬bound.MisplacesBehind t := by
  simp only [MisplacesBehind, milliseconds, leap] at *
  omega

/-- Outside of leap seconds, an instant before which no bound stands is
misplaced exactly if it begins the millisecond that another one is inside of. -/
theorem misplacesBefore_iff
    {bound t : Instant}
    (plainBound : bound.nanos < leap)
    (plain : t.nanos < leap) :
    bound.MisplacesBefore t ↔
      t.milliseconds = bound.milliseconds ∧ bound.nanos % 1000000 ≠ 0 := by
  simp only [MisplacesBefore, milliseconds, leap] at *
  omega

end Instant

/-- The count of milliseconds of a lower bound does not tell on which side of it
an instant is. -/
def LowerBound.Misplaces (bound : LowerBound) (t : Instant) : Prop :=
  ∃ instant, bound.value = .date instant ∧
    match bound.comparison with
    | .gt => instant.MisplacesBehind t
    | .gte => instant.MisplacesBefore t

/-- The count of milliseconds of an upper bound does not tell on which side of
it an instant is. -/
def UpperBound.Misplaces (bound : UpperBound) (t : Instant) : Prop :=
  ∃ instant, bound.value = .date instant ∧
    match bound.comparison with
    | .lt => instant.MisplacesBefore t
    | .lte => instant.MisplacesBehind t

namespace Range

/-- A bound of a range misplaces an instant. -/
def Misplaces (range : Range) (t : Instant) : Prop :=
  (∃ bound ∈ range.lower, bound.Misplaces t) ∨ ∃ bound ∈ range.upper,
    bound.Misplaces t

/-- No bound of a range is in a leap second. -/
def AvoidsLeapSeconds (range : Range) : Prop :=
  (∀ comparison instant, range.lower = some ⟨comparison, .date instant⟩ →
    instant.nanos < Instant.leap) ∧
  ∀ comparison instant, range.upper = some ⟨comparison, .date instant⟩ →
    instant.nanos < Instant.leap

/-- The millisecond of an instant is divided by a bound that stands before its
own instant. -/
def Divides (range : Range) (t : Instant) : Prop :=
  (∃ instant, range.lower = some ⟨.gte, .date instant⟩ ∧
    t.milliseconds = instant.milliseconds ∧ instant.nanos % 1000000 ≠ 0) ∨
  ∃ instant, range.upper = some ⟨.lt, .date instant⟩ ∧
    t.milliseconds = instant.milliseconds ∧ instant.nanos % 1000000 ≠ 0

end Range

namespace Json

/-- A count meets what an object states under the names of the four
comparisons. -/
structure IsMetBy (body : Json) (count : Int) : Prop where
  gt : ∀ stated ∈ body.get? "gt", ∃ n, stated = .int n ∧ n < count
  gte : ∀ stated ∈ body.get? "gte", ∃ n, stated = .int n ∧ n ≤ count
  lt : ∀ stated ∈ body.get? "lt", ∃ n, stated = .int n ∧ count < n
  lte : ∀ stated ∈ body.get? "lte", ∃ n, stated = .int n ∧ count ≤ n

/-- A document is a range of counts of milliseconds on a field, and includes a
count. -/
def AdmitsMilliseconds (document : Json) (field : String) (count : Int) :
    Prop :=
  ∃ body, (document.get? "range").bind (·.get? field) = some body ∧
    body.get? "format" = some (.str "epoch_millis") ∧ body.IsMetBy count

end Json

theorem Value.exists_date_of_isOf {value : Value}
    (isDate : value.isOf .date = true) :
    ∃ instant, value = .date instant := by
  cases value <;> first | exact ⟨_, rfl⟩ | cases isDate

variable {t : Instant}

section Sides

variable {Bound : Type} [Sided Bound]

open Sided

/-- The counts of milliseconds of an instant and of the instant that a bound
stands on tell whether the bound admits the instant. -/
def Sided.Places (bound : Bound) (t : Instant) : Prop :=
  ∀ instant, value bound = .date instant →
    if isInclusive bound then
      (direction Bound).order .date (.date t) (.date instant) = .lt ↔
        (direction Bound).Before t.milliseconds instant.milliseconds
    else
      (direction Bound).order .date (.date instant) (.date t) = .lt ↔
        (direction Bound).Before instant.milliseconds t.milliseconds

/-- A bound admits an instant exactly if what documents show of it admits the
count of the instant, where counts place the instant. -/
theorem Sided.all_admits_iff
    {bound : Option Bound}
    (isDate : IsOf .date bound)
    (places : ∀ content ∈ bound, Places content t) :
    bound.all (admits .date · (.date t)) = true ↔
      (∀ stated ∈ shown false bound, ∃ n, stated = .int n ∧
        (direction Bound).Before n t.milliseconds) ∧
      ∀ stated ∈ shown true bound, ∃ n, stated = .int n ∧
        ¬(direction Bound).Before t.milliseconds n := by
  cases bound with
  | none => simp [shown]
  | some bound =>
      obtain ⟨instant, isInstant⟩ :=
        Value.exists_date_of_isOf (isDate bound rfl)
      have counts := places bound rfl instant isInstant
      rw [Option.all_some, admits_iff_order (isDate bound rfl) rfl, isInstant]
      cases inclusive : isInclusive bound with
      | false =>
          rw [inclusive, if_neg Bool.false_ne_true] at counts
          simp [shown, Option.filter_some, inclusive, isInstant,
            Value.toJson, counts]
      | true =>
          rw [inclusive, if_pos rfl] at counts
          simp [shown, Option.filter_some, inclusive, isInstant,
            Value.toJson, counts]

end Sides

/-- Counts place an instant on a whole millisecond for a lower bound that does
not misplace it. -/
theorem LowerBound.places_of_not_misplaces
    {bound : LowerBound}
    (whole : t.nanos % 1000000 = 0)
    (placed : ¬bound.Misplaces t) :
    Sided.Places bound t := by
  obtain ⟨comparison, _⟩ := bound
  rintro instant rfl
  have placed := mt (fun misplaced => ⟨instant, rfl, misplaced⟩) placed
  cases comparison with
  | gt => exact (Instant.not_misplacesBehind_iff whole).mp placed
  | gte => exact (Instant.not_misplacesBefore_iff whole).mp placed

/-- Counts place an instant on a whole millisecond for an upper bound that does
not misplace it. -/
theorem UpperBound.places_of_not_misplaces
    {bound : UpperBound}
    (whole : t.nanos % 1000000 = 0)
    (placed : ¬bound.Misplaces t) :
    Sided.Places bound t := by
  obtain ⟨comparison, _⟩ := bound
  rintro instant rfl
  have placed := mt (fun misplaced => ⟨instant, rfl, misplaced⟩) placed
  cases comparison with
  | lt => exact (Instant.not_misplacesBefore_iff whole).mp placed
  | lte => exact (Instant.not_misplacesBehind_iff whole).mp placed

namespace Range

variable {range : Range}

/-- The document of a range states each of its rows under the name of the
row. -/
theorem exists_body (range : Range) :
    ∃ body, ((Leaf.range range).document.get? "range").bind
      (·.get? range.field) = some body ∧
      ∀ row ∈ range.rows, body.get? row.1 = row.2 := by
  refine ⟨.obj (Json.record range.rows), ?_,
    Json.lookup_record (by simp [rows])⟩
  rw [document_eq, fieldDocument]
  simp [Json.get?]

/-- The document of a range of instants admits a count that meets what is shown
of its bounds. -/
theorem admitsMilliseconds_document_iff
    (isDate : range.fieldType = .date)
    (count : Int) :
    (Leaf.range range).document.AdmitsMilliseconds range.field count ↔
      ((∀ stated ∈ Sided.shown false range.lower, ∃ n, stated = .int n ∧
        n < count) ∧
          ∀ stated ∈ Sided.shown true range.lower, ∃ n, stated = .int n ∧
            n ≤ count) ∧
        (∀ stated ∈ Sided.shown false range.upper, ∃ n, stated = .int n ∧
          count < n) ∧
          ∀ stated ∈ Sided.shown true range.upper, ∃ n, stated = .int n ∧
            count ≤ n := by
  obtain ⟨body, isBody, states⟩ := exists_body range
  simp only [rows, List.forall_mem_cons, isDate, FieldType.family, if_true]
    at states
  obtain ⟨gt, gte, lt, lte, -, -, format, -, -⟩ := states
  rw [← gt, ← gte, ← lt, ← lte]
  constructor
  · rintro ⟨other, isOther, -, met⟩
    obtain rfl := Option.some.inj (isBody.symm.trans isOther)
    exact ⟨⟨met.gt, met.gte⟩, met.lt, met.lte⟩
  · rintro ⟨⟨gt, gte⟩, lt, lte⟩
    exact ⟨body, isBody, format, gt, gte, lt, lte⟩

/-- Outside of leap seconds, bounds misplace exactly the instants whose
millisecond they divide. -/
theorem misplaces_iff_divides (avoids : range.AvoidsLeapSeconds)
    (plain : t.nanos < Instant.leap) :
    range.Misplaces t ↔ range.Divides t := by
  constructor
  · rintro (⟨⟨comparison, _⟩, isBound, instant, rfl, misplaced⟩ |
      ⟨⟨comparison, _⟩, isBound, instant, rfl, misplaced⟩)
    · have plainBound := avoids.1 comparison instant isBound
      cases comparison with
      | gt =>
          exact absurd misplaced (Instant.not_misplacesBehind plainBound plain)
      | gte =>
          have inside :=
            (Instant.misplacesBefore_iff plainBound plain).mp misplaced
          exact .inl ⟨instant, isBound, inside⟩
    · have plainBound := avoids.2 comparison instant isBound
      cases comparison with
      | lt =>
          have inside :=
            (Instant.misplacesBefore_iff plainBound plain).mp misplaced
          exact .inr ⟨instant, isBound, inside⟩
      | lte =>
          exact absurd misplaced (Instant.not_misplacesBehind plainBound plain)
  · rintro (⟨instant, isBound, inside⟩ | ⟨instant, isBound, inside⟩)
    · have misplaced :=
        (Instant.misplacesBefore_iff (avoids.1 _ _ isBound) plain).mpr inside
      exact .inl ⟨_, isBound, instant, rfl, misplaced⟩
    · have misplaced :=
        (Instant.misplacesBefore_iff (avoids.2 _ _ isBound) plain).mpr inside
      exact .inr ⟨_, isBound, instant, rfl, misplaced⟩

/-- A range of instants includes an instant on a whole millisecond exactly if
its document admits the count of milliseconds of the instant, unless a bound
misplaces the instant. Outside of leap seconds these are the instants whose
millisecond is divided by a bound that stands before its own instant. -/
theorem includes_iff_admitsMilliseconds
    (isDate : range.fieldType = .date)
    (isRange : range.IsOf)
    (whole : t.nanos % 1000000 = 0) :
    (¬range.Misplaces t →
      (range.includes (.date t) = true ↔
        (Leaf.range range).document.AdmitsMilliseconds range.field
          t.milliseconds)) ∧
    (range.AvoidsLeapSeconds → t.nanos < Instant.leap →
      (range.Misplaces t ↔ range.Divides t)) := by
  refine ⟨fun placed => ?_, misplaces_iff_divides⟩
  obtain ⟨placedLower, placedUpper⟩ := not_or.mp placed
  have lower : ∀ bound ∈ range.lower, Sided.Places bound t :=
    fun bound isLower =>
    LowerBound.places_of_not_misplaces whole fun misplaced =>
      placedLower ⟨bound, isLower, misplaced⟩
  have upper : ∀ bound ∈ range.upper, Sided.Places bound t :=
    fun bound isUpper =>
    UpperBound.places_of_not_misplaces whole fun misplaced =>
      placedUpper ⟨bound, isUpper, misplaced⟩
  rw [admitsMilliseconds_document_iff isDate, includes_eq,
    Bool.and_eq_true, isDate,
    Sided.all_admits_iff (isDate ▸ isRange.lower) lower,
    Sided.all_admits_iff (isDate ▸ isRange.upper) upper]
  simp only [Sided.direction, Direction.Before, not_lt]

theorem includes_iff_admitsMilliseconds_created :
    (Leaf.range ⟨⟨"created", ⟨.date, false⟩, .one, false⟩,
      some ⟨.gt, .date ⟨1704067200, 500000⟩⟩, none, none,
      none⟩).document.AdmitsMilliseconds
        "created" 1704067200001 := by
  have isRange : IsOf ⟨⟨"created", ⟨.date, false⟩, .one, false⟩,
      some ⟨.gt, .date ⟨1704067200, 500000⟩⟩, none, none, none⟩ := by
    refine ⟨?_, UpperBound.isOf_none _⟩
    rintro _ ⟨⟩
    rfl
  obtain ⟨agrees, misplaces⟩ :=
    includes_iff_admitsMilliseconds (t := ⟨1704067200, 1000000⟩) rfl isRange
      (by decide)
  have avoids : AvoidsLeapSeconds ⟨⟨"created", ⟨.date, false⟩, .one, false⟩,
      some ⟨.gt, .date ⟨1704067200, 500000⟩⟩, none, none, none⟩ := by
    refine ⟨?_, by rintro _ _ ⟨⟩⟩
    rintro _ _ ⟨⟩
    decide
  refine (agrees fun misplaced => ?_).mp (by decide)
  rcases (misplaces avoids (by decide)).mp misplaced with
    ⟨_, ⟨⟩, _⟩ | ⟨_, ⟨⟩, _⟩

/-- A range from half a millisecond on does not include the beginning of the
millisecond, but its document admits the count of it. -/
theorem exists_admitsMilliseconds_of_not_includes :
    ∃ (range : Range) (bound : Value) (t : Instant), range.fieldType = .date ∧
      Value.read .date "2024-01-01T00:00:00.0005Z" = .ok bound ∧
      range.lower = some ⟨.gte, bound⟩ ∧ range.upper = none ∧
        t.nanos % 1000000 = 0 ∧
      range.includes (.date t) = false ∧
      (Leaf.range range).document.AdmitsMilliseconds range.field
        t.milliseconds := by
  refine ⟨⟨⟨"created", ⟨.date, false⟩, .one, false⟩,
    some ⟨.gte, .date ⟨1704067200, 500000⟩⟩, none, none, none⟩, _, ⟨1704067200,
    0⟩, rfl, ?_, rfl, rfl, rfl, rfl,
    (admitsMilliseconds_document_iff rfl _).mpr ?_⟩
  · rfl
  · simp [Sided.shown, Sided.isInclusive, Sided.value,
      LowerComparison.isInclusive, Option.filter_some, Value.toJson]
    decide

end Range
end SearchQuery
