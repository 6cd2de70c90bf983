import SearchQuery.Leaf.Document
import SearchQuery.Proofs.Agreement
import SearchQuery.Proofs.MergeSymmetry

/-!
# What documents show of leaves

Documents are compared as JSON values, where the members of an object have no
order. The document of a leaf shows its kind, its field, what it asks for, its
weight and its options. Two leaves have the same document exactly if they agree
in all of it, except that the weight of a value set on a field named `boost`
takes the place of its values.
-/

namespace SearchQuery

namespace Json

/-- The members with the given keys and contents, where a key without content is
left out. -/
def record (rows : List (String × Option Json)) : List (String × Json) :=
  rows.flatMap fun row => optionalMember row.1 row.2

/-- Two contents are the same, or both are missing. -/
def Alike : Option Json → Option Json → Prop :=
  Option.Rel fun x y => x.same y = true

@[simp] theorem same_bool_iff (a b : Bool) :
    (bool a).same (bool b) = true ↔ a = b := by
  rw [same, beq_iff_eq]

@[simp] theorem same_int_iff (a b : Int) :
    (int a).same (int b) = true ↔ a = b := by
  rw [same, beq_iff_eq]

@[simp] theorem same_str_iff (a b : String) :
    (str a).same (str b) = true ↔ a = b := by
  rw [same, beq_iff_eq]

@[simp] theorem same_arr_iff (a b : List Json) :
    (arr a).same (arr b) = true ↔
      List.Forall₂ (fun x y => x.same y = true) a b := by
  rw [same]
  induction a generalizing b with
  | nil => cases b <;> simp [sameItems]
  | cons first rest hypothesis => cases b <;> simp [sameItems, hypothesis]

@[simp] theorem same_single_iff (a b : String) (x y : Json) :
    (obj [(a, x)]).same (obj [(b, y)]) = true ↔ a = b ∧ x.same y = true := by
  by_cases key : a = b
  · simp [same, sameMembers, key]
  · simp [same, sameMembers, List.lookup_cons, beq_false_of_ne key, key]

theorem same_obj_of_length_ne
    {a b : List (String × Json)}
    (length : a.length ≠ b.length) :
    (obj a).same (obj b) = false := by
  rw [same, beq_false_of_ne length, Bool.false_and]

@[simp] theorem alike_some_iff (x y : Json) :
    Alike (some x) (some y) ↔ x.same y = true :=
  Option.rel_some_some

@[simp] theorem alike_none_iff (x : Option Json) : Alike none x ↔ x = none := by
  cases x <;> simp [Alike]

/-- Contents that may be missing are alike if what they are written from is the
same. -/
theorem alike_map_iff
    {α : Type}
    {write : α → Json}
    (faithful : ∀ x y, (write x).same (write y) = true ↔ x = y)
    (a b : Option α) :
    Alike (a.map write) (b.map write) ↔ a = b := by
  cases a with
  | none => cases b <;> simp
  | some x => cases b <;> simp [Alike, faithful]

theorem record_cons (key : String) (content : Option Json)
    (rows : List (String × Option Json)) :
    record ((key, content) :: rows) =
      optionalMember key content ++ record rows :=
  rfl

/-- A key that no row has is not found. -/
theorem lookup_record_of_notMem
    {key : String}
    {rows : List (String × Option Json)}
    (absent : key ∉ rows.map Prod.fst) :
    (record rows).lookup key = none := by
  induction rows with
  | nil => rfl
  | cons row rest hypothesis =>
      obtain ⟨other, content⟩ := row
      obtain ⟨differs, absent⟩ := not_or.mp (mt List.mem_cons.mpr absent)
      rw [record_cons, List.lookup_append, hypothesis absent, Option.or_none]
      cases content <;>
        simp [optionalMember, List.lookup_cons, beq_false_of_ne differs]

/-- Under the key of a row stands its content. -/
theorem lookup_record
    {rows : List (String × Option Json)}
    (distinct : (rows.map Prod.fst).Nodup) :
    ∀ row ∈ rows, (record rows).lookup row.1 = row.2 := by
  induction rows with
  | nil => exact List.forall_mem_nil _
  | cons first rest hypothesis =>
      obtain ⟨key, content⟩ := first
      obtain ⟨absent, distinctRest⟩ := List.nodup_cons.mp distinct
      rw [List.forall_mem_cons]
      constructor
      · rw [record_cons, List.lookup_append, lookup_record_of_notMem absent,
          Option.or_none]
        cases content <;> simp [optionalMember]
      · intro row isRow
        have differs : row.1 ≠ key := by
          rintro rfl
          exact absent (List.mem_map.mpr ⟨row, isRow, rfl⟩)
        rw [record_cons, List.lookup_append, hypothesis distinctRest row isRow]
        cases content <;>
          simp [optionalMember, List.lookup_cons, beq_false_of_ne differs]

/-- Every content that is there has the same one opposite it. -/
def Covers (a b : String × Option Json) : Prop :=
  ∀ x ∈ a.2, ∃ y ∈ b.2, x.same y = true

/-- Among other members the members of a record are found if these cover its
rows. -/
theorem sameMembers_record_iff
    {a b : List (String × Option Json)}
    {others : List (String × Json)}
    (keys : a.map Prod.fst = b.map Prod.fst)
    (found : ∀ row ∈ b, others.lookup row.1 = row.2) :
    sameMembers (record a) others = true ↔ List.Forall₂ Covers a b := by
  induction a generalizing b with
  | nil =>
      rw [List.map_nil, eq_comm, List.map_eq_nil_iff] at keys
      simp [keys, record, sameMembers]
  | cons first rest hypothesis =>
      cases b with
      | nil => cases keys
      | cons second rest' =>
          obtain ⟨name, content⟩ := first
          obtain ⟨name', content'⟩ := second
          obtain ⟨rfl, keysRest⟩ := List.cons_eq_cons.mp keys
          obtain ⟨found, foundRest⟩ := List.forall_mem_cons.mp found
          rw [List.forall₂_cons, ← hypothesis keysRest foundRest, record_cons]
          cases content with
          | none => simp [optionalMember, Covers]
          | some x => cases content' <;>
              simp [optionalMember, sameMembers, found, Covers]

/-- A record that covers another has no more members, and as many only if the
contents are alike. -/
theorem length_record_of_covers
    {a b : List (String × Option Json)}
    (covers : List.Forall₂ Covers a b) :
    (record a).length ≤ (record b).length ∧
      ((record a).length = (record b).length ↔
        List.Forall₂ (fun x y => Alike x.2 y.2) a b) := by
  induction covers with
  | nil => simp [record]
  | @cons first second rest rest' covers _ hypothesis =>
      obtain ⟨key, content⟩ := first
      obtain ⟨key', content'⟩ := second
      obtain ⟨atMost, hypothesis⟩ := hypothesis
      rw [record_cons, record_cons, List.forall₂_cons, ← hypothesis,
        List.length_append, List.length_append]
      cases content with
      | none => cases content' <;> simp [optionalMember] <;> omega
      | some x =>
          obtain ⟨y, rfl, alike⟩ := covers x rfl
          simp [optionalMember, atMost, alike]

/-- Records with the same keys are the same objects exactly if their contents
are alike. -/
theorem same_record_iff
    {a b : List (String × Option Json)}
    (keys : a.map Prod.fst = b.map Prod.fst)
    (distinct : (b.map Prod.fst).Nodup) :
    (obj (record a)).same (obj (record b)) = true ↔
      List.Forall₂ (fun x y => Alike x.2 y.2) a b := by
  rw [same, Bool.and_eq_true, beq_iff_eq,
    sameMembers_record_iff keys (lookup_record distinct)]
  constructor
  · rintro ⟨length, covers⟩
    exact (length_record_of_covers covers).2.mp length
  · intro alike
    have covers : List.Forall₂ Covers a b := by
      refine alike.imp fun x y alike v isContent => ?_
      rw [Option.mem_def] at isContent
      rw [isContent] at alike
      cases content : y.2 with
      | none => rw [content] at alike; cases alike
      | some w => exact ⟨w, rfl, (alike_some_iff v w).mp (content ▸ alike)⟩
    exact ⟨(length_record_of_covers covers).2.mpr alike, covers⟩

end Json

namespace Value

/-- The value is an integer, a truth value or a text. -/
def IsPlain : Value → Prop
  | .int _ | .bool _ | .str _ => True
  | _ => False

theorem same_toJson_iff {a b : Value} (plainA : a.IsPlain)
    (plainB : b.IsPlain) :
    a.toJson.same b.toJson = true ↔ a = b := by
  cases a <;> cases plainA <;> cases b <;> cases plainB <;>
    simp [toJson, Json.same, Int64.toInt_inj]

/-- Lists of plain values are written the same only if they are equal. -/
theorem forall₂_same_toJson_iff
    {a b : List Value}
    (plainA : ∀ value ∈ a, value.IsPlain)
    (plainB : ∀ value ∈ b, value.IsPlain) :
    List.Forall₂ (fun x y => x.same y = true) (a.map toJson) (b.map toJson) ↔
      a = b := by
  induction a generalizing b with
  | nil => cases b <;> simp
  | cons first rest hypothesis =>
      cases b with
      | nil => simp
      | cons second rest' =>
          obtain ⟨plainA, plainRest⟩ := List.forall_mem_cons.mp plainA
          obtain ⟨plainB, plainRest'⟩ := List.forall_mem_cons.mp plainB
          rw [List.map_cons, List.map_cons, List.forall₂_cons,
            hypothesis plainRest plainRest', same_toJson_iff plainA plainB,
            List.cons.injEq]

end Value

theorem Json.same_ofBinary64_iff
    {a b : Binary64}
    (finiteA : a.isFinite = true)
    (finiteB : b.isFinite = true) :
    (Json.ofBinary64 a).same (.ofBinary64 b) = true ↔ a.equals b = true := by
  rw [ofBinary64, if_pos finiteA, ofBinary64, if_pos finiteB, same]

/-- Two numerals with a comma between them can be told apart. -/
theorem numerals_inj (low high low' high' : Nat) :
    Nat.toDigits 10 low ++ ',' :: Nat.toDigits 10 high =
        Nat.toDigits 10 low' ++ ',' :: Nat.toDigits 10 high' ↔
      low = low' ∧ high = high' := by
  have absent : ∀ n : Nat, ',' ∉ Nat.toDigits 10 n := by
    intro n isDigit
    exact absurd (Nat.isDigit_of_mem_toDigits (by decide) (by decide) isDigit)
      (by decide)
  have injective : Function.Injective (Nat.toDigits 10) :=
    Function.LeftInverse.injective
      (g := fun digits => Nat.ofDigitChars 10 digits 0) fun _ =>
      Nat.ofDigitChars_toDigits (by decide) (by decide)
  rw [List.append_cons_inj_of_notMem (absent low) (absent high),
    injective.eq_iff, injective.eq_iff, eq_self, true_and]

/-- Allowances of edits are written the same only if they are equal. -/
theorem Fuzziness.same_toJson_iff (a b : Fuzziness) :
    a.toJson.same b.toJson = true ↔ a = b := by
  cases a with
  | distance edits =>
      cases b with
      | distance edits' =>
          rw [toJson, toJson, Json.same_int_iff, Int.natCast_inj,
            UInt8.toNat_inj,
          distance.injEq]
      | auto low high => simp [toJson, Json.same]
  | auto low high =>
      cases b with
      | distance edits => simp [toJson, Json.same]
      | auto low' high' =>
          rw [toJson, toJson, Json.same_str_iff, ← String.toList_inj,
            auto.injEq, ← UInt8.toNat_inj, ← UInt8.toNat_inj,
            ← numerals_inj low.toNat]
          simp

namespace Leaf

/-- The values that a leaf asks for or is bounded by are integers, truth values
or texts. -/
def HasPlainValues : Leaf → Prop
  | .term content => content.value.IsPlain
  | .valueSet content => ∀ value ∈ content.values, value.IsPlain
  | .range content =>
      (∀ bound ∈ content.lower, bound.value.IsPlain) ∧ ∀ bound ∈ content.upper,
        bound.value.IsPlain
  | _ => True

/-- Two leaves of one form agree in all that documents show of it. The values of
a set on a field named `boost` are not shown. -/
def Resembles : Leaf → Leaf → Prop
  | .term a, .term b =>
      a.field = b.field ∧ a.value = b.value ∧ a.boost.equals b.boost = true
  | .valueSet a, .valueSet b =>
      a.field = b.field ∧ (a.field ≠ "boost" → a.values = b.values) ∧
        a.boost.equals b.boost = true
  | .range a, .range b =>
      a.field = b.field ∧ a.lower = b.lower ∧ a.upper = b.upper ∧
        a.boost.equals b.boost = true ∧
        a.relation = b.relation ∧ a.timeZone = b.timeZone ∧
        (a.fieldType.family = .date ↔ b.fieldType.family = .date)
  | .fullText a, .fullText b =>
      a.field = b.field ∧ a.query = b.query ∧ a.boost.equals b.boost = true ∧
        a.analyzer = b.analyzer ∧ a.operator = b.operator ∧
          a.fuzziness = b.fuzziness ∧
        a.maxExpansions = b.maxExpansions
  | .phrase a, .phrase b =>
      a.field = b.field ∧ a.phrase = b.phrase ∧ a.boost.equals b.boost = true ∧
        a.analyzer = b.analyzer ∧ a.slop = b.slop ∧ a.maxExpansions =
          b.maxExpansions
  | .pattern a, .pattern b =>
      a.field = b.field ∧ a.matcher = b.matcher ∧
        a.boost.equals b.boost = true ∧
        a.rewrite = b.rewrite
  | .presence a, .presence b => a.field = b.field
  | .ids a, .ids b => a.values = b.values
  | .queryText a, .queryText b =>
      a.query = b.query ∧ a.defaultField = b.defaultField ∧
        a.boost.equals b.boost = true
  | .everything a, .everything b => a.equals b = true
  | .nothing, .nothing => True
  | _, _ => False

end Leaf

section Sides

variable {Bound : Type} [Sided Bound]

/-- The value of a bound under the name of the comparison that admits it, or of
the other one. -/
def Sided.shown (inclusive : Bool) (bound : Option Bound) : Option Json :=
  (bound.filter (isInclusive · = inclusive)).map (value · |>.toJson)

/-- Bounds of one side are shown alike under both comparisons only if they are
equal. -/
theorem Sided.alike_shown_iff
    {a b : Option Bound}
    (plainA : ∀ bound ∈ a, (value bound).IsPlain)
    (plainB : ∀ bound ∈ b, (value bound).IsPlain) :
    Json.Alike (shown false a) (shown false b) ∧
      Json.Alike (shown true a) (shown true b) ↔
      a = b := by
  cases a with
  | none =>
      cases b with
      | none => simp [shown]
      | some b => cases isB : isInclusive b <;>
          simp [shown, Option.filter_some, isB]
  | some a =>
      cases b with
      | none => cases isA : isInclusive a <;>
          simp [shown, Option.filter_some, isA, Json.Alike]
      | some b =>
          have same := Value.same_toJson_iff (plainA a rfl) (plainB b rfl)
          have equal : a = b ↔ isInclusive a = isInclusive b ∧
              value a = value b :=
            ⟨fun equal => by
              simp [equal], fun both => eq_of_alike both.1 both.2⟩
          cases isA : isInclusive a <;> cases isB : isInclusive b <;>
            simp [shown, Option.filter_some, isA, isB, Json.Alike, same, equal]

end Sides

/-- Documents with one field are the same if their kinds, their fields and all
their rows are. -/
theorem same_fieldDocument_iff
    {kind kind' field field' : String}
    {rows rows' : List (String × Option Json)}
    (keys : rows.map Prod.fst = rows'.map Prod.fst)
    (distinct : (rows'.map Prod.fst).Nodup) :
    (fieldDocument kind field (Json.record rows)).same
        (fieldDocument kind' field' (Json.record rows')) = true ↔
      kind = kind' ∧ field = field' ∧
        List.Forall₂ (fun x y => Json.Alike x.2 y.2) rows rows' := by
  rw [fieldDocument, fieldDocument, Json.same_single_iff, Json.same_single_iff,
    Json.same_record_iff keys distinct]

/-- The rows of a document of a range. -/
def Range.rows (range : Range) : List (String × Option Json) :=
  [("gt", Sided.shown false range.lower), ("gte", Sided.shown true range.lower),
    ("lt", Sided.shown false range.upper),
    ("lte", Sided.shown true range.upper),
    ("boost", some (.ofBinary64 range.boost)),
    ("relation", range.relation.map .str),
    ("format", if range.fieldType.family = .date then some (.str "epoch_millis")
      else none), ("time_zone", range.timeZone.map .str)]

theorem Range.document_eq (range : Range) :
    (Leaf.range range).document =
      fieldDocument "range" range.field (Json.record range.rows) := by
  obtain ⟨scope, lower, upper, relation, timeZone⟩ := range
  by_cases isDate : scope.type.fieldType.family = .date <;>
    rcases lower with - | ⟨- | -, lower⟩ <;>
      rcases upper with - | ⟨- | -, upper⟩ <;>
      simp [Leaf.document, rows, Json.record, fieldType, isDate, optionalMember,
        Scope.boostMember, LowerComparison.name, UpperComparison.name,
        LowerComparison.isInclusive, UpperComparison.isInclusive, Sided.shown,
        Sided.isInclusive, Sided.value, Option.filter_some]

/-- The rows of a document of words. -/
def FullText.rows (text : FullText) : List (String × Option Json) :=
  [("query", some (.str text.query)), ("boost", some (.ofBinary64 text.boost)),
    ("analyzer", text.analyzer.map .str),
    ("operator", text.operator.map fun operator => .str operator.name),
    ("fuzziness", text.fuzziness.map Fuzziness.toJson),
    ("max_expansions", text.maxExpansions.map fun n : Nat => .int n)]

theorem FullText.document_eq (text : FullText) :
    (Leaf.fullText text).document =
      fieldDocument "match" text.field (Json.record text.rows) := by
  obtain ⟨scope, query, analyzer, operator, fuzziness, maxExpansions⟩ := text
  cases maxExpansions <;>
    simp [Leaf.document, rows, Json.record, optionalMember, Scope.boostMember]

/-- The rows of a document of a phrase. -/
def Phrase.rows (phrase : Phrase) : List (String × Option Json) :=
  [("query", some (.str phrase.phrase)),
    ("boost", some (.ofBinary64 phrase.boost)),
    ("analyzer", phrase.analyzer.map .str),
    ("slop", phrase.slop.map fun n : Nat => .int n),
    ("max_expansions", phrase.maxExpansions.map fun n : Nat => .int n)]

theorem Phrase.document_eq (phrase : Phrase) :
    (Leaf.phrase phrase).document =
      fieldDocument phrase.kind phrase.field (Json.record phrase.rows) := by
  obtain ⟨scope, openEnded, phrase, analyzer, slop, maxExpansions⟩ := phrase
  cases slop <;> cases maxExpansions <;>
    simp [Leaf.document, rows, Json.record, optionalMember, Scope.boostMember]

theorem Matcher.kind_mem (matcher : Matcher) :
    matcher.kind ∈ ["prefix", "wildcard", "regexp", "fuzzy"] := by
  cases matcher <;> simp [kind]

/-- The word whose neighbours a matcher describes. -/
def Matcher.near? : Matcher → Option NearWord
  | .near word => some word
  | _ => none

/-- The rows of a document of a pattern. -/
def Pattern.rows (pattern : Pattern) : List (String × Option Json) :=
  let near := pattern.matcher.near?
  [("value", some (.str pattern.matcher.text)),
    ("boost", some (.ofBinary64 pattern.boost)),
    ("fuzziness", near.map (·.fuzziness.toJson)),
    ("prefix_length", near.map fun near => .int near.prefixLength),
    ("max_expansions", near.map fun near => .int near.maxExpansions),
    ("transpositions", near.map (.bool ·.transpositions)),
    ("rewrite", pattern.rewrite.map .str)]

theorem Pattern.document_eq (pattern : Pattern) :
    (Leaf.pattern pattern).document =
      fieldDocument pattern.matcher.kind pattern.field
        (Json.record pattern.rows) := by
  obtain ⟨scope, matcher, rewrite⟩ := pattern
  cases matcher <;>
    simp [Leaf.document, rows, Json.record, optionalMember, Scope.boostMember,
      Matcher.near?, Leaf.matcherMembers, Leaf.nearMembers]

namespace Leaf

theorem same_natCast_iff (x y : Nat) :
    (Json.int x).same (.int y) = true ↔ x = y := by
  rw [Json.same_int_iff, Int.natCast_inj]

theorem same_document_term_iff
    {a b : Term}
    (finiteA : a.boost.isFinite = true)
    (finiteB : b.boost.isFinite = true)
    (plainA : a.value.IsPlain)
    (plainB : b.value.IsPlain) :
    (term a).document.same (term b).document = true ↔
      (term a).Resembles (term b) := by
  let rows (content : Term) : List (String × Option Json) :=
    [("value", some content.value.toJson),
      ("boost", some (.ofBinary64 content.boost))]
  have keys : (rows a).map Prod.fst = (rows b).map Prod.fst := rfl
  refine (same_fieldDocument_iff keys (by simp [rows])).trans ?_
  simp [rows, Resembles, Json.same_ofBinary64_iff finiteA finiteB,
    Value.same_toJson_iff plainA plainB]

theorem document_valueSet_of_eq_boost {content : ValueSet}
    (isBoost : content.field = "boost") :
    (valueSet content).document =
      .obj [("terms", .obj [("boost", .ofBinary64 content.boost)])] := by
  simp [document, Json.ofMembers, Json.insertMember, Scope.boostMember, isBoost]

theorem document_valueSet_of_ne_boost {content : ValueSet}
    (notBoost : content.field ≠ "boost") :
    (valueSet content).document =
      .obj [("terms",
        .obj [(content.field, .arr (content.values.map Value.toJson)),
        ("boost", .ofBinary64 content.boost)])] := by
  simp [document, Json.ofMembers, Json.insertMember,
    Scope.boostMember, notBoost]

theorem same_document_valueSet_iff
    {a b : ValueSet}
    (finiteA : a.boost.isFinite = true)
    (finiteB : b.boost.isFinite = true)
    (plainA : ∀ value ∈ a.values, value.IsPlain)
    (plainB : ∀ value ∈ b.values, value.IsPlain) :
    (valueSet a).document.same (valueSet b).document = true ↔
      (valueSet a).Resembles (valueSet b) := by
  have boost := Json.same_ofBinary64_iff finiteA finiteB
  have values := Value.forall₂_same_toJson_iff plainA plainB
  rw [Resembles]
  by_cases loseA : a.field = "boost"
  · by_cases loseB : b.field = "boost"
    · simp [document_valueSet_of_eq_boost, loseA, loseB, boost]
    · rw [document_valueSet_of_eq_boost loseA,
        document_valueSet_of_ne_boost loseB, Json.same_single_iff,
        Json.same_obj_of_length_ne (by simp)]
      simp [loseA, Ne.symm loseB]
  · by_cases loseB : b.field = "boost"
    · rw [document_valueSet_of_ne_boost loseA,
        document_valueSet_of_eq_boost loseB, Json.same_single_iff,
        Json.same_obj_of_length_ne (by simp)]
      simp [loseA, loseB]
    · rw [document_valueSet_of_ne_boost loseA,
        document_valueSet_of_ne_boost loseB, Json.same_single_iff]
      by_cases fields : a.field = b.field
      · let rows (content : ValueSet) : List (String × Option Json) :=
          [(b.field, some (.arr (content.values.map Value.toJson))),
            ("boost", some (.ofBinary64 content.boost))]
        have keys : (rows a).map Prod.fst = (rows b).map Prod.fst := rfl
        have same := Json.same_record_iff keys (by simp [rows, loseB])
        simp only [rows, List.forall₂_cons, Json.alike_some_iff,
          Json.same_arr_iff, values, boost] at same
        rw [fields]
        exact (and_congr_right fun _ => same).trans (by simp [loseB])
      · have absent : ([(b.field, Json.arr (b.values.map Value.toJson)),
            ("boost", .ofBinary64 b.boost)] :
              List (String × Json)).lookup a.field = none := by
          simp [List.lookup_cons, beq_false_of_ne fields, beq_false_of_ne loseA]
        simp [Json.same, Json.sameMembers, absent, fields]

theorem same_document_range_iff
    {a b : Range}
    (finiteA : a.boost.isFinite = true)
    (finiteB : b.boost.isFinite = true)
    (plainA : (range a).HasPlainValues)
    (plainB : (range b).HasPlainValues) :
    (range a).document.same (range b).document = true ↔
      (range a).Resembles (range b) := by
  have lower := Sided.alike_shown_iff plainA.1 plainB.1
  have upper := Sided.alike_shown_iff plainA.2 plainB.2
  have format : ∀ p q : Prop, [Decidable p] → [Decidable q] →
      (Json.Alike (if p then some (.str "epoch_millis") else none)
        (if q then some (.str "epoch_millis") else none) ↔ (p ↔ q)) := by
    intro p q _ _
    by_cases p <;> by_cases q <;> simp [*, Json.Alike]
  have keys : a.rows.map Prod.fst = b.rows.map Prod.fst := rfl
  rw [Range.document_eq, Range.document_eq,
    same_fieldDocument_iff keys (by simp [Range.rows])]
  simp only [Range.rows, List.forall₂_cons, Resembles, Json.alike_some_iff,
    Json.same_ofBinary64_iff finiteA finiteB,
    Json.alike_map_iff Json.same_str_iff, format, ← lower, ← upper]
  tauto

theorem same_document_fullText_iff
    {a b : FullText}
    (finiteA : a.boost.isFinite = true)
    (finiteB : b.boost.isFinite = true) :
    (fullText a).document.same (fullText b).document = true ↔
      (fullText a).Resembles (fullText b) := by
  have operator : ∀ x y : WordOperator,
      (Json.str x.name).same (.str y.name) = true ↔ x = y := by
    intro x y
    cases x <;> cases y <;> simp [WordOperator.name]
  have keys : a.rows.map Prod.fst = b.rows.map Prod.fst := rfl
  rw [FullText.document_eq, FullText.document_eq,
    same_fieldDocument_iff keys (by simp [FullText.rows])]
  simp [FullText.rows, Resembles, Json.same_ofBinary64_iff finiteA finiteB,
    Json.alike_map_iff Json.same_str_iff,
    Json.alike_map_iff Fuzziness.same_toJson_iff, Json.alike_map_iff operator,
    Json.alike_map_iff same_natCast_iff]

theorem same_document_phrase_iff
    {a b : Phrase}
    (finiteA : a.boost.isFinite = true)
    (finiteB : b.boost.isFinite = true) :
    (phrase a).document.same (phrase b).document = true ↔
      a.kind = b.kind ∧ (phrase a).Resembles (phrase b) := by
  have keys : a.rows.map Prod.fst = b.rows.map Prod.fst := rfl
  rw [Phrase.document_eq, Phrase.document_eq,
    same_fieldDocument_iff keys (by simp [Phrase.rows])]
  simp [Phrase.rows, Resembles, Json.same_ofBinary64_iff finiteA finiteB,
    Json.alike_map_iff Json.same_str_iff, Json.alike_map_iff same_natCast_iff]

theorem same_document_pattern_iff
    {a b : Pattern}
    (finiteA : a.boost.isFinite = true)
    (finiteB : b.boost.isFinite = true) :
    (pattern a).document.same (pattern b).document = true ↔
      a.matcher.kind = b.matcher.kind ∧ (pattern a).Resembles (pattern b) := by
  have boost := Json.same_ofBinary64_iff finiteA finiteB
  have keys : a.rows.map Prod.fst = b.rows.map Prod.fst := rfl
  rw [Pattern.document_eq, Pattern.document_eq,
    same_fieldDocument_iff keys (by simp [Pattern.rows])]
  simp only [Pattern.rows, List.forall₂_cons, Resembles,
    Json.alike_some_iff, boost, Json.alike_map_iff Json.same_str_iff]
  cases matcherA : a.matcher with
  | near nearA =>
      cases matcherB : b.matcher with
      | near nearB =>
          obtain ⟨word, fuzziness, prefixLength, maxExpansions,
              transpositions⟩ := nearA
          obtain ⟨word', fuzziness', prefixLength', maxExpansions',
              transpositions'⟩ := nearB
          simp only [Matcher.near?, Matcher.text, Matcher.kind, Option.map_some,
            Json.alike_some_iff, Json.same_str_iff, Json.same_bool_iff,
            same_natCast_iff, Fuzziness.same_toJson_iff,
            List.forall₂_nil_left_iff, Matcher.near.injEq, NearWord.mk.injEq]
          tauto
      | _ => simp [Matcher.kind]
  | _ => cases matcherB : b.matcher <;>
      simp [Matcher.near?, Matcher.text, Matcher.kind]

theorem same_document_queryText_iff
    {a b : QueryText}
    (finiteA : a.boost.isFinite = true)
    (finiteB : b.boost.isFinite = true) :
    (queryText a).document.same (queryText b).document = true ↔
      (queryText a).Resembles (queryText b) := by
  let rows (content : QueryText) : List (String × Option Json) :=
    [("query", some (.str content.query)),
      ("default_field", content.defaultField.map .str),
      ("boost", some (.ofBinary64 content.boost))]
  have document_eq : ∀ content, (queryText content).document =
      .obj [("query_string", .obj (Json.record (rows content)))] :=
        fun content => by
    simp [document, rows, Json.record, optionalMember, Scope.boostMember]
  have keys : (rows a).map Prod.fst = (rows b).map Prod.fst := rfl
  rw [document_eq, document_eq, Json.same_single_iff,
    Json.same_record_iff keys (by simp [rows])]
  simp [rows, Resembles, Json.same_ofBinary64_iff finiteA finiteB,
    Json.alike_map_iff Json.same_str_iff]

theorem same_document_everything_iff
    {a b : Binary64}
    (finiteA : a.isFinite = true)
    (finiteB : b.isFinite = true) :
    (everything a).document.same (everything b).document = true ↔
      (everything a).Resembles (everything b) := by
  have boost := Json.same_ofBinary64_iff finiteA finiteB
  rw [document, document, Json.same_single_iff, Resembles]
  by_cases oneA : a.equals .one = true <;> by_cases oneB : b.equals .one = true
  · simp [oneA, oneB, Binary64.equals_of_equals oneA oneB, Json.same,
      Json.sameMembers]
  · have differ : ¬ a.equals b = true := fun equal =>
      oneB (Binary64.equals_of_equals (Binary64.equals_comm b a ▸ equal)
        (Binary64.equals_comm .one a ▸ oneA))
    simp [oneA, oneB, differ, Json.same_obj_of_length_ne]
  · have differ : ¬ a.equals b = true := fun equal =>
      oneA (Binary64.equals_of_equals equal
        (Binary64.equals_comm .one b ▸ oneB))
    simp [oneA, oneB, differ, Json.same_obj_of_length_ne]
  · simp [oneA, oneB, Scope.boostMember, boost]

theorem same_document_ids_iff (a b : IdSet) :
    (ids a).document.same (ids b).document = true ↔
      (ids a).Resembles (ids b) := by
  rw [document, document, Resembles, Json.same_single_iff, Json.same_single_iff,
    Json.same_arr_iff, List.forall₂_map_left_iff, List.forall₂_map_right_iff]
  simp only [Json.same_str_iff, true_and, List.forall₂_eq_eq_eq]

theorem same_document_presence_iff (a b : Presence) :
    (presence a).document.same (presence b).document = true ↔
      (presence a).Resembles (presence b) := by
  rw [document, document, Resembles, Json.same_single_iff, Json.same_single_iff,
    Json.same_str_iff]
  simp only [true_and]

theorem document_eq_single {leaf : Leaf} (something : leaf.isNothing = false) :
    ∃ content, leaf.document = .obj [(leaf.kind, content)] := by
  cases leaf <;> first | exact ⟨_, rfl⟩ | cases something

/-- Documents tell the kinds of their leaves. -/
theorem kind_eq_of_same_document
    {a b : Leaf}
    (same : a.document.same b.document = true) :
    a.kind = b.kind := by
  cases nothingA : a.isNothing with
  | false =>
      obtain ⟨contentA, documentA⟩ := document_eq_single nothingA
      cases nothingB : b.isNothing with
      | false =>
          obtain ⟨contentB, documentB⟩ := document_eq_single nothingB
          rw [documentA, documentB, Json.same_single_iff] at same
          exact same.1
      | true =>
          cases b <;> cases nothingB
          rw [documentA, document, Json.same_obj_of_length_ne (by simp)] at same
          cases same
  | true =>
      cases a <;> cases nothingA
      cases nothingB : b.isNothing with
      | false =>
          obtain ⟨contentB, documentB⟩ := document_eq_single nothingB
          rw [documentB, document, Json.same_obj_of_length_ne (by simp)] at same
          cases same
      | true => cases b <;> cases nothingB; rfl

/-- Two leaves with conditions of the same form. -/
inductive SameForm : Leaf → Leaf → Prop
  | term (a b : Term) : SameForm (.term a) (.term b)
  | valueSet (a b : ValueSet) : SameForm (.valueSet a) (.valueSet b)
  | range (a b : Range) : SameForm (.range a) (.range b)
  | fullText (a b : FullText) : SameForm (.fullText a) (.fullText b)
  | phrase (a b : Phrase) : SameForm (.phrase a) (.phrase b)
  | pattern (a b : Pattern) : SameForm (.pattern a) (.pattern b)
  | presence (a b : Presence) : SameForm (.presence a) (.presence b)
  | ids (a b : IdSet) : SameForm (.ids a) (.ids b)
  | queryText (a b : QueryText) : SameForm (.queryText a) (.queryText b)
  | everything (a b : Binary64) : SameForm (.everything a) (.everything b)
  | nothing : SameForm .nothing .nothing

theorem sameForm_of_kind_eq {a b : Leaf} (kinds : a.kind = b.kind) :
    SameForm a b := by
  cases a <;> cases b <;>
    first
    | constructor
    | exact absurd kinds (by grind [kind, Phrase.kind, Matcher.kind_mem])

/-- Two leaves with finite weights and plain values have the same document
exactly if they are of one kind and agree in the field, in what they ask for, in
the weight and in all options. Only the values of sets on a field named `boost`
may differ. -/
theorem same_document_iff_resembles
    {a b : Leaf}
    (finiteA : a.boost.isFinite = true)
    (finiteB : b.boost.isFinite = true)
    (plainA : a.HasPlainValues)
    (plainB : b.HasPlainValues) :
    a.document.same b.document = true ↔ a.kind = b.kind ∧ a.Resembles b := by
  by_cases kinds : a.kind = b.kind
  · rw [and_iff_right kinds]
    cases sameForm_of_kind_eq kinds with
    | term a b => exact same_document_term_iff finiteA finiteB plainA plainB
    | valueSet a b =>
        exact same_document_valueSet_iff finiteA finiteB plainA plainB
    | range a b => exact same_document_range_iff finiteA finiteB plainA plainB
    | fullText a b => exact same_document_fullText_iff finiteA finiteB
    | phrase a b =>
        exact (same_document_phrase_iff finiteA finiteB).trans
          (and_iff_right kinds)
    | pattern a b =>
        exact (same_document_pattern_iff finiteA finiteB).trans
          (and_iff_right kinds)
    | presence a b => exact same_document_presence_iff a b
    | ids a b => exact same_document_ids_iff a b
    | queryText a b => exact same_document_queryText_iff finiteA finiteB
    | everything a b => exact same_document_everything_iff finiteA finiteB
    | nothing => simp [document, Resembles, Json.same, Json.sameMembers]
  · rw [iff_false_right fun both => kinds both.1]
    exact mt kind_eq_of_same_document kinds

theorem same_document_iff_resembles_size :
    ¬(valueSet ⟨.ofSize, [.int 1, .int 2]⟩).document.same
      (valueSet ⟨.ofSize, [.int 3]⟩).document = true := by
  have plainA : (valueSet ⟨.ofSize, [.int 1, .int 2]⟩).HasPlainValues := by
    simp [HasPlainValues, Value.IsPlain]
  have plainB : (valueSet ⟨.ofSize, [.int 3]⟩).HasPlainValues := by
    simp [HasPlainValues, Value.IsPlain]
  intro same
  obtain ⟨-, -, values, -⟩ :=
    (same_document_iff_resembles (by decide) (by decide) plainA plainB).mp same
  exact absurd (values (by decide)) (by decide)

/-- Two sets on a field named `boost` have the same document although their
values differ. -/
theorem exists_same_document_of_values_ne :
    ∃ a b : ValueSet, a.values ≠ b.values ∧
      (valueSet a).document.same (valueSet b).document = true :=
  let scope : Scope := ⟨"boost", ⟨.long, false⟩, .one, false⟩
  ⟨⟨scope, [.int 1, .int 2]⟩, ⟨scope, [.int 3]⟩, by decide, by decide⟩

end Leaf
end SearchQuery
