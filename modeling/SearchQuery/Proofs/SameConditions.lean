import SearchQuery.Proofs.Discipline

/-!
# Conditions that are the same

Leaves and trees that are the same hold for the same documents, and so do leaves
that ask for the same with equal weights. Sameness of trees does not look at the
order of the groups, so the verdicts on their clauses agree up to order.
-/

namespace SearchQuery

theorem Binary64.equals_one : Binary64.one.equals .one = true := by decide

theorem Scope.bare_eq_of_same {a b : Scope}
    (alike : a.bare.same b.bare = true) :
    a.bare = b.bare := by
  simp only [same, bare, Bool.and_eq_true, beq_iff_eq] at alike
  obtain ⟨⟨⟨field, type⟩, _⟩, _⟩ := alike
  rw [bare, bare, field, type]

theorem Scope.field_and_type_eq_of_same {a b : Scope}
    (alike : a.same b = true) :
    a.field = b.field ∧ a.type = b.type := by
  simp only [same, Bool.and_eq_true, beq_iff_eq] at alike
  exact ⟨alike.1.1.1, alike.1.1.2⟩

theorem Scope.bare_same_of_same {a b : Scope} (alike : a.same b = true) :
    a.bare.same b.bare = true := by
  obtain ⟨field, type⟩ := field_and_type_eq_of_same alike
  simp [same, bare, field, type, Binary64.equals_one]

/-- Values that are the same one by one meet the same values. -/
theorem ValueSet.meets_eq_of_sameValues
    {scope : Scope}
    {a b : List Value}
    {value : Value}
    (kindsA : ∀ member ∈ a, member.isOf scope.type.fieldType = true)
    (kindsB : ∀ member ∈ b, member.isOf scope.type.fieldType = true)
    (isValue : value.isOf scope.type.fieldType = true)
    (alike : sameValues a b = true) :
    scope.meets a value = scope.meets b value := by
  induction a generalizing b with
  | nil =>
      cases b with
      | nil => rfl
      | cons memberB restB => cases alike
  | cons memberA restA hypothesis =>
      cases b with
      | nil => cases alike
      | cons memberB restB =>
          rw [sameValues, Bool.and_eq_true] at alike
          obtain ⟨isA, restIsA⟩ := List.forall_mem_cons.mp kindsA
          obtain ⟨isB, restIsB⟩ := List.forall_mem_cons.mp kindsB
          have equal := Value.equal_of_same isA isB alike.1
          have meetsSame :
              scope.equal memberA value = scope.equal memberB value :=
            Value.equal_congr isA isB isValue equal
          rw [Scope.meets, Scope.meets, List.any_cons, List.any_cons, meetsSame]
          exact congrArg (_ || ·) (hypothesis restIsA restIsB alike.2)

section Leaves

variable {discipline : Discipline} {engine : Engine} {document : StoredDocument}

/-- A value set that keeps to the types of fields holds where its values are
met. -/
theorem Leaf.holds_valueSet
    {set : ValueSet}
    (keeps : set.Keeps discipline.types)
    (fits : document.Fits discipline.types) :
    (Leaf.valueSet set).holds engine document =
      document.hasValue set.field (set.meets set.values) := by
  apply fits.hasValue_congr
  intro value isValue
  rw [← keeps.typed] at isValue
  exact ValueSet.contains_eq_meets set keeps.arranged isValue

/-- A leaf keeps to a discipline whatever its weight and scoring. -/
theorem Leaf.Keeps.bare {leaf : Leaf} (keeps : leaf.Keeps discipline) :
    leaf.bare.Keeps discipline := by
  cases leaf with
  | valueSet content =>
      have set : content.Keeps discipline.types := keeps
      exact ⟨set.typed, set.nonempty, set.arranged.kinds,
        set.arranged.increasing⟩
  | term content =>
      have term : content.Keeps discipline.types := keeps
      exact ⟨term.typed, term.kind⟩
  | range content =>
      have range : content.Keeps discipline := keeps
      exact ⟨range.typed, range.ordered, ⟨range.isOf.lower, range.isOf.upper⟩,
        range.nonempty⟩
  | _ => exact keeps

/-- The weight and the scoring of a leaf on a field do not matter. -/
theorem Leaf.holds_bare
    {leaf : Leaf}
    (keeps : leaf.Keeps discipline)
    (fits : document.Fits discipline.types)
    (hasScope : leaf.scope?.isSome = true) :
    leaf.bare.holds engine document = leaf.holds engine document := by
  cases leaf with
  | valueSet content =>
      exact (holds_valueSet keeps.bare fits).trans
        (holds_valueSet keeps fits).symm
  | fullText content => exact engine.verdict_bare _ _ hasScope
  | phrase content => exact engine.verdict_bare _ _ hasScope
  | pattern content =>
      have verdicts := engine.verdict_bare _ document hasScope
      rw [Leaf.bare] at verdicts
      rw [Leaf.bare, Leaf.holds, Leaf.holds, verdicts]
      rfl
  | queryText content => cases hasScope
  | _ => rfl

/-- Leaves on a field that are equal without weight and scoring hold alike. -/
theorem Leaf.holds_eq_of_bare_eq
    {a b : Leaf}
    (keepsA : a.Keeps discipline)
    (keepsB : b.Keeps discipline)
    (fits : document.Fits discipline.types)
    (scopeA : a.scope?.isSome = true)
    (scopeB : b.scope?.isSome = true)
    (equal : a.bare = b.bare) :
    a.holds engine document = b.holds engine document := by
  rw [← holds_bare keepsA fits scopeA, equal, holds_bare keepsB fits scopeB]

/-- Terms of one field whose values are the same hold alike. -/
theorem Leaf.holds_term_eq_of_same
    {a b : Term}
    (keepsA : a.Keeps discipline.types)
    (keepsB : b.Keeps discipline.types)
    (fits : document.Fits discipline.types)
    (alike : a.same b = true) :
    (Leaf.term a).holds engine document =
      (Leaf.term b).holds engine document := by
  rw [Term.same, Bool.and_eq_true] at alike
  obtain ⟨field, type⟩ := Scope.field_and_type_eq_of_same alike.1
  rw [Leaf.holds, Leaf.holds, ← field]
  apply fits.hasValue_congr
  intro value isValue
  rw [← keepsA.typed] at isValue
  have kindB := type ▸ keepsB.kind
  have accepted := Value.equal_congr keepsA.kind kindB isValue
    (Value.equal_of_same keepsA.kind kindB alike.2)
  rw [Term.accepts, Term.accepts, Scope.equal, Scope.equal, ← type]
  exact accepted

/-- Value sets of one field whose values are the same hold alike. -/
theorem Leaf.holds_valueSet_eq_of_same
    {a b : ValueSet}
    (keepsA : a.Keeps discipline.types)
    (keepsB : b.Keeps discipline.types)
    (fits : document.Fits discipline.types)
    (alike : a.same b = true) :
    (Leaf.valueSet a).holds engine document =
      (Leaf.valueSet b).holds engine document := by
  rw [ValueSet.same, Bool.and_eq_true] at alike
  obtain ⟨field, type⟩ := Scope.field_and_type_eq_of_same alike.1
  rw [holds_valueSet keepsA fits, holds_valueSet keepsB fits, ← field]
  apply fits.hasValue_congr
  intro value isValue
  rw [← keepsA.typed] at isValue
  have kindsB := type ▸ keepsB.arranged.kinds
  have meetsSame :=
    ValueSet.meets_eq_of_sameValues keepsA.arranged.kinds kindsB isValue alike.2
  rw [meetsSame, Scope.meets, Scope.meets]
  simp only [Scope.equal, type]

/-- Ranges of one field that are the same hold alike. -/
theorem Leaf.holds_range_eq_of_same
    {a b : Range}
    (keepsA : a.Keeps discipline)
    (keepsB : b.Keeps discipline)
    (fits : document.Fits discipline.types)
    (alike : a.same b = true) :
    (Leaf.range a).holds engine document =
      (Leaf.range b).holds engine document := by
  have scopes := alike
  simp only [Range.same, Bool.and_eq_true] at scopes
  obtain ⟨field, type⟩ := Scope.field_and_type_eq_of_same scopes.1.1.1.1
  rw [Leaf.holds, Leaf.holds, ← field]
  apply fits.hasValue_congr
  intro value isValue
  rw [← keepsA.typed] at isValue
  have sameType : b.fieldType = a.fieldType := by
    rw [Range.fieldType, Range.fieldType, type]
  exact Range.includes_eq_of_same keepsA.isOf keepsB.isOf sameType isValue alike

/-- Opaque leaves that are the same are equal without weight and scoring. -/
theorem Leaf.bare_eq_of_same
    {a b : Leaf}
    (alike : a.same b = true)
    (isOpaque :
      match a with
      | .fullText _ | .phrase _ | .pattern _ => True
      | _ => False) :
    a.bare = b.bare := by
  cases a with
  | fullText a =>
      cases b with
      | fullText b =>
          simp only [Leaf.same, FullText.same, Bool.and_eq_true, beq_iff_eq]
            at alike
          obtain ⟨⟨⟨⟨⟨scopes, query⟩, analyzer⟩, operator⟩, fuzziness⟩,
              maxExpansions⟩ := alike
          have bares := Scope.bare_eq_of_same (Scope.bare_same_of_same scopes)
          rw [Leaf.bare, Leaf.bare, bares, query, analyzer, operator, fuzziness,
            maxExpansions]
      | _ => cases alike
  | phrase a =>
      cases b with
      | phrase b =>
          simp only [Leaf.same, Phrase.same, Bool.and_eq_true, beq_iff_eq]
            at alike
          obtain ⟨⟨⟨⟨⟨scopes, openEnded⟩, phrase⟩, analyzer⟩, slop⟩,
              maxExpansions⟩ := alike
          have bares := Scope.bare_eq_of_same (Scope.bare_same_of_same scopes)
          rw [Leaf.bare, Leaf.bare, bares, openEnded, phrase, analyzer, slop,
            maxExpansions]
      | _ => cases alike
  | pattern a =>
      cases b with
      | pattern b =>
          simp only [Leaf.same, Pattern.same, Bool.and_eq_true, beq_iff_eq]
            at alike
          obtain ⟨⟨scopes, matcher⟩, rewrite⟩ := alike
          have bares := Scope.bare_eq_of_same (Scope.bare_same_of_same scopes)
          rw [Leaf.bare, Leaf.bare, bares, matcher, rewrite]
      | _ => cases alike
  | _ => cases isOpaque

/-- Leaves that are the same hold for the same documents. -/
theorem Leaf.holds_eq_of_same
    {a b : Leaf}
    (keepsA : a.Keeps discipline)
    (keepsB : b.Keeps discipline)
    (fits : document.Fits discipline.types)
    (alike : a.same b = true) :
    a.holds engine document = b.holds engine document := by
  cases a <;> cases b <;> try cases alike
  case term.term a b => exact holds_term_eq_of_same keepsA keepsB fits alike
  case valueSet.valueSet a b =>
    exact holds_valueSet_eq_of_same keepsA keepsB fits alike
  case range.range a b => exact holds_range_eq_of_same keepsA keepsB fits alike
  case fullText.fullText a b =>
    exact holds_eq_of_bare_eq keepsA keepsB fits
      rfl rfl (bare_eq_of_same alike trivial)
  case phrase.phrase a b =>
    exact holds_eq_of_bare_eq keepsA keepsB fits
      rfl rfl (bare_eq_of_same alike trivial)
  case pattern.pattern a b =>
    exact holds_eq_of_bare_eq keepsA keepsB fits
      rfl rfl (bare_eq_of_same alike trivial)
  case presence.presence a b => rw [beq_iff_eq.mp alike]
  case ids.ids a b =>
    simp only [Leaf.same, IdSet.same, Bool.and_eq_true, beq_iff_eq] at alike
    rw [Leaf.holds, Leaf.holds, IdSet.contains, IdSet.contains, alike.1]
  case queryText.queryText a b =>
    exact congrFun (engine.verdict_queryText a b alike) document
  all_goals rfl

/-- Leaves that ask for the same with equal weights hold for the same
documents. -/
theorem Leaf.holds_eq_of_sameCondition
    {a b : Leaf}
    (keepsA : a.Keeps discipline)
    (keepsB : b.Keeps discipline)
    (fits : document.Fits discipline.types)
    (alike : a.sameCondition b = true)
    (weights : a.boost.equals b.boost = true) :
    a.holds engine document = b.holds engine document := by
  have bares : a.bare.holds engine document = b.bare.holds engine document :=
    holds_eq_of_same keepsA.bare keepsB.bare fits alike
  cases a <;> cases b <;> try cases alike
  case presence.presence a b =>
    exact bares
  case ids.ids a b => exact bares
  case queryText.queryText a b =>
    apply congrFun (engine.verdict_queryText a b ?_) document
    simp only [Leaf.sameCondition, Leaf.same, Leaf.bare, QueryText.same,
      Bool.and_eq_true]
      at alike ⊢
    exact ⟨alike.1, weights⟩
  case everything.everything a b => rfl
  case nothing.nothing => rfl
  all_goals
    exact (holds_bare keepsA fits rfl).symm.trans
      (bares.trans (holds_bare keepsB fits rfl))

end Leaves

namespace Node

/-- Every group of the first bucket has the key and the members of one of the
second. -/
theorem exists_find?_of_sameBucket
    {groups other : Bucket Node}
    (alike : sameBucket groups other = true)
    {group : Group Node}
    (isGroup : group ∈ groups) :
    ∃ others, other.find? group.key = some others ∧
      sameMembers group.members others = true := by
  induction groups with
  | nil => cases isGroup
  | cons first rest hypothesis =>
      rw [sameBucket, Bool.and_eq_true] at alike
      rcases List.mem_cons.mp isGroup with rfl | later
      · have found := alike.1
        rw [sameGroup] at found
        split at found
        · rename_i others equation
          exact ⟨others, equation, found⟩
        · cases found
      · exact hypothesis alike.2 later

/-- Lists of nodes that are the same one by one have the same verdicts, if this
holds of their nodes. -/
theorem map_eq_of_sameMembers
    {verdict : Node → Bool}
    {members others : List Node}
    (agree : ∀ node ∈ members, ∀ other ∈ others, node.same other = true →
      verdict node = verdict other)
    (alike : sameMembers members others = true) :
    members.map verdict = others.map verdict := by
  induction members generalizing others with
  | nil =>
      cases others with
      | nil => rfl
      | cons other rest => simp [sameMembers] at alike
  | cons node rest hypothesis =>
      cases others with
      | nil => simp [sameMembers] at alike
      | cons other restOther =>
          rw [sameMembers, Bool.and_eq_true] at alike
          have first :=
            agree node List.mem_cons_self other List.mem_cons_self alike.1
          have later := hypothesis
            (fun node isNode other isOther =>
              agree node (List.mem_cons_of_mem _ isNode) other
              (List.mem_cons_of_mem _ isOther)) alike.2
          rw [List.map_cons, List.map_cons, first, later]

/-- Buckets that are the same have the same verdicts up to order, if this holds
of their nodes and the keys of the first are different. -/
theorem perm_of_sameBucket
    {verdict : Node → Bool}
    {groups other : Bucket Node}
    (different : (groups.map Group.key).Nodup)
    (sameLength : groups.length = other.length)
    (agree : ∀ node ∈ groups.nodes, ∀ member ∈ other.nodes,
      node.same member = true →
      verdict node = verdict member)
    (alike : sameBucket groups other = true) :
    (groups.nodes.map verdict).Perm (other.nodes.map verdict) := by
  let summary : Group Node → MergeKey × List Bool :=
    fun group => (group.key, group.members.map verdict)
  have keys : (groups.map summary).map Prod.fst = groups.map Group.key := by
    rw [List.map_map]
    rfl
  have distinct : (groups.map summary).Nodup :=
    List.Nodup.of_map _ (keys ▸ different)
  have contained : groups.map summary ⊆ other.map summary := by
    intro pair isPair
    obtain ⟨group, isGroup, rfl⟩ := List.mem_map.mp isPair
    obtain ⟨others, found, sameGroups⟩ :=
      exists_find?_of_sameBucket alike isGroup
    have isOther := Bucket.mem_of_find?_eq_some found
    refine List.mem_map.mpr ⟨_, isOther, ?_⟩
    have verdicts := map_eq_of_sameMembers
      (fun node isNode member isMember =>
        agree node (List.mem_flatMap.mpr ⟨group, isGroup, isNode⟩)
        member (List.mem_flatMap.mpr ⟨_, isOther, isMember⟩)) sameGroups
    exact Prod.ext rfl verdicts.symm
  have permutes : (groups.map summary).Perm (other.map summary) := by
    apply (List.subperm_of_subset distinct contained).perm_of_length_le
    rw [List.length_map, List.length_map, sameLength]
  have flattened : ∀ bucket : Bucket Node,
      (bucket.map summary).flatMap Prod.snd = bucket.nodes.map verdict := by
    intro bucket
    rw [Bucket.nodes, List.map_flatMap, List.flatMap_map]
  rw [← flattened, ← flattened]
  exact permutes.flatMap_right _

/-- Clauses that are the same have buckets that are, and ask for as many
alternatives. -/
theorem buckets_of_same
    {a b : Clauses Node}
    (alike : (Node.clauses a).same (.clauses b) = true) :
    (∀ occur, (a.bucket occur).length = (b.bucket occur).length ∧
      sameBucket (a.bucket occur) (b.bucket occur) = true) ∧
      a.minimumShould = b.minimumShould := by
  obtain ⟨must, filter, should, mustNot, operators, minimumShould⟩ := a
  simp only [same, sameClauses, Bool.and_eq_true, beq_iff_eq] at alike
  obtain ⟨⟨⟨⟨⟨musts, filters⟩, shoulds⟩, mustNots⟩, -⟩, minimum⟩ := alike
  refine ⟨fun occur => ?_, minimum⟩
  cases occur
  · exact musts
  · exact filters
  · exact shoulds
  · exact mustNots

/-- Trees with groups of different keys that are the same hold for the same
documents. -/
theorem holds_eq_of_same_of_wellKeyed
    {discipline : Discipline}
    {engine : Engine}
    {document : StoredDocument}
    {a b : Node}
    (keyedA : a.WellKeyed (Leaf.Keeps discipline))
    (keyedB : b.WellKeyed (Leaf.Keeps discipline))
    (fits : document.Fits discipline.types)
    (alike : a.same b = true) :
    a.holds engine document = b.holds engine document := by
  induction keyedA generalizing b with
  | leaf keepsA =>
      cases keyedB with
      | leaf keepsB =>
          rw [same] at alike
          rw [holds_leaf, holds_leaf]
          exact Leaf.holds_eq_of_same keepsA keepsB fits alike
      | clauses => simp [same] at alike
  | @clauses a groupsA statedA members hypothesis =>
      cases keyedB with
      | leaf => simp [same] at alike
      | @clauses b groupsB statedB membersB =>
          have verdicts : ∀ occur, (a.bucket occur).length =
              (b.bucket occur).length →
              sameBucket (a.bucket occur) (b.bucket occur) = true →
              (a.verdicts engine document occur).Perm
                (b.verdicts engine document occur) := by
            intro occur sameLength alikeBucket
            exact perm_of_sameBucket (groupsA.keys occur) sameLength
              (fun node isNode member isMember =>
                hypothesis occur node isNode (membersB occur member isMember))
                  alikeBucket
          obtain ⟨buckets, minimum⟩ := buckets_of_same alike
          have verdicts :=
            fun occur => verdicts occur (buckets occur).1 (buckets occur).2
          rw [holds_clauses, holds_clauses, (verdicts .must).all_eq,
            (verdicts .filter).all_eq, (verdicts .mustNot).all_eq,
            Clauses.meetsMinimum_perm _ (verdicts .should), minimum]

/-- Well-formed trees that are the same hold for the same documents. -/
theorem holds_eq_of_same
    {discipline : Discipline}
    {engine : Engine}
    {document : StoredDocument}
    {a b : Node}
    (formedA : a.WellFormed (Leaf.Keeps discipline))
    (formedB : b.WellFormed (Leaf.Keeps discipline))
    (fits : document.Fits discipline.types)
    (alike : a.same b = true) :
    a.holds engine document = b.holds engine document :=
  holds_eq_of_same_of_wellKeyed formedA.wellKeyed formedB.wellKeyed fits alike

end Node

end SearchQuery
