import Mathlib.Data.List.Nodup
import Mathlib.Data.List.Perm.Basic
import SearchQuery.Algebra.Nodes

/-!
# Buckets of clauses

Replacing one group of a bucket leaves the members of all others, and replacing
one group of one kind of clauses leaves the other kinds. Appending and absorbing
a clause are both such replacements.
-/

namespace SearchQuery
namespace Bucket

variable {α : Type} (key : MergeKey)

/-- The members of a key are a group of the bucket. -/
theorem mem_of_find?_eq_some
    {key : MergeKey}
    {members : List α}
    {bucket : Bucket α}
    (found : bucket.find? key = some members) :
    ⟨key, members⟩ ∈ bucket := by
  induction bucket with
  | nil => cases found
  | cons group others hypothesis =>
      rw [find?] at found
      split at found
      · rename_i same
        cases found
        rw [← same]
        exact List.mem_cons_self
      · exact List.mem_cons_of_mem _ (hypothesis found)

/-- The members of a bucket are those of a key and the rest, and the rest stays
when the members of the key are replaced. -/
theorem exists_rest (bucket : Bucket α) :
    ∃ rest : List α, bucket.nodes.Perm ((bucket.find? key).getD [] ++ rest) ∧
      ∀ members, (bucket.set key members).nodes.Perm (members ++ rest) := by
  induction bucket with
  | nil => exact ⟨[], .refl _, fun members => by simp [set, nodes]⟩
  | cons group others hypothesis =>
      by_cases same : group.key = key
      · refine ⟨nodes others, ?_, fun members => ?_⟩
        · simp [find?, same, nodes]
        · simp [set, same, nodes]
      · obtain ⟨rest, permutes, replaces⟩ := hypothesis
        refine ⟨group.members ++ rest, ?_, fun members => ?_⟩
        · rw [find?, if_neg same]
          exact (permutes.append_left group.members).trans
            (List.perm_append_comm_assoc _ _ _)
        · rw [set, if_neg same]
          exact ((replaces members).append_left group.members).trans
            (List.perm_append_comm_assoc _ _ _)

/-- Replacing the members of a key adds the key if it is new. -/
theorem keys_set (members : List α) (bucket : Bucket α) :
    (bucket.set key members).map Group.key =
      if key ∈ bucket.map Group.key then bucket.map Group.key
      else bucket.map Group.key ++ [key] := by
  induction bucket with
  | nil => rfl
  | cons group others hypothesis =>
      by_cases same : group.key = key
      · simp [set, same]
      · rw [set, if_neg same, List.map_cons, hypothesis]
        simp only [List.map_cons, List.mem_cons, Ne.symm same, false_or]
        split <;> rfl

/-- Replacing the members of a key keeps the keys different. -/
theorem keys_set_nodup
    {bucket : Bucket α}
    (different : (bucket.map Group.key).Nodup)
    (members : List α) :
    ((bucket.set key members).map Group.key).Nodup := by
  rw [keys_set]
  split
  · exact different
  · rename_i isNew
    rw [List.nodup_append]
    refine ⟨different, List.nodup_singleton key, ?_⟩
    intro other isOther given isGiven
    rw [List.mem_singleton] at isGiven
    exact fun equal => isNew (isGiven ▸ equal ▸ isOther)

/-- The groups of a bucket after a replacement are the replaced one and earlier
ones. -/
theorem eq_or_mem_of_mem_set
    {members : List α}
    {bucket : Bucket α}
    {group : Group α}
    (isGroup : group ∈ bucket.set key members) :
    group = ⟨key, members⟩ ∨ group ∈ bucket := by
  induction bucket with
  | nil => exact .inl (List.mem_singleton.mp isGroup)
  | cons first others hypothesis =>
      rw [set] at isGroup
      split at isGroup
      · exact (List.mem_cons.mp isGroup).imp_right (List.mem_cons_of_mem _)
      · rcases List.mem_cons.mp isGroup with rfl | later
        · exact .inr List.mem_cons_self
        · exact (hypothesis later).imp_right (List.mem_cons_of_mem _)

theorem set_ne_nil (members : List α) (bucket : Bucket α) :
    bucket.set key members ≠ [] := by
  cases bucket with
  | nil => exact List.cons_ne_nil _ _
  | cons group others =>
      rw [set]
      split <;> exact List.cons_ne_nil _ _

end Bucket

namespace Clauses

variable {α : Type}

@[simp] theorem bucket_withBucket
    (clauses : Clauses α)
    (occur other : Occur)
    (bucket : Bucket α) :
    (clauses.withBucket occur bucket).bucket other =
      if other = occur then bucket else clauses.bucket other := by
  cases occur <;> cases other <;> rfl

@[simp] theorem minimumShould_withBucket
    (clauses : Clauses α)
    (occur : Occur)
    (bucket : Bucket α) :
    (clauses.withBucket occur bucket).minimumShould =
      clauses.minimumShould := by
  cases occur <;> rfl

@[simp] theorem bucket_mark
    (clauses : Clauses α)
    (occur other : Occur) :
    (clauses.mark occur).bucket other = clauses.bucket other := by
  cases other <;> rfl

/-- Clauses are empty where every bucket is. -/
theorem isEmpty_iff (clauses : Clauses α) :
    clauses.isEmpty = true ↔ ∀ occur, clauses.bucket occur = [] := by
  simp only [isEmpty, Bool.and_eq_true, List.isEmpty_iff]
  constructor
  · rintro ⟨⟨⟨must, should⟩, mustNot⟩, filter⟩ occur
    cases occur
    · exact must
    · exact filter
    · exact should
    · exact mustNot
  · intro empty
    exact ⟨⟨⟨empty .must, empty .should⟩, empty .mustNot⟩, empty .filter⟩

/-- The clauses after the members of a key among those of one kind are
replaced. -/
def put (clauses : Clauses α) (occur : Occur) (key : MergeKey)
    (members : List α) :
    Clauses α :=
  (clauses.withBucket occur
    (Bucket.set key members (clauses.bucket occur))).mark occur

/-- What holds of the clauses as they are built up: the groups of a kind have
different keys and members, and alternatives ask for at least one of them. -/
structure IsShaped (clauses : Clauses α) : Prop where
  keys : ∀ occur, ((clauses.bucket occur).map Group.key).Nodup
  members : ∀ occur, ∀ group ∈ clauses.bucket occur, group.members ≠ []
  minimum : clauses.should ≠ [] → 1 ≤ clauses.minimumShould

/-- The groups of a kind have different keys and members, whatever number of
alternatives is asked for. -/
structure IsKeyed (clauses : Clauses α) : Prop where
  keys : ∀ occur, ((clauses.bucket occur).map Group.key).Nodup
  members : ∀ occur, ∀ group ∈ clauses.bucket occur, group.members ≠ []

theorem IsShaped.isKeyed {clauses : Clauses α} (shaped : clauses.IsShaped) :
    clauses.IsKeyed :=
  ⟨shaped.keys, shaped.members⟩

theorem IsKeyed.isShaped
    {clauses : Clauses α}
    (keyed : clauses.IsKeyed)
    (minimum : clauses.should ≠ [] → 1 ≤ clauses.minimumShould) :
    clauses.IsShaped :=
  ⟨keyed.keys, keyed.members, minimum⟩

section Put

variable (clauses : Clauses α) (occur : Occur) (key : MergeKey)
  (members : List α)

theorem bucket_put_self :
    (clauses.put occur key members).bucket occur =
      Bucket.set key members (clauses.bucket occur) := by
  simp [put]

theorem bucket_put_of_ne {other : Occur} (differs : other ≠ occur) :
    (clauses.put occur key members).bucket other = clauses.bucket other := by
  simp [put, differs]

theorem minimumShould_put :
    (clauses.put occur key members).minimumShould =
      if occur = .should ∧ clauses.minimumShould = 0 then 1
      else clauses.minimumShould := by
  simp [put, mark]

/-- Putting a group leaves the number of alternatives that must hold, unless it
puts the first alternatives. -/
theorem minimumShould_put_of_raised
    (raised : occur ≠ .should ∨ 1 ≤ clauses.minimumShould) :
    (clauses.put occur key members).minimumShould = clauses.minimumShould := by
  rw [minimumShould_put, if_neg]
  rintro ⟨isShould, zero⟩
  rcases raised with other | raised
  · exact other isShould
  · omega

theorem isEmpty_put : (clauses.put occur key members).isEmpty = false := by
  rw [Bool.eq_false_iff, ne_eq, isEmpty_iff]
  intro empty
  have bucketEmpty := empty occur
  rw [bucket_put_self] at bucketEmpty
  exact Bucket.set_ne_nil key members _ bucketEmpty

/-- Putting a group keeps the keys different. -/
theorem IsKeyed.put
    {clauses : Clauses α}
    {members : List α}
    (keyed : clauses.IsKeyed)
    (nonempty : members ≠ []) :
    (clauses.put occur key members).IsKeyed where
  keys other := by
    by_cases same : other = occur
    · subst same
      rw [bucket_put_self]
      exact Bucket.keys_set_nodup key (keyed.keys other) members
    · rw [bucket_put_of_ne _ _ _ _ same]
      exact keyed.keys other
  members other group isGroup := by
    by_cases same : other = occur
    · subst same
      rw [bucket_put_self] at isGroup
      rcases Bucket.eq_or_mem_of_mem_set key isGroup with rfl | earlier
      · exact nonempty
      · exact keyed.members other group earlier
    · rw [bucket_put_of_ne _ _ _ _ same] at isGroup
      exact keyed.members other group isGroup

/-- Putting a group keeps the shape of clauses. -/
theorem IsShaped.put
    {clauses : Clauses α}
    {members : List α}
    (shaped : clauses.IsShaped)
    (nonempty : members ≠ []) :
    (clauses.put occur key members).IsShaped := by
  refine (shaped.isKeyed.put occur key nonempty).isShaped fun isThere => ?_
  rw [minimumShould_put]
  split
  · exact Nat.le_refl 1
  · rename_i notRaised
    by_cases same : occur = .should
    · exact Nat.one_le_iff_ne_zero.mpr fun zero => notRaised ⟨same, zero⟩
    · have unchanged := bucket_put_of_ne clauses occur key members
        (Ne.symm same)
      exact shaped.minimum fun absent => isThere (unchanged.trans absent)

/-- The members of the kind where a group is put are those of the group and the
rest. -/
theorem exists_rest_put :
    ∃ rest : List α,
      (clauses.nodes occur).Perm
        ((Bucket.find? key (clauses.bucket occur)).getD [] ++ rest) ∧
        ((clauses.put occur key members).nodes occur).Perm
          (members ++ rest) := by
  obtain ⟨rest, permutes, replaces⟩ :=
    Bucket.exists_rest key (clauses.bucket occur)
  refine ⟨rest, permutes, ?_⟩
  rw [nodes, bucket_put_self]
  exact replaces members

theorem nodes_put_of_ne {other : Occur} (differs : other ≠ occur) :
    (clauses.put occur key members).nodes other = clauses.nodes other := by
  rw [nodes, nodes, bucket_put_of_ne _ _ _ _ differs]

end Put

/-- A kind of clauses has members where it has groups, if the groups have
members. -/
theorem IsKeyed.nodes_eq_nil_iff
    {clauses : Clauses α}
    (keyed : clauses.IsKeyed)
    (occur : Occur) :
    clauses.nodes occur = [] ↔ clauses.bucket occur = [] := by
  constructor
  · intro noNodes
    rw [nodes, Bucket.nodes, List.flatMap_eq_nil_iff] at noNodes
    rw [List.eq_nil_iff_forall_not_mem]
    intro group isGroup
    exact keyed.members occur group isGroup (noNodes group isGroup)
  · intro noGroups
    rw [nodes, noGroups]
    rfl

theorem IsShaped.nodes_eq_nil_iff
    {clauses : Clauses α}
    (shaped : clauses.IsShaped)
    (occur : Occur) :
    clauses.nodes occur = [] ↔ clauses.bucket occur = [] :=
  shaped.isKeyed.nodes_eq_nil_iff occur

/-- No clauses are well-shaped, whatever operator they are meant for. -/
theorem isShaped_of_empty
    {clauses : Clauses α}
    (empty : ∀ occur, clauses.bucket occur = []) :
    clauses.IsShaped where
  keys occur := by
    rw [empty occur]
    exact List.nodup_nil
  members occur group isGroup := by
    rw [empty occur] at isGroup
    cases isGroup
  minimum isThere := absurd (empty .should) isThere

end Clauses
end SearchQuery
