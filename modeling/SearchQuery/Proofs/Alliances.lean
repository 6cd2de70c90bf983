import Mathlib.Order.Zorn
import SearchQuery.Proofs.Placement

/-!
# Alliances

Leaves of different operands meet as alternatives, as conditions that must hold,
or as conditions that must not hold, and only under one key. Where leaves that
stand side by side refuse the same leaves, those that meet under a key fall into
alliances: leaves of one alliance never refuse each other, and a leaf that comes
of two is in an alliance exactly where both of them are.
-/

namespace SearchQuery

/-- The ways in which leaves of different operands meet. -/
inductive Role
  | alternative
  | conjunct
  | exclusion

/-- The operation by which leaves meet in a role. -/
def Role.operation : Role → MergeOperation
  | .alternative | .exclusion => .union
  | .conjunct => .inter

/-- The role of the clauses of a kind. -/
def Occur.role : Occur → Role
  | .must | .filter => .conjunct
  | .should => .alternative
  | .mustNot => .exclusion

theorem Occur.operation_role (occur : Occur) :
    occur.role.operation = occur.operation := by
  cases occur <;> rfl

/-- The roles in which leaves meet when trees are merged. -/
def MergeOperation.roles : MergeOperation → List Role
  | .union => [.alternative]
  | .inter => [.conjunct, .exclusion]

/-- The nodes of a tree that have a role when the tree is merged with others. -/
def Node.standing : Role → Node → List Node
  | .alternative, .leaf content => [.leaf content]
  | .alternative, .clauses content => content.disjuncts
  | .conjunct, .leaf content => [.leaf content]
  | .conjunct, .clauses content => content.nodes .must ++ content.nodes .filter
  | .exclusion, .leaf _ => []
  | .exclusion, .clauses content => content.nodes .mustNot

namespace Leaf

/-- The leaves that may come of given ones when they meet. -/
inductive Arises (operation : MergeOperation) (given : Leaf → Prop) :
    Leaf → Prop
  | given {leaf : Leaf} (isGiven : given leaf) : Arises operation given leaf
  | merged {a b leaf : Leaf} {node : Node} (left : Arises operation given a)
      (right : Arises operation given b)
      (merges : merge operation a b = .ok node)
      (isIn : leaf.IsIn node) : Arises operation given leaf

/-- The leaves that given ones come together to, one with another. -/
inductive Fused (operation : MergeOperation) (given : Leaf → Prop) :
    Leaf → Prop
  | given {leaf : Leaf} (isGiven : given leaf) : Fused operation given leaf
  | merged {a b leaf : Leaf} (left : Fused operation given a)
      (right : Fused operation given b)
      (merges : merge operation a b = .ok (.leaf leaf)) :
      Fused operation given leaf

/-- Two leaves refuse each other: they do not merge, from one side or the
other. -/
def Clashes (operation : MergeOperation) (a b : Leaf) : Prop :=
  (∃ error, merge operation a b = .error error) ∨
    ∃ error, merge operation b a = .error error

/-- A leaf and some others do not refuse each other. -/
def Spares (operation : MergeOperation) (leaf : Leaf) (among : Leaf → Prop) :
    Prop :=
  ∀ other, among other → ¬leaf.Clashes operation other

/-- Two leaves part when they meet: they stay side by side, in one form or
another. -/
def Parts (operation : MergeOperation) (a b : Leaf) : Prop :=
  ∃ content, merge operation a b = .ok (.clauses content)

variable {operation : MergeOperation} {a b : Leaf}

theorem parts_of_apart
    {left right : Node}
    (merges : merge operation a b = .ok (operation.apart left right)) :
    a.Parts operation b := by
  cases operation <;> exact ⟨_, merges⟩

theorem Clashes.symm (clash : a.Clashes operation b) :
    b.Clashes operation a :=
  Or.symm clash

/-- Leaves that do not refuse each other come together or stay side by side. -/
theorem exists_merge_or_parts (peace : ¬a.Clashes operation b) :
    (∃ leaf, merge operation a b = .ok (.leaf leaf)) ∨
      a.Parts operation b := by
  cases merges : merge operation a b with
  | error error => exact absurd (.inl ⟨error, merges⟩) peace
  | ok node =>
      cases node with
      | leaf content => exact .inl ⟨content, rfl⟩
      | clauses content => exact .inr ⟨content, merges⟩

/-- Broad leaves are never refused. -/
theorem not_clashes_of_isBroad (broad : a.isBroad = true) :
    ¬a.Clashes operation b := by
  rintro (⟨error, failure⟩ | ⟨error, failure⟩)
  · rw [(isBroad_eq_false_of_merge_eq_error failure).1] at broad
    cases broad
  · rw [(isBroad_eq_false_of_merge_eq_error failure).2] at broad
    cases broad

/-- Under intersection a broad leaf does not stay beside another of its key. -/
theorem narrow_of_parts
    (sameKey : a.key = b.key)
    (parts : a.Parts .inter b) :
    a.isBroad = false ∧ b.isBroad = false := by
  obtain ⟨content, beside⟩ := parts
  cases merging .inter a b with
  | left merges => cases merges.symm.trans beside
  | right merges => cases merges.symm.trans beside
  | apart _ unlike => exact absurd sameKey unlike
  | atKey merges _ _ notTrivial =>
      obtain ⟨notTrivialA, notTrivialB⟩ := Bool.or_eq_false_iff.mp notTrivial
      have beside : interAtKey a b = .ok (.clauses content) :=
        merges.symm.trans beside
      constructor
      · cases a with
        | presence => cases beside
        | everything => cases notTrivialA
        | _ => rfl
      · cases b with
        | presence => cases a <;> cases beside
        | everything => cases notTrivialB
        | _ => rfl

/-- Every touchstone that the first leaf passes, the second passes too. -/
def Narrows (types : String → ValueType) (operation : MergeOperation)
    (a b : Leaf) : Prop :=
  ∀ stone, a.Passes types operation stone → b.Passes types operation stone

/-- A leaf passes exactly the touchstones that two others both pass. -/
def Blends (types : String → ValueType) (operation : MergeOperation)
    (leaf a b : Leaf) : Prop :=
  ∀ stone, leaf.Passes types operation stone ↔
    a.Passes types operation stone ∧ b.Passes types operation stone

variable {types : String → ValueType} {leaf : Leaf}

theorem Blends.symm (blends : leaf.Blends types operation a b) :
    leaf.Blends types operation b a :=
  fun stone => (blends stone).trans and_comm

theorem Blends.narrows (blends : leaf.Blends types operation a b) :
    leaf.Narrows types operation a ∧ leaf.Narrows types operation b :=
  ⟨fun stone passes => ((blends stone).mp passes).1,
    fun stone passes => ((blends stone).mp passes).2⟩

/-- Under union leaves of one weight of which both or none list identifiers pass
the same touchstones. -/
theorem narrows_union
    (kinds : a.isIds = b.isIds)
    (weights : a.boost.equals b.boost = true) :
    a.Narrows types .union b := by
  intro stone passes
  obtain ⟨weight, kind, -⟩ :=
    passes.resolve_left fun broad => MergeOperation.noConfusion broad.1
  exact .inr ⟨(Binary64.equals_iff_of_equals weights stone.weight).mp weight,
    kinds.symm.trans kind, MergeOperation.noConfusion⟩

end Leaf

/-- What meets when trees are merged that keep to a discipline: the leaves that
stand together in one of the trees in a role and under a key. -/
structure Gathering where
  discipline : Discipline
  together : Role → String → Leaf → Leaf → Prop

namespace Gathering

variable (gathering : Gathering)

/-- The leaves of the trees that meet in a role under a key. -/
def given (role : Role) (key : String) (leaf : Leaf) : Prop :=
  gathering.together role key leaf leaf

/-- The leaves that may meet in a role under a key: those of the trees, and what
comes of them. -/
def family (role : Role) (key : String) : Leaf → Prop :=
  Leaf.Arises role.operation (gathering.given role key)

/-- No two leaves that may meet in a role under a key refuse each other. -/
def IsOpen (role : Role) (key : String) : Prop :=
  ∀ a b, gathering.family role key a → gathering.family role key b →
    ∃ node, Leaf.merge role.operation a b = .ok node

/-- Narrow leaves that stand side by side, in one tree or because they do not
come together, refuse the same leaves. Moreover, no leaf takes in the others
whatever they are, and those that must hold are scored all or not at all. -/
structure IsEven (role : Role) (key : String) : Prop where
  alike : ∀ a b c, gathering.family role key a → gathering.family role key b →
    gathering.family role key c → a.isBroad = false → b.isBroad = false →
      gathering.together role key a b ∨ a.Parts role.operation b →
        (a.Clashes role.operation c ↔ b.Clashes role.operation c)
  narrow : role.operation = .union → ∀ leaf, gathering.family role key leaf →
    leaf.isBroad = false
  scored : role.operation = .inter → ∀ a b, gathering.family role key a →
    gathering.family role key b → a.isBroad = false → b.isBroad = false →
      a.isFilter = b.isFilter

/-- Under every key either no leaves refuse each other, or those that stand side
by side refuse the same ones. -/
def IsSteady (operation : MergeOperation) : Prop :=
  ∀ role ∈ operation.roles, ∀ key, gathering.IsOpen role key ∨
    gathering.IsEven role key

/-- A leaf that may meet others in a role under its key. -/
structure Attends (role : Role) (key : String) (leaf : Leaf) : Prop where
  family : gathering.family role key leaf
  normal : (Node.leaf leaf).IsNormal (Leaf.IsSound gathering.discipline)
  keyed : leaf.key = key

/-- The narrow ones of some leaves refuse the same leaves. -/
def IsLevel (role : Role) (key : String) (among : Leaf → Prop) : Prop :=
  ∀ a b c, among a → among b → a.isBroad = false → b.isBroad = false →
    gathering.Attends role key c →
      (a.Clashes role.operation c ↔ b.Clashes role.operation c)

/-- Leaves of which none refuses another, with all that they come together
to. -/
structure IsPact (role : Role) (key : String) (among : Leaf → Prop) : Prop where
  attends : ∀ leaf, among leaf → gathering.Attends role key leaf
  merged : ∀ a b leaf, among a → among b →
    Leaf.merge role.operation a b = .ok (.leaf leaf) → among leaf
  peace : ∀ a b, among a → among b → ¬a.Clashes role.operation b

/-- A pact that every leaf is in that none of it refuses. -/
structure IsAlliance (role : Role) (key : String) (among : Leaf → Prop) : Prop
    extends gathering.IsPact role key among where
  full : ∀ leaf, gathering.Attends role key leaf →
    leaf.Spares role.operation among → among leaf

variable {gathering} {role : Role} {key : String} {a b c leaf other : Leaf}
  {among : Leaf → Prop}

section Meeting

variable (tight : gathering.discipline.tight = true)

theorem Attends.merged
    (stable : Leaf.IsStable (Leaf.IsSound gathering.discipline))
    (attendsA : gathering.Attends role key a)
    (attendsB : gathering.Attends role key b)
    (merges : Leaf.merge role.operation a b = .ok (.leaf leaf)) :
    gathering.Attends role key leaf := by
  refine ⟨.merged attendsA.family attendsB.family merges .self,
    stable.merge _ _ _ _ attendsA.normal attendsB.normal merges, ?_⟩
  rcases Leaf.isAkin_of_merge_eq_leaf
    attendsA.normal.lawful_leaf.keeps.isFilled
    attendsB.normal.lawful_leaf.keeps.isFilled merges with akin | akin
  · exact akin.key.trans attendsA.keyed
  · exact akin.key.trans attendsB.keyed

include tight

/-- Leaves that pass one touchstone do not refuse each other. -/
theorem Attends.peace
    {stone : Touchstone}
    (attendsA : gathering.Attends role key a)
    (attendsB : gathering.Attends role key b)
    (passesA : a.Passes gathering.discipline.types role.operation stone)
    (passesB : b.Passes gathering.discipline.types role.operation stone) :
    ¬a.Clashes role.operation b := by
  obtain ⟨node, merges⟩ := Leaf.exists_merge_of_passes tight attendsA.normal
    attendsB.normal passesA passesB
  obtain ⟨swapped, mergesSwapped⟩ := Leaf.exists_merge_of_passes tight
    attendsB.normal attendsA.normal passesB passesA
  rintro (⟨error, failure⟩ | ⟨error, failure⟩)
  · cases merges.symm.trans failure
  · cases mergesSwapped.symm.trans failure

/-- A leaf does not refuse one that passes whatever it passes. -/
theorem Attends.peace_of_narrows
    (attendsA : gathering.Attends role key a)
    (attendsB : gathering.Attends role key b)
    (narrows : a.Narrows gathering.discipline.types role.operation b) :
    ¬a.Clashes role.operation b := by
  obtain ⟨stone, passes⟩ :=
    Leaf.exists_passes role.operation tight attendsA.normal.lawful_leaf
  exact attendsA.peace tight attendsB passes (narrows stone passes)

section Even

variable (even : gathering.IsEven role key)
include even

/-- Leaves that come together blend. -/
theorem IsEven.blends_of_merge
    (attendsA : gathering.Attends role key a)
    (attendsB : gathering.Attends role key b)
    (merges : Leaf.merge role.operation a b = .ok (.leaf leaf)) :
    leaf.Blends gathering.discipline.types role.operation a b :=
  fun _ => Leaf.passes_iff_of_merge tight attendsA.normal attendsB.normal
    (fun isUnion => ⟨even.narrow isUnion a attendsA.family,
      even.narrow isUnion b attendsB.family⟩) merges

omit tight in
/-- Leaves that stay side by side are narrow. -/
theorem IsEven.narrow_of_parts
    (attendsA : gathering.Attends role key a)
    (attendsB : gathering.Attends role key b)
    (parts : a.Parts role.operation b) :
    a.isBroad = false ∧ b.isBroad = false := by
  by_cases isUnion : role.operation = .union
  · exact ⟨even.narrow isUnion a attendsA.family,
      even.narrow isUnion b attendsB.family⟩
  · have isInter : role.operation = .inter := by
      cases role <;> first | rfl | exact absurd rfl isUnion
    rw [isInter] at parts
    exact Leaf.narrow_of_parts (attendsA.keyed.trans attendsB.keyed.symm) parts

omit tight in
/-- Leaves that stay side by side refuse the same leaves. -/
theorem IsEven.clashes_iff_of_parts
    (attendsA : gathering.Attends role key a)
    (attendsB : gathering.Attends role key b)
    (attendsC : gathering.Attends role key c)
    (parts : a.Parts role.operation b) :
    a.Clashes role.operation c ↔ b.Clashes role.operation c := by
  obtain ⟨narrowA, narrowB⟩ := even.narrow_of_parts attendsA attendsB parts
  exact even.alike a b c attendsA.family attendsB.family attendsC.family
    narrowA narrowB (.inr parts)

variable (stable : Leaf.IsStable (Leaf.IsSound gathering.discipline))
include stable

/-- What a leaf refuses is refused by each that narrows it. -/
theorem IsEven.clashes_of_narrows
    (attendsA : gathering.Attends role key a)
    (attendsB : gathering.Attends role key b)
    (attendsC : gathering.Attends role key c)
    (narrows : a.Narrows gathering.discipline.types role.operation b)
    (clash : b.Clashes role.operation c) :
    a.Clashes role.operation c := by
  by_contra peace
  rcases Leaf.exists_merge_or_parts peace with ⟨leaf, merges⟩ | parts
  · obtain ⟨stone, passes⟩ := Leaf.exists_passes role.operation tight
      (attendsA.merged stable attendsC merges).normal.lawful_leaf
    obtain ⟨passesA, passesC⟩ :=
      (even.blends_of_merge tight attendsA attendsC merges stone).mp passes
    exact attendsB.peace tight attendsC (narrows stone passesA) passesC clash
  · refine attendsA.peace_of_narrows tight attendsB narrows ?_
    exact (even.clashes_iff_of_parts attendsA attendsC attendsB parts).mpr
      clash.symm

/-- A leaf that refuses a blend of two refuses one of them, or comes together
with one to a leaf that refuses the other. -/
theorem IsEven.clashes_or_of_blends
    (attendsA : gathering.Attends role key a)
    (attendsB : gathering.Attends role key b)
    (attendsLeaf : gathering.Attends role key leaf)
    (attends : gathering.Attends role key other)
    (blends : leaf.Blends gathering.discipline.types role.operation a b)
    (clash : other.Clashes role.operation leaf) :
    other.Clashes role.operation a ∨ ∃ joined,
      Leaf.merge role.operation other a = .ok (.leaf joined) ∧
        joined.Clashes role.operation b := by
  obtain ⟨narrowsA, narrowsB⟩ := blends.narrows
  by_cases refused : other.Clashes role.operation a
  · exact .inl refused
  rcases Leaf.exists_merge_or_parts refused with ⟨joined, merges⟩ | parts
  · refine .inr ⟨joined, merges, ?_⟩
    have attendsJoined := attends.merged stable attendsA merges
    have joins := even.blends_of_merge tight attends attendsA merges
    by_contra peace
    rcases Leaf.exists_merge_or_parts peace with ⟨whole, mergesWhole⟩ | parts
    · obtain ⟨stone, passes⟩ := Leaf.exists_passes role.operation tight
        (attendsJoined.merged stable attendsB
          mergesWhole).normal.lawful_leaf
      obtain ⟨passesJoined, passesB⟩ := (even.blends_of_merge tight
        attendsJoined attendsB mergesWhole stone).mp passes
      obtain ⟨passesOther, passesA⟩ := (joins stone).mp passesJoined
      exact attends.peace tight attendsLeaf passesOther
        ((blends stone).mpr ⟨passesA, passesB⟩) clash
    · refine attendsLeaf.peace_of_narrows tight attendsB narrowsB
        (Leaf.Clashes.symm ?_)
      rw [← even.clashes_iff_of_parts attendsJoined attendsB attendsLeaf parts]
      exact even.clashes_of_narrows tight stable attendsJoined attends
        attendsLeaf joins.narrows.1 clash
  · refine absurd ?_
      (attendsLeaf.peace_of_narrows tight attendsA narrowsA)
    exact ((even.clashes_iff_of_parts attends attendsA attendsLeaf parts).mp
      clash).symm

section Growing

variable (pact : gathering.IsPact role key among)
  (attends : gathering.Attends role key a)
  (spares : a.Spares role.operation among)
include pact

/-- A blend of a leaf with one of a pact is spared by the pact if the leaf
is. -/
theorem IsPact.spares_of_blends
    (isAmong : among b)
    (attendsC : gathering.Attends role key c)
    (sparesC : c.Spares role.operation among)
    (attendsLeaf : gathering.Attends role key leaf)
    (blends : leaf.Blends gathering.discipline.types role.operation b c) :
    leaf.Spares role.operation among := by
  intro other isOther clash
  rcases even.clashes_or_of_blends tight stable (pact.attends _ isAmong)
    attendsC attendsLeaf (pact.attends _ isOther) blends clash.symm with
    refused | ⟨joined, merges, refused⟩
  · exact pact.peace _ _ isOther isAmong refused
  · exact sparesC joined (pact.merged _ _ _ isOther isAmong merges)
      refused.symm

/-- A blend with a leaf is spared by a pact if the leaf is and narrows one that
parts from the other. -/
theorem IsPact.spares_of_blends_of_parts
    (attendsB : gathering.Attends role key b)
    (sparesB : b.Spares role.operation among)
    (attendsC : gathering.Attends role key c)
    (attends : gathering.Attends role key other)
    (narrows : b.Narrows gathering.discipline.types role.operation other)
    (parts : c.Parts role.operation other)
    (attendsLeaf : gathering.Attends role key leaf)
    (blends : leaf.Blends gathering.discipline.types role.operation b c) :
    leaf.Spares role.operation among := by
  intro ally isAlly clash
  have attendsAlly := pact.attends _ isAlly
  rcases even.clashes_or_of_blends tight stable attendsB attendsC attendsLeaf
    attendsAlly blends clash.symm with refused | ⟨joined, joins, refused⟩
  · exact sparesB ally isAlly refused.symm
  · have attendsJoined := attendsAlly.merged stable attendsB joins
    have narrowsB :=
      (even.blends_of_merge tight attendsAlly attendsB joins).narrows.2
    refine attendsJoined.peace_of_narrows tight attends
      (fun stone passes => narrows stone (narrowsB stone passes)) ?_
    exact ((even.clashes_iff_of_parts attendsC attends attendsJoined parts).mp
      refused.symm).symm

include attends

omit tight even in
/-- What the leaves of a pact and one more come together to may meet others. -/
theorem IsPact.attends_of_fused
    (fused : Leaf.Fused role.operation (fun leaf => among leaf ∨ leaf = a)
      leaf) :
    gathering.Attends role key leaf := by
  induction fused with
  | given isGiven =>
      rcases isGiven with isAmong | rfl
      · exact pact.attends _ isAmong
      · exact attends
  | merged _ _ merges attendsLeft attendsRight =>
      exact attendsLeft.merged stable attendsRight merges

/-- What the leaves of a pact and one more come together to is of the pact or
narrows the one. -/
theorem IsPact.among_or_narrows_of_fused
    (fused : Leaf.Fused role.operation (fun leaf => among leaf ∨ leaf = a)
      leaf) :
    among leaf ∨
      leaf.Narrows gathering.discipline.types role.operation a := by
  induction fused with
  | given isGiven =>
      rcases isGiven with isAmong | rfl
      · exact .inl isAmong
      · exact .inr fun _ => id
  | @merged left right leaf fusedLeft fusedRight merges ofLeft ofRight =>
      have narrows := (even.blends_of_merge tight
        (pact.attends_of_fused stable attends fusedLeft)
        (pact.attends_of_fused stable attends fusedRight) merges).narrows
      rcases ofLeft with isLeft | narrowsA
      · rcases ofRight with isRight | narrowsA
        · exact .inl (pact.merged _ _ _ isLeft isRight merges)
        · exact .inr fun stone passes => narrowsA stone (narrows.2 stone passes)
      · exact .inr fun stone passes => narrowsA stone (narrows.1 stone passes)

include spares

/-- A pact spares what its leaves and one more come together to, and the blends
of such leaves that it spares. -/
theorem IsPact.spares_of_fused
    (fused : Leaf.Fused role.operation (fun leaf => among leaf ∨ leaf = a) b) :
    b.Spares role.operation among ∧
      ∀ c leaf, Leaf.Fused role.operation (fun leaf => among leaf ∨ leaf = a)
        c → c.Spares role.operation among →
          gathering.Attends role key leaf →
            leaf.Blends gathering.discipline.types role.operation b c →
              leaf.Spares role.operation among := by
  have attendsOf := fun leaf => @IsPact.attends_of_fused gathering role key a
    leaf among stable pact attends
  induction fused with
  | @given b isGiven =>
      rcases isGiven with isAmong | rfl
      · exact ⟨fun other => pact.peace _ _ isAmong,
          fun c leaf fusedC sparesC => pact.spares_of_blends tight even stable
            isAmong (attendsOf c fusedC) sparesC⟩
      · refine ⟨spares, fun c leaf fusedC sparesC attendsLeaf blends => ?_⟩
        rcases pact.among_or_narrows_of_fused tight even stable attends
          fusedC with isAmong | narrows
        · exact pact.spares_of_blends tight even stable isAmong attends spares
            attendsLeaf blends.symm
        · intro other isOther clash
          exact sparesC other isOther (even.clashes_of_narrows tight stable
            (attendsOf c fusedC) attendsLeaf (pact.attends _ isOther)
            (fun stone passes => (blends stone).mpr
              ⟨narrows stone passes, passes⟩) clash)
  | @merged left right b fusedLeft fusedRight merges ofLeft ofRight =>
      have attendsLeft := attendsOf left fusedLeft
      have attendsB := attendsOf b (.merged fusedLeft fusedRight merges)
      have blendsB := even.blends_of_merge tight attendsLeft
        (attendsOf right fusedRight) merges
      have sparesB :=
        ofRight.2 left b fusedLeft ofLeft.1 attendsB blendsB.symm
      refine ⟨sparesB, fun c leaf fusedC sparesC attendsLeaf blends => ?_⟩
      have attendsC := attendsOf c fusedC
      have peace : ¬left.Clashes role.operation c := by
        obtain ⟨stone, passes⟩ := Leaf.exists_passes role.operation tight
          attendsLeaf.normal.lawful_leaf
        obtain ⟨passesB, passesC⟩ := (blends stone).mp passes
        exact attendsLeft.peace tight attendsC
          (blendsB.narrows.1 stone passesB) passesC
      rcases Leaf.exists_merge_or_parts fun clash => peace clash.symm with
        ⟨next, joins⟩ | parts
      · have attendsNext := attendsC.merged stable attendsLeft joins
        have blendsNext :=
          even.blends_of_merge tight attendsC attendsLeft joins
        refine ofRight.2 next leaf (.merged fusedC fusedLeft joins)
          (ofLeft.2 c next fusedC sparesC attendsNext blendsNext.symm)
          attendsLeaf fun stone => ?_
        rw [blends stone, blendsB stone, blendsNext stone]
        tauto
      · exact pact.spares_of_blends_of_parts tight even stable attendsB sparesB
          attendsC attendsLeft blendsB.narrows.1 parts attendsLeaf blends

/-- A pact takes in a leaf that none of its leaves refuses, with all that they
come together to. -/
theorem IsPact.extend :
    gathering.IsPact role key
      (Leaf.Fused role.operation fun leaf => among leaf ∨ leaf = a) := by
  refine ⟨fun leaf => pact.attends_of_fused stable attends,
    fun _ _ _ => .merged, fun b c fusedB fusedC => ?_⟩
  induction fusedC generalizing b with
  | @given c isGiven =>
      rcases isGiven with isAmong | rfl
      · exact (pact.spares_of_fused tight even stable attends spares fusedB).1 _
          isAmong
      · rcases pact.among_or_narrows_of_fused tight even stable attends
          fusedB with isAmong | narrows
        · exact fun clash => spares b isAmong clash.symm
        · exact (pact.attends_of_fused stable attends fusedB).peace_of_narrows
            tight attends narrows
  | @merged left right c fusedLeft fusedRight merges peaceLeft peaceRight =>
      intro clash
      have attendsB := pact.attends_of_fused stable attends fusedB
      have attendsLeft := pact.attends_of_fused stable attends fusedLeft
      have attendsRight := pact.attends_of_fused stable attends fusedRight
      rcases even.clashes_or_of_blends tight stable attendsLeft attendsRight
        (attendsLeft.merged stable attendsRight merges) attendsB
        (even.blends_of_merge tight attendsLeft attendsRight merges) clash with
        refused | ⟨joined, joins, refused⟩
      · exact peaceLeft b fusedB refused
      · exact peaceRight joined (.merged fusedB fusedLeft joins) refused

end Growing

end Even
end Meeting

/-- The pacts of a chain make one pact. -/
theorem IsPact.sUnion
    {chain : Set (Set Leaf)}
    (pacts : ∀ among ∈ chain, gathering.IsPact role key among)
    (isChain : IsChain (· ⊆ ·) chain) :
    gathering.IsPact role key (⋃₀ chain) := by
  have shared : ∀ a b, (⋃₀ chain) a → (⋃₀ chain) b →
      ∃ among ∈ chain, among a ∧ among b := by
    rintro a b ⟨first, isFirst, isA⟩ ⟨second, isSecond, isB⟩
    rcases isChain.total isFirst isSecond with below | above
    · exact ⟨second, isSecond, below isA, isB⟩
    · exact ⟨first, isFirst, isA, above isB⟩
  constructor
  · rintro leaf ⟨among, isPact, isLeaf⟩
    exact (pacts among isPact).attends leaf isLeaf
  · intro a b leaf isA isB merges
    obtain ⟨among, isPact, isA, isB⟩ := shared a b isA isB
    exact ⟨among, isPact, (pacts among isPact).merged a b leaf isA isB merges⟩
  · intro a b isA isB
    obtain ⟨among, isPact, isA, isB⟩ := shared a b isA isB
    exact (pacts among isPact).peace a b isA isB

section Steady

variable (tight : gathering.discipline.tight = true)
  (stable : Leaf.IsStable (Leaf.IsSound gathering.discipline))
include tight stable

/-- Every pact is in an alliance. -/
theorem IsPact.exists_isAlliance
    (even : gathering.IsEven role key)
    (pact : gathering.IsPact role key among) :
    ∃ alliance, gathering.IsAlliance role key alliance ∧
      ∀ leaf, among leaf → alliance leaf := by
  obtain ⟨alliance, within, isPact, greatest⟩ := zorn_subset_nonempty
    {among : Set Leaf | gathering.IsPact role key among}
    (fun chain pacts isChain _ => ⟨⋃₀ chain, .sUnion pacts isChain,
      fun _ => Set.subset_sUnion_of_mem⟩) among pact
  refine ⟨alliance, ⟨isPact, fun leaf attends spares => ?_⟩, within⟩
  exact greatest (isPact.extend tight even stable attends spares)
    (fun other isOther => .given (.inl isOther)) (.given (.inr rfl))

end Steady

/-- Where no leaves refuse each other, two that may meet do not. -/
theorem IsOpen.peace
    (isOpen : gathering.IsOpen role key)
    (familyA : gathering.family role key a)
    (familyB : gathering.family role key b) :
    ¬a.Clashes role.operation b := by
  obtain ⟨node, merges⟩ := isOpen a b familyA familyB
  obtain ⟨swapped, mergesSwapped⟩ := isOpen b a familyB familyA
  rintro (⟨error, failure⟩ | ⟨error, failure⟩)
  · cases merges.symm.trans failure
  · cases mergesSwapped.symm.trans failure

/-- Where no leaves refuse each other, all that may meet are one alliance. -/
theorem IsOpen.isAlliance_attends
    (stable : Leaf.IsStable (Leaf.IsSound gathering.discipline))
    (isOpen : gathering.IsOpen role key) :
    gathering.IsAlliance role key (gathering.Attends role key) :=
  ⟨⟨fun _ => id, fun _ _ _ => .merged stable,
    fun _ _ attendsA attendsB => isOpen.peace attendsA.family attendsB.family⟩,
    fun _ attends _ => attends⟩

theorem IsOpen.isLevel
    (isOpen : gathering.IsOpen role key)
    (attends : ∀ leaf, among leaf → gathering.Attends role key leaf) :
    gathering.IsLevel role key among :=
  fun a b _ isA isB _ _ attendsC =>
    iff_of_false (isOpen.peace (attends a isA).family attendsC.family)
      (isOpen.peace (attends b isB).family attendsC.family)

/-- A leaf that parts from one of some that refuse the same leaves refuses them
too. -/
theorem IsEven.isLevel_insert
    (even : gathering.IsEven role key)
    (level : gathering.IsLevel role key among)
    (attendsA : gathering.Attends role key a)
    (attendsB : gathering.Attends role key b)
    (isA : among a)
    (parts : a.Parts role.operation b) :
    gathering.IsLevel role key fun leaf => leaf = b ∨ among leaf := by
  have narrow := even.narrow_of_parts attendsA attendsB parts
  have alike : ∀ leaf c, leaf = b ∨ among leaf → leaf.isBroad = false →
      gathering.Attends role key c →
        (leaf.Clashes role.operation c ↔ a.Clashes role.operation c) := by
    rintro leaf c (rfl | isLeaf) narrowLeaf attendsC
    · exact (even.clashes_iff_of_parts attendsA attendsB attendsC parts).symm
    · exact level leaf a c isLeaf isA narrowLeaf narrow.1 attendsC
  intro first second c isFirst isSecond narrowFirst narrowSecond attendsC
  rw [alike first c isFirst narrowFirst attendsC,
    alike second c isSecond narrowSecond attendsC]

namespace IsAlliance

variable (alliance : gathering.IsAlliance role key among)
include alliance

/-- Where no leaves refuse each other, an alliance has all that may meet. -/
theorem of_isOpen
    (isOpen : gathering.IsOpen role key)
    (attends : gathering.Attends role key a) :
    among a :=
  alliance.full a attends fun other isOther => isOpen.peace attends.family
    (alliance.attends other isOther).family

theorem of_isBroad
    (attends : gathering.Attends role key a)
    (broad : a.isBroad = true) :
    among a :=
  alliance.full a attends fun _ _ => Leaf.not_clashes_of_isBroad broad

/-- A leaf that refuses the same leaves as one of an alliance is in it. -/
theorem of_clashes_iff
    (isA : among a)
    (attends : gathering.Attends role key b)
    (alike : ∀ c, gathering.Attends role key c →
      (a.Clashes role.operation c ↔ b.Clashes role.operation c)) :
    among b := by
  refine alliance.full b attends fun other isOther clash => ?_
  exact alliance.peace a other isA isOther
    ((alike other (alliance.attends other isOther)).mpr clash)

variable (tight : gathering.discipline.tight = true)
  (stable : Leaf.IsStable (Leaf.IsSound gathering.discipline))
include tight stable

/-- A leaf is in an alliance if one that narrows it is. -/
theorem of_narrows
    (even : gathering.IsEven role key)
    (isA : among a)
    (attends : gathering.Attends role key b)
    (narrows : a.Narrows gathering.discipline.types role.operation b) :
    among b := by
  refine alliance.full b attends fun other isOther clash => ?_
  exact alliance.peace a other isA isOther (even.clashes_of_narrows tight stable
    (alliance.attends a isA) attends (alliance.attends other isOther) narrows
    clash)

theorem iff_of_narrows
    (even : gathering.IsEven role key)
    (attendsA : gathering.Attends role key a)
    (attendsB : gathering.Attends role key b)
    (narrowsA : a.Narrows gathering.discipline.types role.operation b)
    (narrowsB : b.Narrows gathering.discipline.types role.operation a) :
    among a ↔ among b :=
  ⟨fun isA => alliance.of_narrows tight stable even isA attendsB narrowsA,
    fun isB => alliance.of_narrows tight stable even isB attendsA narrowsB⟩

/-- A leaf that comes of two is in an alliance exactly where both of them
are. -/
theorem merged_iff
    (steady : gathering.IsOpen role key ∨ gathering.IsEven role key)
    (attendsA : gathering.Attends role key a)
    (attendsB : gathering.Attends role key b)
    (merges : Leaf.merge role.operation a b = .ok (.leaf leaf)) :
    among leaf ↔ among a ∧ among b := by
  refine ⟨fun isLeaf => ?_,
    fun ⟨isA, isB⟩ => alliance.merged a b leaf isA isB merges⟩
  rcases steady with isOpen | even
  · exact ⟨alliance.of_isOpen isOpen attendsA,
      alliance.of_isOpen isOpen attendsB⟩
  · obtain ⟨narrowsA, narrowsB⟩ :=
      (even.blends_of_merge tight attendsA attendsB merges).narrows
    exact ⟨alliance.of_narrows tight stable even isLeaf attendsA narrowsA,
      alliance.of_narrows tight stable even isLeaf attendsB narrowsB⟩

/-- Leaves that are the same are in the same alliances. -/
theorem same_iff
    (steady : gathering.IsOpen role key ∨ gathering.IsEven role key)
    (attendsA : gathering.Attends role key a)
    (attendsB : gathering.Attends role key b)
    (alike : a.same b = true) :
    among a ↔ among b := by
  have passes := fun stone => @Leaf.passes_iff_of_same _ role.operation stone
    _ _ alike tight attendsA.normal.lawful_leaf.keeps
      attendsB.normal.lawful_leaf.keeps
  rcases steady with isOpen | even
  · exact iff_of_true (alliance.of_isOpen isOpen attendsA)
      (alliance.of_isOpen isOpen attendsB)
  · exact alliance.iff_of_narrows tight stable even attendsA attendsB
      (fun stone => (passes stone).mp) fun stone => (passes stone).mpr

end IsAlliance

section Apart

variable {first second : Leaf}
  (tight : gathering.discipline.tight = true)
  (stable : Leaf.IsStable (Leaf.IsSound gathering.discipline))
  (attendsA : gathering.Attends role key a)
  (attendsB : gathering.Attends role key b)
  (attendsFirst : gathering.Attends role key first)
  (attendsSecond : gathering.Attends role key second)
include tight stable attendsA attendsB attendsFirst attendsSecond

/-- What comes of two leaves of one weight that stay side by side under union
stands for them. -/
theorem IsEven.stand_of_weights
    (even : gathering.IsEven role key)
    (isUnion : role.operation = .union)
    (kinds : a.isIds = b.isIds)
    (weights : a.boost.equals b.boost = true)
    (recastFirst : a.Recasts first ∨ b.Recasts first)
    (recastSecond : a.Recasts second ∨ b.Recasts second) :
    (∀ c, gathering.Attends role key c →
      (first.Clashes role.operation c ↔ second.Clashes role.operation c)) ∧
        ∀ among, gathering.IsAlliance role key among →
          (among first ∧ among second ↔ among a ∧ among b) := by
  have weighed := attendsA.normal.lawful_leaf.weighed
  have like : ∀ leaf, a.boost.equals leaf.boost = true →
      leaf.isIds = a.isIds →
        a.Narrows gathering.discipline.types role.operation leaf ∧
          leaf.Narrows gathering.discipline.types role.operation a := by
    intro leaf equal kind
    rw [isUnion]
    exact ⟨Leaf.narrows_union kind.symm equal,
      Leaf.narrows_union kind ((Binary64.equals_comm _ _).trans equal)⟩
  have likeRecast : ∀ leaf, a.Recasts leaf ∨ b.Recasts leaf →
      a.Narrows gathering.discipline.types role.operation leaf ∧
        leaf.Narrows gathering.discipline.types role.operation a := by
    rintro leaf (recast | recast)
    · have akin := recast.isAkin attendsA.normal.lawful_leaf.keeps.isFilled
      exact like leaf (akin.boost ▸ weighed) akin.isIds
    · have akin := recast.isAkin attendsB.normal.lawful_leaf.keeps.isFilled
      exact like leaf (akin.boost ▸ weights) (akin.isIds.trans kinds.symm)
  obtain ⟨toFirst, ofFirst⟩ := likeRecast first recastFirst
  obtain ⟨toSecond, ofSecond⟩ := likeRecast second recastSecond
  obtain ⟨toB, ofB⟩ := like b weights kinds.symm
  constructor
  · intro c attendsC
    exact ⟨fun clash => even.clashes_of_narrows tight stable attendsSecond
        attendsFirst attendsC (fun stone passes => toFirst stone
          (ofSecond stone passes)) clash,
      fun clash => even.clashes_of_narrows tight stable attendsFirst
        attendsSecond attendsC (fun stone passes => toSecond stone
          (ofFirst stone passes)) clash⟩
  · intro among alliance
    rw [← alliance.iff_of_narrows tight stable even attendsA attendsFirst
      toFirst ofFirst, ← alliance.iff_of_narrows tight stable even attendsA
      attendsSecond toSecond ofSecond, ← alliance.iff_of_narrows tight stable
      even attendsA attendsB toB ofB]

/-- What comes of two leaves that stay side by side stands for them: it refuses
the same leaves, and is in the alliances that they are in. -/
theorem stand_of_parts
    (steady : gathering.IsOpen role key ∨ gathering.IsEven role key)
    (parts : a.Parts role.operation b)
    (recastFirst : a.Recasts first ∨ b.Recasts first)
    (recastSecond : a.Recasts second ∨ b.Recasts second)
    (kept : (first = a ∧ second = b) ∨ (first = b ∧ second = a) ∨
      role.operation = .union ∧ a.isIds = b.isIds ∧
        (a.boost.equals b.boost = true ∨ b.boost.equals a.boost = true)) :
    (∀ c, gathering.Attends role key c →
      (first.Clashes role.operation c ↔ second.Clashes role.operation c)) ∧
        ∀ among, gathering.IsAlliance role key among →
          (among first ∧ among second ↔ among a ∧ among b) := by
  rcases steady with isOpen | even
  · exact ⟨fun c attendsC => iff_of_false
      (isOpen.peace attendsFirst.family attendsC.family)
      (isOpen.peace attendsSecond.family attendsC.family),
      fun among alliance => iff_of_true
        ⟨alliance.of_isOpen isOpen attendsFirst,
          alliance.of_isOpen isOpen attendsSecond⟩
        ⟨alliance.of_isOpen isOpen attendsA,
          alliance.of_isOpen isOpen attendsB⟩⟩
  have alike := fun c attendsC =>
    even.clashes_iff_of_parts (c := c) attendsA attendsB attendsC parts
  rcases kept with ⟨rfl, rfl⟩ | ⟨rfl, rfl⟩ | ⟨isUnion, kinds, weights⟩
  · exact ⟨alike, fun _ _ => .rfl⟩
  · exact ⟨fun c attendsC => (alike c attendsC).symm, fun _ _ => and_comm⟩
  · refine even.stand_of_weights tight stable attendsA attendsB attendsFirst
      attendsSecond isUnion kinds ?_ recastFirst recastSecond
    rcases weights with weights | weights
    · exact weights
    · exact (Binary64.equals_comm _ _).trans weights

end Apart

/-- Leaves of which the narrow ones refuse the same leaves are in one
alliance. -/
theorem exists_isAlliance
    (tight : gathering.discipline.tight = true)
    (stable : Leaf.IsStable (Leaf.IsSound gathering.discipline))
    (steady : gathering.IsOpen role key ∨ gathering.IsEven role key)
    (attends : ∀ leaf, among leaf → gathering.Attends role key leaf)
    (level : gathering.IsLevel role key among) :
    ∃ alliance, gathering.IsAlliance role key alliance ∧
      ∀ leaf, among leaf → alliance leaf := by
  rcases steady with isOpen | even
  · exact ⟨_, isOpen.isAlliance_attends stable, attends⟩
  have none : gathering.IsPact role key fun _ => False :=
    ⟨fun _ => False.elim, fun _ _ _ => False.elim, fun _ _ => False.elim⟩
  by_cases narrow : ∃ leaf, among leaf ∧ leaf.isBroad = false
  · obtain ⟨first, isFirst, narrowFirst⟩ := narrow
    have alone := none.extend tight even stable (attends first isFirst)
      fun _ => False.elim
    obtain ⟨alliance, isAlliance, within⟩ :=
      alone.exists_isAlliance tight stable even
    refine ⟨alliance, isAlliance, fun leaf isLeaf => ?_⟩
    cases narrowLeaf : leaf.isBroad with
    | true => exact isAlliance.of_isBroad (attends leaf isLeaf) narrowLeaf
    | false =>
        exact isAlliance.of_clashes_iff (within first (.given (.inr rfl)))
          (attends leaf isLeaf)
          fun c => level first leaf c isFirst isLeaf narrowFirst narrowLeaf
  · obtain ⟨alliance, isAlliance, -⟩ := none.exists_isAlliance tight stable even
    refine ⟨alliance, isAlliance, fun leaf isLeaf => ?_⟩
    refine isAlliance.of_isBroad (attends leaf isLeaf) ?_
    exact Bool.not_eq_false _ ▸ fun isNarrow =>
      narrow ⟨leaf, isLeaf, isNarrow⟩

end Gathering
end SearchQuery
