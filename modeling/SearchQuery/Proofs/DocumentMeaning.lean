import SearchQuery.Node.Document
import SearchQuery.Proofs.Matching

/-!
# What documents say

The document of a tree can be read without the tree: an object whose one member
is `bool` stands for clauses, and any other document for a condition. Read so,
the document of a tree says what the tree says, whatever the documents of its
leaves are taken to say.
-/

namespace SearchQuery

section Judging

variable (judge : Leaf → Bool)

mutual

/-- What a tree says where a judge says it of leaves: all that must hold does,
nothing that must not hold does, and enough alternatives hold if there are
any. -/
def Node.holdsWith : Node → Bool
  | .leaf content => judge content
  | .clauses ⟨must, filter, should, mustNot, _, minimumShould⟩ =>
      (judgeGroups must).all id && (judgeGroups filter).all id &&
        (judgeGroups mustNot).all not &&
        Clauses.meetsMinimum minimumShould (judgeGroups should)

/-- What the members of groups say. -/
def Node.judgeGroups : List (Group Node) → List Bool
  | [] => []
  | ⟨_, members⟩ :: rest => judgeMembers members ++ judgeGroups rest

/-- What the members of a group say. -/
def Node.judgeMembers : List Node → List Bool
  | [] => []
  | member :: rest => member.holdsWith :: judgeMembers rest

end

end Judging

/-- Every leaf of a tree states a condition, and every node has clauses. -/
inductive Node.IsStated : Node → Prop
  | leaf {content : Leaf} (condition : content.isNothing = false) :
    IsStated (.leaf content)
  | clauses {content : Clauses Node} (nonempty : content.isEmpty = false)
      (members : ∀ occur, ∀ node ∈ content.nodes occur, IsStated node) :
      IsStated (.clauses content)

namespace Json

/-- What clauses say, given what the documents under each name say and the
number of alternatives that is asked for. Alternatives without such a number do
not hold. -/
def clausesHold (verdicts : List (String × List Bool)) (minimum : Option Json) :
    Bool :=
  let among (name : String) : List Bool := (verdicts.lookup name).getD []
  (among "must").all id && (among "filter").all id &&
    (among "must_not").all not &&
    match verdicts.lookup "should", minimum with
    | none, _ => true
    | some alternatives, some (.int minimum) => minimum ≤ alternatives.countP id
    | some _, _ => false

section Reading

variable (judge : Json → Bool)

mutual

/-- What a document says where a judge says it of documents that do not stand
for clauses. -/
def verdict : Json → Bool
  | .obj [("bool", .obj members)] =>
      clausesHold (memberVerdicts members)
        (members.lookup "minimum_should_match")
  | document => judge document

/-- What the documents under each name say. There is one document under a name,
or an array. -/
def memberVerdicts : List (String × Json) → List (String × List Bool)
  | [] => []
  | (name, .arr documents) :: rest =>
      (name, verdicts documents) :: memberVerdicts rest
  | (name, document) :: rest =>
      (name, [verdict document]) :: memberVerdicts rest

/-- What documents say, one by one. -/
def verdicts : List Json → List Bool
  | [] => []
  | document :: rest => verdict document :: verdicts rest

end

end Reading

end Json

section Trees

variable {engine : Engine} {stored : StoredDocument}

mutual

/-- A tree holds for a stored document where it does with the verdicts on its
leaves. -/
theorem Node.holds_eq_holdsWith :
    ∀ node : Node, node.holds engine stored =
      node.holdsWith (Leaf.holds engine stored)
  | .leaf content => by rw [holds, holdsWith]
  | .clauses ⟨must, filter, should, mustNot, operators, minimumShould⟩ => by
      rw [holds, holdsWith, verdictsOfGroups_eq_judgeGroups must,
        verdictsOfGroups_eq_judgeGroups filter,
        verdictsOfGroups_eq_judgeGroups should,
        verdictsOfGroups_eq_judgeGroups mustNot]
      rfl

theorem Node.verdictsOfGroups_eq_judgeGroups :
    ∀ groups : List (Group Node), verdictsOfGroups engine stored groups =
      judgeGroups (Leaf.holds engine stored) groups
  | [] => rfl
  | ⟨_, members⟩ :: rest => by
      rw [verdictsOfGroups, judgeGroups,
        verdictsOfMembers_eq_judgeMembers members,
        verdictsOfGroups_eq_judgeGroups rest]

theorem Node.verdictsOfMembers_eq_judgeMembers :
    ∀ members : List Node, verdictsOfMembers engine stored members =
      judgeMembers (Leaf.holds engine stored) members
  | [] => rfl
  | member :: rest => by
      rw [verdictsOfMembers, judgeMembers, holds_eq_holdsWith member,
        verdictsOfMembers_eq_judgeMembers rest]

end

variable {judge : Leaf → Bool}

theorem Node.judgeMembers_eq_map (members : List Node) :
    judgeMembers judge members = members.map (holdsWith judge) := by
  induction members with
  | nil => rfl
  | cons member rest hypothesis => rw [judgeMembers, hypothesis, List.map_cons]

theorem Node.judgeGroups_eq_map (groups : List (Group Node)) :
    judgeGroups judge groups = (Bucket.nodes groups).map (holdsWith judge) := by
  induction groups with
  | nil => rfl
  | cons group rest hypothesis =>
      rw [judgeGroups, hypothesis, judgeMembers_eq_map, ← List.map_append]
      rfl

/-- What clauses say is decided by what their members say. -/
theorem Node.holdsWith_clauses (clauses : Clauses Node) :
    (Node.clauses clauses).holdsWith judge =
      (((clauses.nodes .must).map (holdsWith judge)).all id &&
        ((clauses.nodes .filter).map (holdsWith judge)).all id &&
        ((clauses.nodes .mustNot).map (holdsWith judge)).all not &&
        Clauses.meetsMinimum clauses.minimumShould
          ((clauses.nodes .should).map (holdsWith judge))) := by
  obtain ⟨must, filter, should, mustNot, operators, minimumShould⟩ := clauses
  rw [holdsWith]
  simp only [judgeGroups_eq_map]
  rfl

theorem Node.memberDocuments_eq_map (members : List Node) :
    memberDocuments members = members.map document := by
  induction members with
  | nil => rfl
  | cons member rest hypothesis =>
      rw [memberDocuments, hypothesis, List.map_cons]

theorem Node.nodes_bucketDocuments (groups : List (Group Node)) :
    Bucket.nodes (bucketDocuments groups) =
      (Bucket.nodes groups).map document := by
  induction groups with
  | nil => rfl
  | cons group rest hypothesis =>
      simp only [Bucket.nodes] at hypothesis ⊢
      rw [bucketDocuments, List.flatMap_cons, hypothesis, groupDocuments,
        memberDocuments_eq_map, List.flatMap_cons, List.map_append]

theorem Node.nodes_clauseDocuments (clauses : Clauses Node) (occur : Occur) :
    (clauseDocuments clauses).nodes occur =
      (clauses.nodes occur).map document := by
  obtain ⟨must, filter, should, mustNot, operators, minimumShould⟩ := clauses
  cases occur <;> exact nodes_bucketDocuments _

/-- There are documents of clauses where there are clauses. -/
theorem Node.isEmpty_clauseDocuments (clauses : Clauses Node) :
    (clauseDocuments clauses).isEmpty = clauses.isEmpty := by
  have groups : ∀ bucket : List (Group Node), (bucketDocuments bucket).isEmpty =
      bucket.isEmpty := by
    intro bucket
    cases bucket <;> rfl
  obtain ⟨must, filter, should, mustNot, operators, minimumShould⟩ := clauses
  simp only [clauseDocuments, Clauses.isEmpty, groups]

theorem Node.minimumShould_clauseDocuments (clauses : Clauses Node) :
    (clauseDocuments clauses).minimumShould = clauses.minimumShould := by
  obtain ⟨must, filter, should, mustNot, operators, minimumShould⟩ := clauses
  rfl

end Trees

namespace Json

/-- The document is an object. -/
def IsObject (document : Json) : Prop := ∃ members, document = .obj members

variable {judge : Json → Bool}

theorem verdicts_eq_map (documents : List Json) :
    verdicts judge documents = documents.map (verdict judge) := by
  induction documents with
  | nil => rfl
  | cons document rest hypothesis => rw [verdicts, hypothesis, List.map_cons]

theorem memberVerdicts_append (front back : List (String × Json)) :
    memberVerdicts judge (front ++ back) =
      memberVerdicts judge front ++ memberVerdicts judge back := by
  induction front with
  | nil => rfl
  | cons member rest hypothesis =>
      obtain ⟨name, content⟩ := member
      cases content <;> simp only [List.cons_append, memberVerdicts, hypothesis]

/-- The clauses of a kind are read as they were written, one of them or several.
A single one is not taken for an array of documents, since it is an object. -/
theorem memberVerdicts_clauseMember
    (occur : Occur)
    {documents : List Json}
    (objects : ∀ document ∈ documents, document.IsObject) :
    memberVerdicts judge (clauseMember occur documents) =
      if documents = [] then []
      else [(occur.name, documents.map (verdict judge))] := by
  match documents with
  | [] => rfl
  | [document] =>
      obtain ⟨members, rfl⟩ := objects document List.mem_cons_self
      simp [clauseMember, memberVerdicts]
  | first :: second :: rest =>
      simp [clauseMember, memberVerdicts, verdicts_eq_map]

/-- The documents under the name of a kind are those of the clauses of the
kind. -/
theorem lookup_memberVerdicts
    {documents : Occur → List Json}
    {others : List (String × Json)}
    (objects : ∀ occur, ∀ document ∈ documents occur, document.IsObject)
    (apart : ∀ occur : Occur,
      (memberVerdicts judge others).lookup occur.name = none)
    (occur : Occur) :
    (memberVerdicts judge
      (Occur.all.flatMap (fun occur => clauseMember occur (documents occur)) ++
        others)).lookup occur.name =
      if documents occur = [] then none
      else some ((documents occur).map (verdict judge)) := by
  have named : ∀ kind,
      (memberVerdicts judge (clauseMember kind (documents kind))).lookup
        occur.name =
        if kind = occur ∧ documents kind ≠ [] then
          some ((documents kind).map (verdict judge))
        else none := by
    intro kind
    rw [memberVerdicts_clauseMember kind (objects kind)]
    by_cases absent : documents kind = []
    · simp [absent]
    · cases kind <;> cases occur <;> simp [absent, Occur.name]
  simp only [Occur.all, List.flatMap_cons, List.flatMap_nil, List.append_nil,
    memberVerdicts_append, List.lookup_append, named, apart]
  cases occur <;> simp

/-- No kind of clauses has the name under which the number of alternatives
stands. -/
theorem lookup_minimum (documents : Occur → List Json)
    (others : List (String × Json)) :
    (Occur.all.flatMap (fun occur => clauseMember occur (documents occur)) ++
      others).lookup
        "minimum_should_match" =
      others.lookup "minimum_should_match" := by
  have absent : ∀ occur documents,
      (clauseMember occur documents).lookup "minimum_should_match" = none := by
    intro occur documents
    match documents with
    | [] => rfl
    | [document] => cases occur <;> rfl
    | first :: second :: rest => cases occur <;> rfl
  simp only [Occur.all, List.flatMap_cons, List.flatMap_nil, List.append_nil,
    List.lookup_append, absent, Option.none_or]

end Json

section Writing

variable {judge : Json → Bool}

/-- The document of a leaf is an object and does not stand for clauses. -/
theorem Leaf.isObject_and_verdict_document (leaf : Leaf) :
    leaf.document.IsObject ∧ leaf.document.verdict judge =
      judge leaf.document := by
  have condition : ∀ kind content, kind ≠ "bool" →
      (Json.obj [(kind, content)]).verdict judge =
        judge (.obj [(kind, content)]) := by
    intro kind content differs
    rw [Json.verdict]
    rintro members ⟨rfl⟩
    exact differs rfl
  have nothing : (Json.obj []).verdict judge = judge (.obj []) := by
    rw [Json.verdict]
    rintro members ⟨⟩
  cases leaf with
  | nothing => exact ⟨⟨_, rfl⟩, nothing⟩
  | phrase content =>
      refine ⟨⟨_, rfl⟩, condition _ _ ?_⟩
      unfold Phrase.kind
      split <;> decide
  | pattern content =>
      refine ⟨⟨_, rfl⟩, condition _ _ ?_⟩
      unfold Matcher.kind
      split <;> decide
  | _ => exact ⟨⟨_, rfl⟩, condition _ _ (by decide)⟩

namespace Clauses

/-- What the documents of clauses say together. -/
def verdict (judge : Json → Bool) (clauses : Clauses Json) : Bool :=
  ((clauses.nodes .must).map (Json.verdict judge)).all id &&
    ((clauses.nodes .filter).map (Json.verdict judge)).all id &&
    ((clauses.nodes .mustNot).map (Json.verdict judge)).all not &&
    meetsMinimum clauses.minimumShould
      ((clauses.nodes .should).map (Json.verdict judge))

variable {clauses : Clauses Json}

theorem nodes_eq_nil_of_bucket {occur : Occur}
    (noGroups : clauses.bucket occur = []) :
    clauses.nodes occur = [] := by
  rw [nodes, noGroups]
  rfl

/-- The only clause that must hold says what the clauses say, where none is an
alternative or must not hold. -/
theorem verdict_sole
    {sole : Json}
    (noAlternatives : clauses.should = [])
    (noExclusions : clauses.mustNot = [])
    (only : clauses.nodes .must ++ clauses.nodes .filter = [sole]) :
    sole.verdict judge = clauses.verdict judge := by
  have noShould : clauses.nodes .should = [] :=
    nodes_eq_nil_of_bucket noAlternatives
  have noMustNot : clauses.nodes .mustNot = [] :=
    nodes_eq_nil_of_bucket noExclusions
  rw [verdict, ← List.all_append, ← List.map_append, only, noShould, noMustNot]
  simp [meetsMinimum]

/-- Clauses that are written by kind, with how many alternatives it takes where
there are some, say what they say together. -/
theorem verdict_kinds
    (objects : ∀ occur, ∀ document ∈ clauses.nodes occur, document.IsObject) :
    (Json.obj [("bool", .obj <|
      Occur.all.flatMap
        (fun occur => clauseMember occur (clauses.nodes occur)) ++
        (if clauses.should.isEmpty then []
          else [("minimum_should_match",
            .int clauses.minimumShould)]))]).verdict judge =
      clauses.verdict judge := by
  generalize written : (if clauses.should.isEmpty then []
    else [("minimum_should_match", Json.int clauses.minimumShould)]) = minimum
  have apart :
      ∀ occur : Occur,
        (Json.memberVerdicts judge minimum).lookup occur.name = none := by
    intro occur
    rw [← written]
    cases clauses.should.isEmpty <;> cases occur <;> rfl
  have found := fun occur => Json.lookup_memberVerdicts objects apart occur
  have must := found .must
  have filter := found .filter
  have mustNot := found .mustNot
  have should := found .should
  simp only [Occur.name] at must filter mustNot should
  have listed : ∀ documents : List Json,
      (if documents = [] then none
        else some (documents.map (Json.verdict judge))).getD [] =
        documents.map (Json.verdict judge) := by
    intro documents
    cases documents <;> rfl
  rw [Json.verdict, Json.lookup_minimum]
  unfold Json.clausesHold
  dsimp only
  rw [must, filter, mustNot, should, listed, listed, listed, verdict]
  congr 1
  by_cases noAlternatives : clauses.nodes .should = []
  · rw [if_pos noAlternatives, noAlternatives]
    rfl
  · have isThere : clauses.should.isEmpty = false := by
      rw [Bool.eq_false_iff, ne_eq, List.isEmpty_iff]
      exact fun noGroups => noAlternatives (nodes_eq_nil_of_bucket noGroups)
    rw [if_neg noAlternatives, ← written, isThere]
    simp [meetsMinimum, noAlternatives]

/-- The document of clauses is an object and says what the documents of the
clauses say together. -/
theorem isObject_and_verdict_document
    (judge : Json → Bool)
    (nonempty : clauses.isEmpty = false)
    (objects : ∀ occur, ∀ document ∈ clauses.nodes occur, document.IsObject) :
    clauses.document.IsObject ∧ clauses.document.verdict judge =
      clauses.verdict judge := by
  unfold document
  rw [if_neg (Bool.eq_false_iff.mp nonempty)]
  split
  · rename_i sole noAlternatives noExclusions only
    refine ⟨?_, verdict_sole noAlternatives noExclusions only⟩
    have isMember : sole ∈ clauses.nodes .must ++ clauses.nodes .filter :=
      only ▸ List.mem_singleton_self sole
    rcases List.mem_append.mp isMember with isMember | isMember
    · exact objects .must sole isMember
    · exact objects .filter sole isMember
  · exact ⟨⟨_, rfl⟩, verdict_kinds objects⟩

end Clauses

namespace Node

/-- The document of a stated tree is an object and says what the tree says. -/
theorem isObject_and_verdict_document {node : Node} (stated : node.IsStated) :
    node.document.IsObject ∧
      node.document.verdict judge = node.holdsWith fun leaf =>
        judge leaf.document := by
  induction stated with
  | @leaf content condition =>
      rw [document, holdsWith]
      exact content.isObject_and_verdict_document
  | @clauses content nonempty members hypothesis =>
      have objects : ∀ occur,
          ∀ document ∈ (clauseDocuments content).nodes occur,
          document.IsObject := by
        intro occur document isDocument
        rw [nodes_clauseDocuments] at isDocument
        obtain ⟨node, isMember, rfl⟩ := List.mem_map.mp isDocument
        exact (hypothesis occur node isMember).1
      have agree : ∀ occur,
          ((clauseDocuments content).nodes occur).map (Json.verdict judge) =
          (content.nodes occur).map
            (holdsWith fun leaf => judge leaf.document) := by
        intro occur
        rw [nodes_clauseDocuments, List.map_map]
        exact List.map_congr_left fun node isMember =>
          (hypothesis occur node isMember).2
      obtain ⟨isObject, verdict⟩ := Clauses.isObject_and_verdict_document judge
        ((isEmpty_clauseDocuments content).trans nonempty) objects
      rw [document]
      refine ⟨isObject, ?_⟩
      rw [verdict, holdsWith_clauses, Clauses.verdict, agree, agree,
        agree, agree, minimumShould_clauseDocuments]

/-- A tree in which every leaf states a condition and every node has clauses
says what its document says, whatever the documents of its leaves say. -/
theorem verdict_document (judge : Json → Bool) {node : Node}
    (stated : node.IsStated) :
    node.document.verdict judge = node.holdsWith fun leaf =>
      judge leaf.document :=
  (isObject_and_verdict_document stated).2

/-- A color is there, two of three other things are, and no size is: the
document says so to those who see all of them but the taste and the size. The
color stands in the document without the clauses around it, and so does the
size. -/
theorem verdict_document_color :
    let has (field : String) : Node := .leaf (.presence ⟨field, false⟩)
    let alone (field : String) : Node := .clauses
      { Clauses.conjunction with must := [⟨.field field, [has field]⟩] }
    let tree : Node := .clauses
      { must := [⟨.operator, [alone "color"]⟩]
        filter := []
        should := [⟨.field "shape", [has "shape"]⟩,
          ⟨.field "taste", [has "taste"]⟩, ⟨.field "weight", [has "weight"]⟩]
        mustNot := [⟨.operator, [alone "size"]⟩]
        operators := ⟨true, true, true⟩
        minimumShould := 2 }
    let isSeen (document : Json) : Bool :=
      [has "color", has "shape", has "weight"].any fun node =>
        node.document.same document
    tree.IsStated ∧ tree.document.verdict isSeen = true := by
  intro has alone tree isSeen
  have hasStated : ∀ field, (has field).IsStated := fun field => .leaf rfl
  have aloneStated : ∀ field, (alone field).IsStated := by
    intro field
    refine .clauses rfl fun occur node isMember => ?_
    cases occur <;> cases isMember
    · exact hasStated field
    · contradiction
  have stated : tree.IsStated := by
    refine .clauses rfl fun occur node isMember => ?_
    cases occur
    · exact List.mem_singleton.mp isMember ▸ aloneStated "color"
    · cases isMember
    · have isThing : node ∈ ["shape", "taste", "weight"].map has := isMember
      obtain ⟨field, _, rfl⟩ := List.mem_map.mp isThing
      exact hasStated field
    · exact List.mem_singleton.mp isMember ▸ aloneStated "size"
  refine ⟨stated, ?_⟩
  rw [verdict_document isSeen stated]
  with_unfolding_all rfl

end Node

end Writing
end SearchQuery
