import SearchQuery.Leaf.Document
import SearchQuery.Node.Basic

/-!
# Documents of trees

A node with clauses is an object with a list for each kind of clause, where a
list of one is written as its element. A node whose only clause must hold is
written as that clause.
-/

namespace SearchQuery

/-- The member for the clauses of one kind: none, one document or a list of
them. -/
def clauseMember (occur : Occur) : List Json → List (String × Json)
  | [] => []
  | [document] => [(occur.name, document)]
  | documents => [(occur.name, .arr documents)]

/-- The document of a node with clauses, given the documents of its clauses. -/
def Clauses.document (clauses : Clauses Json) : Json :=
  if clauses.isEmpty then .obj []
  else
    match clauses.should, clauses.mustNot,
      clauses.nodes .must ++ clauses.nodes .filter with
    | [], [], [single] => single
    | should, _, _ =>
        .obj [("bool", .obj <|
          Occur.all.flatMap
            (fun occur => clauseMember occur (clauses.nodes occur)) ++
            (if should.isEmpty then []
              else [("minimum_should_match", .int clauses.minimumShould)]))]

namespace Node

mutual

/-- The document of a tree. -/
def document : Node → Json
  | .leaf content => content.document
  | .clauses content => (clauseDocuments content).document

/-- The same clauses with their documents in place of their nodes. -/
def clauseDocuments : Clauses Node → Clauses Json
  | ⟨must, filter, should, mustNot, operators, minimumShould⟩ =>
      ⟨bucketDocuments must, bucketDocuments filter, bucketDocuments should,
        bucketDocuments mustNot, operators, minimumShould⟩

/-- The documents of all groups of a bucket. -/
def bucketDocuments : List (Group Node) → List (Group Json)
  | [] => []
  | group :: rest => groupDocuments group :: bucketDocuments rest

/-- The documents of a group, under its key. -/
def groupDocuments : Group Node → Group Json
  | ⟨key, members⟩ => ⟨key, memberDocuments members⟩

/-- The documents of nodes, one by one. -/
def memberDocuments : List Node → List Json
  | [] => []
  | node :: rest => document node :: memberDocuments rest

end

/-- The body of a search request for a tree. -/
def request (node : Node) : Json := .obj [("query", node.document)]

end Node
end SearchQuery
