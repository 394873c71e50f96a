import ApiDocs.Graph.Lookup

/-!
# Constructs

A *construct* is a class that descends from `constructs.Construct`, through any number of base
classes that the graph or its dependencies describe.  The last base need not be described: its name
decides.  Base classes that go in circles are no constructs, so the walk along them keeps the names
that it has seen.
-/

namespace ApiDocs

/-- The full name of the class from which all constructs descend. -/
def constructFqn : String := "constructs.Construct"

namespace Graph

/-- Whether the walk along the base classes reaches the construct class from a type, in at most the
given number of steps and without coming to a name for a second time. -/
def descendsWithin (g : Graph) : Nat → List String → TypeDecl → Bool
  | 0, _, _ => false
  | steps + 1, seen, t =>
    if t.fqn = constructFqn then true
    else if t.fqn ∈ seen then false
    else
      match t.base? with
      | none => false
      | some base =>
        if base = constructFqn then true
        else
          match g.find? base with
          | some next => g.descendsWithin steps (t.fqn :: seen) next
          | none => false

/-- Whether a type is the construct class or descends from it.  A walk that never comes to a name
for a second time has room for one step at each type of the graph, one more at the type that it
starts from, and one to notice a circle. -/
def isConstruct (g : Graph) (t : TypeDecl) : Bool := g.descendsWithin (g.allTypes.length + 2) [] t

end Graph

end ApiDocs
