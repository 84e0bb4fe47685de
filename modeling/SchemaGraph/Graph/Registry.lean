import SchemaGraph.Fault
import SchemaGraph.Graph.Types

/-! The registry of a batch.

A registry maps the identifiers of the documents compiled so far to their types,
in the order in which they came, and keeps the queue of field plans that nobody
has built yet. A plan is built once; the result stays with the registry
(`built`). The journal records what was done, in order.

Work on a registry is a `Build`: it can fail, and what it did to the registry
before it failed stays done. -/
namespace SchemaGraph

/-- How much an entry of the journal matters. -/
inductive Level where
  | debug
  | warning
  deriving Repr, DecidableEq

namespace Level

def word : Level → String
  | debug => "DEBUG"
  | warning => "WARNING"

end Level

inductive Event where
  | builtUnion (name : String) (members : Nat)
  | builtObject (name : String)
  | builtEnum (name : String) (values : Nat)
  | customized (name : String) (form : TypeForm)
  | invalidDocument (id : Json) (problem : String)
  | redeclared (id : Json)
  | compiled (id : Json)
  | resolved (plans : Nat)
  | queryFields (fields : Nat)
  | converted (documents types : Nat)
  deriving Repr

namespace Event

/-- The line for an event in a log. Customizations are not logged. -/
def log? : Event → Option (Level × String)
  | builtUnion name members => some (.debug, s!"Built union {name} with {members} members")
  | builtObject name => some (.debug, s!"Built object {name}")
  | builtEnum name values => some (.debug, s!"Built enum {name} with {values} values")
  | customized _ _ => none
  | invalidDocument id problem =>
    some (.warning, s!"Schema {id.display} is not a valid JSON Schema: {problem}")
  | redeclared id =>
    some (.warning, s!"Schema {id.display} is declared more than once; the last one wins")
  | compiled id => some (.debug, s!"Compiled schema {id.display}")
  | resolved plans => some (.debug, s!"Resolved {plans} deferred field maps")
  | queryFields fields => some (.debug, s!"Built {fields} default query fields")
  | converted documents types =>
    some (.debug, s!"Converted {documents} schemas into {types} GraphQL types")

/-- The part of the program that an event is logged under. -/
def logger : Event → String
  | builtUnion _ _ | builtObject _ | builtEnum _ _ | customized _ _ => "analyzer.type_builder"
  | resolved _ => "analyzer.registry"
  | invalidDocument _ _ => "meta_schema"
  | redeclared _ | compiled _ => "reducer"
  | queryFields _ => "entry_points"
  | converted _ _ => "generator"

end Event

structure Registry where
  entries : List (Json × GraphType) := []
  /-- The plans to build, oldest first. -/
  pending : List FieldPlan := []
  /-- Every plan there ever was, oldest first. -/
  plans : List FieldPlan := []
  /-- The fields built so far, by plan. -/
  built : List (Nat × FieldMap) := []
  /-- The next unused key. -/
  nextKey : Nat := 0
  journal : List Event := []

abbrev Build := ExceptT Fault (StateM Registry)

namespace Registry

def empty : Registry := {}

def find? (registry : Registry) (id : Json) : Option GraphType :=
  (registry.entries.find? fun (key, _) => Json.same key id).map (·.2)

/-- Entries with `id` standing for `value`, at its old place and under its old spelling if
it has one. -/
def setEntry {α : Type} (id : Json) (value : α) : List (Json × α) → List (Json × α)
  | [] => [(id, value)]
  | (key, old) :: rest =>
    if Json.same key id then (key, value) :: rest else (key, old) :: setEntry id value rest

def ids (registry : Registry) : List Json := registry.entries.map (·.1)

def namedTypes (registry : Registry) : List GraphType := registry.entries.map (·.2.named)

/-- The work still queued, in objects. -/
def load : List FieldPlan → Nat
  | [] => 0
  | plan :: rest => plan.weight + load rest

/-- The shapes of the properties in plans. -/
def shapes : List FieldPlan → Nat
  | [] => 0
  | plan :: rest => Shape.nodesIn plan.properties + shapes rest

/-- At least as many as there are types, the ones that unbuilt plans will make and the four
scalars included. -/
def capacity (registry : Registry) : Nat :=
  4 + registry.nextKey + shapes registry.plans

end Registry

namespace Build

def on {α : Type} (registry : Registry) (work : Build α) : Except Fault α × Registry :=
  (work.run.run registry).run

/-- Work that leaves the registry alone. -/
def lift {α : Type} (result : Except Fault α) : Build α := ExceptT.mk (pure result)

def record (event : Event) : Build Unit :=
  modify fun registry => { registry with journal := registry.journal ++ [event] }

def freshKey : Build Nat := do
  let registry ← get
  set { registry with nextKey := registry.nextKey + 1 }
  return registry.nextKey

def defer (plan : FieldPlan) : Build Unit :=
  modify fun registry =>
    { registry with pending := registry.pending ++ [plan], plans := registry.plans ++ [plan] }

/-- An identifier as a key of the registry. -/
def keyOf (id : Json) : Except Fault Json :=
  if id.isKey then .ok id else .error (.wrongKind .key)

def find? (id : Json) : Build (Option GraphType) := do
  let id ← lift (keyOf id)
  return (← get).find? id

/-- Enters a type, in place of an older one of that identifier. -/
def enter (id : Json) (type : GraphType) : Build Unit := do
  let id ← lift (keyOf id)
  modify fun registry =>
    { registry with entries := Registry.setEntry id type registry.entries }

end Build
end SchemaGraph
