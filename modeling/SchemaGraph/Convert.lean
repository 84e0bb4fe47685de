import SchemaGraph.Schema.Transform
import SchemaGraph.Schema.Validation

/-! From documents to a schema.

`Build.convert` runs the whole way: the batch is compiled, the roots are made, the
schema is assembled and changed, and what came out is validated unless the
configuration says otherwise. A schema that cannot be assembled because a name is
missing or taken is refused as invalid; an illegal name is refused as such. -/
namespace SchemaGraph

namespace Fault

/-- A fault of the types themselves, rather than of the spelling of a name. -/
def isTypeFault : Fault → Bool
  | nameMissing => true
  | nameNotText => true
  | duplicateType _ => true
  | reservedType _ => true
  | nameless => true
  | noInterfaces _ => true
  | noType _ => true
  | unreadableFields _ (badName _) => false
  | unreadableFields _ _ => true
  | wrongKind .object => false
  | wrongKind .named => false
  | wrongKind _ => true
  | _ => false

/-- A type fault as a fault of the schema. -/
def asInvalid (fault : Fault) : Fault :=
  if fault.isTypeFault then invalidGraph [fault.message] else fault

end Fault

namespace Build

/-- How a configuration makes the roots of a graph, once the batch is compiled. -/
def roots (config : Config) : EntryPoints → Except Fault (Build Roots)
  | .default => do
    let exclude ← config.excluded
    return do return { query? := some (← defaultQuery config.queryName exclude) }
  | .listed listings => .ok do lift (EntryPoints.resolve (← get).entries listings)

/-- The schema for a batch of documents. -/
def convert (config : Config) (customize? : Option Customizer) (entryPoints : EntryPoints)
    (transforms : List Transform) (input : Json) : Build Schema := do
  let makeRoots ← lift (roots config entryPoints)
  let documents ← lift (documentsOf input)
  compileAll config customize? documents
  let roots ← makeRoots
  let types := (← get).namedTypes
  let schema ← tryCatch (assemble types roots) fun fault => throw fault.asInvalid
  let schema ← lift (transforms.foldlM Schema.transform schema)
  if config.validateOutput.truthy then lift schema.validate
  record (.converted (← get).entries.length schema.allNames.length)
  return schema

end Build
end SchemaGraph
