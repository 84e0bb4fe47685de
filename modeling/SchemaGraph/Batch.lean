import SchemaGraph.Config
import SchemaGraph.Graph.Pending
import SchemaGraph.MetaSchema.Drafts
import SchemaGraph.Shape.Reading

/-! Compiling a batch of documents.

Documents are compiled in the order in which they are given, each into the
registry that the earlier ones left (`compile`). When all of them are in, the
fields of their objects are built (`compileAll`). A document that is refused ends
the batch. -/
namespace SchemaGraph

/-- What the meta-schema says against a document, as far as the mode asks. In the strict
mode it is a fault. -/
def checkDocument (mode : CheckMode) (id : Json) (document : Json) :
    Except Fault (Option String) := do
  match mode with
  | .off => return none
  | .warn => MetaSchema.problem? document
  | .error =>
    match ← MetaSchema.problem? document with
    | some problem => throw (.invalidDocument problem id)
    | none => return none

def identifierOf (document : Json) : Except Fault Json :=
  match document with
  | .obj _ => match document.present? "$id" with
    | some id => .ok id
    | none => .error .missingIdentifier
  | _ => .error (.wrongKind .object)

/-- The position that an identifier names; one that says nothing names none. -/
def positionOf : Json → Except Fault String
  | .str text => .ok text
  | id => if id.truthy then .error (.wrongKind .text) else .ok ""

namespace Config

/-- What a configuration and a customizer contribute to building types. -/
def setting (config : Config) (customize? : Option Customizer) : Setting :=
  { emptyField := config.emptyField, customize? }

end Config

namespace Build

/-- The type of a schema that stands at the position that `name` gives. -/
def buildSchema (setting : Setting) (name schema : Json) : Build GraphType := do
  let shape ← lift (Shape.ofJson "#" schema)
  let position ← lift (positionOf name)
  buildType setting position shape

/-- Takes note of an identifier that is already in use, where that is allowed. -/
def checkUnused (config : Config) (id : Json) : Build Unit := do
  match ← find? id with
  | none => return
  | some _ =>
    if config.allowDuplicates.truthy then record (.redeclared id)
    else throw (.duplicateIdentifier id)

def compile (config : Config) (customize? : Option Customizer) (document : Json) :
    Build Unit := do
  let id ← lift (identifierOf document)
  match ← lift (checkDocument config.checkMode id document) with
  | some problem => record (.invalidDocument id problem)
  | none => pure ()
  checkUnused config id
  let type ← buildSchema (config.setting customize?) id document
  enter id type
  record (.compiled id)

/-- Compiles documents in order and builds the fields of their objects. -/
def compileAll (config : Config) (customize? : Option Customizer) (documents : List Json) :
    Build Unit := do
  documents.forM (compile config customize?)
  resolvePending

end Build

/-! ### Documents as text -/

/-- A document given as an object or as JSON text. -/
def documentOf : Json → Except Fault Json
  | .obj members => .ok (.obj members)
  | .str text => (Json.read text).mapError .ofText
  | _ => .error (.wrongKind .text)

/-- The documents of a batch: one, or an array of them. All are read before any is
compiled. -/
def documentsOf : Json → Except Fault (List Json)
  | .arr items => items.mapM documentOf
  | item => return [← documentOf item]

end SchemaGraph
