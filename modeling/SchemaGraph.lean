import SchemaGraph.Main
import SchemaGraph.Json.Printer
import SchemaGraph.Proofs.Graph.Place
import SchemaGraph.Proofs.Graph.Bookkeeping
import SchemaGraph.Proofs.Batch.Compiling
import SchemaGraph.Proofs.Batch.Sources
import SchemaGraph.Proofs.Batch.Correspondence
import SchemaGraph.Proofs.Graph.Admissible
import SchemaGraph.Proofs.Batch.Acceptance
import SchemaGraph.Proofs.Batch.Location
import SchemaGraph.Proofs.Batch.Twins
import SchemaGraph.Proofs.Batch.Locality
import SchemaGraph.Proofs.Batch.Schedule
import SchemaGraph.Proofs.Graph.Draining
import SchemaGraph.Proofs.Graph.Closure
import SchemaGraph.Proofs.Graph.Numbering
import SchemaGraph.Proofs.Graph.Bare
import SchemaGraph.Proofs.Batch.Admission
import SchemaGraph.Proofs.Batch.Session
import SchemaGraph.Proofs.Graph.Braid
import SchemaGraph.Proofs.Batch.Rejection
import SchemaGraph.Proofs.Batch.Construction
import SchemaGraph.Proofs.Graph.Census
import SchemaGraph.Proofs.Graph.Legality
import SchemaGraph.Proofs.Graph.Parts
import SchemaGraph.Proofs.Failure.Checking
import SchemaGraph.Proofs.Failure.Building
import SchemaGraph.Proofs.Failure.Assembling
import SchemaGraph.Proofs.Failure.Compiling
import SchemaGraph.Proofs.Failure.Conversion
import SchemaGraph.Proofs.Name.Camel
import SchemaGraph.Proofs.Name.Position
import SchemaGraph.Proofs.Shape.Trail
import SchemaGraph.Proofs.Batch.Editions
import SchemaGraph.Proofs.Batch.Shown
import SchemaGraph.Proofs.Batch.Positions
import SchemaGraph.Proofs.Batch.Binding
import SchemaGraph.Proofs.Graph.Agreement
import SchemaGraph.Proofs.Batch.Abreast
import SchemaGraph.Proofs.Batch.Replacement
import SchemaGraph.Proofs.Failure.Accident
import SchemaGraph.Proofs.Batch.Advice
import SchemaGraph.Proofs.Graph.Rounds
import SchemaGraph.Proofs.Graph.Making
import SchemaGraph.Proofs.Batch.Layers
import SchemaGraph.Proofs.Shape.Precedence
import SchemaGraph.Proofs.Batch.Keywords
import SchemaGraph.Proofs.Failure.Steps
import SchemaGraph.Proofs.Batch.Appending
import SchemaGraph.Proofs.Name.Members
import SchemaGraph.Proofs.Files.Paving
import SchemaGraph.Proofs.Files.Landing
import SchemaGraph.Proofs.Files.Writing
import SchemaGraph.Proofs.Command.Wording
import SchemaGraph.Proofs.Sdl.Heading
import SchemaGraph.Proofs.Files.Spelling
import SchemaGraph.Proofs.Files.Rewriting
import SchemaGraph.Proofs.Command.Rerun
import SchemaGraph.Proofs.Shape.Grammar
import SchemaGraph.Proofs.Name.Words
import SchemaGraph.Proofs.Batch.Letters
import SchemaGraph.Proofs.Graph.Literals
import SchemaGraph.Proofs.Graph.Fields
import SchemaGraph.Proofs.Schema.Roots
import SchemaGraph.Proofs.Command.Settings
import SchemaGraph.Proofs.Shape.Paths
