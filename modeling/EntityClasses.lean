import EntityClasses.Config.Json
import EntityClasses.Connection
import EntityClasses.Generator
import EntityClasses.Sink.Directory
import EntityClasses.Sink.Memory
import EntityClasses.Snapshot.Json
import EntityClasses.Proofs.Class.ReadBack
import EntityClasses.Proofs.Generation.Sequence
import EntityClasses.Proofs.Snapshot.Closed
import EntityClasses.Proofs.Snapshot.Incoming
import EntityClasses.Proofs.Class.Ignored
import EntityClasses.Proofs.Generation.Stages
import EntityClasses.Proofs.Sink.Memory
import EntityClasses.Proofs.Sink.Session
import EntityClasses.Proofs.Snapshot.Directions
import EntityClasses.Proofs.Generation.Enumeration
import EntityClasses.Proofs.Class.Dialects
import EntityClasses.Proofs.Config.Members
import EntityClasses.Proofs.Snapshot.Restored
import EntityClasses.Proofs.Config.Options
import EntityClasses.Proofs.Sink.Places
import EntityClasses.Proofs.Snapshot.Regenerated
import EntityClasses.Proofs.Path
import EntityClasses.Proofs.Sink.Directory
import EntityClasses.Proofs.Sink.Agreement
import EntityClasses.Proofs.Name.Slash
import EntityClasses.Proofs.Generation.Destination
import EntityClasses.Proofs.Class.Dependencies
import EntityClasses.Proofs.Enum.Literals
import EntityClasses.Proofs.Literal.JavaScript
import EntityClasses.Proofs.Literal.Php
import EntityClasses.Proofs.Enum.Reader
import EntityClasses.Proofs.Enum.ReadBack
import EntityClasses.Proofs.Class.Natives
import EntityClasses.Proofs.Name.EvenlyCased
import EntityClasses.Proofs.Name.InflectedAgain
import EntityClasses.Proofs.Casing.Composition
import EntityClasses.Proofs.Type.Grammar
import EntityClasses.Proofs.Generation.Unrecognized
import EntityClasses.Proofs.Class.Repeated
import EntityClasses.Proofs.Casing.NormalForm
import EntityClasses.Proofs.Relation.FieldName
import EntityClasses.Proofs.Snapshot.Permuted
import EntityClasses.Proofs.Text.DistinctLines
import EntityClasses.Proofs.Casing.Dropped
import EntityClasses.Proofs.Class.Collections
import EntityClasses.Proofs.Name.LongestWord
