import Specimen.Command.Arguments
import Specimen.Command.Run
import Specimen.Inference.OptionsJson
import Specimen.Main
import Specimen.Proofs.Inference.Listing
import Specimen.Proofs.Inference.Closure
import Specimen.Proofs.Schema.Expansion
import Specimen.Proofs.Schema.Alike
import Specimen.Proofs.Inference.Sampled
import Specimen.Proofs.Inference.Conformance
import Specimen.Proofs.Inference.Reachability
import Specimen.Proofs.Path.Joining
import Specimen.Proofs.Text.UpperCase
import Specimen.Proofs.Inference.Naming
import Specimen.Proofs.Xml.Pieces
import Specimen.Proofs.Success
import Specimen.Proofs.Xml.Names
import Specimen.Proofs.Json.Reading
import Specimen.Proofs.Java.Location
import Specimen.Proofs.Number.Rounding
import Specimen.Proofs.Number.Nearest
import Specimen.Proofs.Json.Literal
import Specimen.Proofs.Inference.Agreement
import Specimen.Proofs.Document.Trees
import Specimen.Proofs.Document.Detection
import Specimen.Proofs.Inference.Failing
import Specimen.Proofs.Inference.FieldNames
import Specimen.Proofs.Java.Emission
import Specimen.Proofs.Java.Links
import Specimen.Proofs.Java.Package
import Specimen.Proofs.Inference.Pruning
import Specimen.Proofs.Inference.ReferenceTree
import Specimen.Proofs.Command.Readiness
import Specimen.Proofs.Command.Batches
import Specimen.Proofs.Json.Writing
import Specimen.Proofs.Schema.Soundness
import Specimen.Proofs.Schema.Completeness
import Specimen.Proofs.Schema.Dump
import Specimen.Proofs.Inference.FieldTypes
import Specimen.Proofs.Java.TypeText
import Specimen.Proofs.Java.Boxing
import Specimen.Proofs.Java.Ambiguity
import Specimen.Proofs.Java.Accessors
import Specimen.Proofs.Filter.Identity
import Specimen.Proofs.Schema.Passes
import Specimen.Proofs.Inference.Matching
import Specimen.Proofs.Inference.Sniffing
import Specimen.Proofs.Inference.Packages
import Specimen.Proofs.Inference.Reordering
import Specimen.Proofs.Inference.Defects
import Specimen.Proofs.Inference.Integers
import Specimen.Proofs.Document.Unseen
import Specimen.Proofs.Document.Descent
import Specimen.Proofs.Java.Layout
import Specimen.Proofs.Files.Writing
import Specimen.Proofs.Java.Separation
import Specimen.Proofs.Number.Encoding
import Specimen.Proofs.Number.Integral
import Specimen.Proofs.Inference.Numbers
import Specimen.Proofs.Schema.Scanning
import Specimen.Proofs.Command.Overwriting
