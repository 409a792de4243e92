import ClassSynthesis.Artifact
import ClassSynthesis.Contract.Basic
import ClassSynthesis.Contract.Closure
import ClassSynthesis.Contract.Index
import ClassSynthesis.Contract.Member
import ClassSynthesis.Contract.ModelError
import ClassSynthesis.Contract.ModelFile
import ClassSynthesis.Contract.Name
import ClassSynthesis.Contract.TypeRef
import ClassSynthesis.Decimal.Natural
import ClassSynthesis.Decimal.Shortest
import ClassSynthesis.Declaration.Layout
import ClassSynthesis.Declaration.Lowering
import ClassSynthesis.Declaration.Node
import ClassSynthesis.Declaration.Printer
import ClassSynthesis.Diagnostic.Basic
import ClassSynthesis.Diagnostic.Message
import ClassSynthesis.Diagnostic.Report
import ClassSynthesis.Generation
import ClassSynthesis.Host.Arguments
import ClassSynthesis.Host.FileAccess
import ClassSynthesis.Host.FileError
import ClassSynthesis.Host.FileTree
import ClassSynthesis.Host.HostError
import ClassSynthesis.Host.Inputs
import ClassSynthesis.Host.LogFormat
import ClassSynthesis.Host.Options
import ClassSynthesis.Host.Path
import ClassSynthesis.Host.Project
import ClassSynthesis.Host.Run
import ClassSynthesis.Json.Decoder
import ClassSynthesis.Json.Error
import ClassSynthesis.Json.Number
import ClassSynthesis.Json.Reader
import ClassSynthesis.Json.Record
import ClassSynthesis.Main
import ClassSynthesis.Proofs.Contract.Ancestors
import ClassSynthesis.Proofs.Contract.ClosureErrors
import ClassSynthesis.Proofs.Contract.FileRegistration
import ClassSynthesis.Proofs.Contract.Growth
import ClassSynthesis.Proofs.Contract.History
import ClassSynthesis.Proofs.Contract.Lookup
import ClassSynthesis.Proofs.Contract.ModelText
import ClassSynthesis.Proofs.Contract.ParentChain
import ClassSynthesis.Proofs.Contract.Preorder
import ClassSynthesis.Proofs.Contract.Registered
import ClassSynthesis.Proofs.Contract.Registration
import ClassSynthesis.Proofs.Contract.Renumbering
import ClassSynthesis.Proofs.Contract.Run
import ClassSynthesis.Proofs.Contract.StepCount
import ClassSynthesis.Proofs.Declaration.Access
import ClassSynthesis.Proofs.Declaration.Body
import ClassSynthesis.Proofs.Declaration.Characters
import ClassSynthesis.Proofs.Declaration.Construction
import ClassSynthesis.Proofs.Declaration.Formatting
import ClassSynthesis.Proofs.Declaration.Implementation
import ClassSynthesis.Proofs.Declaration.Initialization
import ClassSynthesis.Proofs.Declaration.Nesting
import ClassSynthesis.Proofs.Declaration.OccurringNames
import ClassSynthesis.Proofs.Declaration.Properties
import ClassSynthesis.Proofs.Diagnostic.Colors
import ClassSynthesis.Proofs.Diagnostic.Template
import ClassSynthesis.Proofs.Generation.Diagnostics
import ClassSynthesis.Proofs.Generation.Emission
import ClassSynthesis.Proofs.Generation.ErrorTexts
import ClassSynthesis.Proofs.Generation.FileNames
import ClassSynthesis.Proofs.Generation.Locality
import ClassSynthesis.Proofs.Generation.ModelOrder
import ClassSynthesis.Proofs.Generation.Outcomes
import ClassSynthesis.Proofs.Generation.RelatedFiles
import ClassSynthesis.Proofs.Host.Beneath
import ClassSynthesis.Proofs.Host.FileChanges
import ClassSynthesis.Proofs.Host.Inputs
import ClassSynthesis.Proofs.Host.ModelFiles
import ClassSynthesis.Proofs.Host.OptionResolution
import ClassSynthesis.Proofs.Host.Outputs
import ClassSynthesis.Proofs.Host.PathOrder
import ClassSynthesis.Proofs.Host.Run
import ClassSynthesis.Proofs.Host.Writing
import ClassSynthesis.Proofs.Json.Decoding
import ClassSynthesis.Proofs.Json.Grammar
import ClassSynthesis.Proofs.Json.Reading
import ClassSynthesis.Proofs.Json.Records
import ClassSynthesis.Proofs.Json.Writable
import ClassSynthesis.Proofs.Synthesis.Accessors
import ClassSynthesis.Proofs.Synthesis.Collisions
import ClassSynthesis.Proofs.Synthesis.FreshName
import ClassSynthesis.Proofs.Synthesis.Gathering
import ClassSynthesis.Proofs.Synthesis.Inheritance
import ClassSynthesis.Proofs.Synthesis.Merge
import ClassSynthesis.Proofs.Synthesis.MergeLaw
import ClassSynthesis.Proofs.Synthesis.NameScope
import ClassSynthesis.Proofs.Synthesis.NonNull
import ClassSynthesis.Proofs.Synthesis.Origins
import ClassSynthesis.Proofs.Synthesis.ParameterNames
import ClassSynthesis.Proofs.Synthesis.ReducedConstructor
import ClassSynthesis.Proofs.Synthesis.Renumbering
import ClassSynthesis.Proofs.Synthesis.ReservedWord
import ClassSynthesis.Proofs.Synthesis.Resolution
import ClassSynthesis.Proofs.Synthesis.StorageNames
import ClassSynthesis.Proofs.Text.ByteOrder
import ClassSynthesis.Proofs.Text.SortedTable
import ClassSynthesis.Synthesis.AccessorPlan
import ClassSynthesis.Synthesis.Constructor
import ClassSynthesis.Synthesis.Identifier
import ClassSynthesis.Synthesis.Merge
import ClassSynthesis.Synthesis.NameScope
import ClassSynthesis.Synthesis.Resolution
import ClassSynthesis.Synthesis.SynthesizedClass
import ClassSynthesis.Text.Blank
import ClassSynthesis.Text.CodeRange
import ClassSynthesis.Text.Letter
import ClassSynthesis.Text.Lowercase
import ClassSynthesis.Text.Quoted
import ClassSynthesis.Text.Replace
import ClassSynthesis.Text.SortedTable
