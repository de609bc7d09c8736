import TagSchema.Bundle.Check
import TagSchema.Bundle.Memory
import TagSchema.Bundle.TagTable
import TagSchema.Bundle.Workload
import TagSchema.Bytes
import TagSchema.Catalog.Definitions
import TagSchema.Catalog.Types
import TagSchema.Command.Arguments
import TagSchema.Command.Report
import TagSchema.Command.Run
import TagSchema.Containment
import TagSchema.Decimal.Binary
import TagSchema.Decimal.Notation
import TagSchema.Decimal.Shortest
import TagSchema.Emit.Definitions
import TagSchema.Emit.FileCodec
import TagSchema.Emit.PackedCodec
import TagSchema.Emit.Reflection
import TagSchema.Emit.Snippet
import TagSchema.Emit.Target
import TagSchema.Emit.Validators
import TagSchema.Emit.Writer
import TagSchema.File.Buffer
import TagSchema.File.Cursor
import TagSchema.Files
import TagSchema.FixedText
import TagSchema.Handle
import TagSchema.Json.Printer
import TagSchema.Json.Reader
import TagSchema.Json.Token
import TagSchema.Layout
import TagSchema.Main
import TagSchema.Node
import TagSchema.Number.MathType
import TagSchema.Number.Normal
import TagSchema.Number.Shape
import TagSchema.Proofs.Bundle.Accepted
import TagSchema.Proofs.Bundle.Composition
import TagSchema.Proofs.Bundle.Constraints
import TagSchema.Proofs.Bundle.Following
import TagSchema.Proofs.Bundle.Growth
import TagSchema.Proofs.Bundle.Guarding
import TagSchema.Proofs.Bundle.Identifiers
import TagSchema.Proofs.Bundle.Judging
import TagSchema.Proofs.Bundle.Keeping
import TagSchema.Proofs.Bundle.Layout
import TagSchema.Proofs.Bundle.Linking
import TagSchema.Proofs.Bundle.Plan
import TagSchema.Proofs.Bundle.Reachable
import TagSchema.Proofs.Bundle.Reading
import TagSchema.Proofs.Bundle.Rebuilding
import TagSchema.Proofs.Bundle.Registry
import TagSchema.Proofs.Bundle.Reporting
import TagSchema.Proofs.Bundle.RoundTrip
import TagSchema.Proofs.Bundle.Steps
import TagSchema.Proofs.Bundle.Tree
import TagSchema.Proofs.Bundle.Violations
import TagSchema.Proofs.Containment
import TagSchema.Proofs.Every
import TagSchema.Proofs.File.Accepting
import TagSchema.Proofs.File.Canonical
import TagSchema.Proofs.File.PrefixFree
import TagSchema.Proofs.File.Reading
import TagSchema.Proofs.File.RoundTrip
import TagSchema.Proofs.File.Slots
import TagSchema.Proofs.File.Visibility
import TagSchema.Proofs.File.Writing
import TagSchema.Proofs.Index.Building
import TagSchema.Proofs.Index.Places
import TagSchema.Proofs.Index.Traversal
import TagSchema.Proofs.Layout.Padding
import TagSchema.Proofs.Layout.Transposition
import TagSchema.Proofs.LayoutCodec
import TagSchema.Proofs.Outcome
import TagSchema.Proofs.Overwriting
import TagSchema.Proofs.Regular
import TagSchema.Proofs.Schema.Acceptance
import TagSchema.Proofs.Schema.Closedness
import TagSchema.Proofs.Schema.DefinedOnce
import TagSchema.Proofs.Schema.EmissionOrder
import TagSchema.Proofs.Schema.Extents
import TagSchema.Proofs.Schema.FieldRules
import TagSchema.Proofs.Schema.Inheritance
import TagSchema.Proofs.Schema.Lineage
import TagSchema.Proofs.Schema.Placement
import TagSchema.Proofs.Schema.Resolving
import TagSchema.Proofs.StoredForm
import TagSchema.Proofs.Tag.Id
import TagSchema.Proofs.Text.Utf8
import TagSchema.Schema.Analysis
import TagSchema.Schema.Classify
import TagSchema.Schema.Definition
import TagSchema.Schema.Directory
import TagSchema.Schema.EmissionOrder
import TagSchema.Schema.Error
import TagSchema.Schema.FieldKind
import TagSchema.Schema.Lineage
import TagSchema.Schema.Names
import TagSchema.Schema.Record
import TagSchema.Schema.Report
import TagSchema.Schema.Resolve
import TagSchema.Schema.Source
import TagSchema.Struct.Compare
import TagSchema.Struct.Edit
import TagSchema.Struct.FileForm
import TagSchema.Struct.Options
import TagSchema.Struct.PackedForm
import TagSchema.Struct.Type
import TagSchema.Struct.Validate
import TagSchema.Tag.Checksum
import TagSchema.Tag.Class
import TagSchema.Tag.ClassTable
import TagSchema.Tag.DataSource
import TagSchema.Tag.Dependency
import TagSchema.Tag.Error
import TagSchema.Tag.FileHeader
import TagSchema.Tag.Id
import TagSchema.Text.Case
import TagSchema.Text.CaseTable
import TagSchema.Text.Hex
import TagSchema.Text.Lines
import TagSchema.Text.PrintTable
import TagSchema.Text.Quoted
import TagSchema.Text.Utf8
import TagSchema.Word
import TagSchema.Yaml.Place
import TagSchema.Yaml.Reader
import TagSchema.Yaml.Scalar
import TagSchema.Proofs.Schema.Extension
import TagSchema.Proofs.Schema.Collisions
import TagSchema.Proofs.Schema.Regrouping
import TagSchema.Proofs.Emit.Composition
import TagSchema.Proofs.Mending.Convergence
import TagSchema.Proofs.Bundle.Finishing
import TagSchema.Proofs.Tag.Bursts
import TagSchema.Proofs.Bundle.Blobs
import TagSchema.Proofs.Refactoring
import TagSchema.Proofs.Comparison
import TagSchema.Proofs.Emit.Skipping
import TagSchema.Proofs.File.Defaults
import TagSchema.Proofs.Bundle.Bounds
import TagSchema.Proofs.Emit.Sizes
import TagSchema.Proofs.Schema.Masks
import TagSchema.Proofs.Schema.MemberNames
import TagSchema.Proofs.Text.Truncation
import TagSchema.Proofs.Tag.Superclasses
import TagSchema.Proofs.Number.Components
import TagSchema.Proofs.Schema.Records
