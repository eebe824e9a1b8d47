import MemberEncoding.Body.Compaction
import MemberEncoding.Body.Segmentation
import MemberEncoding.Element.Draft
import MemberEncoding.Main
import MemberEncoding.Session
import MemberEncoding.TypeRef.Canonical
import MemberEncoding.TypeRef.Grammar
import MemberEncoding.TypeRef.Spelling
import MemberEncoding.Proofs.Text.Trimming
import MemberEncoding.Proofs.TypeRef.Lexing
import MemberEncoding.Proofs.TypeRef.Parsing
import MemberEncoding.Proofs.TypeRef.Derivation
import MemberEncoding.Proofs.TypeRef.Writing
import MemberEncoding.Proofs.TypeRef.RoundTrip
import MemberEncoding.Proofs.Text.Ascii
import MemberEncoding.Proofs.Naming
import MemberEncoding.Proofs.Naming.Detection
import MemberEncoding.Proofs.Naming.MemberNames
import MemberEncoding.Proofs.Reading
import MemberEncoding.Proofs.Parameter
import MemberEncoding.Proofs.ShortForm
import MemberEncoding.Proofs.Tag.Names
import MemberEncoding.Proofs.Descriptor.Data
import MemberEncoding.Proofs.Descriptor.Description
import MemberEncoding.Proofs.Descriptor.Sheet
import MemberEncoding.Proofs.Descriptor.Refusal
import MemberEncoding.Proofs.Descriptor.Acceptance
import MemberEncoding.Proofs.Body.Segmentation
import MemberEncoding.Proofs.Body.Compaction
import MemberEncoding.Proofs.Body.Uniqueness
import MemberEncoding.Proofs.Body.LineBreaks
import MemberEncoding.Proofs.Body.Lines
import MemberEncoding.Proofs.Descriptor.Built
import MemberEncoding.Proofs.Catalog.Loading
import MemberEncoding.Proofs.Record
import MemberEncoding.Proofs.TypeRef.Mentions
import MemberEncoding.Proofs.Descriptor.Record
import MemberEncoding.Proofs.Session
import MemberEncoding.Proofs.TypeRef.Rescoping
import MemberEncoding.Proofs.TypeRef.Occurrence
import MemberEncoding.Proofs.Descriptor.Scoping
import MemberEncoding.Proofs.Descriptor.Rescoping
import MemberEncoding.Proofs.Descriptor.LineEndings
import MemberEncoding.Proofs.Element.Rules
import MemberEncoding.Proofs.Element.Attributes
import MemberEncoding.Proofs.Json
import MemberEncoding.Proofs.Report
import MemberEncoding.Proofs.Command.Inspection
import MemberEncoding.Proofs.Command.SummaryLines
import MemberEncoding.Proofs.TypeRef.Spelling
import MemberEncoding.Proofs.Tag.FiniteSets
import MemberEncoding.Element.Bench
import MemberEncoding.Proofs.Element.Bench
import MemberEncoding.Proofs.TypeRef.Standing
import MemberEncoding.Proofs.Descriptor.Declared
import MemberEncoding.Proofs.TypeRef.Walking
