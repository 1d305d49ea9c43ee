import ProtoStubs.Identifier
import ProtoStubs.SourcePath
import ProtoStubs.Text.DecimalDigit
import ProtoStubs.Text.Printable
import ProtoStubs.Parameter
import ProtoStubs.Schema.Load
import ProtoStubs.Resolver
import ProtoStubs.Layout
import ProtoStubs.Declaration.Print
import ProtoStubs.Generate
import ProtoStubs.Wire.Response
import ProtoStubs.Main
import ProtoStubs.Proofs.WellFormed
import ProtoStubs.Proofs.Imports
import ProtoStubs.Proofs.Declared
import ProtoStubs.Proofs.Scoping
import ProtoStubs.Proofs.Reordering
import ProtoStubs.Proofs.RelativePaths
import ProtoStubs.Proofs.ImportPaths
import ProtoStubs.Proofs.ImportNames
import ProtoStubs.Proofs.OutputNames
import ProtoStubs.Proofs.Grouping
import ProtoStubs.Proofs.AllOrNothing
import ProtoStubs.Proofs.RequestForms
import ProtoStubs.Proofs.Agreeing
import ProtoStubs.Proofs.Renaming
import ProtoStubs.Proofs.Moving
import ProtoStubs.Proofs.MovedText
import ProtoStubs.Proofs.MovedStubs
import ProtoStubs.Proofs.Packages
import ProtoStubs.Proofs.Repackaging
import ProtoStubs.Proofs.Outline
import ProtoStubs.Proofs.Tokens
import ProtoStubs.Proofs.DeclaredClient
import ProtoStubs.Proofs.ReadDeclared
import ProtoStubs.Proofs.ScriptedClient
import ProtoStubs.Proofs.ReadScripted
import ProtoStubs.Proofs.NamedStubs
import ProtoStubs.Proofs.SameClient
import ProtoStubs.Proofs.ParameterValues
import ProtoStubs.Proofs.WellBracketed
import ProtoStubs.Proofs.MapFields
import ProtoStubs.Proofs.SeparateRuns
import ProtoStubs.Proofs.PrintedMessages
import ProtoStubs.Proofs.OneofCases
import ProtoStubs.Proofs.FieldBlocks
import ProtoStubs.Proofs.Recording
import ProtoStubs.Proofs.LineBreaks
import ProtoStubs.Proofs.ShiftedText
import ProtoStubs.Proofs.StubImports
import ProtoStubs.Proofs.DeclaredNode
import ProtoStubs.Proofs.ReadNode
import ProtoStubs.Proofs.NodeViews
import ProtoStubs.Proofs.CamelCase
import ProtoStubs.Proofs.PromiseVariant
import ProtoStubs.Proofs.TypeNames
import ProtoStubs.Proofs.JoinedParameters
