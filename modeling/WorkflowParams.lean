import WorkflowParams.Declaration.Interpretation
import WorkflowParams.Definition
import WorkflowParams.Diagnostic.Layout
import WorkflowParams.Document
import WorkflowParams.CommandLine.Program
import WorkflowParams.Main
import WorkflowParams.Proofs.Agreement
import WorkflowParams.Proofs.AllOrNothing
import WorkflowParams.Proofs.Batch
import WorkflowParams.Proofs.Bounds
import WorkflowParams.Proofs.BracketGroups
import WorkflowParams.Proofs.Carets
import WorkflowParams.Proofs.Colouring
import WorkflowParams.Proofs.Completion
import WorkflowParams.Proofs.Cursor
import WorkflowParams.Proofs.DefaultText
import WorkflowParams.Proofs.DefaultValue
import WorkflowParams.Proofs.DocumentText
import WorkflowParams.Proofs.Fresh
import WorkflowParams.Proofs.Grammar
import WorkflowParams.Proofs.Indentation
import WorkflowParams.Proofs.JsonGrammar
import WorkflowParams.Proofs.JsonScalars
import WorkflowParams.Proofs.JsonValues
import WorkflowParams.Proofs.Keying
import WorkflowParams.Proofs.LastWins
import WorkflowParams.Proofs.Lexing
import WorkflowParams.Proofs.Literals
import WorkflowParams.Proofs.Lookahead
import WorkflowParams.Proofs.NearestDouble
import WorkflowParams.Proofs.NestingLimit
import WorkflowParams.Proofs.NormalForm
import WorkflowParams.Proofs.OptionalDefault
import WorkflowParams.Proofs.Pointing
import WorkflowParams.Proofs.Readings
import WorkflowParams.Proofs.RecordAttributes
import WorkflowParams.Proofs.Relabeling
import WorkflowParams.Proofs.Seams
import WorkflowParams.Proofs.Session
import WorkflowParams.Proofs.SourceForm
import WorkflowParams.Proofs.Spacing
import WorkflowParams.Proofs.Spelling
import WorkflowParams.Proofs.ValueReading
import WorkflowParams.Proofs.Window
import WorkflowParams.Proofs.WireText
