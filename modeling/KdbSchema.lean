import KdbSchema.Config.Document
import KdbSchema.Source.Derivation
import KdbSchema.Trace
import KdbSchema.Proofs.Outcome
import KdbSchema.Proofs.Reference.Sorting
import KdbSchema.Proofs.Reference.Visit
import KdbSchema.Proofs.Reference.Cycle
import KdbSchema.Proofs.Reference.Positions
import KdbSchema.Proofs.Reference.DeclarationOrder
import KdbSchema.Proofs.Reference.CyclicTables
import KdbSchema.Proofs.Reference.Agenda
import KdbSchema.Proofs.Reference.Dependencies
import KdbSchema.Proofs.Compile.Independence
import KdbSchema.Proofs.Naming.Identifier
import KdbSchema.Proofs.Naming.Violation
import KdbSchema.Proofs.Naming.FirstLetter
import KdbSchema.Proofs.Table.Name
import KdbSchema.Proofs.Table.Build
import KdbSchema.Proofs.Script.Lines
import KdbSchema.Proofs.Script.References
import KdbSchema.Proofs.Compile.DeclaredBeforeUse
import KdbSchema.Proofs.Reference.Unfolding
import KdbSchema.Proofs.Table.Columns
import KdbSchema.Proofs.Compile.OrderOutcome
import KdbSchema.Proofs.Script.Grammar
import KdbSchema.Proofs.Compile.DeclarationForm
import KdbSchema.Proofs.Script.Lossless
import KdbSchema.Proofs.Compile.LineByLine
import KdbSchema.Proofs.Compile.DistinctTexts
import KdbSchema.Proofs.Compile.OneName
import KdbSchema.Proofs.Compile.Report
import KdbSchema.Proofs.Agreement
import KdbSchema.Proofs.Table.Dependence
import KdbSchema.Proofs.Compile.Dependence
import KdbSchema.Proofs.Compile.DefaultNamespace
import KdbSchema.Proofs.Compile.UniqueMarks
import KdbSchema.Proofs.Compile.ReservedWords
import KdbSchema.Proofs.Compile.CheckedConfig
import KdbSchema.Proofs.Compile.OneStep
import KdbSchema.Proofs.Table.Admission
import KdbSchema.Proofs.Table.FailureOrder
import KdbSchema.Proofs.Table.Invariant
import KdbSchema.Proofs.Table.Rearrangement
import KdbSchema.Proofs.Source.Classification
import KdbSchema.Proofs.Source.Arrangement
import KdbSchema.Proofs.Source.RawIdentifier
import KdbSchema.Proofs.Source.SmallWords
