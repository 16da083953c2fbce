import AmountReport.Amount.Grammar
import AmountReport.Amount.Grouping
import AmountReport.Amount.Pattern
import AmountReport.Amount.Scan
import AmountReport.Command.Program
import AmountReport.Files.Writing
import AmountReport.Main
import AmountReport.Proofs.Amount.Affixes
import AmountReport.Proofs.Amount.Agreement
import AmountReport.Proofs.Amount.Grouping
import AmountReport.Proofs.Amount.Integer
import AmountReport.Proofs.Amount.Parts
import AmountReport.Proofs.Command.Path
import AmountReport.Proofs.Command.Program
import AmountReport.Proofs.Files.Tree
import AmountReport.Proofs.Files.Writing
import AmountReport.Proofs.Report.Broken
import AmountReport.Proofs.Report.Classification
import AmountReport.Proofs.Report.Counting
import AmountReport.Proofs.Report.Decoding
import AmountReport.Proofs.Report.Events
import AmountReport.Proofs.Report.Faults
import AmountReport.Proofs.Report.FileRun
import AmountReport.Proofs.Report.Intake
import AmountReport.Proofs.Report.Joining
import AmountReport.Proofs.Report.Lines
import AmountReport.Proofs.Report.Questions
import AmountReport.Proofs.Report.ReadBack
import AmountReport.Proofs.Report.Room
import AmountReport.Proofs.Stream.Joining
import AmountReport.Proofs.Stream.Stretches
import AmountReport.Proofs.Utf8.Decoding
import AmountReport.Proofs.Utf8.Errors
