import ToyRisc.CommandLine.Report
import ToyRisc.Main
import ToyRisc.Proofs.Indent
import ToyRisc.Proofs.Numerals
import ToyRisc.Proofs.Refusal
import ToyRisc.Proofs.Halting
import ToyRisc.Proofs.Spans
import ToyRisc.Proofs.Lexing
import ToyRisc.Proofs.LexingFaults
import ToyRisc.Proofs.Expansion
import ToyRisc.Proofs.Loading
import ToyRisc.Proofs.Segments
import ToyRisc.Proofs.RewrittenExpressions
import ToyRisc.Proofs.CommentStart
import ToyRisc.Proofs.RowEffects
import ToyRisc.Proofs.FirstFault
import ToyRisc.Proofs.CommentLines
import ToyRisc.Proofs.EmptyRows
import ToyRisc.Proofs.Runs
import ToyRisc.Proofs.Invariants
import ToyRisc.Proofs.Payloads
import ToyRisc.Proofs.GlobalDirective
import ToyRisc.Proofs.Course
import ToyRisc.Proofs.Cycles
import ToyRisc.Proofs.Bytes
import ToyRisc.Proofs.LineLocal
import ToyRisc.Proofs.Renaming
import ToyRisc.Proofs.Instructions
import ToyRisc.Proofs.ExactEffects
import ToyRisc.Proofs.NamedJumps
import ToyRisc.Proofs.IndentedRows
import ToyRisc.Proofs.ExecutedValues
import ToyRisc.Proofs.NegativeCounter
import ToyRisc.Proofs.ForwardPrograms
import ToyRisc.Proofs.ExpressionColumns
import ToyRisc.Proofs.SpacedPieces
import ToyRisc.Proofs.RepeatedLexing
import ToyRisc.Proofs.LabelWords
import ToyRisc.Proofs.Readings
import ToyRisc.Proofs.Gaps
import ToyRisc.Proofs.Statements
import ToyRisc.Proofs.Arithmetic
import ToyRisc.Proofs.DefinedNames
import ToyRisc.Proofs.Transcripts
import ToyRisc.Proofs.FaultTexts
