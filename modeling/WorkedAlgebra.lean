import WorkedAlgebra.CommandLine.Arguments
import WorkedAlgebra.CommandLine.Files
import WorkedAlgebra.CommandLine.Output
import WorkedAlgebra.CommandLine.Prompt
import WorkedAlgebra.CommandLine.Run
import WorkedAlgebra.Decimal.Layout
import WorkedAlgebra.Decimal.Numeral
import WorkedAlgebra.Decimal.Shortest
import WorkedAlgebra.Equation.LinearForm
import WorkedAlgebra.Equation.Sides
import WorkedAlgebra.EquationQueue
import WorkedAlgebra.Expr
import WorkedAlgebra.Expr.Reading
import WorkedAlgebra.Fault
import WorkedAlgebra.LineReader
import WorkedAlgebra.LongHand
import WorkedAlgebra.LongHand.Division
import WorkedAlgebra.LongHand.Exercise
import WorkedAlgebra.LongHand.Multiplication
import WorkedAlgebra.Main
import WorkedAlgebra.Report.Diagnostic
import WorkedAlgebra.Report.Json
import WorkedAlgebra.Report.Log
import WorkedAlgebra.Report.Solution
import WorkedAlgebra.Report.Style
import WorkedAlgebra.Report.Worked
import WorkedAlgebra.Resolution
import WorkedAlgebra.Resolution.Bisection
import WorkedAlgebra.Resolution.Derivation
import WorkedAlgebra.Resolution.Options
import WorkedAlgebra.Resolution.Probe
import WorkedAlgebra.Resolution.Resolve
import WorkedAlgebra.Resolution.Steps
import WorkedAlgebra.Scalar
import WorkedAlgebra.Scalar.Binary64
import WorkedAlgebra.Settings
import WorkedAlgebra.Solver
import WorkedAlgebra.Terms
import WorkedAlgebra.Text.Blank
import WorkedAlgebra.Text.Cleanup
import WorkedAlgebra.Text.Pieces
import WorkedAlgebra.Text.Signs
import WorkedAlgebra.Token
import WorkedAlgebra.Token.Scan
import WorkedAlgebra.Token.Scanner
import WorkedAlgebra.Toml.Document
import WorkedAlgebra.Toml.Format
import WorkedAlgebra.Toml.Lines
import WorkedAlgebra.Toml.Literal
import WorkedAlgebra.Toml.Value
import WorkedAlgebra.Trace
import WorkedAlgebra.Unicode.CombiningClass
import WorkedAlgebra.Unicode.CompatibilityForm
import WorkedAlgebra.Unicode.Composition
import WorkedAlgebra.Unicode.Decomposition
import WorkedAlgebra.Unicode.Invisible
import WorkedAlgebra.Unicode.Rows
import WorkedAlgebra.Proofs.Rounding.Nearest
import WorkedAlgebra.Proofs.Rounding.Format
import WorkedAlgebra.Proofs.Rounding.Packing
import WorkedAlgebra.Proofs.Rounding.Arithmetic
import WorkedAlgebra.Proofs.Rounding.Denoted
import WorkedAlgebra.Proofs.Rounding.Grid
import WorkedAlgebra.Proofs.ExactReading
import WorkedAlgebra.Proofs.AffineTest
import WorkedAlgebra.Proofs.TestMargins
import WorkedAlgebra.Proofs.DiscernedSides
import WorkedAlgebra.Proofs.Lexing
import WorkedAlgebra.Proofs.Parsing
import WorkedAlgebra.Proofs.Letters
import WorkedAlgebra.Proofs.WrittenCoefficients
import WorkedAlgebra.Proofs.SignRuns
import WorkedAlgebra.Proofs.TracedSteps
import WorkedAlgebra.Proofs.Derivations
import WorkedAlgebra.Proofs.PolynomialLines
import WorkedAlgebra.Proofs.SingleVerdicts
import WorkedAlgebra.Proofs.LinearityCheck
import WorkedAlgebra.Proofs.PlainSides
import WorkedAlgebra.Proofs.Rounding.Nearby
import WorkedAlgebra.Proofs.NearlyAffine
import WorkedAlgebra.Proofs.PlainReadings
import WorkedAlgebra.Proofs.Rounding.Words
import WorkedAlgebra.Proofs.Rounding.Finite
import WorkedAlgebra.Proofs.PlainBounds
import WorkedAlgebra.Proofs.PlainEquations
import WorkedAlgebra.Proofs.Grammar
import WorkedAlgebra.Proofs.CollapsedLexemes
import WorkedAlgebra.Proofs.OffendingItems
import WorkedAlgebra.Proofs.ErrorColumns
import WorkedAlgebra.Proofs.ParseTrees
import WorkedAlgebra.Proofs.Rounding.Negation
import WorkedAlgebra.Proofs.SignEffects
import WorkedAlgebra.Proofs.TreeValues
import WorkedAlgebra.Proofs.Outcomes
import WorkedAlgebra.Proofs.Rounding.Determined
import WorkedAlgebra.Proofs.Rounding.Literals
import WorkedAlgebra.Proofs.Rounding.Decoded
import WorkedAlgebra.Proofs.DecimalTexts
import WorkedAlgebra.Proofs.ShortestDecimals
import WorkedAlgebra.Proofs.NumberTexts
import WorkedAlgebra.Proofs.PlainTexts
import WorkedAlgebra.Proofs.SumTexts
import WorkedAlgebra.Proofs.RenderedForms
import WorkedAlgebra.Proofs.Renaming.Texts
import WorkedAlgebra.Proofs.Renaming.Trees
import WorkedAlgebra.Proofs.Renaming.Outcomes
import WorkedAlgebra.Proofs.Renaming.Patterns
import WorkedAlgebra.Proofs.Rounding.Monotone
import WorkedAlgebra.Proofs.Bracketing
import WorkedAlgebra.Proofs.SampleGrid
import WorkedAlgebra.Proofs.SearchCoverage
import WorkedAlgebra.Proofs.BackedEstimates
import WorkedAlgebra.Proofs.Rounding.Opposed
import WorkedAlgebra.Proofs.OpposedSearch
import WorkedAlgebra.Proofs.SwappedSides
import WorkedAlgebra.Proofs.OptionEffects
import WorkedAlgebra.Proofs.TextLines
import WorkedAlgebra.Proofs.Batches
import WorkedAlgebra.Proofs.CleanTexts
import WorkedAlgebra.Proofs.ExactNumbers
import WorkedAlgebra.Proofs.LinearEquations
import WorkedAlgebra.Proofs.FileEffects
import WorkedAlgebra.Proofs.Halvings
import WorkedAlgebra.Proofs.SearchEvaluations
import WorkedAlgebra.Proofs.NearestChange
import WorkedAlgebra.Proofs.ConvergenceRate
import WorkedAlgebra.Proofs.LongerSearches
import WorkedAlgebra.Proofs.Rounding.Overflow
import WorkedAlgebra.Proofs.TraceEffects
import WorkedAlgebra.Proofs.SignedChains
import WorkedAlgebra.Proofs.FiniteAnswers
import WorkedAlgebra.Proofs.ViablePrefixes
import WorkedAlgebra.Proofs.ShiftedColumns
import WorkedAlgebra.Proofs.SideLetters
import WorkedAlgebra.Proofs.ScannedPieces
import WorkedAlgebra.Proofs.SignRounds
import WorkedAlgebra.Proofs.Summands
import WorkedAlgebra.Proofs.ShownSums
import WorkedAlgebra.Proofs.LongHand.DivisionSteps
import WorkedAlgebra.Proofs.LongHand.Words
import WorkedAlgebra.Proofs.LongHand.Products
import WorkedAlgebra.Proofs.LongHand.Quotients
import WorkedAlgebra.Proofs.LongHand.Remainders
import WorkedAlgebra.Proofs.StreamLines
import WorkedAlgebra.Proofs.DeliveredLines
import WorkedAlgebra.Proofs.Document.Integers
import WorkedAlgebra.Proofs.DocumentIntegers
import WorkedAlgebra.Proofs.LineWords
import WorkedAlgebra.Proofs.PromptSessions
import WorkedAlgebra.Proofs.LongHand.Columns
import WorkedAlgebra.Proofs.Descent.Procedures
import WorkedAlgebra.Proofs.Descent.Readings
import WorkedAlgebra.Proofs.Descent.Calls
import WorkedAlgebra.Proofs.Document.Words
import WorkedAlgebra.Proofs.Document.Lossless
import WorkedAlgebra.Proofs.Document.Lines
import WorkedAlgebra.Proofs.Document.KnownEntries
import WorkedAlgebra.Proofs.Document.SettingsFiles
