import TypedExpr.Builtin
import TypedExpr.Builtin.Argument
import TypedExpr.Builtin.Collections
import TypedExpr.Builtin.Numbers
import TypedExpr.Builtin.Strings
import TypedExpr.Catalog
import TypedExpr.Code.Assembler
import TypedExpr.Code.Chunk
import TypedExpr.Code.Constant
import TypedExpr.Code.Generation
import TypedExpr.Code.Instr
import TypedExpr.Code.Tables
import TypedExpr.Conversion
import TypedExpr.Declaration
import TypedExpr.Digest
import TypedExpr.Emission
import TypedExpr.Environment
import TypedExpr.Error
import TypedExpr.Evaluation
import TypedExpr.Expr
import TypedExpr.Host.Action
import TypedExpr.Host.Record
import TypedExpr.Machine
import TypedExpr.Number.Binary
import TypedExpr.Number.Floating
import TypedExpr.Number.Numeral
import TypedExpr.Number.Shortest
import TypedExpr.Opcode
import TypedExpr.Operation.Access
import TypedExpr.Operation.Arithmetic
import TypedExpr.Operation.Conversion
import TypedExpr.Overload
import TypedExpr.Pattern
import TypedExpr.Pattern.CharClass
import TypedExpr.Pattern.Reader
import TypedExpr.Pattern.Regex
import TypedExpr.Program
import TypedExpr.Proofs.Applicability
import TypedExpr.Proofs.Composition
import TypedExpr.Proofs.Correctness
import TypedExpr.Proofs.Encoding
import TypedExpr.Proofs.Execution
import TypedExpr.Proofs.History
import TypedExpr.Proofs.Memory
import TypedExpr.Proofs.Patching
import TypedExpr.Proofs.Safety
import TypedExpr.Proofs.Subtyping
import TypedExpr.Proofs.Totality
import TypedExpr.Registry
import TypedExpr.Resolution
import TypedExpr.Scope
import TypedExpr.Session
import TypedExpr.Span
import TypedExpr.Text.Age
import TypedExpr.Text.Blank
import TypedExpr.Text.Case
import TypedExpr.Text.CaseFold
import TypedExpr.Text.CaseTable
import TypedExpr.Text.Category
import TypedExpr.Text.CodeSet
import TypedExpr.Text.Property
import TypedExpr.Text.Quoted
import TypedExpr.Text.Recent
import TypedExpr.Text.Script
import TypedExpr.Text.ScriptUse
import TypedExpr.Text.Search
import TypedExpr.Text.Segment
import TypedExpr.Ty
import TypedExpr.Typed
import TypedExpr.Value
import TypedExpr.Value.Order
import TypedExpr.Value.Text
import TypedExpr.Proofs.Registration
import TypedExpr.Proofs.Decoding
import TypedExpr.Proofs.Standalone
import TypedExpr.Proofs.StackFrames
import TypedExpr.Proofs.Orientation
import TypedExpr.Proofs.ArrayItems
import TypedExpr.Proofs.Accessors
import TypedExpr.Proofs.Placement
import TypedExpr.Proofs.Faults
import TypedExpr.Proofs.NullSafety
import TypedExpr.Proofs.BreadthFirst
import TypedExpr.Proofs.Instantiation
import TypedExpr.Proofs.Conditionals
import TypedExpr.Proofs.ErrorPlaces
import TypedExpr.Proofs.ArgumentCount
import TypedExpr.Proofs.Visibility
import TypedExpr.Proofs.ValueEquality
import TypedExpr.Proofs.ValueText
import TypedExpr.Proofs.NaturalOrder
import TypedExpr.Proofs.LogicalChains
import TypedExpr.Proofs.Powers
import TypedExpr.Proofs.Polynomials
import TypedExpr.Proofs.Substrings
import TypedExpr.Proofs.Occurrences
import TypedExpr.Proofs.Separators
import TypedExpr.Proofs.Numerals
import TypedExpr.Proofs.TypeNames
import TypedExpr.Proofs.TypeTexts
import TypedExpr.Proofs.AssemblerCalls
import TypedExpr.Proofs.ShortestDecimals
import TypedExpr.Proofs.Fractions
import TypedExpr.Proofs.Matching
import TypedExpr.Proofs.PatternTokens
import TypedExpr.Proofs.Enclosing
import TypedExpr.Proofs.WholeMatches
