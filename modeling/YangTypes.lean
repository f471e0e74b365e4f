import YangTypes.Binary64
import YangTypes.Bound.Argument
import YangTypes.Bound.Constraint
import YangTypes.Bound.Interval
import YangTypes.Bound.Number
import YangTypes.Command.Basic
import YangTypes.Command.Files
import YangTypes.Command.Line
import YangTypes.Command.Run
import YangTypes.Decimal.Basic
import YangTypes.Decimal.Order
import YangTypes.Decimal.Rounding
import YangTypes.Decimal.Text
import YangTypes.Derivation.Accumulator
import YangTypes.Derivation.Build
import YangTypes.Derivation.Call
import YangTypes.Derivation.Fault
import YangTypes.Derivation.Members
import YangTypes.Derivation.Narrowing
import YangTypes.Document.Basic
import YangTypes.Document.Derive
import YangTypes.InternTable
import YangTypes.Json.Number
import YangTypes.Json.Numeral
import YangTypes.Json.Reader
import YangTypes.Json.Record
import YangTypes.Json.Tree
import YangTypes.Json.Value
import YangTypes.Main
import YangTypes.Name.Basic
import YangTypes.Name.Json
import YangTypes.Pattern.Basic
import YangTypes.Pattern.Block
import YangTypes.Pattern.Expression
import YangTypes.Power
import YangTypes.Regex.Automaton
import YangTypes.Regex.ClassReader
import YangTypes.Regex.Expr
import YangTypes.Regex.Match
import YangTypes.Regex.Parse
import YangTypes.Regex.Reader
import YangTypes.Schema.Path
import YangTypes.Text.Base64
import YangTypes.Text.Blank
import YangTypes.Text.Literal
import YangTypes.Text.Quoted
import YangTypes.Text.Split
import YangTypes.TypeDef.Basic
import YangTypes.TypeDef.Builtin
import YangTypes.TypeDef.Facets
import YangTypes.TypeDef.Json
import YangTypes.TypeDef.Kind
import YangTypes.TypeDef.Statement
import YangTypes.TypeDef.Summary
import YangTypes.Unicode.Age
import YangTypes.Unicode.BinaryProperty
import YangTypes.Unicode.CaseFolding
import YangTypes.Unicode.CharSet
import YangTypes.Unicode.Encoding
import YangTypes.Unicode.Folding
import YangTypes.Unicode.GeneralCategory
import YangTypes.Unicode.Property
import YangTypes.Unicode.Query
import YangTypes.Unicode.Recent
import YangTypes.Unicode.Script
import YangTypes.Unicode.Segmentation
import YangTypes.Unsigned.Basic
import YangTypes.Unsigned.Cache
import YangTypes.Violation
import YangTypes.Wire.Bytes
import YangTypes.Wire.Scalar
import YangTypes.Proofs.Bound.Value
import YangTypes.Proofs.Bound.Narrowing
import YangTypes.Proofs.Derivation.Step
import YangTypes.Proofs.TypeDef.Acceptance
import YangTypes.Proofs.Derivation.Reachable
import YangTypes.Proofs.Derivation.Intervals
import YangTypes.Proofs.Derivation.Conjunction
import YangTypes.Proofs.Decimal.Reading
import YangTypes.Proofs.Decimal.Rescaling
import YangTypes.Proofs.TypeDef.Reading
import YangTypes.Proofs.Derivation.NumericTypes
import YangTypes.Proofs.Wire.Codec
import YangTypes.Proofs.Wire.Stream
import YangTypes.Proofs.Decimal.Writing
import YangTypes.Proofs.Decimal.Equality
import YangTypes.Proofs.Derivation.Accumulation
import YangTypes.Proofs.Derivation.Lineage
import YangTypes.Proofs.Derivation.Members
import YangTypes.Proofs.Derivation.Inheritance
import YangTypes.Proofs.Bound.Notation
import YangTypes.Proofs.Derivation.Restatement
import YangTypes.Proofs.Document.Typedef
import YangTypes.Proofs.Document.Order
import YangTypes.Proofs.Derivation.Options
import YangTypes.Proofs.Document.Strictness
import YangTypes.Proofs.Pattern.Scan
import YangTypes.Proofs.Pattern.Tokens
import YangTypes.Proofs.Intern.Sharing
import YangTypes.Proofs.Pattern.Anchoring
import YangTypes.Proofs.Intern.Occupancy
import YangTypes.Proofs.Decimal.Prescribed
import YangTypes.Proofs.Decimal.Rounding
import YangTypes.Proofs.Decimal.WordScan
import YangTypes.Proofs.Decimal.Encoding
import YangTypes.Proofs.Bound.Sets
import YangTypes.Proofs.Derivation.Interleaving
import YangTypes.Proofs.Pattern.Ordinary
import YangTypes.Proofs.Bound.Order
import YangTypes.Proofs.Derivation.MemberLoop
import YangTypes.Proofs.Derivation.Numbering
import YangTypes.Proofs.Derivation.Blame
import YangTypes.Proofs.Derivation.SetBits
import YangTypes.Proofs.Text.Radix
import YangTypes.Proofs.Unsigned.Radix
import YangTypes.Proofs.Unsigned.Saturation
import YangTypes.Proofs.Decimal.Integers
import YangTypes.Proofs.Bound.Arguments
import YangTypes.Proofs.Text.Separator
import YangTypes.Proofs.Name.Spelling
