import GoUnion.Text.CharSet
import GoUnion.Text.Span
import GoUnion.Text.Blank
import GoUnion.Text.Letter
import GoUnion.Text.Alphabetic
import GoUnion.Text.Uppercase
import GoUnion.Text.Printable
import GoUnion.Text.Width
import GoUnion.Text.Escaped
import GoUnion.Text.Location
import GoUnion.Token
import GoUnion.Token.Numeral
import GoUnion.Token.Lexeme
import GoUnion.SyntaxError
import GoUnion.Token.Source
import GoUnion.Literal.Integer
import GoUnion.Literal.Quoted
import GoUnion.TypeExpr
import GoUnion.Token.Reader
import GoUnion.TypeExpr.Reader
import GoUnion.SourceFile
import GoUnion.SourceFile.Constants
import GoUnion.SourceFile.Reader
import GoUnion.Name
import GoUnion.Build.Context
import GoUnion.Build.Expression
import GoUnion.Build.Header
import GoUnion.GoType
import GoUnion.GoType.Equality
import GoUnion.GoType.Traversal
import GoUnion.GoType.Spelling
import GoUnion.LoadError
import GoUnion.Package
import GoUnion.Resolution
import GoUnion.Union.Features
import GoUnion.Union.FreeName
import GoUnion.Union.Descriptor
import GoUnion.Union.NamePlan
import GoUnion.Union.ImportPlan
import GoUnion.Union.Source
import GoUnion.Union.Generation
import GoUnion.Path
import GoUnion.GoModule
import GoUnion.FileTree
import GoUnion.FileTree.Change
import GoUnion.Package.Directory
import GoUnion.Request
import GoUnion.FileSystem
import GoUnion.FileTree.Disk
import GoUnion.Text.Lines
import GoUnion.Report.Ink
import GoUnion.Report.Mark
import GoUnion.Report
import GoUnion.CommandLine
import GoUnion.CommandLine.Argument
import GoUnion.CommandLine.Parser
import GoUnion.CommandLine.Usage
import GoUnion.Run
import GoUnion.Main
import GoUnion.Proofs.FreeName
import GoUnion.Proofs.NamePlan
import GoUnion.Proofs.Grammar
import GoUnion.Proofs.Grammar.Consumption
import GoUnion.Proofs.Grammar.Soundness
import GoUnion.Proofs.Grammar.Completeness
import GoUnion.Proofs.FileGrammar
import GoUnion.Proofs.FileGrammar.Soundness
import GoUnion.Proofs.WellFormed
import GoUnion.Proofs.WellFormed.Denotation
import GoUnion.Proofs.WellFormed.Resolution
import GoUnion.Proofs.WellFormed.Expansion
import GoUnion.Proofs.Lexing
import GoUnion.Proofs.Lexing.Splice
import GoUnion.Proofs.Lexing.Names
import GoUnion.Proofs.FileGrammar.Completeness
import GoUnion.Proofs.Lexing.Printed
import GoUnion.Proofs.Spelling
import GoUnion.Proofs.Spelling.Types
import GoUnion.Proofs.Places
import GoUnion.Proofs.Spelling.Functions
import GoUnion.Proofs.Spelling.Braces
import GoUnion.Proofs.Spelling.RoundTrip
import GoUnion.Proofs.Spelling.Parameters
import GoUnion.Proofs.Lexing.Replace
import GoUnion.Proofs.Places.Files
import GoUnion.Proofs.Places.Packages
import GoUnion.Proofs.Places.Slots
import GoUnion.Proofs.Scoping
import GoUnion.Proofs.Fragments
import GoUnion.Proofs.Emission
import GoUnion.Proofs.Reload
import GoUnion.Proofs.Shadowing
import GoUnion.Proofs.Output
import GoUnion.Proofs.NamedRoots
import GoUnion.Proofs.Spans
import GoUnion.Proofs.Lexing.Gaps
import GoUnion.Proofs.Lexing.Layout
import GoUnion.Proofs.Positions
import GoUnion.Proofs.Positions.Grammar
import GoUnion.Proofs.Positions.Files
import GoUnion.Proofs.Positions.Faults
import GoUnion.Proofs.Positions.Faults.Files
import GoUnion.Proofs.Failures
import GoUnion.Proofs.Structures
import GoUnion.Proofs.Positions.Resolution
import GoUnion.Proofs.Positions.Packages
import GoUnion.Proofs.Extension
import GoUnion.Proofs.Regeneration
import GoUnion.Proofs.Literal.Quoted
import GoUnion.Proofs.Chains
import GoUnion.Proofs.Output.Literals
import GoUnion.Proofs.ImportNames
import GoUnion.Proofs.ImportBlock
import GoUnion.Proofs.Arrangement
import GoUnion.Proofs.Selection
import GoUnion.Proofs.Replacement
import GoUnion.Proofs.Qualifiers
import GoUnion.Proofs.SyntaxEquality
import GoUnion.Proofs.Renaming
import GoUnion.Proofs.NameRoles
import GoUnion.Proofs.Switches
import GoUnion.Proofs.PackageNames
import GoUnion.Proofs.Insertion
import GoUnion.Proofs.ParameterLists
import GoUnion.Proofs.Formatter
import GoUnion.Proofs.Constraints
import GoUnion.Proofs.Constraints.Reading
import GoUnion.Proofs.Constraints.Printing
import GoUnion.Proofs.Constraints.Lines
import GoUnion.Proofs.Constraints.Blocks
import GoUnion.Proofs.Constraints.Options
import GoUnion.Proofs.Constraints.Comments
import GoUnion.Proofs.Constraints.Tags
import GoUnion.Proofs.Lexing.NormalForm
import GoUnion.Proofs.FileGrammar.ConstantGroups
import GoUnion.Proofs.FileGrammar.Skipped
import GoUnion.Proofs.Literal.Digits
import GoUnion.Proofs.Literal.Integers
import GoUnion.Proofs.Literal.Decimals
import GoUnion.Proofs.Lexing.Quotations
import GoUnion.Proofs.Literal.Strings
import GoUnion.Proofs.Identifiers
import GoUnion.Proofs.Locations
