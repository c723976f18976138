import LoadScript.Command.Arguments
import LoadScript.Command.Help
import LoadScript.Command.Invocation
import LoadScript.Command.Log
import LoadScript.Command.Setup
import LoadScript.Command.Surroundings
import LoadScript.Command.Tree
import LoadScript.Comment.Block
import LoadScript.Comment.Line
import LoadScript.Comment.Remark
import LoadScript.Diagnostic
import LoadScript.Form.Assignment
import LoadScript.Form.Basic
import LoadScript.Main
import LoadScript.Name
import LoadScript.Number.Binary64
import LoadScript.Number.Decimal
import LoadScript.Number.Reading
import LoadScript.Number.Rounding
import LoadScript.Number.Shortest
import LoadScript.Pattern.Expression
import LoadScript.Pattern.Match
import LoadScript.Pattern.Parser
import LoadScript.Pattern.Token
import LoadScript.Run
import LoadScript.Script
import LoadScript.Session
import LoadScript.Statement
import LoadScript.Store.Basic
import LoadScript.Store.Json
import LoadScript.Store.Table
import LoadScript.Template
import LoadScript.Text.Basic
import LoadScript.Text.Blank
import LoadScript.Text.Caseless
import LoadScript.Text.Glyph
import LoadScript.Text.Legible
import LoadScript.Text.Quoted
import LoadScript.Text.Ranges
import LoadScript.Text.Word
import LoadScript.Value.Basic
import LoadScript.Value.Json
import LoadScript.Proofs.BlockComment
import LoadScript.Proofs.LineComment
import LoadScript.Proofs.Passes
import LoadScript.Proofs.Lines
import LoadScript.Proofs.Stepping
import LoadScript.Proofs.Head
import LoadScript.Proofs.Literal
import LoadScript.Proofs.WrittenScript
import LoadScript.Proofs.Effects
import LoadScript.Proofs.NormalForm
import LoadScript.Proofs.Reading
import LoadScript.Proofs.AssignedNames
import LoadScript.Proofs.Statements
import LoadScript.Proofs.Unbroken
import LoadScript.Proofs.Claimants
import LoadScript.Proofs.Splitting
import LoadScript.Proofs.Invocations
import LoadScript.Proofs.Coercion
import LoadScript.Proofs.Replacement
import LoadScript.Proofs.PatternFits
import LoadScript.Proofs.HeadSearch
import LoadScript.Proofs.AssignmentGrammar
import LoadScript.Proofs.PatternGroups
import LoadScript.Proofs.AssignmentPatterns
import LoadScript.Proofs.SingleAssignment
import LoadScript.Proofs.WrittenNumbers
import LoadScript.Proofs.LineEnds
import LoadScript.Proofs.AdjacentBlocks
import LoadScript.Proofs.SameAssignment
import LoadScript.Proofs.Settling
import LoadScript.Proofs.LastWrites
import LoadScript.Proofs.JsonObject
