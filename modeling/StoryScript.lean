import StoryScript.CommandLine
import StoryScript.Diagnostic
import StoryScript.Dictionary
import StoryScript.Grammar.Cursor
import StoryScript.Grammar.Expression
import StoryScript.Grammar.Parser
import StoryScript.Grammar.Reading
import StoryScript.Grammar.Statement
import StoryScript.Host
import StoryScript.Literal
import StoryScript.Machine.Basic
import StoryScript.Machine.Eval
import StoryScript.Main
import StoryScript.Native.Basic
import StoryScript.Native.Call
import StoryScript.Number.Basic
import StoryScript.Number.Decimal
import StoryScript.Number.Rounding
import StoryScript.Prompt
import StoryScript.Proofs.Grammar.Acceptance
import StoryScript.Proofs.Grammar.Accounts
import StoryScript.Proofs.Grammar.Bodies
import StoryScript.Proofs.Grammar.Bounds
import StoryScript.Proofs.Grammar.Cascades
import StoryScript.Proofs.Grammar.Clauses
import StoryScript.Proofs.Grammar.Continuation
import StoryScript.Proofs.Grammar.Declarations
import StoryScript.Proofs.Grammar.Derivation
import StoryScript.Proofs.Grammar.Descent
import StoryScript.Proofs.Grammar.ExpressionComplete
import StoryScript.Proofs.Grammar.ExpressionSound
import StoryScript.Proofs.Grammar.Failures
import StoryScript.Proofs.Grammar.Laws
import StoryScript.Proofs.Grammar.Levels
import StoryScript.Proofs.Grammar.Position
import StoryScript.Proofs.Grammar.Productions
import StoryScript.Proofs.Grammar.Reads
import StoryScript.Proofs.Grammar.Record
import StoryScript.Proofs.Grammar.Renumbering
import StoryScript.Proofs.Grammar.Spelling
import StoryScript.Proofs.Grammar.Staging
import StoryScript.Proofs.Grammar.StartLine
import StoryScript.Proofs.Grammar.StatementReads
import StoryScript.Proofs.Grammar.Statements
import StoryScript.Proofs.Grammar.Texts
import StoryScript.Proofs.Grammar.Walks
import StoryScript.Proofs.Host.Lines
import StoryScript.Proofs.Host.Truncation
import StoryScript.Proofs.Machine.Contract
import StoryScript.Proofs.Machine.Course
import StoryScript.Proofs.Machine.Encapsulation
import StoryScript.Proofs.Machine.Ends
import StoryScript.Proofs.Machine.ForLoop
import StoryScript.Proofs.Machine.Fuel
import StoryScript.Proofs.Machine.Grounding
import StoryScript.Proofs.Machine.Layout
import StoryScript.Proofs.Machine.LimitedSink
import StoryScript.Proofs.Machine.Lockstep
import StoryScript.Proofs.Machine.Padding
import StoryScript.Proofs.Machine.Recast
import StoryScript.Proofs.Machine.Renumbering
import StoryScript.Proofs.Machine.Requests
import StoryScript.Proofs.Machine.Resolution
import StoryScript.Proofs.Machine.Returns
import StoryScript.Proofs.Machine.ScopeDiscipline
import StoryScript.Proofs.Machine.ScopeUpdates
import StoryScript.Proofs.Machine.Soundness
import StoryScript.Proofs.Machine.Tandem
import StoryScript.Proofs.Machine.TopLevel
import StoryScript.Proofs.Native.Dice
import StoryScript.Proofs.Native.Failures
import StoryScript.Proofs.Native.Input
import StoryScript.Proofs.Native.Truncation
import StoryScript.Proofs.Number.Decimal
import StoryScript.Proofs.Number.Rational
import StoryScript.Proofs.Number.Readback
import StoryScript.Proofs.Number.Rounding
import StoryScript.Proofs.Prompt.Account
import StoryScript.Proofs.Prompt.Completion
import StoryScript.Proofs.Random.Range
import StoryScript.Proofs.Random.Wrapping
import StoryScript.Proofs.Session.Chunks
import StoryScript.Proofs.Session.ErrorLines
import StoryScript.Proofs.Session.Input
import StoryScript.Proofs.Session.LimitedSink
import StoryScript.Proofs.Session.StartLine
import StoryScript.Proofs.Text.Quoted
import StoryScript.Proofs.Token.Braces
import StoryScript.Proofs.Token.Lexicon
import StoryScript.Proofs.Token.LineBreak
import StoryScript.Proofs.Token.LineNumbers
import StoryScript.Proofs.Token.Lines
import StoryScript.Proofs.Token.LongestMatch
import StoryScript.Proofs.Token.Rescan
import StoryScript.Proofs.Tree.Form
import StoryScript.Proofs.Tree.Meaning
import StoryScript.Proofs.Tree.Rendering
import StoryScript.Proofs.Tree.Renumbering
import StoryScript.Proofs.Tree.StrayReturns
import StoryScript.Proofs.World.Caps
import StoryScript.Proofs.World.Dice
import StoryScript.Proofs.World.History
import StoryScript.Random.Keystream
import StoryScript.Random.Range
import StoryScript.Run
import StoryScript.Scopes
import StoryScript.Session
import StoryScript.Text.Blank
import StoryScript.Text.Cluster
import StoryScript.Text.Conjunct
import StoryScript.Text.Extending
import StoryScript.Text.Pictograph
import StoryScript.Text.Quoted
import StoryScript.Text.Range
import StoryScript.Text.SpacingMark
import StoryScript.Text.Typed
import StoryScript.Text.Unprintable
import StoryScript.Text.Utf8
import StoryScript.Token.Basic
import StoryScript.Token.Piece
import StoryScript.Token.Scan
import StoryScript.Tree.Basic
import StoryScript.Tree.Nodes
import StoryScript.Tree.Render
import StoryScript.Tree.StrayReturn
import StoryScript.Value
import StoryScript.World
