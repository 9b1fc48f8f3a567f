import StreamScript.Text.Basic
import StreamScript.Text.Letter
import StreamScript.Text.Uppercase
import StreamScript.Text.Quoted
import StreamScript.Text.Escape
import StreamScript.Text.Placeholder
import StreamScript.Number.Binary64
import StreamScript.Number.Reading
import StreamScript.Number.Shortest
import StreamScript.Position
import StreamScript.Diagnostic
import StreamScript.Token.Basic
import StreamScript.Token.Stream
import StreamScript.Source.Lexeme
import StreamScript.Source.Scan
import StreamScript.Source.Listing
import StreamScript.Scope
import StreamScript.Value
import StreamScript.Store
import StreamScript.Run.Error
import StreamScript.Run.Expression
import StreamScript.Run.Statement
import StreamScript.Run.Console
import StreamScript.Run.Machine
import StreamScript.Command.Path
import StreamScript.Command.Location
import StreamScript.Command.Folder
import StreamScript.Command.Request
import StreamScript.Command.Plan
import StreamScript.Main
import StreamScript.Proofs.EscapedText
import StreamScript.Proofs.TextLines
import StreamScript.Proofs.StreamRoundTrip
import StreamScript.Proofs.Relocation
import StreamScript.Proofs.MachineRuns
import StreamScript.Proofs.RelocatedRun
import StreamScript.Proofs.PersistedRun
import StreamScript.Proofs.StoreChanges
import StreamScript.Proofs.StoreTyping
import StreamScript.Proofs.StatementBatches
import StreamScript.Proofs.StepEffects
import StreamScript.Proofs.RunHistory
import StreamScript.Proofs.FaultOrigins
import StreamScript.Proofs.CheckedRun
import StreamScript.Proofs.Spellings
import StreamScript.Proofs.CharacterClasses
import StreamScript.Proofs.Segmentation
import StreamScript.Proofs.LexedTokens
import StreamScript.Proofs.PrintedTokens
import StreamScript.Proofs.StatementForms
import StreamScript.Proofs.RunCourse
import StreamScript.Proofs.StrictRun
import StreamScript.Proofs.DeclarationForms
import StreamScript.Proofs.DataFaults
import StreamScript.Proofs.LexedLiterals
import StreamScript.Proofs.FolderChanges
import StreamScript.Proofs.CompiledRun
import StreamScript.Proofs.StreamPortions
import StreamScript.Proofs.PortionedRun
import StreamScript.Proofs.LibraryGate
import StreamScript.Proofs.StrictStop
import StreamScript.Proofs.CommandAgreement
import StreamScript.Proofs.TracedRun
import StreamScript.Proofs.PlaceholderSegments
import StreamScript.Proofs.PrecedenceGrammar
import StreamScript.Proofs.PrintedTexts
import StreamScript.Proofs.OperandAccounts
import StreamScript.Proofs.PieceMentions
import StreamScript.Proofs.ReaderCalls
import StreamScript.Proofs.LocatedEvents
import StreamScript.Proofs.LexedPortions
import StreamScript.Proofs.StreamLines
import StreamScript.Proofs.ScopeOffences
import StreamScript.Proofs.OperandOrder
import StreamScript.Proofs.IndependentStatements
import StreamScript.Proofs.StreamLayout
import StreamScript.Proofs.IntegerArithmetic
import StreamScript.Proofs.AdditionChains
import StreamScript.Proofs.ReportedPlaces
