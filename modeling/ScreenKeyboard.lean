import ScreenKeyboard.CommandLine.Options
import ScreenKeyboard.CommandLine.Program
import ScreenKeyboard.Config.Basic
import ScreenKeyboard.Config.Loading
import ScreenKeyboard.Decimal.Reading
import ScreenKeyboard.Decimal.Shortest
import ScreenKeyboard.Document.Config
import ScreenKeyboard.Document.Decoder
import ScreenKeyboard.Document.Error
import ScreenKeyboard.Document.Event
import ScreenKeyboard.Document.Json
import ScreenKeyboard.Document.Layout
import ScreenKeyboard.Document.Lexeme
import ScreenKeyboard.Document.Lexeme.Number
import ScreenKeyboard.Document.Lexeme.Text
import ScreenKeyboard.Document.Node
import ScreenKeyboard.Document.Parser
import ScreenKeyboard.Document.Record
import ScreenKeyboard.Document.Symbol
import ScreenKeyboard.Document.Token
import ScreenKeyboard.Files.Basic
import ScreenKeyboard.Files.Tree
import ScreenKeyboard.Keyboard.Basic
import ScreenKeyboard.Keyboard.Event
import ScreenKeyboard.Keyboard.Input
import ScreenKeyboard.Keyboard.Key
import ScreenKeyboard.Keyboard.Level
import ScreenKeyboard.Keyboard.Outline
import ScreenKeyboard.Keyboard.Pointer
import ScreenKeyboard.Keyboard.Section
import ScreenKeyboard.Keyboard.Sink
import ScreenKeyboard.Keyboard.Transition
import ScreenKeyboard.Keysym.Basic
import ScreenKeyboard.Keysym.Character
import ScreenKeyboard.Keysym.Name
import ScreenKeyboard.Layout.Basic
import ScreenKeyboard.Layout.Build
import ScreenKeyboard.Layout.BuiltIn
import ScreenKeyboard.Layout.Error
import ScreenKeyboard.Layout.Issue
import ScreenKeyboard.Layout.Loading
import ScreenKeyboard.Layout.Validation
import ScreenKeyboard.Main
import ScreenKeyboard.Modifier.Basic
import ScreenKeyboard.Modifier.Expression
import ScreenKeyboard.Proofs.Document.Configs
import ScreenKeyboard.Proofs.Document.Events
import ScreenKeyboard.Proofs.Document.Layouts
import ScreenKeyboard.Proofs.Document.Nodes
import ScreenKeyboard.Proofs.Document.Records
import ScreenKeyboard.Proofs.Document.Tokens
import ScreenKeyboard.Proofs.Keyboard.Agreement
import ScreenKeyboard.Proofs.Keyboard.Alternation
import ScreenKeyboard.Proofs.Keyboard.Axis
import ScreenKeyboard.Proofs.Keyboard.Balance
import ScreenKeyboard.Proofs.Keyboard.Clearing
import ScreenKeyboard.Proofs.Keyboard.Cover
import ScreenKeyboard.Proofs.Keyboard.Dial
import ScreenKeyboard.Proofs.Keyboard.Dropping
import ScreenKeyboard.Proofs.Keyboard.EventOrder
import ScreenKeyboard.Proofs.Keyboard.History
import ScreenKeyboard.Proofs.Keyboard.Holding
import ScreenKeyboard.Proofs.Keyboard.Keys
import ScreenKeyboard.Proofs.Keyboard.Locks
import ScreenKeyboard.Proofs.Keyboard.Mirror
import ScreenKeyboard.Proofs.Keyboard.Moves
import ScreenKeyboard.Proofs.Keyboard.NumLock
import ScreenKeyboard.Proofs.Keyboard.Owners
import ScreenKeyboard.Proofs.Keyboard.Presses
import ScreenKeyboard.Proofs.Keyboard.Recording
import ScreenKeyboard.Proofs.Keyboard.Releases
import ScreenKeyboard.Proofs.Keyboard.Steps
import ScreenKeyboard.Proofs.Keyboard.Strokes
import ScreenKeyboard.Proofs.Keyboard.Symbols
import ScreenKeyboard.Proofs.Keyboard.Taps
import ScreenKeyboard.Proofs.Keyboard.Teardown
import ScreenKeyboard.Proofs.Keyboard.Touches
import ScreenKeyboard.Proofs.Keyboard.Turns
import ScreenKeyboard.Proofs.Keysym.CodePoints
import ScreenKeyboard.Proofs.Layout.Built
import ScreenKeyboard.Proofs.Layout.BuiltIn
import ScreenKeyboard.Proofs.Layout.Faults
import ScreenKeyboard.Proofs.Layout.Findings
import ScreenKeyboard.Proofs.Layout.Lookup
import ScreenKeyboard.Proofs.Layout.Places
import ScreenKeyboard.Proofs.Layout.Reports
import ScreenKeyboard.Proofs.Layout.Sorting
import ScreenKeyboard.Proofs.Layout.Sources
import ScreenKeyboard.Proofs.Modifier.Bits
import ScreenKeyboard.Proofs.Modifier.Expression
import ScreenKeyboard.Proofs.Modifier.Parts
import ScreenKeyboard.Proofs.Script.Commands
import ScreenKeyboard.Proofs.Script.Lines
import ScreenKeyboard.Proofs.Script.Replays
import ScreenKeyboard.Proofs.Script.Written
import ScreenKeyboard.Proofs.Symbol.Stores
import ScreenKeyboard.Proofs.Symbol.Table
import ScreenKeyboard.Proofs.Text.Blank
import ScreenKeyboard.Proofs.Text.Lines
import ScreenKeyboard.Proofs.Text.Numeral
import ScreenKeyboard.Proofs.Text.Spelling
import ScreenKeyboard.Proofs.Text.Words
import ScreenKeyboard.Script.Command
import ScreenKeyboard.Script.Parser
import ScreenKeyboard.Script.Replay
import ScreenKeyboard.Symbol.Basic
import ScreenKeyboard.Symbol.Table
import ScreenKeyboard.Text.Alphabetic
import ScreenKeyboard.Text.Basic
import ScreenKeyboard.Text.Hidden
