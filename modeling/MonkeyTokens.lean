import MonkeyTokens.Token.Display
import MonkeyTokens.Files.Tree
import MonkeyTokens.Main
import MonkeyTokens.Proofs.Moves
import MonkeyTokens.Proofs.Scan
import MonkeyTokens.Proofs.Grammar
import MonkeyTokens.Proofs.Concatenation
import MonkeyTokens.Proofs.Compact
import MonkeyTokens.Proofs.Lines
import MonkeyTokens.Proofs.Transcript
import MonkeyTokens.Proofs.Runs
import MonkeyTokens.Proofs.Spans
import MonkeyTokens.Proofs.Checked
import MonkeyTokens.Proofs.Restart
import MonkeyTokens.Proofs.Characters
import MonkeyTokens.Proofs.FullSink
import MonkeyTokens.Proofs.JsonReading
import MonkeyTokens.Proofs.ReadBack
import MonkeyTokens.Proofs.DumpCommand
import MonkeyTokens.Proofs.FirstSource
import MonkeyTokens.Proofs.Pulling
import MonkeyTokens.Proofs.Denial
import MonkeyTokens.Proofs.SessionLog
import MonkeyTokens.Proofs.BrokenInput
import MonkeyTokens.Proofs.TokenCount
import MonkeyTokens.Proofs.SameClasses
import MonkeyTokens.Proofs.EventLog
import MonkeyTokens.Proofs.Diagnostics
import MonkeyTokens.Proofs.Reached
import MonkeyTokens.Proofs.Renderings
import MonkeyTokens.Proofs.IndependentSettings
import MonkeyTokens.Proofs.Asking
import MonkeyTokens.Proofs.Conversation
