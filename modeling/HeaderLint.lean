import HeaderLint.Config.Load
import HeaderLint.Config.Preset
import HeaderLint.History.Range
import HeaderLint.Invocation.Parse
import HeaderLint.LetterCase
import HeaderLint.Linter
import HeaderLint.Main
import HeaderLint.Message.Comments
import HeaderLint.Proofs.Commit
import HeaderLint.Proofs.Config.Draft
import HeaderLint.Proofs.Config.Edits
import HeaderLint.Proofs.Config.Format
import HeaderLint.Proofs.Config.Preset
import HeaderLint.Proofs.Config.RuleSet
import HeaderLint.Proofs.Document.Json
import HeaderLint.Proofs.Document.Pretty
import HeaderLint.Proofs.Document.Toml
import HeaderLint.Proofs.Files
import HeaderLint.Proofs.History.Range
import HeaderLint.Proofs.History.Revision
import HeaderLint.Proofs.LetterCase.Conversion
import HeaderLint.Proofs.LetterCase.Languages
import HeaderLint.Proofs.LetterCase.Segments
import HeaderLint.Proofs.LetterCase.Words
import HeaderLint.Proofs.Linter
import HeaderLint.Proofs.Linter.Build
import HeaderLint.Proofs.Linter.HeaderOnly
import HeaderLint.Proofs.Linter.Independence
import HeaderLint.Proofs.Linter.Promotion
import HeaderLint.Proofs.Linter.Relaxation
import HeaderLint.Proofs.Lookup
import HeaderLint.Proofs.Message.Clean
import HeaderLint.Proofs.Message.Comments
import HeaderLint.Proofs.Message.Compose
import HeaderLint.Proofs.Message.Heading
import HeaderLint.Proofs.Message.Parse
import HeaderLint.Proofs.Registry
import HeaderLint.Proofs.Report.Agreement
import HeaderLint.Proofs.Report.Header
import HeaderLint.Proofs.Report.Json
import HeaderLint.Proofs.Report.Text
import HeaderLint.Proofs.Report.Verdict
import HeaderLint.Proofs.Rule.Demand
import HeaderLint.Proofs.Rule.Mark
import HeaderLint.Proofs.Rule.Membership
import HeaderLint.Proofs.Run.Check
import HeaderLint.Proofs.Run.ExitStatus
import HeaderLint.Proofs.Run.Frame
import HeaderLint.Proofs.Run.Init
import HeaderLint.Proofs.Run.Returns
import HeaderLint.Proofs.Text.Ascii
import HeaderLint.Proofs.Text.Blank
import HeaderLint.Proofs.Text.Cut
import HeaderLint.Proofs.Text.Decoding
import HeaderLint.Proofs.Text.Lines
import HeaderLint.Proofs.Text.Returns
import HeaderLint.Proofs.Text.Utf8
import HeaderLint.Report.Json
import HeaderLint.Report.Text
import HeaderLint.Report.Verdict
import HeaderLint.Run
