import KanjiSearch.Command.Run
import KanjiSearch.Main
import KanjiSearch.Proofs.Grammar.RoundTrip
import KanjiSearch.Proofs.Grammar.Likeness
import KanjiSearch.Proofs.Grammar.Tests
import KanjiSearch.Proofs.Grammar.ErrorPlaces
import KanjiSearch.Proofs.Grammar.Nesting
import KanjiSearch.Proofs.Grammar.OptionalAnd
import KanjiSearch.Proofs.Grammar.Numbers
import KanjiSearch.Proofs.Matching.Levels
import KanjiSearch.Proofs.Command.Verdict
import KanjiSearch.Proofs.Settings.Precedence
import KanjiSearch.Proofs.Settings.RootMark
import KanjiSearch.Proofs.Command.SavedResult
import KanjiSearch.Proofs.Path.Resolution
import KanjiSearch.Proofs.Path.Shown
import KanjiSearch.Proofs.Settings.Discovery
import KanjiSearch.Proofs.Settings.Document
import KanjiSearch.Proofs.Settings.HomeFile
import KanjiSearch.Proofs.Settings.RelativeNames
import KanjiSearch.Proofs.Settings.Written
import KanjiSearch.Proofs.Command.Start
import KanjiSearch.Proofs.Matching.LiteralText
import KanjiSearch.Proofs.Grammar.Faults
import KanjiSearch.Proofs.Grammar.Hints
import KanjiSearch.Proofs.Matching.LowerCase
import KanjiSearch.Proofs.Matching.UsualFields
import KanjiSearch.Proofs.Completion.Completed
import KanjiSearch.Proofs.Terminal.Pointing
import KanjiSearch.Proofs.Settings.Applicable
import KanjiSearch.Proofs.Lexer.Quoting
import KanjiSearch.Proofs.Outline.Lines
import KanjiSearch.Proofs.Grammar.Progress
