import TagScript.Console.Files
import TagScript.Main
import TagScript.Proofs.ClosingTag
import TagScript.Proofs.CombinatorLaws
import TagScript.Proofs.CommandMarkup
import TagScript.Proofs.Concatenation
import TagScript.Proofs.Diagnosis
import TagScript.Proofs.Discipline
import TagScript.Proofs.ExitStatus
import TagScript.Proofs.Faults
import TagScript.Proofs.FieldMap
import TagScript.Proofs.LexemeLanguages
import TagScript.Proofs.LineColumn
import TagScript.Proofs.MessageLayout
import TagScript.Proofs.Mismatch
import TagScript.Proofs.NestingLimit
import TagScript.Proofs.OneLine
import TagScript.Proofs.OpenTagRecord
import TagScript.Proofs.Overrides
import TagScript.Proofs.PrintedTree
import TagScript.Proofs.Progress
import TagScript.Proofs.Quotation
import TagScript.Proofs.Repetition
import TagScript.Proofs.Requests
import TagScript.Proofs.RoundTrip
import TagScript.Proofs.RunTrace
import TagScript.Proofs.SelfDelimiting
import TagScript.Proofs.ShellWords
import TagScript.Recipe
