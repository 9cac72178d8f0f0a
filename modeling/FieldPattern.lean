import FieldPattern.Main
import FieldPattern.Proofs.TokenShape
import FieldPattern.Proofs.Reading
import FieldPattern.Proofs.Legible
import FieldPattern.Proofs.GrammarLanguage
import FieldPattern.Proofs.WrittenForms
import FieldPattern.Proofs.Runs
import FieldPattern.Proofs.Editing
import FieldPattern.Proofs.SessionTokens
import FieldPattern.Proofs.Interleaving
import FieldPattern.Proofs.JsonText
import FieldPattern.Proofs.RecordText
import FieldPattern.Proofs.Walks
import FieldPattern.Proofs.Files
import FieldPattern.Proofs.AllOrNothing
import FieldPattern.Proofs.Folders
import FieldPattern.Proofs.StoreNames
import FieldPattern.Proofs.Shelf
import FieldPattern.Proofs.Listing
import FieldPattern.Proofs.Columns
import FieldPattern.Proofs.InPlace
import FieldPattern.Proofs.Scripts
import FieldPattern.Proofs.Numerals
import FieldPattern.Proofs.CommandText
import FieldPattern.Proofs.CommandRender
import FieldPattern.Proofs.Appending
import FieldPattern.Proofs.Alternatives
import FieldPattern.Proofs.Expressions
import FieldPattern.Proofs.NewTexts
import FieldPattern.Proofs.Moves
import FieldPattern.Proofs.Additions
import FieldPattern.Proofs.ParentPaths
import FieldPattern.Proofs.Confinement
import FieldPattern.Proofs.Readiness
import FieldPattern.Proofs.Removal
import FieldPattern.Proofs.Commits
import FieldPattern.Proofs.EmptyPatterns
import FieldPattern.Proofs.TokenLines
import FieldPattern.Proofs.LossyText
import FieldPattern.Proofs.SampleLines
