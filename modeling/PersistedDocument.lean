import PersistedDocument.Main
import PersistedDocument.Settings.Assignment
import PersistedDocument.Submission.Input
import PersistedDocument.Proofs.BlockString
import PersistedDocument.Proofs.Numerals
import PersistedDocument.Proofs.Spelling
import PersistedDocument.Proofs.Readable
import PersistedDocument.Proofs.PrintedTokens
import PersistedDocument.Proofs.Rereading
import PersistedDocument.Proofs.NamedVariable
import PersistedDocument.Proofs.Collecting
import PersistedDocument.Proofs.Preservation
import PersistedDocument.Proofs.SharedCollector
import PersistedDocument.Proofs.Secrecy
import PersistedDocument.Proofs.FreeVariables
import PersistedDocument.Proofs.Cutting
import PersistedDocument.Proofs.Lookahead
import PersistedDocument.Proofs.Composition
import PersistedDocument.Proofs.JsonStrings
import PersistedDocument.Proofs.JsonGrammar
import PersistedDocument.Proofs.JsonValues
import PersistedDocument.Proofs.RequestBody
import PersistedDocument.Proofs.JsonLimit
import PersistedDocument.Proofs.Judgement
import PersistedDocument.Proofs.Responses
import PersistedDocument.Proofs.UserInfo
import PersistedDocument.Proofs.Requests
import PersistedDocument.Proofs.Submission
import PersistedDocument.Proofs.RequestAddress
import PersistedDocument.Proofs.Program
import PersistedDocument.Proofs.Preview
import PersistedDocument.Proofs.Output
import PersistedDocument.Proofs.Escapes
import PersistedDocument.Proofs.DryRun
import PersistedDocument.Proofs.Spacing
import PersistedDocument.Proofs.Trace
import PersistedDocument.Proofs.Resolution
import PersistedDocument.Proofs.Credentials
