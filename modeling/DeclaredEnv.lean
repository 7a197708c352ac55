import DeclaredEnv.Text.Blank
import DeclaredEnv.Text.LetterCase
import DeclaredEnv.Text.Quoted
import DeclaredEnv.Number.Layout
import DeclaredEnv.Json.Reader
import DeclaredEnv.Fault
import DeclaredEnv.Variable
import DeclaredEnv.Entry
import DeclaredEnv.Evaluation
import DeclaredEnv.Manifest
import DeclaredEnv.Toml.Document
import DeclaredEnv.SchemaDocument
import DeclaredEnv.CommandLine.Program
import DeclaredEnv.Main
import DeclaredEnv.Proofs.Sequence
import DeclaredEnv.Proofs.Cycle
import DeclaredEnv.Proofs.Comparison
import DeclaredEnv.Proofs.Declaration
import DeclaredEnv.Proofs.Parted
import DeclaredEnv.Proofs.Reference
import DeclaredEnv.Proofs.Termination
import DeclaredEnv.Proofs.Typing
import DeclaredEnv.Proofs.Report
import DeclaredEnv.Proofs.WellFormed
import DeclaredEnv.Proofs.Scope
import DeclaredEnv.Proofs.Built
import DeclaredEnv.Proofs.Evaluation
import DeclaredEnv.Proofs.Resolved
import DeclaredEnv.Proofs.Rearrangement
import DeclaredEnv.Proofs.Isolation
import DeclaredEnv.Proofs.Decimal
import DeclaredEnv.Proofs.FloatText
import DeclaredEnv.Proofs.JsonNumber
import DeclaredEnv.Proofs.JsonText
import DeclaredEnv.Proofs.ReadBack
import DeclaredEnv.Proofs.CrossReading
import DeclaredEnv.Proofs.Reexport
import DeclaredEnv.Proofs.Agreement
import DeclaredEnv.Proofs.Manifest
import DeclaredEnv.Proofs.Application
import DeclaredEnv.Proofs.ConditionEffect
import DeclaredEnv.Proofs.Secrecy
import DeclaredEnv.Proofs.Reading
import DeclaredEnv.Proofs.Extension
import DeclaredEnv.Proofs.DistinctKeys
import DeclaredEnv.Proofs.DocumentEntries
import DeclaredEnv.Proofs.DocumentDefault
import DeclaredEnv.Proofs.FileWrite
import DeclaredEnv.Proofs.Stages
import DeclaredEnv.Proofs.LetterCase
import DeclaredEnv.Proofs.Naming
import DeclaredEnv.Proofs.DocumentShape
import DeclaredEnv.Proofs.Lookup
