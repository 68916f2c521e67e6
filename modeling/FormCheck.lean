import FormCheck.AnnotatedClass.Form
import FormCheck.Main
import FormCheck.Proofs.AnnotatedClass.Fields
import FormCheck.Proofs.Building.Completeness
import FormCheck.Proofs.Building.Expansion
import FormCheck.Proofs.Building.Faults
import FormCheck.Proofs.Building.Inlining
import FormCheck.Proofs.Building.LateCalls
import FormCheck.Proofs.Building.Modes
import FormCheck.Proofs.Building.Offences
import FormCheck.Proofs.Building.Order
import FormCheck.Proofs.Building.Several
import FormCheck.Proofs.Building.Sites
import FormCheck.Proofs.Checking.Answers
import FormCheck.Proofs.Checking.Bounds
import FormCheck.Proofs.Checking.Missing
import FormCheck.Proofs.Checking.Reports
import FormCheck.Proofs.CommandLine
import FormCheck.Proofs.Document.Keys
import FormCheck.Proofs.Document.Refusal
import FormCheck.Proofs.Document.Types
import FormCheck.Proofs.FieldType.Wrappers
import FormCheck.Proofs.Format.Mail
import FormCheck.Proofs.Format.PhonePattern
import FormCheck.Proofs.Registry.FailedCalls
