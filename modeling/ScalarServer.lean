import ScalarServer.CommandLine
import ScalarServer.Http.Service
import ScalarServer.Main
import ScalarServer.Proofs.AddressSpace.Listing
import ScalarServer.Proofs.Http.Addressing
import ScalarServer.Proofs.Http.Interleaving
import ScalarServer.Proofs.Http.Refusal
import ScalarServer.Proofs.Http.Reordering
import ScalarServer.Proofs.Http.Secrecy
import ScalarServer.Proofs.Http.Session
import ScalarServer.Proofs.Registration.Outcome
import ScalarServer.Proofs.Scalar.Coding
import ScalarServer.Proofs.Scalar.Lenient
import ScalarServer.Proofs.Scalar.Modular
import ScalarServer.Proofs.Floating.Truncation
import ScalarServer.Proofs.Scalar.IntegerPart
import ScalarServer.Proofs.Floating.Range
import ScalarServer.Proofs.Scalar.Literal
import ScalarServer.Proofs.Decimal.FewestDigits
import ScalarServer.Proofs.Decimal.Grammar
import ScalarServer.Proofs.Floating.Narrowing
import ScalarServer.Proofs.Scalar.Narrowing
import ScalarServer.Proofs.Scalar.Reading
import ScalarServer.Proofs.Scalar.Strict
import ScalarServer.Proofs.Scalar.Refusal
import ScalarServer.Proofs.Scalar.RealText
import ScalarServer.Proofs.Scalar.SmallIntegers
import ScalarServer.Proofs.AddressSpace.Namespaces
import ScalarServer.Proofs.Http.Authorization
import ScalarServer.Proofs.Credentials.Passwords
import ScalarServer.Proofs.Config.Document
import ScalarServer.Proofs.Config.FolderPath
import ScalarServer.Proofs.NodeId.Derived
