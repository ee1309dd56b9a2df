import Chatflow.Api
import Chatflow.Main
import Chatflow.Service.KeyStore
import Chatflow.Worker
import Chatflow.Proofs.Choice
import Chatflow.Proofs.Flow.Closing
import Chatflow.Proofs.Flow.Duality
import Chatflow.Proofs.Flow.Order
import Chatflow.Proofs.Run.Dataflow
import Chatflow.Proofs.Run.Generators
import Chatflow.Proofs.Run.Faults
import Chatflow.Proofs.Run.Account
import Chatflow.Proofs.Run.Supply
import Chatflow.Proofs.Run.Locality
import Chatflow.Proofs.Run.Branches
import Chatflow.Proofs.Run.Parents
import Chatflow.Proofs.Run.Event
import Chatflow.Proofs.Run.Sending
import Chatflow.Proofs.Plan.Listing
import Chatflow.Proofs.Validation.Clash
import Chatflow.Proofs.Validation.Reports
import Chatflow.Proofs.Yaml.Entries
import Chatflow.Proofs.Yaml.Names
import Chatflow.Proofs.Node.Keys
import Chatflow.Proofs.Node.Keywords
import Chatflow.Proofs.Node.StaticText
import Chatflow.Proofs.Node.Typing
import Chatflow.Proofs.Node.Transcript
import Chatflow.Proofs.Node.Transparent
import Chatflow.Proofs.Retry
import Chatflow.Proofs.Service.Isolation
import Chatflow.Proofs.Dispatch
import Chatflow.Proofs.Flow.File
