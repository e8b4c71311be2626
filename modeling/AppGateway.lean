import AppGateway.Backing.WireServer
import AppGateway.Http.Server
import AppGateway.Main
import AppGateway.Proofs.Backing.Memory
import AppGateway.Proofs.Gateway.Addressing
import AppGateway.Proofs.Gateway.Catalogue
import AppGateway.Proofs.Gateway.Frame
import AppGateway.Proofs.Gateway.LostUpdate
import AppGateway.Proofs.Gateway.Visible
import AppGateway.Proofs.Watch.Delivery
import AppGateway.Proofs.Watch.InStep
import AppGateway.Proofs.Gateway.ReadPaths
import AppGateway.Proofs.Backing.Interleaving
import AppGateway.Proofs.Gateway.CheckedWrite
import AppGateway.Proofs.Gateway.Moves
import AppGateway.Proofs.Gateway.Separation
import AppGateway.Proofs.Watch.Closing
import AppGateway.Proofs.Watch.State
import AppGateway.Proofs.Backing.Transactional
import AppGateway.Proofs.Gateway.Atomic
import AppGateway.Proofs.Meta.Seconds
import AppGateway.Proofs.Resource.SentBack
import AppGateway.Proofs.Http.Target
import AppGateway.Proofs.Backing.Address
import AppGateway.Proofs.Http.ItemRequests
import AppGateway.Proofs.Gateway.NothingChanged
import AppGateway.Proofs.Http.FailureAnswers
import AppGateway.Proofs.Http.Handling
import AppGateway.Proofs.Gateway.Tables
import AppGateway.Proofs.Http.RepeatedPut
import AppGateway.Proofs.Gateway.EmptyFields
import AppGateway.Proofs.Gateway.PatchedRecord
import AppGateway.Proofs.Config.FirstFault
import AppGateway.Proofs.Gateway.Conditions
import AppGateway.Proofs.Time.Ages
import AppGateway.Proofs.Http.Creation
import AppGateway.Proofs.Gateway.Selection
import AppGateway.Proofs.Watch.Stopping
import AppGateway.Proofs.Http.TableAnswers
import AppGateway.Proofs.Http.Streaming
