import DatabaseGateway.Client.ScriptedHost
import DatabaseGateway.Client.Slot
import DatabaseGateway.Link.Dial
import DatabaseGateway.Network.Scripted
import DatabaseGateway.Simulation.Calls
import DatabaseGateway.Proofs.Pool.Accounting
import DatabaseGateway.Proofs.Pool.Frame
import DatabaseGateway.Proofs.Pool.Ledger
import DatabaseGateway.Proofs.Pool.Ownership
import DatabaseGateway.Proofs.Pool.Provenance
import DatabaseGateway.Proofs.Pool.Credentials
import DatabaseGateway.Proofs.Pool.Solo
import DatabaseGateway.Proofs.Pool.Confinement
import DatabaseGateway.Proofs.Simulation.Soundness
import DatabaseGateway.Proofs.Handle.Refinement
import DatabaseGateway.Proofs.Pool.Standing
import DatabaseGateway.Proofs.Pool.Renewal
import DatabaseGateway.Proofs.Pool.Exposure
import DatabaseGateway.Proofs.Pool.Retirement
import DatabaseGateway.Proofs.Pool.Draining
import DatabaseGateway.Proofs.Wire.Streaming
import DatabaseGateway.Proofs.Wire.Startup
import DatabaseGateway.Proofs.Wire.Canonical
import DatabaseGateway.Proofs.Wire.Conversation
import DatabaseGateway.Proofs.Client.Custody
import DatabaseGateway.Proofs.Client.Conduct
import DatabaseGateway.Proofs.Client.Release
import DatabaseGateway.Proofs.Link.Login
import DatabaseGateway.Proofs.Client.Answers
import DatabaseGateway.Proofs.Link.Probe
import DatabaseGateway.Proofs.Pool.Handover
import DatabaseGateway.Proofs.Client.Requests
import DatabaseGateway.Proofs.Link.Parameters
import DatabaseGateway.Proofs.Pool.Closing
import DatabaseGateway.Proofs.Link.Backlog
import DatabaseGateway.Proofs.Link.Admission
import DatabaseGateway.Proofs.Link.Acknowledgement
import DatabaseGateway.Proofs.Link.Remainder
import DatabaseGateway.Proofs.Pool.Course
import DatabaseGateway.Proofs.Pool.Service
import DatabaseGateway.Proofs.Handle.Verdict
import DatabaseGateway.Proofs.Pool.Transcript
import DatabaseGateway.Proofs.Wire.Acceptance
import DatabaseGateway.Proofs.Pool.Upkeep
import DatabaseGateway.Proofs.Pool.Teardown
import DatabaseGateway.Proofs.Client.Delivery
import DatabaseGateway.Proofs.Link.Packet
import DatabaseGateway.Proofs.Link.Replies
import DatabaseGateway.Proofs.Link.Commands
import DatabaseGateway.Proofs.Config.Spelling
import DatabaseGateway.Proofs.Pool.Deadlines
import DatabaseGateway.Proofs.Client.Finality
import DatabaseGateway.Proofs.Link.Refusals
import DatabaseGateway.Proofs.Pool.Refusals
