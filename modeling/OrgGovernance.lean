import OrgGovernance.CommandLine
import OrgGovernance.Console
import OrgGovernance.Council
import OrgGovernance.Decision
import OrgGovernance.Digest
import OrgGovernance.Disk
import OrgGovernance.Json
import OrgGovernance.JsonForm
import OrgGovernance.Main
import OrgGovernance.Number
import OrgGovernance.OrderedMap
import OrgGovernance.Proofs.AdmissibleDecision
import OrgGovernance.Proofs.AllOrNothing
import OrgGovernance.Proofs.Atomicity
import OrgGovernance.Proofs.Authority
import OrgGovernance.Proofs.Conservation
import OrgGovernance.Proofs.DigestText
import OrgGovernance.Proofs.Disk
import OrgGovernance.Proofs.Expiry
import OrgGovernance.Proofs.Founding
import OrgGovernance.Proofs.FreshIdentifier
import OrgGovernance.Proofs.History
import OrgGovernance.Proofs.Interference
import OrgGovernance.Proofs.Json.Token
import OrgGovernance.Proofs.Json.Value
import OrgGovernance.Proofs.JsonForm
import OrgGovernance.Proofs.Listing
import OrgGovernance.Proofs.OrderedMap
import OrgGovernance.Proofs.Passing
import OrgGovernance.Proofs.Percentage
import OrgGovernance.Proofs.Recording
import OrgGovernance.Proofs.RequestedSystem
import OrgGovernance.Proofs.Reveal
import OrgGovernance.Proofs.Run
import OrgGovernance.Proofs.SealedPhases
import OrgGovernance.Proofs.Session
import OrgGovernance.Proofs.ShownRequirement
import OrgGovernance.Proofs.SquareRoot
import OrgGovernance.Proofs.StoredPower
import OrgGovernance.Proofs.SystemParameters
import OrgGovernance.Proofs.Transition
import OrgGovernance.Proofs.UnclippedTally
import OrgGovernance.Proofs.UniqueReading
import OrgGovernance.Proofs.VoterProgress
import OrgGovernance.Proofs.WellFormed
import OrgGovernance.Registry
import OrgGovernance.Tally
import OrgGovernance.Toml.Document
import OrgGovernance.Toml.Scalar
import OrgGovernance.VotingSystem
