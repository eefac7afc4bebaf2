import RefPolicy.CommandLine.Run
import RefPolicy.FileTree
import RefPolicy.Main
import RefPolicy.Settings.FromJson
import RefPolicy.Proofs.Additions
import RefPolicy.Proofs.Agreement
import RefPolicy.Proofs.Answers
import RefPolicy.Proofs.Bearing
import RefPolicy.Proofs.Breakdowns
import RefPolicy.Proofs.Check
import RefPolicy.Proofs.DistinctKeys
import RefPolicy.Proofs.FirstPush
import RefPolicy.Proofs.Glob
import RefPolicy.Proofs.Inert
import RefPolicy.Proofs.JoinedText
import RefPolicy.Proofs.JsonText
import RefPolicy.Proofs.Layering
import RefPolicy.Proofs.Listing
import RefPolicy.Proofs.Members
import RefPolicy.Proofs.Overlay
import RefPolicy.Proofs.PolicyFile
import RefPolicy.Proofs.Privilege
import RefPolicy.Proofs.Reach
import RefPolicy.Proofs.ReportLines
import RefPolicy.Proofs.Removal
import RefPolicy.Proofs.Revocation
import RefPolicy.Proofs.TimestampText
import RefPolicy.Proofs.VariableNames
import RefPolicy.Proofs.Widening
import RefPolicy.Proofs.WrittenOptions
import RefPolicy.Proofs.NameSearch
import RefPolicy.Proofs.VariableValues
import RefPolicy.Proofs.GrantIds
