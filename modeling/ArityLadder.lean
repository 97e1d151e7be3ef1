import ArityLadder.CommandLine.Token
import ArityLadder.Plan.Editing
import ArityLadder.Settings.Writer
import ArityLadder.Main
import ArityLadder.Proofs.Settings.KnownKeys
import ArityLadder.Proofs.CommandLine.Orders
import ArityLadder.Proofs.Fragments.Accessors
import ArityLadder.Proofs.Fragments.Branches
import ArityLadder.Proofs.Fragments.Deserializers
import ArityLadder.Proofs.Fragments.Destructuring
import ArityLadder.Proofs.Fragments.Extractors
import ArityLadder.Proofs.Plans.Repetitions
import ArityLadder.Proofs.Plans.Starts
import ArityLadder.Proofs.Printing.Assembly
import ArityLadder.Proofs.Printing.Chains
import ArityLadder.Proofs.Printing.Documents
import ArityLadder.Proofs.Printing.Indentation
import ArityLadder.Proofs.Program.Acceptance
import ArityLadder.Proofs.Program.Announcements
import ArityLadder.Proofs.Program.Colors
import ArityLadder.Proofs.Program.Refusals
import ArityLadder.Proofs.Program.Resolution
