import ProblemBoard.CommandLine.OnDisk
import ProblemBoard.Main
import ProblemBoard.Store.Edit
import ProblemBoard.Store.Memory
import ProblemBoard.Proofs.Distance
import ProblemBoard.Proofs.Exploration
import ProblemBoard.Proofs.Nesting
import ProblemBoard.Proofs.Components
import ProblemBoard.Proofs.Discovery
import ProblemBoard.Proofs.Climbing
import ProblemBoard.Proofs.Repair
import ProblemBoard.Proofs.Detachment
import ProblemBoard.Proofs.Rebuilding
import ProblemBoard.Proofs.Counting
import ProblemBoard.Proofs.World
import ProblemBoard.Proofs.Gathering
import ProblemBoard.Proofs.Exactness
import ProblemBoard.Proofs.Independence
import ProblemBoard.Proofs.Comparison
import ProblemBoard.Proofs.Relaxation
import ProblemBoard.Proofs.Concealment
import ProblemBoard.Proofs.RollUp
import ProblemBoard.Proofs.Writing
import ProblemBoard.Proofs.Reading
import ProblemBoard.Proofs.Cells
import ProblemBoard.Proofs.Mirroring
import ProblemBoard.Proofs.Refusing
import ProblemBoard.Proofs.Histories
import ProblemBoard.Proofs.Transactions
import ProblemBoard.Proofs.Loading
import ProblemBoard.Proofs.Interchange
import ProblemBoard.Proofs.Rendering
import ProblemBoard.Proofs.Bookkeeping
import ProblemBoard.Proofs.Rearrangement
import ProblemBoard.Proofs.Chronicle
import ProblemBoard.Proofs.Recording
import ProblemBoard.Proofs.Numbering
import ProblemBoard.Proofs.LifeCycle
import ProblemBoard.Proofs.Models
import ProblemBoard.Proofs.Refiling
import ProblemBoard.Proofs.Settings
import ProblemBoard.Proofs.Traces
import ProblemBoard.Proofs.Entries
import ProblemBoard.Proofs.Counters
import ProblemBoard.Proofs.Tallying
import ProblemBoard.Proofs.Reloading
import ProblemBoard.Proofs.FieldNumbers
import ProblemBoard.Proofs.Setups
import ProblemBoard.Proofs.Misfits
import ProblemBoard.Proofs.Clauses
import ProblemBoard.Proofs.Phrases
import ProblemBoard.Proofs.Wording
import ProblemBoard.Proofs.Membership
import ProblemBoard.Proofs.Questions
import ProblemBoard.Proofs.Toggles
import ProblemBoard.Proofs.Spelling
import ProblemBoard.Proofs.Ancestry
import ProblemBoard.Proofs.Configurations
