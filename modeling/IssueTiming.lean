import IssueTiming.Assembly.Listing
import IssueTiming.Assembly.Loop
import IssueTiming.Assembly.Sample
import IssueTiming.Core.Catalogue
import IssueTiming.Core.Dependency
import IssueTiming.Isa.Catalogue
import IssueTiming.Settings.Selection
import IssueTiming.Proofs.Text.Trimming
import IssueTiming.Proofs.Text.Words
import IssueTiming.Proofs.Text.Separation
import IssueTiming.Proofs.Assembly.Comments
import IssueTiming.Proofs.Assembly.Statements
import IssueTiming.Proofs.Assembly.OperandSyntax
import IssueTiming.Proofs.Assembly.AddressSyntax
import IssueTiming.Proofs.Assembly.OperandReading
import IssueTiming.Proofs.Assembly.LineReading
import IssueTiming.Proofs.Assembly.Grammar
import IssueTiming.Proofs.Assembly.Listings
import IssueTiming.Proofs.Assembly.Loops
import IssueTiming.Proofs.Assembly.LoopLines
import IssueTiming.Proofs.Assembly.Extraction
import IssueTiming.Proofs.Assembly.Rescheduling
import IssueTiming.Proofs.Timing.RuleTables
import IssueTiming.Proofs.Timing.UnitSets
import IssueTiming.Proofs.Core.Coverage
import IssueTiming.Proofs.Schedule.Admission
import IssueTiming.Proofs.Core.AccumulatorPairs
import IssueTiming.Proofs.Core.Schedulability
import IssueTiming.Proofs.Core.Forwarding
import IssueTiming.Proofs.Core.Renaming
import IssueTiming.Proofs.Core.StructuralRules
import IssueTiming.Proofs.Assembly.Ambiguity
import IssueTiming.Proofs.Core.IssueCycles
import IssueTiming.Proofs.Assembly.Replacement
import IssueTiming.Proofs.Assembly.ListingParts
import IssueTiming.Proofs.Assembly.Immediates
import IssueTiming.Proofs.Assembly.Mismatches
import IssueTiming.Proofs.Assembly.Diagnostics
import IssueTiming.Proofs.Timing.KeyGroups
import IssueTiming.Proofs.Assembly.Annotations
import IssueTiming.Proofs.Assembly.Spellings
import IssueTiming.Proofs.Assembly.Samples
import IssueTiming.Proofs.Timing.RuleOrder
import IssueTiming.Proofs.Timing.UnitMembership
import IssueTiming.Proofs.Schedule.Adjacency
import IssueTiming.Proofs.Settings.Resolution
import IssueTiming.Proofs.Schedule.PairPositions
