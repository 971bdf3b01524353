import DemandPaging.Access
import DemandPaging.Action
import DemandPaging.Action.Meets
import DemandPaging.Address
import DemandPaging.AddressSpace.Agreement
import DemandPaging.AddressSpace.Basic
import DemandPaging.AddressSpace.Consistency
import DemandPaging.AddressSpace.Fork
import DemandPaging.AddressSpace.Growth
import DemandPaging.AddressSpace.Memory
import DemandPaging.AddressSpace.Residency
import DemandPaging.AddressSpace.Unmapping
import DemandPaging.AddressSpace.WellFormed
import DemandPaging.Bytes
import DemandPaging.Config
import DemandPaging.Entry
import DemandPaging.Entry.Flags
import DemandPaging.Fatal
import DemandPaging.FramePool
import DemandPaging.FramePool.Consistent
import DemandPaging.FramePool.Lemmas
import DemandPaging.Host
import DemandPaging.Ledger
import DemandPaging.Ledger.Consistent
import DemandPaging.Ledger.Lemmas
import DemandPaging.Ledger.Records
import DemandPaging.Ledger.Tracked
import DemandPaging.Log.Console
import DemandPaging.Log.Event
import DemandPaging.Log.Level
import DemandPaging.Log.Line
import DemandPaging.PageFault
import DemandPaging.PageTable
import DemandPaging.PageTable.Leaves
import DemandPaging.PagingError
import DemandPaging.Pid
import DemandPaging.Proofs.AddressSpace.Adoption
import DemandPaging.Proofs.AddressSpace.Checking
import DemandPaging.Proofs.AddressSpace.Coherence
import DemandPaging.Proofs.AddressSpace.Eviction
import DemandPaging.Proofs.AddressSpace.Extent
import DemandPaging.Proofs.AddressSpace.Faults
import DemandPaging.Proofs.AddressSpace.Fork
import DemandPaging.Proofs.AddressSpace.ForkPages
import DemandPaging.Proofs.AddressSpace.Growth
import DemandPaging.Proofs.AddressSpace.InOrder
import DemandPaging.Proofs.AddressSpace.Neighbours
import DemandPaging.Proofs.AddressSpace.PageSets
import DemandPaging.Proofs.AddressSpace.Parts
import DemandPaging.Proofs.AddressSpace.Ready
import DemandPaging.Proofs.AddressSpace.RequestSteps
import DemandPaging.Proofs.AddressSpace.Requests
import DemandPaging.Proofs.AddressSpace.Residency
import DemandPaging.Proofs.AddressSpace.Runs
import DemandPaging.Proofs.AddressSpace.Tidy
import DemandPaging.Proofs.AddressSpace.TransferErrors
import DemandPaging.Proofs.AddressSpace.Unmapping
import DemandPaging.Proofs.AddressSpace.UserCopy
import DemandPaging.Proofs.Effects.Chances
import DemandPaging.Proofs.Effects.Departures
import DemandPaging.Proofs.Effects.Evicted
import DemandPaging.Proofs.Effects.Eviction
import DemandPaging.Proofs.Effects.Exchanges
import DemandPaging.Proofs.Effects.PageIn
import DemandPaging.Proofs.Effects.PagedIn
import DemandPaging.Proofs.Effects.Paging
import DemandPaging.Proofs.Effects.Returns
import DemandPaging.Proofs.Effects.RoundTrip
import DemandPaging.Proofs.Effects.Settling
import DemandPaging.Proofs.Effects.Shortfalls
import DemandPaging.Proofs.Effects.Steps
import DemandPaging.Proofs.Entry.Registers
import DemandPaging.Proofs.FlatMemory
import DemandPaging.Proofs.FramePool.Counts
import DemandPaging.Proofs.FramePool.History
import DemandPaging.Proofs.FramePool.Lending
import DemandPaging.Proofs.FramePool.Operations
import DemandPaging.Proofs.Growth.Capacity
import DemandPaging.Proofs.Growth.Filling
import DemandPaging.Proofs.Growth.Joining
import DemandPaging.Proofs.Growth.Leaving
import DemandPaging.Proofs.Growth.Means
import DemandPaging.Proofs.Growth.Pending
import DemandPaging.Proofs.Growth.Receding
import DemandPaging.Proofs.Growth.Rollback
import DemandPaging.Proofs.Growth.Runs
import DemandPaging.Proofs.Ledger.Accuracy
import DemandPaging.Proofs.Ledger.Counts
import DemandPaging.Proofs.Ledger.Operations
import DemandPaging.Proofs.Ledger.Queue
import DemandPaging.Proofs.Ledger.Recency
import DemandPaging.Proofs.Ledger.Records
import DemandPaging.Proofs.Ledger.Residences
import DemandPaging.Proofs.Ledger.Shadows
import DemandPaging.Proofs.Ledger.Swapped
import DemandPaging.Proofs.Ledger.Turns
import DemandPaging.Proofs.Log.Cuts
import DemandPaging.Proofs.Mapping.Addition
import DemandPaging.Proofs.Mapping.Admission
import DemandPaging.Proofs.Mapping.Correspondence
import DemandPaging.Proofs.Mapping.Enrolment
import DemandPaging.Proofs.Mapping.Houses
import DemandPaging.Proofs.Mapping.Removal
import DemandPaging.Proofs.Mapping.Tracking
import DemandPaging.Proofs.Mapping.Unwinding
import DemandPaging.Proofs.Mapping.Views
import DemandPaging.Proofs.PageFault
import DemandPaging.Proofs.PageTable.Entries
import DemandPaging.Proofs.PageTable.History
import DemandPaging.Proofs.PageTable.Runs
import DemandPaging.Proofs.PageTable.Tables
import DemandPaging.Proofs.Pager.Adoption
import DemandPaging.Proofs.Pager.Copies
import DemandPaging.Proofs.Pager.Eviction
import DemandPaging.Proofs.Pager.Frames
import DemandPaging.Proofs.Pager.Growth
import DemandPaging.Proofs.Pager.Keeping
import DemandPaging.Proofs.Pager.Mapping
import DemandPaging.Proofs.Pager.Moves
import DemandPaging.Proofs.Pager.Occupancy
import DemandPaging.Proofs.Pager.Refreshing
import DemandPaging.Proofs.Pager.Sound
import DemandPaging.Proofs.Positions
import DemandPaging.Proofs.Relations
import DemandPaging.Proofs.Replacement.Aging
import DemandPaging.Proofs.Replacement.Books
import DemandPaging.Proofs.Replacement.Choice
import DemandPaging.Proofs.Replacement.Clocks
import DemandPaging.Proofs.Replacement.Completion
import DemandPaging.Proofs.Replacement.Copies
import DemandPaging.Proofs.Replacement.Follows
import DemandPaging.Proofs.Replacement.Forks
import DemandPaging.Proofs.Replacement.Growth
import DemandPaging.Proofs.Replacement.History
import DemandPaging.Proofs.Replacement.Lineup
import DemandPaging.Proofs.Replacement.Queues
import DemandPaging.Proofs.Replacement.References
import DemandPaging.Proofs.Replacement.Referrals
import DemandPaging.Proofs.Replacement.Remembered
import DemandPaging.Proofs.Replacement.Requests
import DemandPaging.Proofs.Replacement.Residency
import DemandPaging.Proofs.Replacement.SecondChance
import DemandPaging.Proofs.Replacement.Stretches
import DemandPaging.Proofs.Replacement.Sweep
import DemandPaging.Proofs.Swap.Contents
import DemandPaging.Proofs.Swap.History
import DemandPaging.Proofs.Swap.Operations
import DemandPaging.Proofs.Tallies
import DemandPaging.Proofs.Traffic.Balance
import DemandPaging.Proofs.Traffic.Forks
import DemandPaging.Proofs.Traffic.Growth
import DemandPaging.Proofs.Traffic.Journal
import DemandPaging.Proofs.Traffic.Resting
import DemandPaging.Proofs.Traffic.Swapping
import DemandPaging.Proofs.Unmapping.Intact
import DemandPaging.Proofs.Unmapping.Pages
import DemandPaging.Proofs.Unmapping.Runs
import DemandPaging.Proofs.UserCopy.Copies
import DemandPaging.Proofs.UserCopy.Exactness
import DemandPaging.Proofs.UserCopy.Exchange
import DemandPaging.Proofs.UserCopy.Fetches
import DemandPaging.Proofs.UserCopy.Formed
import DemandPaging.Proofs.UserCopy.PageIn
import DemandPaging.Proofs.UserCopy.Pages
import DemandPaging.Proofs.UserCopy.Progress
import DemandPaging.Proofs.UserProcess.Bounds
import DemandPaging.Proofs.UserProcess.Calls
import DemandPaging.Proofs.UserProcess.Forks
import DemandPaging.Proofs.Withdrawal.Guarding
import DemandPaging.Proofs.Withdrawal.Opening
import DemandPaging.Proofs.Withdrawal.Refusals
import DemandPaging.Proofs.Withdrawal.Tasks
import DemandPaging.Proofs.Withdrawal.Withdrawn
import DemandPaging.Proofs.World.ForkSlots
import DemandPaging.Proofs.World.Isolation
import DemandPaging.Proofs.World.Members
import DemandPaging.Proofs.World.Ownership
import DemandPaging.Proofs.World.Processes
import DemandPaging.Proofs.World.Ranges
import DemandPaging.Proofs.World.TransferErrors
import DemandPaging.Replacement
import DemandPaging.Replacement.Policy
import DemandPaging.Span
import DemandPaging.Swap.Consistent
import DemandPaging.Swap.File
import DemandPaging.Swap.Lemmas
import DemandPaging.Swap.Space
import DemandPaging.Swap.Transfers
import DemandPaging.System
import DemandPaging.Text.Hex
import DemandPaging.UserCopy
import DemandPaging.UserProcess
import DemandPaging.Word
import DemandPaging.World
