import FeeTreasury.Approval
import FeeTreasury.Chain.Accounts
import FeeTreasury.Chain.Address
import FeeTreasury.Chain.Failure
import FeeTreasury.Chain.Token
import FeeTreasury.Claim
import FeeTreasury.Config
import FeeTreasury.Crypto.Edwards
import FeeTreasury.Crypto.Sha256
import FeeTreasury.Entitlement
import FeeTreasury.Event
import FeeTreasury.FeePeriod
import FeeTreasury.FixedPoint
import FeeTreasury.Header
import FeeTreasury.Instruction.Basic
import FeeTreasury.Instruction.Call
import FeeTreasury.Instruction.Roster
import FeeTreasury.Instruction.Wire
import FeeTreasury.Key
import FeeTreasury.Liquidation.Book
import FeeTreasury.Liquidation.Plan
import FeeTreasury.Liquidation.Rules
import FeeTreasury.Outcome
import FeeTreasury.OwnershipLog
import FeeTreasury.PeriodLedger
import FeeTreasury.Position
import FeeTreasury.Program.Administration
import FeeTreasury.Program.Claims
import FeeTreasury.Program.Custody
import FeeTreasury.Program.Liquidations
import FeeTreasury.Program.Periods
import FeeTreasury.Program.Process
import FeeTreasury.Program.Run
import FeeTreasury.Proofs.Answer
import FeeTreasury.Proofs.Claiming
import FeeTreasury.Proofs.Crediting
import FeeTreasury.Proofs.Crypto.Sha256
import FeeTreasury.Proofs.Faults
import FeeTreasury.Proofs.Ledger.Capacity
import FeeTreasury.Proofs.Ledger.Meter
import FeeTreasury.Proofs.Ledger.Migration
import FeeTreasury.Proofs.Ledger.Pace
import FeeTreasury.Proofs.Ledger.Pots
import FeeTreasury.Proofs.Ledger.Retained
import FeeTreasury.Proofs.Ledger.Sequence
import FeeTreasury.Proofs.Ledger.Timeline
import FeeTreasury.Proofs.Ledger.Window
import FeeTreasury.Proofs.Liquidation.Bounds
import FeeTreasury.Proofs.Liquidation.Counters
import FeeTreasury.Proofs.Liquidation.Plan
import FeeTreasury.Proofs.Liquidation.Reckoning
import FeeTreasury.Proofs.Liquidation.Restoration
import FeeTreasury.Proofs.Liquidation.Settlement
import FeeTreasury.Proofs.Ownership.Balance
import FeeTreasury.Proofs.Ownership.Exactness
import FeeTreasury.Proofs.Ownership.Integral
import FeeTreasury.Proofs.Ownership.Lookup
import FeeTreasury.Proofs.Ownership.Ratio
import FeeTreasury.Proofs.Program.Administration
import FeeTreasury.Proofs.Program.Backing
import FeeTreasury.Proofs.Program.Chain
import FeeTreasury.Proofs.Program.Clients
import FeeTreasury.Proofs.Program.Collateral
import FeeTreasury.Proofs.Program.Configuration
import FeeTreasury.Proofs.Program.Consent
import FeeTreasury.Proofs.Program.Counters
import FeeTreasury.Proofs.Program.Custody
import FeeTreasury.Proofs.Program.Delegation
import FeeTreasury.Proofs.Program.Entries
import FeeTreasury.Proofs.Program.Flagging
import FeeTreasury.Proofs.Program.Follows
import FeeTreasury.Proofs.Program.Loading
import FeeTreasury.Proofs.Program.Places
import FeeTreasury.Proofs.Program.Rates
import FeeTreasury.Proofs.Program.Records
import FeeTreasury.Proofs.Program.Rosters
import FeeTreasury.Proofs.Program.Serving
import FeeTreasury.Proofs.Program.Steps
import FeeTreasury.Proofs.Program.Suspension
import FeeTreasury.Proofs.Program.Touches
import FeeTreasury.Proofs.Program.Writes
import FeeTreasury.Proofs.RewardPool
import FeeTreasury.Proofs.Stateful
import FeeTreasury.Proofs.Treasury.Atomicity
import FeeTreasury.Proofs.Treasury.Capacity
import FeeTreasury.Proofs.Treasury.Claims
import FeeTreasury.Proofs.Treasury.Conservation
import FeeTreasury.Proofs.Treasury.Course
import FeeTreasury.Proofs.Treasury.Idle
import FeeTreasury.Proofs.Treasury.Interchange
import FeeTreasury.Proofs.Treasury.Likeness
import FeeTreasury.Proofs.Treasury.Migration
import FeeTreasury.Proofs.Treasury.Reply
import FeeTreasury.Proofs.Treasury.Rewards
import FeeTreasury.Proofs.Treasury.Run
import FeeTreasury.Proofs.Treasury.Sequence
import FeeTreasury.Proofs.Treasury.Splits
import FeeTreasury.Proofs.Treasury.Tallies
import FeeTreasury.Proofs.Wire.Canonical
import FeeTreasury.Proofs.Wire.Instruction
import FeeTreasury.Proofs.Wire.Length
import FeeTreasury.RateFeed
import FeeTreasury.Refusal
import FeeTreasury.RewardPool
import FeeTreasury.Section
import FeeTreasury.Settings
import FeeTreasury.ShareChange
import FeeTreasury.ShareRegistry
import FeeTreasury.Staker
import FeeTreasury.StatusBoard
import FeeTreasury.Text.Base58
import FeeTreasury.Text.Utf8
import FeeTreasury.Wire.Codec
import FeeTreasury.Wire.Record
import FeeTreasury.Wire.Stored
import FeeTreasury.Word
import FeeTreasury.Proofs.Liquidation.Leniency
