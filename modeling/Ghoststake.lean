import Ghoststake.Auth.Login
import Ghoststake.Library.Rounding
import Ghoststake.Library.Checked
import Ghoststake.Library.Machine
import Ghoststake.Library.PointSums
import Ghoststake.Library.ProRata
import Ghoststake.Library.ScaledIndex
import Ghoststake.Library.IndexedBook
import Ghoststake.Library.SharePrice
import Ghoststake.Library.BondedClaim
import Ghoststake.Library.Timeline
import Ghoststake.Chain.Revert
import Ghoststake.Chain.Uint
import Ghoststake.Chain.Erc20
import Ghoststake.Chain.Access
import Ghoststake.Pool.Model
import Ghoststake.Pool.Steps
import Ghoststake.Pool.Conservation
import Ghoststake.Pool.WriteDown
import Ghoststake.Pool.Solvency
import Ghoststake.Pool.Totals
import Ghoststake.Pool.Reserves
import Ghoststake.Pool.LossAllocation
import Ghoststake.Pool.FullExit
import Ghoststake.Pool.Instant
import Ghoststake.Vault.Model
import Ghoststake.Vault.Steps
import Ghoststake.Vault.Projection
import Ghoststake.Vault.Effects
import Ghoststake.Vault.Shares
import Ghoststake.Vault.Lien
import Ghoststake.Vault.Ledger
import Ghoststake.Vault.Cadence
import Ghoststake.Vault.Transfers
import Ghoststake.Vault.Closable
import Ghoststake.Market.Model
import Ghoststake.Market.Escrow
import Ghoststake.Market.Rounds
import Ghoststake.Market.Solvency
import Ghoststake.Market.Payouts
import Ghoststake.Market.Steps
import Ghoststake.Market.Covered
import Ghoststake.Market.Traces
import Ghoststake.Market.Lifecycle
import Ghoststake.Market.Refunds
import Ghoststake.Keeper.Rules
import Ghoststake.Keeper.Agreement
import Ghoststake.Oracle.Event
import Ghoststake.Oracle.Bonds
import Ghoststake.Oracle.Finality
import Ghoststake.Oracle.EventMarket
import Ghoststake.Oracle.EventRounds
import Ghoststake.Oracle.DemoFeed
import Ghoststake.Oracle.Chainlink
import Ghoststake.Oracle.Adapter
import Ghoststake.Oracle.Pinned
import Ghoststake.Mirror.Model
import Ghoststake.Mirror.Fidelity
import Ghoststake.Vault.Origination
import Ghoststake.Vault.Liquidation
import Ghoststake.Vault.WriteOff
import Ghoststake.Vault.Spending
import Ghoststake.Router.Model
import Ghoststake.Router.Steps
import Ghoststake.Router.Positions
import Ghoststake.Router.Settlement
import Ghoststake.Router.Payouts
import Ghoststake.Stock.Model
import Ghoststake.Stock.Steps
import Ghoststake.Stock.WriteOff
import Ghoststake.Stock.Custody
import Ghoststake.Library.Conversion
import Ghoststake.Stock.Portfolio
import Ghoststake.Stock.Limits
import Ghoststake.Stock.Liquidation
import Ghoststake.Library.Faulty
import Ghoststake.Library.KeyedTable
import Ghoststake.Index.Deployment
import Ghoststake.Index.Streams
import Ghoststake.Index.Store
import Ghoststake.Index.Model
import Ghoststake.Index.Steps
import Ghoststake.Index.Endpoint
import Ghoststake.Index.Rows
import Ghoststake.Index.Runs
import Ghoststake.Index.ExactlyOnce
import Ghoststake.Index.Served
import Ghoststake.Index.Sharing
import Ghoststake.Live.Wakeups
import Ghoststake.Library.Paging
import Ghoststake.Ledger.Activity
import Ghoststake.Screen.Amount
import Ghoststake.Keeper.Strike
import Ghoststake.Screen.Rounds
import Ghoststake.Screen.StockLoan
import Ghoststake.Keeper.Cursor
import Ghoststake.Ledger.Listings
import Ghoststake.Finance.AtRisk
import Ghoststake.Finance.Mirror
import Ghoststake.Ledger.Books
import Ghoststake.Ledger.Exposure
import Ghoststake.Market.Replay
import Ghoststake.Ledger.Unordered
import Ghoststake.Finance.Rounds
import Ghoststake.Ledger.Filing
import Ghoststake.Ledger.Decoding
import Ghoststake.Ledger.Chronicle
import Ghoststake.Ledger.Holdings
import Ghoststake.Ledger.Questions
import Ghoststake.Registry.Runs
import Ghoststake.Keeper.Retirement
import Ghoststake.Router.Pauses
import Ghoststake.Stock.Pauses
