import Hydration.Frame.Arith
import Hydration.Frame.Storage
import Hydration.Frame.Dispatch
import Hydration.Omnipool.Types
import Hydration.Omnipool.SlipFee
import Hydration.Omnipool.Math
import Hydration.Omnipool.Pallet
import Hydration.Omnipool.Effects
import Hydration.Omnipool.HubConservation
import Hydration.Omnipool.ShareConservation
import Hydration.Omnipool.LiquidityRounding
import Hydration.Omnipool.TradeRounding
import Hydration.Stableswap.Math
import Hydration.Stableswap.ShareValue
import Hydration.Stableswap.Invariant
import Hydration.LiquidityMining.Math
import Hydration.LiquidityMining.Pallet
import Hydration.LiquidityMining.Stake
import Hydration.LiquidityMining.Books
import Hydration.LiquidityMining.Rewards
import Hydration.Staking.Math
import Hydration.Staking.Pallet
import Hydration.Staking.Solvency
import Hydration.Frame.Issuance
import Hydration.GigaHdx.Pallet
import Hydration.GigaHdx.Bookkeeping
import Hydration.GigaHdx.Backing
import Hydration.EmaOracle.Math
import Hydration.EmaOracle.Pallet
import Hydration.EmaOracle.Hull
import Hydration.Dca.Pallet
import Hydration.Dca.Steps
import Hydration.Dca.Reserves
import Hydration.Dca.Scheduling
import Hydration.Otc.Pallet
import Hydration.Otc.Settlements
import Hydration.Otc.Reserves
import Hydration.CircuitBreaker.WithdrawLimit
import Hydration.Math.Rational
import Hydration.Stableswap.Pegs
import Hydration.Otc.Price
import Hydration.EvmAccounts.Pallet
import Hydration.EvmAccounts.Binding
import Hydration.Hsm.Pallet
import Hydration.Hsm.Rounding
import Hydration.Xyk.Math
import Hydration.Xyk.Pallet
import Hydration.Xyk.LpValue
import Hydration.LiquidityMining.Loyalty
import Hydration.CircuitBreaker.BlockLimits
