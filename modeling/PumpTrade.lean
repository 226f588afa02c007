import PumpTrade.Base.Word
import PumpTrade.Base.Interleave
import PumpTrade.Base.ConstantProduct
import PumpTrade.Calc.PumpSwapRun
import PumpTrade.Curve.Run
import PumpTrade.Curve.Split
import PumpTrade.Curve.Sell
import PumpTrade.Curve.Safe
import PumpTrade.Fee.ReadOut
import PumpTrade.Fee.Concurrent
import PumpTrade.Fee.Batch
import PumpTrade.Fee.Update
import PumpTrade.Exec.Nonce
import PumpTrade.Exec.Verdict
import PumpTrade.Exec.Agree
import PumpTrade.Exec.Dropped
import PumpTrade.Exec.AllFailed
import PumpTrade.Exec.Landed
import PumpTrade.Exec.Simulate
import PumpTrade.Exec.Confirmed
import PumpTrade.Exec.Builders
import PumpTrade.Swqos.KeepAlive
import PumpTrade.Swqos.Stellium
import PumpTrade.Swqos.PollSound
import PumpTrade.Swqos.SendAll
import PumpTrade.Swqos.Serialization
import PumpTrade.Swqos.Quic
import PumpTrade.Calc.PumpFun
import PumpTrade.Calc.Optimal
import PumpTrade.Calc.Slippage
import PumpTrade.Calc.Quotable
import PumpTrade.Calc.BuyOutput
import PumpTrade.Calc.SellOutput
import PumpTrade.Base.Shared
import PumpTrade.Base.Total
import PumpTrade.Base.Rely
import PumpTrade.Base.Retry
import PumpTrade.Base.Codec
import PumpTrade.Base.Memory
import PumpTrade.Base.Chunked
import PumpTrade.Base.Lanes
import PumpTrade.Base.Ring
import PumpTrade.Base.Bitmap
import PumpTrade.Base.Ownership
import PumpTrade.Base.Arena
import PumpTrade.Account.Transparent
import PumpTrade.Account.Rent
import PumpTrade.Account.Reached
import PumpTrade.Account.Wsol
import PumpTrade.Account.Seed
import PumpTrade.Chain.Pool
import PumpTrade.Instr.OpenAccounts
import PumpTrade.Instr.Lamports
import PumpTrade.Instr.Params
import PumpTrade.Instr.Decode
import PumpTrade.Instr.Coin
import PumpTrade.Instr.PumpFun
import PumpTrade.Instr.PumpSwap
import PumpTrade.Instr.Spend
import PumpTrade.Instr.Quote
import PumpTrade.Instr.Accounts
import PumpTrade.Instr.NoPanic
import PumpTrade.Instr.PoolParams
import PumpTrade.Instr.PoolSearch
import PumpTrade.Instr.Readers
import PumpTrade.Instr.TokenProgram
import PumpTrade.Instr.Signers
import PumpTrade.Account.Startup
import PumpTrade.Client.Trade
import PumpTrade.Client.Named
import PumpTrade.Client.Balance
import PumpTrade.Client.Percent
import PumpTrade.Client.Middleware
import PumpTrade.Client.Session
import PumpTrade.Client.Signed
import PumpTrade.Client.Wallet
import PumpTrade.Client.Unwrap
import PumpTrade.Client.Payments
import PumpTrade.Client.EnsureWsol
import PumpTrade.Perf.Memcpy
import PumpTrade.Perf.Memcmp
import PumpTrade.Perf.Simd
import PumpTrade.Perf.WordBatch
import PumpTrade.Perf.MappedQueue
import PumpTrade.Perf.RingRun
import PumpTrade.Perf.SharedPoolRun
import PumpTrade.Perf.BlockBytes
import PumpTrade.Perf.Userspace
import PumpTrade.Perf.Manager
import PumpTrade.Perf.SyscallBatchRun
