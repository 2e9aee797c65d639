import AsioBenchmark.Transition.System
import AsioBenchmark.Transition.Total
import AsioBenchmark.Shutdown.Program
import AsioBenchmark.Shutdown.Accounting
import AsioBenchmark.Bytes.NetOrder
import AsioBenchmark.Bytes.Memory
import AsioBenchmark.Stream.Connection
import AsioBenchmark.Stream.Duplex
import AsioBenchmark.Framed.Session
import AsioBenchmark.Framed.RangeSafety
import AsioBenchmark.Stream.Window
import AsioBenchmark.Stream.Cycle
import AsioBenchmark.Framed.Rounds
import AsioBenchmark.Framed.Transfer
import AsioBenchmark.Framed.Exchange
import AsioBenchmark.Framed.Lockstep
import AsioBenchmark.Framed.Outcome
import AsioBenchmark.Pooled.Conservation
import AsioBenchmark.Pooled.Echo
import AsioBenchmark.Pooled.Circulation
import AsioBenchmark.Pooled.Progress
import AsioBenchmark.Pooled.Reading
import AsioBenchmark.Pool.Ring
import AsioBenchmark.Pool.RingOutcome
import AsioBenchmark.Pool.Chains
import AsioBenchmark.Pool.ChainsOutcome
import AsioBenchmark.Pool.ChainsStop
import AsioBenchmark.Block.Session
import AsioBenchmark.Block.Echo
import AsioBenchmark.Block.Integrity
import AsioBenchmark.Block.Progress
import AsioBenchmark.SocketPair.Tokens
import AsioBenchmark.SocketPair.Circulation
import AsioBenchmark.SocketPair.Termination
import AsioBenchmark.Posting.Direct
import AsioBenchmark.Posting.Batch
import AsioBenchmark.Posting.Tokens
import AsioBenchmark.Posting.Delivery
import AsioBenchmark.Posting.WakeUp
import AsioBenchmark.Shutdown.Orderly
import AsioBenchmark.Shutdown.Turns
import AsioBenchmark.Shutdown.Completion
import AsioBenchmark.Shutdown.Client1
import AsioBenchmark.Shutdown.Client2
import AsioBenchmark.Shutdown.Outcome
import AsioBenchmark.Shutdown.Disorder
import AsioBenchmark.Pooled.Drain
import AsioBenchmark.Report.Stats
import AsioBenchmark.Shutdown.Errors
import AsioBenchmark.Pool.RoundRobin
import AsioBenchmark.Shutdown.ErrorOutcome
import AsioBenchmark.Accept.Loop
import AsioBenchmark.Report.Average
import AsioBenchmark.SocketPair.Parameters
import AsioBenchmark.Framed.Program
import AsioBenchmark.Framed.Reply
import AsioBenchmark.Shutdown.Tallies
import AsioBenchmark.Shutdown.BlockTotals
import AsioBenchmark.Shutdown.PooledTotals
import AsioBenchmark.Pooled.Repetition
import AsioBenchmark.Pooled.Shutdown
import AsioBenchmark.Block.Shutdown
import AsioBenchmark.SocketPair.Balance
import AsioBenchmark.Pool.ChainsOrder
import AsioBenchmark.CommandLine.Main
import AsioBenchmark.Framed.Requests
