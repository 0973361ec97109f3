import LilacUxB.Clocked
import LilacUxB.Slots
import LilacUxB.Transitions
import LilacUxB.Ledger
import LilacUxB.Ring
import LilacUxB.Blocks
import LilacUxB.Words
import LilacUxB.Modulator.Sender
import LilacUxB.Modulator.Converter
import LilacUxB.Modulator.Repeater
import LilacUxB.Modulator.Chain
import LilacUxB.Modulator.QpskTx
import LilacUxB.Modulator.QpskMod
import LilacUxB.Modulator.Stability
import LilacUxB.Modulator.BackPressure
import LilacUxB.Modulator.SlotAlignment
import LilacUxB.Modulator.SymbolRate
import LilacUxB.DmaProxy.Channel
import LilacUxB.DmaProxy.Bounds
import LilacUxB.DmaProxy.Completion
import LilacUxB.DmaProxy.Probe
import LilacUxB.DmaProxy.AllOrNothing
import LilacUxB.DmaProxy.ClassLifetime
import LilacUxB.ProxyTest.Threads
import LilacUxB.ProxyTest.SizeClamp
import LilacUxB.ProxyTest.Discipline
import LilacUxB.ProxyTest.GracefulStop
import LilacUxB.ProxyTest.Pattern
import LilacUxB.ProxyTest.Agreement
import LilacUxB.Fsbl.Qspi
import LilacUxB.Fsbl.Qspi32
import LilacUxB.Fsbl.Qspi24
import LilacUxB.Fsbl.BankSwitching
import LilacUxB.Fsbl.BankedCopy
import LilacUxB.Fsbl.HeaderChecks
import LilacUxB.FirstCome
import LilacUxB.Fsbl.PartitionCopy
import LilacUxB.Fsbl.LoadRange
import LilacUxB.Fsbl.PartitionLoad
import LilacUxB.Fsbl.HandoffTable
import LilacUxB.Bytes
import LilacUxB.Fsbl.ImageHeader
import LilacUxB.Fsbl.BootHeader
import LilacUxB.Fsbl.HeaderSources
import LilacUxB.Fsbl.PlBlock
import LilacUxB.Fsbl.ChunkCut
import LilacUxB.Fsbl.ReAuthentication
import LilacUxB.Fsbl.PartitionLengths
import LilacUxB.Fsbl.AtfTable
import LilacUxB.Fsbl.BlockWalk
import LilacUxB.Fsbl.BlockCover
import LilacUxB.Fsbl.BlockAccepted
import LilacUxB.Fsbl.BlockRun
import LilacUxB.Frames
import LilacUxB.Fsbl.Decrypt
import LilacUxB.Fsbl.SecureBitstream
import LilacUxB.Fsbl.DecryptSteps
import LilacUxB.Fsbl.DecryptLoop
import LilacUxB.Fsbl.ReceivedKept
import LilacUxB.Fsbl.SplitHeaders
import LilacUxB.Fsbl.DecryptChunks
import LilacUxB.Fsbl.CpuSettings
import LilacUxB.Fsbl.Handoff
import LilacUxB.Fsbl.Boot
import LilacUxB.Fsbl.FirstPartitions
import LilacUxB.Fsbl.Authentication
import LilacUxB.Fsbl.Fallback
import LilacUxB.Fsbl.SdFileName
import LilacUxB.Fsbl.TrustChain
import LilacUxB.Fsbl.AddressMapCells
import LilacUxB.Fsbl.Dfu
import LilacUxB.Fsbl.DfuDownload
import LilacUxB.Fsbl.EarlyHandoff
import LilacUxB.Fsbl.HostDownload
import LilacUxB.Fsbl.RankCells
import LilacUxB.Fsbl.EarlyExit
