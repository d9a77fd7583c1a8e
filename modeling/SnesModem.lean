import SnesModem.Rust.PeerCorrections
import SnesModem.Asm.NtpRefinement
import SnesModem.Rust.Ntp
import SnesModem.Asm.PacketEncoding
import SnesModem.Asm.DatagramRefinement
import SnesModem.Asm.Ipv4Refinement
import SnesModem.Rust.InternetPackets
import SnesModem.Rust.Icmp
import SnesModem.Rust.Udp
import SnesModem.Asm.ChapRefinement
import SnesModem.Asm.Md5Octets
import SnesModem.Rust.ChapDigest
import SnesModem.Rust.FramingErrors
import SnesModem.Rust.FramingEncoder
import SnesModem.Asm.SpeedTestConsole
import SnesModem.Asm.SpeedTestRuns
import SnesModem.Asm.SpeedTest
import SnesModem.Lib.Mismatches
import SnesModem.Rust.Prbs
import SnesModem.Asm.ClockPolls
import SnesModem.Asm.ClockFrames
import SnesModem.Asm.ClockCalendar
import SnesModem.Asm.Clock
import SnesModem.Lib.Words
import SnesModem.Lib.Units
import SnesModem.Lib.Gregorian
import SnesModem.Lib.Lockstep
import SnesModem.Lib.ReflectedCrc
import SnesModem.Rust.FramingSegments
import SnesModem.Rust.IpcpIgnored
import SnesModem.Rust.UpConfiguration
import SnesModem.Rust.IpcpAddresses
import SnesModem.Rust.LcpPair
import SnesModem.Asm.TransmitRefinement
import SnesModem.Asm.Udp
import SnesModem.Asm.CredentialBounds
import SnesModem.Asm.IpcpEvaluation
import SnesModem.Asm.IpcpNegative
import SnesModem.Asm.IpcpRefinement
import SnesModem.Asm.LcpEvaluation
import SnesModem.Asm.ChapResponse
import SnesModem.Asm.DecoderRefinement
import SnesModem.Asm.Icmp
import SnesModem.Asm.IcmpRequest
import SnesModem.Asm.Dns
import SnesModem.Asm.Ntp
import SnesModem.Asm.ClientRequests
import SnesModem.Rust.Dns
import SnesModem.Asm.DnsRefinement
import SnesModem.Asm.Mailbox
import SnesModem.Asm.AtTransactions
import SnesModem.Asm.MailboxOwnership
import SnesModem.Asm.ChapDisclosure
import SnesModem.Asm.ChapIdle
import SnesModem.Asm.ChapRechallenge
import SnesModem.Asm.FrameDelivery
import SnesModem.Asm.FrameOwnership
import SnesModem.Asm.AcceptedPackets
import SnesModem.Asm.FrameRetention
import SnesModem.Asm.LcpNegative
import SnesModem.Rust.IpcpPeer
import SnesModem.Asm.CarrierLoss
import SnesModem.Rust.RestartTimer
import SnesModem.Rust.MagicNumber
import SnesModem.Rust.LcpLoopback
import SnesModem.Asm.LcpProgress
import SnesModem.Asm.SecretFlow
import SnesModem.Asm.SecretSteps
import SnesModem.Asm.Exposure
import SnesModem.Asm.SecretErasure
import SnesModem.Asm.RingFifo
import SnesModem.Rust.IpcpLayer
import SnesModem.Rust.LocalOptions
import SnesModem.Lib.Slices
import SnesModem.Rust.LcpPanics
import SnesModem.Rust.LcpNeverFails
import SnesModem.Asm.StrayDatagrams
import SnesModem.Lib.OnesComplement
import SnesModem.Asm.Checksums
import SnesModem.Asm.Network
import SnesModem.Asm.FrameBounds
import SnesModem.Asm.EchoReply
import SnesModem.Asm.EchoReplies
import SnesModem.Asm.FrameLengths
import SnesModem.Asm.HandedFrames
import SnesModem.Asm.HandedPackets
import SnesModem.Asm.PeerMru
import SnesModem.Lib.Seqlock
import SnesModem.Asm.Diagnostics
import SnesModem.Asm.DiagnosticPolls
import SnesModem.Asm.SnapshotPairs
import SnesModem.Asm.Snapshots
import SnesModem.Asm.SequencedPolls
import SnesModem.Rust.LcpIgnored
import SnesModem.Rust.Pap
import SnesModem.Rust.PapRun
import SnesModem.Asm.PapRefinement
import SnesModem.Asm.SessionLines
import SnesModem.Asm.SessionResults
import SnesModem.Rust.SourceText
import SnesModem.Rust.AsmLint
import SnesModem.Lib.Worklist
import SnesModem.Lib.WorklistWays
import SnesModem.Rust.AsmLintSearch
import SnesModem.Rust.AsmLintParse
import SnesModem.Rust.AsmLintTermination
import SnesModem.Asm.WidthMachine
import SnesModem.Rust.AsmLintLabels
import SnesModem.Asm.WidthSoundness
import SnesModem.Lib.Blocks
import SnesModem.Lib.Md5
import SnesModem.Asm.Md5Digest
import SnesModem.Rust.AsmLintConditionals
import SnesModem.Rust.CodecInverses
import SnesModem.Rust.DnsQueries
import SnesModem.Rust.TruncatedReplies
import SnesModem.Asm.TraceRecovery
import SnesModem.Lib.ShiftRegister
import SnesModem.Lib.LatchedSerial
import SnesModem.Asm.PortReports
import SnesModem.Asm.DriverView
import SnesModem.Rust.DiagnosticSnapshot
import SnesModem.Asm.DriverRefinement
import SnesModem.Asm.PortWaveforms
import SnesModem.Asm.DriverCounters
import SnesModem.Asm.MailboxPosting
import SnesModem.Asm.Display
import SnesModem.Asm.DisplayRefinement
import SnesModem.Asm.FrameStream
import SnesModem.Asm.PeerDecoding
