import InstrumentLink.About
import InstrumentLink.Bench.Direct
import InstrumentLink.Bench.Probe
import InstrumentLink.Bench.Query
import InstrumentLink.Bench.Session
import InstrumentLink.Proofs.Reading
import InstrumentLink.Proofs.StreamedReception
import InstrumentLink.Proofs.ScriptedStream
import InstrumentLink.Proofs.MismatchedReply
import InstrumentLink.Proofs.Conversation
import InstrumentLink.Proofs.WatchedLink
import InstrumentLink.Proofs.StaleReplies
import InstrumentLink.Proofs.IsolatedTransactions
import InstrumentLink.Proofs.ReactorEntries
import InstrumentLink.Proofs.RegistrationSlot
import InstrumentLink.Proofs.EventLoop
import InstrumentLink.Proofs.RefusedRemovals
import InstrumentLink.Proofs.ReplyLengths
import InstrumentLink.Proofs.WritingRules
import InstrumentLink.Proofs.PostedWrites
import InstrumentLink.Proofs.Handover
import InstrumentLink.Proofs.ShortWrites
import InstrumentLink.Proofs.SentFrames
import InstrumentLink.Proofs.CallRecord
import InstrumentLink.Proofs.CallDiscipline
import InstrumentLink.Proofs.TransportUse
import InstrumentLink.Proofs.TransportDiscipline
import InstrumentLink.Proofs.ChecksumRegister
import InstrumentLink.Proofs.FrameDamage
import InstrumentLink.Proofs.RequestWire
import InstrumentLink.Proofs.ReplyDecoding
import InstrumentLink.Proofs.TransactionErrors
import InstrumentLink.Proofs.FrameInverse
import InstrumentLink.Proofs.SessionCalls
import InstrumentLink.Proofs.ScanVisits
import InstrumentLink.Proofs.Listening
import InstrumentLink.Proofs.TimedReception
import InstrumentLink.Proofs.SteadyReplies
import InstrumentLink.Proofs.SlashFields
import InstrumentLink.Proofs.LineSpelling
import InstrumentLink.Proofs.LineGrammar
import InstrumentLink.Proofs.LineRoundTrip
import InstrumentLink.Proofs.ConnectionText
import InstrumentLink.Proofs.LineAgreement
import InstrumentLink.Proofs.EstimateSteps
import InstrumentLink.Proofs.ScriptedLedger
import InstrumentLink.Proofs.StreamPolls
import InstrumentLink.Proofs.LinkPresence
import InstrumentLink.Proofs.BackendPresence
import InstrumentLink.Proofs.BodyEdits
import InstrumentLink.Proofs.MergedQueries
import InstrumentLink.Proofs.PacketText
import InstrumentLink.Proofs.Transcript
