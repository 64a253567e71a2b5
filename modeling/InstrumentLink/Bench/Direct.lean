import InstrumentLink.Bench.Answer
import InstrumentLink.Bench.Script

/-!
# Bare transports

Operations of a transport called directly, without a handle in front of it and
thus without its rules.
-/

namespace InstrumentLink

inductive DirectCall where
  | openLink (mode : OpenMode)
  | closeLink
  | write (bytes : List UInt8) (mode : IoMode)
  | read (room : Nat) (mode : IoMode)
  | setLineParams (source : ParamsSource)
  | setHandshakeLines (rts dtr : Option Bool)
  | charFormat
  | queuedInput
  | flush
  | drain
  | eventSource
  deriving DecidableEq, Repr

namespace DirectCall

variable {σ : Type}

/-- Calls the operation; the answer comes with what is to be logged. -/
def run (transport : Transport σ) : DirectCall → LinkM σ (Answer × List LogLine)
  | openLink mode => return (.done, ← transport.openLink mode)
  | closeLink => do
      transport.closeLink
      return (.done, [])
  | write bytes mode => return (.count (← transport.write bytes mode), [])
  | read room mode => return (.count (← transport.read room mode).length, [])
  | setLineParams source => do
      transport.setLineParams (← LinkM.ofExcept source.resolve)
      return (.done, [])
  | setHandshakeLines rts dtr => do
      transport.setHandshakeLines rts dtr
      return (.done, [])
  | charFormat => return (.format (← transport.charFormat), [])
  | queuedInput => return (.count (← transport.queuedInput), [])
  | flush => do
      transport.flush
      return (.done, [])
  | drain => do
      transport.drain
      return (.done, [])
  | eventSource => return (.count (← transport.eventSource), [])

def runAll (transport : Transport σ) :
    List DirectCall → σ → List (Except LinkError Answer) × List LogLine
  | [], _ => ([], [])
  | call :: rest, world =>
      match (run transport call).outcome world with
      | (.ok (answer, lines), world) =>
          let (answers, later) := runAll transport rest world
          (.ok answer :: answers, lines ++ later)
      | (.error error, world) =>
          let (answers, later) := runAll transport rest world
          (.error error :: answers, later)

end DirectCall

end InstrumentLink
