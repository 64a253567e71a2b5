import InstrumentLink.Error
import InstrumentLink.Line.Timing

/-!
# Line parameters

What a caller asks of a serial line: bit rate, character shape, flow control
and the levels of the two handshake lines.  Any combination can be written
down; `LineParams.validate` says which of them a line can carry.
-/

namespace InstrumentLink

inductive Parity where
  | none
  | odd
  | even
  deriving DecidableEq, Repr

inductive FlowControl where
  | none
  /-- By handshake lines. -/
  | hardware
  /-- By control characters. -/
  | software
  deriving DecidableEq, Repr

structure LineParams where
  baud : UInt32 := 9600
  dataBits : UInt8 := 8
  parity : Parity := .none
  stopBits : UInt8 := 1
  flow : FlowControl := .none
  /-- Level of the request-to-send line; `none` leaves it alone. -/
  rts : Option Bool := Option.none
  /-- Level of the terminal-ready line; `none` leaves it alone. -/
  dtr : Option Bool := Option.none
  deriving DecidableEq, Repr

namespace LineParams

/-- Refuses what no serial line can carry. -/
def validate (params : LineParams) : Except LinkError Unit :=
  if params.baud = 0 then .error (.argument .zeroBaud)
  else if params.dataBits < 5 ∨ 8 < params.dataBits then
    .error (.argument (.dataBitsRange params.dataBits))
  else if params.stopBits < 1 ∨ 2 < params.stopBits then
    .error (.argument (.stopBitsRange params.stopBits))
  else .ok ()

theorem validate_eq_ok_iff {params : LineParams} :
    params.validate = .ok () ↔
      params.baud ≠ 0 ∧ (5 ≤ params.dataBits ∧ params.dataBits ≤ 8) ∧
        1 ≤ params.stopBits ∧ params.stopBits ≤ 2 := by
  grind [validate]

def charFormat (params : LineParams) : CharFormat :=
  .ofShape params.baud params.dataBits (params.parity != .none) params.stopBits

end LineParams

end InstrumentLink
