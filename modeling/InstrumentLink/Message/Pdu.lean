import InstrumentLink.Operation

/-!
# Message bodies

The part of a frame between the address and the checksum is at most
`maxPduSize` bytes long.  It is built in place, in room of that size, by
operations that append: each checks for itself whether its bytes still fit,
stores them behind the bytes in use, and then moves the end of these.
-/

namespace InstrumentLink

/-- A message body under construction. -/
structure Pdu where
  /-- The room, with whatever was stored in it. -/
  data : Vector UInt8 maxPduSize
  /-- How many bytes from the front are in use. -/
  length : Nat
  deriving DecidableEq, Repr

namespace Pdu

def empty : Pdu := { data := Vector.replicate maxPduSize 0, length := 0 }

def bytes (pdu : Pdu) : List UInt8 := pdu.data.toList.take pdu.length

/-- Stores bytes in the room from a position on. -/
def store (pdu : Pdu) (position : Nat) : List UInt8 → Pdu
  | [] => pdu
  | byte :: rest =>
      store { pdu with data := pdu.data.setIfInBounds position byte } (position + 1) rest

def push (byte : UInt8) : LinkM Pdu Unit := do
  if maxPduSize ≤ (← get).length then throw (.argument .pduFull)
  modify fun pdu => pdu.store pdu.length [byte]
  modify fun pdu => { pdu with length := pdu.length + 1 }

def extend (added : List UInt8) : LinkM Pdu Unit := do
  let held := (← get).length
  if maxPduSize < held + added.length then
    throw (.argument (.pduOverflow held added.length))
  modify fun pdu => pdu.store pdu.length added
  modify fun pdu => { pdu with length := pdu.length + added.length }

/-- Both bytes of a word, the more significant one first. -/
def wordBytes (word : UInt16) : List UInt8 := [(word >>> 8).toUInt8, word.toUInt8]

/-- The word that two bytes hold, the more significant one first. -/
def wordOf (high low : UInt8) : UInt16 := (high.toUInt16 <<< 8) ||| low.toUInt16

def pushWord (word : UInt16) : LinkM Pdu Unit := extend (wordBytes word)

/-- A new body that something was done to; nothing is left of it if that fails. -/
def build (construction : LinkM Pdu Unit) : Except LinkError Pdu :=
  let (result, pdu) := construction.outcome empty
  result.map fun _ => pdu

def ofBytes (bytes : List UInt8) : Except LinkError Pdu := build (extend bytes)

/-- The first byte, which names the function. -/
def function? (pdu : Pdu) : Option UInt8 := pdu.bytes.head?

def isException (pdu : Pdu) : Bool := pdu.function?.any isExceptionByte

inductive Edit where
  | clear
  | replace (bytes : List UInt8)
  | push (byte : UInt8)
  | pushWord (word : UInt16)
  | extend (bytes : List UInt8)
  deriving DecidableEq, Repr

/-- Makes a change.  Another body takes the place of this one only once it was built. -/
def edit : Edit → LinkM Pdu Unit
  | .clear => set empty
  | .replace bytes => do set (← LinkM.ofExcept (ofBytes bytes))
  | .push byte => push byte
  | .pushWord word => pushWord word
  | .extend bytes => extend bytes

/-- Makes changes in order, whatever comes of them; each one is answered with its result and
the body that it leaves. -/
def editAll (pdu : Pdu) : List Edit → List (Except LinkError Unit × Pdu)
  | [] => []
  | change :: rest =>
      let (result, left) := (edit change).outcome pdu
      (result, left) :: editAll left rest

end Pdu

end InstrumentLink
