/-!
# Readiness interest

The set of conditions that an event loop watches for: bit zero stands for
readable, bit one for writable and bit two for an error.
-/

namespace InstrumentLink

structure Interest where
  bits : UInt8
  deriving DecidableEq, Repr

namespace Interest

def empty : Interest := ⟨0⟩
def readable : Interest := ⟨1⟩
def writable : Interest := ⟨2⟩
def error : Interest := ⟨4⟩

def union (left right : Interest) : Interest := ⟨left.bits ||| right.bits⟩

def isEmpty (interest : Interest) : Bool := interest.bits == 0

/-- Whether every condition of `other` is in the set. -/
def contains (interest other : Interest) : Bool := interest.bits &&& other.bits == other.bits

end Interest

end InstrumentLink
