import InstrumentLink.Transport.Basic

/-!
# Byte streams

A stream is polled: a poll moves some bytes or none, meets a failure, or finds the
stream not ready before the deadline of its call.  What the polls of one direction
meet is written as a list, each thing with the time from which it is there; behind
its last element the stream is never ready.  A call polls until its buffer is done or
nothing more can come in time, and reports how many bytes moved; it fails only if
none did.  Reading and writing differ in what a poll does with a thing it meets.
-/

namespace InstrumentLink

/-- When a call that starts at `now` stops waiting. -/
def IoMode.deadline (now : Nat) : IoMode → Nat
  | nonBlocking => now
  | blocking limit => now + limit

namespace Stream

inductive ErrorKind where
  /-- The call was broken off and can simply be repeated. -/
  | interrupted
  | unexpectedEnd
  | writeZero
  | other
  deriving DecidableEq, Repr

structure Error where
  kind : ErrorKind
  message : String
  deriving DecidableEq, Repr

/-- The stream ended before a single byte. -/
def Error.unexpectedEnd : Error := ⟨.unexpectedEnd, "unexpected end of file"⟩

/-- Not a single byte was taken. -/
def Error.writeZero : Error := ⟨.writeZero, "write zero"⟩

/-- What polls for input meet. -/
inductive Incoming where
  /-- Bytes that are ready; what does not fit stays for the next poll.  No bytes
  are an end of the stream that does not stay. -/
  | data (bytes : List UInt8)
  /-- The end of the stream, which stays. -/
  | finished
  | failure (error : Error)
  deriving DecidableEq, Repr

/-- What polls for output meet. -/
inductive Outgoing where
  /-- That many bytes can be taken. -/
  | room (count : Nat)
  | failure (error : Error)
  deriving DecidableEq, Repr

/-- Something to be met by a poll from a certain time on. -/
structure Due (β : Type) where
  time : Nat
  thing : β
  deriving DecidableEq, Repr

/-- A poll: the part of the buffer that it was offered, and the bytes that it moved or
its failure, unless the stream was not ready. -/
structure Poll where
  offered : List UInt8
  found : Option (Except Error (List UInt8))

/-- One direction of a stream. -/
structure Direction (β : Type) where
  /-- What comes of a poll that meets a thing, and what it leaves of it. -/
  meet : List UInt8 → β → Except Error (List UInt8) × Option β
  /-- A buffer after bytes moved at the place behind the first so many. -/
  place : List UInt8 → Nat → List UInt8 → List UInt8
  /-- Why a call could not move a single byte. -/
  stuck : Error

/-- How a call ended, and what later polls will meet. -/
structure Ended (β : Type) where
  result : Except Error Nat
  buffer : List UInt8
  polls : List Poll
  later : List (Due β)
  clock : Nat

/-- The same with a poll in front. -/
def Ended.behind {β : Type} (poll : Poll) (ended : Ended β) : Ended β :=
  { ended with polls := poll :: ended.polls }

/-- Polls until the buffer, of which the first `done` bytes have moved, is done. -/
def transfer {β : Type} (direction : Direction β) (deadline : Nat) (buffer : List UInt8)
    (done clock : Nat) : List (Due β) → Ended β
  | [] =>
      { result := .ok done, buffer, polls := [⟨buffer.drop done, none⟩], later := []
        clock := deadline }
  | due :: later =>
      if deadline < due.time then
        { result := .ok done, buffer, polls := [⟨buffer.drop done, none⟩]
          later := due :: later, clock := deadline }
      else
        let (found, left) := direction.meet (buffer.drop done) due.thing
        let poll : Poll := ⟨buffer.drop done, some found⟩
        let clock := max clock due.time
        let rest := (left.map (Due.mk due.time)).toList ++ later
        match found with
        | .ok [] =>
            { result := if done = 0 then .error direction.stuck else .ok done
              buffer, polls := [poll], later := rest, clock }
        | .ok bytes =>
            let buffer := direction.place buffer done bytes
            let done := done + bytes.length
            if buffer.length ≤ done then
              { result := .ok done, buffer, polls := [poll], later := rest, clock }
            else (transfer direction deadline buffer done clock later).behind poll
        | .error error =>
            if error.kind = .interrupted then
              (transfer direction deadline buffer done clock later).behind poll
            else
              { result := if done = 0 then .error error else .ok done
                buffer, polls := [poll], later := rest, clock }

/-- A call that starts at `now`.  An empty buffer is done without a poll. -/
def call {β : Type} (direction : Direction β) (mode : IoMode) (now : Nat)
    (buffer : List UInt8) (dues : List (Due β)) : Ended β :=
  if buffer = [] then { result := .ok 0, buffer, polls := [], later := dues, clock := now }
  else transfer direction (mode.deadline now) buffer 0 now dues

/-- A poll fills the slots of the buffer that it is offered, as far as the bytes reach. -/
def reading : Direction Incoming where
  meet
    | slots, .data bytes =>
        (.ok (bytes.take slots.length),
          if bytes.length ≤ slots.length then none else some (.data (bytes.drop slots.length)))
    | _, .finished => (.ok [], some .finished)
    | _, .failure error => (.error error, none)
  place buffer done bytes := buffer.take done ++ bytes ++ buffer.drop (done + bytes.length)
  stuck := .unexpectedEnd

/-- A poll sends the bytes that it is offered, as far as they are taken. -/
def writing : Direction Outgoing where
  meet
    | bytes, .room count => (.ok (bytes.take count), none)
    | _, .failure error => (.error error, none)
  place buffer _ _ := buffer
  stuck := .writeZero

def read : IoMode → Nat → List UInt8 → List (Due Incoming) → Ended Incoming := call reading

def write : IoMode → Nat → List UInt8 → List (Due Outgoing) → Ended Outgoing := call writing

end Stream

/-- The byte stream of an open link, whose calls may fail as the operating
system sees fit. -/
structure Channel (σ : Type) where
  now : σ → Nat
  receive : Nat → IoMode → EStateM Stream.Error σ (List UInt8)
  transmit : List UInt8 → IoMode → EStateM Stream.Error σ Nat
  drain : EStateM Stream.Error σ Unit

/-- An operation whose failures are reworded as errors of a link. -/
def LinkM.rewording {ε σ α : Type} (reword : ε → LinkError) (action : EStateM ε σ α) :
    LinkM σ α := fun world =>
  match action world with
  | .ok value world => .ok value world
  | .error error world => .error (reword error) world

end InstrumentLink
