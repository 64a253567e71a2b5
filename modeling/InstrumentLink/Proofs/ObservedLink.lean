import InstrumentLink.Device
import InstrumentLink.Proofs.Outcome

/-!
# Observed links

To speak of what happened on a link while it was used, a statement takes a link
with a record beside its world.  Such a link is observed: an operation on it ends
as it does on the plain link, and leaves the same world behind.  So does a
reception over it, and so does the sending of a request.
-/

namespace InstrumentLink

variable {σ τ α β : Type}

namespace LinkM

/-- On `world` the observed operation ends as the plain one does on what `view`
shows of it. -/
def Mirrors (view : τ → σ) (observed : LinkM τ α) (plain : LinkM σ α) (world : τ) : Prop :=
  plain.outcome (view world) = ((observed.outcome world).1, view (observed.outcome world).2)

variable {view : τ → σ} {observed : LinkM τ α} {plain : LinkM σ α} {world : τ}

theorem mirrors_pure (value : α) (world : τ) : Mirrors view (pure value) (pure value) world := rfl

theorem mirrors_throw (error : LinkError) (world : τ) :
    Mirrors view (throw error : LinkM τ α) (throw error) world := rfl

theorem mirrors_ofExcept (result : Except LinkError α) (world : τ) :
    Mirrors view (ofExcept result) (ofExcept result) world := by
  cases result with
  | ok value => exact mirrors_pure value world
  | error error => exact mirrors_throw error world

theorem mirrors_modify {change : τ → τ} {change' : σ → σ}
    (hchange : change' (view world) = view (change world)) :
    Mirrors view (modify change) (modify change') world :=
  congrArg (Prod.mk _) hchange

theorem mirrors_get {next : τ → LinkM τ α} {next' : σ → LinkM σ α}
    (hnext : Mirrors view (next world) (next' (view world)) world) :
    Mirrors view (get >>= next) (get >>= next') world := hnext

theorem Mirrors.bind {next : α → LinkM τ β} {next' : α → LinkM σ β}
    (hfirst : Mirrors view observed plain world)
    (hnext : ∀ value after, Mirrors view (next value) (next' value) after) :
    Mirrors view (observed >>= next) (plain >>= next') world := by
  rw [Mirrors, outcome_bind, outcome_bind, hfirst]
  generalize observed.outcome world = ended
  obtain ⟨value | error, after⟩ := ended
  · rfl
  · exact hnext _ _

theorem Mirrors.attempt (h : Mirrors view observed plain world) :
    Mirrors view (LinkM.attempt observed) (LinkM.attempt plain) world := by
  simp only [Mirrors, outcome, LinkM.attempt] at h ⊢
  cases hobserved : observed world <;> cases hplain : plain (view world) <;>
    simp_all

/-- An operation on a part is mirrored if the view shows the part. -/
theorem Mirrors.within {σ' τ' : Type} {view' : τ' → σ'} {part : τ' → τ} {put : τ' → τ → τ'}
    {part' : σ' → σ} {put' : σ' → σ → σ'} {world' : τ'}
    (h : Mirrors view observed plain (part world'))
    (hpart : part' (view' world') = view (part world'))
    (hput : ∀ inner, put' (view' world') (view inner) = view' (put world' inner)) :
    Mirrors view' (LinkM.within part put observed) (LinkM.within part' put' plain) world' := by
  simp only [Mirrors, outcome, LinkM.within, hpart] at h ⊢
  cases hobserved : observed (part world') <;> cases hplain : plain (view (part world')) <;>
    simp_all

/-- An operation of the plain world, on the world beside a record. -/
theorem mirrors_within {put : τ → σ → τ} (hput : ∀ world inner, view (put world inner) = inner)
    (action : LinkM σ α) (world : τ) :
    Mirrors view (LinkM.within view put action) action world := by
  simp only [Mirrors, outcome, LinkM.within]
  cases action (view world) with
  | ok value inner => rw [hput]
  | error error inner => rw [hput]

end LinkM

open LinkM

/-- Reading from the observed link and discarding its input are those of the plain
one, and so are its clock and its patience. -/
structure Transport.Observes (view : τ → σ) (observed : Transport τ) (plain : Transport σ) :
    Prop where
  backend : plain.backend = observed.backend
  now (world : τ) : plain.now (view world) = observed.now world
  patience (world : τ) : plain.patience (view world) = observed.patience world
  read (room : Nat) (mode : IoMode) (world : τ) :
    Mirrors view (observed.read room mode) (plain.read room mode) world
  flush (world : τ) : Mirrors view observed.flush plain.flush world

/-- Writing to the observed link is writing to the plain one, and so are its clock and
its patience. -/
structure Transport.ObservesWrites (view : τ → σ) (observed : Transport τ)
    (plain : Transport σ) : Prop where
  backend : plain.backend = observed.backend
  now (world : τ) : plain.now (view world) = observed.now world
  patience (world : τ) : plain.patience (view world) = observed.patience world
  write (bytes : List UInt8) (mode : IoMode) (world : τ) :
    Mirrors view (observed.write bytes mode) (plain.write bytes mode) world

/-- A station without what its link records. -/
def Station.seen (view : τ → σ) (station : Station τ) : Station σ :=
  { station with world := view station.world }

def Attached.seen (view : τ → σ) (attached : Attached τ) : Attached σ :=
  { attached with station := attached.station.seen view }

variable {view : τ → σ} {observed : Transport τ} {plain : Transport σ} {request : Request}

@[simp]
theorem Station.handle_seen (view : τ → σ) (station : Station τ) :
    (station.seen view).handle = station.handle := rfl

@[simp]
theorem Station.world_seen (view : τ → σ) (station : Station τ) :
    (station.seen view).world = view station.world := rfl

@[simp]
theorem Attached.device_seen (view : τ → σ) (attached : Attached τ) :
    (attached.seen view).device = attached.device := rfl

namespace Handle

open Station

theorem mirrors_call {action : LinkM τ α} {action' : LinkM σ α} {station : Station τ}
    (h : Mirrors view action action' station.world) :
    Mirrors (seen view) (call action) (call action') station :=
  h.within rfl fun _ => rfl

theorem mirrors_requireOpen (operation : String) (station : Station τ) :
    Mirrors (seen view) (requireOpen operation) (requireOpen operation) station := by
  apply mirrors_get
  rw [handle_seen]
  cases station.handle.mode with
  | some mode => exact mirrors_pure mode station
  | none => exact mirrors_throw _ station

theorem mirrors_logPacket (hbackend : plain.backend = observed.backend) (direction : Direction)
    (bytes : List UInt8) (station : Station τ) :
    Mirrors (seen view) (logPacket observed direction bytes) (logPacket plain direction bytes)
      station := by
  simp only [logPacket, hbackend]
  apply mirrors_get
  rw [handle_seen]
  split
  · exact mirrors_modify rfl
  · exact mirrors_pure _ station

theorem mirrors_read (hlink : observed.Observes view plain) (room : Nat) (mode : IoMode)
    (station : Station τ) :
    Mirrors (seen view) (read observed room mode) (read plain room mode) station := by
  apply (mirrors_requireOpen "read" station).bind
  intro _ opened
  split
  · exact mirrors_throw _ opened
  · apply (mirrors_call (hlink.read room mode opened.world)).bind
    intro bytes after
    apply (mirrors_logPacket hlink.backend .receive bytes after).bind
    intro _ logged
    exact mirrors_pure bytes logged

/-- A write through the handle is guarded alike, so it reaches both links or neither. -/
theorem mirrors_write (hlink : observed.ObservesWrites view plain) (bytes : List UInt8)
    (mode : IoMode) (station : Station τ) :
    Mirrors (seen view) (write observed bytes mode) (write plain bytes mode) station := by
  apply (mirrors_requireOpen "write" station).bind
  intro access opened
  dsimp only
  by_cases hreadOnly : (!access.isWritable) = true
  · rw [if_pos hreadOnly, if_pos hreadOnly]
    apply mirrors_get
    rw [handle_seen]
    exact mirrors_throw _ opened
  · rw [if_neg hreadOnly, if_neg hreadOnly]
    split
    · exact mirrors_throw _ opened
    · apply (mirrors_call (hlink.write bytes mode opened.world)).bind
      intro accepted after
      apply (mirrors_logPacket hlink.backend .send (bytes.take accepted) after).bind
      intro _ logged
      exact mirrors_pure accepted logged

/-- The induction is on the writes in hand, as in `writeRest`. -/
theorem mirrors_writeRest (hlink : observed.ObservesWrites view plain)
    (total limit deadline calls : Nat) (rest : List UInt8) (station : Station τ) :
    Mirrors (seen view) (writeRest observed total limit deadline calls rest)
      (writeRest plain total limit deadline calls rest) station := by
  induction calls generalizing rest station with
  | zero =>
      rw [writeRest, writeRest]
      split
      · exact mirrors_pure _ station
      · exact mirrors_throw _ station
  | succ calls ih =>
      rw [writeRest, writeRest]
      split
      · exact mirrors_pure _ station
      · apply mirrors_get
        rw [world_seen, hlink.now]
        dsimp only
        split
        · exact mirrors_throw _ station
        · apply (mirrors_write hlink rest _ station).bind
          intro accepted after
          exact ih (rest.drop accepted) after

theorem mirrors_writeAll (hlink : observed.ObservesWrites view plain) (bytes : List UInt8)
    (limit : Nat) (station : Station τ) :
    Mirrors (seen view) (writeAll observed bytes limit) (writeAll plain bytes limit) station := by
  apply mirrors_get
  simp only [world_seen, hlink.now, hlink.patience]
  exact mirrors_writeRest hlink _ _ _ _ bytes station

theorem mirrors_flush (hlink : observed.Observes view plain) (station : Station τ) :
    Mirrors (seen view) (flush observed) (flush plain) station := by
  apply (mirrors_requireOpen "flush" station).bind
  intro _ opened
  exact mirrors_call (hlink.flush opened.world)

end Handle

namespace FramedLink

open Station

theorem mirrors_sendPdu (hlink : observed.ObservesWrites view plain) (config : LinkConfig)
    (pdu : List UInt8) (station : Station τ) :
    Mirrors (seen view) (sendPdu observed config pdu) (sendPdu plain config pdu) station := by
  apply (mirrors_ofExcept _ station).bind
  intro frame after
  exact Handle.mirrors_writeAll hlink frame _ after

/-- The induction is on the reads in hand, as in `gather`. -/
theorem mirrors_gather (hlink : observed.Observes view plain) (timeout : Nat) (part : String)
    (total calls since : Nat) (got : List UInt8) (station : Station τ) :
    Mirrors (seen view) (gather observed timeout part total calls since got)
      (gather plain timeout part total calls since got) station := by
  induction calls generalizing since got station with
  | zero =>
      simp only [gather]
      split
      · exact mirrors_pure _ station
      · exact mirrors_pure _ station
  | succ calls ih =>
      simp only [gather]
      split
      · exact mirrors_pure _ station
      · apply (Handle.mirrors_read hlink _ _ station).attempt.bind
        intro result after
        apply mirrors_get
        rw [world_seen, hlink.now]
        cases result with
        | error error => exact mirrors_pure _ after
        | ok bytes =>
            cases bytes with
            | nil =>
                dsimp only
                split
                · exact mirrors_pure _ after
                · exact ih since got after
            | cons first more => exact ih _ _ after

theorem mirrors_readExact (hlink : observed.Observes view plain) (timeout : Nat) (part : String)
    (total : Nat) (station : Station τ) :
    Mirrors (seen view) (readExact observed timeout part total)
      (readExact plain timeout part total) station := by
  apply Mirrors.bind
  · apply mirrors_get
    simp only [world_seen, hlink.now, hlink.patience]
    exact mirrors_gather hlink timeout part total _ _ [] station
  · intro received after
    split
    · exact mirrors_throw _ after
    · exact mirrors_pure _ after

theorem mirrors_readAddress (hlink : observed.Observes view plain) (config : LinkConfig)
    (station : Station τ) :
    Mirrors (seen view) (readAddress observed config) (readAddress plain config) station := by
  apply (mirrors_readExact hlink _ _ _ station).bind
  intro bytes after
  dsimp only
  split
  · exact mirrors_throw _ after
  · exact mirrors_pure _ after

theorem mirrors_readChecksum (hlink : observed.Observes view plain) (config : LinkConfig)
    (pdu : List UInt8) (station : Station τ) :
    Mirrors (seen view) (readChecksum observed config pdu) (readChecksum plain config pdu)
      station := by
  apply (mirrors_readExact hlink _ _ _ station).bind
  intro bytes after
  exact mirrors_ofExcept _ after

end FramedLink

namespace Device

open FramedLink

theorem mirrors_onStation {action : LinkM (Station τ) α} {action' : LinkM (Station σ) α}
    {attached : Attached τ} (h : Mirrors (Station.seen view) action action' attached.station) :
    Mirrors (Attached.seen view) (onStation action) (onStation action') attached :=
  h.within rfl fun _ => rfl

theorem mirrors_setState (state : ReplyState) (attached : Attached τ) :
    Mirrors (Attached.seen view) (setState state) (setState state) attached :=
  mirrors_modify rfl

/-- A request is sent over an observed link as it is over the plain one. -/
theorem mirrors_send (hlink : observed.ObservesWrites view plain) (request : Request)
    (attached : Attached τ) :
    Mirrors (Attached.seen view) (send observed request) (send plain request) attached := by
  apply mirrors_get
  rw [Attached.device_seen]
  dsimp only
  split
  · exact mirrors_throw _ attached
  · apply (mirrors_ofExcept _ attached).bind
    intro pdu encoded
    apply (mirrors_onStation (mirrors_sendPdu hlink _ pdu.bytes encoded.station)).bind
    intro _ sent
    have hoccupied : Mirrors (Attached.seen view) (setOutstanding true) (setOutstanding true)
        sent := mirrors_modify rfl
    apply hoccupied.bind
    intro _ occupied
    exact mirrors_setState _ occupied

theorem mirrors_accumulate (hlink : observed.Observes view plain) (attached : Attached τ) :
    Mirrors (Attached.seen view) (accumulate observed request) (accumulate plain request)
      attached := by
  apply mirrors_get
  rw [Attached.device_seen]
  apply (mirrors_setState _ attached).bind
  intro _ begun
  apply (mirrors_onStation (mirrors_readExact hlink _ _ _ begun.station)).bind
  intro first started
  dsimp only
  split
  · exact mirrors_throw _ started
  · apply (mirrors_setState _ started).bind
    intro _ awaiting
    apply (mirrors_onStation (mirrors_readExact hlink _ _ _ awaiting.station)).bind
    intro rest complete
    apply (mirrors_setState _ complete).bind
    intro _ after
    exact mirrors_ofExcept _ after

theorem mirrors_readReply (hlink : observed.Observes view plain) (attached : Attached τ) :
    Mirrors (Attached.seen view) (readReply observed request) (readReply plain request)
      attached := by
  apply mirrors_get
  rw [Attached.device_seen]
  apply (mirrors_onStation (mirrors_readAddress hlink _ attached.station)).bind
  intro _ addressed
  apply (mirrors_accumulate hlink addressed).bind
  intro pdu accumulated
  apply (mirrors_onStation (mirrors_readChecksum hlink _ _ accumulated.station)).bind
  intro _ after
  exact mirrors_ofExcept _ after

/-- A reception over an observed link is one over the plain link. -/
theorem mirrors_receive (hlink : observed.Observes view plain) (request : Request)
    (attached : Attached τ) :
    Mirrors (Attached.seen view) (receive observed request) (receive plain request) attached := by
  have hbegun : Mirrors (Attached.seen view) (setOutstanding false) (setOutstanding false)
      attached := mirrors_modify rfl
  apply hbegun.bind
  intro _ begun
  apply (mirrors_readReply hlink begun).attempt.bind
  intro result after
  split
  · exact mirrors_pure _ after
  · exact mirrors_throw _ after
  · apply (mirrors_setState _ after).bind
    intro _ failed
    apply (mirrors_onStation (Handle.mirrors_flush hlink failed.station)).attempt.bind
    intro _ flushed
    exact mirrors_throw _ flushed

end Device

end InstrumentLink
