import InstrumentLink.Proofs.PostedWrites

/-!
# Handing over all of a buffer

A link takes what it likes of a buffer, so the rest is offered again until nothing is
left or the deadline has passed.  `Handover` follows the loop write by write, and what
it says of a whole run is read off it: each byte is taken once and in its place, and
the loop only falls short if the time was over or a write failed.
-/

namespace InstrumentLink

open LinkM WriteCall

variable {σ : Type}

/-- The writes of a loop from `rest` on, with so many of them in hand, and its end. -/
inductive Handover (transport : Transport σ) (total limit deadline : Nat) :
    Nat → List UInt8 → σ → List WriteCall → Except LinkError Unit → σ → Prop
  | done {inHand : Nat} {world : σ} :
      Handover transport total limit deadline inHand [] world [] (.ok ()) world
  | stalled {rest : List UInt8} {world : σ} (hrest : rest ≠ []) :
      Handover transport total limit deadline 0 rest world [] (.error (.stalled "write")) world
  | expired {inHand : Nat} {rest : List UInt8} {world : σ} (hrest : rest ≠ [])
      (hlate : deadline ≤ transport.now world) :
      Handover transport total limit deadline (inHand + 1) rest world []
        (.error (.timeout (.writing total (total - rest.length)) limit)) world
  | broken {inHand : Nat} {rest : List UInt8} {world after : σ} {error : LinkError}
      (hrest : rest ≠ []) (hearly : transport.now world < deadline)
      (hwrite : transport.write rest (.blocking (deadline - transport.now world)) world =
        .error error after) :
      Handover transport total limit deadline (inHand + 1) rest world
        [⟨rest, .blocking (deadline - transport.now world), transport.now world, .error error⟩]
        (.error error) after
  | more {inHand count : Nat} {rest : List UInt8} {world between after : σ}
      {calls : List WriteCall} {result : Except LinkError Unit}
      (hrest : rest ≠ []) (hearly : transport.now world < deadline)
      (hwrite : transport.write rest (.blocking (deadline - transport.now world)) world =
        .ok count between)
      (hmore : Handover transport total limit deadline inHand (rest.drop count) between calls
        result after) :
      Handover transport total limit deadline (inHand + 1) rest world
        (⟨rest, .blocking (deadline - transport.now world), transport.now world, .ok count⟩ ::
          calls) result after

/-- A call is offered what is left, for the time that is left. -/
structure WriteCall.Offers (call : WriteCall) (rest : List UInt8) (deadline : Nat) : Prop where
  offered : call.offered = rest
  some_left : rest ≠ []
  early : call.began < deadline
  mode : call.mode = .blocking (deadline - call.began)

/-- Why a loop with so many writes in hand ends before all is taken. -/
inductive Cut (transport : Transport σ) (total limit deadline inHand sent : Nat)
    (calls : List WriteCall) (after : σ) : LinkError → Prop
  /-- The time was over, and no write was made since. -/
  | expired (hanswered : ∀ call ∈ calls, call.Answered) (hlate : deadline ≤ transport.now after) :
      Cut transport total limit deadline inHand sent calls after
        (.timeout (.writing total sent) limit)
  | broken {earlier : List WriteCall} {last : WriteCall} {error : LinkError}
      (hanswered : ∀ call ∈ earlier, call.Answered) (hcalls : calls = earlier ++ [last])
      (hlast : last.result = .error error) :
      Cut transport total limit deadline inHand sent calls after error
  | stalled (hanswered : ∀ call ∈ calls, call.Answered) (hall : calls.length = inHand) :
      Cut transport total limit deadline inHand sent calls after (.stalled "write")

theorem Cut.cons {transport : Transport σ} {total limit deadline inHand sent : Nat}
    {calls : List WriteCall} {after : σ} {error : LinkError} {call : WriteCall}
    (hcall : call.Answered)
    (hcut : Cut transport total limit deadline inHand sent calls after error) :
    Cut transport total limit deadline (inHand + 1) sent (call :: calls) after error := by
  cases hcut with
  | expired hanswered hlate => exact .expired (List.forall_mem_cons.mpr ⟨hcall, hanswered⟩) hlate
  | broken hanswered hcalls hlast =>
      exact .broken (List.forall_mem_cons.mpr ⟨hcall, hanswered⟩) (congrArg (call :: ·) hcalls)
        hlast
  | stalled hanswered hall =>
      exact .stalled (List.forall_mem_cons.mpr ⟨hcall, hanswered⟩) (congrArg (· + 1) hall)

/-- What became of the writing of all of `data`, by a loop with so many writes in hand. -/
structure Handed (transport : Transport σ) (data : List UInt8) (limit deadline inHand : Nat)
    (calls : List WriteCall) (result : Except LinkError Unit) (after : σ) : Prop where
  /-- Each write was offered what those before it had left. -/
  offers : ∀ earlier call later, calls = earlier ++ call :: later →
    call.Offers (data.drop (taken earlier).length) deadline
  /-- Every byte was taken once and in its place, as far as they went. -/
  taken_eq : taken calls = data.take (taken calls).length
  /-- Whether all was taken is the only thing that matters. -/
  ok_iff : result = .ok () ↔ (taken calls).length = data.length
  cut : ∀ error, result = .error error → (taken calls).length < data.length ∧
    Cut transport data.length limit deadline inHand (taken calls).length calls after error

namespace Handover

variable {transport : Transport σ} {total limit deadline inHand : Nat} {rest : List UInt8}
variable {world after : σ} {calls : List WriteCall} {result : Except LinkError Unit}

theorem drop_length_take (count more : Nat) (rest : List UInt8) :
    rest.drop ((rest.take count).length + more) = (rest.drop count).drop more := by
  rw [List.drop_drop, List.length_take]
  rcases Nat.le_total count rest.length with hfits | hshort
  · rw [Nat.min_eq_left hfits]
  · rw [List.drop_eq_nil_of_le (by omega), List.drop_eq_nil_of_le (by omega)]

/-- Each write is offered what those before it left. -/
theorem offers (h : Handover transport total limit deadline inHand rest world calls result after) :
    ∀ earlier call later, calls = earlier ++ call :: later →
      call.Offers (rest.drop (taken earlier).length) deadline := by
  induction h with
  | done => simp
  | stalled _ => simp
  | expired _ _ => simp
  | broken hrest hearly _ =>
      intro earlier call later hcalls
      cases earlier with
      | nil =>
          cases hcalls
          exact ⟨rfl, hrest, hearly, rfl⟩
      | cons first earlier => simp at hcalls
  | more hrest hearly _ _ ih =>
      intro earlier call later hcalls
      cases earlier with
      | nil =>
          cases hcalls
          exact ⟨rfl, hrest, hearly, rfl⟩
      | cons first earlier =>
          obtain ⟨rfl, hlater⟩ := List.cons.inj hcalls
          rw [taken_cons, List.length_append, accepted_of_ok rfl, drop_length_take]
          exact ih earlier call later hlater

/-- What is taken is taken from the front. -/
theorem taken_isPrefix
    (h : Handover transport total limit deadline inHand rest world calls result after) :
    taken calls <+: rest := by
  induction h with
  | done => exact List.nil_prefix
  | stalled _ => exact List.nil_prefix
  | expired _ _ => exact List.nil_prefix
  | broken _ _ _ => exact List.nil_prefix
  | @more _ count rest _ _ _ calls _ _ _ _ _ ih =>
      rw [taken_cons, accepted_of_ok rfl]
      calc rest.take count ++ taken calls <+: rest.take count ++ rest.drop count :=
            (List.prefix_append_right_inj _).mpr ih
        _ = rest := List.take_append_drop count rest

/-- The loop succeeds if, and only if, all is taken. -/
theorem ok_iff (h : Handover transport total limit deadline inHand rest world calls result after) :
    result = .ok () ↔ taken calls = rest := by
  induction h with
  | done => simp
  | stalled hrest => simpa using hrest
  | expired hrest _ => simpa using hrest
  | broken hrest _ _ =>
      rw [taken_cons, accepted_of_error rfl]
      simpa using hrest
  | @more _ count rest _ _ _ calls result _ _ _ _ ih =>
      calc result = .ok () ↔ taken calls = rest.drop count := ih
        _ ↔ rest.take count ++ taken calls = rest.take count ++ rest.drop count :=
            (List.append_right_inj _).symm
        _ ↔ taken (_ :: calls) = rest := by
            rw [taken_cons, accepted_of_ok rfl, List.take_append_drop]

theorem cut (h : Handover transport total limit deadline inHand rest world calls result after) :
    ∀ error, result = .error error →
      Cut transport total limit deadline inHand (total - (rest.length - (taken calls).length))
        calls after error := by
  induction h with
  | done => simp
  | stalled _ =>
      rintro error ⟨⟩
      exact .stalled (by simp) rfl
  | expired _ hlate =>
      rintro error ⟨⟩
      exact .expired (by simp) hlate
  | broken _ _ _ =>
      rintro error ⟨⟩
      exact .broken (List.forall_mem_nil _) (List.nil_append _).symm rfl
  | @more _ count rest _ _ _ calls _ _ _ _ _ ih =>
      intro error herror
      have hleft : (rest.drop count).length - (taken calls).length =
          rest.length - (rest.take count ++ taken calls).length := by
        rw [List.length_append, List.length_take, List.length_drop]
        omega
      rw [taken_cons, accepted_of_ok rfl, ← hleft]
      exact (ih error herror).cons ⟨count, rfl⟩

theorem handed {data : List UInt8}
    (h : Handover transport data.length limit deadline inHand data world calls result after) :
    Handed transport data limit deadline inHand calls result after := by
  have hlength : (taken calls).length ≤ data.length := h.taken_isPrefix.length_le
  have hok : result = .ok () ↔ (taken calls).length = data.length :=
    h.ok_iff.trans ⟨congrArg List.length, h.taken_isPrefix.eq_of_length⟩
  refine ⟨h.offers, List.prefix_iff_eq_take.mp h.taken_isPrefix, hok, ?_⟩
  rintro error rfl
  constructor
  · exact Nat.lt_of_le_of_ne hlength fun hall => nomatch hok.mpr hall
  · rw [← Nat.sub_sub_self hlength]
    exact h.cut error rfl

end Handover

namespace Posted

variable {transport : Transport σ}

/-- The loop on a handle that is open for writing.  The induction is on the writes in
hand; the record of each one is put in front of those that follow. -/
theorem handover_of_writeRest (transport : Transport σ) (total limit deadline inHand : Nat)
    (rest : List UInt8) {station : Station (Posted σ)}
    (hwritable : station.handle.mode = some .readWrite) :
    ∃ calls, Handover transport total limit deadline inHand rest station.world.world calls
      ((Handle.writeRest (link transport) total limit deadline inHand rest).outcome station).1
      ((Handle.writeRest (link transport) total limit deadline inHand rest).outcome
        station).2.world.world ∧
      ((Handle.writeRest (link transport) total limit deadline inHand rest).outcome
        station).2.world.calls = station.world.calls ++ calls := by
  induction inHand generalizing rest station with
  | zero =>
      rcases eq_or_ne rest [] with rfl | hrest
      · rw [Handle.writeRest_of_nil]
        exact ⟨[], .done, (List.append_nil _).symm⟩
      · rw [Handle.writeRest_of_none_in_hand hrest]
        exact ⟨[], .stalled hrest, (List.append_nil _).symm⟩
  | succ inHand ih =>
      rcases eq_or_ne rest [] with rfl | hrest
      · rw [Handle.writeRest_of_nil]
        exact ⟨[], .done, (List.append_nil _).symm⟩
      · rcases Nat.lt_or_ge (transport.now station.world.world) deadline with hearly | hlate
        · rw [Handle.writeRest_of_early hrest hearly, outcome_bind, now_link]
          rcases outcome_write transport hwritable hrest
              (.blocking (deadline - transport.now station.world.world)) with
            ⟨count, between, houtcome, hhandle, hwrite, hposted⟩ |
              ⟨error, after, houtcome, hwrite, hposted⟩
          · obtain ⟨calls, hmore, hcalls⟩ := ih (rest.drop count) (hhandle ▸ hwritable)
            rw [hposted, List.append_assoc] at hcalls
            rw [houtcome]
            exact ⟨_, .more hrest hearly hwrite hmore, hcalls⟩
          · rw [houtcome]
            exact ⟨_, .broken hrest hearly hwrite, hposted⟩
        · rw [Handle.writeRest_of_late hrest hlate]
          exact ⟨[], .expired hrest hlate, (List.append_nil _).symm⟩

/-- From an empty record on, the record is that of the loop. -/
theorem handover_of_outcome {total limit deadline inHand : Nat} {rest : List UInt8}
    {station after : Station (Posted σ)} {result : Except LinkError Unit}
    (hwritable : station.handle.mode = some .readWrite) (hfresh : station.world.calls = [])
    (houtcome : (Handle.writeRest (link transport) total limit deadline inHand rest).outcome
      station = (result, after)) :
    Handover transport total limit deadline inHand rest station.world.world after.world.calls
      result after.world.world := by
  obtain ⟨calls, hhandover, hcalls⟩ :=
    handover_of_writeRest transport total limit deadline inHand rest hwritable
  rw [houtcome, hfresh, List.nil_append] at hcalls
  rw [houtcome, ← hcalls] at hhandover
  exact hhandover

theorem handover_of_writeAll {data : List UInt8} {limit : Nat}
    {station after : Station (Posted σ)} {result : Except LinkError Unit}
    (hwritable : station.handle.mode = some .readWrite) (hfresh : station.world.calls = [])
    (houtcome : (Handle.writeAll (link transport) data limit).outcome station = (result, after)) :
    Handover transport data.length limit (transport.now station.world.world + limit)
      (data.length + limit + transport.patience station.world.world + 1) data station.world.world
      after.world.calls result after.world.world :=
  handover_of_outcome hwritable hfresh houtcome

end Posted

end InstrumentLink
