import InstrumentLink.Log
import Mathlib.Data.List.Basic

/-!
# Packet dumps are readable

A dump shows which bytes it was made from: the texts that can be read as dumps are those that
are written, and no two lists of bytes have the same one.  A logged packet therefore says in
which direction which bytes were moved.  It is told from other lines by how it begins, unless
they begin with the text of a connection that imitates it, and from these by how it goes on.
-/

namespace InstrumentLink

namespace Hex

def value? (c : Char) : Option Nat :=
  if '0' ≤ c ∧ c ≤ '9' then some (c.toNat - 48)
  else if 'A' ≤ c ∧ c ≤ 'F' then some (c.toNat - 55)
  else none

def byte? (high low : Char) : Option UInt8 := do
  return UInt8.ofNat (16 * (← value? high) + (← value? low))

/-- The bytes that a dump shows.  A single blank divides two of them and stands nowhere else. -/
def bytes? : List Char → Option (List UInt8)
  | [] => some []
  | [_] => none
  | [high, low] => (byte? high low).map fun last => [last]
  | high :: low :: blank :: rest =>
      if blank = ' ' ∧ rest ≠ [] then do return (← byte? high low) :: (← bytes? rest) else none

theorem value?_digit : ∀ value < 16, value? (digit value) = some value := by
  decide

/-- A digit is read exactly if it is written for that number. -/
theorem value?_eq_some_iff {c : Char} {value : Nat} :
    value? c = some value ↔ value < 16 ∧ c = digit value := by
  constructor
  · intro hvalue
    unfold value? at hvalue
    split at hvalue
    · next hdecimal =>
        have hlow : 48 ≤ c.toNat := hdecimal.1
        have hhigh : c.toNat ≤ 57 := hdecimal.2
        cases hvalue
        refine ⟨by omega, ?_⟩
        rw [digit, if_pos (by omega), Nat.add_sub_cancel' hlow, Char.ofNat_toNat]
    · split at hvalue
      · next hletter =>
          have hlow : 65 ≤ c.toNat := hletter.1
          have hhigh : c.toNat ≤ 70 := hletter.2
          cases hvalue
          refine ⟨by omega, ?_⟩
          rw [digit, if_neg (by omega), Nat.add_sub_cancel' (by omega), Char.ofNat_toNat]
      · cases hvalue
  · rintro ⟨hvalue, rfl⟩
    exact value?_digit value hvalue

/-- Two digits are read exactly if they are written for that byte. -/
theorem byte?_eq_some_iff {high low : Char} {byte : UInt8} :
    byte? high low = some byte ↔ [high, low] = byteChars byte := by
  have hbyte : byte.toNat < 256 := byte.toNat_lt
  simp only [byte?, Option.bind_eq_bind, Option.bind_eq_some_iff, value?_eq_some_iff]
  constructor
  · rintro ⟨first, ⟨hfirst, rfl⟩, second, ⟨hsecond, rfl⟩, hsame⟩
    cases hsame
    have hnumber : (UInt8.ofNat (16 * first + second)).toNat = 16 * first + second := by
      rw [UInt8.toNat_ofNat']
      omega
    rw [byteChars, hnumber, show (16 * first + second) / 16 = first by omega,
      show (16 * first + second) % 16 = second by omega]
  · intro hsame
    cases hsame
    refine ⟨byte.toNat / 16, ⟨by omega, rfl⟩, byte.toNat % 16, ⟨by omega, rfl⟩, ?_⟩
    rw [Nat.div_add_mod, UInt8.ofNat_toNat]
    rfl

theorem packetChars_ne_nil {bytes : List UInt8} (hbytes : bytes ≠ []) :
    packetChars bytes ≠ [] := by
  fun_cases packetChars bytes with
  | case1 => exact absurd rfl hbytes
  | case2 last => exact List.cons_ne_nil _ _
  | case3 first rest hrest => exact List.cons_ne_nil _ _

theorem bytes?_packetChars (bytes : List UInt8) : bytes? (packetChars bytes) = some bytes := by
  have hread : ∀ byte, byte? (digit (byte.toNat / 16)) (digit (byte.toNat % 16)) = some byte :=
    fun byte => byte?_eq_some_iff.mpr rfl
  fun_induction packetChars bytes with
  | case1 => rfl
  | case2 last => rw [byteChars, bytes?, hread, Option.map_some]
  | case3 first rest hrest ih =>
      have hmore : packetChars rest ≠ [] := packetChars_ne_nil (by simpa using hrest)
      simp [byteChars, bytes?, hread, hmore, ih]

/-- No other text than the dump of the bytes is read as them. -/
theorem eq_packetChars_of_bytes? {chars : List Char} {bytes : List UInt8}
    (hread : bytes? chars = some bytes) : chars = packetChars bytes := by
  fun_induction bytes? chars generalizing bytes with
  | case1 =>
      cases hread
      rfl
  | case2 => cases hread
  | case3 high low =>
      obtain ⟨last, hlast, rfl⟩ := Option.map_eq_some_iff.mp hread
      exact byte?_eq_some_iff.mp hlast
  | case4 high low blank rest hdivides ih =>
      obtain ⟨rfl, hrest⟩ := hdivides
      simp only [Option.bind_eq_bind, Option.bind_eq_some_iff] at hread
      obtain ⟨first, hfirst, more, hmore, hsame⟩ := hread
      cases hsame
      cases more with
      | nil => exact absurd (ih hmore) hrest
      | cons second more =>
          have hchars : packetChars (first :: second :: more) =
              byteChars first ++ ' ' :: packetChars (second :: more) := rfl
          rw [hchars, ← ih hmore, ← byte?_eq_some_iff.mp hfirst]
          rfl
  | case5 high low blank rest hdivides => cases hread

/-- The texts that can be read as dumps are those that are written. -/
theorem bytes?_eq_some_iff {chars : List Char} {bytes : List UInt8} :
    bytes? chars = some bytes ↔ chars = packetChars bytes := by
  constructor
  · exact eq_packetChars_of_bytes?
  · rintro rfl
    exact bytes?_packetChars bytes

theorem packet_injective : Function.Injective packet := by
  intro first second hsame
  have hchars : packetChars first = packetChars second := String.ofList_injective hsame
  have hfirst := bytes?_packetChars first
  rw [hchars, bytes?_packetChars] at hfirst
  exact (Option.some.inj hfirst).symm

theorem length_packetChars {bytes : List UInt8} (hbytes : bytes ≠ []) :
    (packetChars bytes).length + 1 = 3 * bytes.length := by
  fun_induction packetChars bytes with
  | case1 => exact absurd rfl hbytes
  | case2 last => rfl
  | case3 first rest hrest ih =>
      rw [List.length_append, List.length_cons, length_byteChars, List.length_cons]
      have := ih (by simpa using hrest)
      omega

/-- Each byte takes two characters, and a blank divides it from the next one. -/
theorem length_packet {bytes : List UInt8} (hbytes : bytes ≠ []) :
    (packet bytes).length = 3 * bytes.length - 1 := by
  rw [packet, String.length_ofList, ← length_packetChars hbytes, Nat.add_sub_cancel]

theorem colon_notMem_packetChars (bytes : List UInt8) : ':' ∉ packetChars bytes := by
  have hdigit : ∀ value < 16, ':' ≠ digit value := by decide
  have hbyte (byte : UInt8) : ':' ∉ byteChars byte := by
    have hnumber : byte.toNat < 256 := byte.toNat_lt
    simp only [byteChars, List.mem_cons, List.not_mem_nil, or_false, not_or]
    exact ⟨hdigit _ (by omega), hdigit _ (by omega)⟩
  fun_induction packetChars bytes with
  | case1 => exact List.not_mem_nil
  | case2 last => exact hbyte last
  | case3 first rest hrest ih => simp [hbyte, ih]

end Hex

structure Packet where
  direction : Direction
  bytes : List UInt8
  deriving DecidableEq, Repr

namespace Packet

def line (backend : String) (packet : Packet) : LogLine :=
  .packet backend packet.direction packet.bytes

/-- What the lines of all packets begin with. -/
def mark : String := "DEBUG [LINK-"

def word (direction : Direction) : List Char := (direction.text ++ " ").toList

/-- The packet of a backend that a line tells of, if it does. -/
def ofText? (backend text : String) : Option Packet := do
  let told ← text.toList.dropPrefix? (mark ++ backend ++ "] ").toList
  [Direction.send, Direction.receive].findSome? fun direction => do
    let dump ← told.dropPrefix? (word direction)
    return { direction, bytes := ← Hex.bytes? dump }

theorem toList_text_line (backend : String) (packet : Packet) :
    (packet.line backend).text.toList =
      (mark ++ backend ++ "] ").toList ++
        (word packet.direction ++ Hex.packetChars packet.bytes) := by
  have htext : (packet.line backend).text =
      mark ++ backend ++ "] " ++ (packet.direction.text ++ " " ++ Hex.packet packet.bytes) := by
    rw [← String.append_assoc, ← String.append_assoc]
    rfl
  have hdump : (packet.direction.text ++ " " ++ Hex.packet packet.bytes).toList =
      word packet.direction ++ Hex.packetChars packet.bytes := by
    rw [String.toList_append, Hex.packet, String.toList_ofList, word]
  rw [htext, String.toList_append, hdump]

/-- The line of a packet tells of that packet, and no other line does. -/
theorem ofText?_eq_some_iff {backend text : String} {packet : Packet} :
    ofText? backend text = some packet ↔ text = (packet.line backend).text := by
  constructor
  · intro hread
    simp only [ofText?, Option.bind_eq_bind, Option.bind_eq_some_iff] at hread
    obtain ⟨told, htold, hpacket⟩ := hread
    obtain ⟨direction, -, hdirection⟩ := List.exists_of_findSome?_eq_some hpacket
    simp only [Option.bind_eq_some_iff, Hex.bytes?_eq_some_iff] at hdirection
    obtain ⟨dump, hdump, bytes, rfl, hsame⟩ := hdirection
    cases hsame
    obtain ⟨tag, htext, htag⟩ := List.dropPrefix?_eq_some_iff.mp htold
    obtain ⟨front, rfl, hfront⟩ := List.dropPrefix?_eq_some_iff.mp hdump
    apply String.toList_inj.mp
    rw [toList_text_line, htext, eq_of_beq htag, eq_of_beq hfront]
  · rintro rfl
    have htold := List.dropPrefix?_append_of_beq
      (word packet.direction ++ Hex.packetChars packet.bytes)
      (beq_self_eq_true (mark ++ backend ++ "] ").toList)
    have hdump := List.dropPrefix?_append_of_beq (Hex.packetChars packet.bytes)
      (beq_self_eq_true (word packet.direction))
    rw [ofText?, toList_text_line, htold]
    rcases packet with ⟨direction | direction, bytes⟩
    · simp [hdump, Hex.bytes?_packetChars]
    · have hother : (word .receive ++ Hex.packetChars bytes).dropPrefix? (word .send) = none := by
        have hsend : word .send = ['s', 'e', 'n', 'd', ' '] := by decide
        have hreceive : word .receive = ['r', 'e', 'c', 'v', ' '] := by decide
        rw [hsend, hreceive]
        rfl
      simp [hdump, hother, Hex.bytes?_packetChars]

end Packet

/-- The text of a connection begins like the line of a packet. -/
def Connection.Imitates (connection : Connection) : Prop :=
  "[LINK-".toList <+: connection.text.toList
  deriving Decidable

namespace LogLine

def isPacket : LogLine → Bool
  | packet _ _ _ => true
  | _ => false

/-- The connection that a line begins with. -/
def about? : LogLine → Option Connection
  | paramsApplied connection _ | queueUnknown connection _ => some connection
  | _ => none

/-- The text begins with another character than the lines of packets do. -/
def BeginsOtherwise (text : String) : Prop := text.toList.head?.any (· != 'D') = true
  deriving Decidable

theorem beginsOtherwise_iff {text : String} :
    BeginsOtherwise text ↔ ∃ first chars, text.toList = first :: chars ∧ first ≠ 'D' := by
  rw [BeginsOtherwise]
  cases text.toList with
  | nil => simp
  | cons first chars => simp

theorem BeginsOtherwise.append {text : String} (h : BeginsOtherwise text) (rest : String) :
    BeginsOtherwise (text ++ rest) := by
  rw [beginsOtherwise_iff] at h ⊢
  obtain ⟨first, chars, hchars, hother⟩ := h
  refine ⟨first, chars ++ rest.toList, ?_, hother⟩
  rw [String.toList_append, hchars, List.cons_append]

theorem BeginsOtherwise.isPrefixOf {text : String} (h : BeginsOtherwise text) :
    Packet.mark.toList.isPrefixOf text.toList = false := by
  obtain ⟨first, chars, hchars, hother⟩ := beginsOtherwise_iff.mp h
  have hmark : Packet.mark.toList = 'D' :: "EBUG [LINK-".toList := by decide
  rw [hmark, hchars, List.isPrefixOf_cons_cons, beq_false_of_ne hother.symm, Bool.false_and]

/-- A colon stands behind the text of the connection that a line begins with. -/
theorem text_of_about {line : LogLine} {connection : Connection}
    (habout : line.about? = some connection) :
    ∃ rest, line.text.toList = "DEBUG ".toList ++ (connection.text.toList ++ ':' :: rest) := by
  cases line with
  | paramsApplied own params =>
      cases habout
      have htext : (paramsApplied connection params).text =
        "DEBUG " ++ connection.text ++ ": frame parameters " ++ params.render := rfl
      refine ⟨" frame parameters ".toList ++ params.render.toList, ?_⟩
      rw [htext, String.toList_append, String.toList_append, String.toList_append]
      simp
  | queueUnknown own error =>
      cases habout
      have htext : (queueUnknown connection error).text =
        "DEBUG " ++ connection.text ++ ": queued input size unavailable: " ++ error.text := rfl
      refine ⟨" queued input size unavailable: ".toList ++ error.text.toList, ?_⟩
      rw [htext, String.toList_append, String.toList_append, String.toList_append]
      simp
  | _ => cases habout

/-- What stands before a character is found in the text up to it. -/
theorem prefix_append_cons_iff {front text rest : List Char} {stop : Char} (hstop : stop ∉ front) :
    front <+: text ++ stop :: rest ↔ front <+: text := by
  constructor
  · intro hfront
    have hwhole : text ++ [stop] <+: text ++ stop :: rest := by simp
    rcases List.prefix_or_prefix_of_prefix hfront hwhole with hwithin | hbeyond
    · rcases List.prefix_concat_iff.mp hwithin with rfl | hfound
      · simp at hstop
      · exact hfound
    · exact absurd (hbeyond.subset (by simp)) hstop
  · intro hfront
    exact hfront.trans (List.prefix_append _ _)

/-- A line that begins with a connection looks like a packet if the connection does. -/
theorem isPrefixOf_of_about {line : LogLine} {connection : Connection}
    (habout : line.about? = some connection) :
    Packet.mark.toList.isPrefixOf line.text.toList = true ↔ connection.Imitates := by
  obtain ⟨rest, htext⟩ := text_of_about habout
  have hmark : Packet.mark.toList = "DEBUG ".toList ++ "[LINK-".toList := by decide
  rw [htext, hmark, List.isPrefixOf_iff_prefix, List.prefix_append_right_inj,
    prefix_append_cons_iff (by decide)]
  rfl

/-- All other lines begin otherwise than those of packets. -/
theorem isPrefixOf_of_other {line : LogLine} (hother : line.isPacket = false)
    (habout : line.about? = none) : Packet.mark.toList.isPrefixOf line.text.toList = false := by
  cases line with
  | packet _ _ _ => cases hother
  | paramsApplied _ _ => cases habout
  | queueUnknown _ _ => cases habout
  | _ =>
      -- all other wordings begin with fixed words, to which the rest is appended part by part
      apply BeginsOtherwise.isPrefixOf
      repeat first | decide | apply BeginsOtherwise.append

theorem isPrefixOf_of_packet {line : LogLine} (hpacket : line.isPacket = true) :
    Packet.mark.toList.isPrefixOf line.text.toList = true := by
  cases line with
  | packet backend direction bytes =>
      have htext := Packet.toList_text_line backend ⟨direction, bytes⟩
      rw [String.toList_append, String.toList_append, List.append_assoc, List.append_assoc] at htext
      rw [List.isPrefixOf_iff_prefix]
      exact ⟨_, htext.symm⟩
  | _ => cases hpacket

/-- No line but that of a packet can be read as one, in the name of a backend without a colon. -/
theorem ofText?_eq_none {backend : String} (hname : ':' ∉ backend.toList) {line : LogLine}
    (hother : line.isPacket = false) : Packet.ofText? backend line.text = none := by
  rw [Option.eq_none_iff_forall_ne_some]
  intro packet hread
  have hsame := Packet.ofText?_eq_some_iff.mp hread
  cases habout : line.about? with
  | none =>
      have hmark : (packet.line backend).isPacket = true := rfl
      have hmarked := isPrefixOf_of_packet hmark
      rw [← hsame, isPrefixOf_of_other hother habout] at hmarked
      cases hmarked
  | some connection =>
      obtain ⟨rest, htext⟩ := text_of_about habout
      have hcolon : ':' ∈ (packet.line backend).text.toList := by
        rw [← hsame, htext]
        simp
      have hword : ∀ direction, ':' ∉ Packet.word direction := by
        intro direction
        cases direction <;> decide
      have hfront : ':' ∉ Packet.mark.toList := by decide
      have hback : ':' ∉ "] ".toList := by decide
      rw [Packet.toList_text_line, String.toList_append, String.toList_append] at hcolon
      simp only [List.mem_append] at hcolon
      rcases hcolon with ((hin | hin) | hin) | hin | hin
      · exact hfront hin
      · exact hname hin
      · exact hback hin
      · exact hword _ hin
      · exact Hex.colon_notMem_packetChars _ hin

/-- No line begins with another connection than this one. -/
def AllAbout (connection : Connection) (lines : List LogLine) : Prop :=
  ∀ line ∈ lines, ∀ other, line.about? = some other → other = connection

theorem AllAbout.append {connection : Connection} {first more : List LogLine}
    (hfirst : AllAbout connection first) (hmore : AllAbout connection more) :
    AllAbout connection (first ++ more) :=
  List.forall_mem_append.mpr ⟨hfirst, hmore⟩

theorem allAbout_of_none (connection : Connection) {lines : List LogLine}
    (hnone : ∀ line ∈ lines, line.about? = none) : AllAbout connection lines := by
  intro line hline other habout
  cases (hnone line hline).symm.trans habout

end LogLine

/-- The lines of a log, as they are worded, that look like packets. -/
def packetTexts (log : List LogLine) : List String :=
  (log.map LogLine.text).filter fun text => Packet.mark.toList.isPrefixOf text.toList

/-- The packets that the lines of a log tell of; a line that looks like one and cannot be read
tells of none. -/
def packetsTold (backend : String) (log : List LogLine) : List (Option Packet) :=
  (packetTexts log).map (Packet.ofText? backend)

def packetsRead (backend : String) (log : List LogLine) : List Packet :=
  (log.map LogLine.text).filterMap (Packet.ofText? backend)

section Reading

variable {backend : String} {connection : Connection} {before lines : List LogLine}
  {packets : List Packet}

/-- Among lines about a connection that imitates no packet, those of packets are told
apart by how they begin. -/
theorem packetTexts_of_allAbout (hplain : ¬connection.Imitates)
    (habout : LogLine.AllAbout connection lines) :
    packetTexts lines = (lines.filter LogLine.isPacket).map LogLine.text := by
  rw [packetTexts, List.filter_map]
  congr 1
  apply List.filter_congr
  intro line hline
  cases hpacket : line.isPacket with
  | true => exact LogLine.isPrefixOf_of_packet hpacket
  | false =>
      cases hown : line.about? with
      | none => exact LogLine.isPrefixOf_of_other hpacket hown
      | some other =>
          have hsame := habout line hline other hown
          rw [Function.comp_apply, ← Bool.not_eq_true, LogLine.isPrefixOf_of_about hown, hsame]
          exact hplain

/-- What lines add to the packets told, if the connection that they are about does not look
like a packet. -/
theorem packetsTold_append (hplain : ¬connection.Imitates)
    (habout : LogLine.AllAbout connection lines)
    (hlines : lines.filter LogLine.isPacket = packets.map (Packet.line backend)) :
    packetsTold backend (before ++ lines) = packetsTold backend before ++ packets.map some := by
  have hread : (packets.map fun packet => Packet.ofText? backend (packet.line backend).text) =
      packets.map some :=
    List.map_congr_left fun packet _ => Packet.ofText?_eq_some_iff.mpr rfl
  have htexts : packetTexts (before ++ lines) = packetTexts before ++ packetTexts lines := by
    rw [packetTexts, List.map_append, List.filter_append]
    rfl
  rw [packetsTold, htexts, packetTexts_of_allAbout hplain habout, hlines, List.map_append,
    List.map_map, List.map_map]
  exact congrArg _ hread

/-- What lines add to the packets that can be read, whatever they are about. -/
theorem packetsRead_append (hname : ':' ∉ backend.toList)
    (hlines : lines.filter LogLine.isPacket = packets.map (Packet.line backend)) :
    packetsRead backend (before ++ lines) = packetsRead backend before ++ packets := by
  have hread (packet : Packet) : Packet.ofText? backend (packet.line backend).text = some packet :=
    Packet.ofText?_eq_some_iff.mpr rfl
  have hpackets : lines.filterMap (fun line => Packet.ofText? backend line.text) =
      (lines.filter LogLine.isPacket).filterMap fun line => Packet.ofText? backend line.text := by
    rw [List.filterMap_filter]
    apply List.filterMap_congr
    intro line _
    cases hpacket : line.isPacket with
    | true => rfl
    | false => exact LogLine.ofText?_eq_none hname hpacket
  have hlast : packetsRead backend lines = packets := by
    rw [packetsRead, List.filterMap_map]
    simp only [Function.comp_def]
    rw [hpackets, hlines, List.filterMap_map]
    simp only [Function.comp_def, hread, List.filterMap_some]
  rw [packetsRead, List.map_append, List.filterMap_append]
  exact congrArg _ hlast

end Reading

end InstrumentLink
