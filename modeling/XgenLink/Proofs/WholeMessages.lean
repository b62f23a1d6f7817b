import XgenLink.Lib.Run
import XgenLink.Proofs.DeliveryRule
import XgenLink.Proofs.FragmentSteps
import XgenLink.System.Node

/-!
# `XgenLink.Proofs.WholeMessages`: the application sees whole messages

A packet without the fragment flag is handed over as it is, and the fragments of a message are
collected until its bytes are complete. So what the callback is given is the payload of one packet
or a message put together from fragments that were received. A message is made of its fragments
without a gap: every byte stands where its fragment said.

A node can be configured to collect no fragments, and then it has no reassembly manager. Nothing
refuses a packet with the fragment flag there; the piece is handed over as if it were a message.

* `Part`, `PartOf`, `MadeOf`: stored fragments, and the bytes that they make up.
* `BufferFilled`: every byte received stands in the buffer where its fragment put it.
* `FragmentTaken`, `xglFragmentProcessExt_taken`: what giving a fragment to the manager comes to.
* `WholeLog`, `whole_rule`: deliveries keep what was handed over whole.
* `whole_messages`: runs in which every data packet with the flag finds a manager.
* `fragment_handed_over`: a fragment without one.
-/

set_option autoImplicit false

namespace XgenLink

/-! ### Buffers -/

/-- A fragment that was stored: its packet, its extension and the bytes that were copied. -/
structure Part where
  packet : Packet
  ext : FragmentExt
  bytes : Bytes

/-- The part is an accepted fragment of the message, and its storing is recorded. -/
structure PartOf (config : TransportConfig) (accepts : Packet → Prop)
    (events : List TransportEvent) (key : MessageKey) (messageLen : Nat) (part : Part) : Prop where
  stored : .fragmentStored part.packet ∈ events
  accepted : accepts part.packet
  flagged : part.packet.fragment ≠ 0
  extension : deliveredFragmentExt part.packet.extensions = .ok part.ext
  key_eq : fragmentKey part.packet part.ext = key
  len_eq : part.ext.messageLen.toNat = messageLen
  handed : HandedBytes config part.packet part.bytes

/-- The position lies in the part. -/
def Part.at (part : Part) (i : Nat) : Prop :=
  part.ext.fragmentOffset.toNat ≤ i ∧ i < part.ext.fragmentOffset.toNat + part.bytes.length

/-- The bytes of a message are those of the parts: these fill it without a gap, their lengths
add up to its length, and the bytes of each stand at its offset. -/
structure MadeOf (data : Bytes) (parts : List Part) : Prop where
  filled : ∀ i < data.length, ∃ part ∈ parts, part.at i
  total : (parts.map fun part => part.bytes.length).sum = data.length
  placed : ∀ part ∈ parts, ∀ j byte, part.bytes[j]? = some byte →
    data[part.ext.fragmentOffset.toNat + j]? = some byte

/-- A buffer holds the bytes of its parts, and its ranges say which these are. -/
structure BufferFilled (config : TransportConfig) (accepts : Packet → Prop)
    (events : List TransportEvent) (buffer : ReassemblyBuffer) (parts : List Part) : Prop where
  size : buffer.data.length = buffer.bufferSize
  tiles : RangesTile buffer.bufferSize buffer.receivedRanges
  count : buffer.receivedBytes = rangesTotal buffer.receivedRanges
  parts_of : ∀ part ∈ parts, PartOf config accepts events buffer.key buffer.bufferSize part
  cover : ∀ i, RangesCover buffer.receivedRanges i ↔ ∃ part ∈ parts, part.at i
  total : (parts.map fun part => part.bytes.length).sum = rangesTotal buffer.receivedRanges
  placed : ∀ part ∈ parts, ∀ j byte, part.bytes[j]? = some byte →
    buffer.data[part.ext.fragmentOffset.toNat + j]? = some (some byte)

/-- Every buffer of a list. -/
def BuffersFilled (config : TransportConfig) (accepts : Packet → Prop)
    (events : List TransportEvent) (buffers : List ReassemblyBuffer) : Prop :=
  ∀ buffer ∈ buffers, ∃ parts, BufferFilled config accepts events buffer parts

/-- A message of a key was put together from accepted fragments. -/
def Reassembled (config : TransportConfig) (accepts : Packet → Prop)
    (events : List TransportEvent) (key : MessageKey) (data : Bytes) : Prop :=
  ∃ parts, (∀ part ∈ parts, PartOf config accepts events key data.length part) ∧ MadeOf data parts

section Buffers

variable {config : TransportConfig} {accepts : Packet → Prop}
  {events later : List TransportEvent} {key : MessageKey} {messageLen : Nat} {part : Part}
  {parts : List Part} {buffer : ReassemblyBuffer} {buffers : List ReassemblyBuffer}

/-- A part of a log is one of a longer log. -/
theorem PartOf.mono (h : PartOf config accepts events key messageLen part)
    (hsub : ∀ event ∈ events, event ∈ later) :
    PartOf config accepts later key messageLen part :=
  ⟨hsub _ h.stored, h.accepted, h.flagged, h.extension, h.key_eq, h.len_eq, h.handed⟩

/-- So is a buffer. -/
theorem BuffersFilled.mono (h : BuffersFilled config accepts events buffers)
    (hsub : ∀ event ∈ events, event ∈ later) : BuffersFilled config accepts later buffers := by
  intro buffer hbuffer
  obtain ⟨parts, hfilled⟩ := h buffer hbuffer
  exact ⟨parts, hfilled.size, hfilled.tiles, hfilled.count,
    fun part hpart => (hfilled.parts_of part hpart).mono hsub, hfilled.cover, hfilled.total,
    hfilled.placed⟩

/-- A fragment whose range is new goes into its buffer. -/
theorem BufferFilled.store {ranges : List ReceivedRange} (now : UInt32)
    (h : BufferFilled config accepts events buffer parts)
    (hsub : ∀ event ∈ events, event ∈ later)
    (hpart : PartOf config accepts later buffer.key buffer.bufferSize part)
    (hfits : part.ext.fragmentOffset.toNat + part.bytes.length ≤ buffer.bufferSize)
    (hinsert : fragmentInsertReceivedRange buffer.receivedRanges part.ext.fragmentOffset.toNat
      (part.ext.fragmentOffset.toNat + part.bytes.length) = .ok ranges) :
    BufferFilled config accepts later
      { buffer with
        receivedRanges := ranges
        data := writeFragment buffer.data part.ext.fragmentOffset.toNat part.bytes
        receivedBytes := buffer.receivedBytes + part.bytes.length
        firstFragmentTime := now } (part :: parts) := by
  obtain ⟨htiles, htotal, hcover, hnew⟩ := fragmentInsertReceivedRange_ok hinsert h.tiles hfits
  have hroom : part.ext.fragmentOffset.toNat + part.bytes.length ≤ buffer.data.length := by
    rw [h.size]
    exact hfits
  refine ⟨(length_writeFragment hroom).trans h.size, htiles, ?_, ?_, ?_, ?_, ?_⟩
  · show buffer.receivedBytes + part.bytes.length = rangesTotal ranges
    rw [htotal, h.count]
    omega
  · intro other hother
    rcases List.mem_cons.mp hother with rfl | hother
    · exact hpart
    · exact (h.parts_of other hother).mono hsub
  · intro i
    rw [hcover, h.cover, or_comm]
    simp only [List.mem_cons, exists_eq_or_imp]
    rfl
  · show ((part :: parts).map fun part => part.bytes.length).sum = rangesTotal ranges
    rw [htotal, List.map_cons, List.sum_cons, h.total]
    omega
  · intro other hother j byte hbyte
    show (writeFragment _ _ _)[_]? = _
    rw [writeFragment_getElem? hroom]
    have hlen : j < other.bytes.length := (List.getElem?_eq_some_iff.mp hbyte).1
    rcases List.mem_cons.mp hother with rfl | hother
    · rw [if_pos (by omega), Nat.add_sub_cancel_left, hbyte]
      rfl
    · -- a byte received before is not in the new range
      rw [if_neg (hnew _ ((h.cover _).mpr ⟨other, hother, by omega, by omega⟩))]
      exact h.placed other hother j byte hbyte

/-- A buffer that has received as many bytes as it holds is a message. -/
theorem BufferFilled.complete (h : BufferFilled config accepts events buffer parts)
    (hfull : buffer.receivedBytes = buffer.bufferSize) :
    Reassembled config accepts events buffer.key (buffer.data.map fun byte => byte.getD 0) := by
  have hlen : (buffer.data.map fun byte => byte.getD 0).length = buffer.bufferSize := by
    rw [List.length_map]
    exact h.size
  refine ⟨parts, ?_, ?_, ?_, ?_⟩
  · rw [hlen]
    exact h.parts_of
  · rw [hlen]
    intro i hi
    refine (h.cover i).mp (h.tiles.spanned_of_total ?_ (Nat.zero_le i) hi)
    rw [Nat.sub_zero, ← hfull]
    exact h.count.symm
  · rw [hlen, ← hfull, h.count]
    exact h.total
  · intro part hpart j byte hbyte
    rw [List.getElem?_map, h.placed part hpart j byte hbyte]
    rfl

/-- A new buffer has no parts. -/
theorem BufferFilled.fresh (manager : FragmentManager) (dataType : UInt8) (len : UInt32) :
    BufferFilled config accepts events (freshBuffer manager key dataType len) [] := by
  refine ⟨List.length_replicate, Nat.zero_le _, rfl, fun part hpart => (nomatch hpart), ?_, rfl,
    fun part hpart => (nomatch hpart)⟩
  intro i
  constructor
  · rintro ⟨r, hr, _⟩
    cases hr
  · rintro ⟨part, hpart, _⟩
    cases hpart

end Buffers

/-! ### One fragment -/

/-- What giving a fragment to the manager comes to: it is refused, and the buffers are as
good as before; it is stored, and the message is incomplete; or it completes the message. -/
inductive FragmentTaken (config : TransportConfig) (accepts : Packet → Prop)
    (events later : List TransportEvent) (key : MessageKey) (messageLen : Nat) :
    FragmentResult → FragmentManager → Prop where
  | refused (err : XglError) (herr : err ≠ .ok) (manager : FragmentManager)
      (hbuffers : BuffersFilled config accepts events manager.reassemblyList) :
      FragmentTaken config accepts events later key messageLen { error := err } manager
  | waiting (manager : FragmentManager)
      (hbuffers : BuffersFilled config accepts later manager.reassemblyList) :
      FragmentTaken config accepts events later key messageLen
        { error := .busy, stored := true } manager
  | completed (data : Bytes) (manager : FragmentManager)
      (hbuffers : BuffersFilled config accepts later manager.reassemblyList)
      (hlen : data.length = messageLen)
      (hwhole : Reassembled config accepts later key data) :
      FragmentTaken config accepts events later key messageLen
        { error := .ok, complete := some data, stored := true } manager

section Fragments

variable {config : TransportConfig} {accepts : Packet → Prop} {events later : List TransportEvent}
  {part : Part} (env : TransportEnv) (io : TransportIo) {manager : FragmentManager}

/-- Storing a fragment in its buffer. -/
theorem fragmentStore_taken {buffer : ReassemblyBuffer} {dataType : UInt8} (now : UInt32)
    (hbuffers : BuffersFilled config accepts events manager.reassemblyList)
    (hbuffer : ∃ parts, BufferFilled config accepts events buffer parts)
    (hsub : ∀ event ∈ events, event ∈ later)
    (hpart : PartOf config accepts later buffer.key part.ext.messageLen.toNat part)
    (hfits : part.ext.fragmentOffset.toNat + part.bytes.length ≤ part.ext.messageLen.toNat) :
    let out := fragmentStore env io manager buffer dataType part.ext.fragmentOffset
      part.ext.messageLen part.bytes now
    FragmentTaken config accepts events later buffer.key part.ext.messageLen.toNat out.1
      out.2.1 := by
  simp only [fragmentStore]
  split
  · exact .refused _ (by decide) _ hbuffers
  rename_i hsame
  have hsize : buffer.bufferSize = part.ext.messageLen.toNat := by
    by_contra hne
    exact hsame (by simp [hne])
  split
  · rename_i err hinsert
    exact .refused err (fragmentInsertReceivedRange_error hinsert) _ hbuffers
  rename_i ranges hinsert
  generalize (if (buffer.receivedBytes == 0 && now == 0) = true then xglTimeMs env io
    else (if (buffer.receivedBytes == 0) = true then now else buffer.firstFragmentTime, io))
    = stamp
  obtain ⟨parts, hfilled⟩ := hbuffer
  have hstored := hfilled.store stamp.1 hsub (hsize ▸ hpart) (hsize ▸ hfits) hinsert
  have hlater := hbuffers.mono hsub
  split
  · rename_i hfull
    have hwhole := hstored.complete (by simpa using hfull)
    refine .completed _ _ (fun other hother => ?_) ?_ hwhole
    · exact hlater other (List.mem_of_mem_eraseP hother)
    · rw [List.length_map, ← hsize]
      exact hstored.size
  · refine .waiting _ fun other hother => ?_
    rcases mem_putBuffer hother with rfl | hmem
    · exact ⟨_, hstored⟩
    · exact hlater other hmem

/-- Giving a fragment to the manager. -/
theorem xglFragmentProcessExt_taken {key : MessageKey} {dataType : UInt8} (now : UInt32)
    (hbuffers : BuffersFilled config accepts events manager.reassemblyList)
    (hsub : ∀ event ∈ events, event ∈ later)
    (hpart : PartOf config accepts later key part.ext.messageLen.toNat part) :
    let out := xglFragmentProcessExt env io manager key dataType part.ext.fragmentOffset
      part.ext.messageLen part.bytes now
    FragmentTaken config accepts events later key part.ext.messageLen.toNat out.1 out.2.1 := by
  simp only [xglFragmentProcessExt]
  split
  · exact .refused _ (by decide) _ hbuffers
  split
  · exact .refused _ (by decide) _ hbuffers
  rename_i hbad
  have hfits : part.ext.fragmentOffset.toNat + part.bytes.length
      ≤ part.ext.messageLen.toNat := by
    simp only [Bool.or_eq_true, decide_eq_true_eq, not_or, gt_iff_lt, UInt32.not_lt,
      UInt32.le_iff_toNat_le, Nat.not_lt] at hbad
    omega
  split
  · rename_i buffer hfind
    have hkey : buffer.key = key := by simpa using List.find?_some hfind
    rw [← hkey] at hpart ⊢
    exact fragmentStore_taken env io now hbuffers
      (hbuffers buffer (List.mem_of_find?_eq_some hfind)) hsub hpart hfits
  · rcases fragmentCreateReassemblyBuffer_cases env io manager key dataType
      part.ext.messageLen with ⟨err, io', herr, _, hcreate⟩ | ⟨io', _, hcreate⟩
    · rw [hcreate]
      exact .refused err herr _ hbuffers
    · rw [hcreate]
      have hfresh : ∃ parts, BufferFilled config accepts events
          (freshBuffer manager key dataType part.ext.messageLen) parts :=
        ⟨[], .fresh manager dataType part.ext.messageLen⟩
      refine fragmentStore_taken env io' now (fun other hother => ?_) hfresh hsub hpart hfits
      rcases List.mem_append.mp hother with hmem | hmem
      · exact hbuffers other hmem
      · rw [List.mem_singleton.mp hmem]
        exact hfresh

end Fragments

/-! ### The log -/

/-- What the callback is given is whole: the payload of one received packet without the
fragment flag, or a message put together from received fragments that were stored before. -/
def HandedWhole (config : TransportConfig) (received : Packet → Prop)
    (before : List TransportEvent) (data : Bytes) (origin : Packet) : Prop :=
  (origin.fragment = 0 ∧ received origin ∧ HandedBytes config origin data) ∨
    ∃ ext, deliveredFragmentExt origin.extensions = .ok ext ∧
      data.length = ext.messageLen.toNat ∧
      Reassembled config received before (fragmentKey origin ext) data

/-- Whatever the callback was given was whole. -/
def AllWhole (config : TransportConfig) (received : Packet → Prop) (events : List TransportEvent) :
    Prop :=
  ∀ before after sourceId dataType data origin,
    events = before ++ .rxCallback sourceId dataType data origin :: after →
    HandedWhole config received before data origin

/-- Whatever was handed over was whole, and what is collected comes from received fragments. A
node has a manager when fragmentation is enabled. -/
structure WholeLog (config : TransportConfig) (received : Packet → Prop)
    (manager : Option FragmentManager) (events : List TransportEvent) : Prop where
  present : manager.isSome = config.enableFragmentation
  whole : AllWhole config received events
  buffers : ∀ m, manager = some m → BuffersFilled config received events m.reassemblyList

section Log

variable {config : TransportConfig} {received : Packet → Prop} {events : List TransportEvent}

/-- One more event. -/
theorem AllWhole.append {event : TransportEvent} (h : AllWhole config received events)
    (hevent : ∀ sourceId dataType data origin, event = .rxCallback sourceId dataType data origin →
      HandedWhole config received events data origin) :
    AllWhole config received (events ++ [event]) := by
  intro before after sourceId dataType data origin heq
  rcases List.eq_nil_or_concat' after with rfl | ⟨front, last, rfl⟩
  · obtain ⟨hfront, hlast⟩ := List.append_inj' heq rfl
    rw [← hfront]
    exact hevent sourceId dataType data origin (List.singleton_inj.mp hlast)
  · rw [← List.cons_append, ← List.append_assoc] at heq
    obtain ⟨hfront, _⟩ := List.append_inj' heq rfl
    exact h before front sourceId dataType data origin hfront

/-- A delivery of a whole payload. -/
theorem AllWhole.emitRx {io : TransportIo} {packet : Packet} {data : Bytes}
    (h : AllWhole config received io.events)
    (hwhole : HandedWhole config received io.events data packet) :
    AllWhole config received (emitRx config io packet data).events := by
  simp only [XgenLink.emitRx]
  split
  · refine h.append fun sourceId dataType data' origin heq => ?_
    cases heq
    exact hwhole
  · exact h

/-- Deliveries keep the log whole, when a packet with the flag finds a manager. -/
theorem whole_rule (config : TransportConfig) (received : Packet → Prop) :
    DeliveryRule config
      (fun packet => received packet ∧ (packet.fragment ≠ 0 → config.enableFragmentation = true))
      (WholeLog config received) where
  other := by
    intro manager events event hnone h
    refine ⟨h.present, h.whole.append fun sourceId dataType data origin heq => ?_, ?_⟩
    · rw [heq] at hnone
      cases hnone
    · exact fun m hm => (h.buffers m hm).mono fun e he => List.mem_append_left _ he
  freed := by
    intro manager events test h
    refine ⟨h.present, h.whole, fun m hm buffer hbuffer => ?_⟩
    cases hm
    exact h.buffers manager rfl buffer (List.mem_of_mem_filter hbuffer)
  delivered := by
    intro manager io packet bytes env _ ⟨hreceived, hfragment⟩ hbytes h
    have hplain : packet.fragment = 0 → HandedWhole config received io.events bytes packet :=
      fun hzero => .inl ⟨hzero, hreceived, hbytes⟩
    have hgrown : ∀ e ∈ io.events, e ∈ (emitRx config io packet bytes).events :=
      fun e he => (emitRx_grows config io packet bytes).subset he
    -- with a manager the packet may be a fragment
    cases manager with
    | none =>
      -- there is no manager, so the packet has no flag
      have hzero : packet.fragment = 0 := by
        by_contra hne
        have hpresent := h.present
        rw [hfragment hne] at hpresent
        cases hpresent
      exact ⟨h.present, h.whole.emitRx (hplain hzero), fun m hm => by cases hm⟩
    | some manager =>
      simp only [transportDeliverPacket]
      by_cases hzero : packet.fragment = 0
      · rw [if_neg (by simp [hzero])]
        exact ⟨h.present, h.whole.emitRx (hplain hzero), fun m hm => (h.buffers m hm).mono hgrown⟩
      rw [if_pos (by simp [hzero])]
      simp only [transportDeliverFragment]
      cases hext : deliveredFragmentExt packet.extensions with
      | error err => exact h
      | ok ext =>
        have hpart : PartOf config received (io.events ++ [.fragmentStored packet])
            (fragmentKey packet ext) ext.messageLen.toNat
            { packet := packet, ext := ext, bytes := bytes } :=
          ⟨List.mem_append_right _ (List.mem_singleton_self _), hreceived, hzero, hext, rfl, rfl,
            hbytes⟩
        have htaken := @xglFragmentProcessExt_taken config received io.events _
          { packet := packet, ext := ext, bytes := bytes } env io manager _ packet.dataType 0
          (h.buffers manager rfl) (fun e he => List.mem_append_left _ he) hpart
        have hevents := xglFragmentProcessExt_events env io manager (fragmentKey packet ext)
          packet.dataType ext.fragmentOffset ext.messageLen bytes 0
        dsimp only at htaken ⊢
        generalize xglFragmentProcessExt env io manager (fragmentKey packet ext) packet.dataType
          ext.fragmentOffset ext.messageLen bytes 0 = processed at htaken hevents ⊢
        obtain ⟨result, manager', io'⟩ := processed
        dsimp only at htaken hevents ⊢
        have hstored : AllWhole config received (io'.emit (.fragmentStored packet)).events := by
          rw [TransportIo.emit_events, hevents]
          exact h.whole.append fun _ _ _ _ heq => by cases heq
        -- the fragment is refused, or stored, or it completes its message
        cases htaken with
        | refused err herr _ hbuffers =>
          have hsame : WholeLog config received (some manager') io'.events := by
            rw [hevents]
            exact ⟨h.present, h.whole, fun m hm => by cases hm; exact hbuffers⟩
          cases err with
          | ok => exact absurd rfl herr
          | _ => exact hsame
        | waiting _ hbuffers =>
          refine ⟨h.present, hstored, fun m hm => ?_⟩
          cases hm
          show BuffersFilled config received (io'.events ++ [_]) _
          rw [hevents]
          exact hbuffers
        | completed data _ hbuffers hlen hwhole =>
          have hmessage : HandedWhole config received
              (io'.emit (.fragmentStored packet)).events data packet := by
            rw [TransportIo.emit_events, hevents]
            exact .inr ⟨ext, hext, hlen, hwhole⟩
          refine ⟨h.present, hstored.emitRx hmessage, fun m hm => ?_⟩
          cases hm
          refine hbuffers.mono fun e he => ?_
          refine (emitRx_grows config (io'.emit (.fragmentStored packet)) packet data).subset ?_
          rw [TransportIo.emit_events, hevents]
          exact he

end Log

/-! ### Runs -/

/-- A packet that the transport receives, or a run of its timers. -/
inductive PacketAction where
  | receive (packet : Packet)
  | run (currentTimeMs : UInt32)

/-- One action. -/
def packetStep (env : TransportEnv) (ctx : TransportCtx) : PacketAction → TransportCtx
  | .receive packet => (xglTransportReceive env ctx packet).2
  | .run currentTimeMs => xglTransportRun env ctx currentTimeMs

/-- A data packet with the fragment flag finds a reassembly manager. -/
def FindsManager (ctx : TransportCtx) : PacketAction → Prop
  | .receive packet => TakenAsData ctx packet → packet.fragment ≠ 0 →
    ctx.config.enableFragmentation = true
  | .run _ => True

/-- A context has a manager when fragmentation is enabled, and that has no buffers. -/
theorem xglTransportInit_manager {config : TransportConfig} {ctx : TransportCtx}
    (hinit : xglTransportInit config = .ok ctx) :
    ctx.fragmentMgr.isSome = config.enableFragmentation ∧
      ∀ m, ctx.fragmentMgr = some m → m.reassemblyList = [] := by
  simp only [xglTransportInit] at hinit
  split at hinit
  · cases hinit
  cases hinit
  cases config.enableFragmentation with
  | false => exact ⟨rfl, fun m hm => by cases hm⟩
  | true =>
    refine ⟨rfl, fun m hm => ?_⟩
    cases hm
    rfl

/-- The application sees only whole messages. Whatever packets a transport receives and
whatever the allocator does, while every data packet with the fragment flag finds a manager:
each payload handed to the callback is that of one packet without the flag, or it is all of a
message, put together from fragments of its source, connection, epoch and message id. -/
theorem whole_messages (env : TransportEnv) (config : TransportConfig) (ctx : TransportCtx)
    (hinit : xglTransportInit config = .ok ctx) (actions : List PacketAction)
    (hfinds : Along (packetStep env) FindsManager actions ctx) :
    AllWhole config (fun packet => .receive packet ∈ actions)
      (actions.foldl (packetStep env) ctx).io.events := by
  have hfresh : Delivers config
      (fun packet => .receive packet ∈ actions ∧
        (packet.fragment ≠ 0 → config.enableFragmentation = true))
      (WholeLog config fun packet => .receive packet ∈ actions) ctx := by
    obtain ⟨hpeers, hevents, hconfig⟩ := xglTransportInit_fresh hinit
    refine ⟨hconfig, ?_, ?_⟩
    · rw [hpeers]
      exact fun peer hpeer => nomatch hpeer
    · obtain ⟨hpresent, hempty⟩ := xglTransportInit_manager hinit
      rw [hevents]
      refine ⟨hpresent, ?_, fun m hm buffer hbuffer => ?_⟩
      · intro before after _ _ _ _ heq
        exact absurd heq (by simp)
      · rw [hempty m hm] at hbuffer
        cases hbuffer
  have hrun := foldl_along _ ?_ actions ctx hfresh (hfinds.of_mem fun action haction => haction)
  · exact hrun.log.whole
  intro ctx action h ⟨hmem, hfind⟩
  cases action with
  | receive packet =>
    refine xglTransportReceive_delivers (whole_rule config _) (fun _ => trivial) h
      fun htaken => ⟨hmem, ?_⟩
    rw [← h.config_eq]
    exact hfind htaken
  | run now => exact xglTransportRun_delivers (whole_rule config _) h

/-- Two fragments, the second before the first, and a packet without the flag: what is handed
over is the message of two bytes and the payload. -/
theorem whole_messages_reordered :
    rxPayloads ([PacketAction.receive (sampleFragment 1 1 8), .receive (sampleFragment 0 0 7),
        .run 3, .receive (sampleData 2 [9])].foldl (packetStep calmEnv)
        fragmentTransport).io.events = [[7, 8], [9]] ∧
      AllWhole fragmentTransportConfig
        (fun packet => .receive packet ∈ [PacketAction.receive (sampleFragment 1 1 8),
          .receive (sampleFragment 0 0 7), .run 3, .receive (sampleData 2 [9])])
        ([PacketAction.receive (sampleFragment 1 1 8), .receive (sampleFragment 0 0 7), .run 3,
          .receive (sampleData 2 [9])].foldl (packetStep calmEnv) fragmentTransport).io.events := by
  refine ⟨by decide +kernel, whole_messages calmEnv fragmentTransportConfig fragmentTransport rfl _
    ⟨fun _ _ => rfl, fun _ _ => ?_, trivial, fun _ hflag => absurd rfl hflag, trivial⟩⟩
  decide +kernel

/-- A node without a manager receives one byte of a message of two, and hands it over. -/
theorem fragment_handed_over :
    xglTransportInit sampleTransportConfig = .ok sampleTransport ∧
      rxPayloads ([PacketAction.receive (sampleFragment 0 0 7)].foldl (packetStep calmEnv)
        sampleTransport).io.events = [[7]] ∧
      ¬ AllWhole sampleTransportConfig
        (fun packet => .receive packet ∈ [PacketAction.receive (sampleFragment 0 0 7)])
        ([PacketAction.receive (sampleFragment 0 0 7)].foldl (packetStep calmEnv)
          sampleTransport).io.events := by
  refine ⟨rfl, by decide +kernel, fun h => ?_⟩
  have hevents : ([PacketAction.receive (sampleFragment 0 0 7)].foldl (packetStep calmEnv)
      sampleTransport).io.events
      = [.layerSend (ackPacket sampleTransportConfig (sampleFragment 0 0 7).feedbackScope 0) .ok] ++
        .rxCallback 1 0 [7] (sampleFragment 0 0 7) :: [] := by
    decide +kernel
  rcases h _ _ _ _ _ _ hevents with ⟨hflag, _⟩ | ⟨ext, hext, hlen, _⟩
  · exact absurd hflag (by decide)
  · have hdecoded : deliveredFragmentExt (sampleFragment 0 0 7).extensions = .ok ⟨9, 0, 2⟩ := by
      decide +kernel
    rw [hdecoded] at hext
    cases hext
    exact absurd hlen (by decide)

end XgenLink
