import Mathlib.Data.List.Nodup
import Mathlib.Data.List.Perm.Basic
import XgenLink.Proofs.AckRangeRelease
import XgenLink.Proofs.FeedbackDecoding
import XgenLink.Proofs.QueueEntries
import XgenLink.Proofs.SenderCustody

/-!
# `XgenLink.Proofs.SackAgreement`: what a SACK makes the sender do

The receiver turns its out-of-order list into a bitmap above a base, and the sender walks
the bits up to the highest one that is set: a set bit takes the packet out of the queue, a
bit that is not set sends it again. Encoder and decoder agree: when the network takes every
packet and no two queued packets share a number, the sender removes what the receiver holds
and sends again what lies below it, once each.

The numbers have to be distinct for a reason. A lookup finds the newest packet with a number and a
target. When two peers of one target have a packet with the same number, the set bit takes out one
of them, and the other stays in the queue.

A receiver that holds nothing sends a bitmap without a bit, and asks for the packet of the base.

* `sackBitmap_bit_iff`: the bits are the numbers the receiver holds.
* `Reported`, `Missing`: what a SACK says about a number.
* `sackedQueue`, `sackHoles`: the queue after a walk, and the packets it sends again.
* `sackLoop_eq`: what the walk over bits leaves, for distinct numbers.
* `SackApplied`, `SackAsks`: a SACK with bits, and one without.
* `sack_agreement`: queue, window and packets sent after a SACK.
* `sack_shared_number`: a queue with one number twice.
-/

set_option autoImplicit false

namespace XgenLink

/-! ### The bitmap -/

/-- A mask that misses a union misses its parts. -/
theorem and_eq_zero_of_or_and {x y mask : UInt8} (h : (x ||| y) &&& mask = 0) :
    x &&& mask = 0 ∧ y &&& mask = 0 := by
  have hsplit : (x ||| y) &&& mask = (x &&& mask) ||| (y &&& mask) := by
    rw [← UInt8.toBitVec_inj]
    exact BitVec.eq_of_getLsbD_eq fun i _ => by simp [Bool.and_or_distrib_right]
  rw [hsplit] at h
  exact UInt8.or_eq_zero_iff.mp h

/-- The bits after setting one. -/
theorem transportSackBitIsSet_sackSetBit_iff {bitmap : Bytes} {d i : Nat}
    (hd : d / 8 < bitmap.length) :
    transportSackBitIsSet (sackSetBit bitmap d) i = true ↔
      i = d ∨ transportSackBitIsSet bitmap i = true := by
  refine ⟨transportSackBitIsSet_sackSetBit, fun h => ?_⟩
  simp only [transportSackBitIsSet, sackSetBit, bne_iff_ne] at h ⊢
  intro hzero
  by_cases hbyte : d / 8 = i / 8
  · rw [← hbyte, byteAt_set_self _ _ _ hd] at hzero
    rw [← hbyte] at h
    obtain ⟨holdZero, hnewZero⟩ := and_eq_zero_of_or_and hzero
    rcases h with rfl | hold
    · -- a single bit meets itself
      rw [UInt8.and_self] at hnewZero
      exact (by decide : ∀ j : Fin 8, (1 : UInt8) <<< UInt8.ofNat j.val ≠ 0)
        ⟨i % 8, Nat.mod_lt _ (by omega)⟩ hnewZero
    · exact hold holdZero
  · rw [byteAt_set_ne _ _ _ _ hbyte] at hzero
    rcases h with rfl | hold
    · exact hbyte rfl
    · exact hold hzero

/-- The bits of a SACK that is being built: eight bytes, and no bit above the highest one. -/
structure SackBits.Bounded (bits : SackBits) : Prop where
  length : bits.bitmap.length = 8
  below : ∀ i, transportSackBitIsSet bits.bitmap i = true → bits.hasReceived = true ∧
    i ≤ bits.highestBit

/-- The loop over the out-of-order list sets the bits of the numbers at most 63 above the
base. -/
theorem foldl_sackStep_bit_iff {base : UInt32} {buffered : List Packet} {bits : SackBits}
    (h : bits.Bounded) :
    (buffered.foldl (sackStep base) bits).Bounded ∧
      ∀ i, transportSackBitIsSet (buffered.foldl (sackStep base) bits).bitmap i = true ↔
        transportSackBitIsSet bits.bitmap i = true ∨
          ∃ b ∈ buffered, base ≤ b.packetNumber ∧ (b.packetNumber - base).toNat = i ∧ i < 64 := by
  induction buffered generalizing bits with
  | nil => exact ⟨h, fun i => by simp⟩
  | cons first rest ih =>
    -- what the first packet does
    have hfirst : (sackStep base bits first).Bounded ∧
        ∀ i, transportSackBitIsSet (sackStep base bits first).bitmap i = true ↔
          transportSackBitIsSet bits.bitmap i = true ∨
            base ≤ first.packetNumber ∧ (first.packetNumber - base).toNat = i ∧ i < 64 := by
      simp only [sackStep]
      split
      · rename_i hlow
        exact ⟨h, fun i => ⟨.inl, fun hi => hi.resolve_right fun hin =>
          UInt32.not_lt.mpr hin.1 hlow⟩⟩
      rename_i hlow
      split
      · rename_i hfar
        exact ⟨h, fun i => ⟨.inl, fun hi => hi.resolve_right fun hin => by omega⟩⟩
      rename_i hnear
      have hset := fun i => @transportSackBitIsSet_sackSetBit_iff bits.bitmap
        (first.packetNumber - base).toNat i (by rw [h.length]; omega)
      refine ⟨⟨?_, fun i hi => ⟨rfl, ?_⟩⟩, fun i => ?_⟩
      · rw [sackSetBit, List.length_set, h.length]
      · dsimp only
        -- a bit that was set before, or that of this packet
        rcases (hset i).mp hi with rfl | hold
        · split <;> omega
        · have := (h.below i hold).2
          split <;> omega
      · rw [hset i]
        refine ⟨fun hi => hi.symm.imp_right fun heq => ?_, fun hi => hi.symm.imp_left fun hin => ?_⟩
        · exact ⟨UInt32.not_lt.mp hlow, heq.symm, by omega⟩
        · exact hin.2.1.symm
    obtain ⟨hbounded, hbits⟩ := ih hfirst.1
    refine ⟨hbounded, fun i => ?_⟩
    rw [List.foldl_cons, hbits i, hfirst.2 i]
    simp only [List.mem_cons, exists_eq_or_imp, or_assoc]

/-- The number is held by the receiver and the bitmap of the base has a bit for it. -/
def Reported (buffered : List Packet) (base n : UInt32) : Prop :=
  (∃ b ∈ buffered, b.packetNumber = n) ∧ base.toNat ≤ n.toNat ∧ n.toNat < base.toNat + 64

/-- The receiver does not hold the number but holds a higher one that the bitmap reports. -/
def Missing (buffered : List Packet) (base n : UInt32) : Prop :=
  base.toNat ≤ n.toNat ∧ ¬ (∃ b ∈ buffered, b.packetNumber = n) ∧
    ∃ b ∈ buffered, Reported buffered base b.packetNumber ∧ n.toNat < b.packetNumber.toNat

/-- Whether a number is reported can be computed. -/
instance (buffered : List Packet) (base n : UInt32) : Decidable (Reported buffered base n) :=
  inferInstanceAs (Decidable (_ ∧ _))

/-- So can whether it is missing. -/
instance (buffered : List Packet) (base n : UInt32) : Decidable (Missing buffered base n) :=
  inferInstanceAs (Decidable (_ ∧ _))

section Bitmap

variable {buffered : List Packet} {base : UInt32}

/-- The bits that are sent are the numbers the receiver holds. -/
theorem sackBitmap_bit_iff (i : Nat) :
    transportSackBitIsSet (sackBitmap buffered base) i = true ↔
      ∃ b ∈ buffered, base ≤ b.packetNumber ∧ (b.packetNumber - base).toNat = i ∧ i < 64 := by
  have hempty : ∀ i, transportSackBitIsSet ({} : SackBits).bitmap i = false := by
    intro i
    have hzero : byteAt ({} : SackBits).bitmap (i / 8) = 0 := by
      rw [byteAt, List.getD_eq_getElem?_getD, List.getElem?_replicate]
      split <;> rfl
    rw [transportSackBitIsSet, hzero, UInt8.zero_and]
    rfl
  have hstart : ({} : SackBits).Bounded :=
    ⟨rfl, fun i hi => by rw [hempty i] at hi; cases hi⟩
  obtain ⟨hbounded, hbits⟩ := @foldl_sackStep_bit_iff base buffered {} hstart
  rw [sackBitmap]
  simp only [hempty, Bool.false_eq_true, false_or] at hbits
  rw [← hbits i]
  -- the bytes cut off have no bit
  generalize buffered.foldl (sackStep base) {} = bits at hbounded ⊢
  constructor
  · intro hset
    simp only [transportSackBitIsSet] at hset ⊢
    rcases Nat.lt_or_ge (i / 8) (if bits.hasReceived then bits.highestBit / 8 + 1 else 1) with
      hin | hout
    · rwa [byteAt_take _ _ _ hin] at hset
    · have hzero : byteAt (bits.bitmap.take (if bits.hasReceived then bits.highestBit / 8 + 1
          else 1)) (i / 8) = 0 := by
        rw [byteAt, List.getD_eq_getElem?_getD,
          List.getElem?_eq_none (by rw [List.length_take]; omega)]
        rfl
      rw [hzero, UInt8.zero_and] at hset
      cases hset
  · intro hset
    obtain ⟨hreceived, hle⟩ := hbounded.below i hset
    rw [hreceived, if_pos rfl]
    simp only [transportSackBitIsSet] at hset ⊢
    rwa [byteAt_take _ _ _ (by omega)]

/-- The bit of a number. -/
theorem sackBitmap_reported {i : Nat} (hbase : base.toNat + 64 ≤ 2 ^ 32) (hi : i < 64) :
    transportSackBitIsSet (sackBitmap buffered base) i = true ↔
      Reported buffered base (base + UInt32.ofNat i) := by
  have hto : (base + UInt32.ofNat i).toNat = base.toNat + i := by
    rw [UInt32.toNat_add, UInt32.toNat_ofNat']
    omega
  rw [sackBitmap_bit_iff, Reported, hto]
  constructor
  · rintro ⟨b, hb, hle, hdiff, _⟩
    refine ⟨⟨b, hb, ?_⟩, by omega, by omega⟩
    rw [← hdiff, UInt32.ofNat_toNat, UInt32.add_comm, UInt32.sub_add_cancel]
  · rintro ⟨⟨b, hb, hn⟩, _⟩
    have hle : base ≤ b.packetNumber := UInt32.le_iff_toNat_le.mpr (by rw [hn, hto]; omega)
    refine ⟨b, hb, hle, ?_, hi⟩
    rw [UInt32.toNat_sub_of_le _ _ hle, hn, hto]
    omega

end Bitmap

/-! ### The walk over the bits -/

/-- Updating the first hit is mapping when there is no other one. -/
theorem updateFirst_eq_map {test : ReliablePacket → Bool} {update : ReliablePacket → ReliablePacket}
    {packets : List ReliablePacket} {found : ReliablePacket}
    (h : packets.Pairwise fun a b => test a = true → test b = false)
    (hfind : packets.find? test = some found) :
    updateFirst test (fun _ => update found) packets
      = packets.map fun packet => if test packet then update packet else packet := by
  induction packets with
  | nil => cases hfind
  | cons first rest ih =>
    obtain ⟨hfirst, hrest⟩ := List.pairwise_cons.mp h
    rw [List.find?_cons] at hfind
    rw [updateFirst, List.map_cons]
    split at hfind
    · rename_i htest
      cases hfind
      rw [if_pos htest, if_pos htest]
      -- the rest of the list passes the test nowhere
      refine congrArg _ ((List.map_id rest).symm.trans (List.map_congr_left fun b hb => ?_))
      rw [hfirst b hb htest, if_neg Bool.false_ne_true]
      rfl
    · rename_i htest
      rw [if_neg (by simp [htest]), if_neg (by simp [htest]), ih hrest hfind]

/-- Writing to the packet with a number, when no other packet has it. -/
theorem reliableUpdate_eq_map {queue : ReliableQueue} {n : UInt32} {targetId : UInt16}
    {found : ReliablePacket} (update : ReliablePacket → ReliablePacket)
    (h : NumbersDistinct targetId queue.waitAckList)
    (hfind : xglReliableFindPacketNumber queue n targetId = some found) :
    reliableUpdate queue n targetId (fun _ => update found)
      = { queue with
          waitAckList := queue.waitAckList.map fun packet =>
            if packet.isFor n targetId then update packet else packet } := by
  rw [reliableUpdate, updateFirst_eq_map (h.single n) hfind, List.map_reverse,
    List.reverse_reverse]

/-- A lookup that finds nothing. -/
theorem not_isFor_of_find_none {queue : ReliableQueue} {n : UInt32} {targetId : UInt16}
    (hfind : xglReliableFindPacketNumber queue n targetId = none) {packet : ReliablePacket}
    (hmem : packet ∈ queue.waitAckList) : packet.isFor n targetId = false := by
  have := List.find?_eq_none.mp hfind packet (List.mem_reverse.mpr hmem)
  simpa using this

/-- Packets of a target with the same number are the same. -/
theorem NumbersDistinct.eq_of_isFor {targetId : UInt16} {packets : List ReliablePacket}
    (h : NumbersDistinct targetId packets) {a b : ReliablePacket} {n : UInt32} (ha : a ∈ packets)
    (hb : b ∈ packets) (hfa : a.isFor n targetId = true) (hfb : b.isFor n targetId = true) :
    a = b := by
  simp only [ReliablePacket.isFor, Bool.and_eq_true, beq_iff_eq] at hfa hfb
  refine List.inj_on_of_nodup_map h ?_ ?_ (hfa.1.trans hfb.1.symm)
  · exact List.mem_filter.mpr ⟨ha, beq_iff_eq.mpr hfa.2⟩
  · exact List.mem_filter.mpr ⟨hb, beq_iff_eq.mpr hfb.2⟩

section Walk

variable (env : TransportEnv) (config : TransportConfig) (sourceId : UInt16)
  (basePacket now : UInt32) (bitmap : Bytes)

/-- A bit of the walk has this value and the number of the packet. -/
def bitNames (value : Bool) (indices : List Nat) (packet : ReliablePacket) : Bool :=
  packet.targetId == sourceId && indices.any fun i =>
    transportSackBitIsSet bitmap i == value && packet.packetNumber == basePacket + UInt32.ofNat i

/-- A packet after a walk that does not take it out. -/
def sackMark (indices : List Nat) (packet : ReliablePacket) : ReliablePacket :=
  if bitNames sourceId basePacket bitmap false indices packet then markRetransmitted now packet
  else packet

/-- The queue after a walk: packets of set bits are gone, packets of other bits were sent
again. -/
def sackedQueue (indices : List Nat) (packets : List ReliablePacket) : List ReliablePacket :=
  (packets.filter fun packet => !bitNames sourceId basePacket bitmap true indices packet).map
    (sackMark sourceId basePacket now bitmap indices)

/-- The packets a walk sends again, in order. -/
def sackHoles (indices : List Nat) (queue : ReliableQueue) : List ReliablePacket :=
  indices.filterMap fun i =>
    if transportSackBitIsSet bitmap i then none
    else xglReliableFindPacketNumber queue (basePacket + UInt32.ofNat i) sourceId

/-- What the log says about a packet sent again. -/
def sentAgain (packet : ReliablePacket) : TransportEvent :=
  .layerSend (retransmitPacket packet) .ok

/-- The lower layers take every packet. -/
structure NetworkTakesAll : Prop where
  lowerLayer : config.lowerLayer = true
  layerSend : ∀ k packet, env.layerSend k packet = .ok

variable {env config sourceId basePacket now bitmap}

/-- A retransmission that goes out. -/
theorem transportRetransmitReliablePacket_sent (hnet : NetworkTakesAll env config)
    (io : TransportIo) (packet : ReliablePacket) :
    ∃ io', io'.events = io.events ++ [sentAgain packet] ∧
      transportRetransmitReliablePacket env config io packet now
        = (.ok, io', markRetransmitted now packet) := by
  refine ⟨(transportLowerSend env config io (retransmitPacket packet)).2, ?_, ?_⟩
  · rw [transportLowerSend, if_pos hnet.lowerLayer, xglLayerSend_events, xglLayerSend,
      hnet.layerSend]
    rfl
  · have hok : (transportLowerSend env config io (retransmitPacket packet)).1 = .ok := by
      rw [transportLowerSend, if_pos hnet.lowerLayer, xglLayerSend, hnet.layerSend]
    rw [transportRetransmitReliablePacket, hok]

/-- Number and target of a packet stay. -/
theorem isFor_sackMark (indices : List Nat) (packet : ReliablePacket) (n : UInt32) :
    (sackMark sourceId basePacket now bitmap indices packet).isFor n sourceId
      = packet.isFor n sourceId := by
  rw [sackMark]
  split <;> rfl

/-- A walk leaves packets that later bits name as it names them. -/
theorem bitNames_sackMark (value : Bool) (indices others : List Nat) (packet : ReliablePacket) :
    bitNames sourceId basePacket bitmap value others
        (sackMark sourceId basePacket now bitmap indices packet)
      = bitNames sourceId basePacket bitmap value others packet := by
  rw [sackMark]
  split <;> rfl

/-- A walk names what its first bit names and what the others do. -/
theorem bitNames_cons (value : Bool) (i : Nat) (rest : List Nat) (packet : ReliablePacket) :
    bitNames sourceId basePacket bitmap value (i :: rest) packet
      = (bitNames sourceId basePacket bitmap value [i] packet ||
          bitNames sourceId basePacket bitmap value rest packet) := by
  rw [bitNames, bitNames, bitNames, List.any_cons, List.any_cons, List.any_nil, Bool.or_false,
    Bool.and_or_distrib_left]

/-- One bit names the packet with its number. -/
theorem bitNames_single (value : Bool) (i : Nat) (packet : ReliablePacket) :
    bitNames sourceId basePacket bitmap value [i] packet
      = (transportSackBitIsSet bitmap i == value &&
          packet.isFor (basePacket + UInt32.ofNat i) sourceId) := by
  rw [bitNames, List.any_cons, List.any_nil, Bool.or_false, ReliablePacket.isFor]
  cases packet.targetId == sourceId <;> simp

/-- A number that the walk does not come to is not named. -/
theorem bitNames_eq_false {n : UInt32} {rest : List Nat} {packet : ReliablePacket} (value : Bool)
    (hfresh : n ∉ rest.map fun i => basePacket + UInt32.ofNat i)
    (hfor : packet.isFor n sourceId = true) :
    bitNames sourceId basePacket bitmap value rest packet = false := by
  rw [Bool.eq_false_iff]
  intro hnames
  simp only [bitNames, Bool.and_eq_true, List.any_eq_true, beq_iff_eq] at hnames
  obtain ⟨_, i, hi, _, hn⟩ := hnames
  rw [ReliablePacket.packetNumber_of_isFor hfor] at hn
  exact hfresh (List.mem_map.mpr ⟨i, hi, hn.symm⟩)

/-- A walk over bits is a walk over the first one and then over the others. -/
theorem sackedQueue_cons {i : Nat} {rest : List Nat} (packets : List ReliablePacket)
    (hfresh : basePacket + UInt32.ofNat i ∉ rest.map fun i => basePacket + UInt32.ofNat i) :
    sackedQueue sourceId basePacket now bitmap rest
        (sackedQueue sourceId basePacket now bitmap [i] packets)
      = sackedQueue sourceId basePacket now bitmap (i :: rest) packets := by
  have hmark : ∀ packet, sackMark sourceId basePacket now bitmap rest
      (sackMark sourceId basePacket now bitmap [i] packet)
        = sackMark sourceId basePacket now bitmap (i :: rest) packet := by
    intro packet
    cases hfirst : bitNames sourceId basePacket bitmap false [i] packet with
    | false =>
      have hsame : sackMark sourceId basePacket now bitmap [i] packet = packet := by
        rw [sackMark, hfirst, if_neg Bool.false_ne_true]
      rw [hsame, sackMark, sackMark, bitNames_cons false i rest, hfirst, Bool.false_or]
    | true =>
      -- the packet was sent again for the first bit, and no other bit has its number
      have hfor : packet.isFor (basePacket + UInt32.ofNat i) sourceId = true := by
        rw [bitNames_single, Bool.and_eq_true] at hfirst
        exact hfirst.2
      have hother : bitNames sourceId basePacket bitmap false rest packet = false :=
        bitNames_eq_false false hfresh hfor
      rw [sackMark, bitNames_sackMark, hother, if_neg Bool.false_ne_true, sackMark, sackMark,
        bitNames_cons false i rest, hfirst, Bool.true_or]
  rw [sackedQueue, sackedQueue, sackedQueue, List.filter_map, List.map_map, List.filter_filter]
  refine (List.map_congr_left fun packet _ => hmark packet).trans ?_
  refine congrArg (List.map _) (List.filter_congr fun packet _ => ?_)
  rw [Function.comp_apply, bitNames_sackMark, bitNames_cons true i rest, Bool.not_or,
    Bool.and_comm]

/-- Packets with other numbers are found as before. -/
theorem find_sackedQueue {i : Nat} {n : UInt32} {queue : ReliableQueue}
    (hne : n ≠ basePacket + UInt32.ofNat i) :
    xglReliableFindPacketNumber
        { queue with
          waitAckList := sackedQueue sourceId basePacket now bitmap [i] queue.waitAckList }
        n sourceId
      = xglReliableFindPacketNumber queue n sourceId := by
  have hother : ∀ (value : Bool) (packet : ReliablePacket), packet.isFor n sourceId = true →
      bitNames sourceId basePacket bitmap value [i] packet = false := fun value packet hfor =>
    bitNames_eq_false value (by simpa using hne) hfor
  rw [xglReliableFindPacketNumber, xglReliableFindPacketNumber, sackedQueue, ← List.map_reverse,
    ← List.filter_reverse, List.find?_map, List.find?_filter]
  have htest : ∀ packet : ReliablePacket, (!bitNames sourceId basePacket bitmap true [i] packet &&
      ((fun packet => packet.isFor n sourceId) ∘ sackMark sourceId basePacket now bitmap [i])
        packet)
        = packet.isFor n sourceId := by
    intro packet
    rw [Function.comp_apply, isFor_sackMark]
    cases hfor : packet.isFor n sourceId with
    | false => exact Bool.and_false _
    | true => rw [hother true packet hfor, Bool.not_false, Bool.and_true]
  simp only [← Bool.and_eq_true, Bool.decide_eq_true, htest]
  cases hfind : queue.waitAckList.reverse.find? fun packet => packet.isFor n sourceId with
  | none => rfl
  | some packet =>
    rw [Option.map_some, sackMark, hother false packet (by simpa using List.find?_some hfind),
      if_neg Bool.false_ne_true]

/-- The walk keeps the numbers distinct. -/
theorem NumbersDistinct.sackedQueue {packets : List ReliablePacket} (indices : List Nat)
    (h : NumbersDistinct sourceId packets) :
    NumbersDistinct sourceId (sackedQueue sourceId basePacket now bitmap indices packets) := by
  have hkept := h.filter fun packet => !bitNames sourceId basePacket bitmap true indices packet
  rw [NumbersDistinct] at hkept ⊢
  rw [XgenLink.sackedQueue, List.filter_map, List.map_map]
  have htarget : ((fun packet : ReliablePacket => packet.targetId == sourceId) ∘
      sackMark sourceId basePacket now bitmap indices)
        = fun packet => packet.targetId == sourceId := by
    funext packet
    rw [Function.comp_apply, sackMark]
    split <;> rfl
  have hnumber : (ReliablePacket.packetNumber ∘ sackMark sourceId basePacket now bitmap indices)
      = ReliablePacket.packetNumber := by
    funext packet
    rw [Function.comp_apply, sackMark]
    split <;> rfl
  rw [htarget, hnumber]
  exact hkept

/-- One bit, when the network takes the packet. -/
theorem sackBitStep_eq (hnet : NetworkTakesAll env config) (state : SackState) (i : Nat)
    (hdistinct : NumbersDistinct sourceId state.queue.waitAckList) :
    ∃ next, sackBitStep env config sourceId basePacket now bitmap state i = (.ok, next) ∧
      next.queue = { state.queue with
        waitAckList := sackedQueue sourceId basePacket now bitmap [i] state.queue.waitAckList } ∧
      next.io.events = state.io.events
        ++ (sackHoles sourceId basePacket bitmap [i] state.queue).map sentAgain := by
  have hnames := fun value => @bitNames_single sourceId basePacket bitmap value i
  rw [sackBitStep, sackHoles, List.filterMap_cons, List.filterMap_nil]
  dsimp only
  -- the bit is set: the packet is taken out
  cases hset : transportSackBitIsSet bitmap i with
  | true =>
    -- nothing is sent, and the packet with the number is gone
    have hqueue : { state.queue with
        waitAckList := sackedQueue sourceId basePacket now bitmap [i] state.queue.waitAckList }
          = (xglReliableRemovePacketNumber state.queue (basePacket + UInt32.ofNat i)
            sourceId).2 := by
      rw [xglReliableRemovePacketNumber, reliableUnlink_eq_filter hdistinct, sackedQueue]
      have hmark : sackMark sourceId basePacket now bitmap [i] = id := by
        funext packet
        rw [sackMark, hnames, hset]
        rfl
      simp only [hmark, List.map_id, hnames, hset, beq_self_eq_true, Bool.true_and]
    rw [hqueue, if_pos rfl]
    simp only [if_true, List.map_nil, List.append_nil]
    split
    · rename_i hfind
      refine ⟨state, rfl, ?_, rfl⟩
      rw [xglReliableRemovePacketNumber, reliableUnlink_of_find_none hfind]
    · exact ⟨_, rfl, rfl, rfl⟩
  | false =>
    have hkeep : (state.queue.waitAckList.filter fun packet =>
        !bitNames sourceId basePacket bitmap true [i] packet) = state.queue.waitAckList :=
      List.filter_eq_self.mpr fun packet _ => by
        rw [hnames, hset]
        rfl
    have hmark : ∀ packet, sackMark sourceId basePacket now bitmap [i] packet
        = if packet.isFor (basePacket + UInt32.ofNat i) sourceId then markRetransmitted now packet
          else packet := by
      intro packet
      rw [sackMark, hnames, hset, beq_self_eq_true, Bool.true_and]
    rw [if_neg Bool.false_ne_true, sackRetransmit, sackedQueue, hkeep]
    simp only [Bool.false_eq_true, if_false]
    -- the bit is clear: the packet is sent again, when it is queued
    cases hfind : xglReliableFindPacketNumber state.queue (basePacket + UInt32.ofNat i)
        sourceId with
    | none =>
      refine ⟨state, rfl, ?_, by simp⟩
      have hsame : state.queue.waitAckList.map (sackMark sourceId basePacket now bitmap [i])
          = state.queue.waitAckList := by
        refine (List.map_congr_left fun packet hmem => ?_).trans (List.map_id _)
        rw [hmark, not_isFor_of_find_none hfind hmem, if_neg Bool.false_ne_true]
        rfl
      rw [hsame]
    | some missing =>
      obtain ⟨io, hevents, hsent⟩ := @transportRetransmitReliablePacket_sent env config now hnet
        state.io missing
      simp only [hsent]
      refine ⟨_, rfl, ?_, hevents⟩
      rw [reliableUpdate_eq_map (markRetransmitted now) hdistinct hfind]
      refine congrArg (fun list => { state.queue with waitAckList := list })
        (List.map_congr_left fun packet _ => (hmark packet).symm)

/-- The walk over bits with distinct numbers, when the network takes every packet: the
packets of set bits leave the queue, and those of the others go out again. -/
theorem sackLoop_eq (hnet : NetworkTakesAll env config) (indices : List Nat) (state : SackState)
    (hnumbers : (indices.map fun i => basePacket + UInt32.ofNat i).Nodup)
    (hdistinct : NumbersDistinct sourceId state.queue.waitAckList) :
    let out := sackLoop env config sourceId basePacket now bitmap indices state
    out.1 = .ok ∧
      out.2.queue = { state.queue with
        waitAckList :=
          sackedQueue sourceId basePacket now bitmap indices state.queue.waitAckList } ∧
      out.2.io.events = state.io.events
        ++ (sackHoles sourceId basePacket bitmap indices state.queue).map sentAgain := by
  -- the induction is on the bits to come, for every state of the sender
  induction indices generalizing state with
  | nil =>
    refine ⟨rfl, ?_, (List.append_nil _).symm⟩
    have hsame : sackedQueue sourceId basePacket now bitmap [] state.queue.waitAckList
        = state.queue.waitAckList := by
      have hmark : sackMark sourceId basePacket now bitmap [] = id := by
        funext packet
        simp [sackMark, bitNames]
      rw [sackedQueue, hmark, List.map_id]
      exact List.filter_eq_self.mpr fun packet _ => by simp [bitNames]
    rw [hsame]
    rfl
  | cons i rest ih =>
    rw [List.map_cons, List.nodup_cons] at hnumbers
    obtain ⟨next, hstep, hqueue, hevents⟩ := @sackBitStep_eq env config sourceId basePacket now
      bitmap hnet state i hdistinct
    have hnext : NumbersDistinct sourceId next.queue.waitAckList := by
      rw [hqueue]
      exact hdistinct.sackedQueue [i]
    obtain ⟨hok, hrest, hsent⟩ := ih next hnumbers.2 hnext
    have hholes : sackHoles sourceId basePacket bitmap rest next.queue
        = sackHoles sourceId basePacket bitmap rest state.queue := by
      rw [sackHoles, sackHoles, hqueue]
      refine List.filterMap_congr fun j hj => ?_
      rw [find_sackedQueue]
      exact fun heq => hnumbers.1 (List.mem_map.mpr ⟨j, hj, heq⟩)
    simp only [sackLoop, hstep]
    refine ⟨hok, ?_, ?_⟩
    · rw [hrest, hqueue, sackedQueue_cons _ hnumbers.1]
    · rw [hsent, hevents, hholes, List.append_assoc, ← List.map_append]
      refine congrArg (fun sent => state.io.events ++ List.map sentAgain sent) ?_
      rw [sackHoles, sackHoles, sackHoles, ← List.filterMap_append]
      rfl

end Walk

/-! ### SACK packets -/

/-- The walk goes up to the highest bit that is set. -/
theorem mem_sackIndices_iff {bitmap : Bytes} {i : Nat} :
    i ∈ sackIndices bitmap ↔
      ∃ j, i ≤ j ∧ j < bitmap.length * 8 ∧ transportSackBitIsSet bitmap j = true := by
  have hmem : ∀ j, j ∈ (List.range (bitmap.length * 8)).filter (transportSackBitIsSet bitmap) ↔
      j < bitmap.length * 8 ∧ transportSackBitIsSet bitmap j = true := fun j => by
    rw [List.mem_filter, List.mem_range]
  have hsorted : ((List.range (bitmap.length * 8)).filter
      (transportSackBitIsSet bitmap)).Pairwise (· < ·) := List.pairwise_lt_range.filter _
  rw [sackIndices]
  generalize (List.range (bitmap.length * 8)).filter (transportSackBitIsSet bitmap) = set at *
  rw [List.mem_range]
  rcases List.eq_nil_or_concat' set with rfl | ⟨front, last, rfl⟩
  · simp only [List.getLast?_nil, Option.elim_none, Nat.not_lt_zero, false_iff]
    rintro ⟨j, _, hj⟩
    exact absurd ((hmem j).mpr hj) List.not_mem_nil
  · rw [List.getLast?_concat, Option.elim_some]
    constructor
    · intro hi
      exact ⟨last, by omega, (hmem last).mp (List.mem_append_right _ List.mem_cons_self)⟩
    · rintro ⟨j, hij, hj⟩
      rcases List.mem_append.mp ((hmem j).mpr hj) with hfront | hlast
      · have := (List.pairwise_append.mp hsorted).2.2 j hfront last List.mem_cons_self
        omega
      · have := List.mem_singleton.mp hlast
        omega

section Sack

variable {buffered : List Packet} {base : UInt32} {sourceId : UInt16}

/-- The bitmap that is sent has at least one byte. -/
theorem length_sackBitmap_pos (buffered : List Packet) (base : UInt32) :
    0 < (sackBitmap buffered base).length := by
  have hlength := length_foldl_sackStep base buffered {}
  rw [sackBitmap, List.length_take, hlength]
  show 0 < min _ 8
  split <;> omega

/-- The bits of the bitmap that is sent lie in it. -/
theorem lt_length_of_bit {i : Nat}
    (h : transportSackBitIsSet (sackBitmap buffered base) i = true) :
    i < (sackBitmap buffered base).length * 8 := by
  by_contra hout
  have hzero : byteAt (sackBitmap buffered base) (i / 8) = 0 := by
    rw [byteAt, List.getD_eq_getElem?_getD, List.getElem?_eq_none (by omega)]
    rfl
  rw [transportSackBitIsSet, hzero, UInt8.zero_and] at h
  cases h

/-- The indices of the walk stay below 64. -/
theorem lt_of_mem_sackIndices_sackBitmap {i : Nat}
    (h : i ∈ sackIndices (sackBitmap buffered base)) : i < 64 := by
  have hlength := length_sackBitmap_le buffered base
  have := lt_of_mem_sackIndices h
  omega

/-- The number of an index. -/
theorem toNat_base_add {i : Nat} (hbase : base.toNat + 64 ≤ 2 ^ 32) (hi : i < 64) :
    (base + UInt32.ofNat i).toNat = base.toNat + i := by
  rw [UInt32.toNat_add, UInt32.toNat_ofNat']
  omega

/-- A number that is reported has its bit on the walk. -/
theorem reported_index {n : UInt32} (hbase : base.toNat + 64 ≤ 2 ^ 32)
    (h : Reported buffered base n) :
    ∃ i ∈ sackIndices (sackBitmap buffered base),
      transportSackBitIsSet (sackBitmap buffered base) i = true ∧ n = base + UInt32.ofNat i := by
  have hlow := h.2.1
  have hhigh := h.2.2
  have hn : n = base + UInt32.ofNat (n.toNat - base.toNat) := by
    rw [← UInt32.toNat_inj, toNat_base_add hbase (by omega)]
    omega
  have hset : transportSackBitIsSet (sackBitmap buffered base) (n.toNat - base.toNat) = true := by
    rw [sackBitmap_reported hbase (by omega), ← hn]
    exact h
  exact ⟨_, mem_sackIndices_iff.mpr ⟨_, Nat.le_refl _, lt_length_of_bit hset, hset⟩, hset, hn⟩

/-- The set bits name the packets that are reported. -/
theorem bitNames_true_iff (hbase : base.toNat + 64 ≤ 2 ^ 32) (packet : ReliablePacket) :
    bitNames sourceId base (sackBitmap buffered base) true
        (sackIndices (sackBitmap buffered base)) packet = true ↔
      packet.targetId = sourceId ∧ Reported buffered base packet.packetNumber := by
  simp only [bitNames, Bool.and_eq_true, beq_iff_eq, List.any_eq_true]
  refine and_congr_right fun _ => ⟨?_, fun hreported => ?_⟩
  · rintro ⟨i, hi, hset, hn⟩
    rw [hn, ← sackBitmap_reported hbase (lt_of_mem_sackIndices_sackBitmap hi)]
    exact hset
  · exact reported_index hbase hreported

/-- The other bits name the packets that are missing. -/
theorem bitNames_false_iff (hbase : base.toNat + 64 ≤ 2 ^ 32) (packet : ReliablePacket) :
    bitNames sourceId base (sackBitmap buffered base) false
        (sackIndices (sackBitmap buffered base)) packet = true ↔
      packet.targetId = sourceId ∧ Missing buffered base packet.packetNumber := by
  simp only [bitNames, Bool.and_eq_true, beq_iff_eq, List.any_eq_true]
  refine and_congr_right fun _ => ⟨?_, ?_⟩
  · rintro ⟨i, hi, hunset, hn⟩
    have hlt := lt_of_mem_sackIndices_sackBitmap hi
    obtain ⟨j, hij, hj, hset⟩ := mem_sackIndices_iff.mp hi
    have hjlt : j < 64 := by
      have := length_sackBitmap_le buffered base
      omega
    have hreported := (sackBitmap_reported hbase hjlt).mp hset
    have hto := toNat_base_add hbase hlt
    have htoj := toNat_base_add hbase hjlt
    have hne : i ≠ j := by
      rintro rfl
      rw [hset] at hunset
      cases hunset
    obtain ⟨b, hb, hbn⟩ := hreported.1
    refine ⟨by rw [hn, hto]; omega, fun hheld => ?_, b, hb, hbn ▸ hreported, ?_⟩
    · rw [hn] at hheld
      have hset' := (sackBitmap_reported hbase hlt).mpr ⟨hheld, by omega, by omega⟩
      rw [hset'] at hunset
      cases hunset
    · rw [hn, hto, hbn, htoj]
      omega
  · rintro ⟨hlow, hnot, b, hb, hreported, hlt⟩
    obtain ⟨j, hj, hset, hm⟩ := reported_index hbase hreported
    have hjlt := lt_of_mem_sackIndices_sackBitmap hj
    rw [hm, toNat_base_add hbase hjlt] at hlt
    have hn : packet.packetNumber
        = base + UInt32.ofNat (packet.packetNumber.toNat - base.toNat) := by
      rw [← UInt32.toNat_inj, toNat_base_add hbase (by omega)]
      omega
    refine ⟨_, mem_sackIndices_iff.mpr ⟨_, ?_, lt_length_of_bit hset, hset⟩, ?_, hn⟩
    · omega
    · rw [Bool.eq_false_iff]
      intro hset'
      rw [sackBitmap_reported hbase (by omega), ← hn] at hset'
      exact hnot hset'.1

/-- The packets sent again are the missing ones, each once. -/
theorem sackHoles_perm {queue : ReliableQueue} {bitmap : Bytes} {indices : List Nat}
    (hnumbers : (indices.map fun i => base + UInt32.ofNat i).Nodup)
    (hdistinct : NumbersDistinct sourceId queue.waitAckList) :
    (sackHoles sourceId base bitmap indices queue).Perm
      (queue.waitAckList.filter (bitNames sourceId base bitmap false indices)) := by
  have honly : ∀ {n : UInt32} {packet : ReliablePacket}, packet ∈ queue.waitAckList →
      packet.isFor n sourceId = true →
        xglReliableFindPacketNumber queue n sourceId = some packet := by
    intro n packet hmem hfor
    -- the number is queued, or it is not
    cases hfind : xglReliableFindPacketNumber queue n sourceId with
    | none =>
      rw [not_isFor_of_find_none hfind hmem] at hfor
      cases hfor
    | some found =>
      obtain ⟨hfoundMem, hfoundFor⟩ := xglReliableFindPacketNumber_mem hfind
      rw [hdistinct.eq_of_isFor hfoundMem hmem hfoundFor hfor]
  rw [List.perm_ext_iff_of_nodup]
  · intro packet
    simp only [sackHoles, List.mem_filterMap, List.mem_filter, bitNames, Bool.and_eq_true,
      List.any_eq_true, beq_iff_eq]
    constructor
    · rintro ⟨i, hi, hfind⟩
      split at hfind
      · cases hfind
      rename_i hunset
      obtain ⟨hmem, hfor⟩ := xglReliableFindPacketNumber_mem hfind
      simp only [ReliablePacket.isFor, Bool.and_eq_true, beq_iff_eq] at hfor
      exact ⟨hmem, hfor.2, i, hi, by simpa using hunset, hfor.1⟩
    · rintro ⟨hmem, htarget, i, hi, hunset, hn⟩
      refine ⟨i, hi, ?_⟩
      rw [hunset, if_neg Bool.false_ne_true]
      exact honly hmem (by simp [ReliablePacket.isFor, htarget, hn])
  · -- the numbers of the packets are among those of the bits, in order
    have hsub : ((sackHoles sourceId base bitmap indices queue).map
        ReliablePacket.packetNumber).Sublist (indices.map fun i => base + UInt32.ofNat i) := by
      rw [sackHoles]
      clear hnumbers
      -- the induction is on the bits of the walk
      induction indices with
      | nil => exact List.Sublist.refl _
      | cons i rest ih =>
        rw [List.filterMap_cons, List.map_cons]
        split
        · exact ih.cons _
        · rename_i packet hfind
          split at hfind
          · cases hfind
          rw [List.map_cons, ReliablePacket.packetNumber_of_isFor
              (xglReliableFindPacketNumber_mem hfind).2]
          exact ih.cons_cons _
    exact (hnumbers.sublist hsub).of_map _
  · refine (hdistinct.of_map _).sublist (List.monotone_filter_right _ fun packet hnames => ?_)
    simp only [bitNames, Bool.and_eq_true] at hnames
    exact hnames.1

end Sack

/-- The queue, the window and the log of a sender after a SACK that reports packets: those of
its source are removed and marked, what is missing below them is sent again once, and nothing
else changes. -/
structure SackApplied (env : TransportEnv) (ctx : TransportCtx) (peer : PeerState)
    (sourceId : UInt16) (buffered : List Packet) (base : UInt32) (out : AckOutcome) : Prop where
  error : out.error = .ok
  queue : out.peer.reliableQueue = { peer.reliableQueue with
    waitAckList := (peer.reliableQueue.waitAckList.filter fun packet =>
        !decide (packet.targetId = sourceId ∧ Reported buffered base packet.packetNumber)).map
      fun packet =>
        if packet.targetId = sourceId ∧ Missing buffered base packet.packetNumber then
          markRetransmitted (xglTimeMs env ctx.io).1 packet
        else packet }
  sent : ∃ again : List ReliablePacket,
    again.Perm (peer.reliableQueue.waitAckList.filter fun packet =>
      decide (packet.targetId = sourceId ∧ Missing buffered base packet.packetNumber)) ∧
    out.ctx.io.events = ctx.io.events ++ again.map sentAgain
  window : ∃ marked, MarkKept peer.txWindow marked ∧
    out.peer.txWindow = xglWindowAdvanceBasePacketNumber marked ∧
    ∀ n, xglWindowIsInWindowPacketNumber peer.txWindow n = true →
      (marked.Flag (n - peer.txWindow.sendBasePacketNumber).toNat ↔
        peer.txWindow.Flag (n - peer.txWindow.sendBasePacketNumber).toNat ∨
          Reported buffered base n ∧
            ∃ packet ∈ peer.reliableQueue.waitAckList, packet.isFor n sourceId = true)
  peer : out.peer = transportUpdatePeerDeadline
    { peer with reliableQueue := out.peer.reliableQueue, txWindow := out.peer.txWindow }
  ctx : out.ctx = { ctx with window := out.ctx.window, io := out.ctx.io }

/-- The sender after a SACK that reports nothing: the packet of the base is sent again when
it is queued, and otherwise nothing changes and an error is returned. -/
structure SackAsks (env : TransportEnv) (ctx : TransportCtx) (peer : PeerState)
    (sourceId : UInt16) (base : UInt32) (out : AckOutcome) : Prop where
  queued : ∀ packet ∈ peer.reliableQueue.waitAckList, packet.isFor base sourceId = true →
    out.error = .ok ∧ out.ctx.io.events = ctx.io.events ++ [sentAgain packet] ∧
      out.ctx.window = ctx.window ∧
      out.peer = { peer with reliableQueue := { peer.reliableQueue with
        waitAckList := peer.reliableQueue.waitAckList.map fun packet =>
          if packet.isFor base sourceId then markRetransmitted (xglTimeMs env ctx.io).1 packet
          else packet } }
  absent : (∀ packet ∈ peer.reliableQueue.waitAckList, packet.isFor base sourceId = false) →
    out.error ≠ .ok ∧ out.ctx = ctx ∧ out.peer = peer

section Apply

variable {env : TransportEnv} {ctx : TransportCtx} {peer : PeerState} {sourceId : UInt16}
  {buffered : List Packet} {base : UInt32}

/-- The SACK extension of a packet is processed. -/
theorem transportTryProcessSackExt_sackPacket (config : TransportConfig) (scope : FeedbackScope) :
    transportTryProcessSackExt env ctx peer sourceId
        (sackPacket config scope buffered base).extensions
      = (let processed := transportProcessSackValue env ctx peer sourceId
          (sackValue base (sackBitmap buffered base))
         { error := processed.1
           handled := processed.1 == .ok
           ctx := processed.2.1
           peer := processed.2.2 }) := by
  have hshort := length_sackBitmap_le buffered base
  have hexts := wireExts_single XGL_WIRE_EXT_SACK (sackValue base (sackBitmap buffered base))
    (by decide) (by simp [sackValue]; omega)
  have hfirst : (wireExts (sackPacket config scope buffered base).extensions
      (sackPacket config scope buffered base).extensions.length).1
        = [{ type := XGL_WIRE_EXT_SACK, value := sackValue base (sackBitmap buffered base) }] :=
    congrArg Prod.fst hexts
  rw [transportTryProcessSackExt, hfirst]
  rfl

/-- The numbers of the walk are distinct. -/
theorem sackIndices_numbers_nodup (buffered : List Packet) (base : UInt32) :
    ((sackIndices (sackBitmap buffered base)).map fun i => base + UInt32.ofNat i).Nodup := by
  have hshort : ∀ m, sackIndices (sackBitmap buffered base) = List.range m → m ≤ 64 := by
    intro m hm
    by_contra hlong
    have hmem : 64 ∈ sackIndices (sackBitmap buffered base) := by
      rw [hm, List.mem_range]
      omega
    exact absurd (lt_of_mem_sackIndices_sackBitmap hmem) (Nat.lt_irrefl 64)
  have hm := hshort _ rfl
  exact sack_numbers_nodup base (Nat.le_trans hm (by decide))

/-- A SACK that reports packets. -/
theorem transportTryProcessSackExt_applied (config : TransportConfig) (scope : FeedbackScope)
    (hnet : NetworkTakesAll env ctx.config) (hbase : base.toNat + 64 ≤ 2 ^ 32)
    (hdistinct : NumbersDistinct sourceId peer.reliableQueue.waitAckList)
    (hlength : peer.txWindow.ackReceived.length = peer.txWindow.windowSize.toNat)
    (hsome : ∃ n, Reported buffered base n) :
    SackApplied env ctx peer sourceId buffered base
      (transportTryProcessSackExt env ctx peer sourceId
        (sackPacket config scope buffered base).extensions) := by
  have hindices : sackIndices (sackBitmap buffered base) ≠ [] := by
    obtain ⟨n, hreported⟩ := hsome
    obtain ⟨i, hi, _⟩ := reported_index hbase hreported
    exact List.ne_nil_of_mem hi
  have hpos := length_sackBitmap_pos buffered base
  have hnumbers := sackIndices_numbers_nodup buffered base
  obtain ⟨hok, hqueue, hevents⟩ := @sackLoop_eq env ctx.config sourceId base
    (xglTimeMs env ctx.io).1 (sackBitmap buffered base) hnet
      (sackIndices (sackBitmap buffered base))
    (sackStart env ctx peer) hnumbers hdistinct
  obtain ⟨marks, hmarked, hmarks⟩ := sackLoop_marks env ctx.config sourceId base
    (xglTimeMs env ctx.io).1 (sackBitmap buffered base) (sackIndices (sackBitmap buffered base))
    hnumbers (sackStart env ctx peer)
  have hdecode := xglWireDecodeSackExtValue_sackValue base (sackBitmap buffered base)
    (Nat.le_trans (length_sackBitmap_le buffered base) (by decide))
  have hprocess : transportProcessSackValue env ctx peer sourceId
        (sackValue base (sackBitmap buffered base))
      = (let looped := sackLoop env ctx.config sourceId base (xglTimeMs env ctx.io).1
            (sackBitmap buffered base) (sackIndices (sackBitmap buffered base))
            (sackStart env ctx peer)
         let after := { looped.2 with windows := advanceBases looped.2.windows }.finish ctx peer
         (.ok, after.1, transportUpdatePeerDeadline after.2)) := by
    rw [transportProcessSackValue, hdecode]
    dsimp only
    rw [if_neg (by simpa using Nat.ne_of_gt hpos), if_neg (by simpa using hindices)]
    have hok' := hok
    rw [sackStart] at hok' ⊢
    rw [hok']
  rw [transportTryProcessSackExt_sackPacket, hprocess]
  generalize sackLoop env ctx.config sourceId base (xglTimeMs env ctx.io).1
    (sackBitmap buffered base) (sackIndices (sackBitmap buffered base)) (sackStart env ctx peer)
      = looped at *
  refine ⟨rfl, ?_, ?_, ⟨looped.2.windows.1, ?_, rfl, ?_⟩, rfl, rfl⟩
  · show looped.2.queue = _
    rw [hqueue]
    refine congrArg (fun list => { peer.reliableQueue with waitAckList := list }) ?_
    rw [sackedQueue]
    show (peer.reliableQueue.waitAckList.filter _).map _ = _
    rw [List.filter_congr (q := fun packet => !decide (packet.targetId = sourceId ∧
      Reported buffered base packet.packetNumber)) fun packet _ => ?_]
    · refine List.map_congr_left fun packet _ => ?_
      rw [sackMark]
      exact ite_congr (propext (bitNames_false_iff hbase packet)) (fun _ => rfl) fun _ => rfl
    · congr 1
      rw [Bool.eq_iff_iff, decide_eq_true_iff]
      exact bitNames_true_iff hbase packet
  · refine ⟨_, (sackHoles_perm hnumbers hdistinct).trans (List.Perm.of_eq ?_), hevents⟩
    refine List.filter_congr fun packet _ => ?_
    rw [Bool.eq_iff_iff, decide_eq_true_iff]
    exact bitNames_false_iff hbase packet
  · rw [hmarked]
    exact markAll_mark _ _
  · intro n hin
    obtain ⟨hlow, _⟩ := xglWindowIsInWindowPacketNumber_iff.mp hin
    have hreported : n ∈ marks ↔ Reported buffered base n ∧
        ∃ packet ∈ peer.reliableQueue.waitAckList, packet.isFor n sourceId = true := by
      rw [hmarks n]
      constructor
      · rintro ⟨before, i, after, hsplit, _, hset, rfl, hqueued⟩
        have hi : i ∈ sackIndices (sackBitmap buffered base) := by
          rw [hsplit]
          exact List.mem_append_right _ List.mem_cons_self
        obtain ⟨packet, hfind⟩ := Option.isSome_iff_exists.mp hqueued
        exact ⟨(sackBitmap_reported hbase (lt_of_mem_sackIndices_sackBitmap hi)).mp hset, packet,
          xglReliableFindPacketNumber_mem hfind⟩
      · rintro ⟨hreported, packet, hmem, hfor⟩
        obtain ⟨i, hi, hset, hn⟩ := reported_index hbase hreported
        obtain ⟨before, after, hsplit⟩ := List.append_of_mem hi
        refine ⟨before, i, after, hsplit, ?_, hset, hn, ?_⟩
        · -- no retransmission on the way fails
          rw [hsplit, List.map_append] at hnumbers
          exact (sackLoop_eq hnet before (sackStart env ctx peer)
            (List.nodup_append.mp hnumbers).1 hdistinct).1
        · cases hfind : xglReliableFindPacketNumber peer.reliableQueue n sourceId with
          | none =>
            rw [not_isFor_of_find_none hfind hmem] at hfor
            cases hfor
          | some found =>
            show (xglReliableFindPacketNumber peer.reliableQueue n sourceId).isSome = true
            rw [hfind]
            rfl
    rw [hmarked, toNat_sub_base hlow]
    show (markAll peer.txWindow marks).Flag _ ↔ _
    rw [flag_markAll hlength, ← hreported]
    refine or_congr_right ⟨?_, fun hmem => ⟨n, hmem, hin, by omega⟩⟩
    rintro ⟨other, hmem, _, hat⟩
    rwa [show n = other from UInt32.toNat_inj.mp (by omega)]

/-- A SACK that reports nothing. -/
theorem transportTryProcessSackExt_asks (config : TransportConfig) (scope : FeedbackScope)
    (hnet : NetworkTakesAll env ctx.config) (hbase : base.toNat + 64 ≤ 2 ^ 32)
    (hdistinct : NumbersDistinct sourceId peer.reliableQueue.waitAckList)
    (hnone : ¬ ∃ n, Reported buffered base n) :
    SackAsks env ctx peer sourceId base
      (transportTryProcessSackExt env ctx peer sourceId
        (sackPacket config scope buffered base).extensions) := by
  have hindices : sackIndices (sackBitmap buffered base) = [] := by
    rw [List.eq_nil_iff_forall_not_mem]
    intro i hi
    obtain ⟨j, _, hj, hset⟩ := mem_sackIndices_iff.mp hi
    have := length_sackBitmap_le buffered base
    exact hnone ⟨_, (sackBitmap_reported hbase (by omega)).mp hset⟩
  have hpos := length_sackBitmap_pos buffered base
  have hdecode := xglWireDecodeSackExtValue_sackValue base (sackBitmap buffered base)
    (Nat.le_trans (length_sackBitmap_le buffered base) (by decide))
  have hzero : ¬ ((sackBitmap buffered base).length == 0) = true := by
    simpa using Nat.ne_of_gt hpos
  rw [transportTryProcessSackExt_sackPacket, transportProcessSackValue, hdecode]
  simp only [hindices, List.isEmpty_nil, if_true]
  rw [if_neg hzero]
  refine ⟨fun packet hmem hfor => ?_, fun habsent => ?_⟩
  · cases hfind : xglReliableFindPacketNumber peer.reliableQueue base sourceId with
    | none =>
      rw [not_isFor_of_find_none hfind hmem] at hfor
      cases hfor
    | some found =>
      -- the packet that is found is the one with the number
      have hsame : found = packet := by
        obtain ⟨hfoundMem, hfoundFor⟩ := xglReliableFindPacketNumber_mem hfind
        exact hdistinct.eq_of_isFor hfoundMem hmem hfoundFor hfor
      subst hsame
      obtain ⟨io, hevents, hsent⟩ := @transportRetransmitReliablePacket_sent env ctx.config
        (xglTimeMs env ctx.io).1 hnet (xglTimeMs env ctx.io).2 found
      simp only [sackRetransmit, hfind, hsent]
      refine ⟨trivial, hevents, rfl, ?_⟩
      rw [SackState.finish, reliableUpdate_eq_map (markRetransmitted (xglTimeMs env ctx.io).1)
        hdistinct hfind]
  · have hfind : xglReliableFindPacketNumber peer.reliableQueue base sourceId = none :=
      List.find?_eq_none.mpr fun packet hmem => by
        rw [habsent packet (List.mem_reverse.mp hmem)]
        exact Bool.false_ne_true
    simp only [hfind]
    exact ⟨by decide, trivial, trivial⟩

end Apply

/-- For every out-of-order list and base, and every queue in which no two packets for the
source of the SACK share a number: when the network takes every packet, the SACK built from
the list makes the sender remove and mark exactly what the list reports and send again, once
each, exactly what is missing below it; a SACK that reports nothing asks for the base. -/
theorem sack_agreement (env : TransportEnv) (ctx : TransportCtx) (peer : PeerState)
    (sourceId : UInt16) (config : TransportConfig) (scope : FeedbackScope)
    (buffered : List Packet) (base : UInt32) (hbase : base.toNat + 64 ≤ 2 ^ 32)
    (hnet : NetworkTakesAll env ctx.config)
    (hdistinct : NumbersDistinct sourceId peer.reliableQueue.waitAckList)
    (hlength : peer.txWindow.ackReceived.length = peer.txWindow.windowSize.toNat) :
    let out := transportTryProcessSackExt env ctx peer sourceId
      (sackPacket config scope buffered base).extensions
    ((∃ n, Reported buffered base n) →
        SackApplied env ctx peer sourceId buffered base out) ∧
      ((¬ ∃ n, Reported buffered base n) → SackAsks env ctx peer sourceId base out) :=
  ⟨transportTryProcessSackExt_applied config scope hnet hbase hdistinct hlength,
    transportTryProcessSackExt_asks config scope hnet hbase hdistinct⟩

/-- The peer of node 1 with packets of these numbers for node 2. -/
def peerWaiting (numbers : List UInt32) : PeerState where
  peerId := 2
  hasConnectionScope := false
  connectionId := 0
  sessionEpoch := 0
  sessionId := 1
  txWindow := { freshWindow 8 with nextPacketNumber := 6 }
  reliableQueue :=
    { waitAckList := numbers.map fun n =>
        { data := [7]
          sourceId := 1
          targetId := 2
          packetNumber := n
          dataType := 0
          priority := 0
          timeoutMs := 100
          initialTimeoutMs := 100 }
      maxRetryCount := 3 }

/-- The SACK of node 2, which waits for 3 and holds 5. -/
def sackOfFive : Packet :=
  sackPacket sampleTransportConfig
    { targetId := 1, sessionId := 0, connectionId := 0, sessionEpoch := 0 } [sampleData 5 [7]] 3

/-- Packet 5 leaves the queue. -/
theorem sack_agreement_five :
    (transportTryProcessSackExt calmEnv senderTransport (peerWaiting [3, 4, 5]) 2
        sackOfFive.extensions).peer.reliableQueue.waitAckList.map ReliablePacket.packetNumber
      = [3, 4] := by
  have happlied := (sack_agreement calmEnv senderTransport (peerWaiting [3, 4, 5]) 2
    sampleTransportConfig { targetId := 1, sessionId := 0, connectionId := 0, sessionEpoch := 0 }
    [sampleData 5 [7]] 3 (by decide) ⟨rfl, fun _ _ => rfl⟩
    (show List.Nodup _ by decide) (by decide)).1 ⟨5, by decide⟩
  rw [sackOfFive, happlied.queue]
  decide

/-- A queue with one number twice: the SACK reports the number, and a packet with it stays. -/
theorem sack_shared_number :
    Reported [sampleData 5 [7]] 3 5 ∧
      (transportTryProcessSackExt calmEnv senderTransport (peerWaiting [5, 5]) 2
        sackOfFive.extensions).peer.reliableQueue.waitAckList.map ReliablePacket.packetNumber
          = [5] := by
  decide +kernel

end XgenLink
