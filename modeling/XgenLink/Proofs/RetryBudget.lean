import XgenLink.Proofs.QueueEntries

/-!
# `XgenLink.Proofs.RetryBudget`: how often a packet is sent again

A queue has a retry limit, and every packet in it a counter of 8 bits. Two places send a queued
packet again: the timers, which compare the counter with the limit first and give a packet up that
has reached it, and the holes of a SACK, which do not look at the limit. As long as no SACK names
a packet whose retries are used up, every packet stays within the limit and its counter is the
number of its retransmissions; the limit is a byte too, so the counter does not wrap.

* `WithinLimit`, `withinLimit_rule`: what a retransmission of a packet with retries left keeps.
* `retries_within_limit`: the bound, for every run without such a SACK.
* `sack_exceeds_limit`: a SACK that keeps arriving, and a packet sent too often.
-/

set_option autoImplicit false

namespace XgenLink

/-- The counter of a packet is the number of its retransmissions, and these are within the
limit. -/
def WithinLimit (limit : UInt8) (_ : List TransportEvent) (entry : ReliablePacket) : Prop :=
  entry.retryCount.toNat = entry.retransmissions ∧ entry.retransmissions ≤ limit.toNat

/-- A packet with retries left. -/
def retriesLeft (limit : UInt8) (entry : ReliablePacket) : Prop :=
  entry.retryCount < limit

/-- A packet with retries left may be sent again, and the counter does not wrap. -/
theorem withinLimit_rule : EntryRule WithinLimit retriesLeft where
  mono := fun _ h => h
  repeated := by
    intro limit events entry now _ h hleft
    obtain ⟨hcount, _⟩ := h
    have hlt : entry.retryCount.toNat < limit.toNat := UInt8.lt_iff_toNat_lt.mp hleft
    have hlimit : limit.toNat < 256 := limit.toNat_lt
    have hnext : (entry.retryCount + 1).toNat = entry.retryCount.toNat + 1 := by
      rw [UInt8.toNat_add]
      exact Nat.mod_eq_of_lt (by show _ + 1 < 256; omega)
    show (entry.retryCount + 1).toNat = entry.retransmissions + 1 ∧
      entry.retransmissions + 1 ≤ limit.toNat
    omega
  timer := fun h => h
  queued := fun _ _ _ _ _ _ _ _ _ _ _ _ => ⟨rfl, Nat.zero_le _⟩

/-- Every packet is sent again at most as often as the limit allows, and its counter says
how often, in every run whose SACKs only name packets with retries left. -/
theorem retries_within_limit (env : TransportEnv) (config : TransportConfig) (ctx : TransportCtx)
    (hinit : xglTransportInit config = .ok ctx) (actions : List TransportAction)
    (hspares : Along (transportStep env) (ActionSpares retriesLeft) actions ctx) :
    ∀ peer ∈ (runActions env actions ctx).peers, ∀ entry ∈ peer.reliableQueue.waitAckList,
      entry.retryCount.toNat = entry.retransmissions ∧
        entry.retransmissions ≤ config.maxRetryCount.toNat := by
  obtain ⟨hfresh, _, hconfig⟩ := xglTransportInit_fresh hinit
  have hstart : AllEntries WithinLimit ctx := by
    intro peer hpeer
    rw [hfresh] at hpeer
    cases hpeer
  intro peer hpeer entry hentry
  have hwithin := (runActions_entries withinLimit_rule (fun _ => trivial) actions hstart hspares
      peer hpeer).2
    entry hentry
  rw [runActions_config, hconfig] at hwithin
  exact hwithin

/-- A SACK of node 2 that misses packet 0 and has packet 1. -/
def holeSack : Packet :=
  sackPacket sampleTransportConfig
    { targetId := 1, sessionId := 1, connectionId := 5, sessionEpoch := 0 }
    [{ sourceId := 1, packetNumber := 1 }] 0

/-- Two packets, a timeout and one SACK. -/
theorem one_hole_within_limit :
    (runActions calmEnv [.send sampleTx, .send sampleTx, .run 2000, .receive holeSack]
        senderTransport).peers.map (fun peer => peer.reliableQueue.waitAckList.map
          ReliablePacket.retransmissions) = [[2]] ∧
      ∀ peer ∈ (runActions calmEnv [.send sampleTx, .send sampleTx, .run 2000, .receive holeSack]
        senderTransport).peers, ∀ entry ∈ peer.reliableQueue.waitAckList,
        entry.retryCount.toNat = entry.retransmissions ∧ entry.retransmissions ≤ 3 := by
  refine ⟨by decide +kernel, retries_within_limit calmEnv senderConfig senderTransport rfl
    [.send sampleTx, .send sampleTx, .run 2000, .receive holeSack]
    ⟨trivial, trivial, trivial, ?_, trivial⟩⟩
  have hleft : ∀ peer ∈ (runActions calmEnv [.send sampleTx, .send sampleTx, .run 2000]
      senderTransport).peers, ∀ entry ∈ peer.reliableQueue.waitAckList,
        entry.retryCount < 3 := by decide +kernel
  intro peer hfind _ n _ entry hentry _
  exact hleft peer (peerOf_mem (peerOf_of_transportFindAckPeer hfind)) entry hentry

/-- The same SACK four times. -/
def repeatedHoles : List TransportAction :=
  [.send sampleTx, .send sampleTx, .receive holeSack, .receive holeSack, .receive holeSack,
    .receive holeSack]

/-- The SACK path does not look at the limit: with three retries allowed, the fourth SACK
sends the packet a fourth time. -/
theorem sack_exceeds_limit :
    xglTransportInit senderConfig = .ok senderTransport ∧ senderConfig.maxRetryCount = 3 ∧
      ¬ ∀ peer ∈ (runActions calmEnv repeatedHoles senderTransport).peers,
        ∀ entry ∈ peer.reliableQueue.waitAckList,
          entry.retryCount.toNat = entry.retransmissions ∧
            entry.retransmissions ≤ senderConfig.maxRetryCount.toNat := by
  refine ⟨rfl, rfl, ?_⟩
  decide +kernel

end XgenLink
