import Mathlib.Data.List.Induction
import XgenLink.Proofs.DeliveryRule
import XgenLink.Proofs.FragmentSteps
import XgenLink.Proofs.QueueEntries
import XgenLink.Proofs.ReassemblyBudget
import XgenLink.Proofs.Retransmission
import XgenLink.Proofs.SenderCustody
import XgenLink.Proofs.WholeMessages

/-!
# `XgenLink.Proofs.TimerFiring`: when the timers fire

A queued packet carries the clock value of its last transmission and a reassembly buffer that of
its first fragment. `xgl_transport_run` subtracts these from its own time modulo 2^32, which is
right for every clock value and also across the wrap, but it takes 0 for "not sent yet".

The statement has two parts that meet in the stamp. A run acts on a packet, or frees a buffer,
when the time since its stamp has reached the timeout; this is about one call. And the stamp is
the clock value of the call that sent the packet last, or stored the first fragment; this is about
a whole run, since a stamp survives every call that does not set it anew.

Packets of a queue are told apart by number and target. A packet whose number is taken a second
time cannot be followed by these, so the statement is about packets that have their number to
themselves.

* `KeysDistinct` is kept by every call: a peer is found by its key.
* `retransmissionLoop_filter`, `timerActs_iff`: a run acts on a packet when its timer is due.
* `StampedSince`, `BuffersStamped`: what a call does to stamps.
* `runCalls_sent`, `runCalls_opened`: the stamps are the clock values of the calls that set them.
* `timers_fire_iff`: the timers fire when they should, if and only if the stamp is not 0.
* `sent_at_zero`: a packet sent at 0 is never sent again.
-/

set_option autoImplicit false

namespace XgenLink

/-! ### One peer for each key -/

section Keys

variable {env : TransportEnv} {ctx : TransportCtx}

/-- A request makes no second peer of a key: it looks the key up before it creates one. -/
theorem xglTransportSend_keys (h : KeysDistinct ctx.peers) (txData : TxData) :
    KeysDistinct (xglTransportSend env ctx txData).2.peers := by
  simp only [xglTransportSend]
  split
  · exact h
  rename_i data _
  split
  · exact h
  split
  · exact h
  split
  · have hplanned : ∀ (base : TransportCtx) (peer : PeerState), KeysDistinct base.peers →
        peerOf base.peers peer.key = some peer →
        xglWindowCanSendPacketNumber peer.txWindow = true →
        KeysDistinct (transportSendPlanned env base (some peer) txData data).2.peers := by
      intro base peer hkeys hentry hcan
      obtain ⟨after, _, hpeers, _, _⟩ := transportSendPlanned_spec env base peer txData data hcan
        hentry
      rw [hpeers]
      exact hkeys.put after
    have hcases := transportPrepareReliableSend_cases env ctx txData
    generalize transportPrepareReliableSend env ctx txData = prepared at hcases ⊢
    cases hcases with
    | refused hlook session io hevents => exact h
    | full base peer hgot hfull => exact (hgot.queues h).2.1
    | ready base peer hgot hcan hhello =>
      obtain ⟨_, hkeys, _, hentry, _⟩ := hgot.queues h
      exact hplanned base peer hkeys hentry hcan
    | greeted base peer hgot hcan hhello io hsent =>
      obtain ⟨_, hkeys, _, hentry, _⟩ := hgot.queues h
      refine hplanned _ _ (hkeys.put _) ?_ hcan
      rw [peerOf_putPeer, if_pos rfl]
      exact congrArg (Option.map fun _ => _) hentry
    | mute base peer hgot hhello err hne io hsent =>
      obtain ⟨_, hkeys, _⟩ := hgot.queues h
      cases err with
      | ok => exact absurd rfl hne
      | _ => exact hkeys
  · rw [transportSendPlanned_unreliable]
    exact h

/-- Nor does a received packet. -/
theorem xglTransportReceive_keys (h : KeysDistinct ctx.peers) (packet : Packet) :
    KeysDistinct (xglTransportReceive env ctx packet).2.peers := by
  simp only [xglTransportReceive]
  split
  · have hcases := transportProcessControlPacket_cases env ctx packet
    generalize transportProcessControlPacket env ctx packet = out at hcases ⊢
    obtain ⟨err, after⟩ := out
    dsimp only at hcases ⊢
    cases hcases with
    | refused session io hevents => exact h
    | established hsid peer hlook hsession now io hevents => exact h.put _
    | reset hsid peer hlook hreset now io hevents => exact h.put _
    | created hsid hlook window hwindow manager now io peer hevents hpeer =>
      have hkey : peer.key = packet.peerKey := by
        rcases hpeer with rfl | ⟨_, rfl⟩ <;> exact freshPeer_key ctx packet
      exact h.cons (hkey ▸ peerOf_none_of_lookupPeer hlook)
  split
  · rw [transportProcessAckPacket_peers]
    cases transportFindAckPeer ctx.peers packet with
    | none => exact h
    | some peer =>
      rw [Option.elim_some]
      split
      · exact h.put _
      · exact h
  split
  · exact h
  · exact (transportReceiveData_queues env ctx packet _ h).1

/-- The timers change a peer by what one round of the loop does to it. -/
def TimedPeer (env : TransportEnv) (config : TransportConfig) (now : UInt32)
    (before after : TransportIo) (peer timed : PeerState) : Prop :=
  ∃ io, timed = (transportRetransmitPeer env config now io peer).1 ∧
    before.events <+: io.events ∧
    (transportRetransmitPeer env config now io peer).2.events <+: after.events

/-- The timers of all peers: the log grows, and each peer changes by its own loop. -/
theorem transportProcessRetransmissions_timed (env : TransportEnv) (config : TransportConfig)
    (now : UInt32) (peers : List PeerState) (io : TransportIo) :
    io.events <+: (transportProcessRetransmissions env config now peers io).2.events ∧
      List.Forall₂ (TimedPeer env config now io
          (transportProcessRetransmissions env config now peers io).2) peers
        (transportProcessRetransmissions env config now peers io).1 := by
  induction peers generalizing io with
  | nil => exact ⟨List.prefix_rfl, .nil⟩
  | cons peer rest ih =>
    obtain ⟨hgrows, hrest⟩ := ih (transportRetransmitPeer env config now io peer).2
    have hfirst : io.events <+: (transportRetransmitPeer env config now io peer).2.events := by
      have hloop := (@retransmissionLoop_entries (fun _ _ _ => True) (fun _ _ => True)
        (fun _ => True) ⟨fun _ _ => trivial, fun _ _ _ _ => trivial, fun _ => trivial⟩ env config
        peer.reliableQueue.maxRetryCount now trivial peer.reliableQueue.waitAckList.length []
        peer.reliableQueue.waitAckList io fun _ _ => trivial).1
      exact hloop.grows
    refine ⟨hfirst.trans hgrows, .cons ⟨io, rfl, List.prefix_rfl, hgrows⟩ ?_⟩
    exact hrest.imp fun a b ⟨io', heq, hbefore, hafter⟩ => ⟨io', heq, hfirst.trans hbefore, hafter⟩

/-- The timers keep the key of a peer. -/
theorem TimedPeer.key {config : TransportConfig} {now : UInt32} {before after : TransportIo}
    {peer timed : PeerState} (h : TimedPeer env config now before after peer timed) :
    timed.key = peer.key := by
  obtain ⟨io, rfl, _, _⟩ := h
  rfl

/-- So they keep the keys of all peers. -/
theorem transportProcessRetransmissions_keys (h : KeysDistinct ctx.peers) (now : UInt32) :
    KeysDistinct (transportProcessRetransmissions env ctx.config now ctx.peers ctx.io).1 := by
  have hforall := (transportProcessRetransmissions_timed env ctx.config now ctx.peers ctx.io).2
  unfold KeysDistinct
  rw [map_key_forall₂ hforall fun _ _ hab => hab.key]
  exact h

/-- Nor do the timers make one, and the reclaim only drops peers. -/
theorem xglTransportRun_keys (h : KeysDistinct ctx.peers) (now : UInt32) :
    KeysDistinct (xglTransportRun env ctx now).peers := by
  have htimed := @transportProcessRetransmissions_keys env ctx h now
  have hfragments : ∀ base : TransportCtx, KeysDistinct base.peers →
      KeysDistinct (transportReclaimIdlePeers base now).peers := by
    intro base hbase
    simp only [transportReclaimIdlePeers]
    split
    · exact hbase
    · exact List.Nodup.sublist (List.Sublist.map _ List.filter_sublist) hbase
  refine hfragments _ ?_
  rw [transportProcessFragmentTimeouts_peers]
  exact htimed

/-- No action makes a second peer of one key. -/
theorem transportStep_keys (h : KeysDistinct ctx.peers) (action : TransportAction) :
    KeysDistinct (transportStep env ctx action).peers := by
  cases action with
  | send txData => exact xglTransportSend_keys h txData
  | receive packet => exact xglTransportReceive_keys h packet
  | run now => exact xglTransportRun_keys h now

end Keys

/-! ### One queue -/

/-- What the timers leave of a packet: itself while its timer is not due, nothing when its
retries are used up, else the packet with a new stamp. -/
def timerOutcome (maxRetryCount : UInt8) (now : UInt32) (packet : ReliablePacket) :
    List ReliablePacket :=
  if !packet.due now then [packet]
  else if packet.retryCount ≥ maxRetryCount then []
  else [markRetransmitted now packet]

/-- The layer below takes a packet again. -/
structure TakesAgain (env : TransportEnv) (config : TransportConfig) (packet : ReliablePacket) :
    Prop where
  lower : config.lowerLayer = true
  send : ∀ n, env.layerSend n (retransmitPacket packet) = .ok

/-- A packet of the same number and target. -/
def sharesNumber (packet other : ReliablePacket) : Bool :=
  other.isFor packet.packetNumber packet.targetId

/-- Of the queue only this packet has its number and target. -/
def SoleOf (queue : List ReliablePacket) (packet : ReliablePacket) : Prop :=
  queue.filter (sharesNumber packet) = [packet]

/-- The packet is in the queue. -/
theorem SoleOf.mem {queue : List ReliablePacket} {packet : ReliablePacket}
    (h : SoleOf queue packet) : packet ∈ queue :=
  List.mem_of_mem_filter (h ▸ List.mem_singleton_self packet)

/-- Sending a packet again keeps its number and target. -/
theorem sharesNumber_retransmit (env : TransportEnv) (config : TransportConfig)
    (io : TransportIo) (entry packet : ReliablePacket) (now : UInt32) :
    sharesNumber entry (transportRetransmitReliablePacket env config io packet now).2.2
      = sharesNumber entry packet := by
  simp only [transportRetransmitReliablePacket]
  split <;> rfl

/-- Taking out a packet of another number leaves those of a number. -/
theorem filter_reliableUnlink {entry packet : ReliablePacket}
    (hne : sharesNumber entry packet = false) (packets : List ReliablePacket) :
    (reliableUnlink packet.packetNumber packet.targetId packets).filter (sharesNumber entry)
      = packets.filter (sharesNumber entry) := by
  have herase : ∀ list : List ReliablePacket,
      (list.eraseP (sharesNumber packet)).filter (sharesNumber entry)
        = list.filter (sharesNumber entry) := by
    intro list
    induction list with
    | nil => rfl
    | cons first rest ih =>
      rw [List.eraseP_cons]
      cases hfirst : sharesNumber packet first with
      | true =>
        have hother : sharesNumber entry first = false := by
          rw [← hne]
          simp only [sharesNumber, ReliablePacket.isFor, Bool.and_eq_true, beq_iff_eq] at hfirst ⊢
          rw [hfirst.1, hfirst.2]
        rw [cond_true, List.filter_cons_of_neg (by simp [hother])]
      | false =>
        rw [cond_false, List.filter_cons, List.filter_cons, ih]
  rw [reliableUnlink, List.filter_reverse, show (packets.reverse.eraseP fun other =>
    other.isFor packet.packetNumber packet.targetId)
      = packets.reverse.eraseP (sharesNumber packet) from rfl, herase, List.filter_reverse,
    List.reverse_reverse]

/-- Taking a number out leaves no more packets than before. -/
theorem length_reliableUnlink_le (n : UInt32) (targetId : UInt16) (packets : List ReliablePacket) :
    (reliableUnlink n targetId packets).length ≤ packets.length := by
  rw [reliableUnlink, List.length_reverse]
  exact (List.length_eraseP_le).trans (List.length_reverse).le

section Loop

variable {env : TransportEnv} {config : TransportConfig} {entry : ReliablePacket}

/-- A packet that is taken again is stamped, and its transmission recorded. -/
theorem TakesAgain.retransmit (h : TakesAgain env config entry) (io : TransportIo) (now : UInt32) :
    (transportRetransmitReliablePacket env config io entry now).2.2 = markRetransmitted now entry ∧
      (transportRetransmitReliablePacket env config io entry now).2.1.events
        = io.events ++ [.layerSend (retransmitPacket entry) .ok] := by
  have hok : (xglLayerSend env io (retransmitPacket entry)).1 = .ok := h.send io.sendCount
  simp only [transportRetransmitReliablePacket, transportLowerSend, h.lower, if_true, hok,
    xglLayerSend_events, and_self]

/-- Sending any packet again appends to the log. -/
theorem transportRetransmitReliablePacket_grows (env : TransportEnv) (config : TransportConfig)
    (io : TransportIo) (packet : ReliablePacket) (now : UInt32) :
    io.events <+: (transportRetransmitReliablePacket env config io packet now).2.1.events := by
  have hsent := transportLowerSend_grows env config io (retransmitPacket packet)
  simp only [transportRetransmitReliablePacket]
  split <;> exact hsent

/-- The loop of `transport_process_retransmission_queue` on the packets of one number, when there
is at most one among those to come. The induction is on the rounds. -/
theorem retransmissionLoop_filter (htakes : TakesAgain env config entry) (maxRetryCount : UInt8)
    (now : UInt32) (fuel : Nat) (done rest : List ReliablePacket) (io : TransportIo)
    (hfuel : rest.length ≤ fuel)
    (hrest : rest.filter (sharesNumber entry) = [] ∨ SoleOf rest entry) :
    let looped := retransmissionLoop env config maxRetryCount now fuel done rest io
    looped.1.filter (sharesNumber entry) = done.filter (sharesNumber entry) ++
          (rest.filter (sharesNumber entry)).flatMap (timerOutcome maxRetryCount now) ∧
      io.events <+: looped.2.events ∧
      (SoleOf rest entry → entry.due now = true → entry.retryCount < maxRetryCount →
        ∃ front, io.events <+: front ∧
          front ++ [.layerSend (retransmitPacket entry) .ok] <+: looped.2.events) := by
  induction fuel generalizing done rest io with
  | zero =>
    have hnil : rest = [] := List.eq_nil_of_length_eq_zero (Nat.le_zero.mp hfuel)
    subst hnil
    refine ⟨by simp [retransmissionLoop], List.prefix_rfl, fun hsole => ?_⟩
    exact absurd hsole.mem List.not_mem_nil
  | succ fuel ih =>
    -- the packet at the cursor
    cases rest with
    | nil =>
      refine ⟨by simp [retransmissionLoop], List.prefix_rfl, fun hsole => ?_⟩
      exact absurd hsole.mem List.not_mem_nil
    | cons packet rest =>
      have hfuel' : rest.length ≤ fuel := Nat.le_of_succ_le_succ hfuel
      have hreported := transportReport_grows config io .ackTimeout "Packet retry count exhausted"
      cases hfor : sharesNumber entry packet with
      | true =>
        -- the packet of the number: none is behind it
        have hsole : SoleOf (packet :: rest) entry := by
          rcases hrest with hnone | hsole
          · rw [List.filter_cons_of_pos hfor] at hnone
            cases hnone
          · exact hsole
        have hsplit := hsole
        rw [SoleOf, List.filter_cons_of_pos hfor] at hsplit
        obtain ⟨rfl, hbehind⟩ := List.cons.inj hsplit
        rw [List.filter_cons_of_pos hfor, hbehind, List.flatMap_singleton, timerOutcome]
        simp only [retransmissionLoop]
        split
        · rename_i hidle
          obtain ⟨hleft, hgrows, _⟩ := ih (done ++ [packet]) rest io hfuel' (.inl hbehind)
          refine ⟨?_, hgrows, fun _ hdue => absurd hdue (by simpa using hidle)⟩
          rw [hleft, hbehind, List.filter_append, List.filter_cons_of_pos hfor]
          simp
        rename_i hdue
        split
        · rename_i hused
          have hany : (rest.any fun other => other.isFor packet.packetNumber packet.targetId)
              = false := by
            rw [List.any_eq_false]
            exact fun other hmem => List.filter_eq_nil_iff.mp hbehind other hmem
          rw [if_neg (by simp [hany])]
          obtain ⟨hleft, hgrows, _⟩ := ih done rest _ hfuel' (.inl hbehind)
          refine ⟨?_, hreported.trans hgrows, fun _ _ hfew => absurd hused (UInt8.not_le.mpr hfew)⟩
          rw [hleft, hbehind]
          rfl
        · obtain ⟨hstamped, hevents⟩ := htakes.retransmit io now
          rw [hstamped]
          obtain ⟨hleft, hgrows, _⟩ := ih (done ++ [markRetransmitted now packet]) rest
            (transportRetransmitReliablePacket env config io packet now).2.1 hfuel' (.inl hbehind)
          rw [hevents] at hgrows
          refine ⟨?_, (List.prefix_append _ _).trans hgrows, fun _ _ _ =>
            ⟨io.events, List.prefix_rfl, hgrows⟩⟩
          rw [hleft, hbehind, List.filter_append, List.filter_cons_of_pos (show sharesNumber packet
            (markRetransmitted now packet) = true from hfor)]
          simp
      | false =>
        have hskip : (packet :: rest).filter (sharesNumber entry)
            = rest.filter (sharesNumber entry) := List.filter_cons_of_neg (by simp [hfor])
        have hsoles : SoleOf (packet :: rest) entry ↔ SoleOf rest entry := by
          rw [SoleOf, SoleOf, hskip]
        rw [hskip, hsoles]
        rw [hskip, hsoles] at hrest
        have hdone : ∀ other, sharesNumber entry other = false →
            (done ++ [other]).filter (sharesNumber entry) = done.filter (sharesNumber entry) := by
          intro other hother
          simp [List.filter_append, hother]
        simp only [retransmissionLoop]
        split
        · obtain ⟨hleft, hgrows, hsent⟩ := ih (done ++ [packet]) rest io hfuel' hrest
          exact ⟨by rw [hleft, hdone packet hfor], hgrows, hsent⟩
        split
        · split
          · -- a packet behind it has its number and goes instead
            have hkeeps := filter_reliableUnlink hfor rest
            have hshort := (length_reliableUnlink_le packet.packetNumber packet.targetId
              rest).trans hfuel'
            have hsame : SoleOf (reliableUnlink packet.packetNumber packet.targetId rest) entry ↔
                SoleOf rest entry := by
              rw [SoleOf, SoleOf, hkeeps]
            obtain ⟨hleft, hgrows, hsent⟩ := ih (done ++ [packet])
              (reliableUnlink packet.packetNumber packet.targetId rest) _ hshort
              (by rw [hkeeps, hsame]; exact hrest)
            refine ⟨by rw [hleft, hdone packet hfor, hkeeps], hreported.trans hgrows, ?_⟩
            intro hsole hdue hfew
            obtain ⟨front, hfront, hlast⟩ := hsent (hsame.mpr hsole) hdue hfew
            exact ⟨front, hreported.trans hfront, hlast⟩
          · obtain ⟨hleft, hgrows, hsent⟩ := ih done rest _ hfuel' hrest
            refine ⟨hleft, hreported.trans hgrows, fun hsole hdue hfew => ?_⟩
            obtain ⟨front, hfront, hlast⟩ := hsent hsole hdue hfew
            exact ⟨front, hreported.trans hfront, hlast⟩
        · have hagain := transportRetransmitReliablePacket_grows env config io packet now
          have hstill := (sharesNumber_retransmit env config io entry packet now).trans hfor
          obtain ⟨hleft, hgrows, hsent⟩ := ih _ rest _ hfuel' hrest
          refine ⟨by rw [hleft, hdone _ hstill], hagain.trans hgrows, fun hsole hdue hfew => ?_⟩
          obtain ⟨front, hfront, hlast⟩ := hsent hsole hdue hfew
          exact ⟨front, hagain.trans hfront, hlast⟩

end Loop

/-! ### One run of the timers -/

/-- Behind the retransmissions a run only adds to the log. -/
theorem xglTransportRun_timed_grows (env : TransportEnv) (ctx : TransportCtx) (now : UInt32) :
    (transportProcessRetransmissions env ctx.config now ctx.peers ctx.io).2.events
      <+: (xglTransportRun env ctx now).io.events := by
  have hreclaim : ∀ base : TransportCtx, (transportReclaimIdlePeers base now).io = base.io := by
    intro base
    simp only [transportReclaimIdlePeers]
    split <;> rfl
  rw [xglTransportRun, hreclaim]
  obtain ⟨new, hnew, _⟩ := transportProcessFragmentTimeouts_again { ctx with
    peers := (transportProcessRetransmissions env ctx.config now ctx.peers ctx.io).1
    io := (transportProcessRetransmissions env ctx.config now ctx.peers ctx.io).2 } now
  exact ⟨new, hnew.symm⟩

/-- `xgl_transport_run` at `now` sends a packet of the queue of `key` again, with a new stamp, or
drops it. -/
def TimerActs (env : TransportEnv) (ctx : TransportCtx) (key : PeerKey) (entry : ReliablePacket)
    (now : UInt32) : Prop :=
  (markRetransmitted now entry ∈ queueOf (xglTransportRun env ctx now).peers key ∧
      .layerSend (retransmitPacket entry) .ok ∈ recorded ctx (xglTransportRun env ctx now)) ∨
    ∀ other ∈ queueOf (xglTransportRun env ctx now).peers key, sharesNumber entry other = false

section Run

variable {env : TransportEnv} {ctx : TransportCtx} {key : PeerKey} {entry : ReliablePacket}

/-- The reclaim drops peers with empty queues only. -/
theorem queueOf_transportReclaimIdlePeers (hkeys : KeysDistinct ctx.peers) (now : UInt32)
    (key : PeerKey) :
    queueOf (transportReclaimIdlePeers ctx now).peers key = queueOf ctx.peers key := by
  simp only [transportReclaimIdlePeers]
  split
  · rfl
  · dsimp only
    simp only [queueOf]
    rw [peerOf_filter hkeys]
    cases hpeer : peerOf ctx.peers key with
    | none => rfl
    | some peer =>
      rw [Option.filter_some]
      split
      · rfl
      · rename_i hgone
        simp only [Bool.not_eq_true, Bool.not_eq_false', PeerState.reclaimable, Bool.and_eq_true,
          xglReliableIsEmpty, List.isEmpty_iff] at hgone
        exact hgone.1.1.symm

/-- What the run leaves of a packet that has its number to itself. -/
theorem xglTransportRun_filter (hkeys : KeysDistinct ctx.peers)
    (htakes : TakesAgain env ctx.config entry) (hsole : SoleOf (queueOf ctx.peers key) entry)
    (hlimit : ∀ peer ∈ ctx.peers, peer.reliableQueue.maxRetryCount = ctx.config.maxRetryCount)
    (now : UInt32) :
    (queueOf (xglTransportRun env ctx now).peers key).filter (sharesNumber entry)
        = timerOutcome ctx.config.maxRetryCount now entry ∧
      (entry.due now = true → entry.retryCount < ctx.config.maxRetryCount →
        .layerSend (retransmitPacket entry) .ok ∈ recorded ctx (xglTransportRun env ctx now)) := by
  -- the peer of the key, if there is one
  cases hpeer : peerOf ctx.peers key with
  | none =>
    have hmem := hsole.mem
    rw [queueOf, hpeer] at hmem
    cases hmem
  | some peer =>
    have hqueue := queueOf_of_peerOf hpeer
    rw [hqueue] at hsole
    obtain ⟨hgrows, hforall⟩ := transportProcessRetransmissions_timed env ctx.config now ctx.peers
      ctx.io
    obtain ⟨timed, htimed, io, rfl, hbefore, hafter⟩ :=
      peerOf_forall₂ hforall (fun _ _ hab => hab.key) hpeer
    obtain ⟨hleft, _, hsent⟩ :=
      retransmissionLoop_filter htakes peer.reliableQueue.maxRetryCount now
      peer.reliableQueue.waitAckList.length [] peer.reliableQueue.waitAckList io (Nat.le_refl _)
      (.inr hsole)
    rw [hlimit peer (peerOf_mem hpeer)] at hleft hsent
    have htimedKeys := @transportProcessRetransmissions_keys env ctx hkeys now
    refine ⟨?_, fun hdue hfew => ?_⟩
    · have hfragmentKeys : KeysDistinct (transportProcessFragmentTimeouts { ctx with
          peers := (transportProcessRetransmissions env ctx.config now ctx.peers ctx.io).1
          io := (transportProcessRetransmissions env ctx.config now ctx.peers ctx.io).2 }
            now).peers := by
        rw [transportProcessFragmentTimeouts_peers]
        exact htimedKeys
      simp only [xglTransportRun]
      rw [queueOf_transportReclaimIdlePeers hfragmentKeys, transportProcessFragmentTimeouts_peers]
      show (queueOf (transportProcessRetransmissions env ctx.config now ctx.peers
        ctx.io).1 key).filter _ = _
      rw [queueOf_of_peerOf htimed]
      show (retransmissionLoop env ctx.config peer.reliableQueue.maxRetryCount now _ [] _
        io).1.filter _ = _
      rw [hlimit peer (peerOf_mem hpeer), hleft, hsole, List.flatMap_singleton]
      rfl
    · -- the transmission is recorded behind the log before the run
      obtain ⟨front, hfront, hlast⟩ := hsent hsole hdue hfew
      rw [← hlimit peer (peerOf_mem hpeer)] at hlast
      have hwhole : front ++ [.layerSend (retransmitPacket entry) .ok]
          <+: (xglTransportRun env ctx now).io.events :=
        (hlast.trans hafter).trans (xglTransportRun_timed_grows env ctx now)
      obtain ⟨more, hmore⟩ := hwhole
      obtain ⟨new, hnew⟩ := hbefore.trans hfront
      rw [recorded, ← hmore, ← hnew, List.append_assoc, List.append_assoc, List.drop_left]
      simp

/-- A run acts on a packet with its number to itself exactly when its timer is due. -/
theorem timerActs_iff (hkeys : KeysDistinct ctx.peers) (htakes : TakesAgain env ctx.config entry)
    (hsole : SoleOf (queueOf ctx.peers key) entry)
    (hlimit : ∀ peer ∈ ctx.peers, peer.reliableQueue.maxRetryCount = ctx.config.maxRetryCount)
    (now : UInt32) : TimerActs env ctx key entry now ↔ entry.due now = true := by
  obtain ⟨hleft, hsent⟩ := xglTransportRun_filter hkeys htakes hsole hlimit now
  have hown : sharesNumber entry entry = true := by simp [sharesNumber, ReliablePacket.isFor]
  rw [timerOutcome] at hleft
  constructor
  · intro hacts
    by_contra hidle
    rw [if_pos (by simpa using hidle)] at hleft
    have hstays : entry ∈ queueOf (xglTransportRun env ctx now).peers key :=
      List.mem_of_mem_filter (hleft ▸ List.mem_singleton_self entry)
    rcases hacts with ⟨hmarked, _⟩ | hgone
    · -- the queue holds the packet as it was, and a stamped one would have its number too
      have hmem : markRetransmitted now entry ∈ [entry] := by
        rw [← hleft]
        exact List.mem_filter.mpr ⟨hmarked, hown⟩
      have hcount := congrArg ReliablePacket.retransmissions (List.mem_singleton.mp hmem)
      exact absurd hcount (Nat.succ_ne_self _)
    · rw [hgone entry hstays] at hown
      cases hown
  · intro hdue
    rw [if_neg (by simp [hdue])] at hleft
    split at hleft
    · exact .inr fun other hmem => by simpa using List.filter_eq_nil_iff.mp hleft other hmem
    · rename_i hfew
      have hmarked : markRetransmitted now entry
          ∈ (queueOf (xglTransportRun env ctx now).peers key).filter (sharesNumber entry) :=
        hleft ▸ List.mem_singleton_self _
      exact .inl ⟨List.mem_of_mem_filter hmarked, hsent hdue (UInt8.not_le.mp hfew)⟩

/-- The timer of a packet `d` after its stamp. -/
theorem due_after (entry : ReliablePacket) (d : UInt32) :
    entry.due (entry.sendTimestamp + d) = true ↔
      entry.sendTimestamp ≠ 0 ∧ entry.timeoutMs.toUInt32 ≤ d := by
  have helapsed : entry.sendTimestamp + d - entry.sendTimestamp = d := by
    rw [UInt32.add_comm, UInt32.add_sub_cancel]
  simp only [ReliablePacket.due, helapsed, Bool.and_eq_true, bne_iff_ne, ne_eq, decide_eq_true_eq,
    ge_iff_le]

/-- The timer of a buffer `d` after its stamp. -/
theorem timedOut_after (buffer : ReassemblyBuffer) (d : UInt32) :
    buffer.timedOut (buffer.firstFragmentTime + d) = true ↔
      buffer.firstFragmentTime ≠ 0 ∧ buffer.timeoutMs ≤ d := by
  have helapsed : buffer.firstFragmentTime + d - buffer.firstFragmentTime = d := by
    rw [UInt32.add_comm, UInt32.add_sub_cancel]
  simp only [ReassemblyBuffer.timedOut, helapsed, Bool.and_eq_true, bne_iff_ne, ne_eq,
    decide_eq_true_eq, ge_iff_le]

/-- A reassembly buffer behind a run. -/
theorem mem_xglTransportRun_buffers {manager : FragmentManager}
    (hmanager : ctx.fragmentMgr = some manager) {buffer : ReassemblyBuffer} (now : UInt32)
    (hmem : buffer ∈ manager.reassemblyList) :
    (∃ after, (xglTransportRun env ctx now).fragmentMgr = some after ∧
      buffer ∈ after.reassemblyList) ↔ buffer.timedOut now = false := by
  have hafter : (xglTransportRun env ctx now).fragmentMgr
      = some (fragmentFreeWhere (fun buffer => buffer.timedOut now) manager) := by
    have hreclaim : ∀ base : TransportCtx,
        (transportReclaimIdlePeers base now).fragmentMgr = base.fragmentMgr := by
      intro base
      simp only [transportReclaimIdlePeers]
      split <;> rfl
    rw [xglTransportRun, hreclaim, transportProcessFragmentTimeouts]
    simp only [hmanager, xglFragmentProcessTimeouts]
  rw [hafter]
  constructor
  · rintro ⟨after, hsome, hbuffer⟩
    cases hsome
    simpa using (List.mem_filter.mp hbuffer).2
  · intro hidle
    exact ⟨_, rfl, List.mem_filter.mpr ⟨hmem, by simp [hidle]⟩⟩

end Run

/-! ### Calls -/

/-- A call into the transport, with the world as it is during the call. -/
structure TransportCall where
  env : TransportEnv
  action : TransportAction

/-- The times of a call: what the clock shows while it lasts, and the time a run is given. -/
def TransportCall.Shows (call : TransportCall) (t : UInt32) : Prop :=
  (∃ read, call.env.clock read = t) ∨ call.action = .run t

/-- One call. -/
def callStep (ctx : TransportCtx) (call : TransportCall) : TransportCtx :=
  transportStep call.env ctx call.action

/-- Calls one after the other. -/
def runCalls (calls : List TransportCall) (ctx : TransportCtx) : TransportCtx :=
  calls.foldl callStep ctx

/-- Calls in two parts. -/
theorem runCalls_append (a b : List TransportCall) (ctx : TransportCtx) :
    runCalls (a ++ b) ctx = runCalls b (runCalls a ctx) :=
  List.foldl_append

/-- The packet waits for its acknowledgement. -/
def Queued (ctx : TransportCtx) (entry : ReliablePacket) : Prop :=
  ∃ peer ∈ ctx.peers, entry ∈ peer.reliableQueue.waitAckList

/-- A packet on its way down is this queued packet. -/
structure CarriesEntry (packet : Packet) (entry : ReliablePacket) : Prop where
  payload : packet.payload? = some entry.data
  number : packet.packetNumber = entry.packetNumber
  target : packet.targetId = entry.targetId

/-- The call hands the packet down, and the layer below takes it. -/
def Transmits (ctx : TransportCtx) (call : TransportCall) (entry : ReliablePacket) : Prop :=
  ∃ packet, CarriesEntry packet entry ∧
    .layerSend packet .ok ∈ recorded ctx (callStep ctx call)

/-- A queued packet was queued before the call, or the call transmitted it and stamped it. -/
def StampedSince (ctx : TransportCtx) (shown : UInt32 → Prop) (_ : UInt8)
    (events : List TransportEvent) (entry : ReliablePacket) : Prop :=
  Queued ctx entry ∨ shown entry.sendTimestamp ∧ ∃ packet, CarriesEntry packet entry ∧
    .layerSend packet .ok ∈ events.drop ctx.io.events.length

/-- Sends stamp what they queue, timers and SACKs what they send again, with times that the clock
shows. -/
theorem stampedSince_rule (ctx : TransportCtx) (shown : UInt32 → Prop) :
    EntryRule (fun limit events entry => ctx.io.events <+: events ∧
        StampedSince ctx shown limit events entry) (fun _ _ => True) shown ctx.io.events where
  mono := by
    rintro limit before after entry hgrows ⟨hstart, hstamped⟩
    refine ⟨hstart.trans hgrows, hstamped.imp_right fun ⟨hshown, packet, hcarries, hmem⟩ => ?_⟩
    obtain ⟨more, rfl⟩ := hgrows
    refine ⟨hshown, packet, hcarries, ?_⟩
    rw [List.drop_append_of_le_length hstart.length_le]
    exact List.mem_append_left _ hmem
  repeated := by
    rintro limit events entry now hshown ⟨hstart, _⟩ _
    refine ⟨hstart.trans (List.prefix_append _ _),
      .inr ⟨hshown, retransmitPacket entry, ⟨rfl, rfl, rfl⟩, ?_⟩⟩
    rw [List.drop_append_of_le_length hstart.length_le]
    exact List.mem_append_right _ (List.mem_singleton_self _)
  timer := fun _ => trivial
  queued := by
    intro limit events config peer txData data n now fragment extensions hstart hshown _ _
    refine ⟨hstart.trans (List.prefix_append _ _), .inr ⟨hshown,
      txPacket config (some peer) txData data n fragment extensions, ⟨rfl, rfl, rfl⟩, ?_⟩⟩
    rw [List.drop_append_of_le_length hstart.length_le]
    exact List.mem_append_right _ (List.mem_singleton_self _)

/-- The invariant of every run: one peer for each key, and queues with the retry limit of the
configuration. -/
structure CallsInv (ctx : TransportCtx) : Prop where
  keys : KeysDistinct ctx.peers
  limit : ∀ peer ∈ ctx.peers, peer.reliableQueue.maxRetryCount = ctx.config.maxRetryCount

/-- What one call does to the queues. -/
theorem callStep_stamped {ctx : TransportCtx} (hinv : CallsInv ctx) (call : TransportCall) :
    CallsInv (callStep ctx call) ∧ ∀ entry, Queued (callStep ctx call) entry →
      Queued ctx entry ∨ call.Shows entry.sendTimestamp ∧ Transmits ctx call entry := by
  have hstart : AllEntries (fun limit events entry => ctx.io.events <+: events ∧
      StampedSince ctx call.Shows limit events entry) ctx := by
    intro peer hpeer
    exact ⟨hinv.limit peer hpeer, fun entry hentry =>
      ⟨List.prefix_rfl, .inl ⟨peer, hpeer, hentry⟩⟩⟩
  have hstep := transportStep_entries (stampedSince_rule ctx call.Shows)
    (fun read => .inl ⟨read, rfl⟩) List.prefix_rfl hstart call.action (fun _ hnow => .inr hnow)
    (by cases call.action <;> simp [ActionSpares, SackSpares])
  refine ⟨⟨transportStep_keys hinv.keys call.action, fun peer hpeer => (hstep peer hpeer).1⟩, ?_⟩
  rintro entry ⟨peer, hpeer, hentry⟩
  exact ((hstep peer hpeer).2 entry hentry).2

/-! ### Reassembly buffers -/

/-- The message is being reassembled in this buffer. -/
def Reassembling (ctx : TransportCtx) (buffer : ReassemblyBuffer) : Prop :=
  ∃ manager, ctx.fragmentMgr = some manager ∧ buffer ∈ manager.reassemblyList

/-- The same message with the same timer. -/
structure SameTimer (old buffer : ReassemblyBuffer) : Prop where
  key : old.key = buffer.key
  stamp : old.firstFragmentTime = buffer.firstFragmentTime
  timeout : old.timeoutMs = buffer.timeoutMs

/-- A fragment of the message of a buffer went into it. -/
def StoredIn (buffer : ReassemblyBuffer) (events : List TransportEvent) : Prop :=
  ∃ packet ext, deliveredFragmentExt packet.extensions = .ok ext ∧
    fragmentKey packet ext = buffer.key ∧ .fragmentStored packet ∈ events

/-- A buffer was there before the call, or the call opened and stamped it. -/
def OpenedSince (ctx : TransportCtx) (shown : UInt32 → Prop) (events : List TransportEvent)
    (buffer : ReassemblyBuffer) : Prop :=
  (∃ old, Reassembling ctx old ∧ SameTimer old buffer) ∨
    shown buffer.firstFragmentTime ∧ StoredIn buffer (events.drop ctx.io.events.length)

/-- Every buffer has bytes and comes from before the call or from the call. -/
structure BuffersStamped (ctx : TransportCtx) (shown : UInt32 → Prop)
    (manager : Option FragmentManager) (events : List TransportEvent) : Prop where
  grows : ctx.io.events <+: events
  buffers : ∀ m, manager = some m → ∀ buffer ∈ m.reassemblyList,
    buffer.receivedBytes ≠ 0 ∧ OpenedSince ctx shown events buffer

section Buffers

variable {ctx : TransportCtx} {shown : UInt32 → Prop} {manager : Option FragmentManager}
  {events after : List TransportEvent}

/-- Stamps of an earlier log are stamps of a later one. -/
theorem BuffersStamped.mono (h : BuffersStamped ctx shown manager events)
    (hgrows : events <+: after) : BuffersStamped ctx shown manager after := by
  refine ⟨h.grows.trans hgrows, fun m hm buffer hmem => ?_⟩
  obtain ⟨hfilled, hopened⟩ := h.buffers m hm buffer hmem
  refine ⟨hfilled, hopened.imp_right fun ⟨hshown, packet, ext, hext, hkey, hstored⟩ => ?_⟩
  obtain ⟨more, rfl⟩ := hgrows
  refine ⟨hshown, packet, ext, hext, hkey, ?_⟩
  rw [List.drop_append_of_le_length h.grows.length_le]
  exact List.mem_append_left _ hstored

/-- Writing to a new buffer at the end of the list. -/
theorem putBuffer_append_fresh {buffers : List ReassemblyBuffer} {fresh new : ReassemblyBuffer}
    (hnone : ∀ other ∈ buffers, other.key ≠ new.key) (hkey : fresh.key = new.key) :
    putBuffer new (buffers ++ [fresh]) = buffers ++ [new] := by
  induction buffers with
  | nil => simp [putBuffer, hkey]
  | cons first rest ih =>
    obtain ⟨hfirst, hrest⟩ := List.forall_mem_cons.mp hnone
    rw [List.cons_append, putBuffer, if_neg (by simpa using hfirst), ih hrest, List.cons_append]

/-- What a fragment that was taken leaves of the buffers. -/
theorem FragmentProcessed.stamped {env : TransportEnv} {io : TransportIo}
    {m after : FragmentManager}
    {packet : Packet} {ext : FragmentExt} {bytes : Bytes} {result : FragmentResult}
    (hclock : ∀ read, shown (env.clock read))
    (hext : deliveredFragmentExt packet.extensions = .ok ext)
    (h : BuffersStamped ctx shown (some m) io.events)
    (hprocessed : FragmentProcessed env m ⟨fragmentKey packet ext, packet.dataType,
      ext.fragmentOffset, ext.messageLen, bytes, 0⟩ result after) :
    BuffersStamped ctx shown (some after)
      (io.events ++ if result.stored then [.fragmentStored packet] else []) := by
  -- the fragment was refused, or it is stored, or it completes its message
  cases hprocessed with
  | invalid err herr hinvalid => simpa using h
  | noBuffer err herr hnone hwhy => simpa using h
  | mismatch buffer hfind hdiffers => simpa using h
  | notInserted buffer err hfind herr => simpa using h
  | waiting base buffer ranges time hopened hfits hpart htime =>
    have hlonger := h.mono (List.prefix_append io.events [.fragmentStored packet])
    have hkey := hopened.find.2
    have hbytes : 0 < bytes.length := by
      have hfilled := hfits.valid.filled
      simp only [FragmentCall.start, FragmentCall.stop] at hfilled
      omega
    rw [if_pos rfl]
    refine ⟨hlonger.grows, fun m' hm other hmem => ?_⟩
    cases hm
    cases hopened with
    | found _ hfind =>
      rcases mem_putBuffer hmem with rfl | hold
      · -- a later fragment keeps the stamp of the first
        obtain ⟨hreceived, horigin⟩ := hlonger.buffers m rfl buffer
            (List.mem_of_find?_eq_some hfind)
        refine ⟨show buffer.receivedBytes + bytes.length ≠ 0 by omega, ?_⟩
        have hstamp : time = buffer.firstFragmentTime := htime.later hreceived
        subst hstamp
        -- the buffer was there before the call, or the call opened it
        rcases horigin with ⟨old, hbefore, hsame⟩ | hnew
        · exact .inl ⟨old, hbefore, hsame.key, hsame.stamp, hsame.timeout⟩
        · exact .inr hnew
      · exact hlonger.buffers m rfl other hold
    | created hnone hroom =>
      have hnew : ∀ old ∈ m.reassemblyList, old.key ≠ (filledBuffer
          (freshBuffer m (fragmentKey packet ext) packet.dataType ext.messageLen)
          ⟨fragmentKey packet ext, packet.dataType, ext.fragmentOffset, ext.messageLen, bytes, 0⟩
          ranges time).key := by
        intro old hold heq
        have hdiffers := List.find?_eq_none.mp hnone old hold
        exact hdiffers (show (old.key == fragmentKey packet ext) = true from beq_iff_eq.mpr heq)
      dsimp only at hmem
      rw [@putBuffer_append_fresh _ (freshBuffer m (fragmentKey packet ext) packet.dataType
        ext.messageLen) _ hnew rfl] at hmem
      rcases List.mem_append.mp hmem with hold | hfresh
      · exact hlonger.buffers m rfl other hold
      · -- the first fragment is stamped with the clock
        rw [List.mem_singleton.mp hfresh]
        refine ⟨show 0 + bytes.length ≠ 0 by omega, .inr ⟨?_, packet, ext, hext, rfl, ?_⟩⟩
        · rcases htime.first rfl with ⟨read, hread⟩ | ⟨hgiven, _⟩
          · exact hread ▸ hclock read
          · exact absurd rfl hgiven
        · rw [List.drop_append_of_le_length h.grows.length_le]
          exact List.mem_append_right _ (List.mem_singleton_self _)
  | completed base buffer ranges time hopened hfits hfull =>
    have hlonger := h.mono (List.prefix_append io.events [.fragmentStored packet])
    rw [if_pos rfl]
    refine ⟨hlonger.grows, fun m' hm other hmem => ?_⟩
    cases hm
    refine hlonger.buffers m rfl other ?_
    dsimp only [unlinkBuffer] at hmem
    cases hopened with
    | found _ hfind => exact List.mem_of_mem_eraseP hmem
    | created hnone hroom =>
      -- the message was whole with its first fragment, and its buffer goes again
      have hnew : ∀ old ∈ m.reassemblyList, ¬ (old.key == (freshBuffer m (fragmentKey packet ext)
          packet.dataType ext.messageLen).key) = true := List.find?_eq_none.mp hnone
      rw [List.eraseP_append_right _ hnew] at hmem
      simpa [List.eraseP_cons] using hmem

/-- Deliveries keep the stamps, when the clock shows these times. -/
theorem buffersStamped_rule (config : TransportConfig) (ctx : TransportCtx)
    (shown : UInt32 → Prop) :
    DeliveryRule config (fun _ => True) (BuffersStamped ctx shown) shown where
  other := fun event _ h => h.mono (List.prefix_append _ _)
  freed := by
    intro manager events test h
    refine ⟨h.grows, fun m hm buffer hmem => ?_⟩
    -- without a manager there are no buffers
    cases hm
    exact h.buffers manager rfl buffer (List.mem_of_mem_filter hmem)
  delivered := by
    intro manager io packet bytes env hclock _ _ h
    have hplain := h.mono (emitRx_grows config io packet bytes)
    cases manager with
    | none => exact hplain
    | some m =>
      simp only [transportDeliverPacket]
      split
      swap
      · exact hplain
      simp only [transportDeliverFragment]
      cases hext : deliveredFragmentExt packet.extensions with
      | error err => exact h
      | ok ext =>
        have hcases := xglFragmentProcessExt_cases env io m ⟨fragmentKey packet ext,
          packet.dataType, ext.fragmentOffset, ext.messageLen, bytes, 0⟩
        have hevents := xglFragmentProcessExt_events env io m (fragmentKey packet ext)
          packet.dataType ext.fragmentOffset ext.messageLen bytes 0
        simp only [FragmentCall.process] at hcases
        dsimp only
        generalize xglFragmentProcessExt env io m (fragmentKey packet ext) packet.dataType
          ext.fragmentOffset ext.messageLen bytes 0 = processed at hcases hevents ⊢
        obtain ⟨result, after, io'⟩ := processed
        dsimp only at hcases hevents ⊢
        have hstamped := hcases.stamped hclock hext h
        have hlog : (emitStored io' packet result.stored).events
            = io.events ++ if result.stored then [.fragmentStored packet] else [] := by
          rw [emitStored]
          split
          · rw [TransportIo.emit_events, hevents]
          · rw [hevents, List.append_nil]
        rw [← hlog] at hstamped
        cases result.error with
        | ok => exact hstamped.mono (emitRx_grows config _ packet _)
        | _ => exact hstamped

end Buffers

/-- The buffers of a context. -/
def buffersOf (ctx : TransportCtx) : Option (List ReassemblyBuffer) :=
  ctx.fragmentMgr.map FragmentManager.reassemblyList

/-- The manager of a context, up to its counter of message ids. -/
def managerOf (ctx : TransportCtx) : Option FragmentManager :=
  ctx.fragmentMgr.map fun manager => { manager with nextMessageId := 0 }

/-- A buffer of the context is one of its manager. -/
theorem reassembling_iff {ctx : TransportCtx} {buffer : ReassemblyBuffer} :
    Reassembling ctx buffer ↔ ∃ buffers, buffersOf ctx = some buffers ∧ buffer ∈ buffers := by
  rw [buffersOf]
  constructor
  · rintro ⟨manager, hmanager, hmem⟩
    exact ⟨_, by rw [hmanager, Option.map_some], hmem⟩
  · rintro ⟨buffers, hbuffers, hmem⟩
    obtain ⟨manager, hmanager, rfl⟩ := Option.map_eq_some_iff.mp hbuffers
    exact ⟨manager, hmanager, hmem⟩

section Requests

variable {env : TransportEnv} {txData : TxData}

/-- Fragments leave the manager alone. -/
theorem transportFragmentLoop_manager (data : Bytes) (messageId : UInt32) (payloadMax : Nat)
    (indices : List Nat) (ctx : TransportCtx) (peer : Option PeerState) :
    (transportFragmentLoop env txData data messageId payloadMax indices ctx peer).2.1.fragmentMgr
      = ctx.fragmentMgr := by
  induction indices generalizing ctx peer with
  | nil => rfl
  | cons i rest ih =>
    have hone : (transportSendOneFragment env txData data messageId payloadMax ctx peer
        i).2.1.fragmentMgr = ctx.fragmentMgr := by
      cases peer with
      | none =>
        simp only [transportSendOneFragment]
        split <;> rfl
      | some state =>
        simp only [transportSendOneFragment]
        split
        · rfl
        split
        · rfl
        · rename_i ext _
          have hcases := transportSendReliablePacket_cases env ctx state txData (readBytes data
            (i * payloadMax) (min (data.length - i * payloadMax) payloadMax)) true ext
          generalize transportSendReliablePacket env ctx state txData (readBytes data
            (i * payloadMax) (min (data.length - i * payloadMax) payloadMax)) true ext = sent
            at hcases ⊢
          cases hcases <;> rfl
    rw [transportFragmentLoop]
    generalize transportSendOneFragment env txData data messageId payloadMax ctx peer i = sent
      at hone ⊢
    obtain ⟨err, after, peer'⟩ := sent
    cases err with
    | ok => exact (ih after peer').trans hone
    | _ => exact hone

/-- The part of a send behind the peer selection leaves the manager alone. -/
theorem transportSendPlanned_manager (ctx : TransportCtx) (peer : Option PeerState)
    (data : Bytes) :
    managerOf (transportSendPlanned env ctx peer txData data).2 = managerOf ctx := by
  have htransmit : ∀ plan,
      managerOf (transportTransmit env ctx peer txData data plan).2.1 = managerOf ctx := by
    intro plan
    simp only [transportTransmit]
    split
    · simp only [transportSendFragmented]
      cases hmanager : ctx.fragmentMgr with
      | none => rfl
      | some manager =>
        dsimp only
        rw [managerOf, transportFragmentLoop_manager, managerOf, hmanager]
        rfl
    · cases peer with
      | none => rfl
      | some state =>
        have hcases := transportSendReliablePacket_cases env ctx state txData
          (transportEncodeData ctx.config txData data) false []
        dsimp only
        generalize transportSendReliablePacket env ctx state txData
          (transportEncodeData ctx.config txData data) false [] = sent at hcases ⊢
        cases hcases <;> rfl
  simp only [transportSendPlanned]
  split
  · split <;> rfl
  · rename_i plan _
    specialize htransmit plan
    generalize transportTransmit env ctx peer txData data plan = sent at htransmit ⊢
    obtain ⟨err, after, peer'⟩ := sent
    cases err with
    | ok => cases peer' <;> exact htransmit
    | _ => cases peer' <;> exact htransmit

/-- A request moves the counter of message ids at most. -/
theorem xglTransportSend_manager (ctx : TransportCtx) :
    managerOf (xglTransportSend env ctx txData).2 = managerOf ctx := by
  simp only [xglTransportSend]
  split
  · rfl
  rename_i data _
  split
  · rfl
  split
  · rfl
  split
  · have hcases := transportPrepareReliableSend_cases env ctx txData
    have hgot : ∀ {base peer}, GetOrCreate ctx txData.peerKey (base, some peer) →
        managerOf base = managerOf ctx := by
      intro base peer hgot
      cases hgot <;> rfl
    generalize transportPrepareReliableSend env ctx txData = prepared at hcases ⊢
    cases hcases with
    | refused hlook session io hevents => rfl
    | full base peer hfound hfull => exact hgot hfound
    | ready base peer hfound hcan hhello =>
      exact (transportSendPlanned_manager base _ data).trans (hgot hfound)
    | greeted base peer hfound hcan hhello io hsent =>
      have hbase := hgot hfound
      exact (transportSendPlanned_manager _ _ data).trans hbase
    | mute base peer hfound hhello err hne io hsent =>
      have hbase := hgot hfound
      cases err with
      | ok => exact absurd rfl hne
      | _ => exact hbase
  · exact transportSendPlanned_manager ctx none data

/-- A request leaves the reassembly buffers. -/
theorem xglTransportSend_buffers (ctx : TransportCtx) :
    buffersOf (xglTransportSend env ctx txData).2 = buffersOf ctx := by
  have hsame := congrArg (Option.map FragmentManager.reassemblyList)
    (@xglTransportSend_manager env txData ctx)
  simp only [managerOf, Option.map_map] at hsame
  exact hsame

end Requests

/-- Every buffer has received bytes. -/
def BuffersFilledInv (ctx : TransportCtx) : Prop :=
  ∀ buffer, Reassembling ctx buffer → buffer.receivedBytes ≠ 0

/-- What one call does to the reassembly buffers. -/
theorem callStep_opened {ctx : TransportCtx} (hinv : BuffersFilledInv ctx) (call : TransportCall) :
    BuffersFilledInv (callStep ctx call) ∧ ∀ buffer, Reassembling (callStep ctx call) buffer →
      (∃ old, Reassembling ctx old ∧ SameTimer old buffer) ∨
        call.Shows buffer.firstFragmentTime ∧
          StoredIn buffer (recorded ctx (callStep ctx call)) := by
  have hstart : Delivers ctx.config (fun _ => True) (BuffersStamped ctx call.Shows) ctx := by
    refine ⟨rfl, fun _ _ _ _ => trivial, List.prefix_rfl, fun m hm buffer hmem => ?_⟩
    exact ⟨hinv buffer ⟨m, hm, hmem⟩, .inl ⟨buffer, ⟨m, hm, hmem⟩, rfl, rfl, rfl⟩⟩
  have hrule := buffersStamped_rule ctx.config ctx call.Shows
  have hsplit : Delivers ctx.config (fun _ => True) (BuffersStamped ctx call.Shows)
      (callStep ctx call) → BuffersFilledInv (callStep ctx call) ∧ ∀ buffer,
        Reassembling (callStep ctx call) buffer →
        (∃ old, Reassembling ctx old ∧ SameTimer old buffer) ∨
          call.Shows buffer.firstFragmentTime ∧
            StoredIn buffer (recorded ctx (callStep ctx call)) := by
    intro h
    exact ⟨fun buffer ⟨m, hm, hmem⟩ => (h.log.buffers m hm buffer hmem).1,
      fun buffer ⟨m, hm, hmem⟩ => (h.log.buffers m hm buffer hmem).2⟩
  obtain ⟨env, action⟩ := call
  cases action with
  | send txData =>
    have hsame : ∀ buffer, Reassembling (callStep ctx ⟨env, .send txData⟩) buffer →
        Reassembling ctx buffer := by
      intro buffer hbuffer
      rw [reassembling_iff] at hbuffer ⊢
      rwa [callStep, transportStep, xglTransportSend_buffers] at hbuffer
    exact ⟨fun buffer hbuffer => hinv buffer (hsame buffer hbuffer), fun buffer hbuffer =>
      .inl ⟨buffer, hsame buffer hbuffer, rfl, rfl, rfl⟩⟩
  | receive packet =>
    exact hsplit (xglTransportReceive_delivers hrule (fun read => .inl ⟨read, rfl⟩) hstart
      fun _ => trivial)
  | run now => exact hsplit (xglTransportRun_delivers hrule hstart)

/-! ### Runs of calls -/

/-- The last transmission of a queued packet: a call at which the clock shows `t` hands it down,
and it waits in the queue since then as that call left it. -/
def LastSentAt (calls : List TransportCall) (ctx : TransportCtx) (entry : ReliablePacket)
    (t : UInt32) : Prop :=
  ∃ before call after, calls = before ++ call :: after ∧ call.Shows t ∧
    Transmits (runCalls before ctx) call entry ∧
    ∀ mid, mid <+: after → Queued (runCalls (before ++ call :: mid) ctx) entry

/-- The first fragment of a message that is not whole: a call at which the clock shows `t` stores
it, and the message is being reassembled since then. -/
def FirstFragmentAt (calls : List TransportCall) (ctx : TransportCtx) (buffer : ReassemblyBuffer)
    (t : UInt32) : Prop :=
  ∃ before call after, calls = before ++ call :: after ∧ call.Shows t ∧
    StoredIn buffer (recorded (runCalls before ctx) (callStep (runCalls before ctx) call)) ∧
    ∀ mid, mid <+: after → ∃ kept, Reassembling (runCalls (before ++ call :: mid) ctx) kept ∧
      SameTimer kept buffer

section Runs

variable {ctx : TransportCtx}

/-- In every run the stamp of a queued packet is the clock value of its last transmission. The
induction is on the calls, from the last one. -/
theorem runCalls_sent (hinv : CallsInv ctx) (hfresh : ∀ entry, ¬ Queued ctx entry)
    (calls : List TransportCall) :
    CallsInv (runCalls calls ctx) ∧ ∀ entry, Queued (runCalls calls ctx) entry →
      LastSentAt calls ctx entry entry.sendTimestamp := by
  induction calls using List.reverseRecOn with
  | nil => exact ⟨hinv, fun entry h => absurd h (hfresh entry)⟩
  | append_singleton calls call ih =>
    obtain ⟨hmid, hsent⟩ := ih
    have hlast : runCalls (calls ++ [call]) ctx = callStep (runCalls calls ctx) call :=
      runCalls_append calls [call] ctx
    obtain ⟨hafter, hstamped⟩ := callStep_stamped hmid call
    rw [hlast]
    refine ⟨hafter, fun entry hentry => ?_⟩
    rcases hstamped entry hentry with hold | ⟨hshows, htransmits⟩
    · -- the call left the packet alone
      obtain ⟨before, first, after, rfl, hshows, htransmits, hstays⟩ := hsent entry hold
      refine ⟨before, first, after ++ [call], by simp, hshows, htransmits, fun mid hprefix => ?_⟩
      rcases List.prefix_concat_iff.mp hprefix with rfl | hshorter
      · rw [← List.cons_append, ← List.append_assoc, hlast]
        exact hentry
      · exact hstays mid hshorter
    · refine ⟨calls, call, [], rfl, hshows, htransmits, fun mid hprefix => ?_⟩
      rw [List.prefix_nil.mp hprefix, hlast]
      exact hentry

/-- In every run the stamp of a buffer is the clock value of the first fragment. -/
theorem runCalls_opened (hinv : BuffersFilledInv ctx) (hfresh : ∀ buffer, ¬ Reassembling ctx buffer)
    (calls : List TransportCall) :
    BuffersFilledInv (runCalls calls ctx) ∧ ∀ buffer, Reassembling (runCalls calls ctx) buffer →
      FirstFragmentAt calls ctx buffer buffer.firstFragmentTime := by
  induction calls using List.reverseRecOn with
  | nil => exact ⟨hinv, fun buffer h => absurd h (hfresh buffer)⟩
  | append_singleton calls call ih =>
    obtain ⟨hmid, hopened⟩ := ih
    have hlast : runCalls (calls ++ [call]) ctx = callStep (runCalls calls ctx) call :=
      runCalls_append calls [call] ctx
    obtain ⟨hafter, hstamped⟩ := callStep_opened hmid call
    rw [hlast]
    refine ⟨hafter, fun buffer hbuffer => ?_⟩
    rcases hstamped buffer hbuffer with ⟨old, hold, hsame⟩ | ⟨hshows, hstored⟩
    · obtain ⟨before, first, after, rfl, hshows, hstored, hstays⟩ := hopened old hold
      rw [hsame.stamp] at hshows
      obtain ⟨packet, ext, hext, hkey, hmem⟩ := hstored
      refine ⟨before, first, after ++ [call], by simp, hshows,
        ⟨packet, ext, hext, hkey.trans hsame.key, hmem⟩, fun mid hprefix => ?_⟩
      rcases List.prefix_concat_iff.mp hprefix with rfl | hshorter
      · rw [← List.cons_append, ← List.append_assoc, hlast]
        exact ⟨buffer, hbuffer, rfl, rfl, rfl⟩
      · obtain ⟨kept, hkept, hkeptSame⟩ := hstays mid hshorter
        exact ⟨kept, hkept, hkeptSame.key.trans hsame.key, hkeptSame.stamp.trans hsame.stamp,
          hkeptSame.timeout.trans hsame.timeout⟩
    · refine ⟨calls, call, [], rfl, hshows, hstored, fun mid hprefix => ?_⟩
      rw [List.prefix_nil.mp hprefix, hlast]
      exact ⟨buffer, hbuffer, rfl, rfl, rfl⟩

end Runs

/-- The settings stay. -/
theorem runCalls_config (calls : List TransportCall) (ctx : TransportCtx) :
    (runCalls calls ctx).config = ctx.config :=
  @foldl_invariant _ _ callStep (fun state => state.config = ctx.config)
    (fun state call h => (transportStep_config call.env state call.action).trans h) calls ctx rfl

/-- In every run of a fresh transport, a queued packet was last transmitted at a clock value `t`,
and a message that is not whole had its first fragment at one. A run at `t + d` then acts on the
packet, or frees the buffer, exactly when its timeout is at most `d`, for every 32-bit `d`, if and
only if `t` is not 0. -/
theorem timers_fire_iff (config : TransportConfig) (ctx : TransportCtx)
    (hinit : xglTransportInit config = .ok ctx) (calls : List TransportCall) :
    (∀ entry, Queued (runCalls calls ctx) entry → ∃ t, LastSentAt calls ctx entry t ∧
      ∀ env key, TakesAgain env config entry →
        SoleOf (queueOf (runCalls calls ctx).peers key) entry →
        ((∀ d, TimerActs env (runCalls calls ctx) key entry (t + d) ↔
          entry.timeoutMs.toUInt32 ≤ d) ↔ t ≠ 0)) ∧
    ∀ buffer, Reassembling (runCalls calls ctx) buffer → ∃ t, FirstFragmentAt calls ctx buffer t ∧
      ∀ env, ((∀ d, ¬ Reassembling (xglTransportRun env (runCalls calls ctx) (t + d)) buffer ↔
        buffer.timeoutMs ≤ d) ↔ t ≠ 0) := by
  obtain ⟨hpeers, _, hconfig⟩ := xglTransportInit_fresh hinit
  have hmanagers := (xglTransportInit_manager hinit).2
  have hqueues : ∀ entry, ¬ Queued ctx entry := by
    rintro entry ⟨peer, hpeer, _⟩
    rw [hpeers] at hpeer
    cases hpeer
  have hbuffers : ∀ buffer, ¬ Reassembling ctx buffer := by
    rintro buffer ⟨manager, hmanager, hmem⟩
    rw [hmanagers manager hmanager] at hmem
    cases hmem
  have hinv : CallsInv ctx := by
    refine ⟨?_, fun peer hpeer => ?_⟩
    · rw [KeysDistinct, hpeers]
      exact List.nodup_nil
    · rw [hpeers] at hpeer
      cases hpeer
  obtain ⟨hstate, hsent⟩ := runCalls_sent hinv hqueues calls
  obtain ⟨_, hopened⟩ := runCalls_opened (fun buffer h => absurd h (hbuffers buffer)) hbuffers calls
  have hsettings := runCalls_config calls ctx
  refine ⟨fun entry hentry => ⟨entry.sendTimestamp, hsent entry hentry, ?_⟩,
    fun buffer hbuffer => ⟨buffer.firstFragmentTime, hopened buffer hbuffer, ?_⟩⟩
  · intro env key htakes hsole
    rw [← hconfig, ← hsettings] at htakes
    have hacts : ∀ d, TimerActs env (runCalls calls ctx) key entry (entry.sendTimestamp + d) ↔
        entry.sendTimestamp ≠ 0 ∧ entry.timeoutMs.toUInt32 ≤ d := fun d =>
      (timerActs_iff hstate.keys htakes hsole hstate.limit _).trans (due_after entry d)
    refine ⟨fun h hzero => ?_, fun hset d => ?_⟩
    · -- with the stamp 0 the timer is not due even when its time has come
      have hnow := (h entry.timeoutMs.toUInt32).mpr (UInt32.le_refl _)
      exact ((hacts _).mp hnow).1 hzero
    · rw [hacts d]
      exact ⟨fun hboth => hboth.2, fun hle => ⟨hset, hle⟩⟩
  · intro env
    obtain ⟨manager, hmanager, hmem⟩ := hbuffer
    have hfreed : ∀ d, ¬ Reassembling (xglTransportRun env (runCalls calls ctx)
        (buffer.firstFragmentTime + d)) buffer ↔
          buffer.firstFragmentTime ≠ 0 ∧ buffer.timeoutMs ≤ d := by
      intro d
      rw [← timedOut_after, Reassembling, mem_xglTransportRun_buffers hmanager _ hmem,
        Bool.not_eq_false]
    refine ⟨fun h hzero => ?_, fun hset d => ?_⟩
    · have hnow := (h buffer.timeoutMs).mpr (UInt32.le_refl _)
      exact ((hfreed _).mp hnow).1 hzero
    · rw [hfreed d]
      exact ⟨fun hboth => hboth.2, fun hle => ⟨hset, hle⟩⟩

/-- A request of node 1 while the clock shows `t`. -/
def sendAt (t : UInt32) : TransportCall where
  env := { calmEnv with clock := fun _ => t }
  action := .send sampleTx

/-- The queued packet of that request. -/
def sentEntryAt (t : UInt32) : ReliablePacket :=
  { sampleEntry with timeoutMs := 1000, sendTimestamp := t }

/-- A packet sent at 7 is sent again at 1007. -/
theorem timers_fire_iff_sent_at_seven :
    xglTransportInit senderConfig = .ok senderTransport ∧
      TimerActs calmEnv (runCalls [sendAt 7] senderTransport) (scopedKey 2 5 0) (sentEntryAt 7)
        1007 := by
  have hqueued : Queued (runCalls [sendAt 7] senderTransport) (sentEntryAt 7) := by
    unfold Queued
    decide
  obtain ⟨t, hsent, htimer⟩ := (timers_fire_iff senderConfig senderTransport rfl [sendAt 7]).1
    (sentEntryAt 7) hqueued
  -- the one call of the run is the transmission
  have hseven : t = 7 := by
    obtain ⟨before, call, after, hcalls, hshows, _⟩ := hsent
    have hcall : call = sendAt 7 := by
      have hmem : call ∈ [sendAt 7] := by simp [hcalls]
      exact List.mem_singleton.mp hmem
    subst hcall
    rcases hshows with ⟨_, hread⟩ | hrun
    · exact hread.symm
    · cases hrun
  subst hseven
  have hfires := (htimer calmEnv (scopedKey 2 5 0) ⟨rfl, fun _ => rfl⟩
      (by unfold SoleOf; decide)).mpr
    (by decide)
  exact ⟨rfl, (hfires 1000).mpr (by decide)⟩

/-- A packet sent while the clock shows 0 has its timeout of 1000 ms behind it at 5000, and the
run does nothing with it. -/
theorem sent_at_zero :
    Queued (runCalls [sendAt 0] senderTransport) (sentEntryAt 0) ∧
      (sentEntryAt 0).timeoutMs.toUInt32 ≤ 5000 ∧
      ¬ TimerActs calmEnv (runCalls [sendAt 0] senderTransport) (scopedKey 2 5 0) (sentEntryAt 0)
        (0 + 5000) := by
  unfold Queued TimerActs
  decide

end XgenLink
