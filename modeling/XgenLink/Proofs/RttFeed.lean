import XgenLink.Proofs.PeerRule
import XgenLink.Proofs.AckWindows
import XgenLink.Transport.Rtt

/-!
# `XgenLink.Proofs.RttFeed`: acknowledgements and the RTT estimator

Every peer has an estimator of its round trip, from which the timeout of its packets is to be
derived. An acknowledgement of a packet that was sent once is a measurement of the round trip, and
`xgl_rtt_update` is there to take it; a packet that was sent again gives none, since the
acknowledgement may be that of either transmission.

No path of the transport calls `xgl_rtt_update`. An acknowledgement changes the windows, the queue
and the cached deadline of its peer and nothing else (`AckSpec.peerFrame`), and the estimator a
peer was created with is the one it keeps. So every timeout stays the initial one.

* `releasedFresh`, `rttSample`: the measurements that an acknowledgement would give.
* `EstimatorFed`: the estimator has taken them.
* `transportApplyAck_rttEst`, `runActions_rttEst`: it is never written.
* `takesSamples_new_iff`: a measurement would show.
* `rtt_fed_iff`: when a transport that never measures agrees with one that does.
-/

set_option autoImplicit false

namespace XgenLink

/-- The entries sent once whose number an acknowledgement took out of the queue. -/
def releasedFresh (before after : PeerState) : List ReliablePacket :=
  before.reliableQueue.waitAckList.filter fun c =>
    c.retryCount == 0 &&
      after.reliableQueue.waitAckList.all fun kept => kept.packetNumber != c.packetNumber

/-- The measurement a packet gives when it is acknowledged at `now`. -/
def rttSample (now : UInt32) (c : ReliablePacket) : Int32 :=
  (now - c.sendTimestamp).toInt32

/-- The estimator of the peer has taken the measurements of these entries, in some order. -/
def TakesSamples (released : List ReliablePacket) (now : UInt32) (before after : RttEstimator) :
    Prop :=
  ∃ order : List ReliablePacket, order.Perm released ∧
    (order.map (rttSample now)).foldlM xglRttUpdate before = some after

/-- The acknowledgement that turned `before` into `after` fed the estimator with one measurement
for each packet that was sent once, and with no other. -/
def EstimatorFed (before after : PeerState) (now : UInt32) : Prop :=
  TakesSamples (releasedFresh before after) now before.rttEst after.rttEst

/-! ### The estimator is never written -/

/-- Queueing and sending a packet changes the sender part of a peer only. -/
theorem transportSendReliablePacket_frame (env : TransportEnv) (ctx : TransportCtx)
    (peer : PeerState) (txData : TxData) (data : Bytes) (fragment : Bool) (extensions : Bytes) :
    ∃ window queue deadline,
      (transportSendReliablePacket env ctx peer txData data fragment extensions).2.2 =
        { peer with
          txWindow := window, reliableQueue := queue, earliestDeadlineMs := deadline } := by
  simp only [transportSendReliablePacket, transportQueueReliableTx]
  by_cases hempty : (data.length == 0) = true
  · rw [if_pos hempty]
    exact ⟨_, _, _, rfl⟩
  rw [if_neg hempty]
  by_cases halloc : (!(reliableTxAlloc env ctx.io data fragment extensions).1) = true
  · rw [if_pos halloc]
    exact ⟨_, _, _, rfl⟩
  rw [if_neg halloc]
  simp only [transportSendReliableView]
  split <;> exact ⟨_, _, _, rfl⟩

/-- Every peer keeps the estimator it was created with. -/
theorem rttEst_rule (env : TransportEnv) : PeerRule env fun peer => peer.rttEst = {} where
  fresh _ _ := rfl
  reset _ _ _ _ := rfl
  session _ _ _ _ h := h
  rx _ _ h := h
  send ctx peer txData data fragment extensions h := by
    obtain ⟨window, queue, deadline, heq⟩ :=
      transportSendReliablePacket_frame env ctx peer txData data fragment extensions
    rw [heq]
    exact h
  timers _ _ _ _ h := h

/-- An acknowledgement leaves the estimator alone, in any state. -/
theorem transportApplyAck_rttEst (env : TransportEnv) (ctx : TransportCtx) (peer : PeerState)
    (packet : Packet) : (transportApplyAck env ctx peer packet).peer.rttEst = peer.rttEst := by
  obtain ⟨window, queue, deadline, heq⟩ := (transportApplyAck_spec env ctx peer packet).peerFrame
  rw [heq]

/-- In every state of a run all estimators are new. -/
theorem runActions_rttEst {env : TransportEnv} {config : TransportConfig} {ctx : TransportCtx}
    (hinit : xglTransportInit config = .ok ctx) (actions : List TransportAction) :
    AllPeers (fun peer => peer.rttEst = {}) (runActions env actions ctx).peers := by
  refine runActions_rule (rttEst_rule env) ?_ actions ?_
  · intro base peer packet h
    rw [transportApplyAck_rttEst]
    exact h
  · have hnone := (xglTransportInit_fresh hinit).1
    intro peer hpeer
    rw [hnone] at hpeer
    cases hpeer

/-! ### What a measurement leaves -/

/-- A measurement initializes the estimator. -/
theorem xglRttUpdate_initialized {est after : RttEstimator} {measured : Int32}
    (h : xglRttUpdate est measured = some after) : after.initialized = true := by
  simp only [xglRttUpdate, Option.bind_eq_bind, Option.bind_eq_some_iff] at h
  obtain ⟨⟨srtt, rttvar⟩, -, product, -, rto, -, hafter⟩ := h
  injection hafter with hafter
  rw [← hafter]

/-- Measurements do not come to nothing: the estimator they leave is initialized. -/
theorem foldlM_xglRttUpdate_initialized {samples : List Int32} {est after : RttEstimator}
    (h : samples.foldlM xglRttUpdate est = some after)
    (hinit : samples ≠ [] ∨ est.initialized = true) : after.initialized = true := by
  induction samples generalizing est with
  | nil =>
    have hsame : est = after := Option.some.inj h
    rcases hinit with hne | hinit
    · exact absurd rfl hne
    · exact hsame ▸ hinit
  | cons sample rest ih =>
    rw [List.foldlM_cons] at h
    cases hfirst : xglRttUpdate est sample with
    | none =>
      rw [hfirst] at h
      cases h
    | some mid =>
      rw [hfirst] at h
      exact ih h (.inr (xglRttUpdate_initialized hfirst))

/-- A new estimator stays new only without measurements. -/
theorem takesSamples_new_iff (released : List ReliablePacket) (now : UInt32) :
    TakesSamples released now {} {} ↔ released = [] := by
  constructor
  · rintro ⟨order, hperm, hfold⟩
    by_contra hne
    have hsamples : order.map (rttSample now) ≠ [] := by
      intro hnil
      rw [List.map_eq_nil_iff] at hnil
      rw [hnil] at hperm
      exact hne hperm.nil_eq.symm
    have hinit := foldlM_xglRttUpdate_initialized hfold (.inl hsamples)
    cases hinit
  · rintro rfl
    exact ⟨[], .refl _, rfl⟩

/-! ### Runs that never measure -/

/-- In any state an acknowledgement feeds the estimator only where the measurements would leave it
as it is. In every state of a run, where no estimator has taken a measurement yet, that means: only
where the acknowledgement releases no packet that was sent once; and a send without a timeout of its
own goes on with the initial 1000 ms. -/
theorem rtt_fed_iff (env : TransportEnv) :
    (∀ (ctx : TransportCtx) (peer : PeerState) (packet : Packet) (now : UInt32),
      EstimatorFed peer (transportApplyAck env ctx peer packet).peer now ↔
        TakesSamples (releasedFresh peer (transportApplyAck env ctx peer packet).peer) now
          peer.rttEst peer.rttEst) ∧
    ∀ (config : TransportConfig) (ctx : TransportCtx), xglTransportInit config = .ok ctx →
      ∀ (actions : List TransportAction) (packet : Packet) (peer after : PeerState),
        transportFindAckPeer (runActions env actions ctx).peers packet = some peer →
        after ∈ (xglTransportReceive env (runActions env actions ctx) packet).2.peers →
        after.key = peer.key →
        (∀ now, EstimatorFed peer after now ↔ releasedFresh peer after = []) ∧
        ∀ txData : TxData, txData.timeoutMs = 0 →
          transportSendTimeoutMs ctx.config after txData = 1000 := by
  constructor
  · intro ctx peer packet now
    rw [EstimatorFed, transportApplyAck_rttEst]
  · intro config ctx hinit actions packet peer after hfind hafter _
    have hpeers := @runActions_rttEst env config ctx hinit actions
    have hreceived : AllPeers (fun peer => peer.rttEst = {})
        (runActions env (actions ++ [.receive packet]) ctx).peers := runActions_rttEst hinit _
    have hbefore : peer.rttEst = {} := hpeers peer
        (peerOf_mem (peerOf_of_transportFindAckPeer hfind))
    have hstep : (runActions env (actions ++ [.receive packet]) ctx).peers
        = (xglTransportReceive env (runActions env actions ctx) packet).2.peers := by
      rw [runActions, List.foldl_append]
      rfl
    rw [hstep] at hreceived
    have hkept : after.rttEst = {} := hreceived after hafter
    constructor
    · intro now
      rw [EstimatorFed, hbefore, hkept]
      exact takesSamples_new_iff _ now
    · intro txData htimeout
      unfold transportSendTimeoutMs
      rw [htimeout, hkept]
      rfl

/-- The peer of node 1 while its packet is on the way. -/
def sendingPeer : PeerState where
  peerId := 2
  hasConnectionScope := true
  connectionId := 5
  sessionEpoch := 0
  sessionId := 1
  helloSent := true
  txWindow := { windowSize := 8, nextPacketNumber := 1, ackReceived := List.replicate 8 false }
  reliableQueue :=
    { waitAckList := [{ sampleEntry with sendTimestamp := 1, timeoutMs := 1000 }]
      maxRetryCount := 3 }
  lastActiveMs := 2
  earliestDeadlineMs := 1001

/-- The same peer once the packet is acknowledged. -/
def releasedPeer : PeerState :=
  { sendingPeer with
    txWindow := { sendingPeer.txWindow with sendBasePacketNumber := 1 }
    reliableQueue := { waitAckList := [], maxRetryCount := 3 }
    earliestDeadlineMs := 0 }

/-- That run ends with one peer. -/
theorem oneInFlight_peers : oneInFlight.peers = [sendingPeer] := by
  decide +kernel

/-- So does the acknowledgement behind it. -/
theorem oneInFlight_released :
    (xglTransportReceive calmEnv oneInFlight (rangeAck 0 1)).2.peers = [releasedPeer] := by
  decide +kernel

/-- The acknowledgement of a packet sent once, at 1 ms, feeds the estimator at no time. -/
theorem rtt_unfed_single :
    xglTransportInit senderConfig = .ok senderTransport ∧
      transportFindAckPeer oneInFlight.peers (rangeAck 0 1) = some sendingPeer ∧
      (xglTransportReceive calmEnv oneInFlight (rangeAck 0 1)).2.peers = [releasedPeer] ∧
      releasedFresh sendingPeer releasedPeer
        = [{ sampleEntry with sendTimestamp := 1, timeoutMs := 1000 }] ∧
      ¬ ∃ now, EstimatorFed sendingPeer releasedPeer now := by
  refine ⟨rfl, by rw [oneInFlight_peers]; rfl, oneInFlight_released, by decide, ?_⟩
  rintro ⟨now, hfed⟩
  have hnone := (takesSamples_new_iff (releasedFresh sendingPeer releasedPeer) now).mp hfed
  exact absurd hnone (by decide)

/-- In that run the estimator is fed just when nothing is released, and the next send waits
1000 ms. -/
theorem rtt_fed_iff_single :
    (∀ now, EstimatorFed sendingPeer releasedPeer now ↔
        releasedFresh sendingPeer releasedPeer = []) ∧
      transportSendTimeoutMs senderConfig releasedPeer sampleTx = 1000 := by
  have hfind : transportFindAckPeer (runActions calmEnv [.send sampleTx] senderTransport).peers
      (rangeAck 0 1) = some sendingPeer := by
    show transportFindAckPeer oneInFlight.peers (rangeAck 0 1) = some sendingPeer
    rw [oneInFlight_peers]
    rfl
  have hafter : releasedPeer ∈ (xglTransportReceive calmEnv
      (runActions calmEnv [.send sampleTx] senderTransport) (rangeAck 0 1)).2.peers := by
    show releasedPeer ∈ (xglTransportReceive calmEnv oneInFlight (rangeAck 0 1)).2.peers
    rw [oneInFlight_released]
    exact List.mem_singleton_self _
  obtain ⟨hfed, htimeout⟩ := (rtt_fed_iff calmEnv).2 senderConfig senderTransport rfl
    [.send sampleTx] (rangeAck 0 1) sendingPeer releasedPeer hfind hafter rfl
  exact ⟨hfed, htimeout sampleTx rfl⟩

end XgenLink
