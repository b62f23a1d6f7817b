import XgenLink.Lib.Run
import XgenLink.Proofs.EventLog
import XgenLink.Proofs.ReliableSend

/-!
# `XgenLink.Proofs.QueueEntries`: facts about the packets in the queues

A fact about a queued packet may speak about the events so far: that the packet was sent before,
at which time, or how often. Sends put packets into a queue behind their first transmission, the
timers and SACKs retransmit packets, and everything else only takes packets out or appends events.
So a fact holds of every packet in every queue when it holds behind a first transmission, and
survives a retransmission and a longer log.

This module goes through the calls of the transport for that. A retransmission by a SACK needs no
timer, so a fact may not survive one; then it is asked of a run that its SACKs spare the packets
in question.

* `RepeatRule`, `EntryRule`: what a fact has to meet.
* `Repeats`: two logs with retransmissions of packets with the fact between them.
* `AllEntries`: it holds of every packet in every queue.
* `retransmissionLoop_entries`, `sackLoop_entries`: the two loops that send packets again.
* `transportSendReliablePacket_entries`: a first transmission.
* `transportStep_entries`, `runActions_entries`: one action keeps it, and a run does.
-/

set_option autoImplicit false

namespace XgenLink

/-! ### Facts -/

/-- A fact about queued packets that retransmissions keep, when the packet may be sent
again. `limit` is the retry limit of the queue, and packets are stamped with times that are
`shown` by the clock. -/
structure RepeatRule (P : UInt8 → List TransportEvent → ReliablePacket → Prop)
    (mayRepeat : UInt8 → ReliablePacket → Prop) (shown : UInt32 → Prop := fun _ => True) :
    Prop where
  mono : ∀ {limit before after entry}, before <+: after → P limit before entry →
    P limit after entry
  repeated : ∀ {limit events entry} (now : UInt32), shown now → P limit events entry →
    mayRepeat limit entry →
    P limit (events ++ [.layerSend (retransmitPacket entry) .ok]) (markRetransmitted now entry)
  timer : ∀ {limit : UInt8} {entry : ReliablePacket}, entry.retryCount < limit →
    mayRepeat limit entry

/-- Such a fact that holds of every packet a send puts into a queue, behind a log that begins with
`start`. -/
structure EntryRule (P : UInt8 → List TransportEvent → ReliablePacket → Prop)
    (mayRepeat : UInt8 → ReliablePacket → Prop) (shown : UInt32 → Prop := fun _ => True)
    (start : List TransportEvent := []) : Prop extends RepeatRule P mayRepeat shown where
  queued : ∀ {limit events} (config : TransportConfig) (peer : PeerState) (txData : TxData)
    (data : Bytes) (n now : UInt32) (fragment : Bool) (extensions : Bytes), start <+: events →
    shown now → txData.reliable = true → (fragment = false → extensions = []) →
    P limit (events ++ [.layerSend (txPacket config (some peer) txData data n fragment extensions)
        .ok])
      { reliableTxPacket config peer txData data n fragment extensions with sendTimestamp := now }

/-- What was sent in between are retransmissions of packets with the fact. -/
def Repeats (P : UInt8 → List TransportEvent → ReliablePacket → Prop) (limit : UInt8)
    (before after : List TransportEvent) : Prop :=
  ∃ new, after = before ++ new ∧ ∀ packet err, .layerSend packet err ∈ new →
    ∃ events entry, P limit events entry ∧ packet = retransmitPacket entry

section Repeating

variable {P : UInt8 → List TransportEvent → ReliablePacket → Prop} {limit : UInt8}
  {before mid after : List TransportEvent}

/-- Nothing happens in between. -/
theorem Repeats.refl : Repeats P limit before before :=
  ⟨[], (List.append_nil _).symm, fun _ _ h => nomatch h⟩

/-- One stretch behind another. -/
theorem Repeats.trans (h : Repeats P limit before mid) (h' : Repeats P limit mid after) :
    Repeats P limit before after := by
  obtain ⟨first, rfl, hfirst⟩ := h
  obtain ⟨second, rfl, hsecond⟩ := h'
  refine ⟨first ++ second, List.append_assoc _ _ _, fun packet err hmem => ?_⟩
  rcases List.mem_append.mp hmem with hmem | hmem
  · exact hfirst packet err hmem
  · exact hsecond packet err hmem

/-- A log with retransmissions behind it is longer. -/
theorem Repeats.grows (h : Repeats P limit before after) : before <+: after := by
  obtain ⟨new, rfl, _⟩ := h
  exact List.prefix_append _ _

/-- An error report is no retransmission. -/
theorem Repeats.report (config : TransportConfig) (io : TransportIo) (error : XglError)
    (message : String) :
    Repeats P limit io.events (transportReport config io error message).events := by
  simp only [transportReport]
  split
  · exact ⟨_, rfl, fun packet err hmem => by simp at hmem⟩
  · exact .refl

end Repeating

/-- The fact holds of every packet of every queue. -/
def AllEntries (P : UInt8 → List TransportEvent → ReliablePacket → Prop) (ctx : TransportCtx) :
    Prop :=
  ∀ peer ∈ ctx.peers, peer.reliableQueue.maxRetryCount = ctx.config.maxRetryCount ∧
    ∀ entry ∈ peer.reliableQueue.waitAckList, P ctx.config.maxRetryCount ctx.io.events entry

/-- A peer list holds the peer written back. -/
theorem mem_putPeer_self {peer old : PeerState} {peers : List PeerState} (hmem : old ∈ peers)
    (hkey : peer.key = old.key) : peer ∈ putPeer peer peers := by
  induction peers with
  | nil => cases hmem
  | cons first rest ih =>
    simp only [putPeer]
    by_cases hfirst : first.key = peer.key
    · rw [if_pos (by simpa using hfirst)]
      exact List.mem_cons_self
    · rw [if_neg (by simpa using hfirst)]
      rcases List.mem_cons.mp hmem with rfl | hrest
      · exact absurd hkey.symm hfirst
      · exact List.mem_cons_of_mem _ (ih hrest)

/-- An unreliable request appends to the log. -/
theorem transportSendPlanned_unreliable_grows (env : TransportEnv) (ctx : TransportCtx)
    (txData : TxData) (data : Bytes) :
    ctx.io.events <+: (transportSendPlanned env ctx none txData data).2.io.events ∧
      (transportSendPlanned env ctx none txData data).2.config = ctx.config := by
  have hplain : ∀ (ctx : TransportCtx) (piece : Bytes) (fragment : Bool) (ext : Bytes),
      ctx.io.events <+:
        (transportSendUnreliablePacket env ctx txData piece fragment ext).2.io.events :=
    fun _ _ _ _ => List.prefix_append _ _
  have hloop : ∀ (messageId : UInt32) (payloadMax : Nat) (indices : List Nat)
      (ctx : TransportCtx), ctx.io.events <+:
        (transportFragmentLoop env txData data messageId payloadMax indices ctx
          none).2.1.io.events := by
    intro messageId payloadMax indices
    -- the fragments of an unreliable message, by induction on those to come
    induction indices with
    | nil => exact fun ctx => List.prefix_rfl
    | cons i rest ih =>
      intro ctx
      simp only [transportFragmentLoop, transportSendOneFragment]
      cases transportEncodeFragmentExt messageId (i * payloadMax) data.length with
      | error err =>
        cases err with
        | ok => exact ih ctx
        | _ => exact List.prefix_rfl
      | ok ext =>
        have hone := hplain ctx (readBytes data (i * payloadMax)
          (min (data.length - i * payloadMax) payloadMax)) true ext
        dsimp only
        generalize transportSendUnreliablePacket env ctx txData (readBytes data (i * payloadMax)
          (min (data.length - i * payloadMax) payloadMax)) true ext = sent at hone ⊢
        obtain ⟨err, ctx'⟩ := sent
        cases err with
        | ok => exact hone.trans (ih ctx')
        | _ => exact hone
  simp only [transportSendPlanned]
  split
  · split
    · exact ⟨transportReport_grows _ _ _ _, rfl⟩
    · exact ⟨List.prefix_rfl, rfl⟩
  · rename_i plan _
    obtain ⟨_, hconfig, hnone⟩ := transportTransmit_unreliable env ctx txData data plan
    have hgrows : ctx.io.events <+:
        (transportTransmit env ctx none txData data plan).2.1.io.events := by
      simp only [transportTransmit, transportSendFragmented]
      split
      · split
        · exact List.prefix_rfl
        · rename_i manager _
          exact hloop _ _ _ { ctx with
            fragmentMgr := some { manager with nextMessageId := manager.nextMessageId + 1 } }
      · exact hplain _ _ _ _
    generalize transportTransmit env ctx none txData data plan = sent at hconfig hnone hgrows ⊢
    obtain ⟨err, after, peer⟩ := sent
    dsimp only at hconfig hnone hgrows ⊢
    subst hnone
    cases err <;> exact ⟨hgrows, hconfig⟩

/-! ### Looking up and reporting packets -/

/-- A packet of an updated queue was there, or it is the one updated. -/
theorem mem_updateFirst {test : ReliablePacket → Bool} {update : ReliablePacket → ReliablePacket}
    {queue : List ReliablePacket} {entry : ReliablePacket}
    (h : entry ∈ updateFirst test update queue) :
    entry ∈ queue ∨ ∃ old, queue.find? test = some old ∧ entry = update old := by
  induction queue with
  | nil => cases h
  | cons first rest ih =>
    simp only [updateFirst] at h
    by_cases htest : test first = true
    · rw [if_pos htest] at h
      rcases List.mem_cons.mp h with rfl | hmem
      · exact .inr ⟨first, List.find?_cons_of_pos htest, rfl⟩
      · exact .inl (List.mem_cons_of_mem _ hmem)
    · rw [if_neg htest] at h
      rcases List.mem_cons.mp h with rfl | hmem
      · exact .inl List.mem_cons_self
      · rcases ih hmem with hold | ⟨old, hfind, heq⟩
        · exact .inl (List.mem_cons_of_mem _ hold)
        · exact .inr ⟨old, by rw [List.find?_cons_of_neg htest]; exact hfind, heq⟩

/-- Writing through a lookup leaves the other packets. -/
theorem mem_reliableUpdate {queue : ReliableQueue} {n : UInt32} {targetId : UInt16}
    {update : ReliablePacket → ReliablePacket} {entry : ReliablePacket}
    (h : entry ∈ (reliableUpdate queue n targetId update).waitAckList) :
    entry ∈ queue.waitAckList ∨
      ∃ old, xglReliableFindPacketNumber queue n targetId = some old ∧ entry = update old := by
  rw [reliableUpdate, List.mem_reverse] at h
  rcases mem_updateFirst h with hmem | hfound
  · exact .inl (List.mem_reverse.mp hmem)
  · exact .inr hfound

/-- The numbers that a SACK reports missing. -/
def sackMissing (sack : SackExt) : List UInt32 :=
  if (sackIndices sack.bitmap).isEmpty then [sack.basePacket]
  else ((sackIndices sack.bitmap).filter fun i => !transportSackBitIsSet sack.bitmap i).map
    fun i => sack.basePacket + UInt32.ofNat i

/-- The numbers an ACK packet reports missing: those of its first SACK, when there is no
ACK_RANGE. -/
def reportedMissing (packet : Packet) : List UInt32 :=
  let exts := (wireExts packet.extensions packet.extensions.length).1
  match exts.find? fun ext => ext.type == XGL_WIRE_EXT_ACK_RANGE,
      exts.find? fun ext => ext.type == XGL_WIRE_EXT_SACK with
  | none, some ext =>
    match xglWireDecodeSackExtValue ext.value 64 with
    | .ok sack => sackMissing sack
    | .error _ => []
  | _, _ => []

/-- The packets that an ACK packet reports missing may be sent again. -/
def SackSpares (mayRepeat : UInt8 → ReliablePacket → Prop) (ctx : TransportCtx)
    (packet : Packet) : Prop :=
  ∀ peer, transportFindAckPeer ctx.peers packet = some peer → ackReaches packet peer = true →
    ∀ n ∈ reportedMissing packet, ∀ entry ∈ peer.reliableQueue.waitAckList,
      entry.isFor n packet.sourceId = true → mayRepeat ctx.config.maxRetryCount entry

/-- Removing numbers adds no packets. -/
theorem mem_reliableRemoveNumbers {targetId : UInt16} {numbers : List UInt32}
    {acc : Nat × ReliableQueue} {entry : ReliablePacket}
    (h : entry ∈ (reliableRemoveNumbers targetId numbers acc).2.waitAckList) :
    entry ∈ acc.2.waitAckList := by
  induction numbers generalizing acc with
  | nil => exact h
  | cons n rest ih => exact mem_of_mem_reliableUnlink (ih h)

/-- An ACK_RANGE takes packets out and records nothing. When it leaves the packet to a
SACK there was none. -/
theorem transportTryProcessAckRangeExt_entries {ctx : TransportCtx} {peer : PeerState}
    {packet : Packet} :
    let out := transportTryProcessAckRangeExt ctx peer packet.sourceId packet.extensions
    out.ctx.io = ctx.io ∧
      (∀ entry ∈ out.peer.reliableQueue.waitAckList, entry ∈ peer.reliableQueue.waitAckList) ∧
      (out.error = .ok → out.handled = false →
        (wireExts packet.extensions packet.extensions.length).1.find? (fun ext =>
          ext.type == XGL_WIRE_EXT_ACK_RANGE) = none) := by
  simp only [transportTryProcessAckRangeExt]
  split
  · split
    · rename_i err hdecode
      refine ⟨rfl, fun entry hmem => hmem, fun herr => ?_⟩
      simp only [xglWireDecodeAckRangeExtValue] at hdecode
      rw [show err = .ok from herr] at hdecode
      split at hdecode
      · cases hdecode
      split at hdecode
      · cases hdecode
      · split at hdecode <;> cases hdecode
    · simp only [transportProcessAckRange]
      split
      · exact ⟨rfl, fun entry hmem => mem_reliableRemoveNumbers hmem, fun herr => by cases herr⟩
      · exact ⟨rfl, fun entry hmem => mem_reliableRemoveNumbers hmem, fun _ hno => by cases hno⟩
  · rename_i hnone
    exact ⟨rfl, fun entry hmem => hmem, fun _ _ => hnone⟩

/-- No SACK an action processes repeats a packet that may not be repeated. -/
def ActionSpares (mayRepeat : UInt8 → ReliablePacket → Prop) (ctx : TransportCtx) :
    TransportAction → Prop
  | .receive packet => SackSpares mayRepeat ctx packet
  | _ => True

/-! ### Settings -/

section Settings

variable (env : TransportEnv) (ctx : TransportCtx)

/-- Selecting a peer keeps the settings. -/
theorem GetOrCreate.config {ctx : TransportCtx} {key : PeerKey}
    {got : TransportCtx × Option PeerState} (h : GetOrCreate ctx key got) :
    got.1.config = ctx.config := by
  cases h <;> rfl

/-- So does the part of a send behind it. -/
theorem transportSendPlanned_config {peer : PeerState} (txData : TxData) (data : Bytes)
    (hcan : xglWindowCanSendPacketNumber peer.txWindow = true) :
    (transportSendPlanned env ctx (some peer) txData data).2.config = ctx.config := by
  simp only [transportSendPlanned]
  split
  · split <;> rfl
  · rename_i plan _
    obtain ⟨_, hconfig, after, _, hafter, _⟩ :=
      transportTransmit_spec env ctx peer txData data plan hcan
    generalize transportTransmit env ctx (some peer) txData data plan = sent at hconfig hafter ⊢
    obtain ⟨err, sentCtx, sentPeer⟩ := sent
    dsimp only at hconfig hafter ⊢
    subst hafter
    cases err <;> exact hconfig

/-- So does a request. -/
theorem xglTransportSend_config (txData : TxData) :
    (xglTransportSend env ctx txData).2.config = ctx.config := by
  simp only [xglTransportSend]
  split
  · rfl
  split
  · rfl
  split
  · rfl
  split
  · have hcases := transportPrepareReliableSend_cases env ctx txData
    generalize transportPrepareReliableSend env ctx txData = prepared at hcases ⊢
    cases hcases with
    | refused hlook session io hevents => rfl
    | full base peer hgot hfull => exact hgot.config
    | ready base peer hgot hcan hhello =>
      exact (transportSendPlanned_config env base txData _ hcan).trans hgot.config
    | greeted base peer hgot hcan hhello io hsent =>
      refine (transportSendPlanned_config env _ txData _ ?_).trans hgot.config
      exact hcan
    | mute base peer hgot hhello err hne io hsent =>
      cases err with
      | ok => exact absurd rfl hne
      | _ => exact hgot.config
  · exact (transportSendPlanned_unreliable_grows env ctx txData _).2

/-- Receiving a packet keeps the settings. -/
theorem xglTransportReceive_config (packet : Packet) :
    (xglTransportReceive env ctx packet).2.config = ctx.config := by
  simp only [xglTransportReceive]
  split
  · exact transportProcessControlPacket_senders.2.1
  split
  · simp only [transportProcessAckPacket]
    split
    · rfl
    split
    · rfl
    split
    · rfl
    split
    · rfl
    · rename_i peer _ _ _
      obtain ⟨_, _, hctx⟩ := (transportApplyAck_spec env ctx peer packet).ctxFrame
      show (transportApplyAck env ctx peer packet).ctx.config = ctx.config
      rw [hctx]
  split
  · rfl
  · exact (transportReceiveData_senders _).2.1

/-- No action changes the settings. -/
theorem transportStep_config (action : TransportAction) :
    (transportStep env ctx action).config = ctx.config := by
  cases action with
  | send txData => exact xglTransportSend_config env ctx txData
  | receive packet => exact xglTransportReceive_config env ctx packet
  | run now =>
    simp only [transportStep, xglTransportRun, transportReclaimIdlePeers]
    split
    · exact transportProcessFragmentTimeouts_config now
    · exact transportProcessFragmentTimeouts_config now

/-- So does a run. -/
theorem runActions_config (actions : List TransportAction) :
    (runActions env actions ctx).config = ctx.config :=
  foldl_invariant (fun state => state.config = ctx.config)
    (fun state action h => (transportStep_config env state action).trans h) actions ctx rfl

end Settings

section Rule

variable {P : UInt8 → List TransportEvent → ReliablePacket → Prop}
  {mayRepeat : UInt8 → ReliablePacket → Prop} {shown : UInt32 → Prop}
  (rule : RepeatRule P mayRepeat shown)
  {env : TransportEnv} {ctx after : TransportCtx} {config : TransportConfig} {limit : UInt8}

/-! ### Retransmissions -/

include rule

/-- Sending a packet again appends to the log, and the fact stays true. -/
theorem transportRetransmitReliablePacket_entry {io : TransportIo} {entry : ReliablePacket}
    (now : UInt32) (hnow : shown now) (h : P limit io.events entry) (hmay : mayRepeat limit entry) :
    let sent := transportRetransmitReliablePacket env config io entry now
    Repeats P limit io.events sent.2.1.events ∧ P limit sent.2.1.events sent.2.2 := by
  have hrepeats : ∀ err, Repeats P limit io.events
      (io.events ++ [.layerSend (retransmitPacket entry) err]) := by
    refine fun err => ⟨_, rfl, fun packet _ hmem => ⟨io.events, entry, h, ?_⟩⟩
    rw [List.mem_singleton] at hmem
    cases hmem
    rfl
  simp only [transportRetransmitReliablePacket, transportLowerSend]
  by_cases hlower : config.lowerLayer = true
  · rw [if_pos hlower]
    cases herr : (xglLayerSend env io (retransmitPacket entry)).1 with
    | ok =>
      show Repeats P limit io.events (xglLayerSend env io (retransmitPacket entry)).2.events ∧
        P limit (xglLayerSend env io (retransmitPacket entry)).2.events _
      rw [xglLayerSend_events, herr]
      exact ⟨hrepeats _, rule.repeated now hnow h hmay⟩
    | _ =>
      show Repeats P limit io.events (xglLayerSend env io (retransmitPacket entry)).2.events ∧
        P limit (xglLayerSend env io (retransmitPacket entry)).2.events _
      rw [xglLayerSend_events]
      exact ⟨hrepeats _, rule.mono (List.prefix_append _ _) h⟩
  · rw [if_neg hlower]
    exact ⟨Repeats.refl, h⟩

/-- The loop over a queue. The induction is on the rounds; `done` are the packets behind
the cursor. -/
theorem retransmissionLoop_entries (now : UInt32) (hnow : shown now) (fuel : Nat)
    (done rest : List ReliablePacket) (io : TransportIo)
    (h : ∀ entry ∈ done ++ rest, P limit io.events entry) :
    let looped := retransmissionLoop env config limit now fuel done rest io
    Repeats P limit io.events looped.2.events ∧
      ∀ entry ∈ looped.1, P limit looped.2.events entry := by
  induction fuel generalizing done rest io with
  | zero => exact ⟨Repeats.refl, h⟩
  | succ fuel ih =>
    -- the packet at the cursor, if there is one
    cases rest with
    | nil =>
      rw [List.append_nil] at h
      exact ⟨Repeats.refl, h⟩
    | cons packet rest =>
      have hdone : ∀ entry ∈ done, P limit io.events entry := fun entry hmem =>
        h entry (List.mem_append_left _ hmem)
      have hpacket : P limit io.events packet := h packet (by simp)
      have hrest : ∀ entry ∈ rest, P limit io.events entry := fun entry hmem =>
        h entry (List.mem_append_right _ (List.mem_cons_of_mem _ hmem))
      -- the packets behind and in front of the cursor, in a longer log
      have hjoin : ∀ {io' : TransportIo} {packet' : ReliablePacket} {rest' : List ReliablePacket},
          Repeats P limit io.events io'.events → P limit io'.events packet' →
          (∀ e ∈ rest', e ∈ rest) →
            ∀ entry ∈ (done ++ [packet']) ++ rest', P limit io'.events entry := by
        intro io' packet' rest' hgrows hnew hsub entry hmem
        simp only [List.mem_append, List.mem_singleton] at hmem
        rcases hmem with (hmem | rfl) | hmem
        · exact rule.mono hgrows.grows (hdone entry hmem)
        · exact hnew
        · exact rule.mono hgrows.grows (hrest entry (hsub entry hmem))
      simp only [retransmissionLoop]
      split
      · exact ih _ _ io (hjoin Repeats.refl hpacket fun _ he => he)
      split
      · have hgrows : Repeats P limit io.events (transportReport config io .ackTimeout
            "Packet retry count exhausted").events := .report config io _ _
        split
        · obtain ⟨hfurther, hall⟩ := ih _ _ _ (hjoin hgrows (rule.mono hgrows.grows hpacket)
            fun _ he => mem_of_mem_reliableUnlink he)
          exact ⟨hgrows.trans hfurther, hall⟩
        · obtain ⟨hfurther, hall⟩ := ih done rest _ fun entry hmem => by
            rcases List.mem_append.mp hmem with hmem | hmem
            · exact rule.mono hgrows.grows (hdone entry hmem)
            · exact rule.mono hgrows.grows (hrest entry hmem)
          exact ⟨hgrows.trans hfurther, hall⟩
      · rename_i hleft
        rw [ge_iff_le, UInt8.not_le] at hleft
        obtain ⟨hgrows, hnew⟩ :=
          @transportRetransmitReliablePacket_entry _ _ _ rule env config limit
          io packet now hnow hpacket (rule.timer hleft)
        obtain ⟨hfurther, hall⟩ := ih _ _ _ (hjoin hgrows hnew fun _ he => he)
        exact ⟨hgrows.trans hfurther, hall⟩

/-- The loop over the peers. -/
theorem transportProcessRetransmissions_entries (now : UInt32) (hnow : shown now)
    (peers : List PeerState) (io : TransportIo)
    (h : ∀ peer ∈ peers, peer.reliableQueue.maxRetryCount = limit ∧
      ∀ entry ∈ peer.reliableQueue.waitAckList, P limit io.events entry) :
    let timed := transportProcessRetransmissions env config now peers io
    Repeats P limit io.events timed.2.events ∧
      ∀ peer ∈ timed.1, peer.reliableQueue.maxRetryCount = limit ∧
        ∀ entry ∈ peer.reliableQueue.waitAckList, P limit timed.2.events entry := by
  induction peers generalizing io with
  | nil => exact ⟨Repeats.refl, h⟩
  | cons peer rest ih =>
    obtain ⟨hlimit, hentries⟩ := h peer List.mem_cons_self
    obtain ⟨hgrows, hlooped⟩ := @retransmissionLoop_entries _ _ _ rule env config limit now
      hnow peer.reliableQueue.waitAckList.length [] peer.reliableQueue.waitAckList io hentries
    -- the loop of the source runs with the limit of the queue
    have hround : transportRetransmitPeer env config now io peer
        = (transportUpdatePeerDeadline { peer with reliableQueue := { peer.reliableQueue with
            waitAckList := (retransmissionLoop env config limit now
              peer.reliableQueue.waitAckList.length [] peer.reliableQueue.waitAckList io).1 } },
          (retransmissionLoop env config limit now peer.reliableQueue.waitAckList.length []
            peer.reliableQueue.waitAckList io).2) := by
      rw [← hlimit]
      rfl
    simp only [transportProcessRetransmissions, hround]
    obtain ⟨hfurther, hothers⟩ := ih (retransmissionLoop env config limit now
      peer.reliableQueue.waitAckList.length [] peer.reliableQueue.waitAckList io).2
      fun other hmem => ⟨(h other (List.mem_cons_of_mem _ hmem)).1, fun entry he =>
        rule.mono hgrows.grows ((h other (List.mem_cons_of_mem _ hmem)).2 entry he)⟩
    refine ⟨hgrows.trans hfurther, ?_⟩
    intro other hmem
    rcases List.mem_cons.mp hmem with rfl | hmem
    · exact ⟨hlimit, fun entry he => rule.mono hfurther.grows (hlooped entry he)⟩
    · exact hothers other hmem

/-- Periodic processing. -/
theorem xglTransportRun_entries (now : UInt32) (hnow : shown now) (h : AllEntries P ctx) :
    AllEntries P (xglTransportRun env ctx now) ∧
      Repeats P ctx.config.maxRetryCount ctx.io.events (xglTransportRun env ctx now).io.events := by
  obtain ⟨hgrows, htimed⟩ := @transportProcessRetransmissions_entries _ _ _ rule env ctx.config
    ctx.config.maxRetryCount now hnow ctx.peers ctx.io h
  simp only [xglTransportRun]
  generalize transportProcessRetransmissions env ctx.config now ctx.peers ctx.io = timed
    at hgrows htimed
  have hfragments : Repeats P ctx.config.maxRetryCount timed.2.events
      (transportProcessFragmentTimeouts { ctx with peers := timed.1, io := timed.2 }
        now).io.events := by
    simp only [transportProcessFragmentTimeouts]
    split
    · exact Repeats.refl
    · split
      · exact .report _ _ _ _
      · exact Repeats.refl
  have hreclaim : ∀ base : TransportCtx, (transportReclaimIdlePeers base now).io = base.io ∧
      (transportReclaimIdlePeers base now).config = base.config := by
    intro base
    simp only [transportReclaimIdlePeers]
    split <;> exact ⟨rfl, rfl⟩
  refine ⟨fun peer hpeer => ?_, ?_⟩
  · have hmem := mem_transportReclaimIdlePeers hpeer
    rw [transportProcessFragmentTimeouts_peers] at hmem
    obtain ⟨hlimit, hentries⟩ := htimed peer hmem
    rw [(hreclaim _).1, (hreclaim _).2, transportProcessFragmentTimeouts_config]
    exact ⟨hlimit, fun entry he => rule.mono hfragments.grows (hentries entry he)⟩
  · rw [(hreclaim _).1]
    exact hgrows.trans hfragments

/-! ### Selective acknowledgements -/

/-- The queue and the log while the bits of a SACK are worked on. -/
structure SackKeeps (limit : UInt8) (number : UInt32) (sourceId : UInt16)
    (before after : SackState) : Prop where
  grows : Repeats P limit before.io.events after.io.events
  entries : ∀ entry ∈ after.queue.waitAckList, P limit after.io.events entry
  others : ∀ entry ∈ after.queue.waitAckList,
    entry ∈ before.queue.waitAckList ∨ entry.isFor number sourceId = true

/-- Retransmitting the packet of a number. -/
theorem sackRetransmit_entries {sourceId : UInt16} {n now : UInt32} {state : SackState}
    (hnow : shown now) (h : ∀ entry ∈ state.queue.waitAckList, P limit state.io.events entry)
    (hmay : ∀ entry ∈ state.queue.waitAckList, entry.isFor n sourceId = true →
      mayRepeat limit entry) :
    @SackKeeps P limit n sourceId state (sackRetransmit env config sourceId n now state).2 := by
  simp only [sackRetransmit]
  split
  · exact ⟨Repeats.refl, h, fun entry hmem => .inl hmem⟩
  rename_i missing hfind
  obtain ⟨hmem, hfor⟩ := xglReliableFindPacketNumber_mem hfind
  obtain ⟨hgrows, hsent⟩ := @transportRetransmitReliablePacket_entry _ _ _ rule env config limit
    state.io missing now hnow (h missing hmem) (hmay missing hmem hfor)
  refine ⟨hgrows, ?_, ?_⟩
  · intro entry hentry
    rcases mem_reliableUpdate hentry with hold | ⟨_, _, rfl⟩
    · exact rule.mono hgrows.grows (h entry hold)
    · exact hsent
  · intro entry hentry
    rcases mem_reliableUpdate hentry with hold | ⟨_, _, rfl⟩
    · exact .inl hold
    · -- a retransmission keeps number and target
      refine .inr ?_
      rw [← hfor]
      simp only [transportRetransmitReliablePacket]
      split <;> rfl

/-- One bit. -/
theorem sackBitStep_entries {sourceId : UInt16} {basePacket now : UInt32} {bitmap : Bytes}
    {state : SackState} (i : Nat) (hnow : shown now)
    (h : ∀ entry ∈ state.queue.waitAckList, P limit state.io.events entry)
    (hmay : transportSackBitIsSet bitmap i = false → ∀ entry ∈ state.queue.waitAckList,
      entry.isFor (basePacket + UInt32.ofNat i) sourceId = true → mayRepeat limit entry) :
    @SackKeeps P limit (basePacket + UInt32.ofNat i) sourceId state
      (sackBitStep env config sourceId basePacket now bitmap state i).2 := by
  simp only [sackBitStep]
  split
  · split
    · exact ⟨Repeats.refl, h, fun entry hmem => .inl hmem⟩
    · refine ⟨Repeats.refl, fun entry hmem => h entry ?_, fun entry hmem => .inl ?_⟩
      · exact mem_of_mem_reliableUnlink hmem
      · exact mem_of_mem_reliableUnlink hmem
  · rename_i hbit
    exact sackRetransmit_entries rule hnow h (hmay (by simpa using hbit))

/-- The loop over the bits. Their numbers differ, so a bit meets its packet as it was. -/
theorem sackLoop_entries {sourceId : UInt16} {basePacket now : UInt32} {bitmap : Bytes}
    (indices : List Nat) {state : SackState} (hnow : shown now)
    (hdistinct : (indices.map fun i => basePacket + UInt32.ofNat i).Nodup)
    (h : ∀ entry ∈ state.queue.waitAckList, P limit state.io.events entry)
    (hmay : ∀ i ∈ indices, transportSackBitIsSet bitmap i = false →
      ∀ entry ∈ state.queue.waitAckList,
        entry.isFor (basePacket + UInt32.ofNat i) sourceId = true → mayRepeat limit entry) :
    let looped := sackLoop env config sourceId basePacket now bitmap indices state
    Repeats P limit state.io.events looped.2.io.events ∧
      ∀ entry ∈ looped.2.queue.waitAckList, P limit looped.2.io.events entry := by
  induction indices generalizing state with
  | nil => exact ⟨Repeats.refl, h⟩
  | cons i rest ih =>
    rw [List.map_cons, List.nodup_cons] at hdistinct
    have hbit := @sackBitStep_entries _ _ _ rule env config limit sourceId basePacket now bitmap
      state i hnow h (hmay i List.mem_cons_self)
    simp only [sackLoop]
    generalize sackBitStep env config sourceId basePacket now bitmap state i = stepped at hbit
    obtain ⟨err, next⟩ := stepped
    cases err with
    | ok =>
      obtain ⟨hfurther, hall⟩ := ih hdistinct.2 hbit.entries fun j hj hunset entry hmem hfor => by
        rcases hbit.others entry hmem with hold | hsame
        · exact hmay j (List.mem_cons_of_mem _ hj) hunset entry hold hfor
        · refine absurd (List.mem_map.mpr ⟨j, hj, ?_⟩) hdistinct.1
          rw [← ReliablePacket.packetNumber_of_isFor hfor,
            ← ReliablePacket.packetNumber_of_isFor hsame]
      exact ⟨hbit.grows.trans hfurther, hall⟩
    | _ => exact ⟨hbit.grows, hbit.entries⟩

/-- A SACK, when the packets it reports missing may be sent again. -/
theorem transportProcessSackValue_entries {peer : PeerState} {sourceId : UInt16} {value : Bytes}
    (hclock : ∀ read, shown (env.clock read))
    (h : ∀ entry ∈ peer.reliableQueue.waitAckList, P limit ctx.io.events entry)
    (hmay : ∀ sack, xglWireDecodeSackExtValue value 64 = .ok sack → ∀ n ∈ sackMissing sack,
      ∀ entry ∈ peer.reliableQueue.waitAckList, entry.isFor n sourceId = true →
        mayRepeat limit entry) :
    let processed := transportProcessSackValue env ctx peer sourceId value
    Repeats P limit ctx.io.events processed.2.1.io.events ∧
      ∀ entry ∈ processed.2.2.reliableQueue.waitAckList, P limit processed.2.1.io.events entry := by
  simp only [transportProcessSackValue]
  split
  · exact ⟨Repeats.refl, h⟩
  rename_i sack hdecode
  specialize hmay sack hdecode
  simp only [sackMissing] at hmay
  split
  · exact ⟨Repeats.refl, h⟩
  split
  · rename_i hempty
    rw [if_pos hempty] at hmay
    split
    · exact ⟨Repeats.refl, h⟩
    · have hsent := @sackRetransmit_entries _ _ _ rule env ctx.config limit sourceId sack.basePacket
        (xglTimeMs env ctx.io).1
        { queue := peer.reliableQueue, windows := (peer.txWindow, ctx.window)
          io := (xglTimeMs env ctx.io).2 } (hclock _) h
            (hmay sack.basePacket (List.mem_singleton.mpr rfl))
      exact ⟨hsent.grows, hsent.entries⟩
  · rename_i hsome
    rw [if_neg hsome] at hmay
    have hdistinct : ((sackIndices sack.bitmap).map fun i =>
        sack.basePacket + UInt32.ofNat i).Nodup := by
      refine sack_numbers_nodup sack.basePacket ?_
      have hlength := xglWireDecodeSackExtValue_length hdecode
      -- the last bit of the SACK
      cases hlast : (((List.range (sack.bitmap.length * 8)).filter
          (transportSackBitIsSet sack.bitmap)).getLast?) with
      | none => exact Nat.zero_le _
      | some last =>
        have hmem := List.mem_range.mp (List.mem_of_mem_filter (List.mem_of_getLast? hlast))
        show last + 1 ≤ 512
        omega
    obtain ⟨hgrows, hall⟩ := @sackLoop_entries _ _ _ rule env ctx.config limit sourceId
      sack.basePacket (xglTimeMs env ctx.io).1 sack.bitmap (sackIndices sack.bitmap)
      { queue := peer.reliableQueue, windows := (peer.txWindow, ctx.window)
        io := (xglTimeMs env ctx.io).2 } (hclock _) hdistinct h fun i hi hunset =>
          hmay _ (List.mem_map.mpr ⟨i, List.mem_filter.mpr ⟨hi, by rw [hunset]; rfl⟩, rfl⟩)
    split <;> exact ⟨hgrows, hall⟩

/-- An ACK packet applied to the peer it selects. -/
theorem transportApplyAck_entries {peer : PeerState} {packet : Packet}
    (hclock : ∀ read, shown (env.clock read))
    (h : ∀ entry ∈ peer.reliableQueue.waitAckList, P limit ctx.io.events entry)
    (hmay : ∀ n ∈ reportedMissing packet, ∀ entry ∈ peer.reliableQueue.waitAckList,
      entry.isFor n packet.sourceId = true → mayRepeat limit entry) :
    let applied := transportApplyAck env ctx peer packet
    Repeats P limit ctx.io.events applied.ctx.io.events ∧
      ∀ entry ∈ applied.peer.reliableQueue.waitAckList,
        P limit applied.ctx.io.events entry := by
  obtain ⟨hio, hsub, hnone⟩ := @transportTryProcessAckRangeExt_entries ctx peer packet
  have hleft := (transportTryProcessAckRangeExt_spec ctx peer packet).2
  simp only [transportApplyAck]
  generalize transportTryProcessAckRangeExt ctx peer packet.sourceId packet.extensions = range
    at hio hsub hnone hleft
  split
  · rw [hio]
    exact ⟨Repeats.refl, fun entry hmem => h entry (hsub entry hmem)⟩
  rename_i hopen
  have hok : range.error = .ok := by
    by_contra hne
    exact hopen (by simp [hne])
  have hunhandled : range.handled = false := by
    by_contra hhandled
    exact hopen (by simp [hhandled])
  specialize hnone hok hunhandled
  obtain ⟨hctx, hpeer⟩ := hleft hok hunhandled
  rw [hctx, hpeer]
  have hsack : Repeats P limit ctx.io.events (transportTryProcessSackExt env ctx peer
        packet.sourceId packet.extensions).ctx.io.events ∧
      ∀ entry ∈ (transportTryProcessSackExt env ctx peer packet.sourceId
          packet.extensions).peer.reliableQueue.waitAckList,
        P limit (transportTryProcessSackExt env ctx peer packet.sourceId
          packet.extensions).ctx.io.events entry := by
    simp only [transportTryProcessSackExt]
    split
    · rename_i ext hfind
      refine @transportProcessSackValue_entries _ _ _ rule env ctx limit peer packet.sourceId
        ext.value hclock h fun sack hdecode => ?_
      simp only [reportedMissing, hnone, hfind, hdecode] at hmay
      exact hmay
    · exact ⟨Repeats.refl, h⟩
  split <;> exact hsack

/-- An ACK packet. -/
theorem transportProcessAckPacket_entries {packet : Packet}
    (hclock : ∀ read, shown (env.clock read)) (h : AllEntries P ctx)
    (hmay : SackSpares mayRepeat ctx packet) :
    AllEntries P (transportProcessAckPacket env ctx packet).2 ∧
      Repeats P ctx.config.maxRetryCount ctx.io.events
        (transportProcessAckPacket env ctx packet).2.io.events := by
  simp only [transportProcessAckPacket]
  split
  · exact ⟨h, .refl⟩
  rename_i htype
  split
  · exact ⟨h, .refl⟩
  rename_i peer hfind
  split
  · exact ⟨h, .refl⟩
  rename_i hsession
  split
  · exact ⟨h, .refl⟩
  rename_i hexts
  have hmem := peerOf_mem (peerOf_of_transportFindAckPeer hfind)
  obtain ⟨hlimit, hentries⟩ := h peer hmem
  have hreaches : ackReaches packet peer = true := by
    simp only [ackReaches, Bool.and_eq_true, beq_iff_eq, Bool.or_eq_true, Bool.not_eq_true']
    refine ⟨⟨by simpa using htype, ?_⟩, by simpa using hexts⟩
    by_contra hno
    rw [not_or] at hno
    exact hsession (by simp [hno])
  obtain ⟨hgrows, happlied⟩ := @transportApplyAck_entries _ _ _ rule env ctx
    ctx.config.maxRetryCount peer packet hclock hentries (hmay peer hfind hreaches)
  have hspec := transportApplyAck_spec env ctx peer packet
  obtain ⟨_, _, hctx⟩ := hspec.ctxFrame
  have hretry := hspec.retry
  have hconfig : (transportApplyAck env ctx peer packet).ctx.config = ctx.config := by rw [hctx]
  have hpeers : (transportApplyAck env ctx peer packet).ctx.peers = ctx.peers := by rw [hctx]
  refine ⟨fun other hother => ?_, hgrows⟩
  show other.reliableQueue.maxRetryCount
      = (transportApplyAck env ctx peer packet).ctx.config.maxRetryCount ∧
    ∀ entry ∈ other.reliableQueue.waitAckList,
      P (transportApplyAck env ctx peer packet).ctx.config.maxRetryCount
        (transportApplyAck env ctx peer packet).ctx.io.events entry
  have hother : other ∈ putPeer (transportApplyAck env ctx peer packet).peer ctx.peers := by
    rw [← hpeers]
    exact hother
  rw [hconfig]
  -- the peer of the ACK, or another one
  rcases mem_putPeer hother with rfl | hkept
  · exact ⟨hretry.trans hlimit, happlied⟩
  · obtain ⟨hother, hall⟩ := h other hkept
    exact ⟨hother, fun entry he => rule.mono hgrows.grows (hall entry he)⟩

/-- Reception that leaves the sending sides alone. -/
theorem AllEntries.receive (h : AllEntries P ctx) (hgrows : ctx.io.events <+: after.io.events)
    (hconfig : after.config = ctx.config) (hsenders : ∀ peer ∈ after.peers, SenderFrom ctx peer) :
    AllEntries P after := by
  intro peer hpeer
  rw [hconfig]
  rcases hsenders peer hpeer with ⟨old, hmem, hretry, hqueue⟩ | hnew
  · obtain ⟨hlimit, hall⟩ := h old hmem
    refine ⟨hretry.trans hlimit, fun entry hentry => ?_⟩
    rcases hqueue with hsame | hcleared
    · rw [hsame] at hentry
      exact rule.mono hgrows (hall entry hentry)
    · rw [hcleared] at hentry
      cases hentry
  · rw [hnew]
    exact ⟨rfl, fun entry hentry => nomatch hentry⟩

/-- A received packet. -/
theorem xglTransportReceive_entries {packet : Packet}
    (hclock : ∀ read, shown (env.clock read)) (h : AllEntries P ctx)
    (hmay : SackSpares mayRepeat ctx packet) :
    AllEntries P (xglTransportReceive env ctx packet).2 := by
  simp only [xglTransportReceive]
  split
  · obtain ⟨hevents, hconfig, hsenders⟩ :=
      @transportProcessControlPacket_senders env ctx packet
    exact AllEntries.receive rule h (prefix_of_eq hevents) hconfig hsenders
  split
  · exact (transportProcessAckPacket_entries rule hclock h hmay).1
  split
  · exact h
  · obtain ⟨hgrows, hconfig, hsenders⟩ := @transportReceiveData_senders env ctx packet _
    exact AllEntries.receive rule h hgrows hconfig hsenders

end Rule

/-! ### Sends -/

section Sends

variable {P : UInt8 → List TransportEvent → ReliablePacket → Prop}
  {mayRepeat : UInt8 → ReliablePacket → Prop} {shown : UInt32 → Prop}
  {start : List TransportEvent} (rule : EntryRule P mayRepeat shown start)
  {env : TransportEnv} {ctx after : TransportCtx} {limit : UInt8}

include rule

/-- One reliable packet of a request. -/
theorem transportSendReliablePacket_entries (hclock : ∀ read, shown (env.clock read))
    (hstart : start <+: ctx.io.events) {peer : PeerState} {txData : TxData} {data : Bytes}
    {fragment : Bool} {extensions : Bytes} (hrel : txData.reliable = true)
    (hexts : fragment = false → extensions = [])
    (h : ∀ entry ∈ peer.reliableQueue.waitAckList, P limit ctx.io.events entry) :
    let sent := transportSendReliablePacket env ctx peer txData data fragment extensions
    ctx.io.events <+: sent.2.1.io.events ∧
      sent.2.2.reliableQueue.maxRetryCount = peer.reliableQueue.maxRetryCount ∧
      ∀ entry ∈ sent.2.2.reliableQueue.waitAckList, P limit sent.2.1.io.events entry := by
  have hcases := transportSendReliablePacket_cases env ctx peer txData data fragment extensions
  dsimp only
  generalize transportSendReliablePacket env ctx peer txData data fragment extensions = sent
    at hcases ⊢
  cases hcases with
  | refused err hne io hevents =>
    exact ⟨prefix_of_eq hevents, rfl, fun entry he => rule.mono (prefix_of_eq hevents) (h entry he)⟩
  | failed err hne io hevents =>
    have hgrows : ctx.io.events <+: io.events := hevents ▸ List.prefix_append _ _
    exact ⟨hgrows, rfl, fun entry he => rule.mono hgrows (h entry he)⟩
  | sent io window read hevents =>
    have hgrows : ctx.io.events <+: io.events := hevents ▸ List.prefix_append _ _
    refine ⟨hgrows, rfl, fun entry he => ?_⟩
    rcases List.mem_append.mp he with hold | hnew
    · exact rule.mono hgrows (h entry hold)
    · rw [List.mem_singleton] at hnew
      subst hnew
      show P limit io.events _
      rw [hevents]
      exact rule.queued ctx.config peer txData data _ _ fragment extensions hstart (hclock read)
        hrel hexts

/-- The fragments of a request. The induction is on the fragments to come. -/
theorem transportFragmentLoop_entries (hclock : ∀ read, shown (env.clock read)) {txData : TxData}
    (hrel : txData.reliable = true)
    (data : Bytes) (messageId : UInt32) (payloadMax : Nat) (indices : List Nat)
    (ctx : TransportCtx) (peer : PeerState) (hstart : start <+: ctx.io.events)
    (h : ∀ entry ∈ peer.reliableQueue.waitAckList, P limit ctx.io.events entry) :
    let sent := transportFragmentLoop env txData data messageId payloadMax indices ctx (some peer)
    ctx.io.events <+: sent.2.1.io.events ∧
      ∃ after, sent.2.2 = some after ∧
        after.reliableQueue.maxRetryCount = peer.reliableQueue.maxRetryCount ∧
        ∀ entry ∈ after.reliableQueue.waitAckList, P limit sent.2.1.io.events entry := by
  induction indices generalizing ctx peer with
  | nil => exact ⟨List.prefix_rfl, peer, rfl, rfl, h⟩
  | cons i rest ih =>
    simp only [transportFragmentLoop, transportSendOneFragment]
    by_cases hcan : xglWindowCanSendPacketNumber peer.txWindow = true
    · rw [if_neg (by simp [hcan])]
      cases transportEncodeFragmentExt messageId (i * payloadMax) data.length with
      | error err =>
        cases err with
        | ok => exact ih ctx peer hstart h
        | _ => exact ⟨List.prefix_rfl, peer, rfl, rfl, h⟩
      | ok ext =>
        dsimp only
        obtain ⟨hgrows, hretry, hall⟩ :=
          @transportSendReliablePacket_entries _ _ _ _ rule env ctx limit
          hclock hstart peer txData (readBytes data (i * payloadMax)
            (min (data.length - i * payloadMax) payloadMax)) true ext hrel (by simp) h
        generalize transportSendReliablePacket env ctx peer txData (readBytes data (i * payloadMax)
          (min (data.length - i * payloadMax) payloadMax)) true ext = sent at hgrows hretry hall ⊢
        obtain ⟨err, ctx', mid⟩ := sent
        cases err with
        | ok =>
          obtain ⟨hfurther, last, hlast, hlimit, hentries⟩ := ih ctx' mid (hstart.trans hgrows) hall
          exact ⟨hgrows.trans hfurther, last, hlast, hlimit.trans hretry, hentries⟩
        | _ => exact ⟨hgrows, mid, rfl, hretry, hall⟩
    · rw [if_pos (by simp [hcan])]
      exact ⟨List.prefix_rfl, peer, rfl, rfl, h⟩

/-- The transmission step of a reliable request. -/
theorem transportTransmit_entries (hclock : ∀ read, shown (env.clock read))
    (hstart : start <+: ctx.io.events) {peer : PeerState} {txData : TxData}
    (hrel : txData.reliable = true) (data : Bytes) (plan : SendPlan)
    (h : ∀ entry ∈ peer.reliableQueue.waitAckList, P limit ctx.io.events entry) :
    let sent := transportTransmit env ctx (some peer) txData data plan
    ctx.io.events <+: sent.2.1.io.events ∧
      ∃ after, sent.2.2 = some after ∧
        after.reliableQueue.maxRetryCount = peer.reliableQueue.maxRetryCount ∧
        ∀ entry ∈ after.reliableQueue.waitAckList, P limit sent.2.1.io.events entry := by
  simp only [transportTransmit]
  split
  · simp only [transportSendFragmented]
    split
    · exact ⟨List.prefix_rfl, peer, rfl, rfl, h⟩
    · rename_i manager _
      exact @transportFragmentLoop_entries _ _ _ _ rule env limit hclock txData hrel data _ _ _
        { ctx with
          fragmentMgr := some { manager with nextMessageId := manager.nextMessageId + 1 } } peer
        hstart h
  · obtain ⟨hgrows, hretry, hall⟩ := @transportSendReliablePacket_entries _ _ _ _ rule env ctx limit
      hclock hstart peer txData (transportEncodeData ctx.config txData data) false [] hrel
        (fun _ => rfl) h
    exact ⟨hgrows, _, rfl, hretry, hall⟩

/-- A written-back peer in a longer log. -/
theorem AllEntries.put {peer : PeerState} (h : AllEntries P ctx)
    (hgrows : ctx.io.events <+: after.io.events) (hconfig : after.config = ctx.config)
    (hpeers : after.peers = putPeer peer ctx.peers)
    (hlimit : peer.reliableQueue.maxRetryCount = ctx.config.maxRetryCount)
    (hall : ∀ entry ∈ peer.reliableQueue.waitAckList,
      P ctx.config.maxRetryCount after.io.events entry) : AllEntries P after := by
  intro other hother
  rw [hpeers] at hother
  rw [hconfig]
  rcases mem_putPeer hother with rfl | hmem
  · exact ⟨hlimit, hall⟩
  · obtain ⟨hold, hentries⟩ := h other hmem
    exact ⟨hold, fun entry he => rule.mono hgrows (hentries entry he)⟩

/-- The part of a reliable send behind the peer selection. -/
theorem transportSendPlanned_entries (hclock : ∀ read, shown (env.clock read))
    (hstart : start <+: ctx.io.events) {peer : PeerState} {txData : TxData}
    (hrel : txData.reliable = true) (data : Bytes) (h : AllEntries P ctx)
    (hcan : xglWindowCanSendPacketNumber peer.txWindow = true)
    (hmem : peer ∈ ctx.peers) :
    AllEntries P (transportSendPlanned env ctx (some peer) txData data).2 := by
  obtain ⟨hlimit, hentries⟩ := h peer hmem
  simp only [transportSendPlanned]
  split
  · split
    · intro other hother
      obtain ⟨hold, hall⟩ := h other hother
      exact ⟨hold, fun entry he => rule.mono (transportReport_grows _ _ _ _) (hall entry he)⟩
    · exact h
  · rename_i plan _
    obtain ⟨hpeers, hconfig, _⟩ := transportTransmit_spec env ctx peer txData data plan hcan
    obtain ⟨hgrows, last, hlast, hretry, hall⟩ := @transportTransmit_entries _ _ _ _ rule env ctx
      ctx.config.maxRetryCount hclock hstart peer txData hrel data plan hentries
    generalize transportTransmit env ctx (some peer) txData data plan = sent
      at hpeers hconfig hgrows hlast hall ⊢
    obtain ⟨err, sentCtx, sentPeer⟩ := sent
    dsimp only at hpeers hconfig hgrows hlast hall ⊢
    subst hlast
    cases err with
    | ok =>
      exact AllEntries.put rule h hgrows hconfig
        (congrArg (putPeer _) hpeers) (hretry.trans hlimit) hall
    | _ =>
      exact AllEntries.put rule h hgrows hconfig
        (congrArg (putPeer _) hpeers) (hretry.trans hlimit) hall

/-- A longer log with the same peers. -/
theorem AllEntries.grow (h : AllEntries P ctx) (hgrows : ctx.io.events <+: after.io.events)
    (hconfig : after.config = ctx.config) (hpeers : after.peers = ctx.peers) :
    AllEntries P after :=
  AllEntries.receive rule.toRepeatRule h hgrows hconfig fun _ hmem => .same (hpeers ▸ hmem) rfl

omit rule in
/-- Creating a peer appends to the log. -/
theorem GetOrCreate.grows {key : PeerKey} {got : TransportCtx × Option PeerState}
    (h : GetOrCreate ctx key got) : ctx.io.events <+: got.1.io.events := by
  cases h with
  | found _ _ => exact List.prefix_rfl
  | failed _ _ _ hevents => exact prefix_of_eq hevents
  | created _ _ hevents _ => exact prefix_of_eq hevents

/-- Selecting the peer of a request. -/
theorem GetOrCreate.entries {key : PeerKey} {base : TransportCtx} {peer : PeerState}
    (h : AllEntries P ctx) (hgot : GetOrCreate ctx key (base, some peer)) :
    AllEntries P base ∧ peer ∈ base.peers := by
  cases hgot with
  | found _ hlook => exact ⟨h, peerOf_mem (peerOf_of_lookupPeer hlook)⟩
  | created hlook io hevents hsize =>
    exact ⟨AllEntries.receive rule.toRepeatRule h (prefix_of_eq hevents) rfl
        (senders_cons (.inr rfl)),
      List.mem_cons_self⟩

/-- A reliable send. -/
theorem xglTransportSend_entries (hclock : ∀ read, shown (env.clock read))
    (hstart : start <+: ctx.io.events) {txData : TxData} (h : AllEntries P ctx) :
    AllEntries P (xglTransportSend env ctx txData).2 := by
  simp only [xglTransportSend]
  split
  · exact h
  rename_i data _
  split
  · exact h
  split
  · exact AllEntries.grow rule h (transportReport_grows _ _ _ _) rfl rfl
  split
  · rename_i hrel
    have hcases := transportPrepareReliableSend_cases env ctx txData
    generalize transportPrepareReliableSend env ctx txData = prepared at hcases ⊢
    -- the peer of the request was found, or it is new
    cases hcases with
    | refused hlook session io hevents =>
      exact AllEntries.grow rule h (prefix_of_eq hevents) rfl rfl
    | full base peer hgot hfull => exact (GetOrCreate.entries rule h hgot).1
    | ready base peer hgot hcan hhello =>
      obtain ⟨hbase, hmem⟩ := GetOrCreate.entries rule h hgot
      exact transportSendPlanned_entries rule hclock (hstart.trans hgot.grows) hrel data hbase hcan
        hmem
    | greeted base peer hgot hcan hhello io hsent =>
      obtain ⟨hbase, hmem⟩ := GetOrCreate.entries rule h hgot
      have hgrows : base.io.events <+: io.events := by
        have := transportLowerSend_grows env base.config base.io
          (openingHello base.config txData peer)
        rw [hsent] at this
        exact this
      obtain ⟨hlimit, hall⟩ := hbase peer hmem
      refine transportSendPlanned_entries rule hclock
        ((hstart.trans hgot.grows).trans hgrows) hrel data ?_ hcan ?_
      · exact AllEntries.put rule hbase hgrows rfl rfl hlimit
          fun entry he => rule.mono hgrows (hall entry he)
      · exact mem_putPeer_self hmem rfl
    | mute base peer hgot hhello err hne io hsent =>
      obtain ⟨hbase, hmem⟩ := GetOrCreate.entries rule h hgot
      have hgrows : base.io.events <+: io.events := by
        have := transportLowerSend_grows env base.config base.io
          (openingHello base.config txData peer)
        rw [hsent] at this
        exact this
      cases err with
      | ok => exact absurd rfl hne
      | _ => exact AllEntries.grow rule hbase hgrows rfl rfl
  · rename_i hrel
    obtain ⟨hgrows, hconfig⟩ := transportSendPlanned_unreliable_grows env ctx txData data
    exact AllEntries.grow rule h hgrows hconfig
      (transportSendPlanned_unreliable env ctx txData data)

/-- One action, when no SACK it processes repeats what may not be repeated. -/
theorem transportStep_entries (hclock : ∀ read, shown (env.clock read))
    (hstart : start <+: ctx.io.events) (h : AllEntries P ctx)
    (action : TransportAction) (htime : ∀ now, action = .run now → shown now)
    (hmay : ActionSpares mayRepeat ctx action) :
    AllEntries P (transportStep env ctx action) := by
  cases action with
  | send txData => exact xglTransportSend_entries rule hclock hstart h
  | receive packet => exact xglTransportReceive_entries rule.toRepeatRule hclock h hmay
  | run now => exact (xglTransportRun_entries rule.toRepeatRule now (htime now rfl) h).1

omit rule in
/-- A run at times that the clock shows. -/
theorem runActions_entries (rule : EntryRule P mayRepeat shown) (hshown : ∀ now, shown now)
    (actions : List TransportAction) (h : AllEntries P ctx)
    (hmay : Along (transportStep env) (ActionSpares mayRepeat) actions ctx) :
    AllEntries P (runActions env actions ctx) :=
  foldl_along (AllEntries P) (fun _ action hinv hspares =>
    transportStep_entries rule (fun _ => hshown _) List.nil_prefix hinv action (fun _ _ => hshown _)
      hspares) actions ctx h hmay

end Sends

end XgenLink
