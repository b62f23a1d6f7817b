import XgenLink.Proofs.QueueEntries
import XgenLink.Proofs.WireRoundTrip

/-!
# `XgenLink.Proofs.Retransmission`: a retransmission is the frame sent first

A reliable packet is sent for the first time by `transport_send_reliable_packet`, and again by the
timers or for the holes of a SACK. The two ways build the packet from different sources. The first
transmission takes it from the request and leaves type and flags to the frame builder; a
retransmission takes it from the queue entry, with type and flags written out. Both give one
frame, byte for byte, so a receiver cannot tell them apart and a tag stays valid.

* `SentAlike`: two packets no layer below tells apart.
* `Implicit.sentAlike`: type and flags written out, or left to the frame builder.
* `txPacket_sentAlike`: a queue entry and the packet sent with it.
* `FirstSent`, `firstSent_rule`: every queued packet goes back to a first transmission.
* `retransmissions_same_frame`: every retransmission in every run.
-/

set_option autoImplicit false

namespace XgenLink

/-! ### Frames -/

/-- The two packets are built into one frame, and the network layer sends them alike
under every local id, route table and authentication setting. -/
def SentAlike (first again : Packet) : Prop :=
  networkBuildTxFrame again = networkBuildTxFrame first ∧
    ∀ (net : NetworkCtx) (datalink : DatalinkCtx) (allocOk : Bool),
      xglNetworkSendWithHandle net datalink allocOk again
        = xglNetworkSendWithHandle net datalink allocOk first

/-- The traffic class of a reliable packet keeps its class and its fragment bit under
every priority. -/
theorem eliciting_traffic_class (fragment : Bool) (priority : UInt8) :
    xglFrameSetPriority (xglFrameSetFragmented (xglFrameSetReliabilityClass 0
        XGL_RELIABILITY_ACK_ELICITING) fragment) priority &&& XGL_RELIABILITY_CLASS_MASK
      = XGL_RELIABILITY_ACK_ELICITING ∧
    (xglFrameSetPriority (xglFrameSetFragmented (xglFrameSetReliabilityClass 0
        XGL_RELIABILITY_ACK_ELICITING) fragment) priority &&& XGL_TRAFFIC_FRAGMENTED_MASK != 0)
      = fragment := by
  revert priority
  cases fragment
  · exact forall_uint8 (by decide +kernel)
  · exact forall_uint8 (by decide +kernel)

/-- A packet as the retransmission writes it: the type and the flags of a data packet. -/
def Packet.explicit (packet : Packet) : Packet :=
  { packet with
    packetType := XGL_PACKET_TYPE_DATA
    flags :=
      if packet.fragment = 1 then XGL_WIRE_FLAG_FRAGMENTED ||| XGL_WIRE_FLAG_HAS_EXTENSIONS
      else 0 }

/-- A reliable packet whose type and flags are left to the frame builder. -/
structure Implicit (packet : Packet) : Prop where
  type : packet.packetType = XGL_PACKET_TYPE_INVALID
  flags : packet.flags = 0
  reliable : packet.reliable = 1
  fragment : packet.fragment = 0 ∨ packet.fragment = 1

/-- The traffic class of a reliable packet. -/
theorem networkFrameParams_class {packet : Packet} (h : packet.reliable = 1) (extensions : Bytes) :
    frameTrafficClassBits (networkFrameParams packet extensions)
      = xglFrameSetPriority (xglFrameSetFragmented (xglFrameSetReliabilityClass 0
          XGL_RELIABILITY_ACK_ELICITING) (packet.fragment != 0)) packet.priority := by
  simp [frameTrafficClassBits, networkFrameParams, networkReliabilityClass, h,
    XGL_RELIABILITY_ACK_ONLY, XGL_RELIABILITY_NONE, XGL_RELIABILITY_ACK_ELICITING]

/-- Type and flags come out the same. -/
theorem frameFlagsAndType_explicit {packet : Packet} (h : Implicit packet) (extensions : Bytes) :
    frameFlagsAndType (networkFrameParams packet.explicit extensions)
      = frameFlagsAndType (networkFrameParams packet extensions) := by
  obtain ⟨hclass, hbit⟩ := eliciting_traffic_class (packet.fragment != 0) packet.priority
  have hbits := networkFrameParams_class h.reliable extensions
  have hbits' : frameTrafficClassBits (networkFrameParams packet.explicit extensions)
      = frameTrafficClassBits (networkFrameParams packet extensions) := rfl
  simp only [frameFlagsAndType, hbits', hbits, hclass, hbit]
  rw [show (networkFrameParams packet.explicit extensions).flags = packet.explicit.flags from rfl,
    show (networkFrameParams packet extensions).flags = packet.flags from rfl,
    show (networkFrameParams packet.explicit extensions).packetType = XGL_PACKET_TYPE_DATA from rfl,
    show (networkFrameParams packet extensions).packetType = packet.packetType from rfl,
    show (networkFrameParams packet.explicit extensions).extensions = extensions from rfl,
    show (networkFrameParams packet extensions).extensions = extensions from rfl, h.type, h.flags]
  -- the two flag bytes differ in bits that the builder sets anyway
  rcases h.fragment with hfrag | hfrag <;>
    by_cases hext : extensions.length > 0 <;>
    simp only [Packet.explicit, hfrag, hext, if_true, if_false] <;> decide

/-- So one frame is built. -/
theorem networkBuildTxFrame_explicit {packet : Packet} (h : Implicit packet) :
    networkBuildTxFrame packet.explicit = networkBuildTxFrame packet := by
  simp only [networkBuildTxFrame]
  have hcopy : networkCopyPacketExtensions packet.explicit = networkCopyPacketExtensions packet :=
    rfl
  rw [hcopy]
  cases networkCopyPacketExtensions packet with
  | error err => rfl
  | ok extensions =>
    show xglFrameBuild (networkFrameParams packet.explicit extensions)
      = xglFrameBuild (networkFrameParams packet extensions)
    simp only [xglFrameBuild, frameFlagsAndType_explicit h]
    rfl

/-- The layers below do not tell the two apart. -/
theorem Implicit.sentAlike {packet : Packet} (h : Implicit packet) :
    SentAlike packet packet.explicit := by
  refine ⟨networkBuildTxFrame_explicit h, fun net datalink allocOk => ?_⟩
  -- the network layer fills in a missing source id on both
  have hbuild : networkBuildTxFrame
        (if packet.explicit.sourceId == 0 then { packet.explicit with sourceId := net.localId }
          else packet.explicit)
      = networkBuildTxFrame
        (if packet.sourceId == 0 then { packet with sourceId := net.localId } else packet) := by
    by_cases hsource : (packet.sourceId == 0) = true
    · have hfilled : Implicit { packet with sourceId := net.localId } :=
        ⟨h.type, h.flags, h.reliable, h.fragment⟩
      rw [if_pos hsource, if_pos (show (packet.explicit.sourceId == 0) = true from hsource)]
      exact networkBuildTxFrame_explicit hfilled
    · rw [if_neg hsource, if_neg (show ¬ (packet.explicit.sourceId == 0) = true from hsource)]
      exact networkBuildTxFrame_explicit h
  simp only [xglNetworkSendWithHandle, hbuild]
  rfl

/-- The entry of a packet and the packet it was sent as. -/
theorem txPacket_sentAlike (config : TransportConfig) (peer : PeerState) {txData : TxData}
    (data : Bytes) (n now : UInt32) (fragment : Bool) (extensions : Bytes)
    (hrel : txData.reliable = true) (hexts : fragment = false → extensions = []) :
    SentAlike (txPacket config (some peer) txData data n fragment extensions)
      (retransmitPacket { reliableTxPacket config peer txData data n fragment extensions with
        sendTimestamp := now }) := by
  have himplicit : Implicit (txPacket config (some peer) txData data n fragment extensions) := by
    refine ⟨rfl, rfl, ?_, ?_⟩
    · simp [txPacket, hrel]
    · cases fragment
      · exact .inl rfl
      · exact .inr rfl
  have hexplicit : retransmitPacket { reliableTxPacket config peer txData data n fragment extensions
        with sendTimestamp := now }
      = (txPacket config (some peer) txData data n fragment extensions).explicit := by
    cases fragment with
    | false => simp [retransmitPacket, reliableTxPacket, Packet.explicit, txPacket, hrel, hexts rfl]
    | true => simp [retransmitPacket, reliableTxPacket, Packet.explicit, txPacket, hrel]
  rw [hexplicit]
  exact himplicit.sentAlike

/-! ### Runs -/

/-- `packet` is sent as a reliable request's packet was sent first, and that first
transmission is in the log. -/
def FirstSent (events : List TransportEvent) (packet : Packet) : Prop :=
  ∃ (config : TransportConfig) (peer : PeerState) (txData : TxData) (data : Bytes) (n : UInt32)
    (fragment : Bool) (extensions : Bytes), txData.reliable = true ∧
    .layerSend (txPacket config (some peer) txData data n fragment extensions) .ok ∈ events ∧
    SentAlike (txPacket config (some peer) txData data n fragment extensions) packet

/-- Every packet in a queue was sent first by a request, in every state. -/
theorem firstSent_rule :
    EntryRule (fun _ events entry => FirstSent events (retransmitPacket entry))
      (fun _ _ => True) where
  mono := by
    rintro limit before after entry hgrows ⟨config, peer, txData, data, n, fragment, extensions,
      hrel, hmem, hsame⟩
    exact ⟨config, peer, txData, data, n, fragment, extensions, hrel, hgrows.subset hmem, hsame⟩
  repeated := by
    rintro limit events entry now _ ⟨config, peer, txData, data, n, fragment, extensions, hrel,
      hmem, hsame⟩ _
    exact ⟨config, peer, txData, data, n, fragment, extensions, hrel,
      List.mem_append_left _ hmem, hsame⟩
  timer := fun _ => trivial
  queued := by
    intro limit events config peer txData data n now fragment extensions _ _ hrel hexts
    exact ⟨config, peer, txData, data, n, fragment, extensions, hrel, by simp,
      txPacket_sentAlike config peer data n now fragment extensions hrel hexts⟩

/-- The same fact with the log of one moment. -/
theorem firstSent_kept (log : List TransportEvent) :
    RepeatRule (fun _ _ entry => FirstSent log (retransmitPacket entry)) (fun _ _ => True) where
  mono := fun _ h => h
  repeated := fun _ _ h _ => h
  timer := fun _ => trivial

/-- What a step records. -/
def recorded (before after : TransportCtx) : List TransportEvent :=
  after.io.events.drop before.io.events.length

/-- In every run, whatever the timers or a received acknowledgement send is the frame of
a first transmission before it. -/
theorem retransmissions_same_frame (env : TransportEnv) (config : TransportConfig)
    (ctx : TransportCtx) (hinit : xglTransportInit config = .ok ctx)
    (actions : List TransportAction) :
    let state := runActions env actions ctx
    (∀ now packet err, .layerSend packet err ∈ recorded state (xglTransportRun env state now) →
      FirstSent state.io.events packet) ∧
    ∀ ack packet err, ack.packetType = XGL_PACKET_TYPE_ACK →
      .layerSend packet err ∈ recorded state (xglTransportReceive env state ack).2 →
        FirstSent state.io.events packet := by
  intro state
  have hentries : AllEntries (fun _ events entry => FirstSent events (retransmitPacket entry))
      state := by
    refine runActions_entries firstSent_rule (fun _ => trivial) actions ?_ ?_
    · intro peer hpeer
      rw [(xglTransportInit_fresh hinit).1] at hpeer
      cases hpeer
    · exact along_of_forall (fun state action => by
        -- a SACK may name any packet, the rule survives all retransmissions
        cases action with
        | receive packet => exact fun _ _ _ _ _ _ _ _ => trivial
        | _ => trivial) _ _
  have hkept : AllEntries (fun _ _ entry => FirstSent state.io.events (retransmitPacket entry))
      state := hentries
  have hsent : ∀ {after : List TransportEvent},
      Repeats (fun _ _ entry => FirstSent state.io.events (retransmitPacket entry))
        state.config.maxRetryCount state.io.events after →
      ∀ packet err, .layerSend packet err ∈ after.drop state.io.events.length →
        FirstSent state.io.events packet := by
    rintro after ⟨new, rfl, hnew⟩ packet err hmem
    rw [List.drop_left] at hmem
    obtain ⟨_, entry, hfirst, rfl⟩ := hnew packet err hmem
    exact hfirst
  refine ⟨fun now => ?_, fun ack packet err htype => ?_⟩
  · exact hsent (xglTransportRun_entries (firstSent_kept state.io.events) now trivial hkept).2
  · have hack : (xglTransportReceive env state ack).2
        = (transportProcessAckPacket env state ack).2 := by
      simp only [xglTransportReceive, htype]
      rfl
    rw [hack]
    exact hsent (transportProcessAckPacket_entries (firstSent_kept state.io.events)
      (fun _ => trivial) hkept
      (fun _ _ _ _ _ _ _ _ => trivial)).2 packet err

/-- The packet of node 1 times out and goes out again. -/
theorem timeout_same_frame :
    (recorded oneInFlight (xglTransportRun calmEnv oneInFlight 2000)).length = 1 ∧
      (∀ now packet err, .layerSend packet err ∈ recorded oneInFlight
        (xglTransportRun calmEnv oneInFlight now) → FirstSent oneInFlight.io.events packet) ∧
      ∀ ack packet err, ack.packetType = XGL_PACKET_TYPE_ACK →
        .layerSend packet err ∈ recorded oneInFlight
          (xglTransportReceive calmEnv oneInFlight ack).2 →
        FirstSent oneInFlight.io.events packet :=
  ⟨by decide +kernel,
    retransmissions_same_frame calmEnv senderConfig senderTransport rfl [.send sampleTx]⟩

end XgenLink
