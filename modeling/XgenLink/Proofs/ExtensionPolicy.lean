import XgenLink.Proofs.DeliverOnce
import XgenLink.Proofs.KeptExtensions
import XgenLink.Proofs.ReorderedFrame

/-!
# `XgenLink.Proofs.ExtensionPolicy`: the order and the repetition of extensions

Two statements about the extensions of a frame without authentication. The first is about their
order: a node does the same with a frame whose extensions stand in another order, as long as no
type occurs twice. Both frames are accepted or refused, the transport ends in the same state, and
what goes out is the same but for the order of the extensions in a frame that is forwarded.

The second is about repetition. Frames with two extensions of one type are to fail closed, and two
types of six do: a second SESSION or DATA_TYPE is refused. Of two ACK_RANGE, SACK or FRAGMENT the
transport takes the first, and of two SECURITY the datalink takes the last. Each of these four has
a frame below that repeats the type and is delivered.

* `SameEffect`, `Reordered.sameEffect`: the other order.
* `FailsClosed`: every frame that repeats a type is dropped, by every node.
* `failsClosed_of_network`: the network layer's two types.
* `failsClosed_iff`: the types whose repetition is refused.
* `extension_policy`: both.
-/

set_option autoImplicit false

namespace XgenLink

/-! ### Another order -/

/-- The frames that go out do not depend on the packets kept. -/
theorem Node.frames_relabel (node : Node) (σ : Relabelling) (events : List TransportEvent) :
    node.frames (events.map (TransportEvent.relabel σ)) = node.frames events := by
  unfold Node.frames
  rw [List.filterMap_map]
  congr 1
  funext event
  cases event <;> rfl

/-- The records of both orders look the same to the transport. -/
theorem sameView_of_perm {exts exts' : List WireExt} (hperm : exts.Perm exts')
    (hdistinct : DistinctTypes exts) (hexts : ∀ ext ∈ exts, ext.Encodable) :
    SameView (encodeWireExts exts) (encodeWireExts exts') := by
  have hwalk := wireExts_encode exts hexts []
  have hwalk' := wireExts_encode exts' (fun ext hmem => hexts ext (hperm.mem_iff.mpr hmem)) []
  rw [List.append_nil] at hwalk hwalk'
  refine ⟨?_, ?_, ?_⟩
  · rw [Bool.eq_iff_iff, List.isEmpty_iff_length_eq_zero, List.isEmpty_iff_length_eq_zero,
      length_encodeWireExts_perm hperm]
  · rw [hwalk, hwalk']
  · intro type _
    rw [hwalk, hwalk']
    exact (find_type_perm hperm hdistinct type).symm

/-- A node does the same with a frame and with its reordered form: the datalink and the network
layer do not tell them apart, the code is the same, what the transport did and holds is the same but
for the order in which it keeps these extensions, and so is what goes out, unless the frame
itself is passed on. -/
structure SameEffect (clock : Nat → UInt32) (node : Node) (frame : Bytes) (header : WireHeader)
    (exts exts' : List WireExt) : Prop where
  datalink : DatalinkAlike node.datalink frame (withExtensions frame header exts')
    (xglDatalinkProcessFrame node.datalink frame frame.length)
    (xglDatalinkProcessFrame node.datalink (withExtensions frame header exts')
      (withExtensions frame header exts').length)
  network : NetworkAlike node.network header exts exts'
    (xglNetworkReceive node.network true frame frame.length)
    (xglNetworkReceive node.network true (withExtensions frame header exts')
      (withExtensions frame header exts').length)
  code : (nodeProcess clock node (withExtensions frame header exts')).1
    = (nodeProcess clock node frame).1
  layers : (nodeProcess clock node (withExtensions frame header exts')).2.1.network
        = (nodeProcess clock node frame).2.1.network ∧
      (nodeProcess clock node (withExtensions frame header exts')).2.1.datalink
        = (nodeProcess clock node frame).2.1.datalink
  transport : ∃ σ : Relabelling,
    (∀ kept, σ.toFun kept = if kept = encodeWireExts exts' then encodeWireExts exts else kept) ∧
      (nodeProcess clock node (withExtensions frame header exts')).2.1.transport.relabel σ
        = (nodeProcess clock node frame).2.1.transport.relabel σ
  sent : (nodeProcess clock node (withExtensions frame header exts')).2.2
        = (nodeProcess clock node frame).2.2 ∨
      (xglNetworkIsLocal node.network header.targetId = false ∧
        ∃ forward, (nodeProcess clock node frame).2.2 = [forward] ∧
          (nodeProcess clock node (withExtensions frame header exts')).2.2
            = [withExtensions forward header exts'])

/-- What a node makes of a frame that the datalink passed up or refused. -/
theorem nodeProcess_refused {clock : Nat → UInt32} {node : Node} {frame : Bytes} {code : XglError}
    {frameLen : Nat} {metadata : DatalinkRxMetadata}
    (h : xglDatalinkProcessFrame node.datalink frame frame.length
      = (code, node.datalink, datalinkReportRxError node.datalink frameLen metadata)) :
    nodeProcess clock node frame = (code, node, []) := by
  have hnone : (datalinkReportRxError node.datalink frameLen metadata).contains
      (.upperReceive frame frame.length) = false := by
    unfold datalinkReportRxError datalinkReport
    cases node.datalink.errorCallback <;> cases metadata.frameCrcFailed <;>
      by_cases hlong : frameLen > XGL_DATALINK_MAX_FRAME_SIZE <;> simp [hlong]
  unfold nodeProcess
  dsimp only
  rw [h]
  dsimp only
  rw [hnone]
  rfl

/-- What a node makes of a frame that the datalink passed up. The layers above see the buffer and
the length, and whether there are such layers is a setting. -/
theorem nodeProcess_passed {clock : Nat → UInt32} {node : Node} {frame : Bytes}
    (h : xglDatalinkProcessFrame node.datalink frame frame.length
      = (.ok, node.datalink, datalinkPassUp node.datalink frame frame.length)) :
    nodeProcess clock node frame
      = if node.datalink.upperLayer then (.ok, (nodeReceive clock node frame).2)
        else (.ok, node, []) := by
  have hcontains : (datalinkPassUp node.datalink frame frame.length).contains
      (.upperReceive frame frame.length) = node.datalink.upperLayer := by
    unfold datalinkPassUp
    cases node.datalink.upperLayer <;> simp
  unfold nodeProcess
  dsimp only
  rw [h]
  dsimp only
  rw [hcontains]

/-- A frame of distinct extensions has the same effect in any order. -/
theorem Reordered.sameEffect {frame : Bytes} {header : WireHeader} {exts exts' : List WireExt}
    (h : Reordered frame header exts exts') (clock : Nat → UInt32) (node : Node) :
    SameEffect clock node frame header exts exts' := by
  have hdatalink := h.datalink node.datalink
  have hnetwork := h.network node.network true
  have hview := sameView_of_perm h.perm h.distinct h.wellFormed.encodable
  have hσ : ∀ kept, hview.relabelling.toFun kept
      = if kept = encodeWireExts exts' then encodeWireExts exts else kept := fun _ => rfl
  -- the layers above the datalink
  have hreceive : (nodeReceive clock node (withExtensions frame header exts')).2.1.network
        = (nodeReceive clock node frame).2.1.network ∧
      (nodeReceive clock node (withExtensions frame header exts')).2.1.datalink
        = (nodeReceive clock node frame).2.1.datalink ∧
      (nodeReceive clock node (withExtensions frame header exts')).2.1.transport.relabel
          hview.relabelling
        = (nodeReceive clock node frame).2.1.transport.relabel hview.relabelling ∧
      ((nodeReceive clock node (withExtensions frame header exts')).2.2
          = (nodeReceive clock node frame).2.2 ∨
        (xglNetworkIsLocal node.network header.targetId = false ∧
          ∃ forward, (nodeReceive clock node frame).2.2 = [forward] ∧
            (nodeReceive clock node (withExtensions frame header exts')).2.2
              = [withExtensions forward header exts'])) := by
    unfold nodeReceive
    generalize xglNetworkReceive node.network true frame frame.length = rx at hnetwork ⊢
    generalize xglNetworkReceive node.network true (withExtensions frame header exts')
      (withExtensions frame header exts').length = rx' at hnetwork ⊢
    -- both frames are decoded alike by the network layer, or refused by it
    cases hnetwork with
    | done error report => exact ⟨rfl, rfl, rfl, .inl rfl⟩
    | transmitted hremote error error' phy forward =>
      exact ⟨rfl, rfl, rfl, .inr ⟨hremote, forward, rfl, rfl⟩⟩
    | deliver packet hpacket =>
      have hsame := (hview.transportReceive (node.env clock) node.transport hpacket).2
      refine ⟨rfl, rfl, hsame, .inl ?_⟩
      have hevents := congrArg (fun ctx : TransportCtx => ctx.io.events) hsame
      show node.frames (List.drop _ _) = node.frames (List.drop _ _)
      rw [← node.frames_relabel hview.relabelling, ← node.frames_relabel hview.relabelling
        (List.drop _ (xglTransportReceive (node.env clock) node.transport packet).2.io.events),
        List.map_drop, List.map_drop]
      exact congrArg (fun events => node.frames (events.drop node.transport.io.events.length))
        hevents
  have hprocess : nodeProcess clock node (withExtensions frame header exts')
        = nodeProcess clock node frame ∨
      (nodeProcess clock node frame = (.ok, (nodeReceive clock node frame).2) ∧
        nodeProcess clock node (withExtensions frame header exts')
          = (.ok, (nodeReceive clock node (withExtensions frame header exts')).2)) := by
    generalize hold : xglDatalinkProcessFrame node.datalink frame frame.length = old
      at hdatalink
    generalize hnew : xglDatalinkProcessFrame node.datalink (withExtensions frame header exts')
      (withExtensions frame header exts').length = new at hdatalink
    -- the same by the datalink
    cases hdatalink with
    | refused code frameLen metadata =>
      rw [nodeProcess_refused hold, nodeProcess_refused hnew]
      exact .inl rfl
    | passed =>
      rw [nodeProcess_passed hold, nodeProcess_passed hnew]
      cases node.datalink.upperLayer with
      | true => exact .inr ⟨rfl, rfl⟩
      | false => exact .inl rfl
  rcases hprocess with hsame | ⟨hold, hnew⟩
  · exact
      { datalink := hdatalink
        network := hnetwork
        code := by rw [hsame]
        layers := by
          rw [hsame]
          exact ⟨rfl, rfl⟩
        transport := ⟨hview.relabelling, hσ, by rw [hsame]⟩
        sent := .inl (by rw [hsame]) }
  · obtain ⟨hnet, hlink, htransport, hsent⟩ := hreceive
    exact
      { datalink := hdatalink
        network := hnetwork
        code := by rw [hold, hnew]
        layers := by
          rw [hold, hnew]
          exact ⟨hnet, hlink⟩
        transport := ⟨hview.relabelling, hσ, by rw [hold, hnew]; exact htransport⟩
        sent := by
          rw [hold, hnew]
          exact hsent }

/-! ### Repeated extensions -/

/-- The types that the extensions of a frame carry a meaning by. -/
def semanticTypes : List UInt8 :=
  [XGL_WIRE_EXT_SESSION, XGL_WIRE_EXT_ACK_RANGE, XGL_WIRE_EXT_SACK, XGL_WIRE_EXT_FRAGMENT,
    XGL_WIRE_EXT_SECURITY, XGL_WIRE_EXT_DATA_TYPE]

/-- At least two of the records are of the type. -/
def RepeatsType (exts : List WireExt) (type : UInt8) : Prop :=
  2 ≤ (exts.filter fun ext => ext.type == type).length

/-- Nothing goes out, nothing is handed over and the transport stays as it is. -/
def Dropped (clock : Nat → UInt32) (node : Node) (frame : Bytes) : Prop :=
  (nodeProcess clock node frame).2.1.transport = node.transport ∧
    (nodeProcess clock node frame).2.2 = []

/-- Every frame that repeats the type is dropped, by every node. -/
def FailsClosed (type : UInt8) : Prop :=
  ∀ clock node frame header exts, WellFormedFrame frame header exts → RepeatsType exts type →
    Dropped clock node frame

/-- The loop of the network layer accepts at most one record of either of its types. -/
theorem networkExtLoop_once {final : XglError} {exts : List WireExt}
    {before after : NetworkExtMetadata} (h : networkExtLoop final exts before = .ok after) :
    (exts.filter fun ext => ext.type == XGL_WIRE_EXT_DATA_TYPE).length +
        before.dataTypeFound.toNat ≤ 1 ∧
      (exts.filter fun ext => ext.type == XGL_WIRE_EXT_SESSION).length +
        before.sessionEpochFound.toNat ≤ 1 := by
  induction exts generalizing before with
  | nil => exact ⟨by simpa using Bool.toNat_le _, by simpa using Bool.toNat_le _⟩
  | cons ext rest ih =>
    unfold networkExtLoop at h
    by_cases hdata : (ext.type == XGL_WIRE_EXT_DATA_TYPE) = true
    · have hother : ¬ (ext.type == XGL_WIRE_EXT_SESSION) = true := by
        rw [beq_iff_eq.mp hdata]
        decide
      rw [if_pos hdata] at h
      split at h
      · cases h
      · rename_i hfirst
        simp only [Bool.or_eq_true, not_or, Bool.not_eq_true] at hfirst
        obtain ⟨honce, hsession⟩ := ih h
        rw [List.filter_cons, if_pos hdata, List.filter_cons, if_neg hother, List.length_cons,
          hfirst.1]
        exact ⟨honce, hsession⟩
    · rw [if_neg hdata] at h
      by_cases hsession : (ext.type == XGL_WIRE_EXT_SESSION) = true
      · rw [if_pos hsession] at h
        split at h
        · cases h
        · rename_i hfirst
          rw [Bool.not_eq_true] at hfirst
          split at h
          · cases h
          · obtain ⟨hother, honce⟩ := ih h
            rw [List.filter_cons, if_neg hdata, List.filter_cons, if_pos hsession,
              List.length_cons, hfirst]
            exact ⟨hother, honce⟩
      · rw [if_neg hsession] at h
        rw [List.filter_cons, if_neg hdata, List.filter_cons, if_neg hsession]
        exact ih h

/-- A frame that the network layer does not decode is dropped. -/
theorem dropped_of_undecoded {clock : Nat → UInt32} {node : Node} {frame : Bytes} {err : XglError}
    (h : xglNetworkDecodeFrameMetadata frame frame.length = .error err) :
    Dropped clock node frame := by
  have hreceive : xglNetworkReceive node.network true frame frame.length = .done err none := by
    unfold xglNetworkReceive
    rw [h]
  unfold Dropped nodeProcess
  dsimp only
  split
  · unfold nodeReceive
    dsimp only
    rw [hreceive]
    exact ⟨rfl, rfl⟩
  · exact ⟨rfl, rfl⟩

/-- A second SESSION or DATA_TYPE is refused by the network layer. -/
theorem failsClosed_of_network {type : UInt8}
    (htype : type = XGL_WIRE_EXT_SESSION ∨ type = XGL_WIRE_EXT_DATA_TYPE) : FailsClosed type := by
  intro clock node frame header exts hwell hrepeats
  unfold RepeatsType at hrepeats
  cases hmeta : xglNetworkDecodeFrameMetadata frame frame.length with
  | error err => exact dropped_of_undecoded hmeta
  | ok metadata =>
    exfalso
    unfold xglNetworkDecodeFrameMetadata at hmeta
    split at hmeta
    · cases hmeta
    rw [hwell.decode] at hmeta
    dsimp only at hmeta
    split at hmeta
    · cases hmeta
    rename_i ext hext
    unfold xglNetworkDecodeExtMetadata at hext
    split at hext
    · -- there is room for the two records
      rename_i hzero
      have hlen := hwell.headerLen
      have hcount := length_encodeWireExts_ge exts
      have hle := List.length_filter_le (fun ext : WireExt => ext.type == type) exts
      rw [beq_iff_eq] at hzero
      omega
    · rw [hwell.walk] at hext
      obtain ⟨hdata, hsession⟩ := networkExtLoop_once hext
      dsimp only at hdata hsession
      rcases htype with rfl | rfl
      · omega
      · omega

/-- A node without authentication that reassembles. -/
def lenientNode : Node where
  transport :=
    { config := { localId := 2, enableFragmentation := true }
      nextSessionId := 2
      window := freshWindow 8
      fragmentMgr := some { maxReassemblyBuffers := 8, reassemblyTimeoutMs := 5000 } }
  network := { localId := 2 }
  datalink := plainDatalink

/-- A valid value of each of the types that the transport reads. -/
def repeatedValue (type : UInt8) : Bytes :=
  if type == XGL_WIRE_EXT_ACK_RANGE then ackValue 0
  else if type == XGL_WIRE_EXT_SACK then sackValue 0 [1]
  else [0, 0, 0, 0, 0, 0, 0, 0, 1, 0, 0, 0]

/-- A record of the type, twice. -/
def repeatedExts (type : UInt8) : List WireExt :=
  List.replicate 2 { type := type, value := repeatedValue type }

/-- An unreliable data frame of node 1 with payload 7 and a record of the type, twice. -/
def repeatedFrame (type : UInt8) : Bytes :=
  tiledFrame
    (wireHeaderBytes
      { version := XGL_WIRE_VERSION
        headerLen := UInt8.ofNat (24 + (encodeWireExts (repeatedExts type)).length)
        packetType := XGL_PACKET_TYPE_DATA
        flags := if type == XGL_WIRE_EXT_FRAGMENT then 6 else 2
        ttl := 8
        sourceId := 1
        targetId := 2
        payloadLen := 1 })
    (repeatedExts type) [7]

/-- What the transport reads of these records it reads of the first. -/
theorem repeatedFrame_delivered : ∀ type ∈ [XGL_WIRE_EXT_ACK_RANGE, XGL_WIRE_EXT_SACK,
      XGL_WIRE_EXT_FRAGMENT],
    WellFormedFrame (repeatedFrame type) (wireHeaderOfBytes (repeatedFrame type))
        (repeatedExts type) ∧
      RepeatsType (repeatedExts type) type ∧
      rxPayloads (nodeProcess (fun _ => 0) lenientNode
        (repeatedFrame type)).2.1.transport.io.events = [[7]] := by
  intro type htype
  have hcases : type = XGL_WIRE_EXT_ACK_RANGE ∨ type = XGL_WIRE_EXT_SACK ∨
      type = XGL_WIRE_EXT_FRAGMENT := by simpa using htype
  rcases hcases with rfl | rfl | rfl
  all_goals
    refine ⟨⟨?_, ?_, ?_, ?_, ?_⟩, ?_, ?_⟩
  all_goals first
    | decide +kernel
    | (unfold RepeatsType; decide +kernel)

/-- An authenticated data frame with payload 7 and two SECURITY_EXT. -/
def signedTwiceFrame : Bytes :=
  [165, 90, 2, 54, 1, 18, 8, 0, 1, 0, 2, 0, 0, 0, 0, 0, 0, 0, 0, 0, 1, 0, 157, 248, 5, 13, 7, 0, 0,
    0, 0, 0, 0, 0, 0, 0, 0, 0, 1, 5, 13, 7, 0, 0, 0, 0, 0, 0, 0, 0, 0, 0, 0, 1, 7, 144, 16, 135]

/-- The two SECURITY_EXT of the frame. -/
def signedTwiceExts : List WireExt :=
  List.replicate 2
    { type := XGL_WIRE_EXT_SECURITY, value := [7, 0, 0, 0, 0, 0, 0, 0, 0, 0, 0, 0, 1] }

/-- A node that requires authentication delivers it. -/
theorem signedTwiceFrame_delivered :
    WellFormedFrame signedTwiceFrame (wireHeaderOfBytes signedTwiceFrame) signedTwiceExts ∧
      RepeatsType signedTwiceExts XGL_WIRE_EXT_SECURITY ∧
      rxPayloads (nodeProcess (fun _ => 0) (guardedNode 2 1)
        signedTwiceFrame).2.1.transport.io.events = [[7]] := by
  refine ⟨⟨?_, ?_, ?_, ?_, ?_⟩, ?_, ?_⟩
  all_goals first
    | decide +kernel
    | (unfold RepeatsType; decide +kernel)

/-- A frame that hands over a payload is not dropped. -/
theorem not_dropped_of_delivered {clock : Nat → UInt32} {node : Node} {frame : Bytes}
    (hfresh : node.transport.io.events = [])
    (h : rxPayloads (nodeProcess clock node frame).2.1.transport.io.events ≠ []) :
    ¬ Dropped clock node frame := by
  intro hdropped
  refine h ?_
  rw [hdropped.1, hfresh]
  rfl

/-- Only a repeated SESSION or DATA_TYPE is refused. -/
theorem failsClosed_iff {type : UInt8} (htype : type ∈ semanticTypes) :
    FailsClosed type ↔ type = XGL_WIRE_EXT_SESSION ∨ type = XGL_WIRE_EXT_DATA_TYPE := by
  refine ⟨fun hclosed => ?_, failsClosed_of_network⟩
  have htaken : ∀ type ∈ [XGL_WIRE_EXT_ACK_RANGE, XGL_WIRE_EXT_SACK, XGL_WIRE_EXT_FRAGMENT],
      ¬ FailsClosed type := by
    intro type hmem hclosed
    obtain ⟨hwell, hrepeats, hdelivered⟩ := repeatedFrame_delivered type hmem
    refine not_dropped_of_delivered rfl ?_
      (hclosed (fun _ => 0) lenientNode _ _ _ hwell hrepeats)
    rw [hdelivered]
    exact List.cons_ne_nil _ _
  have hsecurity : ¬ FailsClosed XGL_WIRE_EXT_SECURITY := by
    intro hclosed
    obtain ⟨hwell, hrepeats, hdelivered⟩ := signedTwiceFrame_delivered
    refine not_dropped_of_delivered rfl ?_
      (hclosed (fun _ => 0) (guardedNode 2 1) _ _ _ hwell hrepeats)
    rw [hdelivered]
    exact List.cons_ne_nil _ _
  simp only [semanticTypes, List.mem_cons, List.not_mem_nil, or_false] at htype
  rcases htype with rfl | rfl | rfl | rfl | rfl | rfl
  · exact .inl rfl
  · exact absurd hclosed (htaken _ (by simp))
  · exact absurd hclosed (htaken _ (by simp))
  · exact absurd hclosed (htaken _ (by simp))
  · exact absurd hclosed hsecurity
  · exact .inr rfl

/-! ### Both -/

/-- In another order the extensions of an unauthenticated frame have the same effect, and of the
types with a meaning exactly SESSION and DATA_TYPE are refused when they are repeated. -/
theorem extension_policy (clock : Nat → UInt32) (node : Node) (frame : Bytes)
    (header : WireHeader) (exts exts' : List WireExt) (type : UInt8) :
    (WellFormedFrame frame header exts → header.flags &&& XGL_WIRE_FLAG_AUTHENTICATED = 0 →
      DistinctTypes exts → exts.Perm exts' →
      WellFormedFrame (withExtensions frame header exts') header exts' ∧
        SameEffect clock node frame header exts exts') ∧
    (type ∈ semanticTypes →
      (FailsClosed type ↔ type = XGL_WIRE_EXT_SESSION ∨ type = XGL_WIRE_EXT_DATA_TYPE)) := by
  refine ⟨?_, failsClosed_iff⟩
  intro hwell hplain hdistinct hperm
  have h : Reordered frame header exts exts' := ⟨hwell, hplain, hdistinct, hperm⟩
  exact ⟨h.wellFormed', h.sameEffect clock node⟩

/-- A SESSION record with epoch 5 and a DATA_TYPE record with type 9. -/
def sessionThenType : List WireExt :=
  [{ type := XGL_WIRE_EXT_SESSION, value := [5, 0, 0, 0, 1, 0, 0, 0, 0, 0, 0, 0] },
    { type := XGL_WIRE_EXT_DATA_TYPE, value := [9] }]

/-- An unreliable data frame of node 1 with payload 7 and both records. -/
def twoExtFrame : Bytes :=
  tiledFrame
    (wireHeaderBytes
      { version := XGL_WIRE_VERSION
        headerLen := UInt8.ofNat (24 + (encodeWireExts sessionThenType).length)
        packetType := XGL_PACKET_TYPE_DATA
        flags := 2
        ttl := 8
        sourceId := 1
        targetId := 2
        payloadLen := 1 })
    sessionThenType [7]

/-- With the two records exchanged it is another frame, well formed, and it is delivered alike. -/
theorem extension_policy_exchanged :
    let header := wireHeaderOfBytes twoExtFrame
    let exchanged := withExtensions twoExtFrame header sessionThenType.reverse
    exchanged ≠ twoExtFrame ∧
      rxPayloads (nodeProcess (fun _ => 0) lenientNode exchanged).2.1.transport.io.events = [[7]] ∧
      WellFormedFrame exchanged header sessionThenType.reverse ∧
      SameEffect (fun _ => 0) lenientNode twoExtFrame header sessionThenType
        sessionThenType.reverse := by
  refine ⟨by decide +kernel, by decide +kernel, (extension_policy (fun _ => 0) lenientNode
    twoExtFrame (wireHeaderOfBytes twoExtFrame) sessionThenType sessionThenType.reverse
    XGL_WIRE_EXT_SESSION).1 ⟨?_, ?_, ?_, ?_, ?_⟩ ?_ ?_ ?_⟩
  · decide +kernel
  · decide +kernel
  · decide +kernel
  · decide +kernel
  · decide +kernel
  · decide +kernel
  · unfold DistinctTypes
    decide
  · exact (List.reverse_perm _).symm

/-- A fragmented frame with two FRAGMENT_EXT hands its payload over. -/
theorem repeated_fragment_delivered :
    xglTransportInit { localId := 2, enableFragmentation := true } = .ok lenientNode.transport ∧
      XGL_WIRE_EXT_FRAGMENT ∈ semanticTypes ∧
      WellFormedFrame (repeatedFrame XGL_WIRE_EXT_FRAGMENT)
        (wireHeaderOfBytes (repeatedFrame XGL_WIRE_EXT_FRAGMENT))
        (repeatedExts XGL_WIRE_EXT_FRAGMENT) ∧
      RepeatsType (repeatedExts XGL_WIRE_EXT_FRAGMENT) XGL_WIRE_EXT_FRAGMENT ∧
      rxPayloads (nodeProcess (fun _ => 0) lenientNode
        (repeatedFrame XGL_WIRE_EXT_FRAGMENT)).2.1.transport.io.events = [[7]] ∧
      ¬ Dropped (fun _ => 0) lenientNode (repeatedFrame XGL_WIRE_EXT_FRAGMENT) := by
  obtain ⟨hwell, hrepeats, hdelivered⟩ := repeatedFrame_delivered XGL_WIRE_EXT_FRAGMENT (by simp)
  refine ⟨rfl, by decide, hwell, hrepeats, hdelivered, not_dropped_of_delivered rfl ?_⟩
  rw [hdelivered]
  exact List.cons_ne_nil _ _

end XgenLink
