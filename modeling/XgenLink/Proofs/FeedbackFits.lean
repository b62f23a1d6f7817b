import XgenLink.Api.Config
import XgenLink.Proofs.WireRoundTrip

/-!
# `XgenLink.Proofs.FeedbackFits`: room for acknowledgements

Every route has a maximum frame size. The validation of a configuration asks it for 64 bytes,
which is more than any feedback frame needs without authentication: an ACK is a header of 24
bytes, an ACK_RANGE_EXT of 15 and a checksum of 2.

An authenticated frame carries 15 bytes of SECURITY_EXT and its tag in addition. An ACK then takes
56 bytes and the tag, while a data frame gets by with 42 bytes and the tag. Between the two a
route is accepted, takes data, and the ACK for the data does not pass its size check, so that the
sender retransmits until it gives up.

* `Feedback`, `Feedback.frame`: the feedback packets and the size of their frames.
* `DataAdmitted`, `dataAdmitted_iff`: when data goes to a target at all.
* `FeedbackFits`, `feedbackFits_iff`: when all feedback does.
* `feedback_fits_iff`: the accepted configurations whose feedback fits where data fits.
* `short_route_without_acks`: one that sends data and never an ACK.
-/

set_option autoImplicit false

namespace XgenLink

/-! ### Feedback frames -/

/-- The packets `transport_send_control`, `transport_send_ack` and `transport_send_sack`
hand down. -/
inductive Feedback (config : TransportConfig) : Packet → Prop where
  | hello (scope : FeedbackScope) : Feedback config (helloPacket config scope)
  | ack (scope : FeedbackScope) (n : UInt32) : Feedback config (ackPacket config scope n)
  | sack (scope : FeedbackScope) (rxBuffered : List Packet) (basePacket : UInt32) :
      Feedback config (sackPacket config scope rxBuffered basePacket)

/-- The frame of a packet passes the size check of a route. -/
def PassesBudget (net : NetworkCtx) (route : RouteItem) (packet : Packet) : Prop :=
  ∃ frame, networkBuildTxFrame packet = .ok frame ∧
    networkValidateAuthTxBudget net frame route = .ok

/-- One extension of another kind does not change what the network layer reads. -/
theorem networkCopyPacketExtensions_single {packet : Packet} (type : UInt8) (value : Bytes)
    (hexts : packet.extensions = type :: UInt8.ofNat value.length :: value)
    (hvalid : type ≠ 0) (hlength : value.length ≤ 13)
    (htype : type ≠ XGL_WIRE_EXT_DATA_TYPE) (hsession : type ≠ XGL_WIRE_EXT_SESSION)
    (hdata : packet.dataType = 0) :
    networkCopyPacketExtensions packet = .ok packet.extensions := by
  have hlen : packet.extensions.length = value.length + 2 := by rw [hexts]; rfl
  have hwalk := wireExts_single type value hvalid (by omega)
  have hmetadata : xglNetworkDecodeExtMetadata packet.extensions packet.extensions.length
      = .ok {} := by
    rw [xglNetworkDecodeExtMetadata, if_neg (by simp [hlen]), hexts, hwalk]
    simp [networkExtLoop, htype, hsession]
  have hfits : ¬ packet.extensions.length > networkExtensionsCapacity := by
    rw [hlen, networkExtensionsCapacity]
    simp only [XGL_WIRE_BASE_HEADER_SIZE]
    omega
  rw [networkCopyPacketExtensions, if_neg hfits, hmetadata]
  simp [networkAppendDataTypeExt, hdata]

/-- A packet without payload is built into a frame with its extensions. -/
theorem networkBuildTxFrame_bare (packet : Packet) (hdata : packet.payload?.getD [] = [])
    (hcopy : networkCopyPacketExtensions packet = .ok packet.extensions) :
    ∃ frame, networkBuildTxFrame packet = .ok frame ∧ frame.payload = [] ∧
      frame.extensions = packet.extensions := by
  simp only [networkBuildTxFrame, hcopy, xglFrameBuild]
  have hshort : ¬ (networkFrameParams packet packet.extensions).payload.length > 65535 := by
    show ¬ (packet.payload?.getD []).length > 65535
    rw [hdata]
    simp
  rw [if_neg hshort]
  exact ⟨_, rfl, hdata, rfl⟩

/-- An ACK is a frame of 15 bytes of extensions. -/
theorem ackPacket_frame (config : TransportConfig) (scope : FeedbackScope) (n : UInt32) :
    ∃ frame, networkBuildTxFrame (ackPacket config scope n) = .ok frame ∧ frame.payload = [] ∧
      frame.extensions.length = 15 := by
  have hvalue := length_ackValue n
  obtain ⟨frame, hbuild, hpayload, hexts⟩ := networkBuildTxFrame_bare
    (ackPacket config scope n) rfl (networkCopyPacketExtensions_single XGL_WIRE_EXT_ACK_RANGE
      (ackValue n) rfl (by decide) (by omega) (by decide) (by decide) rfl)
  refine ⟨frame, hbuild, hpayload, ?_⟩
  rw [hexts]
  show (ackValue n).length + 2 = 15
  omega

/-- Every feedback packet is a frame of at most that size. -/
theorem Feedback.frame {config : TransportConfig} {packet : Packet} (h : Feedback config packet) :
    ∃ frame, networkBuildTxFrame packet = .ok frame ∧ frame.payload = [] ∧
      frame.extensions.length ≤ 15 := by
  cases h with
  | hello scope =>
    obtain ⟨frame, hbuild, hpayload, hexts⟩ := networkBuildTxFrame_bare
      (helloPacket config scope) rfl rfl
    refine ⟨frame, hbuild, hpayload, ?_⟩
    rw [hexts]
    show 3 ≤ 15
    decide
  | ack scope n =>
    obtain ⟨frame, hbuild, hpayload, hexts⟩ := ackPacket_frame config scope n
    exact ⟨frame, hbuild, hpayload, hexts.le⟩
  | sack scope rxBuffered basePacket =>
    have hbitmap := length_sackBitmap_le rxBuffered basePacket
    have hvalue : (sackValue basePacket (sackBitmap rxBuffered basePacket)).length ≤ 13 := by
      simp only [sackValue, List.length_append, List.length_singleton, length_xglSerializeU32Le]
      omega
    obtain ⟨frame, hbuild, hpayload, hexts⟩ := networkBuildTxFrame_bare
      (sackPacket config scope rxBuffered basePacket) rfl
      (networkCopyPacketExtensions_single XGL_WIRE_EXT_SACK
        (sackValue basePacket (sackBitmap rxBuffered basePacket)) rfl (by decide) hvalue
        (by decide) (by decide) rfl)
    refine ⟨frame, hbuild, hpayload, ?_⟩
    rw [hexts]
    show (sackValue basePacket (sackBitmap rxBuffered basePacket)).length + 2 ≤ 15
    omega

/-! ### Configurations -/

/-- The tag an accepted configuration adds to every frame: the transport plans with it and
the network checks with it. -/
theorem xglConfigValidate_tagLen {threadSafeBuild : Bool} {config : XglConfig}
    (h : xglConfigValidate threadSafeBuild config = .ok) :
    datalinkAuthTagLen config.authRequired config.authProvider = .ok config.authTagLen.toNat ∧
      (config.authRequired = false → config.authTagLen.toNat = 0) ∧
      (config.authRequired = true → 0 < config.authTagLen.toNat) := by
  cases hauth : config.authRequired with
  | false => simp [datalinkAuthTagLen, XglConfig.authTagLen, hauth]
  | true =>
    obtain ⟨provider, hprovider, hsign, hpos, hmax⟩ := xglConfigValidate_auth h hauth
    have hlen : (UInt8.ofNat provider.tagLen).toNat = provider.tagLen := by
      rw [UInt8.toNat_ofNat']
      omega
    have htag : config.authTagLen.toNat = provider.tagLen := by
      simp [XglConfig.authTagLen, hauth, hprovider, hlen]
    have hnone : provider.sign.isNone = false := by
      rw [Option.isSome_iff_exists] at hsign
      obtain ⟨sign, hsign⟩ := hsign
      rw [hsign]
      rfl
    refine ⟨?_, by simp, fun _ => by omega⟩
    simp only [datalinkAuthTagLen, hprovider, htag, Bool.not_true, Bool.false_eq_true, if_false,
      hnone, Bool.false_or]
    rw [if_neg]
    have hshort : ¬ provider.tagLen > XGL_AUTH_TAG_MAX_LEN := Nat.not_lt.mpr hmax
    simp [hshort, Nat.pos_iff_ne_zero.mp hpos]

/-- The planner admits some reliable message to the target. -/
def DataAdmitted (config : TransportConfig) (targetId : UInt16) : Prop :=
  ∃ (txData : TxData) (len : Nat) (plan : SendPlan), txData.reliable = true ∧
    txData.targetId = targetId ∧ 0 < len ∧ transportBuildSendPlan config txData len = .ok plan

/-- Every feedback packet of a node passes on every route with the frame size and the
authentication settings given. -/
def FeedbackFits (config : XglConfig) (maxFrameSize : UInt16) : Prop :=
  ∀ (net : NetworkCtx) (route : RouteItem) (sender : TransportConfig),
    net.authRequired = config.authRequired → net.authProvider = config.authProvider →
    route.maxFrameSize = maxFrameSize → ∀ packet, Feedback sender packet →
      PassesBudget net route packet

/-- What is left of a frame for the payload. -/
theorem xglFramePayloadBudget_eq_some {maxFrameSize extensionsLen authTagLen budget : Nat} :
    xglFramePayloadBudget maxFrameSize extensionsLen authTagLen = some budget ↔
      26 + extensionsLen + xglFrameAuthOverhead authTagLen + budget = maxFrameSize := by
  show (if maxFrameSize < 24 + extensionsLen + xglFrameAuthOverhead authTagLen + 2 then none
    else some (maxFrameSize - (24 + extensionsLen + xglFrameAuthOverhead authTagLen + 2)))
      = some budget ↔ _
  by_cases hsmall : maxFrameSize < 24 + extensionsLen + xglFrameAuthOverhead authTagLen + 2
  · rw [if_pos hsmall]
    exact ⟨fun h => (by cases h), fun h => by omega⟩
  · rw [if_neg hsmall, Option.some_inj]
    omega

/-- Data is admitted when one byte of it fits into the smaller of the two frame sizes. -/
theorem dataAdmitted_iff {config : XglConfig} (codecs : List Codec) {targetId : UInt16}
    {route : RouteItem}
    (hlook : xglRouteTableLookup (xglRouteTableLoad config.routes) targetId = some route) :
    DataAdmitted (config.transportConfig (xglRouteTableLoad config.routes) codecs) targetId ↔
      27 + xglFrameAuthOverhead config.authTagLen.toNat
        ≤ min config.protocol.maxFrameSize.toNat route.maxFrameSize.toNat := by
  have hsize : (transportEffectiveMaxFrameSize (config.transportConfig
      (xglRouteTableLoad config.routes) codecs) targetId).toNat
        = min config.protocol.maxFrameSize.toNat route.maxFrameSize.toNat := by
    have heffective : transportEffectiveMaxFrameSize (config.transportConfig
        (xglRouteTableLoad config.routes) codecs) targetId
          = if route.maxFrameSize < config.protocol.maxFrameSize then route.maxFrameSize
            else config.protocol.maxFrameSize := by
      simp only [transportEffectiveMaxFrameSize, XglConfig.transportConfig, hlook]
      rfl
    rw [heffective]
    by_cases hless : route.maxFrameSize < config.protocol.maxFrameSize
    · rw [if_pos hless]
      exact (Nat.min_eq_right (Nat.le_of_lt (UInt16.lt_iff_toNat_lt.mp hless))).symm
    · rw [if_neg hless]
      exact (Nat.min_eq_left (UInt16.le_iff_toNat_le.mp (UInt16.not_lt.mp hless))).symm
  have htag : (config.transportConfig (xglRouteTableLoad config.routes) codecs).authTagLen
      = config.authTagLen := rfl
  constructor
  · rintro ⟨txData, len, plan, _, rfl, hlen, hplan⟩
    simp only [transportBuildSendPlan, hsize, htag] at hplan
    split at hplan
    · cases hplan
    split at hplan
    · cases hplan
    rename_i budget hbudget
    -- the budget of the message has at least one byte, fragmented or not
    have hone : 1 ≤ budget := by
      split at hplan
      · omega
      split at hplan
      · cases hplan
      split at hplan
      · cases hplan
      · omega
    rw [xglFramePayloadBudget_eq_some] at hbudget
    omega
  · intro hroom
    have hbudget : xglFramePayloadBudget (min config.protocol.maxFrameSize.toNat
        route.maxFrameSize.toNat) 0 config.authTagLen.toNat
          = some (min config.protocol.maxFrameSize.toNat route.maxFrameSize.toNat -
            (26 + xglFrameAuthOverhead config.authTagLen.toNat)) := by
      rw [xglFramePayloadBudget_eq_some]
      omega
    refine ⟨{ targetId := targetId, reliable := true }, 1,
      { needsFragmentation := false, fragmentCount := 1, fragmentPayloadBudget :=
        min config.protocol.maxFrameSize.toNat route.maxFrameSize.toNat -
          (26 + xglFrameAuthOverhead config.authTagLen.toNat) }, rfl, rfl, Nat.one_pos, ?_⟩
    simp only [transportBuildSendPlan, hsize, htag, bne_self_eq_false, Bool.false_eq_true, if_false,
      hbudget]
    rw [if_pos (by omega)]

section Valid

variable {threadSafeBuild : Bool} {config : XglConfig}
  (hvalid : xglConfigValidate threadSafeBuild config = .ok)

include hvalid

/-- The size check with the settings of an accepted configuration. -/
theorem networkValidateAuthTxBudget_iff {net : NetworkCtx} {route : RouteItem} {frame : Frame}
    (hrequired : net.authRequired = config.authRequired)
    (hprovider : net.authProvider = config.authProvider) (hpayload : frame.payload = []) :
    networkValidateAuthTxBudget net frame route = .ok ↔
      26 + frame.extensions.length + xglFrameAuthOverhead config.authTagLen.toNat
        ≤ route.maxFrameSize.toNat := by
  simp only [networkValidateAuthTxBudget, hrequired, hprovider,
    (xglConfigValidate_tagLen hvalid).1, hpayload, xglFrameSerializedSize,
    XGL_WIRE_BASE_HEADER_SIZE,
    XGL_CRC16_SIZE, List.length_nil]
  split
  · exact ⟨fun h => (by cases h), fun h => by omega⟩
  · exact ⟨fun _ => by omega, fun _ => rfl⟩

/-- Feedback fits when an ACK does. -/
theorem feedbackFits_iff (maxFrameSize : UInt16) :
    FeedbackFits config maxFrameSize ↔
      41 + xglFrameAuthOverhead config.authTagLen.toNat ≤ maxFrameSize.toNat := by
  constructor
  · intro hfits
    obtain ⟨frame, hbuild, hpayload, hexts⟩ := ackPacket_frame { localId := 1 }
      { targetId := 2, sessionId := 0, connectionId := 0, sessionEpoch := 0 } 0
    obtain ⟨frame', hbuild', hbudget⟩ := hfits
      { localId := 1, authRequired := config.authRequired, authProvider := config.authProvider }
      { targetId := 2, maxFrameSize := maxFrameSize } { localId := 1 } rfl rfl rfl _ (.ack _ 0)
    rw [hbuild] at hbuild'
    cases hbuild'
    rw [networkValidateAuthTxBudget_iff hvalid rfl rfl hpayload, hexts] at hbudget
    exact hbudget
  · intro hroom net route sender hrequired hprovider hsize packet hfeedback
    obtain ⟨frame, hbuild, hpayload, hexts⟩ := hfeedback.frame
    refine ⟨frame, hbuild, ?_⟩
    rw [networkValidateAuthTxBudget_iff hvalid hrequired hprovider hpayload, hsize]
    omega

/-- Data and no room for its feedback: only with authentication, and between 42 and 56 bytes
besides the tag. -/
theorem feedback_fits_iff (codecs : List Codec) (targetId : UInt16) (route : RouteItem)
    (hlook : xglRouteTableLookup (xglRouteTableLoad config.routes) targetId = some route) :
    (DataAdmitted (config.transportConfig (xglRouteTableLoad config.routes) codecs) targetId →
        FeedbackFits config route.maxFrameSize) ↔
      (config.authRequired = true →
        config.authTagLen.toNat + 56 ≤ route.maxFrameSize.toNat ∨
        min config.protocol.maxFrameSize.toNat route.maxFrameSize.toNat
          < config.authTagLen.toNat + 42) := by
  obtain ⟨_, hplain, htagged⟩ := xglConfigValidate_tagLen hvalid
  have hroute := loaded_maxFrameSize hvalid hlook
  rw [dataAdmitted_iff codecs hlook, feedbackFits_iff hvalid]
  cases hauth : config.authRequired with
  | false =>
    have hnone : xglFrameAuthOverhead config.authTagLen.toNat = 0 := by
      rw [hplain hauth]
      rfl
    rw [hnone]
    exact ⟨fun _ himpossible => (by cases himpossible), fun _ _ => by omega⟩
  | true =>
    have hadds : xglFrameAuthOverhead config.authTagLen.toNat = 15 + config.authTagLen.toNat := by
      rw [xglFrameAuthOverhead, if_pos (htagged hauth)]
      rfl
    rw [hadds]
    constructor
    · intro hfits _
      rcases Nat.lt_or_ge (min config.protocol.maxFrameSize.toNat route.maxFrameSize.toNat)
        (config.authTagLen.toNat + 42) with hsmall | hlarge
      · exact .inr hsmall
      · exact .inl (by have := hfits (by omega); omega)
    · intro hcondition hdata
      rcases hcondition rfl with hroom | hsmall
      · omega
      · omega

end Valid

/-- A provider with tags of 16 bytes. -/
def blockProvider : AuthProvider where
  sign := some fun _ _ _ _ => .ok (List.replicate 16 0x77)
  verify := some fun input => (.ok, input.tag == List.replicate 16 0x77)
  tagLen := 16

/-- Node 1 with a signed route to node 2. -/
def signedConfig (maxFrameSize : UInt16) : XglConfig where
  sourceId := 1
  memory := { txPoolSize := 4096, rxBufferSize := 256, allocator := some ⟨true, true⟩ }
  protocol := { ackTimeoutMs := 1000, maxRetryCount := 3, windowSize := 8, maxFrameSize := 256 }
  authRequired := true
  authKeyId := 7
  authProvider := some blockProvider
  routeTable := some [{ targetId := 2, phy := some { id := 0, tx := some fun _ => .ok }
                        maxFrameSize := maxFrameSize, readFreqHz := 100 }]
  routeTableLen := 1

/-- The route of `signedConfig` as the table holds it. -/
def signedRoute (maxFrameSize : UInt16) : RouteItem where
  targetId := 2
  phy := some { id := 0, tx := some fun _ => .ok }
  maxFrameSize := maxFrameSize

/-- With 128 bytes an ACK goes where data goes. -/
theorem long_route_with_acks :
    xglConfigValidate false (signedConfig 128) = .ok ∧
      DataAdmitted ((signedConfig 128).transportConfig
        (xglRouteTableLoad (signedConfig 128).routes) []) 2 ∧
      FeedbackFits (signedConfig 128) (signedRoute 128).maxFrameSize := by
  have hadmitted : DataAdmitted ((signedConfig 128).transportConfig
      (xglRouteTableLoad (signedConfig 128).routes) []) 2 :=
    ⟨{ targetId := 2, reliable := true }, 7, _, rfl, rfl, by decide, rfl⟩
  refine ⟨by decide, hadmitted, ?_⟩
  exact (@feedback_fits_iff false (signedConfig 128) (by decide) [] 2 (signedRoute 128) rfl).mpr
    (fun _ => .inl (by decide)) hadmitted

/-- A route of 64 bytes is accepted and takes data of up to 7 bytes, and no ACK of 72. -/
theorem short_route_without_acks :
    xglConfigValidate false (signedConfig 64) = .ok ∧
      xglRouteTableLookup (xglRouteTableLoad (signedConfig 64).routes) 2
        = some (signedRoute 64) ∧
      DataAdmitted ((signedConfig 64).transportConfig
        (xglRouteTableLoad (signedConfig 64).routes) []) 2 ∧
      ¬ PassesBudget ((signedConfig 64).networkCtx (xglRouteTableLoad (signedConfig 64).routes))
        (signedRoute 64) (ackPacket ((signedConfig 64).transportConfig
          (xglRouteTableLoad (signedConfig 64).routes) [])
          { targetId := 2, sessionId := 0, connectionId := 0, sessionEpoch := 0 } 0) := by
  refine ⟨by decide, rfl, ?_, ?_⟩
  · exact ⟨{ targetId := 2, reliable := true }, 7, _, rfl, rfl, by decide, rfl⟩
  · rintro ⟨frame, hbuild, hbudget⟩
    cases hbuild
    revert hbudget
    decide

end XgenLink
