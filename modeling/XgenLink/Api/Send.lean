import XgenLink.Api.Config
import XgenLink.Wire.ZeroCopy

/-!
# `XgenLink.Api.Send`: instances and the two send functions

`xgl_init` wires the three layers of an instance, `xgl_send` goes through them, and
`xgl_send_zerocopy` builds its frame in the buffer of the caller and gives it to the PHY of
the route. Both are followed down to the bytes every PHY is given.

Instances are used by one thread, and sizes are natural numbers: a sum that wraps around in
C has a payload of more than 65535 bytes in it, which both functions refuse.
-/

set_option autoImplicit false

namespace XgenLink

/-! ### Instances -/

/-- `struct xgl_instance` without memory pools, polling times and statistics. -/
structure XglInstance where
  config : XglConfig
  initialized : Bool
  routeTable : RouteTable
  codecRegistry : List Codec
  layers : Node

/-- `xgl_codec_register` on a registry of four entries; a codec that does not fit or is
known already is left out. -/
def xglCodecRegister (registry : List Codec) (codec : Codec) : List Codec :=
  if registry.length ≥ 4 then registry
  -- a kind and an id name one codec
  else if (xglCodecFind registry codec.kind codec.id).isSome then registry
  else registry ++ [codec]

/-- `xgl_init` over an allocator that serves it; `rxCache` is the receive buffer as it was
allocated. -/
def xglInit (config : XglConfig) (rxCache : Bytes) : Except XglError XglInstance :=
  let routeTable := xglRouteTableLoad config.routes
  let codecRegistry := config.codecs.foldl xglCodecRegister []
  match xglDatalinkInit rxCache config.authRequired config.authKeyId config.authProvider
      config.errorCallback true with
  | .error err => .error err
  | .ok datalink =>
    match xglTransportInit (config.transportConfig routeTable codecRegistry) with
    | .error err => .error err
    | .ok transport =>
      .ok { config := config
            initialized := true
            routeTable := routeTable
            codecRegistry := codecRegistry
            layers :=
              { transport := transport
                network := config.networkCtx routeTable
                datalink := datalink } }

/-- What `xgl_init` establishes between the configuration and the layers. -/
structure XglInstance.Wired (inst : XglInstance) : Prop where
  network : inst.layers.network = inst.config.networkCtx inst.routeTable
  authRequired : inst.layers.datalink.authRequired = inst.config.authRequired
  authKeyId : inst.layers.datalink.authKeyId = inst.config.authKeyId
  authProvider : inst.layers.datalink.authProvider = inst.config.authProvider
  transport : inst.layers.transport.config =
    inst.config.transportConfig inst.routeTable inst.codecRegistry

/-! ### PHY -/

/-- A call of a PHY's transmit function. -/
structure PhyCall where
  phy : Phy
  bytes : Bytes

/-- What the layers of an instance ask outside: the allocator for transport memory and, for
the frame of a packet, for the datalink's frame buffer, and the clock. -/
structure InstanceEnv where
  allocOk : Nat → Bool
  frameAllocOk : Nat → Bool
  clock : Nat → UInt32

/-- What the layers below do with the `i`-th packet of the transport. -/
def XglInstance.lowerSend (inst : XglInstance) (world : InstanceEnv) (i : Nat) (packet : Packet) :
    TxResult :=
  xglNetworkSendWithHandle inst.layers.network inst.layers.datalink (world.frameAllocOk i) packet

/-- The world the transport of an instance works in. -/
def XglInstance.env (inst : XglInstance) (world : InstanceEnv) : TransportEnv where
  allocOk := world.allocOk
  clock := world.clock
  layerSend := fun i packet => (inst.lowerSend world i packet).error

/-- The call that sends the `i`-th packet of the transport, if it comes to one. -/
def XglInstance.phyCall (inst : XglInstance) (world : InstanceEnv) (i : Nat) (packet : Packet) :
    Option PhyCall :=
  match (xglRouteTableLookup inst.layers.network.routeTable packet.targetId).bind RouteItem.phy,
      (inst.lowerSend world i packet).transmitted with
  | some phy, some bytes => some { phy := phy, bytes := bytes }
  | _, _ => none

/-- The calls made while the transport went on from `before` to `after`. -/
def XglInstance.phyCalls (inst : XglInstance) (world : InstanceEnv) (before after : TransportIo) :
    List PhyCall :=
  let packets := (after.events.drop before.events.length).filterMap fun event =>
    match event with
    | .layerSend packet _ => some packet
    | _ => none
  (packets.zipIdx before.sendCount).filterMap fun sent => inst.phyCall world sent.2 sent.1

/-! ### `xgl_send` -/

/-- `validate_tx_data`. -/
def validateTxData (txData : TxData) : XglError :=
  match txData.data with
  | none => .nullPointer
  | some data =>
    -- nothing to send
    if data.length == 0 then .invalidParam
    else if txData.priority > 7 then .invalidParam
    else .ok

/-- `xgl_send`. -/
def xglSend (world : InstanceEnv) (inst : XglInstance) (txData : TxData) :
    XglError × XglInstance × List PhyCall :=
  if !inst.initialized then (.notInitialized, inst, [])
  else
    match validateTxData txData with
    | .ok =>
      let sent := xglTransportSend (inst.env world) inst.layers.transport txData
      (sent.1, { inst with layers := { inst.layers with transport := sent.2 } },
        inst.phyCalls world inst.layers.transport.io sent.2.io)
    | err => (err, inst, [])

/-! ### `xgl_send_zerocopy` -/

/-- `xgl_tx_data_zerocopy_t`; `buffer_size` is the length of the buffer. -/
structure TxDataZerocopy where
  buffer : Bytes
  dataOffset : Nat
  dataLen : Nat
  targetId : UInt16
  dataType : UInt8 := 0
  reliable : Bool := false
  priority : UInt8 := 0
  timeoutMs : UInt32 := 0

/-- The payload in the buffer. -/
def TxDataZerocopy.payload (txData : TxDataZerocopy) : Bytes :=
  readBytes txData.buffer txData.dataOffset txData.dataLen

/-- `validate_tx_data_zerocopy`. -/
def validateTxDataZerocopy (txData : TxDataZerocopy) : XglError :=
  if txData.dataLen == 0 then .invalidParam
  -- the header is written in front of the payload
  else if txData.dataOffset < XGL_FRAME_HEADER_SIZE then .invalidParam
  else if txData.buffer.length < txData.dataOffset + txData.dataLen + XGL_CRC16_SIZE then
    .bufferTooSmall
  else if txData.priority > 7 then .invalidParam
  else .ok

/-- What `xgl_send_zerocopy` did: its code, the buffer of the caller and the calls. -/
structure ZerocopyResult where
  error : XglError
  buffer : Bytes
  calls : List PhyCall := []

/-- `xgl_datalink_send_raw` with the frame at the front of the buffer. -/
def xglDatalinkSendRaw (phy : Phy) (buffer : Bytes) (frameLen : Nat) : ZerocopyResult :=
  match phy.tx with
  | none => { error := .invalidParam, buffer := buffer }
  | some tx =>
    if frameLen == 0 then { error := .invalidParam, buffer := buffer }
    else
      let bytes := readBytes buffer 0 frameLen
      { error := tx bytes, buffer := buffer, calls := [{ phy := phy, bytes := bytes }] }

/-- The extension of the authenticated frame. -/
def zerocopyAppTypeExt (dataType : UInt8) : Except XglError Bytes :=
  if dataType != 0 then xglWireEncodeExt XGL_DATA_TYPE_EXT_SIZE XGL_WIRE_EXT_DATA_TYPE [dataType]
  else .ok []

/-- The parameters of the authenticated frame; what the source leaves out is zero. -/
def zerocopyFrameParams (sourceId : UInt16) (txData : TxDataZerocopy) (extensions : Bytes) :
    FrameParams where
  sourceId := sourceId
  targetId := txData.targetId
  packetType := XGL_PACKET_TYPE_DATA
  flags := 0
  trafficClass := 0
  connectionId := 0
  packetNumber := 0
  extensions := extensions
  payload := txData.payload
  reliable := false
  reliabilityClass := 0
  fragment := false
  priority := txData.priority
  sessionId := 0
  ttl := XGL_DEFAULT_TTL

/-- The authenticated branch of `xgl_send_zerocopy` up to the finished frame. -/
def zerocopyAuthenticated (config : XglConfig) (provider : AuthProvider) (txData : TxDataZerocopy)
    (authHeaderLen : Nat) (leftover : Bytes) : Except XglError Nat × Bytes :=
  -- the caller left room for a header with the SECURITY_EXT in it
  if txData.dataOffset != authHeaderLen then (.error .invalidParam, txData.buffer)
  else
    match zerocopyAppTypeExt txData.dataType with
    | .error err => (.error err, txData.buffer)
    | .ok extensions =>
      match xglFrameBuild (zerocopyFrameParams config.sourceId txData extensions) with
      | .error err => (.error err, txData.buffer)
      | .ok frame =>
        xglFrameSerializeAuthenticatedInto txData.buffer txData.dataOffset frame config.authKeyId
          provider leftover

/-- The frame of `xgl_send_zerocopy` in the buffer of the caller. -/
def zerocopyFrame (config : XglConfig) (txData : TxDataZerocopy) (authHeaderLen : Nat)
    (leftover : Bytes) : Except XglError Nat × Bytes :=
  match config.authRequired, config.authProvider with
  | true, some provider => zerocopyAuthenticated config provider txData authHeaderLen leftover
  -- authentication is required and there is nobody to sign
  | true, none => (.error .invalidParam, txData.buffer)
  | false, _ =>
    xglFrameBuildZerocopy txData.buffer txData.dataOffset txData.dataLen config.sourceId
      txData.targetId txData.dataType 0 false txData.priority

/-- The end of `xgl_send_zerocopy`: a frame that was built goes to the PHY. -/
def zerocopyTransmit (phy : Phy) : Except XglError Nat × Bytes → ZerocopyResult
  | (.error err, buffer) => { error := err, buffer := buffer }
  | (.ok frameLen, buffer) => xglDatalinkSendRaw phy buffer frameLen

/-- `xgl_send_zerocopy`. The conditions on the provider are those of
`datalink_auth_tag_len`. -/
def xglSendZerocopy (inst : XglInstance) (txData : TxDataZerocopy) (leftover : Bytes) :
    ZerocopyResult :=
  let config := inst.config
  let failed (error : XglError) : ZerocopyResult := { error := error, buffer := txData.buffer }
  if !inst.initialized then failed .notInitialized
  else
    match validateTxDataZerocopy txData with
    | .ok =>
      -- a reliable packet would need a copy for retransmission
      if txData.reliable then failed .invalidParam
      else
        match xglRouteTableLookup inst.routeTable txData.targetId with
        | none => failed .routeNotFound
        | some route =>
          match route.phy with
          | none => failed .invalidParam
          | some phy =>
            if phy.tx.isNone then failed .invalidParam
            else
              match datalinkAuthTagLen config.authRequired config.authProvider with
              | .error err => failed err
              | .ok authTagLen =>
                -- the header is as long as the extensions make it
                let appTypeExtLen := if txData.dataType != 0 then XGL_DATA_TYPE_EXT_SIZE else 0
                let headerLen := XGL_WIRE_BASE_HEADER_SIZE + appTypeExtLen +
                  (if config.authRequired then XGL_SECURITY_EXT_SIZE else 0)
                -- the whole frame with its trailer, as in `xgl_send`
                if xglFrameSerializedSize txData.dataLen appTypeExtLen authTagLen >
                    route.maxFrameSize.toNat then failed .bufferTooSmall
                else zerocopyTransmit phy (zerocopyFrame config txData headerLen leftover)
    | err => failed err

/-! ### Wiring -/

/-- An initialized instance is wired. -/
theorem xglInit_wired {config : XglConfig} {rxCache : Bytes} {inst : XglInstance}
    (h : xglInit config rxCache = .ok inst) : inst.Wired := by
  simp only [xglInit, xglDatalinkInit] at h
  split at h
  · cases h
  · rename_i datalink hdatalink
    split at h
    · cases h
    · rename_i transport htransport
      cases h
      split at hdatalink
      · cases hdatalink
      · cases hdatalink
        exact ⟨rfl, rfl, rfl, rfl, (xglTransportInit_fresh htransport).2.2⟩

end XgenLink
