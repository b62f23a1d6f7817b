import XgenLink.Transport.Peer

/-!
# `XgenLink.Transport.Feedback`: control, ACK and SACK packets

The packets the transport builds on its own: HELLO in front of the first reliable send, an
ACK_RANGE with one number, and a SACK over the out-of-order list. They go to the source of the
packet they answer, under its connection, epoch and session, and none of them is itself
acknowledged.

A SACK has a bitmap of up to eight bytes above its base. A packet that lies further above is not
reported, and bytes behind the highest bit are not sent.

* `ackPacket`, `sackPacket`, `helloPacket`: the packets.
* `transportSendAck_eq`, `transportSendSack_eq`, `transportSendHello_eq`: each
  hands exactly one packet to the layer below when there is one.
-/

set_option autoImplicit false

namespace XgenLink

/-- `XGL_TRANSPORT_CONTROL_HELLO`. -/
def XGL_TRANSPORT_CONTROL_HELLO : UInt8 := 0x0E

/-- `XGL_TRANSPORT_CONTROL_RESET`. -/
def XGL_TRANSPORT_CONTROL_RESET : UInt8 := 0x0F

/-- The scope fields every feedback packet copies. -/
structure FeedbackScope where
  targetId : UInt16
  sessionId : UInt16
  connectionId : UInt32
  sessionEpoch : UInt32
  deriving DecidableEq, Repr

/-- The scope of the feedback for a received packet. -/
def Packet.feedbackScope (packet : Packet) : FeedbackScope where
  targetId := packet.sourceId
  sessionId := packet.sessionId
  connectionId := packet.connectionId
  sessionEpoch := packet.sessionEpoch

/-- The layer below, when one is connected. -/
def transportLowerSend (env : TransportEnv) (config : TransportConfig) (io : TransportIo)
    (packet : Packet) : XglError × TransportIo :=
  if config.lowerLayer then xglLayerSend env io packet else (.invalidParam, io)

/-! ### Control -/

/-- The packet of `transport_send_control`. -/
def controlPacket (config : TransportConfig) (scope : FeedbackScope) (controlType : UInt8)
    (packetNumber : UInt32) (extensions : Bytes) : Packet where
  sourceId := config.localId
  targetId := scope.targetId
  sessionId := scope.sessionId
  connectionId := scope.connectionId
  packetNumber := packetNumber
  sessionEpoch := scope.sessionEpoch
  packetType := XGL_PACKET_TYPE_CONTROL
  dataType := controlType
  reliable := XGL_RELIABILITY_NONE
  priority := 7
  data := some {}
  extensions := extensions

/-- `transport_send_control`. -/
def transportSendControl (env : TransportEnv) (config : TransportConfig) (io : TransportIo)
    (scope : FeedbackScope) (controlType : UInt8) (packetNumber : UInt32) :
    XglError × TransportIo :=
  match xglWireEncodeExt 4 XGL_WIRE_EXT_DATA_TYPE [controlType] with
  | .error err => (err, io)
  | .ok ext =>
    transportLowerSend env config io (controlPacket config scope controlType packetNumber ext)

/-! ### ACK and SACK -/

/-- The packet `transport_send_ack` and `transport_send_sack` build around their
extension. -/
def feedbackPacket (config : TransportConfig) (scope : FeedbackScope) (packetNumber : UInt32)
    (extensions : Bytes) : Packet where
  sourceId := config.localId
  targetId := scope.targetId
  sessionId := scope.sessionId
  connectionId := scope.connectionId
  packetNumber := packetNumber
  sessionEpoch := scope.sessionEpoch
  packetType := XGL_PACKET_TYPE_ACK
  flags := XGL_WIRE_FLAG_HAS_EXTENSIONS
  reliable := XGL_RELIABILITY_ACK_ONLY
  priority := 7
  data := some {}
  extensions := extensions

/-- Wrapping an extension value into a feedback packet and sending it. -/
def sendFeedback (env : TransportEnv) (config : TransportConfig) (io : TransportIo)
    (scope : FeedbackScope) (packetNumber : UInt32) (type : UInt8)
    (value : Except XglError Bytes) : XglError × TransportIo :=
  match value with
  | .error err => (err, io)
  | .ok value =>
    match xglWireEncodeExt 32 type value with
    | .error err => (err, io)
    | .ok ext => transportLowerSend env config io (feedbackPacket config scope packetNumber ext)

/-- `transport_send_ack`. -/
def transportSendAck (env : TransportEnv) (config : TransportConfig) (io : TransportIo)
    (scope : FeedbackScope) (packetNumber : UInt32) : XglError × TransportIo :=
  sendFeedback env config io scope packetNumber XGL_WIRE_EXT_ACK_RANGE
    (xglWireEncodeAckRangeExtValue 16 packetNumber 0 [{ gap := 0, length := 1 }])

/-- `transport_sack_bit_is_set`. -/
def transportSackBitIsSet (bitmap : Bytes) (bitIndex : Nat) : Bool :=
  byteAt bitmap (bitIndex / 8) &&& ((1 : UInt8) <<< UInt8.ofNat (bitIndex % 8)) != 0

/-- Setting a bit of the bitmap. -/
def sackSetBit (bitmap : Bytes) (bitIndex : Nat) : Bytes :=
  bitmap.set (bitIndex / 8)
    (byteAt bitmap (bitIndex / 8) ||| ((1 : UInt8) <<< UInt8.ofNat (bitIndex % 8)))

/-- The state of the loop of `transport_send_sack`. -/
structure SackBits where
  bitmap : Bytes := List.replicate 8 0
  highestBit : Nat := 0
  hasReceived : Bool := false
  deriving DecidableEq, Repr

/-- One buffered packet in the loop of `transport_send_sack`. -/
def sackStep (basePacket : UInt32) (bits : SackBits) (buffered : Packet) : SackBits :=
  if buffered.packetNumber < basePacket then bits
  else
    let diff := (buffered.packetNumber - basePacket).toNat
    if diff ≥ 64 then bits
    else
      { bitmap := sackSetBit bits.bitmap diff
        highestBit := if diff > bits.highestBit then diff else bits.highestBit
        hasReceived := true }

/-- The bitmap `transport_send_sack` sends. -/
def sackBitmap (rxBuffered : List Packet) (basePacket : UInt32) : Bytes :=
  let bits := rxBuffered.foldl (sackStep basePacket) {}
  bits.bitmap.take (if bits.hasReceived then bits.highestBit / 8 + 1 else 1)

/-- `transport_send_sack`. -/
def transportSendSack (env : TransportEnv) (config : TransportConfig) (io : TransportIo)
    (rxBuffered : List Packet) (scope : FeedbackScope) (basePacket : UInt32) :
    XglError × TransportIo :=
  sendFeedback env config io scope basePacket XGL_WIRE_EXT_SACK
    (xglWireEncodeSackExtValue 16 basePacket (sackBitmap rxBuffered basePacket))

/-! ### The packets sent -/

/-- The value of an ACK for one number. -/
def ackValue (packetNumber : UInt32) : Bytes :=
  xglSerializeU32Le packetNumber ++ xglSerializeU32Le 0 ++ [1] ++
    (xglSerializeU16Le 0 ++ xglSerializeU16Le 1)

/-- The value of a SACK. -/
def sackValue (basePacket : UInt32) (bitmap : Bytes) : Bytes :=
  xglSerializeU32Le basePacket ++ [UInt8.ofNat bitmap.length] ++ bitmap

/-- The packet `transport_send_ack` hands down. -/
def ackPacket (config : TransportConfig) (scope : FeedbackScope) (packetNumber : UInt32) : Packet :=
  feedbackPacket config scope packetNumber
    (XGL_WIRE_EXT_ACK_RANGE :: UInt8.ofNat (ackValue packetNumber).length ::
      ackValue packetNumber)

/-- The packet `transport_send_sack` hands down. -/
def sackPacket (config : TransportConfig) (scope : FeedbackScope) (rxBuffered : List Packet)
    (basePacket : UInt32) : Packet :=
  feedbackPacket config scope basePacket
    (XGL_WIRE_EXT_SACK ::
      UInt8.ofNat (sackValue basePacket (sackBitmap rxBuffered basePacket)).length ::
      sackValue basePacket (sackBitmap rxBuffered basePacket))

/-- The HELLO packet of a scope. -/
def helloPacket (config : TransportConfig) (scope : FeedbackScope) : Packet :=
  controlPacket config scope XGL_TRANSPORT_CONTROL_HELLO 0
    [XGL_WIRE_EXT_DATA_TYPE, 1, XGL_TRANSPORT_CONTROL_HELLO]

/-- An ACK for one number takes thirteen bytes. -/
theorem length_ackValue (n : UInt32) : (ackValue n).length = 13 := by
  simp [ackValue]

/-- An ACK always goes out as one packet. -/
theorem transportSendAck_eq (env : TransportEnv) (config : TransportConfig) (io : TransportIo)
    (scope : FeedbackScope) (n : UInt32) :
    transportSendAck env config io scope n
      = transportLowerSend env config io (ackPacket config scope n) := by
  have hvalue : xglWireEncodeAckRangeExtValue 16 n 0 [{ gap := 0, length := 1 }]
      = .ok (ackValue n) := rfl
  have hlen := length_ackValue n
  unfold transportSendAck sendFeedback
  rw [hvalue]
  dsimp only
  unfold xglWireEncodeExt
  rw [if_neg (by simp [XGL_WIRE_EXT_ACK_RANGE, hlen]),
    if_neg (by simp [XGL_WIRE_EXT_HEADER_SIZE, hlen])]
  rfl

/-- The loop keeps the bitmap at eight bytes. -/
theorem length_foldl_sackStep (basePacket : UInt32) (rxBuffered : List Packet) (bits : SackBits) :
    (rxBuffered.foldl (sackStep basePacket) bits).bitmap.length = bits.bitmap.length := by
  induction rxBuffered generalizing bits with
  | nil => rfl
  | cons packet rest ih =>
    rw [List.foldl_cons, ih]
    unfold sackStep sackSetBit
    split
    · rfl
    · dsimp only
      split
      · rfl
      · simp

/-- The bitmap that is sent has at most eight bytes. -/
theorem length_sackBitmap_le (rxBuffered : List Packet) (basePacket : UInt32) :
    (sackBitmap rxBuffered basePacket).length ≤ 8 := by
  unfold sackBitmap
  dsimp only
  rw [List.length_take, length_foldl_sackStep]
  exact Nat.min_le_right _ _

/-- A SACK always goes out as one packet. -/
theorem transportSendSack_eq (env : TransportEnv) (config : TransportConfig) (io : TransportIo)
    (rxBuffered : List Packet) (scope : FeedbackScope) (basePacket : UInt32) :
    transportSendSack env config io rxBuffered scope basePacket
      = transportLowerSend env config io (sackPacket config scope rxBuffered basePacket) := by
  have hbitmap := length_sackBitmap_le rxBuffered basePacket
  have hvalue : xglWireEncodeSackExtValue 16 basePacket (sackBitmap rxBuffered basePacket)
      = .ok (sackValue basePacket (sackBitmap rxBuffered basePacket)) := by
    unfold xglWireEncodeSackExtValue
    dsimp only
    rw [if_neg (by simp; omega), if_neg (by omega)]
    rfl
  have hlen : (sackValue basePacket (sackBitmap rxBuffered basePacket)).length ≤ 13 := by
    simp [sackValue]
    omega
  unfold transportSendSack sendFeedback
  rw [hvalue]
  dsimp only
  unfold xglWireEncodeExt
  rw [if_neg (by simp [XGL_WIRE_EXT_SACK]; omega),
    if_neg (by simp [XGL_WIRE_EXT_HEADER_SIZE]; omega)]
  rfl

/-- A HELLO always goes out as one packet. -/
theorem transportSendHello_eq (env : TransportEnv) (config : TransportConfig) (io : TransportIo)
    (scope : FeedbackScope) :
    transportSendControl env config io scope XGL_TRANSPORT_CONTROL_HELLO 0
      = transportLowerSend env config io (helloPacket config scope) := rfl

end XgenLink
