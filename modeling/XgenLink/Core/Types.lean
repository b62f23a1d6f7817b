import XgenLink.Lib.Bytes

/-!
# `XgenLink.Core.Types`: error codes, packets, routes and providers

The data every layer shares: the error codes of `xgl_error.h`, the traffic-class and packet-type
constants, the packet that travels between transport and network, the transmission request, the
route table and the authentication provider. A provider's callbacks are application code, so they
are functions of the bytes they are handed.

Pointers with a length are lists of bytes. Where the source tells a NULL pointer from an empty
buffer the list is an `Option`, and where it does not the empty list stands for both. A callback
that may be NULL is an `Option` too, and a callback of which only the call matters is a flag.
-/

set_option autoImplicit false

namespace XgenLink

/-! ### Error codes -/

/-- `xgl_error_t`. -/
inductive XglError where
  | ok
  | invalidParam
  | nullPointer
  | notInitialized
  | alreadyInitialized
  | notFound
  | noMemory
  | poolExhausted
  | bufferTooSmall
  | routeNotFound
  | txFailed
  | timeout
  | ackTimeout
  | ttlExpired
  | invalidFrame
  | crcFailed
  | invalidVersion
  | invalidDataType
  | sequenceError
  | busy
  | queueFull
  | windowFull
  deriving DecidableEq, Repr, Inhabited

/-! ### Traffic class, packet types and session ids -/

/-- `XGL_CRC16_SIZE`. -/
def XGL_CRC16_SIZE : Nat := 2

/-- `XGL_DATA_TYPE_EXT_SIZE`. -/
def XGL_DATA_TYPE_EXT_SIZE : Nat := 3

/-- `XGL_RELIABILITY_CLASS_MASK`. -/
def XGL_RELIABILITY_CLASS_MASK : UInt8 := 0xC0

/-- `XGL_RELIABILITY_NONE`. -/
def XGL_RELIABILITY_NONE : UInt8 := 0x00

/-- `XGL_RELIABILITY_ACK_ELICITING`. -/
def XGL_RELIABILITY_ACK_ELICITING : UInt8 := 0x40

/-- `XGL_RELIABILITY_ACK_ONLY`. -/
def XGL_RELIABILITY_ACK_ONLY : UInt8 := 0x80

/-- `XGL_TRAFFIC_FRAGMENTED_MASK`. -/
def XGL_TRAFFIC_FRAGMENTED_MASK : UInt8 := 0x20

/-- `XGL_TRAFFIC_ENCRYPTION_MASK`. -/
def XGL_TRAFFIC_ENCRYPTION_MASK : UInt8 := 0x18

/-- `XGL_TRAFFIC_PRIORITY_MASK`; the priority shift is zero. -/
def XGL_TRAFFIC_PRIORITY_MASK : UInt8 := 0x07

/-- `XGL_AUTH_TAG_MAX_LEN`. -/
def XGL_AUTH_TAG_MAX_LEN : Nat := 32

/-- `XGL_SESSION_ID_MASK`. -/
def XGL_SESSION_ID_MASK : UInt16 := 0x3F

/-- `XGL_BROADCAST_ID`. -/
def XGL_BROADCAST_ID : UInt16 := 0xFFFF

/-- `XGL_DEFAULT_TTL`. -/
def XGL_DEFAULT_TTL : UInt8 := 8

/-- `XGL_PACKET_TYPE_INVALID`. -/
def XGL_PACKET_TYPE_INVALID : UInt8 := 0

/-- `XGL_PACKET_TYPE_DATA`. -/
def XGL_PACKET_TYPE_DATA : UInt8 := 1

/-- `XGL_PACKET_TYPE_ACK`. -/
def XGL_PACKET_TYPE_ACK : UInt8 := 2

/-- `XGL_PACKET_TYPE_CONTROL`. -/
def XGL_PACKET_TYPE_CONTROL : UInt8 := 3

/-- `XGL_PACKET_TYPE_HANDSHAKE`. -/
def XGL_PACKET_TYPE_HANDSHAKE : UInt8 := 4

/-- `XGL_PACKET_TYPE_ROUTE`. -/
def XGL_PACKET_TYPE_ROUTE : UInt8 := 5

/-- `XGL_PACKET_TYPE_PROBE`. -/
def XGL_PACKET_TYPE_PROBE : UInt8 := 6

/-- `XGL_PACKET_TYPE_CLOSE`, the last valid packet type. -/
def XGL_PACKET_TYPE_CLOSE : UInt8 := 7

/-! ### Configuration limits of `xgl_config.h` -/

/-- `XGL_DATALINK_STACK_BUFFER_SIZE`. -/
def XGL_DATALINK_STACK_BUFFER_SIZE : Nat := 512

/-- `XGL_DATALINK_MAX_FRAME_SIZE`. -/
def XGL_DATALINK_MAX_FRAME_SIZE : Nat := 2048

/-- `XGL_NETWORK_FORWARD_STACK_BUFFER_SIZE`. -/
def XGL_NETWORK_FORWARD_STACK_BUFFER_SIZE : Nat := 512

/-! ### Packets -/

/-- `xgl_packet_data_t`: a view of the payload, `none` when the pointer is NULL
(the length is then zero). -/
structure PacketData where
  data : Option Bytes := none
  deriving DecidableEq, Repr, Inhabited

/-- `data_len` of the view. -/
def PacketData.dataLen (d : PacketData) : Nat :=
  (d.data.getD []).length

/-- `xgl_packet_t` with the fields the modelled functions read. Extension bytes
are the empty list when the source's pointer is NULL. -/
structure Packet where
  sourceId : UInt16 := 0
  targetId : UInt16 := 0
  sessionId : UInt16 := 0
  connectionId : UInt32 := 0
  packetNumber : UInt32 := 0
  sessionEpoch : UInt32 := 0
  packetType : UInt8 := XGL_PACKET_TYPE_INVALID
  flags : UInt8 := 0
  dataType : UInt8 := 0
  reliable : UInt8 := 0
  fragment : UInt8 := 0
  priority : UInt8 := 0
  ttl : UInt8 := 0
  trafficClass : UInt8 := 0
  compress : UInt8 := 0
  data : Option PacketData := none
  extensions : Bytes := []
  deriving DecidableEq, Repr, Inhabited

/-- The payload pointer a receiver works with: NULL when the packet has no data
view or the view has no bytes. -/
def Packet.payload? (p : Packet) : Option Bytes :=
  p.data.bind PacketData.data

/-- The test the transport makes before a scoped lookup. -/
def Packet.scoped (p : Packet) : Bool :=
  p.connectionId != 0 || p.sessionEpoch != 0

/-- `xgl_tx_data_t`; `data` is `none` when the pointer is NULL. -/
structure TxData where
  targetId : UInt16 := 0
  dataType : UInt8 := 0
  data : Option Bytes := none
  reliable : Bool := false
  priority : UInt8 := 0
  timeoutMs : UInt32 := 0
  connectionId : UInt32 := 0
  sessionEpoch : UInt32 := 0
  compressionId : UInt8 := 0
  deriving DecidableEq, Repr, Inhabited

/-! ### Routes -/

/-- `xgl_phy_ops_t` on the transmit side: a number that tells PHYs apart and the
transmit function, `none` when the PHY has none. -/
structure Phy where
  id : Nat
  tx : Option (Bytes → XglError) := none

/-- `xgl_route_item_t`. -/
structure RouteItem where
  targetId : UInt16
  phy : Option Phy := none
  maxFrameSize : UInt16

/-- The entries of `xgl_route_table_t`, one for each target. -/
abbrev RouteTable := List RouteItem

/-- `xgl_route_table_lookup`. -/
def xglRouteTableLookup (table : RouteTable) (targetId : UInt16) : Option RouteItem :=
  table.find? (fun route => route.targetId == targetId)

/-! ### Authentication provider -/

/-- What a provider is handed: the key, the canonical header and extension
bytes, the payload and (for verification) the tag. -/
structure AuthInput where
  keyId : UInt32
  aad : Bytes
  payload : Bytes
  tag : Bytes
  deriving DecidableEq, Repr

/-- `xgl_auth_provider_t`. `sign` gets the key, the authenticated bytes, the
payload and the room left for the tag; `verify` returns its error code and the
`valid` flag. A missing callback is `none`. -/
structure AuthProvider where
  sign : Option (UInt32 → Bytes → Bytes → Nat → Except XglError Bytes) := none
  verify : Option (AuthInput → XglError × Bool) := none
  tagLen : Nat

end XgenLink
