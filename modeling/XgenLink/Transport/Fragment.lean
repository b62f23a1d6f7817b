import XgenLink.Transport.Env

/-!
# `XgenLink.Transport.Fragment`: reassembly of fragmented messages

`xgl_fragment_process.c` and its helpers. A reassembly buffer is a list of bytes some of which may
not have been written yet (`none`), with the received ranges that track them. The manager holds its
buffers in order of creation, and has limits on their number, on the length of a message and on the
bytes of all buffers together; a limit of 0 is none.

A message is identified by source, connection, epoch and message id. Its first fragment creates the
buffer, whatever part of the message it brings, and the fragment that fills the last gap takes the
message out of the manager. The clock value of the first fragment decides when an incomplete buffer
is dropped.
-/

set_option autoImplicit false

namespace XgenLink

/-- `XGL_FRAGMENT_TIMEOUT_MS`. -/
def XGL_FRAGMENT_TIMEOUT_MS : UInt32 := 5000

/-- `XGL_FRAGMENT_MAX_RECEIVED_RANGES`. -/
def XGL_FRAGMENT_MAX_RECEIVED_RANGES : Nat := 16

/-- `xgl_fragment_received_range_t`: from `start` up to and excluding `stop`. -/
structure ReceivedRange where
  start : Nat
  stop : Nat
  deriving DecidableEq, Repr

/-- `xgl_reassembly_buffer_t`. -/
structure ReassemblyBuffer where
  sourceId : UInt16
  dataType : UInt8
  connectionId : UInt32
  sessionEpoch : UInt32
  messageId : UInt32
  receivedBytes : Nat := 0
  receivedRanges : List ReceivedRange := []
  data : List (Option UInt8)
  bufferSize : Nat
  reservedSize : Nat
  firstFragmentTime : UInt32 := 0
  timeoutMs : UInt32
  deriving DecidableEq, Repr

/-- `xgl_fragment_manager_t`. -/
structure FragmentManager where
  nextMessageId : UInt32 := 0
  reassemblyList : List ReassemblyBuffer := []
  maxReassemblyBuffers : Nat
  reassemblyTimeoutMs : UInt32
  maxMessageSize : Nat := 0
  maxReassemblyBytes : Nat := 0
  currentReassemblyBytes : Nat := 0
  deriving DecidableEq, Repr

/-- What identifies a message: source, connection, epoch and message id. -/
structure MessageKey where
  sourceId : UInt16
  connectionId : UInt32
  sessionEpoch : UInt32
  messageId : UInt32
  deriving DecidableEq, Repr

/-- The key of a buffer. -/
def ReassemblyBuffer.key (buffer : ReassemblyBuffer) : MessageKey where
  sourceId := buffer.sourceId
  connectionId := buffer.connectionId
  sessionEpoch := buffer.sessionEpoch
  messageId := buffer.messageId

/-! ### Managers -/

/-- `xgl_fragment_init`. -/
def xglFragmentInit (maxReassemblyBuffers : Nat) (reassemblyTimeoutMs : UInt32) :
    FragmentManager where
  maxReassemblyBuffers := maxReassemblyBuffers
  reassemblyTimeoutMs := reassemblyTimeoutMs

/-- `xgl_fragment_set_limits`. -/
def xglFragmentSetLimits (manager : FragmentManager) (maxMessageSize maxReassemblyBytes : Nat) :
    XglError × FragmentManager :=
  if maxReassemblyBytes != 0 && maxMessageSize > maxReassemblyBytes then (.invalidParam, manager)
  else
    (.ok,
      { manager with
        maxMessageSize := maxMessageSize
        maxReassemblyBytes := maxReassemblyBytes })

/-! ### Ranges -/

/-- `fragment_range_overlaps`. -/
def fragmentRangeOverlaps (start stop : Nat) (range : ReceivedRange) : Bool :=
  start < range.stop && stop > range.start

/-- The insertion part of `fragment_insert_received_range`, behind the overlap
test: extend the range that ends at `start` (and join it with the next one when
that starts at `stop`), extend the range that starts at `stop`, or add a range.
`before` and `after` are the ranges that start below `start` and the others. -/
def fragmentPlaceRange (before after : List ReceivedRange) (start stop : Nat) :
    Except XglError (List ReceivedRange) :=
  match before.getLast?, after with
  | some last, next :: rest =>
    -- it continues the range before it
    if last.stop == start then
      -- and closes the gap to the next one
      if next.start == stop then
        .ok (before.dropLast ++ { last with stop := next.stop } :: rest)
      else .ok (before.dropLast ++ { last with stop := stop } :: next :: rest)
    -- it ends where the next range starts
    else if next.start == stop then .ok (before ++ { next with start := start } :: rest)
    -- a range of its own, when there is room for one more
    else if before.length + after.length ≥ XGL_FRAGMENT_MAX_RECEIVED_RANGES then .error .noMemory
    else .ok (before ++ { start := start, stop := stop } :: after)
  | some last, [] =>
    if last.stop == start then .ok (before.dropLast ++ [{ last with stop := stop }])
    else if before.length ≥ XGL_FRAGMENT_MAX_RECEIVED_RANGES then .error .noMemory
    else .ok (before ++ [{ start := start, stop := stop }])
  | none, next :: rest =>
    if next.start == stop then .ok ({ next with start := start } :: rest)
    else if after.length ≥ XGL_FRAGMENT_MAX_RECEIVED_RANGES then .error .noMemory
    else .ok ({ start := start, stop := stop } :: after)
  | none, [] => .ok [{ start := start, stop := stop }]

/-- `fragment_insert_received_range`. -/
def fragmentInsertReceivedRange (ranges : List ReceivedRange) (start stop : Nat) :
    Except XglError (List ReceivedRange) :=
  if start ≥ stop then .error .invalidParam
  -- any overlap is a duplicate, even one that brings new bytes
  else if ranges.any (fragmentRangeOverlaps start stop) then .error .busy
  else
    fragmentPlaceRange (ranges.takeWhile fun range => range.start < start)
      (ranges.dropWhile fun range => range.start < start) start stop

/-! ### Buffers -/

/-- `fragment_find_reassembly_buffer`. -/
def fragmentFindReassemblyBuffer (manager : FragmentManager) (key : MessageKey) :
    Option ReassemblyBuffer :=
  manager.reassemblyList.find? fun buffer => buffer.key == key

/-- Writing through the pointer a lookup returns. -/
def putBuffer (buffer : ReassemblyBuffer) : List ReassemblyBuffer → List ReassemblyBuffer
  | [] => []
  | first :: rest =>
    if first.key == buffer.key then buffer :: rest else first :: putBuffer buffer rest

/-- Taking the buffer of a lookup off the list. -/
def unlinkBuffer (key : MessageKey) (buffers : List ReassemblyBuffer) : List ReassemblyBuffer :=
  buffers.eraseP fun buffer => buffer.key == key

/-- The budget that `fragment_free_reassembly_buffer` and
`fragment_complete_reassembly` give back. -/
def fragmentRelease (buffer : ReassemblyBuffer) (currentReassemblyBytes : Nat) : Nat :=
  if buffer.reservedSize ≤ currentReassemblyBytes then currentReassemblyBytes - buffer.reservedSize
  else currentReassemblyBytes

/-- A buffer as `fragment_create_reassembly_buffer` sets it up; its bytes are not
initialised. -/
def freshBuffer (manager : FragmentManager) (key : MessageKey) (dataType : UInt8)
    (messageLen : UInt32) : ReassemblyBuffer where
  sourceId := key.sourceId
  dataType := dataType
  connectionId := key.connectionId
  sessionEpoch := key.sessionEpoch
  messageId := key.messageId
  data := List.replicate messageLen.toNat none
  bufferSize := messageLen.toNat
  reservedSize := messageLen.toNat
  timeoutMs := manager.reassemblyTimeoutMs

/-- `fragment_create_reassembly_buffer`. -/
def fragmentCreateReassemblyBuffer (env : TransportEnv) (io : TransportIo)
    (manager : FragmentManager) (key : MessageKey) (dataType : UInt8) (messageLen : UInt32) :
    Except XglError ReassemblyBuffer × FragmentManager × TransportIo :=
  -- every buffer is taken by a message
  if manager.reassemblyList.length ≥ manager.maxReassemblyBuffers then
    (.error .noMemory, manager, io)
  -- a limit of 0 is no limit
  else if manager.maxMessageSize != 0 && messageLen.toNat > manager.maxMessageSize then
    (.error .bufferTooSmall, manager, io)
  -- the budget of all buffers together
  else if manager.maxReassemblyBytes != 0 &&
      (manager.currentReassemblyBytes > manager.maxReassemblyBytes ||
        messageLen.toNat > manager.maxReassemblyBytes - manager.currentReassemblyBytes) then
    (.error .noMemory, manager, io)
  else
    let struct := transportMalloc env io structSize
    if !struct.1 then (.error .noMemory, manager, struct.2)
    else
      let bytes := transportMalloc env struct.2 messageLen.toNat
      -- a buffer without its bytes is freed again; the budget was not touched
      if !bytes.1 then (.error .noMemory, manager, bytes.2)
      else
        let buffer := freshBuffer manager key dataType messageLen
        (.ok buffer,
          { manager with
            currentReassemblyBytes := manager.currentReassemblyBytes + buffer.reservedSize
            reassemblyList := manager.reassemblyList ++ [buffer] },
          bytes.2)

/-- `memcpy(&data[start], payload, len)`. -/
def writeFragment (data : List (Option UInt8)) (start : Nat) (payload : Bytes) :
    List (Option UInt8) :=
  data.take start ++ payload.map some ++ data.drop (start + payload.length)

/-- What `xgl_fragment_process_ext` returns: the code, the completed message, and
whether the payload was copied into a buffer. -/
structure FragmentResult where
  error : XglError
  complete : Option Bytes := none
  stored : Bool := false
  deriving DecidableEq, Repr

/-- The part of `xgl_fragment_process_ext` that has the buffer. -/
def fragmentStore (env : TransportEnv) (io : TransportIo) (manager : FragmentManager)
    (buffer : ReassemblyBuffer) (dataType : UInt8) (fragmentOffset messageLen : UInt32)
    (payload : Bytes) (currentTimeMs : UInt32) :
    FragmentResult × FragmentManager × TransportIo :=
  -- the fragments of a message agree on its type and its length
  if buffer.dataType != dataType || buffer.bufferSize != messageLen.toNat then
    ({ error := .invalidFrame }, manager, io)
  else
    let start := fragmentOffset.toNat
    match fragmentInsertReceivedRange buffer.receivedRanges start (start + payload.length) with
    | .error err => ({ error := err }, manager, io)
    | .ok ranges =>
      -- the first fragment starts the timer
      let first := buffer.receivedBytes == 0
      let now :=
        if first && currentTimeMs == 0 then xglTimeMs env io
        else (if first then currentTimeMs else buffer.firstFragmentTime, io)
      let buffer :=
        { buffer with
          receivedRanges := ranges
          data := writeFragment buffer.data start payload
          receivedBytes := buffer.receivedBytes + payload.length
          firstFragmentTime := now.1 }
      -- complete when as many bytes have come as the message has
      if buffer.receivedBytes == buffer.bufferSize then
        ({ error := .ok
           complete := some (buffer.data.map fun byte => byte.getD 0)
           stored := true },
          { manager with
            reassemblyList := unlinkBuffer buffer.key manager.reassemblyList
            currentReassemblyBytes := fragmentRelease buffer manager.currentReassemblyBytes },
          now.2)
      else
        -- the buffer goes back to where it was in the list
        ({ error := .busy, stored := true },
          { manager with reassemblyList := putBuffer buffer manager.reassemblyList }, now.2)

/-- `xgl_fragment_process_ext`. -/
def xglFragmentProcessExt (env : TransportEnv) (io : TransportIo) (manager : FragmentManager)
    (key : MessageKey) (dataType : UInt8) (fragmentOffset messageLen : UInt32) (payload : Bytes)
    (currentTimeMs : UInt32) : FragmentResult × FragmentManager × TransportIo :=
  if payload.length == 0 then ({ error := .invalidParam }, manager, io)
  else if messageLen == 0 || fragmentOffset > messageLen ||
      payload.length > messageLen.toNat - fragmentOffset.toNat then
    ({ error := .invalidFrame }, manager, io)
  else
    match fragmentFindReassemblyBuffer manager key with
    | some buffer =>
      fragmentStore env io manager buffer dataType fragmentOffset messageLen payload currentTimeMs
    | none =>
      match fragmentCreateReassemblyBuffer env io manager key dataType messageLen with
      | (.error err, manager, io) => ({ error := err }, manager, io)
      | (.ok buffer, manager, io) =>
        fragmentStore env io manager buffer dataType fragmentOffset messageLen payload
          currentTimeMs

/-! ### Maintenance -/

/-- Whether `xgl_fragment_process_timeouts` drops the buffer. -/
def ReassemblyBuffer.timedOut (currentTimeMs : UInt32) (buffer : ReassemblyBuffer) : Bool :=
  buffer.firstFragmentTime != 0 && currentTimeMs - buffer.firstFragmentTime ≥ buffer.timeoutMs

/-- Freeing every buffer that passes the test. -/
def fragmentFreeWhere (test : ReassemblyBuffer → Bool) (manager : FragmentManager) :
    FragmentManager :=
  { manager with
    reassemblyList := manager.reassemblyList.filter fun buffer => !test buffer
    currentReassemblyBytes :=
      (manager.reassemblyList.filter test).foldl (fun bytes buffer => fragmentRelease buffer bytes)
        manager.currentReassemblyBytes }

/-- `xgl_fragment_process_timeouts`: the number of buffers dropped and the
manager. -/
def xglFragmentProcessTimeouts (manager : FragmentManager) (currentTimeMs : UInt32) :
    Nat × FragmentManager :=
  ((manager.reassemblyList.filter fun buffer => buffer.timedOut currentTimeMs).length,
    fragmentFreeWhere (fun buffer => buffer.timedOut currentTimeMs) manager)

/-- `xgl_fragment_clear_reassembly`. -/
def xglFragmentClearReassembly (manager : FragmentManager) : FragmentManager :=
  fragmentFreeWhere (fun _ => true) manager

/-- `xgl_fragment_clear_reassembly_scope`. -/
def xglFragmentClearReassemblyScope (manager : FragmentManager) (sourceId : UInt16)
    (connectionId sessionEpoch : UInt32) : FragmentManager :=
  fragmentFreeWhere
    (fun buffer => buffer.sourceId == sourceId && buffer.connectionId == connectionId &&
      buffer.sessionEpoch == sessionEpoch)
    manager

end XgenLink
