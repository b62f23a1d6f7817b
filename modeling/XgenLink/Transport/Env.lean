import XgenLink.Core.Types

/-!
# `XgenLink.Transport.Env`: what the transport reaches outside

The allocator, the clock and the layer below are given by a `TransportEnv`: each answers by the
number of the call, so that any pattern of failures and any clock is some environment.
`TransportIo` counts the calls and records what the transport does to the outside: packets handed
to the layer below, payloads and errors given to callbacks, and fragments that were stored. The
record is what the theorems are about; no function of the transport reads it.
-/

set_option autoImplicit false

namespace XgenLink

/-- The answers of the outside world: whether an allocation succeeds, what the
clock shows, and what the lower layer returns for a packet. -/
structure TransportEnv where
  allocOk : Nat → Bool
  clock : Nat → UInt32
  layerSend : Nat → Packet → XglError

/-- What the transport does to the outside. `origin` is the packet whose payload
the event is about; the callback itself does not see it. -/
inductive TransportEvent where
  | rxCallback (sourceId : UInt16) (dataType : UInt8) (data : Bytes) (origin : Packet)
  | fragmentStored (origin : Packet)
  | layerSend (packet : Packet) (error : XglError)
  | errorCallback (error : XglError) (message : String)
  deriving DecidableEq, Repr

/-- The calls made so far and the events, in order. -/
structure TransportIo where
  allocCount : Nat := 0
  clockCount : Nat := 0
  sendCount : Nat := 0
  events : List TransportEvent := []
  deriving DecidableEq, Repr

/-- Recording an event. -/
def TransportIo.emit (io : TransportIo) (event : TransportEvent) : TransportIo :=
  { io with events := io.events ++ [event] }

/-- The size of a structure allocation; only its being nonzero matters. -/
def structSize : Nat := 1

/-- `transport_malloc` through `xgl_alloc`, which refuses size zero without asking
the allocator. -/
def transportMalloc (env : TransportEnv) (io : TransportIo) (size : Nat) : Bool × TransportIo :=
  if size == 0 then (false, io)
  else (env.allocOk io.allocCount, { io with allocCount := io.allocCount + 1 })

/-- `xgl_time_ms`. -/
def xglTimeMs (env : TransportEnv) (io : TransportIo) : UInt32 × TransportIo :=
  (env.clock io.clockCount, { io with clockCount := io.clockCount + 1 })

/-- `xgl_layer_send` to the network layer. -/
def xglLayerSend (env : TransportEnv) (io : TransportIo) (packet : Packet) :
    XglError × TransportIo :=
  let err := env.layerSend io.sendCount packet
  (err, { io with sendCount := io.sendCount + 1 }.emit (.layerSend packet err))

/-! ### Events of the calls -/

/-- An event is recorded behind the others. -/
@[simp] theorem TransportIo.emit_events (io : TransportIo) (event : TransportEvent) :
    (io.emit event).events = io.events ++ [event] := rfl

/-- An allocation records nothing. -/
@[simp] theorem transportMalloc_events (env : TransportEnv) (io : TransportIo) (size : Nat) :
    (transportMalloc env io size).2.events = io.events := by
  unfold transportMalloc
  split <;> rfl

/-- Nor does a look at the clock. -/
@[simp] theorem xglTimeMs_events (env : TransportEnv) (io : TransportIo) :
    (xglTimeMs env io).2.events = io.events := rfl

/-- A packet for the layer below is recorded with its answer. -/
@[simp] theorem xglLayerSend_events (env : TransportEnv) (io : TransportIo) (packet : Packet) :
    (xglLayerSend env io packet).2.events
      = io.events ++ [.layerSend packet (xglLayerSend env io packet).1] := rfl

end XgenLink
