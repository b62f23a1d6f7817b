import XgenLink.Network.Send
import XgenLink.Transport.Receive
import XgenLink.Transport.Runtime

/-!
# `XgenLink.System.Node`: a node and two nodes joined by a link

A node is its three layers. What the transport hands down goes through
`xgl_network_send_with_handle` and `xgl_datalink_send`; the bytes these give to the PHY are the
frames of the node. Two nodes are joined by a lossless FIFO link in each direction, over an
allocator and PHYs that do not fail.

A run is a list of actions: a node sends, a node is given the next frame of its link, or the timers
of a node run. The actions of the two nodes may come in any order. Beside the state a run records
what was asked for and what became of the frames, which no node can see.

* `nodeSend`, `nodeReceive`, `nodeProcess`, `nodePoll`, `nodeRun`: the entry points of a node.
* `systemStep`, `runSystem`: the runs of two nodes.
-/

set_option autoImplicit false

namespace XgenLink

/-! ### Nodes -/

/-- The layers of a node. -/
structure Node where
  transport : TransportCtx
  network : NetworkCtx
  datalink : DatalinkCtx

/-- What the layers below do with a packet of the transport. -/
def Node.lowerSend (node : Node) (packet : Packet) : TxResult :=
  xglNetworkSendWithHandle node.network node.datalink true packet

/-- The world the transport of a node works in. -/
def Node.env (clock : Nat → UInt32) (node : Node) : TransportEnv where
  allocOk := fun _ => true
  clock := clock
  layerSend := fun _ packet => (node.lowerSend packet).error

/-- The frames the events of a transport put on the wire. -/
def Node.frames (node : Node) (events : List TransportEvent) : List Bytes :=
  events.filterMap fun event =>
    match event with
    | .layerSend packet _ => (node.lowerSend packet).transmitted
    | _ => none

/-- The node with a new transport state, and the frames sent on the way there. -/
def Node.advance (node : Node) (transport : TransportCtx) : Node × List Bytes :=
  ({ node with transport := transport },
    node.frames (transport.io.events.drop node.transport.io.events.length))

/-- `xgl_transport_send` on a node. -/
def nodeSend (clock : Nat → UInt32) (node : Node) (txData : TxData) :
    XglError × Node × List Bytes :=
  let sent := xglTransportSend (node.env clock) node.transport txData
  (sent.1, node.advance sent.2)

/-- `xgl_network_receive` on a node, with the transport above it. -/
def nodeReceive (clock : Nat → UInt32) (node : Node) (frame : Bytes) :
    XglError × Node × List Bytes :=
  match xglNetworkReceive node.network true frame frame.length with
  | .done error _ => (error, node, [])
  -- a forwarded frame goes out as it was rewritten
  | .transmitted error _ forward => (error, node, [forward])
  | .deliver packet =>
    let received := xglTransportReceive (node.env clock) node.transport packet
    (received.1, node.advance received.2)

/-- `xgl_datalink_process_frame` on a node, with the layers above it. -/
def nodeProcess (clock : Nat → UInt32) (node : Node) (frame : Bytes) :
    XglError × Node × List Bytes :=
  let processed := xglDatalinkProcessFrame node.datalink frame frame.length
  let node := { node with datalink := processed.2.1 }
  -- what the datalink passes up is the frame it was given
  if processed.2.2.contains (.upperReceive frame frame.length) then
    (processed.1, (nodeReceive clock node frame).2)
  else (processed.1, node, [])

/-- What the layers above the datalink do with one of its events. -/
def nodeUpper (clock : Nat → UInt32) (node : Node) : DatalinkEvent → Node
  | .upperReceive frameBuffer frameLen =>
    match xglNetworkReceive node.network true frameBuffer frameLen with
    | .deliver packet =>
      { node with transport := (xglTransportReceive (node.env clock) node.transport packet).2 }
    | _ => node
  | _ => node

/-- `xgl_datalink_receive` on a node, with the layers above it. These use nothing of the
datalink that reception changes, so it does not matter that they run behind it here. -/
def nodePoll (clock : Nat → UInt32) (node : Node) (poll : DatalinkPoll) : Node :=
  let received := xglDatalinkReceive node.datalink poll.phyRx poll.currentTimeMs poll.timeoutMs
  received.2.2.foldl (nodeUpper clock) { node with datalink := received.2.1 }

/-- `xgl_transport_run` on a node. -/
def nodeRun (clock : Nat → UInt32) (node : Node) (currentTimeMs : UInt32) : Node × List Bytes :=
  node.advance (xglTransportRun (node.env clock) node.transport currentTimeMs)

/-! ### Two nodes -/

/-- One of the two nodes. -/
inductive Side where
  | a
  | b
  deriving DecidableEq, Repr

/-- The other node. -/
def Side.other : Side → Side
  | .a => .b
  | .b => .a

/-- The other node is another one. -/
@[simp] theorem Side.other_ne (side : Side) : side.other ≠ side := by
  cases side <;> decide

/-- Two nodes and what is between them: `link` are the frames on their way to a
node. `sent` are the payloads a node's sends returned `XGL_OK` for, and
`processed` the frames a node was given with the code it returned. -/
structure System where
  node : Side → Node
  link : Side → List Bytes := fun _ => []
  sent : Side → List Bytes := fun _ => []
  processed : Side → List (Bytes × XglError) := fun _ => []

/-- What can happen to two nodes. -/
inductive SystemAction where
  | send (side : Side) (txData : TxData)
  | deliver (side : Side)
  | run (side : Side) (currentTimeMs : UInt32)

/-- The value of one node replaced. -/
def setSide {α : Type} (values : Side → α) (side : Side) (value : α) : Side → α :=
  fun s => if s = side then value else values s

/-- The value that was set. -/
@[simp] theorem setSide_self {α : Type} (values : Side → α) (side : Side) (value : α) :
    setSide values side value side = value :=
  if_pos rfl

/-- The value of a node that was not set. -/
theorem setSide_ne {α : Type} (values : Side → α) {side s : Side} (h : s ≠ side) (value : α) :
    setSide values side value s = values s :=
  if_neg h

/-- The value of the other node stays. -/
@[simp] theorem setSide_other {α : Type} (values : Side → α) (side : Side) (value : α) :
    setSide values side value side.other = values side.other :=
  if_neg side.other_ne

/-- A node moved on, and its frames put on the link to the other node. -/
def System.move (sys : System) (side : Side) (moved : Node × List Bytes) : System :=
  { sys with
    node := setSide sys.node side moved.1
    link := setSide sys.link side.other (sys.link side.other ++ moved.2) }

/-- One action of two nodes; `receive` is the entry point frames are given to. -/
def systemStep (clock : Side → Nat → UInt32)
    (receive : (Nat → UInt32) → Node → Bytes → XglError × Node × List Bytes) (sys : System) :
    SystemAction → System
  | .send side txData =>
    let sent := nodeSend (clock side) (sys.node side) txData
    let sys := sys.move side sent.2
    { sys with
      sent :=
        -- only a send that succeeded counts
        if sent.1 == .ok then setSide sys.sent side (sys.sent side ++ [txData.data.getD []])
        else sys.sent }
  | .deliver side =>
    match sys.link side with
    -- with an empty link nothing happens
    | [] => sys
    | frame :: rest =>
      let received := receive (clock side) (sys.node side) frame
      { sys with
        link := setSide sys.link side rest
        processed := setSide sys.processed side (sys.processed side ++ [(frame, received.1)]) }.move
          side received.2
  | .run side currentTimeMs => sys.move side (nodeRun (clock side) (sys.node side) currentTimeMs)

/-- A run of two nodes. -/
def runSystem (clock : Side → Nat → UInt32)
    (receive : (Nat → UInt32) → Node → Bytes → XglError × Node × List Bytes)
    (actions : List SystemAction) (sys : System) : System :=
  actions.foldl (systemStep clock receive) sys

/-- The payloads handed to the receive callback, in order. -/
def rxPayloads (events : List TransportEvent) : List Bytes :=
  events.filterMap fun event =>
    match event with
    | .rxCallback _ _ data _ => some data
    | _ => none

/-- The payloads a node's receive callback was handed. -/
def System.received (sys : System) (side : Side) : List Bytes :=
  rxPayloads (sys.node side).transport.io.events

end XgenLink
