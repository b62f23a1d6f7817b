import XgenLink.System.Node

/-!
# `XgenLink.System.NodeMesh`: nodes over a network that promises nothing

Any number of nodes send, receive and run their timers. Every frame that a node hands to a PHY
stays on the wire for good, and any node may be given any frame of the wire at any time. So a
frame may get lost, arrive twice, late, out of order and at nodes it is not for, and every
topology is some run. What the network does not do is change a frame: a frame arrives as some
node sent it or handed it on.

A node is entered where the parser has a frame, `xgl_datalink_process_frame`, with
authentication and the replay window. Its allocator may fail at any call and its clock may show
anything.

* `meshProcess`: a node is given a frame.
* `NodeMesh.step`, `runNodeMesh`: the runs.
* `NodeMesh.attacked`, `runAttacked`: runs with an adversary, who may also put frames of its own
  on the wire.
-/

set_option autoImplicit false

namespace XgenLink

/-- The allocator and the clock of a node. -/
structure World where
  allocOk : Nat → Bool
  clock : Nat → UInt32

/-- The world the transport of a node works in. -/
def Node.envIn (world : World) (node : Node) : TransportEnv :=
  { node.env world.clock with allocOk := world.allocOk }

/-- The layers above the datalink of a node are given a frame. `allocOk` says whether the copy of
a forwarded frame can be allocated. -/
def meshUpper (world : World) (allocOk : Bool) (node : Node) (frame : Bytes) : Node × List Bytes :=
  match xglNetworkReceive node.network allocOk frame frame.length with
  | .done _ _ => (node, [])
  | .transmitted _ _ forward => (node, [forward])
  | .deliver packet =>
    node.advance (xglTransportReceive (node.envIn world) node.transport packet).2

/-- A node is given a frame. -/
def meshProcess (world : World) (allocOk : Bool) (node : Node) (frame : Bytes) :
    Node × List Bytes :=
  let processed := xglDatalinkProcessFrame node.datalink frame frame.length
  let node := { node with datalink := processed.2.1 }
  if processed.2.2.contains (.upperReceive frame frame.length) then
    meshUpper world allocOk node frame
  else (node, [])

/-- The nodes and the frames that were ever put on the wire. `asked` are the requests a node was
given. -/
structure NodeMesh (ι : Type) where
  node : ι → Node
  wire : List Bytes := []
  asked : ι → List TxData := fun _ => []

/-- What can happen. -/
inductive NodeMeshAction (ι : Type) where
  | send (i : ι) (txData : TxData)
  | receive (i : ι) (index : Nat) (allocOk : Bool)
  | run (i : ι) (currentTimeMs : UInt32)

/-- What can happen when the network may also make up frames. -/
inductive AttackedAction (ι : Type) where
  | act (action : NodeMeshAction ι)
  | inject (frame : Bytes)

section Steps

variable {ι : Type} [DecidableEq ι]

/-- A node moved on, and its frames are on the wire. -/
def NodeMesh.move (mesh : NodeMesh ι) (i : ι) (moved : Node × List Bytes) : NodeMesh ι :=
  { mesh with
    node := Function.update mesh.node i moved.1
    wire := mesh.wire ++ moved.2 }

/-- The node that moved. -/
theorem NodeMesh.move_node_self (mesh : NodeMesh ι) (i : ι) (moved : Node × List Bytes) :
    (mesh.move i moved).node i = moved.1 := by
  simp only [NodeMesh.move, Function.update_self]

/-- The other nodes did not. -/
theorem NodeMesh.move_node_of_ne (mesh : NodeMesh ι) {i j : ι} (h : j ≠ i)
    (moved : Node × List Bytes) : (mesh.move i moved).node j = mesh.node j := by
  simp only [NodeMesh.move, Function.update_of_ne h]

/-- One step. -/
def NodeMesh.step (world : ι → World) (mesh : NodeMesh ι) : NodeMeshAction ι → NodeMesh ι
  | .send i txData =>
    let node := mesh.node i
    let sent := xglTransportSend (node.envIn (world i)) node.transport txData
    { mesh.move i (node.advance sent.2) with
      asked := Function.update mesh.asked i (mesh.asked i ++ [txData]) }
  | .receive i index allocOk =>
    match mesh.wire[index]? with
    | none => mesh
    | some frame => mesh.move i (meshProcess (world i) allocOk (mesh.node i) frame)
  | .run i currentTimeMs =>
    let node := mesh.node i
    mesh.move i (node.advance (xglTransportRun (node.envIn (world i)) node.transport currentTimeMs))

/-- A run. -/
def runNodeMesh (world : ι → World) (actions : List (NodeMeshAction ι)) (mesh : NodeMesh ι) :
    NodeMesh ι :=
  actions.foldl (NodeMesh.step world) mesh

/-! ### An adversary -/

/-- One step. -/
def NodeMesh.attacked (world : ι → World) (mesh : NodeMesh ι) : AttackedAction ι → NodeMesh ι
  | .act action => mesh.step world action
  | .inject frame => { mesh with wire := mesh.wire ++ [frame] }

/-- A run. -/
def runAttacked (world : ι → World) (actions : List (AttackedAction ι)) (mesh : NodeMesh ι) :
    NodeMesh ι :=
  actions.foldl (NodeMesh.attacked world) mesh

end Steps

end XgenLink
