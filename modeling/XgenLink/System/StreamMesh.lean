import XgenLink.System.NodeMesh
import XgenLink.System.Poll

/-!
# `XgenLink.System.StreamMesh`: nodes that read bytes

The nodes of a `NodeMesh` are entered with whole frames. Here they are entered where the bytes
come in: a PHY gives a byte, the parser collects frames from the bytes, and when one is complete
the layers above see it in the cache of the parser.

A step is one byte. A call of `xgl_datalink_receive` is a check of the parser timeout and then
one step for each byte of the read (`streamReceive`), and nothing is said about where the bytes
come from.

* `streamFeed`: a node is given a byte.
* `StreamMesh.step`, `runStreamMesh`: the runs.
* `streamReceive_datalink`, `runStreamMesh_receive`: a call of `xgl_datalink_receive`.
* `framesGiven`: the frames that a node of a `NodeMesh` is given.
-/

set_option autoImplicit false

namespace XgenLink

/-! ### A node -/

/-- The layers above the datalink of a node are given a frame at the front of a buffer. -/
def streamUpper (world : World) (allocOk : Bool) (node : Node) (frameBuffer : Bytes)
    (frameLen : Nat) : Node × List Bytes :=
  match xglNetworkReceive node.network allocOk frameBuffer frameLen with
  | .done _ _ => (node, [])
  | .transmitted _ _ forward => (node, [forward])
  | .deliver packet =>
    node.advance (xglTransportReceive (node.envIn world) node.transport packet).2

/-- What the layers above do with an event of the datalink. -/
def streamEvent (world : World) (allocOk : Bool) (node : Node) : DatalinkEvent → Node × List Bytes
  | .upperReceive frameBuffer frameLen => streamUpper world allocOk node frameBuffer frameLen
  | _ => (node, [])

/-- A node is given a byte. -/
def streamFeed (world : World) (allocOk : Bool) (currentTimeMs : UInt32) (node : Node)
    (byte : UInt8) : Node × List Bytes :=
  let received := datalinkReceiveByte node.datalink byte currentTimeMs
  runSteps (streamEvent world allocOk) received.2 { node with datalink := received.1 }

/-- The check that `xgl_datalink_receive` begins with. -/
def streamCheck (currentTimeMs timeoutMs : UInt32) (node : Node) : Node :=
  if xglParserCheckTimeout node.datalink.parser currentTimeMs timeoutMs then
    { node with datalink := { node.datalink with parser := xglParserReset node.datalink.parser } }
  else node

/-- `xgl_datalink_receive` on a node, with the layers above it. -/
def streamReceive (world : World) (allocOk : Bool) (currentTimeMs timeoutMs : UInt32) (node : Node)
    (bytes : Bytes) : Node × List Bytes :=
  runSteps (streamFeed world allocOk currentTimeMs) bytes
    (streamCheck currentTimeMs timeoutMs node)

/-- The layers above leave the datalink of the node alone. -/
theorem streamUpper_datalink (world : World) (allocOk : Bool) (node : Node) (frameBuffer : Bytes)
    (frameLen : Nat) :
    (streamUpper world allocOk node frameBuffer frameLen).1.datalink = node.datalink := by
  unfold streamUpper
  split <;> rfl

/-- The layers above leave the datalink alone. -/
theorem runSteps_streamEvent_datalink (world : World) (allocOk : Bool)
    (events : List DatalinkEvent) (node : Node) :
    (runSteps (streamEvent world allocOk) events node).1.datalink = node.datalink := by
  induction events generalizing node with
  | nil => rfl
  | cons event rest ih =>
    rw [runSteps_cons]
    refine (ih _).trans ?_
    cases event with
    | upperReceive frameBuffer frameLen => exact streamUpper_datalink world allocOk node _ _
    | errorCallback error message => rfl
    | verify input error valid => rfl

/-- The datalink of a node that is given a byte. -/
theorem streamFeed_datalink (world : World) (allocOk : Bool) (now : UInt32) (node : Node)
    (byte : UInt8) :
    (streamFeed world allocOk now node byte).1.datalink
      = (datalinkReceiveByte node.datalink byte now).1 :=
  runSteps_streamEvent_datalink world allocOk _ _

/-- The datalink goes where `xgl_datalink_receive` takes it. -/
theorem streamReceive_datalink (world : World) (allocOk : Bool) (now timeoutMs : UInt32)
    (node : Node) (bytes : Bytes) :
    (streamReceive world allocOk now timeoutMs node bytes).1.datalink
      = (xglDatalinkReceive node.datalink (some (.ok bytes)) now timeoutMs).2.1 := by
  have hbytes : ∀ node : Node, (runSteps (streamFeed world allocOk now) bytes node).1.datalink
      = (datalinkReceiveBytes now bytes node.datalink).1 := by
    intro node
    induction bytes generalizing node with
    | nil => rfl
    | cons byte rest ih =>
      rw [runSteps_cons]
      refine (ih _).trans ?_
      rw [streamFeed_datalink]
      rfl
  unfold streamReceive
  rw [hbytes]
  unfold streamCheck xglDatalinkReceive
  dsimp only
  split <;> rfl

/-! ### The network -/

/-- The nodes, the frames ever put on the wire, and the bytes that a node was given. -/
structure StreamMesh (ι : Type) extends NodeMesh ι where
  heard : ι → Bytes := fun _ => []

/-- What can happen. -/
inductive StreamAction (ι : Type) where
  | send (i : ι) (txData : TxData)
  | run (i : ι) (currentTimeMs : UInt32)
  | check (i : ι) (currentTimeMs timeoutMs : UInt32)
  | feed (i : ι) (byte : UInt8) (allocOk : Bool) (currentTimeMs : UInt32)

section Steps

variable {ι : Type} [DecidableEq ι]

/-- A node is given a byte, and the frames it sends are on the wire. -/
def StreamMesh.feed (world : ι → World) (mesh : StreamMesh ι) (i : ι) (byte : UInt8)
    (allocOk : Bool) (currentTimeMs : UInt32) : StreamMesh ι where
  toNodeMesh := mesh.toNodeMesh.move i
    (streamFeed (world i) allocOk currentTimeMs (mesh.node i) byte)
  heard := Function.update mesh.heard i (mesh.heard i ++ [byte])

/-- One step. -/
def StreamMesh.step (world : ι → World) (mesh : StreamMesh ι) : StreamAction ι → StreamMesh ι
  | .send i txData => { mesh with toNodeMesh := mesh.toNodeMesh.step world (.send i txData) }
  | .run i currentTimeMs =>
    { mesh with toNodeMesh := mesh.toNodeMesh.step world (.run i currentTimeMs) }
  | .check i currentTimeMs timeoutMs =>
    { mesh with
      toNodeMesh := mesh.toNodeMesh.move i
        (streamCheck currentTimeMs timeoutMs (mesh.node i), []) }
  | .feed i byte allocOk currentTimeMs => mesh.feed world i byte allocOk currentTimeMs

/-- A run. -/
def runStreamMesh (world : ι → World) (actions : List (StreamAction ι)) (mesh : StreamMesh ι) :
    StreamMesh ι :=
  actions.foldl (StreamMesh.step world) mesh

/-- The steps of a call of `xgl_datalink_receive`. -/
def receiveActions (i : ι) (allocOk : Bool) (currentTimeMs timeoutMs : UInt32) (bytes : Bytes) :
    List (StreamAction ι) :=
  .check i currentTimeMs timeoutMs ::
    bytes.map fun byte => .feed i byte allocOk currentTimeMs

/-- They come to that call. -/
theorem runStreamMesh_receive (world : ι → World) (i : ι) (allocOk : Bool) (now timeoutMs : UInt32)
    (bytes : Bytes) (mesh : StreamMesh ι) :
    runStreamMesh world (receiveActions i allocOk now timeoutMs bytes) mesh
      = { toNodeMesh := mesh.toNodeMesh.move i
            (streamReceive (world i) allocOk now timeoutMs (mesh.node i) bytes)
          heard := Function.update mesh.heard i (mesh.heard i ++ bytes) } := by
  have hfeeds : ∀ (mesh : StreamMesh ι), runStreamMesh world
      (bytes.map fun byte => StreamAction.feed i byte allocOk now) mesh
      = { toNodeMesh := mesh.toNodeMesh.move i
            (runSteps (streamFeed (world i) allocOk now) bytes (mesh.node i))
          heard := Function.update mesh.heard i (mesh.heard i ++ bytes) } := by
    induction bytes with
    | nil =>
      intro mesh
      simp only [List.map_nil, runStreamMesh, List.foldl_nil, runSteps_nil, NodeMesh.move,
        List.append_nil, Function.update_eq_self]
    | cons byte rest ih =>
      intro mesh
      rw [List.map_cons, runStreamMesh, List.foldl_cons]
      refine (ih _).trans ?_
      simp only [StreamMesh.step, StreamMesh.feed, NodeMesh.move, Function.update_self,
        Function.update_idem, runSteps_cons, List.append_assoc, List.cons_append, List.nil_append]
  rw [receiveActions, runStreamMesh, List.foldl_cons]
  refine (hfeeds _).trans ?_
  simp only [StreamMesh.step, NodeMesh.move, Function.update_self, Function.update_idem,
    List.append_nil, streamReceive]

/-! ### The frames of a run over frames -/

/-- The frame that a node is given in a step. -/
def NodeMesh.given (mesh : NodeMesh ι) (i : ι) : NodeMeshAction ι → List Bytes
  | .receive j index _ => if j = i then (mesh.wire[index]?).toList else []
  | _ => []

/-- The frames that a node is given in a run, in order. -/
def framesGiven (world : ι → World) (i : ι) (actions : List (NodeMeshAction ι))
    (mesh : NodeMesh ι) : List Bytes :=
  (runSteps (fun mesh action => (mesh.step world action, mesh.given i action)) actions mesh).2

/-- A run with one more step at its end. -/
theorem runNodeMesh_concat (world : ι → World) (actions : List (NodeMeshAction ι))
    (action : NodeMeshAction ι) (mesh : NodeMesh ι) :
    runNodeMesh world (actions ++ [action]) mesh
      = (runNodeMesh world actions mesh).step world action := by
  rw [runNodeMesh, List.foldl_append]
  rfl

/-- One more step. -/
theorem framesGiven_concat (world : ι → World) (i : ι) (actions : List (NodeMeshAction ι))
    (action : NodeMeshAction ι) (mesh : NodeMesh ι) :
    framesGiven world i (actions ++ [action]) mesh
      = framesGiven world i actions mesh ++ (runNodeMesh world actions mesh).given i action := by
  have hstate : ∀ mesh : NodeMesh ι, (runSteps (fun mesh action =>
      (mesh.step world action, mesh.given i action)) actions mesh).1
        = runNodeMesh world actions mesh := by
    intro mesh
    induction actions generalizing mesh with
    | nil => rfl
    | cons first rest ih => exact ih _
  rw [framesGiven, runSteps_append, runSteps_cons, runSteps_nil, hstate, List.append_nil]
  rfl

end Steps

end XgenLink
