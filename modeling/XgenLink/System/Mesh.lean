import XgenLink.Network.Receive

/-!
# `XgenLink.System.Mesh`: frames travelling over any topology

Nodes with arbitrary route tables receive frames one at a time, in any order. A frame that a node
hands to a PHY reaches one node or none; which one is up to the run, so every topology and every
loss is some run.

Every copy of a frame carries the number of the frame that was put in, which the nodes cannot see.
So it can be counted how often one injected frame is forwarded in all, over every copy and every
path.
-/

set_option autoImplicit false

namespace XgenLink

/-- A copy of an injected frame on its way to a node. -/
structure Transit (ι : Type) where
  packet : Nat
  node : ι
  frame : Bytes

/-- A frame that was received and handed to a PHY. -/
structure Forward where
  packet : Nat
  received : Bytes
  sent : Bytes

/-- The frames put into the network, those on their way, and what was forwarded. -/
structure Mesh (ι : Type) where
  injected : List Bytes := []
  inFlight : List (Transit ι) := []
  forwards : List Forward := []

/-- What can happen: a new frame on its way to a node, or a node receiving one of
the frames on their way. -/
inductive MeshAction (ι : Type) where
  | inject (node : ι) (frame : Bytes)
  | receive (index : Nat) (allocOk : Bool) (reaches : Option ι)

section Runs

variable {ι : Type}

/-- The mesh behind the reception of a frame that was taken off the wire. -/
def meshReceive (nodes : ι → NetworkCtx) (mesh : Mesh ι) (transit : Transit ι) (allocOk : Bool)
    (reaches : Option ι) : Mesh ι :=
  match xglNetworkReceive (nodes transit.node) allocOk transit.frame transit.frame.length with
  | .transmitted _ _ sent =>
    { mesh with
      inFlight := mesh.inFlight ++ reaches.toList.map fun node =>
        { packet := transit.packet, node := node, frame := sent }
      forwards := mesh.forwards ++
        [{ packet := transit.packet, received := transit.frame, sent := sent }] }
  | _ => mesh

/-- One step of the mesh. -/
def meshStep (nodes : ι → NetworkCtx) (mesh : Mesh ι) : MeshAction ι → Mesh ι
  | .inject node frame =>
    { mesh with
      injected := mesh.injected ++ [frame]
      inFlight := mesh.inFlight ++
        [{ packet := mesh.injected.length, node := node, frame := frame }] }
  | .receive index allocOk reaches =>
    match mesh.inFlight[index]? with
    | none => mesh
    | some transit =>
      meshReceive nodes { mesh with inFlight := mesh.inFlight.eraseIdx index } transit allocOk
        reaches

/-- A run from the empty mesh. -/
def runMesh (nodes : ι → NetworkCtx) (actions : List (MeshAction ι)) : Mesh ι :=
  actions.foldl (meshStep nodes) {}

/-- What was forwarded of an injected frame. -/
def Mesh.forwardsOf (mesh : Mesh ι) (packet : Nat) : List Forward :=
  mesh.forwards.filter fun forward => forward.packet == packet

end Runs

/-- The hop limit of a frame. -/
def frameTtl (frame : Bytes) : UInt8 :=
  (wireHeaderOfBytes frame).ttl

end XgenLink
