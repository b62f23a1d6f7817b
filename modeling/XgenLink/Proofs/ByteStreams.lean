import XgenLink.Proofs.FrameBuffer
import XgenLink.Proofs.Interfaces
import XgenLink.Proofs.SentFrames
import XgenLink.System.StreamMesh

/-!
# `XgenLink.Proofs.ByteStreams`: reading bytes is being given frames

The results about networks (`EndToEnd`, `InOrderEndToEnd`, `AuthenticMesh`) are about nodes that
are given whole frames. A real node reads bytes: a few at a time, with pauses, with noise between
the frames. This module shows that the difference does not matter.

Each byte either only moves the parser of its node, or completes a frame, and then the node goes
where the frame would take it. Two things stand in the way of that. The parser hands up its cache
and not the frame, so the layers above may look at the front of a buffer only (`SameBuffer`). And
what a parser reports depends on all the bytes it has held since it last started anew (`Tracks`,
`heldStep`), so a node is followed together with these bytes.

* `streamFeed_quiet`, `streamFeed_complete`: a byte.
* `Streams`: the nodes that read bytes and those that are given frames, equal up to their parsers.
  One lemma for each kind of step.
* `Streams.attacked`, `stream_authentic`: lines that carry any bytes, with authentication. A frame
  the parser puts together is one the adversary might have put on the wire.
* `Heard`, `CarriesFrames`: lines that carry frames of the wire, with noise between them.
* `ReadsFrames.feed`, `stream_refines`: such lines in pieces of any size, and the run over frames
  that goes where they go.
-/

set_option autoImplicit false

namespace XgenLink

/-! ### Nodes up to their parser -/

/-- The node with another parser. -/
def Node.withParser (node : Node) (parser : Parser) : Node :=
  { node with datalink := { node.datalink with parser := parser } }

/-- Only the last parser counts. -/
@[simp] theorem Node.withParser_withParser (node : Node) (first second : Parser) :
    (node.withParser first).withParser second = node.withParser second := rfl

/-- Processing a frame does not look at the parser. -/
theorem xglDatalinkProcessFrame_withParser (ctx : DatalinkCtx) (parser : Parser) (frame : Bytes)
    (n : Nat) :
    xglDatalinkProcessFrame { ctx with parser := parser } frame n
      = ((xglDatalinkProcessFrame ctx frame n).1,
          { (xglDatalinkProcessFrame ctx frame n).2.1 with parser := parser },
          (xglDatalinkProcessFrame ctx frame n).2.2) := by
  unfold xglDatalinkProcessFrame
  dsimp only
  split
  · split
    · split
      · split
        · rfl
        · unfold datalinkVerifyFrame
          dsimp only
          split
          · rfl
          · split <;> rfl
      · rfl
    · rfl
  · rfl

section Node

variable (world : World) (allocOk : Bool) (node : Node) (parser : Parser)

/-- What the network layer and the transport do does not depend on the parser. -/
theorem meshUpper_withParser (frame : Bytes) :
    meshUpper world allocOk (node.withParser parser) frame
      = ((meshUpper world allocOk node frame).1.withParser parser,
          (meshUpper world allocOk node frame).2) := by
  simp only [meshUpper, Node.withParser]
  split <;> rfl

/-- Neither do the layers above. -/
theorem meshProcess_withParser (frame : Bytes) :
    meshProcess world allocOk (node.withParser parser) frame
      = ((meshProcess world allocOk node frame).1.withParser parser,
          (meshProcess world allocOk node frame).2) := by
  have hprocess := xglDatalinkProcessFrame_withParser node.datalink parser frame frame.length
  simp only [meshProcess, Node.withParser, hprocess]
  split
  · exact meshUpper_withParser world allocOk
      { node with datalink := (xglDatalinkProcessFrame node.datalink frame frame.length).2.1 }
      parser frame
  · rfl

/-! ### A byte -/

/-- A frame at the front of a buffer is a frame. -/
theorem streamUpper_eq {buffer frame : Bytes} (h : SameBuffer buffer frame frame.length) :
    streamUpper world allocOk node buffer frame.length = meshUpper world allocOk node frame := by
  have hreceive := h.networkReceive node.network allocOk
  unfold streamUpper meshUpper
  generalize xglNetworkReceive node.network allocOk buffer frame.length = received
    at hreceive ⊢
  subst hreceive
  rfl

/-- The layers above ignore what the datalink does besides. -/
theorem runSteps_streamEvent_quiet (events : List DatalinkEvent)
    (hquiet : ∀ buffer len, DatalinkEvent.upperReceive buffer len ∉ events) :
    runSteps (streamEvent world allocOk) events node = (node, []) := by
  induction events with
  | nil => rfl
  | cons event rest ih =>
    have hrest := ih fun buffer len hmem => hquiet buffer len (List.mem_cons_of_mem _ hmem)
    rw [runSteps_cons]
    cases event with
    | upperReceive frameBuffer frameLen => exact absurd List.mem_cons_self (hquiet _ _)
    | errorCallback error message => simp only [streamEvent, hrest, List.append_nil]
    | verify input error valid => simp only [streamEvent, hrest, List.append_nil]

end Node

section Feed

variable {size : Nat} {node : Node} {held : Bytes}

/-- The cache of a parser that reports a frame. -/
theorem Tracks.sameBuffer {parser : Parser} (h : Tracks size parser held) {byte : UInt8}
    {now : UInt32} (hcomplete : (heldStep size held byte).1 = .complete) :
    SameBuffer (xglParserFeedByte parser byte now).2.cache (held ++ [byte])
      (held ++ [byte]).length := by
  have hreports := (h.feed byte now).reports hcomplete
  rw [(h.complete hcomplete).1] at hreports
  obtain ⟨header, exts, hwell⟩ := h.wellFormed hcomplete
  refine ⟨hreports.bytes, fun other hother => ?_⟩
  rw [hwell.decode] at hother
  cases hother
  have hlengths := hwell.lengths
  omega

/-- A byte that completes nothing only moves the parser. -/
theorem streamFeed_quiet (h : Tracks size node.datalink.parser held) (world : World)
    (allocOk : Bool) (now : UInt32) {byte : UInt8}
    (hquiet : (heldStep size held byte).1 ≠ .complete) :
    streamFeed world allocOk now node byte
      = (node.withParser (parserStep node.datalink.parser (.feed byte now)), []) := by
  have hresult := (h.feed byte now).result
  unfold streamFeed datalinkReceiveByte parserStep
  dsimp only
  generalize xglParserFeedByte node.datalink.parser byte now = fed at hresult ⊢
  obtain ⟨result, fed⟩ := fed
  cases result with
  | complete => exact absurd hresult.symm hquiet
  | incomplete => rfl
  | error => rfl

/-- A byte that completes a frame. The datalink does what it does with the frame, and hands up its
cache in place of it. -/
theorem datalinkReceiveByte_complete {ctx : DatalinkCtx} (h : Tracks size ctx.parser held)
    {byte : UInt8} (now : UInt32) (hcomplete : (heldStep size held byte).1 = .complete) :
    ∃ buffer calls, ∃ up : Bool, SameBuffer buffer (held ++ [byte]) (held ++ [byte]).length ∧
      (∀ buffer len, DatalinkEvent.upperReceive buffer len ∉ calls) ∧
      (xglDatalinkProcessFrame ctx (held ++ [byte]) (held ++ [byte]).length).2.2
        = calls ++ (if up then
            datalinkPassUp ctx (held ++ [byte]) (held ++ [byte]).length else []) ∧
      datalinkReceiveByte ctx byte now
        = ({ (xglDatalinkProcessFrame ctx (held ++ [byte]) (held ++ [byte]).length).2.1 with
              parser := parserStep ctx.parser (.feed byte now) },
            calls ++ if up then datalinkPassUp ctx buffer (held ++ [byte]).length else []) := by
  have hagrees := h.feed byte now
  have hsame := @Tracks.sameBuffer _ _ _ h byte now hcomplete
  have hreports := hagrees.reports hcomplete
  have hresult : (xglParserFeedByte ctx.parser byte now).1 = .complete :=
    hagrees.result.trans hcomplete
  rw [(h.complete hcomplete).1] at hreports
  obtain ⟨hget, -⟩ := hreports.get_frame (by simp)
  unfold datalinkReceiveByte parserStep
  dsimp only
  generalize held ++ [byte] = frame at hsame hreports hget ⊢
  generalize xglParserFeedByte ctx.parser byte now = fed at hsame hget hresult ⊢
  obtain ⟨result, fed⟩ := fed
  subst hresult
  obtain ⟨err, next, calls, up, hquiet, hbuffer, hframe⟩ :=
    hsame.processFrame { ctx with parser := fed }
  rw [xglDatalinkProcessFrame_withParser] at hframe
  obtain ⟨-, hframe⟩ := Prod.mk.inj hframe
  obtain ⟨hnext, hevents⟩ := Prod.mk.inj hframe
  refine ⟨fed.cache, calls, up, hsame, hquiet, hevents, ?_⟩
  simp only [hget, hbuffer, ← hnext]
  rfl

/-- A byte that completes a frame: the node is given the frame. -/
theorem streamFeed_complete (h : Tracks size node.datalink.parser held) (world : World)
    (allocOk : Bool) (now : UInt32) {byte : UInt8}
    (hcomplete : (heldStep size held byte).1 = .complete) :
    streamFeed world allocOk now node byte
      = ((meshProcess world allocOk node (held ++ [byte])).1.withParser
            (parserStep node.datalink.parser (.feed byte now)),
          (meshProcess world allocOk node (held ++ [byte])).2) := by
  obtain ⟨buffer, calls, up, hsame, hquiet, hevents, hreceived⟩ :=
    datalinkReceiveByte_complete h now hcomplete
  -- the frame and the cache it lies in are the same for all that follows
  generalize held ++ [byte] = frame at hsame hevents hreceived ⊢
  have hnode : ({ node with datalink :=
        { (xglDatalinkProcessFrame node.datalink frame frame.length).2.1 with
          parser := parserStep node.datalink.parser (.feed byte now) } } : Node)
      = ({ node with datalink := (xglDatalinkProcessFrame node.datalink frame frame.length).2.1 } :
          Node).withParser (parserStep node.datalink.parser (.feed byte now)) := rfl
  simp only [streamFeed, hreceived, meshProcess, hnode, runSteps_append,
    runSteps_streamEvent_quiet _ _ _ calls hquiet, List.nil_append, hevents]
  by_cases hup : up = true ∧ node.datalink.upperLayer = true
  · -- the frame is handed up, in the cache and by itself
    simp only [datalinkPassUp, hup.1, hup.2, if_true]
    rw [if_pos (by simp), runSteps_cons, runSteps_nil]
    simp only [streamEvent, List.append_nil, streamUpper_eq world allocOk _ hsame,
      meshUpper_withParser]
  -- the frame is not handed up, or there is nobody to hand it to
  · have hnone : ∀ buffer,
        (if up = true then datalinkPassUp node.datalink buffer frame.length else []) = [] := by
      intro buffer
      rw [not_and] at hup
      split
      · rename_i hset
        simp only [datalinkPassUp]
        rw [if_neg (hup hset)]
      · rfl
    rw [hnone, hnone, List.append_nil, runSteps_nil, if_neg]
    rw [List.contains_iff_mem]
    exact hquiet _ _

end Feed

/-! ### The network -/

section Network

variable {ι : Type} [DecidableEq ι] {config : ι → TransportConfig} {world : ι → World}
  {stream : StreamMesh ι} {mesh : NodeMesh ι}

/-- The nodes that read bytes are those that are given frames, up to their parsers. -/
structure Streams (stream : StreamMesh ι) (mesh : NodeMesh ι) : Prop where
  node : ∀ i, ∃ parser, stream.node i = (mesh.node i).withParser parser
  asked : stream.asked = mesh.asked

/-- A node moves on in both. -/
theorem Streams.move (h : Streams stream mesh) (i : ι) (node : Node) (parser : Parser)
    (sent sent' : List Bytes) (heard : ι → Bytes) :
    Streams { toNodeMesh := stream.toNodeMesh.move i (node.withParser parser, sent)
              heard := heard }
      (mesh.move i (node, sent')) := by
  refine ⟨fun j => ?_, h.asked⟩
  by_cases hj : j = i
  · subst hj
    refine ⟨parser, ?_⟩
    simp only [NodeMesh.move_node_self]
  · obtain ⟨other, hother⟩ := h.node j
    refine ⟨other, ?_⟩
    simp only [NodeMesh.move_node_of_ne _ hj, hother]

/-- Only the parser of a node moves on. -/
theorem Streams.moveParser (h : Streams stream mesh) (i : ι) (parser : Parser)
    (heard : ι → Bytes) :
    Streams { toNodeMesh := stream.toNodeMesh.move i ((stream.node i).withParser parser, [])
              heard := heard } mesh := by
  obtain ⟨first, hfirst⟩ := h.node i
  have hmove := h.move i (mesh.node i) parser [] [] heard
  rw [hfirst, Node.withParser_withParser]
  refine ⟨fun j => ?_, h.asked⟩
  obtain ⟨other, hother⟩ := hmove.node j
  refine ⟨other, hother.trans ?_⟩
  by_cases hj : j = i
  · subst hj
    rw [NodeMesh.move_node_self]
  · rw [NodeMesh.move_node_of_ne _ hj]

/-- A transport moves on in both, and sends the same. -/
theorem Streams.advance (h : Streams stream mesh) (i : ι) (transport : TransportCtx)
    (heard : ι → Bytes) :
    Streams { toNodeMesh := stream.toNodeMesh.move i ((stream.node i).advance transport)
              heard := heard } (mesh.move i ((mesh.node i).advance transport)) ∧
      ((stream.node i).advance transport).2 = ((mesh.node i).advance transport).2 := by
  obtain ⟨parser, hparser⟩ := h.node i
  rw [hparser]
  exact ⟨h.move i ((mesh.node i).advance transport).1 parser _ _ heard, rfl⟩

omit [DecidableEq ι] in
/-- The transport of a node does not see the parser. -/
theorem Streams.transport (h : Streams stream mesh) (world : World) (i : ι) :
    (stream.node i).transport = (mesh.node i).transport ∧
      (stream.node i).envIn world = (mesh.node i).envIn world := by
  obtain ⟨parser, hparser⟩ := h.node i
  rw [hparser]
  exact ⟨rfl, rfl⟩

/-- A send is the same send in both. -/
theorem Streams.send (h : Streams stream mesh) (i : ι) (txData : TxData) :
    Streams (stream.step world (.send i txData)) (mesh.step world (.send i txData)) ∧
      (stream.wire = mesh.wire →
        (stream.step world (.send i txData)).wire = (mesh.step world (.send i txData)).wire) := by
  obtain ⟨htransport, henv⟩ := h.transport (world i) i
  obtain ⟨hmove, hsent⟩ := h.advance i
    (xglTransportSend ((mesh.node i).envIn (world i)) (mesh.node i).transport txData).2 stream.heard
  simp only [StreamMesh.step, NodeMesh.step, htransport, henv]
  refine ⟨⟨hmove.node, ?_⟩, fun hwire => ?_⟩
  · rw [h.asked]
  · simp only [NodeMesh.move, hwire, hsent]

/-- So are the timers. -/
theorem Streams.run (h : Streams stream mesh) (i : ι) (now : UInt32) :
    Streams (stream.step world (.run i now)) (mesh.step world (.run i now)) ∧
      (stream.wire = mesh.wire →
        (stream.step world (.run i now)).wire = (mesh.step world (.run i now)).wire) := by
  obtain ⟨htransport, henv⟩ := h.transport (world i) i
  obtain ⟨hmove, hsent⟩ := h.advance i
    (xglTransportRun ((mesh.node i).envIn (world i)) (mesh.node i).transport now) stream.heard
  simp only [StreamMesh.step, NodeMesh.step, htransport, henv]
  refine ⟨hmove, fun hwire => ?_⟩
  simp only [NodeMesh.move, hwire, hsent]

/-- Before a read, the parser may start anew. -/
theorem Streams.check (h : Streams stream mesh) (i : ι) (now timeoutMs : UInt32) :
    Streams (stream.step world (.check i now timeoutMs)) mesh := by
  have hcheck : ∃ parser,
      streamCheck now timeoutMs (stream.node i) = (stream.node i).withParser parser := by
    rw [streamCheck]
    split
    · exact ⟨_, rfl⟩
    · exact ⟨(stream.node i).datalink.parser, rfl⟩
  obtain ⟨parser, hparser⟩ := hcheck
  simp only [StreamMesh.step, hparser]
  exact h.moveParser i parser stream.heard

section Feed

variable {size : Nat} {held : Bytes} {i : ι} {byte : UInt8} {allocOk : Bool} {now : UInt32}

/-- A byte that completes nothing. -/
theorem Streams.feed_quiet (h : Streams stream mesh)
    (htracks : Tracks size (stream.node i).datalink.parser held)
    (hquiet : (heldStep size held byte).1 ≠ .complete) :
    Streams (stream.feed world i byte allocOk now) mesh ∧
      (stream.feed world i byte allocOk now).wire = stream.wire := by
  simp only [StreamMesh.feed, streamFeed_quiet htracks (world i) allocOk now hquiet]
  exact ⟨h.moveParser i _ _, List.append_nil _⟩

/-- A byte that completes a frame. -/
theorem Streams.feed_complete (h : Streams stream mesh)
    (htracks : Tracks size (stream.node i).datalink.parser held)
    (hcomplete : (heldStep size held byte).1 = .complete) :
    Streams (stream.feed world i byte allocOk now)
        (mesh.move i (meshProcess (world i) allocOk (mesh.node i) (held ++ [byte]))) ∧
      (stream.feed world i byte allocOk now).wire
        = stream.wire ++ (meshProcess (world i) allocOk (mesh.node i) (held ++ [byte])).2 := by
  obtain ⟨parser, hparser⟩ := h.node i
  have hprocess := meshProcess_withParser (world i) allocOk (mesh.node i) parser (held ++ [byte])
  rw [← hparser] at hprocess
  simp only [StreamMesh.feed, streamFeed_complete htracks (world i) allocOk now hcomplete, hprocess,
    Node.withParser_withParser]
  exact ⟨h.move i _ _ _ _ _, rfl⟩

end Feed

/-- The parser of a node that moves on. -/
theorem NodeMesh.move_parser (mesh : NodeMesh ι) (i j : ι) (moved : Node × List Bytes) :
    ((mesh.move i moved).node j).datalink.parser
      = if j = i then moved.1.datalink.parser else (mesh.node j).datalink.parser := by
  split
  · rename_i hj
    rw [hj, NodeMesh.move_node_self]
  · rename_i hj
    rw [NodeMesh.move_node_of_ne _ hj]

/-- A transport leaves the parsers alone. -/
theorem StreamMesh.advance_parser (mesh : NodeMesh ι) (i j : ι) (transport : TransportCtx) :
    ((mesh.move i ((mesh.node i).advance transport)).node j).datalink.parser
      = (mesh.node j).datalink.parser := by
  rw [NodeMesh.move_parser]
  split
  · rename_i hj
    rw [hj]
    rfl
  · rfl

/-- A byte moves the parser of its node, and no other. -/
theorem StreamMesh.feed_parser (world : ι → World) (stream : StreamMesh ι) (i : ι) (byte : UInt8)
    (allocOk : Bool) (now : UInt32) (j : ι) :
    ((stream.feed world i byte allocOk now).node j).datalink.parser
      = if j = i then parserStep (stream.node i).datalink.parser (.feed byte now)
        else (stream.node j).datalink.parser := by
  simp only [StreamMesh.feed, NodeMesh.move_parser, streamFeed_datalink,
    datalinkReceiveByte_parser_state]

/-- Every parser holds some bytes, whatever happens. -/
theorem StreamMesh.step_tracks {size : ι → Nat}
    (h : ∀ i, ∃ held, Tracks (size i) (stream.node i).datalink.parser held)
    (action : StreamAction ι) (j : ι) :
    ∃ held, Tracks (size j) ((stream.step world action).node j).datalink.parser held := by
  obtain ⟨held, htracks⟩ := h j
  -- a send and a timer leave every parser alone, a check and a byte move one
  cases action with
  | send i txData =>
    refine ⟨held, ?_⟩
    simp only [StreamMesh.step, NodeMesh.step]
    rw [StreamMesh.advance_parser]
    exact htracks
  | run i now =>
    refine ⟨held, ?_⟩
    simp only [StreamMesh.step, NodeMesh.step]
    rw [StreamMesh.advance_parser]
    exact htracks
  | check i now timeoutMs =>
    simp only [StreamMesh.step, NodeMesh.move_parser, streamCheck]
    split
    · rename_i hj
      subst hj
      split
      · exact ⟨[], tracks_reset htracks.room htracks.cacheSize htracks.cacheLength⟩
      · exact ⟨held, htracks⟩
    · exact ⟨held, htracks⟩
  | feed i byte allocOk now =>
    simp only [StreamMesh.step, StreamMesh.feed_parser]
    split
    · rename_i hj
      subst hj
      exact ⟨_, htracks.step byte now⟩
    · exact ⟨held, htracks⟩

/-! ### Lines that carry any bytes -/

/-- Nothing is forged in this step: what the provider of a node accepts has been signed by a
node. -/
def UnforgedBytes (stream : StreamMesh ι) : StreamAction ι → Prop
  | .feed i byte _ currentTimeMs =>
    ∀ input, .verify input .ok true
        ∈ (datalinkReceiveByte (stream.node i).datalink byte currentTimeMs).2 →
      SignedByNode stream.toNodeMesh input
  | _ => True

/-- The parsers are set up. -/
def ParsersSetUp (stream : StreamMesh ι) : Prop :=
  ∀ i, ∃ cacheBuffer, xglParserInit cacheBuffer = .ok (stream.node i).datalink.parser

omit [DecidableEq ι] in
/-- Both networks have signed the same. -/
theorem Streams.signedByNode (h : Streams stream mesh) {input : AuthInput}
    (hsigned : SignedByNode stream.toNodeMesh input) : SignedByNode mesh input := by
  obtain ⟨j, packet, err, bytes, hmem, htransmitted, hfor⟩ := hsigned
  obtain ⟨parser, hparser⟩ := h.node j
  rw [hparser] at hmem htransmitted hfor
  exact ⟨j, packet, err, bytes, hmem, htransmitted, ⟨hfor.keyId, hfor.aad, hfor.payload⟩⟩

/-- What the provider is asked about a frame, it is asked when the frame is complete. -/
theorem verify_mem_receiveByte {size : Nat} {ctx : DatalinkCtx} {held : Bytes} {byte : UInt8}
    {now : UInt32} (h : Tracks size ctx.parser held)
    (hcomplete : (heldStep size held byte).1 = .complete) {input : AuthInput} {err : XglError}
    {valid : Bool}
    (hmem : .verify input err valid
      ∈ (xglDatalinkProcessFrame ctx (held ++ [byte]) (held ++ [byte]).length).2.2) :
    .verify input err valid ∈ (datalinkReceiveByte ctx byte now).2 := by
  obtain ⟨buffer, calls, up, -, -, hevents, hreceived⟩ :=
    datalinkReceiveByte_complete h now hcomplete
  rw [hreceived]
  rw [hevents] at hmem
  refine (List.mem_append.mp hmem).elim (List.mem_append_left _) fun hup => ?_
  -- what is handed up is no call of the provider
  split at hup
  · rw [datalinkPassUp] at hup
    split at hup
    · cases List.mem_singleton.mp hup
    · cases hup
  · cases hup

/-- A step over bytes is at most a frame that the adversary puts on the wire and gives to the
node. -/
theorem Streams.attacked {size : ι → Nat} (h : Streams stream mesh)
    (htracks : ∀ i, ∃ held, Tracks (size i) (stream.node i).datalink.parser held)
    {action : StreamAction ι} (hunforged : UnforgedBytes stream action) :
    ∃ matched, Streams (stream.step world action) (matched.foldl (NodeMesh.attacked world) mesh) ∧
      Along (NodeMesh.attacked world) Unforged matched mesh := by
  cases action with
  | send i txData => exact ⟨[.act (.send i txData)], (h.send i txData).1, trivial, trivial⟩
  | run i now => exact ⟨[.act (.run i now)], (h.run i now).1, trivial, trivial⟩
  | check i now timeoutMs => exact ⟨[], h.check i now timeoutMs, trivial⟩
  | feed i byte allocOk now =>
    obtain ⟨held, hheld⟩ := htracks i
    -- a byte that completes a frame is an injection and a receive
    by_cases hcomplete : (heldStep (size i) held byte).1 = .complete
    swap
    · exact ⟨[], (h.feed_quiet hheld hcomplete).1, trivial⟩
    have hget : (mesh.wire ++ [held ++ [byte]])[mesh.wire.length]? = some (held ++ [byte]) := by
      rw [List.getElem?_append_right (Nat.le_refl _), Nat.sub_self, List.getElem?_cons_zero]
    refine ⟨[.inject (held ++ [byte]), .act (.receive i mesh.wire.length allocOk)], ?_, trivial,
      fun frame hframe input hmem => ?_, trivial⟩
    · have hstreams := (@Streams.feed_complete _ _ world _ _ _ _ _ byte allocOk now h hheld
        hcomplete).1
      simp only [List.foldl_cons, List.foldl_nil, NodeMesh.attacked, NodeMesh.step, hget]
      exact ⟨hstreams.node, hstreams.asked⟩
    · simp only [NodeMesh.attacked, hget, Option.some.injEq] at hframe
      subst hframe
      obtain ⟨parser, hparser⟩ := h.node i
      refine @Streams.signedByNode _ stream _ ⟨h.node, h.asked⟩ input (hunforged input
        (verify_mem_receiveByte hheld hcomplete ?_))
      rw [hparser]
      simp only [Node.withParser, xglDatalinkProcessFrame_withParser]
      exact hmem

/-- With authentication the lines may carry anything. Nodes read bytes, and any bytes: frames that
nodes sent, pieces of them, frames made up, noise; reads may time out in the middle of a frame. As
long as no provider accepts what no node has signed, whatever the receive callback of a node is
handed, a node with the source id it is told made a request of that data type, addressed to this
node or to all, and the bytes are the payload of this request as it was handed down. -/
theorem stream_authentic (config : ι → TransportConfig) (world : ι → World) (start : StreamMesh ι)
    (hstart : MeshStart config start.toNodeMesh) (hparsers : ParsersSetUp start)
    (hrequired : ∀ i, (start.node i).datalink.authRequired = true)
    (actions : List (StreamAction ι))
    (hunforged : Along (StreamMesh.step world) UnforgedBytes actions start)
    (hlimits : WithinIds config (runStreamMesh world actions start).toNodeMesh) :
    let stream := runStreamMesh world actions start
    ∀ i sourceId dataType data origin,
      .rxCallback sourceId dataType data origin ∈ (stream.node i).transport.io.events →
      ∃ j txData payload, txData ∈ stream.asked j ∧ txData.data = some payload ∧
        sourceId = (config j).localId ∧ dataType = txData.dataType ∧
        (txData.targetId = (config i).localId ∨ txData.targetId = XGL_BROADCAST_ID) ∧
        data = handedDown (config j) txData payload := by
  intro stream i sourceId dataType data origin hmem
  choose cache hcache using hparsers
  obtain ⟨matched, ⟨hstreams, -⟩, halong⟩ := foldl_simulates
    (fun stream mesh => Streams stream mesh ∧
      ∀ i, ∃ held, Tracks (cache i).length (stream.node i).datalink.parser held)
    (fun stream action mesh h hkept => by
      obtain ⟨matched, hnext, halong⟩ := h.1.attacked h.2 hkept
      exact ⟨matched, ⟨hnext, StreamMesh.step_tracks h.2 action⟩, halong⟩)
    actions start start.toNodeMesh
    ⟨⟨fun i => ⟨_, rfl⟩, rfl⟩, fun i => ⟨[], tracks_init (hcache i)⟩⟩ hunforged
  obtain ⟨numbers, hinv⟩ := runAttacked_inv hstart hrequired matched halong
  have hlimits : WithinIds config (runAttacked world matched start.toNodeMesh) :=
    ⟨fun j => hstreams.asked ▸ hlimits.ids j, fun j => hstreams.asked ▸ hlimits.sizes j⟩
  have htransport : (stream.node i).transport
      = ((runAttacked world matched start.toNodeMesh).node i).transport :=
    (hstreams.transport (world i) i).1
  rw [htransport] at hmem
  obtain ⟨j, txData, payload, hasked, hrest⟩ := hinv.integrity hstart.distinct hlimits hmem
  exact ⟨j, txData, payload, hstreams.asked ▸ hasked, hrest⟩

/-! ### Lines that carry frames -/

/-- Noise in which no frame can start. -/
def Noise (bytes : Bytes) : Prop :=
  ¬ [XGL_WIRE_MAGIC_0, XGL_WIRE_MAGIC_1] <:+: bytes

/-- Nothing is noise. -/
theorem noise_nil : Noise [] := by
  unfold Noise
  decide

/-- A part of noise is noise. -/
theorem Noise.of_prefix {noise part : Bytes} (h : Noise noise) (hpart : part <+: noise) :
    Noise part :=
  fun hinside => h (hinside.trans hpart.isInfix)

/-- A frame, and noise in front of it. -/
structure LinePiece where
  noise : Bytes := []
  frame : Bytes

/-- The bytes of a piece: the noise and then the frame. -/
def LinePiece.bytes (piece : LinePiece) : Bytes :=
  piece.noise ++ piece.frame

/-- The bytes of pieces behind each other. -/
def lineBytes (pieces : List LinePiece) : Bytes :=
  pieces.flatMap LinePiece.bytes

/-- The frames are those of the wire. -/
def LinePiece.Sent (wire : List Bytes) (piece : LinePiece) : Prop :=
  Noise piece.noise ∧ piece.frame ∈ wire

/-- The bytes are not yet a whole frame of the wire with noise before it. -/
def Unfinished (wire : List Bytes) (bytes : Bytes) : Prop :=
  Noise bytes ∨ ∃ piece, LinePiece.Sent wire piece ∧ bytes <+: piece.bytes ∧
    bytes.length < piece.bytes.length

/-- The bytes are these frames of the wire, with noise between them, and a frame that is not yet
complete. -/
def Heard (wire : List Bytes) (bytes : Bytes) (frames : List Bytes) : Prop :=
  ∃ pieces rest, (∀ piece ∈ pieces, LinePiece.Sent wire piece) ∧ Unfinished wire rest ∧
    bytes = lineBytes pieces ++ rest ∧ frames = pieces.map LinePiece.frame

/-- The lines carry frames of the wire, in any order and any number of times, and no read times
out. -/
def CarriesFrames (stream : StreamMesh ι) : StreamAction ι → Prop
  | .check i currentTimeMs timeoutMs =>
    xglParserCheckTimeout (stream.node i).datalink.parser currentTimeMs timeoutMs = false
  | .feed i byte _ _ => ∃ frames, Heard stream.wire (stream.heard i ++ [byte]) frames
  | _ => True

section Lines

variable {size : Nat} {auth : AuthConfig} {limit : Nat} {wire : List Bytes}

/-- A quiet read completes nothing. -/
theorem heldFrames_quiet {bytes held : Bytes} (h : HeldQuiet size held bytes) :
    heldFrames size bytes held = [] := by
  induction bytes generalizing held with
  | nil => rfl
  | cons byte rest ih =>
    obtain ⟨hbyte, hrest⟩ := h
    rw [heldFrames, if_neg (by simp [hbyte]), heldNext_of_incomplete hbyte, ih hrest]
    rfl

/-- Noise, and the beginning of a frame behind it. -/
theorem quiet_noise_frame (hroom : XGL_WIRE_BASE_HEADER_SIZE + XGL_CRC16_SIZE ≤ size)
    {noise frame : Bytes} (hnoise : Noise noise) {header : WireHeader} {tagLen : UInt8}
    (hframe : ParsableFrame frame header tagLen) (hfit : frame.length ≤ size) {k : Nat}
    (hk : k < frame.length) : HeldQuiet size [] (noise ++ frame.take k) ∧
      (1 ≤ k → heldRun size (noise ++ frame.take k) [] = frame.take k) := by
  obtain ⟨hquiet, hheld⟩ := heldQuiet_noise hroom noise (.inl rfl) hnoise
  rcases Nat.eq_zero_or_pos k with rfl | hpos
  · rw [List.take_zero, List.append_nil]
    exact ⟨hquiet, fun h => absurd h (by omega)⟩
  · refine ⟨hquiet.append (hframe.heldQuiet hfit hpos hk hheld), fun _ => ?_⟩
    rw [heldRun_append]
    exact hframe.heldRun_frame hfit hpos hk hheld

/-- A whole piece completes its frame. -/
theorem heldFrames_piece (hroom : XGL_WIRE_BASE_HEADER_SIZE + XGL_CRC16_SIZE ≤ size)
    {noise frame : Bytes} (hnoise : Noise noise) {header : WireHeader} {tagLen : UInt8}
    (hframe : ParsableFrame frame header tagLen) (hfit : frame.length ≤ size) :
    heldFrames size (noise ++ frame) [] = [frame] ∧ heldRun size (noise ++ frame) [] = [] := by
  have hlen := hframe.length_ge
  unfold XGL_WIRE_BASE_HEADER_SIZE XGL_CRC16_SIZE at hlen
  obtain ⟨k, hk⟩ : ∃ k, frame.length = k + 1 := ⟨frame.length - 1, by omega⟩
  obtain ⟨hquiet, hheld⟩ := quiet_noise_frame hroom hnoise hframe hfit (by omega : k < frame.length)
  have hlast : frame.take k ++ [byteAt frame k] = frame := by
    rw [take_succ_byteAt frame k (by omega), ← hk, List.take_length]
  have hstep := hframe.heldStep_take hfit (by omega : 1 ≤ k) (by omega)
  rw [if_pos hk.symm] at hstep
  have hsplit : noise ++ frame = (noise ++ frame.take k) ++ [byteAt frame k] := by
    rw [List.append_assoc, hlast]
  rw [hsplit, heldFrames_append, heldRun_append size (noise ++ frame.take k),
    heldFrames_quiet hquiet, hheld (by omega), heldFrames, hstep, hlast]
  refine ⟨rfl, ?_⟩
  simp only [heldRun, List.foldl_cons, List.foldl_nil, heldNext, hstep, if_true]

/-- What is not finished completes nothing. -/
theorem Unfinished.quiet (hroom : XGL_WIRE_BASE_HEADER_SIZE + XGL_CRC16_SIZE ≤ size)
    (hwire : ∀ frame ∈ wire, Receivable auth limit frame) (hsize : limit ≤ size) {bytes : Bytes}
    (h : Unfinished wire bytes) : HeldQuiet size [] bytes := by
  rcases h with hnoise | ⟨piece, ⟨hnoise, hsent⟩, hfront, hshort⟩
  · exact (heldQuiet_noise hroom bytes (.inl rfl) hnoise).1
  · obtain ⟨header, tagLen, hframe⟩ := (hwire _ hsent).parsable
    have hfit : piece.frame.length ≤ size := (hwire _ hsent).length.trans hsize
    have htake := List.prefix_iff_eq_take.mp hfront
    simp only [LinePiece.bytes, List.length_append] at hshort
    rw [LinePiece.bytes, List.take_append] at htake
    rw [htake]
    rcases Nat.lt_or_ge bytes.length piece.noise.length with hin | hout
    · -- a part of noise is noise
      rw [Nat.sub_eq_zero_of_le hin.le, List.take_zero, List.append_nil]
      exact (heldQuiet_noise hroom _ (.inl rfl) (hnoise.of_prefix (List.take_prefix _ _))).1
    · rw [List.take_of_length_le hout]
      exact (quiet_noise_frame hroom hnoise hframe hfit (by omega)).1

/-- The frames that a parser collects from such bytes. The induction is on the pieces. -/
theorem Heard.heldFrames (hroom : XGL_WIRE_BASE_HEADER_SIZE + XGL_CRC16_SIZE ≤ size)
    (hwire : ∀ frame ∈ wire, Receivable auth limit frame) (hsize : limit ≤ size) {bytes : Bytes}
    {frames : List Bytes} (h : Heard wire bytes frames) : heldFrames size bytes [] = frames := by
  obtain ⟨pieces, rest, hpieces, hrest, rfl, rfl⟩ := h
  induction pieces with
  | nil => exact heldFrames_quiet (hrest.quiet hroom hwire hsize)
  | cons piece pieces ih =>
    obtain ⟨hnoise, hsent⟩ := hpieces piece List.mem_cons_self
    obtain ⟨header, tagLen, hframe⟩ := (hwire _ hsent).parsable
    obtain ⟨hone, hnone⟩ := heldFrames_piece hroom hnoise hframe
      ((hwire _ hsent).length.trans hsize)
    rw [lineBytes, List.flatMap_cons, List.append_assoc, heldFrames_append, LinePiece.bytes, hone,
      hnone, List.map_cons, List.singleton_append]
    exact congrArg _ (ih fun other hother => hpieces other (List.mem_cons_of_mem _ hother))

/-- What was heard was sent. -/
theorem Heard.sent {bytes frame : Bytes} {frames : List Bytes} (h : Heard wire bytes frames)
    (hmem : frame ∈ frames) : frame ∈ wire := by
  obtain ⟨pieces, rest, hpieces, -, -, rfl⟩ := h
  obtain ⟨piece, hpiece, rfl⟩ := List.mem_map.mp hmem
  exact (hpieces piece hpiece).2

/-- More frames on the wire do no harm. -/
theorem Heard.mono {more : List Bytes} {bytes : Bytes} {frames : List Bytes}
    (h : Heard wire bytes frames) : Heard (wire ++ more) bytes frames := by
  have hsent : ∀ piece, LinePiece.Sent wire piece → LinePiece.Sent (wire ++ more) piece :=
    fun piece hpiece => ⟨hpiece.1, List.mem_append_left _ hpiece.2⟩
  obtain ⟨pieces, rest, hpieces, hrest, hbytes, hframes⟩ := h
  exact ⟨pieces, rest, fun piece hpiece => hsent piece (hpieces piece hpiece),
    hrest.imp_right fun ⟨piece, hpiece, hshort⟩ => ⟨piece, hsent piece hpiece, hshort⟩, hbytes,
    hframes⟩

end Lines

/-- The nodes that read bytes are where a run over frames takes them, and each node was given the
frames that it heard. -/
structure ReadsFrames (config : ι → TransportConfig) (auth : AuthConfig) (limit : Nat)
    (world : ι → World) (size : ι → Nat) (start : NodeMesh ι) (stream : StreamMesh ι)
    (matched : List (NodeMeshAction ι)) : Prop where
  streams : Streams stream (runNodeMesh world matched start)
  wire : stream.wire = (runNodeMesh world matched start).wire
  frames : ∃ numbers, FramesInv config auth limit (runNodeMesh world matched start) numbers
  tracks : ∀ i, Tracks (size i) (stream.node i).datalink.parser
    (heldRun (size i) (stream.heard i) [])
  heard : ∀ i, Heard stream.wire (stream.heard i) (framesGiven world i matched start)

section Matched

variable {auth : AuthConfig} {limit : Nat} {size : ι → Nat} {start : NodeMesh ι}
  {matched : List (NodeMeshAction ι)}

/-- A step that no node hears. -/
theorem ReadsFrames.unheard (h : ReadsFrames config auth limit world size start stream matched)
    (hfragments : ∀ i, (config i).enableFragmentation = true)
    (hlimit : limit ≤ XGL_DATALINK_MAX_FRAME_SIZE) {after : StreamMesh ι}
    {action : NodeMeshAction ι} {more : List Bytes} (hheard : after.heard = stream.heard)
    (hmore : after.wire = stream.wire ++ more)
    (hstreams : Streams after ((runNodeMesh world matched start).step world action))
    (hwire : after.wire = ((runNodeMesh world matched start).step world action).wire)
    (hparser : ∀ j, (after.node j).datalink.parser = (stream.node j).datalink.parser)
    (hgiven : ∀ j, (runNodeMesh world matched start).given j action = []) :
    ReadsFrames config auth limit world size start after (matched ++ [action]) := by
  have hconcat := runNodeMesh_concat world matched action start
  refine ⟨hconcat ▸ hstreams, hconcat ▸ hwire, ?_, fun j => ?_, fun j => ?_⟩
  · rw [hconcat]
    exact framesInv_step hfragments hlimit h.frames (NodeMesh.step_stepped _ _ _)
  · rw [hheard, hparser]
    exact h.tracks j
  · rw [hheard, hmore, framesGiven_concat, hgiven, List.append_nil]
    exact (h.heard j).mono

/-- A byte. -/
theorem ReadsFrames.feed (h : ReadsFrames config auth limit world size start stream matched)
    (hfragments : ∀ i, (config i).enableFragmentation = true)
    (hlimit : limit ≤ XGL_DATALINK_MAX_FRAME_SIZE) (hsize : ∀ i, limit ≤ size i) {i : ι}
    {byte : UInt8} {allocOk : Bool} {now : UInt32}
    (hcarries : CarriesFrames stream (.feed i byte allocOk now)) :
    ∃ matched, ReadsFrames config auth limit world size start
      (stream.feed world i byte allocOk now) matched := by
  obtain ⟨frames, hframes⟩ := hcarries
  obtain ⟨numbers, hinv⟩ := h.frames
  -- what the parser has collected so far are whole frames of the wire
  have hreceivable : ∀ frame ∈ stream.wire, Receivable auth limit frame := h.wire ▸ hinv.frames
  have hroom := (h.tracks i).room
  have hafter := hframes.heldFrames hroom hreceivable (hsize i)
  rw [heldFrames_append, (h.heard i).heldFrames hroom hreceivable (hsize i), heldFrames,
    heldFrames, List.append_nil] at hafter
  have htracks : ∀ j, Tracks (size j)
      ((stream.feed world i byte allocOk now).node j).datalink.parser
      (heldRun (size j) ((stream.feed world i byte allocOk now).heard j) []) := by
    intro j
    rw [StreamMesh.feed_parser, StreamMesh.feed]
    dsimp only
    split
    · rename_i hj
      rw [hj, Function.update_self, heldRun_append]
      exact (h.tracks i).step byte now
    · rename_i hj
      rw [Function.update_of_ne hj]
      exact h.tracks j
  have hheard : ∀ {given : ι → List Bytes} {more : List Bytes}, frames = given i →
      (∀ j, j ≠ i → given j = framesGiven world j matched start) → ∀ j,
      Heard (stream.wire ++ more) ((stream.feed world i byte allocOk now).heard j) (given j) := by
    intro given more hown hothers j
    -- only this node has heard a byte more
    by_cases hj : j = i
    · subst hj
      rw [← hown, StreamMesh.feed]
      dsimp only
      rw [Function.update_self]
      exact hframes.mono
    · rw [hothers j hj, StreamMesh.feed]
      dsimp only
      rw [Function.update_of_ne hj]
      exact (h.heard j).mono
  by_cases hcomplete : (heldStep (size i) (heldRun (size i) (stream.heard i) []) byte).1 = .complete
  · -- the frame is on the wire, and the node is given it
    rw [if_pos hcomplete] at hafter
    obtain ⟨index, hindex⟩ : ∃ index, (runNodeMesh world matched start).wire[index]?
        = some (heldRun (size i) (stream.heard i) [] ++ [byte]) := by
      rw [← h.wire]
      refine List.mem_iff_getElem?.mp (hframes.sent ?_)
      rw [← hafter]
      exact List.mem_append_right _ List.mem_cons_self
    obtain ⟨hstreams, hwire⟩ := @Streams.feed_complete _ _ world _ _ _ _ _ byte allocOk now
      h.streams (h.tracks i) hcomplete
    have hstep : (runNodeMesh world matched start).step world (.receive i index allocOk)
        = (runNodeMesh world matched start).move i (meshProcess (world i) allocOk
          ((runNodeMesh world matched start).node i)
          (heldRun (size i) (stream.heard i) [] ++ [byte])) := by
      simp only [NodeMesh.step, hindex]
    have hconcat := runNodeMesh_concat world matched (.receive i index allocOk) start
    rw [hstep] at hconcat
    refine ⟨matched ++ [.receive i index allocOk], ?_, ?_, ?_, htracks, ?_⟩
    · rw [hconcat]
      exact hstreams
    · rw [hconcat]
      refine hwire.trans ?_
      rw [h.wire]
      rfl
    · rw [hconcat, ← hstep]
      exact framesInv_step hfragments hlimit h.frames (NodeMesh.step_stepped _ _ _)
    · intro j
      rw [show (stream.feed world i byte allocOk now).wire = _ from hwire]
      refine @hheard (fun j => framesGiven world j (matched ++ [.receive i index allocOk]) start) _
        ?_ (fun j hj => ?_) j
      · rw [framesGiven_concat, NodeMesh.given, if_pos rfl, hindex]
        exact hafter.symm
      · rw [framesGiven_concat, NodeMesh.given, if_neg (Ne.symm hj), List.append_nil]
  -- the byte completes nothing, and neither does the run over frames move
  · rw [if_neg hcomplete, List.append_nil] at hafter
    obtain ⟨hstreams, hwire⟩ := @Streams.feed_quiet _ _ world _ _ _ _ _ byte allocOk now
      h.streams (h.tracks i) hcomplete
    refine ⟨matched, hstreams, hwire.trans h.wire, h.frames, htracks, fun j => ?_⟩
    have hsame := @hheard (fun j => framesGiven world j matched start) [] hafter.symm
      (fun _ _ => rfl) j
    rw [List.append_nil] at hsame
    rw [show (stream.feed world i byte allocOk now).wire = stream.wire from hwire]
    exact hsame

/-- A step over bytes is at most one step over frames. -/
theorem ReadsFrames.step (h : ReadsFrames config auth limit world size start stream matched)
    (hfragments : ∀ i, (config i).enableFragmentation = true)
    (hlimit : limit ≤ XGL_DATALINK_MAX_FRAME_SIZE) (hsize : ∀ i, limit ≤ size i)
    {action : StreamAction ι} (hcarries : CarriesFrames stream action) :
    ∃ matched, ReadsFrames config auth limit world size start (stream.step world action)
      matched := by
  cases action with
  | send i txData =>
    obtain ⟨hstreams, hwire⟩ := @Streams.send _ _ world _ _ h.streams i txData
    refine ⟨matched ++ [.send i txData], h.unheard hfragments hlimit rfl rfl hstreams
      (hwire h.wire) (fun j => ?_) fun _ => rfl⟩
    exact StreamMesh.advance_parser _ _ _ _
  | run i now =>
    obtain ⟨hstreams, hwire⟩ := @Streams.run _ _ world _ _ h.streams i now
    refine ⟨matched ++ [.run i now], h.unheard hfragments hlimit rfl rfl hstreams
      (hwire h.wire) (fun j => ?_) fun _ => rfl⟩
    exact StreamMesh.advance_parser _ _ _ _
  | check i now timeoutMs =>
    -- no read times out, so the check does nothing
    have hstreams := @Streams.check _ _ world _ _ h.streams i now timeoutMs
    have hwire : (stream.step world (.check i now timeoutMs)).wire = stream.wire :=
      List.append_nil _
    refine ⟨matched, hstreams, hwire.trans h.wire, h.frames, fun j => ?_, fun j => ?_⟩
    · have hsame : streamCheck now timeoutMs (stream.node i) = stream.node i :=
        if_neg (by rw [hcarries]; exact Bool.false_ne_true)
      simp only [StreamMesh.step, NodeMesh.move_parser, hsame]
      split
      · rename_i hj
        rw [hj]
        exact h.tracks i
      · exact h.tracks j
    · rw [hwire]
      exact h.heard j
  | feed i byte allocOk now => exact h.feed hfragments hlimit hsize hcarries

end Matched

/-- Reading bytes is being given frames. Nodes share their authentication settings and read from
lines that carry frames of the wire, in any order and any number of times, with noise between
them, and no read times out in the middle of a frame. Then there is a run in which the nodes are
given whole frames that takes every node to the same state, but for its parser, with the same
requests and the same frames on the wire. In it each node is given exactly the frames that it has
heard to the end, in this order. -/
theorem stream_refines (config : ι → TransportConfig) (auth : AuthConfig) (limit : Nat)
    (hlimit : limit ≤ XGL_DATALINK_MAX_FRAME_SIZE) (world : ι → World) (start : StreamMesh ι)
    (hstart : MeshStart config start.toNodeMesh) (hquiet : ∀ i, start.heard i = [])
    (hsetup : ∀ i, (start.node i).SetUp auth limit)
    (hparsers : ∀ i, ∃ cacheBuffer, limit ≤ cacheBuffer.length ∧
      xglParserInit cacheBuffer = .ok (start.node i).datalink.parser)
    (actions : List (StreamAction ι))
    (hcarries : Along (StreamMesh.step world) CarriesFrames actions start) :
    let stream := runStreamMesh world actions start
    ∃ matched, let mesh := runNodeMesh world matched start.toNodeMesh
      (∀ i, ∃ parser, stream.node i = (mesh.node i).withParser parser) ∧
        stream.asked = mesh.asked ∧ stream.wire = mesh.wire ∧
        ∀ i, Heard stream.wire (stream.heard i) (framesGiven world i matched start.toNodeMesh) := by
  intro stream
  choose cache hcache using hparsers
  have hbegin : ReadsFrames config auth limit world (fun i => (cache i).length) start.toNodeMesh
      start [] := by
    refine ⟨⟨fun i => ⟨_, rfl⟩, rfl⟩, rfl, ⟨_, framesInv_start hstart hsetup⟩, fun i => ?_,
      fun i => ?_⟩
    · rw [hquiet]
      exact tracks_init (hcache i).2
    · rw [hquiet]
      exact ⟨[], [], fun _ hpiece => absurd hpiece List.not_mem_nil, .inl noise_nil, rfl, rfl⟩
  obtain ⟨matched, hreads⟩ : ∃ matched, ReadsFrames config auth limit world
      (fun i => (cache i).length) start.toNodeMesh stream matched :=
    foldl_along (fun state => ∃ matched, ReadsFrames config auth limit world
        (fun i => (cache i).length) start.toNodeMesh state matched)
      (fun _ _ h hkept => h.elim fun _ hreads =>
        hreads.step hstart.fragments hlimit (fun i => (hcache i).1) hkept)
      actions start ⟨_, hbegin⟩ hcarries
  exact ⟨matched, hreads.streams.node, hreads.streams.asked, hreads.wire, hreads.heard⟩

end Network

/-! ### Two nodes that read bytes -/

section Reads

variable {ι : Type} [DecidableEq ι] {world : ι → World} {wire : List Bytes}

/-- What was heard before was heard, too. -/
theorem Heard.of_prefix {bytes part : Bytes} {frames : List Bytes} (h : Heard wire bytes frames)
    (hpart : part <+: bytes) : ∃ before, Heard wire part before := by
  obtain ⟨pieces, rest, hpieces, hrest, rfl, -⟩ := h
  -- the induction is on the pieces that are wholly in the bytes
  induction pieces generalizing part with
  | nil =>
    have hpart : part <+: rest := hpart
    refine ⟨[], [], part, fun _ hpiece => absurd hpiece List.not_mem_nil, ?_, rfl, rfl⟩
    rcases hrest with hnoise | ⟨piece, hpiece, hfront, hshort⟩
    · exact .inl (hnoise.of_prefix hpart)
    · exact .inr ⟨piece, hpiece, hpart.trans hfront, hpart.length_le.trans_lt hshort⟩
  | cons piece pieces ih =>
    rw [lineBytes, List.flatMap_cons, List.append_assoc] at hpart
    have hsent := hpieces piece List.mem_cons_self
    -- the part ends inside this piece, or goes beyond it
    rcases Nat.lt_or_ge part.length piece.bytes.length with hshort | hwhole
    · exact ⟨[], [], part, fun _ hpiece => absurd hpiece List.not_mem_nil,
        .inr ⟨piece, hsent, List.prefix_of_prefix_length_le hpart (List.prefix_append _ _)
          hshort.le, hshort⟩, rfl, rfl⟩
    · obtain ⟨more, rfl⟩ := List.prefix_of_prefix_length_le (List.prefix_append _ _) hpart hwhole
      obtain ⟨_, before, unfinished, hbefore, hunfinished, rfl, -⟩ :=
        ih (fun other hother => hpieces other (List.mem_cons_of_mem _ hother))
          ((List.prefix_append_right_inj _).mp hpart)
      refine ⟨_, piece :: before, unfinished, fun other hother => ?_, hunfinished, ?_, rfl⟩
      · exact (List.mem_cons.mp hother).elim (fun heq => heq ▸ hsent) (hbefore other)
      · simp only [lineBytes, List.flatMap_cons, List.append_assoc]

/-- A read of any size from a line that carries frames. -/
theorem along_read (i : ι) (allocOk : Bool) (now : UInt32) (bytes : Bytes)
    (stream : StreamMesh ι)
    (h : ∃ frames, Heard stream.wire (stream.heard i ++ bytes) frames) :
    Along (StreamMesh.step world) CarriesFrames
      (bytes.map fun byte => .feed i byte allocOk now) stream := by
  induction bytes generalizing stream with
  | nil => trivial
  | cons byte rest ih =>
    obtain ⟨frames, hframes⟩ := h
    refine ⟨hframes.of_prefix ⟨rest, by simp⟩, ih _ ⟨frames, ?_⟩⟩
    simp only [StreamMesh.step, StreamMesh.feed, Function.update_self, List.append_assoc,
      List.singleton_append]
    exact hframes.mono

omit [DecidableEq ι] in
/-- What the provider accepts is among the events. -/
theorem unforgedBytes_of_events {stream : StreamMesh ι} {i : ι} {byte : UInt8} {allocOk : Bool}
    {now : UInt32} (events : List DatalinkEvent)
    (hevents : (datalinkReceiveByte (stream.node i).datalink byte now).2 = events)
    (h : ∀ input, .verify input .ok true ∈ events → SignedByNode stream.toNodeMesh input) :
    UnforgedBytes stream (.feed i byte allocOk now) := by
  subst hevents
  exact h

/-- A read in which it accepts nothing. -/
theorem along_unaccepted (i : ι) (allocOk : Bool) (now : UInt32) {bytes : Bytes}
    {stream : StreamMesh ι} {events : List DatalinkEvent}
    (hevents : (datalinkReceiveBytes now bytes (stream.node i).datalink).2 = events)
    (h : ∀ input, .verify input .ok true ∉ events) :
    Along (StreamMesh.step world) UnforgedBytes
      (bytes.map fun byte => .feed i byte allocOk now) stream := by
  induction bytes generalizing stream events with
  | nil => trivial
  | cons byte rest ih =>
    subst hevents
    simp only [datalinkReceiveBytes, runSteps_cons, List.mem_append, not_or] at h
    refine ⟨fun input hmem => absurd hmem (h input).1, ih ?_ fun input => (h input).2⟩
    simp only [StreamMesh.step, StreamMesh.feed, NodeMesh.move_node_self, streamFeed_datalink]
    rfl

end Reads

/-- Nodes 1 and 2, which authenticate. -/
def streamStart : StreamMesh (Fin 2) where
  node := attackedNode

/-- Node 1 sends a request. Node 2 reads noise and its frame, in two pieces. -/
def noisyActions : List (StreamAction (Fin 2)) :=
  .send attackedSender attackedRequest ::
    (receiveActions attackedReceiver true 5 100 ([1, 2, 3] ++ attackedFrame.take 20) ++
      receiveActions attackedReceiver true 6 100 (attackedFrame.drop 20))

/-- What node 2 reads, noise and the frame. -/
def noisyPiece : LinePiece where
  noise := [1, 2, 3]
  frame := attackedFrame

/-- Three bytes without a magic byte are noise. -/
theorem noisyPiece_noise : Noise noisyPiece.noise := by
  unfold Noise
  decide

/-- The line carries the frame. -/
theorem noisyActions_carry :
    Along (StreamMesh.step fun _ => chainWorld) CarriesFrames noisyActions streamStart := by
  refine ⟨trivial, along_append.mpr ⟨⟨?_, along_read 1 true 5 _ _ ⟨[], ?_⟩⟩,
    ⟨?_, along_read 1 true 6 _ _ ⟨[attackedFrame], ?_⟩⟩⟩⟩
  · show xglParserCheckTimeout _ _ _ = false
    decide +kernel
  · refine ⟨[], [1, 2, 3] ++ attackedFrame.take 20, fun _ hpiece => absurd hpiece List.not_mem_nil,
      .inr ⟨noisyPiece, ⟨noisyPiece_noise, ?_⟩, ⟨attackedFrame.drop 20, rfl⟩, by decide⟩, ?_, rfl⟩
    · decide +kernel
    · decide +kernel
  · show xglParserCheckTimeout _ _ _ = false
    decide +kernel
  · refine ⟨[noisyPiece], [], fun piece hpiece => ?_, .inl noise_nil, ?_, rfl⟩
    · rw [List.mem_singleton.mp hpiece]
      refine ⟨noisyPiece_noise, ?_⟩
      decide +kernel
    · decide +kernel

/-- The two nodes after these steps. -/
def noisyRun : StreamMesh (Fin 2) :=
  runStreamMesh (fun _ => chainWorld) noisyActions streamStart

/-- Node 2 is handed the payload, and a run over frames takes both nodes where they are. -/
theorem stream_refines_noisy :
    rxPayloads (noisyRun.node 1).transport.io.events = [[1, 2, 3]] ∧
      ∃ matched, let mesh := runNodeMesh (fun _ => chainWorld) matched streamStart.toNodeMesh
        (∀ i, ∃ parser, noisyRun.node i = (mesh.node i).withParser parser) ∧
          noisyRun.asked = mesh.asked ∧ noisyRun.wire = mesh.wire ∧
          ∀ i, Heard noisyRun.wire (noisyRun.heard i)
            (framesGiven (fun _ => chainWorld) i matched streamStart.toNodeMesh) := by
  have hdelivered : rxPayloads (noisyRun.node 1).transport.io.events = [[1, 2, 3]] := by
    decide +kernel
  rw [noisyRun] at hdelivered ⊢
  exact ⟨hdelivered, stream_refines attackedConfig (attackedNode 0).datalink.authConfig 64
    (by decide) (fun _ => chainWorld) streamStart attacked_start (fun _ => rfl)
    attackedNode_setUp (fun _ => ⟨List.replicate 64 0, Nat.le_refl 64, rfl⟩) noisyActions
    noisyActions_carry⟩

/-- Node 1 sends a request. Node 2 reads what an adversary made of its frame: one with another
payload, and one with another hop limit. -/
def forgedActions : List (StreamAction (Fin 2)) :=
  .send attackedSender attackedRequest :: (receiveActions attackedReceiver true 5 100 forgedFrame ++
    (receiveActions attackedReceiver true 6 100 (delayedFrame.take 47) ++
      [.feed attackedReceiver (byteAt delayedFrame 47) true 7]))

/-- The provider of node 2 accepts the second frame only, and this is what node 1 signed. -/
theorem forgedActions_unforged :
    Along (StreamMesh.step fun _ => chainWorld) UnforgedBytes forgedActions streamStart := by
  have hquiet : ∀ input, .verify input .ok true
      ∉ [DatalinkEvent.verify (gateAuthInput forgedFrame forgedFrame.length 1 ⟨7, 0, 1⟩)
        .ok false] :=
    fun input hmem => absurd (List.mem_singleton.mp hmem) (by simp)
  refine ⟨trivial, along_append.mpr ⟨⟨trivial,
      along_unaccepted 1 true 5 (by decide +kernel) hquiet⟩,
    along_append.mpr ⟨⟨trivial,
      along_unaccepted 1 true 6 (by decide +kernel) fun _ => List.not_mem_nil⟩, ?_, trivial⟩⟩⟩
  refine unforgedBytes_of_events [.verify attackedInput .ok true,
    .upperReceive (delayedFrame ++ List.replicate 16 0) delayedFrame.length] (by decide +kernel)
    fun input hmem => ?_
  obtain rfl : input = attackedInput := by simpa using hmem
  exact ⟨0, attackedPacket, .ok, attackedFrame, by decide +kernel, by decide +kernel,
    by decide +kernel, by decide +kernel, by decide +kernel⟩

/-- The two nodes after these steps. -/
def forgedRun : StreamMesh (Fin 2) :=
  runStreamMesh (fun _ => chainWorld) forgedActions streamStart

/-- Node 2 is handed the payload, and whatever is handed over was asked for. -/
theorem stream_authentic_forged :
    rxPayloads (forgedRun.node 1).transport.io.events = [[1, 2, 3]] ∧
      ∀ i sourceId dataType data origin,
        .rxCallback sourceId dataType data origin ∈ (forgedRun.node i).transport.io.events →
        ∃ j txData payload, txData ∈ forgedRun.asked j ∧ txData.data = some payload ∧
          sourceId = (attackedConfig j).localId ∧ dataType = txData.dataType ∧
          (txData.targetId = (attackedConfig i).localId ∨ txData.targetId = XGL_BROADCAST_ID) ∧
          data = handedDown (attackedConfig j) txData payload := by
  have hdelivered : rxPayloads (forgedRun.node 1).transport.io.events = [[1, 2, 3]] := by
    decide +kernel
  have hasked : ∀ i, forgedRun.asked i = if i = 0 then [attackedRequest] else [] := by
    decide +kernel
  have hlimits : WithinIds attackedConfig forgedRun.toNodeMesh :=
    withinIds_of_asked hasked
  rw [forgedRun] at hdelivered hlimits ⊢
  exact ⟨hdelivered,
    stream_authentic attackedConfig (fun _ => chainWorld) streamStart attacked_start
      (fun _ => ⟨List.replicate 64 0, rfl⟩) (fun _ => rfl) forgedActions forgedActions_unforged
      hlimits⟩

end XgenLink
