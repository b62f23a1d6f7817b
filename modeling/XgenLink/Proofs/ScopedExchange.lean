import XgenLink.Proofs.CalmNode

/-!
# `XgenLink.Proofs.ScopedExchange`: a connection-scoped exchange from send to last ACK

Node A sends reliable messages of one scope (connection id, epoch) to node B over a lossless link,
and B's ACKs come back. Each message fits into one packet and travels as it is, and neither node
authenticates. The run ends when every message was handed over in order and every ACK has taken
its packet out of the sender's queue.

The scope is a different one in each layer. The peer of the sender has the requested scope and a
session id of its own. The wire carries the connection id and no epoch. The receiver takes the
session id from the low half of the connection id, and sends its ACKs to the scope it has seen.
So an ACK finds the peer of the sender only for epoch zero, and is taken only when the low half of
the connection id is zero or the sender's session id.

An exchange is followed by the messages that have arrived, those on the wire, and the ACKs on
their way back. Each step moves one of them on, and a measure that counts them falls with every
delivery.

* `wireScope`, `arrivalKey`, `AcksPass`: the scope in each layer.
* `Exchange`: the invariant of such a run, and a lemma for each of its steps:
  `Exchange.send`, `Exchange.deliverHello`, `Exchange.deliverData`, `Exchange.deliverAck`.
* `Exchange.completes`: the links can always be emptied.
* `Exchanging.kept`, `Exchanging.acksPass`: a complete run, with sessions that agree and with
  sessions that do not.
* `scoped_exchange_iff`: a complete run keeps its promise exactly for epoch zero and
  connection ids whose low half is zero or the sender's session id.
-/

set_option autoImplicit false

namespace XgenLink

/-! ### Scopes on the wire -/

section Scope

variable (ids : Side → UInt16) (c e : UInt32)

/-- The session id of the first peer of node A. -/
def senderSession : UInt16 :=
  newSessionId (ids .a)

/-- The connection id on the wire. -/
def wireScope : UInt32 :=
  streamOf c (senderSession ids)

/-- The session id the receiver derives from it. -/
def wireSession : UInt16 :=
  (wireScope ids c &&& 0xFFFF).toUInt16

/-- The scope node B sees. -/
def arrivalKey : PeerKey :=
  scopedKey (ids .a) (wireScope ids c) 0

/-- ACKs find the sender's peer and agree with its session. -/
def AcksPass : Prop :=
  e = 0 ∧ (wireSession ids c = 0 ∨ wireSession ids c = senderSession ids)

end Scope

/-- A session id is masked and not zero. -/
theorem newSessionId_masked (n : UInt16) :
    newSessionId n &&& XGL_SESSION_ID_MASK = newSessionId n ∧ newSessionId n ≠ 0 := by
  unfold newSessionId
  split
  · exact ⟨by decide, by decide⟩
  · rename_i h
    refine ⟨?_, by simpa using h⟩
    rw [UInt16.and_assoc, UInt16.and_self]

/-- A session id made from a session id is the same one. -/
theorem newSessionId_idem (n : UInt16) : newSessionId (newSessionId n) = newSessionId n := by
  have hfixed : ∀ m : UInt16, m &&& XGL_SESSION_ID_MASK = m → m ≠ 0 → newSessionId m = m := by
    intro m hmask hne
    unfold newSessionId
    rw [hmask, if_neg (by simpa using hne)]
  exact hfixed _ (newSessionId_masked n).1 (newSessionId_masked n).2

/-- The connection id on the wire is never zero. -/
theorem streamOf_ne_zero {c : UInt32} {s : UInt16} (hs : s ≠ 0) : streamOf c s ≠ 0 := by
  unfold streamOf
  split
  · rename_i h
    simpa using h
  · intro hzero
    apply hs
    rw [← UInt16.toNat_inj]
    have := congrArg UInt32.toNat hzero
    rw [UInt16.toNat_toUInt32] at this
    exact this

/-- The scope on the wire names a connection. -/
theorem wireScope_ne_zero (ids : Side → UInt16) (c : UInt32) : wireScope ids c ≠ 0 :=
  streamOf_ne_zero (newSessionId_masked _).2

/-! ### The invariant -/

/-- The list has one peer. -/
structure OnlyPeer (peers : List PeerState) (peer : PeerState) : Prop where
  entry : peerOf peers peer.key = some peer
  alone : ∀ key, key ≠ peer.key → peerOf peers key = none

/-- The peer of the sender after `accepted` messages. -/
structure SenderPeer (ids : Side → UInt16) (c e : UInt32) (accepted : Nat)
    (outstanding : List UInt32) (peer : PeerState) : Prop where
  key : peer.key = scopedKey (ids .b) c e
  session : peer.sessionId = senderSession ids
  next : peer.txWindow.nextPacketNumber = UInt32.ofNat accepted
  targets : ∀ x ∈ contents peer.reliableQueue.waitAckList, x.targetId = ids .b
  bounded : (contents peer.reliableQueue.waitAckList).length ≤ accepted
  exact : AcksPass ids c e → (numbers peer.reliableQueue.waitAckList).Perm outstanding
  stuck : wireSession ids c ≠ 0 → wireSession ids c ≠ senderSession ids →
    (contents peer.reliableQueue.waitAckList).length = accepted

/-- The messages on the wire, numbered from `first`. -/
def dataItems (ids : Side → UInt16) (c : UInt32) (config : TransportConfig) (first : Nat)
    (flying : List TxData) : List Item :=
  (flying.zipIdx first).map fun x =>
    .data (wireScope ids c) (UInt32.ofNat x.2) (travelling config x.1)

/-- The numbers of these messages. -/
def dataNumbers (first : Nat) (flying : List TxData) : List UInt32 :=
  (flying.zipIdx first).map fun x => UInt32.ofNat x.2

/-- The receiver is in order with the messages that have arrived. -/
structure Listening (ids : Side → UInt16) (c e : UInt32) (config : TransportConfig)
    (ctx : TransportCtx) (past : List TxData) : Prop where
  order : ∀ peer, peerOf ctx.peers (arrivalKey ids c) = some peer → peer.rxBuffered = [] ∧
    (rxOrderInit peer).rxNextPacketNumber = UInt32.ofNat past.length
  fresh : peerOf ctx.peers (arrivalKey ids c) = none → past = []
  session : AcksPass ids c e → ∀ peer, peerOf ctx.peers (arrivalKey ids c) = some peer →
    wireSession ids c = 0 ∨ wireSession ids c = peer.sessionId
  deliveries : rxDeliveries ctx.io.events
    = past.map fun t => (arrivalKey ids c, travelling config t)

/-- The receiver refuses every message for its session. -/
structure Deaf (ids : Side → UInt16) (c e : UInt32) (ctx : TransportCtx) (past : List TxData) :
    Prop where
  entry : ∃ peer, peerOf ctx.peers (arrivalKey ids c) = some peer ∧ wireSession ids c ≠ 0 ∧
    wireSession ids c ≠ peer.sessionId
  blocked : ¬ AcksPass ids c e
  late : past ≠ []
  deliveries : ∀ x ∈ rxDeliveries ctx.io.events, x.1 = arrivalKey ids c

/-- Nothing was sent yet. -/
structure Unopened (ids : Side → UInt16) (sys : System) (accepted : List TxData) (greet : Bool)
    (acks : List UInt32) : Prop where
  sender : ∀ key, peerOf (sys.node .a).transport.peers key = none
  session : (sys.node .a).transport.nextSessionId = senderSession ids
  receiver : ∀ key, peerOf (sys.node .b).transport.peers key = none
  empty : accepted = [] ∧ greet = false ∧ acks = []

/-- The state of an exchange: `past` are the messages that have arrived and
`flying` those on the wire, `greet` says that the HELLO is on the wire, and `acks`
are the ACKs on their way back. -/
structure Exchange (ids : Side → UInt16) (c e : UInt32) (config : TransportConfig) (sys : System)
    (past flying : List TxData) (greet : Bool) (acks : List UInt32) : Prop where
  calm : ∀ side, CalmNode (sys.node side) (ids side) (ids side.other)
  setup : (sys.node .a).transport.config = config
  sent : sys.sent .a = (past ++ flying).map fun t => t.data.getD []
  sender : Unopened ids sys (past ++ flying) greet acks ∨
    ∃ peer, OnlyPeer (sys.node .a).transport.peers peer ∧ peer.helloSent = true ∧
      SenderPeer ids c e (past ++ flying).length (acks ++ dataNumbers past.length flying) peer
  toB : Holds sys ids .b ((if greet then [.hello (wireScope ids c)] else []) ++
    dataItems ids c config past.length flying)
  toA : Holds sys ids .a (acks.map (.ack (wireScope ids c)))
  first : greet = true → past = [] ∧ ∀ key, peerOf (sys.node .b).transport.peers key = none
  receiver : Listening ids c e config (sys.node .b).transport past ∨
    Deaf ids c e (sys.node .b).transport past

/-- The requests of the exchange. -/
structure ScopedRequest (ids : Side → UInt16) (c e : UInt32) (config : TransportConfig)
    (txData : TxData) : Prop extends PlainRequest config (ids .b) txData where
  connection : txData.connectionId = c
  epoch : txData.sessionEpoch = e

/-! ### Sends -/

/-- A node put back as it was. -/
theorem setSide_same {α : Type} (values : Side → α) (side : Side) :
    setSide values side (values side) = values := by
  funext s
  unfold setSide
  split
  · rename_i hs
    rw [hs]
  · rfl

/-- Moving a node nowhere is no step. -/
theorem System.move_nil (sys : System) (side : Side) : sys.move side (sys.node side, []) = sys := by
  unfold System.move
  rw [List.append_nil, setSide_same, setSide_same]

section Steps

variable {ids : Side → UInt16} {c e : UInt32} {config : TransportConfig} {sys : System}
  {past flying : List TxData} {greet : Bool} {acks : List UInt32} {txData : TxData}

/-- One more message on the wire. -/
theorem dataItems_snoc (first : Nat) (flying : List TxData) (txData : TxData) :
    dataItems ids c config first (flying ++ [txData])
      = dataItems ids c config first flying ++ [.data (wireScope ids c)
          (UInt32.ofNat (first + flying.length)) (travelling config txData)] := by
  unfold dataItems
  rw [List.zipIdx_append, List.map_append]
  rfl

/-- Its number behind the others. -/
theorem dataNumbers_snoc (first : Nat) (flying : List TxData) (txData : TxData) :
    dataNumbers first (flying ++ [txData])
      = dataNumbers first flying ++ [UInt32.ofNat (first + flying.length)] := by
  unfold dataNumbers
  rw [List.zipIdx_append, List.map_append]
  rfl

/-- A request of the scope selects the peer of the scope. -/
theorem ScopedRequest.peerKey_eq (hrequest : ScopedRequest ids c e config txData)
    (hscope : c ≠ 0 ∨ e ≠ 0) : txData.peerKey = scopedKey (ids .b) c e := by
  unfold TxData.peerKey
  rw [hrequest.connection, hrequest.epoch, hrequest.target, if_pos (by simpa using hscope)]

/-- A lookup of the scope finds the peer with its key. -/
theorem lookupPeer_scopedKey (peers : List PeerState) (peerId : UInt16) (c e : UInt32) :
    lookupPeer peers (scopedKey peerId c e) = peerOf peers (scopedKey peerId c e) := by
  unfold lookupPeer
  rw [if_pos (by rfl)]
  exact transportFindPeerScope_eq peers peerId c e

/-- The peer of a request fits the exchange, and it has greeted unless nothing was
sent yet. -/
theorem Exchange.selected (h : Exchange ids c e config sys past flying greet acks)
    (hscope : c ≠ 0 ∨ e ≠ 0) (hrequest : ScopedRequest ids c e config txData) {peer : PeerState}
    (hpeer : SendPeer (sys.node .a).transport txData peer) :
    SenderPeer ids c e (past ++ flying).length (acks ++ dataNumbers past.length flying) peer ∧
      (∀ key, key ≠ peer.key → peerOf (sys.node .a).transport.peers key = none) ∧
      (peer.helloSent = true ∨
        peer.helloSent = false ∧ Unopened ids sys (past ++ flying) greet acks) := by
  unfold SendPeer at hpeer
  rw [hrequest.peerKey_eq hscope, lookupPeer_scopedKey] at hpeer
  rcases h.sender with hunopened | ⟨open_, honly, hhello, hsender⟩
  · rcases hpeer with hfound | ⟨_, rfl⟩
    · rw [hunopened.sender] at hfound
      cases hfound
    · refine ⟨⟨rfl, ?_, ?_, ?_, ?_, ?_, ?_⟩, fun key _ => hunopened.sender key,
        .inr ⟨rfl, hunopened⟩⟩
      · change newSessionId (sys.node .a).transport.nextSessionId = _
        rw [hunopened.session]
        exact newSessionId_idem _
      · rw [hunopened.empty.1]
        rfl
      · intro x hx
        cases hx
      · exact Nat.zero_le _
      · intro _
        obtain ⟨hnone, _, hacks⟩ := hunopened.empty
        rw [hacks, (List.append_eq_nil_iff.mp hnone).2]
        exact .nil
      · intro _ _
        rw [hunopened.empty.1]
        rfl
  · have hsame : peer = open_ := by
      rw [← hsender.key, honly.entry] at hpeer
      rcases hpeer with hfound | ⟨hnone, _⟩
      · cases hfound
        rfl
      · cases hnone
    subst hsame
    exact ⟨hsender, honly.alone, .inl hhello⟩

/-- A step of node A, from what it did to its own peers and to the links. -/
theorem Exchange.ofSender (h : Exchange ids c e config sys past flying greet acks) {after : System}
    {transport : TransportCtx} {flying' : List TxData} {greet' : Bool} {acks' : List UInt32}
    (hnode : after.node = setSide sys.node .a { sys.node .a with transport := transport })
    (hsteady : Steady (sys.node .a).transport transport)
    (hsent : after.sent .a = (past ++ flying').map fun t => t.data.getD [])
    {peer : PeerState} (honly : OnlyPeer transport.peers peer) (hhello : peer.helloSent = true)
    (hpeer : SenderPeer ids c e (past ++ flying').length
      (acks' ++ dataNumbers past.length flying') peer)
    (htoB : List.Forall₂ (Item.Arrives (sys.node .b).network (ids .a)) (after.link .b)
      ((if greet' then [.hello (wireScope ids c)] else []) ++
        dataItems ids c config past.length flying'))
    (htoA : List.Forall₂ (Item.Arrives (sys.node .a).network (ids .b)) (after.link .a)
      (acks'.map (.ack (wireScope ids c))))
    (hfirst : greet' = true → past = [] ∧ ∀ key, peerOf (sys.node .b).transport.peers key = none) :
    Exchange ids c e config after past flying' greet' acks' := by
  have ha : after.node .a = { sys.node .a with transport := transport } := by
    rw [hnode, setSide_self]
  have hb : after.node .b = sys.node .b := by
    rw [hnode, setSide_ne _ (by decide)]
  refine ⟨fun side => ?_, ?_, hsent, .inr ⟨peer, ?_, hhello, hpeer⟩, ?_, ?_, ?_, ?_⟩
  · cases side with
    | a =>
      rw [ha]
      exact (h.calm .a).step hsteady
    | b =>
      rw [hb]
      exact h.calm .b
  · rw [ha]
    exact hsteady.config.trans h.setup
  · rw [ha]
    exact honly
  · unfold Holds
    rw [hb]
    exact htoB
  · unfold Holds
    rw [ha]
    exact htoA
  · rw [hb]
    exact hfirst
  · rw [hb]
    exact h.receiver

/-- A send that went out adds one entry and takes one number. -/
theorem SenderPeer.sent {accepted : Nat} {outstanding : List UInt32} {peer peer' : PeerState}
    (h : SenderPeer ids c e accepted outstanding peer)
    (hrequest : ScopedRequest ids c e config txData)
    (hsent : SentPeer config txData (greeted peer) peer') :
    SenderPeer ids c e (accepted + 1) (outstanding ++ [UInt32.ofNat accepted]) peer' := by
  obtain ⟨queue, deadline, now, hframe⟩ := hsent.frame
  have hqueue : contents peer'.reliableQueue.waitAckList
      = contents peer.reliableQueue.waitAckList ++ [(reliableTxPacket config (greeted peer) txData
          (travelling config txData) peer.txWindow.nextPacketNumber false []).content] :=
    hsent.queue
  have hnumbers : numbers peer'.reliableQueue.waitAckList
      = numbers peer.reliableQueue.waitAckList ++ [UInt32.ofNat accepted] := by
    unfold numbers
    rw [hqueue, List.map_append, ← h.next]
    rfl
  refine ⟨?_, ?_, ?_, ?_, ?_, ?_, ?_⟩
  · rw [hframe]
    exact h.key
  · rw [hframe]
    exact h.session
  · rw [hframe]
    change peer.txWindow.nextPacketNumber + 1 = _
    rw [h.next, UInt32.ofNat_add]
    rfl
  · intro x hx
    rw [hqueue] at hx
    rcases List.mem_append.mp hx with hold | hnew
    · exact h.targets x hold
    · rw [List.mem_singleton.mp hnew]
      exact hrequest.target
  · rw [hqueue, List.length_append]
    exact Nat.succ_le_succ h.bounded
  · intro hpass
    rw [hnumbers]
    exact (h.exact hpass).append_right _
  · intro hzero hne
    rw [hqueue, List.length_append, h.stuck hzero hne]
    rfl

/-- The greeting of a request goes in front of the first message. -/
theorem Exchange.greets (h : Exchange ids c e config sys past flying greet acks)
    (hscope : c ≠ 0 ∨ e ≠ 0) (hrequest : ScopedRequest ids c e config txData) {peer : PeerState}
    (hpeer : SendPeer (sys.node .a).transport txData peer) :
    ∃ greet' : Bool, List.Forall₂ (Item.Arrives (sys.node .b).network (ids .a))
        (sys.link .b ++ greeting (sys.node .a).transport.config txData peer)
        ((if greet' then [.hello (wireScope ids c)] else []) ++
          dataItems ids c config past.length flying) ∧
      (greet' = true → past = [] ∧ ∀ key, peerOf (sys.node .b).transport.peers key = none) := by
  obtain ⟨hsender, -, hgreeted⟩ := h.selected hscope hrequest hpeer
  have hplain : PlainRequest (sys.node .a).transport.config (ids .b) txData :=
    h.setup ▸ hrequest.toPlainRequest
  have hscope : streamOf peer.connectionId peer.sessionId = wireScope ids c := by
    rw [show peer.connectionId = c from congrArg PeerKey.connectionId hsender.key, hsender.session]
    rfl
  have hframes := greeting_arrives (h.calm .a) (h.calm .b) hplain peer
  rw [hscope] at hframes
  have htoB : List.Forall₂ (Item.Arrives (sys.node .b).network (ids .a))
      (sys.link .b ++ greeting (sys.node .a).transport.config txData peer)
      (((if greet then [.hello (wireScope ids c)] else []) ++
          dataItems ids c config past.length flying) ++
        if peer.helloSent then [] else [.hello (wireScope ids c)]) :=
    List.rel_append h.toB hframes
  rcases hgreeted with hhello | ⟨hhello, hunopened⟩
  · refine ⟨greet, ?_, h.first⟩
    rw [if_pos hhello, List.append_nil] at htoB
    exact htoB
  · obtain ⟨hnone, hgreet, -⟩ := hunopened.empty
    obtain ⟨hpast, hflying⟩ := List.append_eq_nil_iff.mp hnone
    refine ⟨true, ?_, fun _ => ⟨hpast, hunopened.receiver⟩⟩
    rw [hgreet, hflying, hhello] at htoB
    rw [hflying]
    exact htoB

/-- A request of the scope leaves the messages as they are, or puts one more on the wire. -/
theorem Exchange.send (h : Exchange ids c e config sys past flying greet acks)
    (hscope : c ≠ 0 ∨ e ≠ 0) (hrequest : ScopedRequest ids c e config txData)
    (clock : Side → Nat → UInt32) :
    ∃ more greet', (more = [] ∨ more = [txData]) ∧
      Exchange ids c e config (systemStep clock nodeReceive sys (.send .a txData)) past
        (flying ++ more) greet' acks := by
  have hplain : PlainRequest (sys.node .a).transport.config (ids .b) txData :=
    h.setup ▸ hrequest.toPlainRequest
  have hcases := nodeSend_cases (h.calm .a) (clock .a) hplain
  unfold systemStep
  dsimp only
  generalize nodeSend (clock .a) (sys.node .a) txData = out at hcases ⊢
  -- the outcomes of the peer selection
  cases hcases with
  | refused err hne =>
    refine ⟨[], greet, .inl rfl, ?_⟩
    rw [List.append_nil, System.move_nil]
    dsimp only
    rw [if_neg (by simpa using hne)]
    exact h
  | failed err hne after peer hpeer hupdate hquiet =>
    obtain ⟨hsender, halone, -⟩ := h.selected hscope hrequest hpeer
    obtain ⟨greet', htoB, hfirst⟩ := h.greets hscope hrequest hpeer
    have honly : OnlyPeer after.peers (greeted peer) :=
      ⟨hupdate.entry, fun key hkey => (hupdate.others key hkey).trans (halone key hkey)⟩
    refine ⟨[], greet', .inl rfl, ?_⟩
    rw [List.append_nil]
    refine h.ofSender rfl hquiet.toSteady ?_ honly rfl
      ⟨hsender.key, hsender.session, hsender.next, hsender.targets, hsender.bounded, hsender.exact,
        hsender.stuck⟩ htoB h.toA hfirst
    dsimp only
    rw [if_neg (by simpa using hne)]
    exact h.sent
  | sent after peer peer' hpeer hsent hupdate hquiet hpayload =>
    obtain ⟨hsender, halone, -⟩ := h.selected hscope hrequest hpeer
    obtain ⟨greet', htoB, hfirst⟩ := h.greets hscope hrequest hpeer
    have hkey : peer'.key = peer.key := by
      obtain ⟨queue, deadline, now, hframe⟩ := hsent.frame
      rw [hframe]
      rfl
    have honly : OnlyPeer after.peers peer' :=
      ⟨hupdate.entry, fun key hne => (hupdate.others key hne).trans (halone key (hkey ▸ hne))⟩
    have hhello : peer'.helloSent = true := by
      obtain ⟨queue, deadline, now, hframe⟩ := hsent.frame
      rw [hframe]
      rfl
    have harrives := dataPacket_arrives (h.calm .a) (h.calm .b) hplain peer hpayload
    rw [hrequest.connection, hsender.session, hsender.next, h.setup] at harrives
    refine ⟨[txData], greet', .inr rfl, ?_⟩
    refine h.ofSender rfl hquiet.toSteady ?_ honly hhello ?_ ?_ h.toA hfirst
    · dsimp only
      rw [if_pos (by rfl), setSide_self, ← List.append_assoc, List.map_append]
      exact congrArg (· ++ _) h.sent
    · rw [h.setup] at hsent
      have hpeer' := hsender.sent hrequest hsent
      rw [List.length_append] at hpeer'
      rw [dataNumbers_snoc, ← List.append_assoc, ← List.append_assoc, List.length_append,
        List.length_append]
      exact hpeer'
    · rw [List.length_append] at harrives
      have hall : List.Forall₂ (Item.Arrives (sys.node .b).network (ids .a))
          ((sys.link .b ++ greeting (sys.node .a).transport.config txData peer) ++
            [wireFrame (dataPacket config txData peer) (dataExtensions txData.dataType)])
          (((if greet' then [.hello (wireScope ids c)] else []) ++
              dataItems ids c config past.length flying) ++
            [.data (wireScope ids c) (UInt32.ofNat (past.length + flying.length))
              (travelling config txData)]) :=
        List.rel_append htoB (.cons harrives .nil)
      rw [List.append_assoc, List.append_assoc, ← h.setup] at hall
      rw [dataItems_snoc, ← h.setup]
      exact hall

/-! ### Arrivals at node B -/

/-- A packet with a connection selects the peer of its connection, without an epoch. -/
theorem Arrived.peerKey_eq {q : Packet} {source : UInt16} {connection : UInt32}
    (h : Arrived q source connection) (hconnection : connection ≠ 0) :
    q.scoped = true ∧ q.peerKey = scopedKey source connection 0 := by
  have hscoped : q.scoped = true := by
    unfold Packet.scoped
    rw [h.connectionId]
    simp [hconnection]
  refine ⟨hscoped, ?_⟩
  unfold Packet.peerKey
  rw [if_pos hscoped, h.sourceId, h.connectionId, h.sessionEpoch]

/-- The session id of node A is one the ordering of node B keeps. -/
theorem AcksPass.masked (h : AcksPass ids c e) (hzero : wireSession ids c ≠ 0) :
    wireSession ids c &&& XGL_SESSION_ID_MASK = wireSession ids c := by
  rw [h.2.resolve_left hzero]
  exact (newSessionId_masked _).1

/-- Before anything has arrived, a HELLO leaves the receiver in order. -/
theorem Listening.hello {ctx after : TransportCtx} {q : Packet}
    (h : Listening ids c e config ctx []) (hnone : ∀ key, peerOf ctx.peers key = none)
    (hq : HelloArrival q (ids .a) (wireScope ids c)) (heffect : ControlEffect ctx q after)
    (hquiet : Quiet ctx after) : Listening ids c e config after [] := by
  obtain ⟨hscoped, hkey⟩ := hq.toArrived.peerKey_eq (wireScope_ne_zero ids c)
  have hlook : lookupPeer ctx.peers q.peerKey = none := by
    rw [lookupPeer_scoped hscoped]
    exact hnone _
  suffices hpeers : ∀ peer, peerOf after.peers (arrivalKey ids c) = some peer →
      peer.rxBuffered = [] ∧ (rxOrderInit peer).rxNextPacketNumber = 0 ∧
        (AcksPass ids c e → wireSession ids c = 0 ∨ wireSession ids c = peer.sessionId) from
    ⟨fun peer hpeer => ⟨(hpeers peer hpeer).1, (hpeers peer hpeer).2.1⟩, fun _ => rfl,
      fun hpass peer hpeer => (hpeers peer hpeer).2.2 hpass,
      hquiet.deliveries.trans h.deliveries⟩
  intro peer hpeer
  -- the receiver had no peer, so the one it has now is new
  cases heffect with
  | refused session io hevents =>
    rw [show peerOf ctx.peers (arrivalKey ids c) = none from hnone _] at hpeer
    cases hpeer
  | reset hsid old hfound hreset now io hevents =>
    rw [hlook] at hfound
    cases hfound
  | established hsid old hfound hsession now io hevents =>
    rw [hlook] at hfound
    cases hfound
  | created hsid hfound window hwindow manager now io new hevents hnew hsize =>
    have hnewKey : new.key = arrivalKey ids c := by
      rcases hnew with hreset | ⟨hsame, hestablished⟩
      · rw [hreset]
        exact (freshPeer_key ctx q).trans hkey
      · rw [hestablished]
        exact (freshPeer_key ctx q).trans hkey
    rw [peerOf_cons, if_pos hnewKey] at hpeer
    cases hpeer
    have hsession : AcksPass ids c e →
        wireSession ids c = 0 ∨ wireSession ids c = q.sessionId &&& XGL_SESSION_ID_MASK := by
      intro hpass
      rw [hq.sessionId]
      exact or_iff_not_imp_left.mpr fun hzero => (hpass.masked hzero).symm
    rcases hnew with hreset | ⟨hsame, hestablished⟩
    · rw [hreset]
      refine ⟨rfl, rfl, fun hpass => ?_⟩
      change _ ∨ _ = q.sessionId &&& XGL_SESSION_ID_MASK &&& XGL_SESSION_ID_MASK
      rw [UInt16.and_assoc, UInt16.and_self]
      exact hsession hpass
    · rw [hestablished]
      refine ⟨rfl, rfl, fun hpass => ?_⟩
      change _ ∨ _ = (freshPeer ctx q.peerKey).sessionId
      rw [hsame]
      exact hsession hpass

/-- The peer of a message that arrives in order expects just that message. -/
theorem Listening.next {ctx selected : TransportCtx} {q : Packet} {peer : PeerState}
    (h : Listening ids c e config ctx past) (hq : Arrived q (ids .a) (wireScope ids c))
    (hsel : RxSelected ctx q selected peer) :
    peer.rxBuffered = [] ∧ (rxOrderInit peer).rxNextPacketNumber = UInt32.ofNat past.length := by
  obtain ⟨hscoped, hkey⟩ := hq.peerKey_eq (wireScope_ne_zero ids c)
  obtain ⟨-, ⟨old, now, hold, rfl⟩ | ⟨hnone, hnext, hstate, hbuffered⟩⟩ :=
    hsel.scoped_cases hscoped
  · rw [hkey] at hold
    obtain ⟨hbuffered, hnext⟩ := h.order old hold
    refine ⟨hbuffered, ?_⟩
    rw [← hnext]
    unfold rxOrderInit
    dsimp only
    split <;> rfl
  · rw [hkey] at hnone
    refine ⟨hbuffered, ?_⟩
    rw [h.fresh hnone]
    unfold rxOrderInit
    rw [if_neg (by simp [hstate])]
    rfl

/-- When the sessions agree, the peer that takes a message has the session of the wire. -/
theorem RxSelected.session_eq {ctx selected : TransportCtx} {q : Packet} {peer : PeerState}
    (hsel : RxSelected ctx q selected peer) (hq : Arrived q (ids .a) (wireScope ids c))
    (hpass : AcksPass ids c e) :
    wireSession ids c = 0 ∨ wireSession ids c = peer.sessionId := by
  have hsession : q.sessionId = wireSession ids c := hq.sessionId
  cases hsel with
  | found old hlook hsame now io hevents =>
    rw [hsession] at hsame
    exact hsame
  | created hlook hne now io hevents hsize =>
    refine or_iff_not_imp_left.mpr fun hzero => ?_
    change _ = q.sessionId &&& XGL_SESSION_ID_MASK
    rw [hsession, hpass.masked hzero]
  | createdBare hlook hzero io hevents hsize =>
    rw [hsession] at hzero
    exact .inl hzero

/-- A message that was taken is the next delivery. -/
theorem Listening.taken {ctx selected after : TransportCtx} {q : Packet} {peer : PeerState}
    (h : Listening ids c e config ctx past)
    (hq : DataArrival q (ids .a) (wireScope ids c) (UInt32.ofNat past.length)
      (travelling config txData))
    (hsel : RxSelected ctx q selected peer)
    (hupdate : PeerUpdate ctx.peers after.peers
      { rxOrderInit peer with rxNextPacketNumber := q.packetNumber + 1 })
    (hdelivered : rxDeliveries after.io.events
      = rxDeliveries ctx.io.events ++ [(q.peerKey, travelling config txData)]) :
    Listening ids c e config after (past ++ [txData]) := by
  obtain ⟨hscoped, hkey⟩ := hq.toArrived.peerKey_eq (wireScope_ne_zero ids c)
  have hentry := hupdate.entry
  rw [show PeerState.key { rxOrderInit peer with rxNextPacketNumber := q.packetNumber + 1 }
    = arrivalKey ids c from (rxOrderInit_key peer).trans
      ((hsel.scoped_cases hscoped).1.trans hkey)] at hentry
  refine ⟨fun other hother => ?_, fun hnone => ?_, fun hpass other hother => ?_, ?_⟩
  · cases hentry.symm.trans hother
    refine ⟨?_, ?_⟩
    · change (rxOrderInit peer).rxBuffered = []
      unfold rxOrderInit
      split <;> exact (h.next hq.toArrived hsel).1
    · have hstate : (rxOrderInit peer).rxHasPacketNumberState = true := by
        unfold rxOrderInit
        split
        · assumption
        · rfl
      unfold rxOrderInit at hstate ⊢
      dsimp only
      rw [if_pos hstate, hq.packetNumber, List.length_append, UInt32.ofNat_add]
      rfl
  · rw [hnone] at hentry
    cases hentry
  · cases hentry.symm.trans hother
    change _ ∨ _ = (rxOrderInit peer).sessionId
    rw [show (rxOrderInit peer).sessionId = peer.sessionId by unfold rxOrderInit; split <;> rfl]
    exact hsel.session_eq hq.toArrived hpass
  · rw [hdelivered, h.deliveries, hkey, List.map_append]
    rfl

/-- A deaf receiver selects no peer. -/
theorem Deaf.selects_none {ctx selected : TransportCtx} {q : Packet} {peer : PeerState}
    (h : Deaf ids c e ctx past) (hq : Arrived q (ids .a) (wireScope ids c))
    (hsel : RxSelected ctx q selected peer) : False := by
  obtain ⟨old, hold, hzero, hne⟩ := h.entry
  obtain ⟨hscoped, hkey⟩ := hq.peerKey_eq (wireScope_ne_zero ids c)
  have hsession : q.sessionId = wireSession ids c := hq.sessionId
  have hfound : lookupPeer ctx.peers q.peerKey = some old := by
    rw [lookupPeer_scoped hscoped, hkey]
    exact hold
  cases hsel with
  | found found hlook hsame now io hevents =>
    cases hfound.symm.trans hlook
    rw [hsession] at hsame
    exact hsame.elim hzero hne
  | created hlook hother now io hevents hsize =>
    rw [hfound] at hlook
    cases hlook
  | createdBare hlook hother io hevents hsize =>
    rw [hfound] at hlook
    cases hlook

/-- A message that was refused leaves the receiver deaf. -/
theorem Deaf.refused {ctx after : TransportCtx} {q : Packet} {peer : PeerState}
    (h : Listening ids c e config ctx past ∨ Deaf ids c e ctx past)
    (hq : Arrived q (ids .a) (wireScope ids c))
    (hlook : lookupPeer ctx.peers q.peerKey = some peer)
    (hsession : q.sessionId ≠ 0 ∧ q.sessionId ≠ peer.sessionId) (hpeers : after.peers = ctx.peers)
    (hquiet : Quiet ctx after) : Deaf ids c e after (past ++ [txData]) := by
  obtain ⟨hscoped, hkey⟩ := hq.peerKey_eq (wireScope_ne_zero ids c)
  rw [lookupPeer_scoped hscoped, hkey] at hlook
  rw [show q.sessionId = wireSession ids c from hq.sessionId] at hsession
  refine ⟨⟨peer, hpeers ▸ hlook, hsession⟩, fun hpass => ?_, by simp, fun x hx => ?_⟩
  · rcases h with hlistening | hdeaf
    · exact (hlistening.session hpass peer hlook).elim hsession.1 hsession.2
    · exact hdeaf.blocked hpass
  · rw [hquiet.deliveries] at hx
    rcases h with hlistening | hdeaf
    · rw [hlistening.deliveries] at hx
      obtain ⟨t, -, rfl⟩ := List.mem_map.mp hx
      rfl
    · exact hdeaf.deliveries x hx

/-! ### Deliveries -/

/-- A delivery takes the first frame off a link and gives it to the node there. -/
theorem systemStep_deliver (clock : Side → Nat → UInt32) (side : Side) {frame : Bytes}
    {rest : List Bytes} (hlink : sys.link side = frame :: rest) :
    let received := nodeReceive (clock side) (sys.node side) frame
    let after := systemStep clock nodeReceive sys (.deliver side)
    after.node = setSide sys.node side received.2.1 ∧ after.sent = sys.sent ∧
      after.link side = rest ∧
      after.link side.other = sys.link side.other ++ received.2.2 := by
  intro received after
  have hafter : after = { sys with
      link := setSide sys.link side rest
      processed := setSide sys.processed side
        (sys.processed side ++ [(frame, received.1)]) }.move side received.2 := by
    unfold after systemStep
    dsimp only
    rw [hlink]
  rw [hafter]
  refine ⟨rfl, rfl, ?_, ?_⟩
  · unfold System.move
    dsimp only
    rw [setSide_ne _ (Ne.symm side.other_ne), setSide_self]
  · unfold System.move
    dsimp only
    rw [setSide_self, setSide_other]

/-- While a frame is on the way, node A has its peer. -/
theorem Exchange.opened (h : Exchange ids c e config sys past flying greet acks)
    (hpending : greet = true ∨ flying ≠ [] ∨ acks ≠ []) :
    ∃ peer, OnlyPeer (sys.node .a).transport.peers peer ∧ peer.helloSent = true ∧
      SenderPeer ids c e (past ++ flying).length (acks ++ dataNumbers past.length flying) peer := by
  rcases h.sender with hunopened | hopened
  · obtain ⟨hnone, hgreet, hacks⟩ := hunopened.empty
    rcases hpending with htrue | hflying | hne
    · rw [hgreet] at htrue
      cases htrue
    · exact absurd (List.append_eq_nil_iff.mp hnone).2 hflying
    · exact absurd hacks hne
  · exact hopened

/-- A step of node B, from what it did to its own peers and to the links. -/
theorem Exchange.ofReceiver (h : Exchange ids c e config sys past flying greet acks)
    {after : System} {transport : TransportCtx} {past' flying' : List TxData} {acks' : List UInt32}
    (hnode : after.node = setSide sys.node .b { sys.node .b with transport := transport })
    (hsent : after.sent = sys.sent) (hsteady : Steady (sys.node .b).transport transport)
    (hpending : greet = true ∨ flying ≠ []) (hall : past' ++ flying' = past ++ flying)
    (hnumbers : AcksPass ids c e →
      acks' ++ dataNumbers past'.length flying' = acks ++ dataNumbers past.length flying)
    (htoB : List.Forall₂ (Item.Arrives (sys.node .b).network (ids .a)) (after.link .b)
      (dataItems ids c config past'.length flying'))
    (htoA : List.Forall₂ (Item.Arrives (sys.node .a).network (ids .b)) (after.link .a)
      (acks'.map (.ack (wireScope ids c))))
    (hreceiver : Listening ids c e config transport past' ∨ Deaf ids c e transport past') :
    Exchange ids c e config after past' flying' false acks' := by
  have ha : after.node .a = sys.node .a := by
    rw [hnode, setSide_ne _ (by decide)]
  have hb : after.node .b = { sys.node .b with transport := transport } := by
    rw [hnode, setSide_self]
  obtain ⟨peer, honly, hhello, hpeer⟩ := h.opened (or_assoc.mp (.inl hpending))
  refine ⟨fun side => ?_, ?_, ?_, .inr ⟨peer, ?_, hhello, ?_⟩, ?_, ?_,
    fun hfalse => absurd hfalse Bool.false_ne_true, ?_⟩
  · cases side with
    | a =>
      rw [ha]
      exact h.calm .a
    | b =>
      rw [hb]
      exact (h.calm .b).step hsteady
  · rw [ha]
    exact h.setup
  · rw [hsent, hall]
    exact h.sent
  · rw [ha]
    exact honly
  · rw [hall]
    exact ⟨hpeer.key, hpeer.session, hpeer.next, hpeer.targets, hpeer.bounded,
      fun hpass => (hpeer.exact hpass).trans (.of_eq (hnumbers hpass).symm), hpeer.stuck⟩
  · unfold Holds
    rw [hb]
    exact htoB
  · unfold Holds
    rw [ha]
    exact htoA
  · rw [hb]
    exact hreceiver

/-- What is on the wire, each frame to node B with its answer. -/
def pending (greet : Bool) (flying : List TxData) (acks : List UInt32) : Nat :=
  2 * (greet.toNat + flying.length) + acks.length

/-- The HELLO arrives. -/
theorem Exchange.deliverHello (h : Exchange ids c e config sys past flying true acks)
    (clock : Side → Nat → UInt32) :
    Exchange ids c e config (systemStep clock nodeReceive sys (.deliver .b)) past flying false
      acks := by
  obtain ⟨frame, rest, hq, hrest, hlink⟩ := List.forall₂_cons_right_iff.mp h.toB
  obtain ⟨q, hup, hhello⟩ := hq
  obtain ⟨hnode, hsent, hself, hother⟩ := systemStep_deliver clock .b hlink
  obtain ⟨after, hreceived, heffect, hquiet⟩ := nodeReceive_hello (clock .b) hup hhello
  rw [hreceived] at hnode hother
  obtain ⟨hpast, hnone⟩ := h.first rfl
  subst hpast
  have hlistening : Listening ids c e config (sys.node .b).transport [] := by
    rcases h.receiver with hlistening | hdeaf
    · exact hlistening
    · exact absurd rfl hdeaf.late
  refine h.ofReceiver hnode hsent hquiet.toSteady (.inl rfl) rfl (fun _ => rfl) ?_ ?_
    (.inl (hlistening.hello hnone hhello heffect hquiet))
  · rw [hself]
    exact hrest
  · change List.Forall₂ _ ((systemStep clock nodeReceive sys (.deliver .b)).link Side.b.other) _
    rw [hother, List.append_nil]
    exact h.toA

/-- The next message arrives. -/
theorem Exchange.deliverData (h : Exchange ids c e config sys past (txData :: flying) false acks)
    (clock : Side → Nat → UInt32) :
    ∃ more, (more = [] ∨ more = [UInt32.ofNat past.length]) ∧
      Exchange ids c e config (systemStep clock nodeReceive sys (.deliver .b)) (past ++ [txData])
        flying false (acks ++ more) := by
  have hitems : dataItems ids c config past.length (txData :: flying)
      = .data (wireScope ids c) (UInt32.ofNat past.length) (travelling config txData) ::
        dataItems ids c config (past ++ [txData]).length flying := by
    rw [List.length_append]
    rfl
  have htoB : List.Forall₂ (Item.Arrives (sys.node .b).network (ids .a)) (sys.link .b)
      (.data (wireScope ids c) (UInt32.ofNat past.length) (travelling config txData) ::
        dataItems ids c config (past ++ [txData]).length flying) :=
    hitems ▸ h.toB
  obtain ⟨frame, rest, ⟨q, hup, hq⟩, hrest, hlink⟩ := List.forall₂_cons_right_iff.mp htoB
  obtain ⟨hnode, hsent, hself, hother⟩ := systemStep_deliver clock .b hlink
  have hall : past ++ [txData] ++ flying = past ++ txData :: flying := by simp
  have hnumbers : UInt32.ofNat past.length :: dataNumbers (past ++ [txData]).length flying
      = dataNumbers past.length (txData :: flying) := by
    rw [List.length_append]
    rfl
  have hcases := nodeReceive_data (h.calm .b) (clock .b) hup hq fun selected peer hsel => by
    -- a receiver in order takes the message, a deaf one refuses it
    rcases h.receiver with hlistening | hdeaf
    · obtain ⟨hbuffered, hnext⟩ := hlistening.next hq.toArrived hsel
      exact ⟨hbuffered, hq.packetNumber.trans hnext.symm⟩
    · exact (hdeaf.selects_none hq.toArrived hsel).elim
  generalize nodeReceive (clock .b) (sys.node .b) frame = received at hcases hnode hother
  cases hcases with
  | refused peer hlook hsession err after hpeers hquiet =>
    have hdeaf : Deaf ids c e after (past ++ [txData]) :=
      Deaf.refused h.receiver hq.toArrived hlook hsession hpeers hquiet
    refine ⟨[], .inl rfl, h.ofReceiver hnode hsent hquiet.toSteady (.inr (by simp)) hall
      (fun hpass => (hdeaf.blocked hpass).elim) ?_ ?_ (.inr hdeaf)⟩
    · rw [hself]
      exact hrest
    · change List.Forall₂ _ ((systemStep clock nodeReceive sys (.deliver .b)).link Side.b.other) _
      rw [hother, List.append_nil, List.append_nil]
      exact h.toA
  | taken selected peer hsel after hupdate hsteady hdelivered =>
    have hlistening : Listening ids c e config (sys.node .b).transport past := by
      rcases h.receiver with hlistening | hdeaf
      · exact hlistening
      · exact (hdeaf.selects_none hq.toArrived hsel).elim
    have harrives := ackPacket_arrives (h.calm .b) (h.calm .a) hq.sourceId
      (hq.connectionId.symm ▸ wireScope_ne_zero ids c)
    rw [hq.connectionId, hq.packetNumber] at harrives
    refine ⟨[UInt32.ofNat past.length], .inr rfl, h.ofReceiver hnode hsent hsteady (.inr (by simp))
      hall (fun _ => ?_) ?_ ?_ (.inl (hlistening.taken hq hsel hupdate hdelivered))⟩
    · rw [← hnumbers, List.append_assoc]
      rfl
    · rw [hself]
      exact hrest
    · change List.Forall₂ _ ((systemStep clock nodeReceive sys (.deliver .b)).link Side.b.other) _
      rw [hother, List.map_append, hq.packetNumber]
      exact List.rel_append h.toA (.cons harrives .nil)

/-! ### ACKs -/

/-- Unlinking a number takes it out of the numbers. -/
theorem numbers_reliableUnlink {n : UInt32} {targetId : UInt16} {queue : List ReliablePacket}
    (htargets : ∀ x ∈ contents queue, x.targetId = targetId) :
    (numbers (reliableUnlink n targetId queue)).Perm ((numbers queue).erase n) := by
  have hnumbers : ∀ packets : List ReliablePacket,
      numbers packets = packets.map ReliablePacket.packetNumber := by
    intro packets
    unfold numbers contents
    rw [List.map_map]
    rfl
  have herase : ∀ packets : List ReliablePacket, (∀ x ∈ packets, x.targetId = targetId) →
      (packets.eraseP fun packet => packet.isFor n targetId).map ReliablePacket.packetNumber
        = (packets.map ReliablePacket.packetNumber).erase n := by
    intro packets
    induction packets with
    | nil => exact fun _ => rfl
    | cons first rest ih =>
      intro hall
      have htarget : first.targetId = targetId := hall first List.mem_cons_self
      have hrest := ih fun x hx => hall x (List.mem_cons_of_mem _ hx)
      have hfits : first.isFor n targetId = (first.packetNumber == n) := by
        simp [ReliablePacket.isFor, htarget]
      rw [List.map_cons, List.erase_cons, List.eraseP_cons, hfits]
      cases first.packetNumber == n with
      | true => rfl
      | false => exact congrArg (first.packetNumber :: ·) hrest
  have hall : ∀ x ∈ queue.reverse, x.targetId = targetId := by
    intro x hx
    exact htargets x.content (List.mem_map_of_mem (List.mem_reverse.mp hx))
  rw [hnumbers, hnumbers, reliableUnlink, List.map_reverse, herase _ hall, List.map_reverse]
  exact (List.reverse_perm _).trans ((List.reverse_perm _).erase n)

/-- An ACK of one number takes it off the outstanding ones. -/
theorem SenderPeer.acked {accepted : Nat} {n : UInt32} {rest : List UInt32} {peer peer' : PeerState}
    (h : SenderPeer ids c e accepted (n :: rest) peer) (hacked : AckedPeer n (ids .b) peer peer')
    (hsession : wireSession ids c = 0 ∨ wireSession ids c = peer.sessionId) :
    SenderPeer ids c e accepted rest peer' := by
  obtain ⟨window, queue, deadline, hframe⟩ := hacked.frame
  have hshrinks := hacked.queue ▸
    reliableUnlink_shrinks n (ids .b) peer.reliableQueue.waitAckList
  refine ⟨?_, ?_, hacked.next.trans h.next, fun x hx => h.targets x (hshrinks.sub.subset hx),
    hshrinks.sub.length_le.trans h.bounded, fun hpass => ?_, fun hzero hne => ?_⟩
  · rw [hframe]
    exact h.key
  · rw [hframe]
    exact h.session
  · rw [hacked.queue]
    have herased := (h.exact hpass).erase n
    rw [List.erase_cons_head] at herased
    exact (numbers_reliableUnlink h.targets).trans herased
  · exact (hsession.elim hzero fun hsame => hne (hsame.trans h.session)).elim

/-- Under sessions that agree, an ACK finds the peer of the sender. -/
theorem AcksPass.finds (hpass : AcksPass ids c e) (hscope : c ≠ 0 ∨ e ≠ 0)
    {peers : List PeerState} {peer : PeerState} (hentry : peerOf peers peer.key = some peer)
    (hkey : peer.key = scopedKey (ids .b) c e) {q : Packet}
    (hq : Arrived q (ids .b) (wireScope ids c)) : transportFindAckPeer peers q = some peer := by
  have hconnection : c ≠ 0 := hscope.resolve_right fun hne => hne hpass.1
  have hwire : wireScope ids c = c := by
    unfold wireScope streamOf
    rw [if_pos (by simpa using hconnection)]
  have hfind : transportFindPeerScope peers q.sourceId q.connectionId q.sessionEpoch
      = some peer := by
    rw [transportFindPeerScope_eq, hq.sourceId, hq.connectionId, hq.sessionEpoch, hwire,
      ← hpass.1, ← hkey]
    exact hentry
  unfold transportFindAckPeer
  rw [if_pos (hq.peerKey_eq (wireScope_ne_zero ids c)).1, hfind]

/-- The next ACK arrives. -/
theorem Exchange.deliverAck {n : UInt32}
    (h : Exchange ids c e config sys past flying greet (n :: acks)) (hscope : c ≠ 0 ∨ e ≠ 0)
    (clock : Side → Nat → UInt32) :
    Exchange ids c e config (systemStep clock nodeReceive sys (.deliver .a)) past flying greet
      acks := by
  obtain ⟨frame, rest, ⟨q, hup, hq⟩, hrest, hlink⟩ := List.forall₂_cons_right_iff.mp h.toA
  obtain ⟨hnode, hsent, hself, hother⟩ := systemStep_deliver clock .a hlink
  obtain ⟨peer, honly, hhello, hpeer⟩ := h.opened (.inr (.inr (by simp)))
  have hcases := nodeReceive_ack (clock .a) hup hq
  have hsession : q.sessionId = wireSession ids c := hq.sessionId
  have htoB : (systemStep clock nodeReceive sys (.deliver .a)).link .b
      = sys.link .b ++ (nodeReceive (clock .a) (sys.node .a) frame).2.2 := hother
  generalize nodeReceive (clock .a) (sys.node .a) frame = received at hcases hnode htoB
  cases hcases with
  | ignored hwhy err =>
    rw [List.append_nil] at htoB
    refine h.ofSender hnode (.refl _) (by rw [hsent]; exact h.sent) honly hhello
      ⟨hpeer.key, hpeer.session, hpeer.next, hpeer.targets, hpeer.bounded, fun hpass => ?_,
        hpeer.stuck⟩ (by rw [htoB]; exact h.toB) (by rw [hself]; exact hrest) h.first
    -- only a foreign session ignores an ACK
    obtain ⟨hzero, hne⟩ := hwhy peer (hpass.finds hscope honly.entry hpeer.key hq.toArrived)
    rw [hsession] at hzero hne
    exact (hpass.2.elim hzero fun hsame => hne (hsame.trans hpeer.session.symm)).elim
  | applied found hfind hpasses err after peer' hacked hupdate hquiet =>
    rw [List.append_nil] at htoB
    have hfound := peerOf_of_transportFindAckPeer hfind
    have hsame : found = peer := by
      -- node A has no other peer that the ACK could find
      by_cases hkey : found.key = peer.key
      · rw [hkey, honly.entry] at hfound
        cases hfound
        rfl
      · rw [honly.alone _ hkey] at hfound
        cases hfound
    subst hsame
    rw [hq.sourceId] at hacked
    rw [hsession] at hpasses
    obtain ⟨window, queue, deadline, hframe⟩ := hacked.frame
    have hkey : peer'.key = found.key := by
      rw [hframe]
      rfl
    refine h.ofSender hnode hquiet.toSteady (by rw [hsent]; exact h.sent)
      ⟨hupdate.entry, fun key hne => (hupdate.others key hne).trans (honly.alone key (hkey ▸ hne))⟩
      (by rw [hframe]; exact hhello) (hpeer.acked hacked hpasses) (by rw [htoB]; exact h.toB)
      (by rw [hself]; exact hrest) h.first

/-! ### Runs -/

/-- A delivery brings the exchange nearer to its end. -/
theorem Exchange.deliver (h : Exchange ids c e config sys past flying greet acks)
    (hscope : c ≠ 0 ∨ e ≠ 0) (clock : Side → Nat → UInt32) {side : Side}
    (hlink : sys.link side ≠ []) :
    ∃ past' flying' greet' acks',
      Exchange ids c e config (systemStep clock nodeReceive sys (.deliver side)) past' flying'
        greet' acks' ∧
      past' ++ flying' = past ++ flying ∧
      pending greet' flying' acks' < pending greet flying acks := by
  cases side with
  | a =>
    cases acks with
    | nil => exact absurd (List.forall₂_nil_right_iff.mp h.toA) hlink
    | cons n acks =>
      refine ⟨past, flying, greet, acks, h.deliverAck hscope clock, rfl, ?_⟩
      unfold pending
      rw [List.length_cons]
      omega
  | b =>
    cases greet with
    | true =>
      refine ⟨past, flying, false, acks, h.deliverHello clock, rfl, ?_⟩
      unfold pending
      rw [Bool.toNat_true, Bool.toNat_false]
      omega
    | false =>
      cases flying with
      | nil => exact absurd (List.forall₂_nil_right_iff.mp h.toB) hlink
      | cons txData flying =>
        obtain ⟨more, hmore, hafter⟩ := h.deliverData clock
        refine ⟨past ++ [txData], flying, false, acks ++ more, hafter, by simp, ?_⟩
        unfold pending
        rw [List.length_cons, List.length_append]
        rcases hmore with rfl | rfl
        · rw [List.length_nil]
          omega
        · rw [List.length_singleton]
          omega

end Steps

/-- What can happen in an exchange: node A makes a request of the scope, whose payload travels as
it is, or a frame arrives. -/
def ExchangeAction (ids : Side → UInt16) (c e : UInt32) (config : TransportConfig) :
    SystemAction → Prop
  | .send .a txData => ScopedRequest ids c e config txData ∧ txData.compressionId = 0
  | .deliver _ => True
  | _ => False

/-- Both links are empty. -/
def Complete (sys : System) : Prop :=
  ∀ side, sys.link side = []

/-- Node B was handed every payload once and in order by the peer of the scope, and node A waits for
no ACK of it. -/
def ExchangeKept (ids : Side → UInt16) (c e : UInt32) (sys : System) : Prop :=
  rxDeliveries (sys.node .b).transport.io.events
      = (sys.sent .a).map (fun payload => (scopedKey (ids .a) c e, payload)) ∧
    ∀ peer, peerOf (sys.node .a).transport.peers (scopedKey (ids .b) c e) = some peer →
      peer.reliableQueue.waitAckList = []

/-- A state of an exchange, with the messages so far. -/
def Exchanging (ids : Side → UInt16) (c e : UInt32) (config : TransportConfig) (sys : System)
    (past flying : List TxData) (greet : Bool) (acks : List UInt32) : Prop :=
  Exchange ids c e config sys past flying greet acks ∧
    ∀ t ∈ past ++ flying, t.compressionId = 0

section Run

variable {ids : Side → UInt16} {c e : UInt32} {config : TransportConfig} {sys : System}
  {past flying : List TxData} {greet : Bool} {acks : List UInt32}

/-- Nothing happens to an empty link. -/
theorem systemStep_deliver_nil (clock : Side → Nat → UInt32) {side : Side}
    (hlink : sys.link side = []) : systemStep clock nodeReceive sys (.deliver side) = sys := by
  unfold systemStep
  dsimp only
  rw [hlink]

/-- One step of an exchange. -/
theorem exchanging_step (hscope : c ≠ 0 ∨ e ≠ 0) (clock : Side → Nat → UInt32)
    {action : SystemAction} (haction : ExchangeAction ids c e config action)
    (h : ∃ past flying greet acks, Exchanging ids c e config sys past flying greet acks) :
    ∃ past flying greet acks, Exchanging ids c e config (systemStep clock nodeReceive sys action)
      past flying greet acks := by
  obtain ⟨past, flying, greet, acks, hexchange, hplain⟩ := h
  cases action with
  | send side txData =>
    cases side with
    | a =>
      obtain ⟨hrequest, hcompression⟩ := haction
      obtain ⟨more, greet', hmore, hafter⟩ := hexchange.send hscope hrequest clock
      refine ⟨past, flying ++ more, greet', acks, hafter, fun t ht => ?_⟩
      rw [← List.append_assoc] at ht
      rcases List.mem_append.mp ht with hold | hnew
      · exact hplain t hold
      · rcases hmore with rfl | rfl
        · cases hnew
        · rw [List.mem_singleton.mp hnew]
          exact hcompression
    | b => exact haction.elim
  | deliver side =>
    by_cases hlink : sys.link side = []
    · rw [systemStep_deliver_nil clock hlink]
      exact ⟨past, flying, greet, acks, hexchange, hplain⟩
    · obtain ⟨past', flying', greet', acks', hafter, hall, -⟩ :=
        hexchange.deliver hscope clock hlink
      exact ⟨past', flying', greet', acks', hafter, hall ▸ hplain⟩
  | run side currentTimeMs => exact haction.elim

/-- Two nodes just joined can start an exchange. -/
theorem exchanging_start (hstart : Joined sys ids)
    (hconfig : (sys.node .a).transport.config = config) :
    Exchanging ids c e config sys [] [] false [] := by
  have hpeers : ∀ side, (sys.node side).transport.peers = [] :=
    fun side => (xglTransportInit_ok (hstart.init side)).1
  have hnone : ∀ side key, peerOf (sys.node side).transport.peers key = none := by
    intro side key
    rw [hpeers side]
    rfl
  have hsession : (sys.node .a).transport.nextSessionId = senderSession ids := by
    rw [(xglTransportInit_ok (hstart.init .a)).2.2, (hstart.calm .a).transportId]
    rfl
  refine ⟨⟨hstart.calm, hconfig, hstart.sent .a, .inl ⟨hnone .a, hsession, hnone .b, rfl, rfl, rfl⟩,
    ?_, ?_, fun hfalse => absurd hfalse Bool.false_ne_true, .inl ⟨fun peer hpeer => ?_,
      fun _ => rfl, fun _ peer hpeer => ?_, ?_⟩⟩, fun t ht => absurd ht List.not_mem_nil⟩
  · unfold Holds
    rw [hstart.link]
    exact .nil
  · unfold Holds
    rw [hstart.link]
    exact .nil
  · rw [hnone] at hpeer
    cases hpeer
  · rw [hnone] at hpeer
    cases hpeer
  · rw [(xglTransportInit_ok (hstart.init .b)).2.1]
    rfl

/-- An exchange can always be completed by deliveries. The induction is on the frames that are still
to be answered. -/
theorem Exchange.completes (h : Exchange ids c e config sys past flying greet acks)
    (hscope : c ≠ 0 ∨ e ≠ 0) (clock : Side → Nat → UInt32) (n : Nat)
    (hn : pending greet flying acks = n) :
    ∃ deliveries : List SystemAction, (∀ action ∈ deliveries, ∃ side, action = .deliver side) ∧
      Complete (runSystem clock nodeReceive deliveries sys) := by
  induction n using Nat.strongRecOn generalizing sys past flying greet acks with
  | ind n ih =>
    by_cases hdone : Complete sys
    · exact ⟨[], fun _ hmem => absurd hmem List.not_mem_nil, hdone⟩
    · unfold Complete at hdone
      push Not at hdone
      obtain ⟨side, hlink⟩ := hdone
      obtain ⟨past', flying', greet', acks', hafter, -, hless⟩ := h.deliver hscope clock hlink
      obtain ⟨deliveries, hdeliveries, hcomplete⟩ := ih _ (hn ▸ hless) hafter rfl
      refine ⟨.deliver side :: deliveries, fun action hmem => ?_, hcomplete⟩
      rcases List.mem_cons.mp hmem with rfl | hrest
      · exact ⟨side, rfl⟩
      · exact hdeliveries action hrest

/-- While the sessions agree, node B has been handed what has arrived. -/
theorem Exchanging.delivered (h : Exchanging ids c e config sys past flying greet acks)
    (hscope : c ≠ 0 ∨ e ≠ 0) (hpass : AcksPass ids c e) :
    rxDeliveries (sys.node .b).transport.io.events
      = past.map fun t => (scopedKey (ids .a) c e, t.data.getD []) := by
  have hlistening : Listening ids c e config (sys.node .b).transport past := by
    rcases h.1.receiver with hlistening | hdeaf
    · exact hlistening
    · exact absurd hpass hdeaf.blocked
  have hconnection : c ≠ 0 := hscope.resolve_right fun hne => hne hpass.1
  have hkey : arrivalKey ids c = scopedKey (ids .a) c e := by
    unfold arrivalKey wireScope streamOf
    rw [if_pos (by simpa using hconnection), hpass.1]
  rw [hlistening.deliveries, hkey]
  refine List.map_congr_left fun t ht => ?_
  unfold travelling transportEncodeData
  rw [if_pos (by simp [h.2 t (List.mem_append_left _ ht)])]

/-- A promise that was kept shows that the sessions agree. -/
theorem Exchanging.acksPass (h : Exchanging ids c e config sys past flying greet acks)
    (hsent : sys.sent .a ≠ []) (hkept : ExchangeKept ids c e sys) : AcksPass ids c e := by
  have haccepted : past ++ flying ≠ [] := by
    intro hnone
    rw [h.1.sent, hnone] at hsent
    exact hsent rfl
  have hkeys : ∀ x ∈ rxDeliveries (sys.node .b).transport.io.events, x.1 = arrivalKey ids c := by
    rcases h.1.receiver with hlistening | hdeaf
    · intro x hx
      rw [hlistening.deliveries] at hx
      obtain ⟨t, -, rfl⟩ := List.mem_map.mp hx
      rfl
    · exact hdeaf.deliveries
  constructor
  · -- the peer that delivers has no epoch
    obtain ⟨payload, hpayload⟩ := List.exists_mem_of_ne_nil _ hsent
    have hkey := hkeys (scopedKey (ids .a) c e, payload)
      (hkept.1 ▸ List.mem_map_of_mem hpayload)
    exact congrArg PeerKey.sessionEpoch hkey
  · rcases h.1.sender with hunopened | ⟨peer, honly, -, hpeer⟩
    · exact absurd hunopened.empty.1 haccepted
    -- an ACK of another session would leave its message in the queue
    have hempty : peer.reliableQueue.waitAckList = [] :=
      hkept.2 peer (hpeer.key ▸ honly.entry)
    by_contra hforeign
    push Not at hforeign
    have hstuck := hpeer.stuck hforeign.1 hforeign.2
    rw [hempty] at hstuck
    exact haccepted (List.length_eq_zero_iff.mp hstuck.symm)

/-- When the sessions agree, a complete exchange has kept its promise. -/
theorem Exchanging.kept (h : Exchanging ids c e config sys past flying greet acks)
    (hscope : c ≠ 0 ∨ e ≠ 0) (hpass : AcksPass ids c e) (hcomplete : Complete sys) :
    ExchangeKept ids c e sys := by
  have hitems := h.1.toB
  have hacks := h.1.toA
  unfold Holds at hitems hacks
  rw [hcomplete, List.forall₂_nil_left_iff] at hitems hacks
  have hflying : flying = [] := by
    have hnone := (List.append_eq_nil_iff.mp hitems).2
    unfold dataItems at hnone
    rw [List.map_eq_nil_iff, List.zipIdx_eq_nil_iff] at hnone
    exact hnone
  refine ⟨?_, fun peer hentry => ?_⟩
  · rw [h.delivered hscope hpass, h.1.sent, hflying, List.append_nil, List.map_map]
    rfl
  · rcases h.1.sender with hunopened | ⟨open_, honly, -, hpeer⟩
    · rw [hunopened.sender] at hentry
      cases hentry
    · rw [← hpeer.key, honly.entry] at hentry
      cases hentry
      have hnumbers := hpeer.exact hpass
      rw [List.map_eq_nil_iff.mp hacks, hflying] at hnumbers
      exact List.map_eq_nil_iff.mp (List.map_eq_nil_iff.mp hnumbers.eq_nil)

end Run

/-- A connection-scoped exchange from send to last ACK. Node A sends reliable messages of one scope
over links that lose nothing. While it runs, and the scope is one that every layer agrees on, what
node B was handed is a beginning of what A has sent. The exchange can always be completed by
delivering what is on the wire. Once it is complete, node B was handed every message once and in
order by the peer of the scope and node A waits for no ACK, exactly when the epoch is zero and the
low half of the connection id is zero or the session id of node A. -/
theorem scoped_exchange_iff (ids : Side → UInt16) (c e : UInt32) (hscope : c ≠ 0 ∨ e ≠ 0)
    (clock : Side → Nat → UInt32) (start : System) (hstart : Joined start ids)
    (actions : List SystemAction)
    (hactions : ∀ action ∈ actions,
      ExchangeAction ids c e (start.node .a).transport.config action) :
    let sys := runSystem clock nodeReceive actions start
    (AcksPass ids c e → rxDeliveries (sys.node .b).transport.io.events
      <+: (sys.sent .a).map fun payload => (scopedKey (ids .a) c e, payload)) ∧
    (∃ deliveries, (∀ action ∈ deliveries, ∃ side, action = .deliver side) ∧
      Complete (runSystem clock nodeReceive deliveries sys)) ∧
    (Complete sys → sys.sent .a ≠ [] → (ExchangeKept ids c e sys ↔ AcksPass ids c e)) := by
  intro sys
  obtain ⟨past, flying, greet, acks, h⟩ : ∃ past flying greet acks,
      Exchanging ids c e (start.node .a).transport.config sys past flying greet acks :=
    List.foldlRecOn
      (motive := fun state => ∃ past flying greet acks,
        Exchanging ids c e (start.node .a).transport.config state past flying greet acks)
      actions (systemStep clock nodeReceive) ⟨[], [], false, [], exchanging_start hstart rfl⟩
      fun state hstate action hmem => exchanging_step hscope clock (hactions action hmem) hstate
  refine ⟨fun hpass => ?_, h.1.completes hscope clock _ rfl, fun hcomplete hsent =>
    ⟨h.acksPass hsent, fun hpass => h.kept hscope hpass hcomplete⟩⟩
  rw [h.delivered hscope hpass, h.1.sent, List.map_map, List.map_append]
  exact List.prefix_append _ _

/-! ### Two exchanges -/

/-- Node A is node 1, and node B node 2. -/
def exchangeIds (side : Side) : UInt16 :=
  if side = .a then 1 else 2

/-- A new node with a route to the other one. -/
def exchangeNode (side : Side) : Node where
  transport :=
    { config := { localId := exchangeIds side }
      nextSessionId := exchangeIds side
      window := freshWindow 8 }
  network :=
    { localId := exchangeIds side
      routeTable := [{ targetId := exchangeIds side.other
                       phy := some { id := 0, tx := some fun _ => .ok }
                       maxFrameSize := 256 }] }
  datalink :=
    { parser :=
        { state := .magic, cache := List.replicate 64 0, cacheSize := 64, cacheLen := 0, index := 0
          timestamp := 0, expectedHeaderLen := 0, expectedPayloadLen := 0
          expectedAuthTagLen := 0 } }

/-- The two nodes are new and linked. -/
theorem exchange_joined : Joined { node := exchangeNode } exchangeIds where
  calm := fun side => by
    cases side <;>
      exact ⟨rfl, rfl, rfl, rfl, rfl,
        ⟨rfl, rfl, rfl, _, _, _, rfl, rfl, rfl, fun _ => rfl, by decide⟩,
        by decide, by decide, by decide, by decide⟩
  init := fun side => by cases side <;> rfl
  link := fun _ => rfl
  sent := fun _ => rfl

/-- A message of one byte on a connection. -/
def exchangeRequest (c : UInt32) (byte : UInt8) : TxData where
  targetId := 2
  dataType := 9
  data := some [byte]
  reliable := true
  connectionId := c

/-- Two messages, the HELLO in front of them, and their ACKs. -/
def exchangeActions (c : UInt32) : List SystemAction :=
  [.send .a (exchangeRequest c 1), .send .a (exchangeRequest c 2), .deliver .b, .deliver .b,
    .deliver .b, .deliver .a, .deliver .a]

/-- Both messages belong to the exchange. -/
theorem exchangeActions_scoped (c : UInt32) : ∀ action ∈ exchangeActions c,
    ExchangeAction exchangeIds c 0 (exchangeNode .a).transport.config action := by
  have hrequest : ∀ byte, ScopedRequest exchangeIds c 0 (exchangeNode .a).transport.config
      (exchangeRequest c byte) := by
    refine fun byte => ⟨⟨rfl, rfl, fun data plan hdata hplan => ?_⟩, rfl, rfl⟩
    cases hdata
    cases hplan
    rfl
  simp only [exchangeActions, List.forall_mem_cons]
  exact ⟨⟨hrequest 1, rfl⟩, ⟨hrequest 2, rfl⟩, trivial, trivial, trivial, trivial, trivial,
    fun action hmem => absurd hmem List.not_mem_nil⟩

/-- The nodes behind these steps. -/
def exchangeRun (c : UInt32) : System :=
  runSystem (fun _ _ => 0) nodeReceive (exchangeActions c) { node := exchangeNode }

/-- The low half of the first connection id is the session id of node A, that of the second one is
not. -/
theorem scoped_exchange_iff_two :
    (exchangeRun 0x50001).sent .a = [[1], [2]] ∧
      ExchangeKept exchangeIds 0x50001 0 (exchangeRun 0x50001) ∧
      ¬ ExchangeKept exchangeIds 0x50007 0 (exchangeRun 0x50007) := by
  have hsent : (exchangeRun 0x50001).sent .a = [[1], [2]] ∧
      (exchangeRun 0x50007).sent .a = [[1], [2]] := by decide +kernel
  have hdone : Complete (exchangeRun 0x50001) ∧ Complete (exchangeRun 0x50007) :=
    ⟨fun side => by cases side <;> decide +kernel, fun side => by cases side <;> decide +kernel⟩
  have hgood := (scoped_exchange_iff exchangeIds 0x50001 0 (by decide) (fun _ _ => 0)
    { node := exchangeNode } exchange_joined (exchangeActions 0x50001)
    (exchangeActions_scoped 0x50001)).2.2 hdone.1 (by rw [← exchangeRun, hsent.1]; decide)
  have hbad := (scoped_exchange_iff exchangeIds 0x50007 0 (by decide) (fun _ _ => 0)
    { node := exchangeNode } exchange_joined (exchangeActions 0x50007)
    (exchangeActions_scoped 0x50007)).2.2 hdone.2 (by rw [← exchangeRun, hsent.2]; decide)
  have hagree : AcksPass exchangeIds 0x50001 0 ∧ ¬ AcksPass exchangeIds 0x50007 0 := by
    unfold AcksPass
    decide
  exact ⟨hsent.1, hgood.mpr hagree.1, fun hkept => hagree.2 (hbad.mp hkept)⟩

end XgenLink
