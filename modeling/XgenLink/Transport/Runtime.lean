import XgenLink.Transport.AckReceive
import XgenLink.Transport.Send

/-!
# `XgenLink.Transport.Runtime`: periodic processing

`xgl_transport_run` does the work that no packet triggers, in this order: the retransmissions and
retry exhaustion of every peer, the reassembly timeouts, and the reclaim of idle peers.
`xgl_transport_can_send` reads the window of the context.

A packet has a timer of its own. When it fires, the packet is sent again with a longer timeout; when
it fires once more after the last retry, the packet is given up and the application told through
the error callback. A timestamp of 0 stands for a packet that was not sent yet.

The time is an argument, and everything is due when the difference from its own time stamp has
reached the timeout, modulo 2^32. The loop over a queue removes exhausted packets while it goes, so
it is modelled with the packets already visited and those to come.
-/

set_option autoImplicit false

namespace XgenLink

/-- Whether the retransmission timer of a packet has fired. -/
def ReliablePacket.due (packet : ReliablePacket) (currentTimeMs : UInt32) : Bool :=
  packet.sendTimestamp != 0 &&
    currentTimeMs - packet.sendTimestamp ≥ packet.timeoutMs.toUInt32

/-- The loop of `transport_process_retransmission_queue`: `done` are the packets
already visited and `rest` those to come. An exhausted packet is removed through
the index, which finds the newest packet of its number. -/
def retransmissionLoop (env : TransportEnv) (config : TransportConfig) (maxRetryCount : UInt8)
    (currentTimeMs : UInt32) :
    Nat → List ReliablePacket → List ReliablePacket → TransportIo →
      List ReliablePacket × TransportIo
  | 0, done, rest, io => (done ++ rest, io)
  | _, done, [], io => (done, io)
  | fuel + 1, done, packet :: rest, io =>
    -- not due, the packet stays where it is
    if !packet.due currentTimeMs then
      retransmissionLoop env config maxRetryCount currentTimeMs fuel (done ++ [packet]) rest io
    -- the last retry was in vain
    else if packet.retryCount ≥ maxRetryCount then
      let io := transportReport config io .ackTimeout "Packet retry count exhausted"
      -- the index finds the newest packet of the number, which may be a later one
      if rest.any fun other => other.isFor packet.packetNumber packet.targetId then
        retransmissionLoop env config maxRetryCount currentTimeMs fuel (done ++ [packet])
          (reliableUnlink packet.packetNumber packet.targetId rest) io
      -- there is only this one
      else retransmissionLoop env config maxRetryCount currentTimeMs fuel done rest io
    else
      let sent := transportRetransmitReliablePacket env config io packet currentTimeMs
      -- sent or not, the packet stays in the queue
      retransmissionLoop env config maxRetryCount currentTimeMs fuel (done ++ [sent.2.2]) rest
        sent.2.1

/-- `transport_process_retransmission_queue` and the deadline update of one
peer. -/
def transportRetransmitPeer (env : TransportEnv) (config : TransportConfig)
    (currentTimeMs : UInt32) (io : TransportIo) (peer : PeerState) : PeerState × TransportIo :=
  let looped := retransmissionLoop env config peer.reliableQueue.maxRetryCount currentTimeMs
    peer.reliableQueue.waitAckList.length [] peer.reliableQueue.waitAckList io
  (transportUpdatePeerDeadline
    { peer with reliableQueue := { peer.reliableQueue with waitAckList := looped.1 } }, looped.2)

/-- `transport_process_retransmissions` over the peers. -/
def transportProcessRetransmissions (env : TransportEnv) (config : TransportConfig)
    (currentTimeMs : UInt32) : List PeerState → TransportIo → List PeerState × TransportIo
  | [], io => ([], io)
  | peer :: rest, io =>
    let first := transportRetransmitPeer env config currentTimeMs io peer
    let others := transportProcessRetransmissions env config currentTimeMs rest first.2
    (first.1 :: others.1, others.2)

/-- The reassembly timeouts of `xgl_transport_run`. -/
def transportProcessFragmentTimeouts (ctx : TransportCtx) (currentTimeMs : UInt32) :
    TransportCtx :=
  match ctx.fragmentMgr with
  | none => ctx
  | some manager =>
    let processed := xglFragmentProcessTimeouts manager currentTimeMs
    { ctx with
      fragmentMgr := some processed.2
      io :=
        if processed.1 > 0 then
          transportReport ctx.config ctx.io .timeout "Fragment reassembly timeout"
        else ctx.io }

/-- `xgl_transport_run`. -/
def xglTransportRun (env : TransportEnv) (ctx : TransportCtx) (currentTimeMs : UInt32) :
    TransportCtx :=
  let retransmitted := transportProcessRetransmissions env ctx.config currentTimeMs ctx.peers ctx.io
  transportReclaimIdlePeers
    (transportProcessFragmentTimeouts
      { ctx with peers := retransmitted.1, io := retransmitted.2 } currentTimeMs)
    currentTimeMs

/-- `xgl_transport_can_send`. -/
def xglTransportCanSend (ctx : TransportCtx) : Bool :=
  xglWindowCanSendPacketNumber ctx.window

end XgenLink
