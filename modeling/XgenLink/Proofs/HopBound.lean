import Mathlib.Data.List.Nodup
import Mathlib.Data.List.Perm.Basic
import XgenLink.Lib.Run
import XgenLink.Proofs.Forwarding
import XgenLink.System.Mesh

/-!
# `XgenLink.Proofs.HopBound`: how often a frame can be forwarded

The route tables of a mesh are set by hand, and nothing keeps them from leading a frame around in
a circle. What ends such a circle is the hop limit: every forward takes one off the hop limit of
the one copy of a frame that is on its way, and a frame whose limit is at most one is not
forwarded.

So the hop limit of the copy and the number of forwards add up to the hop limit the frame was
injected with. This is the invariant. It needs that there is at most one copy of each injected
frame: a node forwards to one route, and it takes the frame it forwards off the wire.

* `HopTaken`, `hopTaken_of_transmitted`: one forward.
* `MeshInv`: the balance of hop limit and forwards, and what it needs.
* `MeshInv.inject`, `.take`, `.forward`: the steps of a mesh.
* `hop_bound`: the bound for every run over every topology.
-/

set_option autoImplicit false

namespace XgenLink

/-- A forward decreases the hop limit by one, above zero. -/
structure HopTaken (forward : Forward) : Prop where
  decodes : ∃ header crc,
    xglWireDecodeHeader forward.received forward.received.length = .ok header ∧
    xglWireDecodeHeader forward.sent forward.sent.length
      = .ok { header with ttl := header.ttl - 1, headerCrc16 := crc }
  alive : 1 ≤ (frameTtl forward.sent).toNat
  counted : (frameTtl forward.sent).toNat + 1 = (frameTtl forward.received).toNat

/-- What `xgl_network_receive` hands to a PHY has taken a hop. -/
theorem hopTaken_of_transmitted {net : NetworkCtx} {allocOk : Bool} {frame sent : Bytes}
    {err : XglError} {phy : Nat} (packet : Nat)
    (h : xglNetworkReceive net allocOk frame frame.length = .transmitted err phy sent) :
    HopTaken { packet := packet, received := frame, sent := sent } := by
  obtain ⟨header, route, hfwd⟩ := xglNetworkReceive_transmitted h
  obtain ⟨hsame, crc, hsent⟩ :=
    networkRewriteForwardFrame_same hfwd.decode hfwd.minLen hfwd.rewrite
  have hreceived : frameTtl frame = header.ttl :=
    congrArg WireHeader.ttl (xglWireDecodeHeader_eq_ok.mp hfwd.decode).2.2.2.2.2
  have hleft : frameTtl sent = header.ttl - 1 :=
    congrArg WireHeader.ttl (xglWireDecodeHeader_eq_ok.mp hsent).2.2.2.2.2
  have hone : 1 < header.ttl.toNat := UInt8.lt_iff_toNat_lt.mp hfwd.ttl
  -- the subtraction cannot wrap
  have hsub : (header.ttl - 1).toNat = header.ttl.toNat - 1 :=
    UInt8.toNat_sub_of_le _ _ (UInt8.le_iff_toNat_le.mpr (by change 1 ≤ _; omega))
  refine ⟨⟨header, crc, hfwd.decode, ?_⟩, ?_, ?_⟩
  · dsimp only
    rw [hsame.length]
    exact hsent
  · dsimp only
    rw [hleft, hsub]
    omega
  · dsimp only
    rw [hleft, hsub, hreceived]
    omega

section Mesh

variable {ι : Type}

/-- The state of a mesh: at most one copy of every injected frame is on its way, and
its hop limit and the forwards so far add up. -/
structure MeshInv (mesh : Mesh ι) : Prop where
  single : (mesh.inFlight.map Transit.packet).Nodup
  known : ∀ transit ∈ mesh.inFlight, transit.packet < mesh.injected.length
  logged : ∀ forward ∈ mesh.forwards, forward.packet < mesh.injected.length
  balance : ∀ transit ∈ mesh.inFlight, ∀ frame, mesh.injected[transit.packet]? = some frame →
    (frameTtl transit.frame).toNat + (mesh.forwardsOf transit.packet).length
      = (frameTtl frame).toNat
  bound : ∀ packet frame, mesh.injected[packet]? = some frame →
    (mesh.forwardsOf packet).length ≤ max (frameTtl frame).toNat 1 - 1
  taken : ∀ forward ∈ mesh.forwards, HopTaken forward

/-- Before anything is injected. -/
theorem MeshInv.empty : MeshInv ({} : Mesh ι) where
  single := List.nodup_nil
  known := by simp
  logged := by simp
  balance := by simp
  bound := by simp
  taken := by simp

/-- Nothing was forwarded of a frame that is not there yet. -/
theorem MeshInv.forwardsOf_new {mesh : Mesh ι} (h : MeshInv mesh) :
    mesh.forwardsOf mesh.injected.length = [] := by
  unfold Mesh.forwardsOf
  rw [List.filter_eq_nil_iff]
  intro forward hmem heq
  have := h.logged forward hmem
  rw [beq_iff_eq] at heq
  omega

/-- A frame that is injected has its whole hop limit and no forwards. The frames before it keep
their numbers. -/
theorem MeshInv.inject {mesh : Mesh ι} (h : MeshInv mesh) (nodes : ι → NetworkCtx) (node : ι)
    (frame : Bytes) : MeshInv (meshStep nodes mesh (.inject node frame)) := by
  unfold meshStep
  have hnew := h.forwardsOf_new
  refine ⟨?_, ?_, ?_, ?_, ?_, h.taken⟩
  · rw [List.map_append, List.map_singleton]
    refine List.nodup_append.mpr ⟨h.single, List.nodup_singleton _, ?_⟩
    intro a ha b hb
    obtain ⟨transit, hmem, rfl⟩ := List.mem_map.mp ha
    rw [List.mem_singleton] at hb
    have := h.known transit hmem
    rw [hb]
    exact Nat.ne_of_lt this
  · intro transit hmem
    rw [List.length_append, List.length_singleton]
    -- a copy that was on its way, or the one that is injected
    rcases List.mem_append.mp hmem with hold | hone
    · have := h.known transit hold
      omega
    · rw [List.mem_singleton] at hone
      subst hone
      exact Nat.lt_succ_self _
  · intro forward hmem
    have := h.logged forward hmem
    rw [List.length_append]
    omega
  · intro transit hmem original horiginal
    rcases List.mem_append.mp hmem with hold | hone
    · rw [List.getElem?_append_left (h.known transit hold)] at horiginal
      exact h.balance transit hold original horiginal
    · rw [List.mem_singleton] at hone
      subst hone
      rw [List.getElem?_append_right (Nat.le_refl _), Nat.sub_self] at horiginal
      cases horiginal
      change _ + (mesh.forwardsOf mesh.injected.length).length = _
      rw [hnew]
      rfl
  · intro packet original horiginal
    -- an injected frame before this one, or this one
    rcases Nat.lt_or_ge packet mesh.injected.length with hlt | hge
    · rw [List.getElem?_append_left hlt] at horiginal
      exact h.bound packet original horiginal
    · change (mesh.forwardsOf packet).length ≤ _
      have heq : packet = mesh.injected.length := by
        have hlen := (List.getElem?_eq_some_iff.mp horiginal).1
        rw [List.length_append, List.length_singleton] at hlen
        omega
      rw [heq, hnew]
      exact Nat.zero_le _

/-- Taking a frame off the wire. -/
theorem MeshInv.take {mesh : Mesh ι} (h : MeshInv mesh) {index : Nat} {transit : Transit ι}
    (hget : mesh.inFlight[index]? = some transit) :
    MeshInv { mesh with inFlight := mesh.inFlight.eraseIdx index } ∧
      transit.packet ∉ (mesh.inFlight.eraseIdx index).map Transit.packet := by
  have hsub : (mesh.inFlight.eraseIdx index).Sublist mesh.inFlight := List.eraseIdx_sublist _ _
  obtain ⟨hlt, hval⟩ := List.getElem?_eq_some_iff.mp hget
  have hperm := (List.getElem_cons_eraseIdx_perm hlt).map Transit.packet
  rw [hval, List.map_cons] at hperm
  have hnodup := hperm.nodup_iff.mpr h.single
  exact ⟨⟨h.single.sublist (hsub.map _), fun t ht => h.known t (hsub.subset ht), h.logged,
    fun t ht => h.balance t (hsub.subset ht), h.bound, h.taken⟩, (List.nodup_cons.mp hnodup).1⟩

/-- A forward moves one from the hop limit to the count. -/
theorem MeshInv.forward {mesh : Mesh ι} (h : MeshInv mesh) {transit : Transit ι}
    (hknown : transit.packet < mesh.injected.length)
    (hbalance : ∀ frame, mesh.injected[transit.packet]? = some frame →
      (frameTtl transit.frame).toNat + (mesh.forwardsOf transit.packet).length
        = (frameTtl frame).toNat)
    (hsingle : transit.packet ∉ mesh.inFlight.map Transit.packet) {sent : Bytes}
    (hop : HopTaken { packet := transit.packet, received := transit.frame, sent := sent })
    (reaches : Option ι) :
    MeshInv { mesh with
      inFlight := mesh.inFlight ++ reaches.toList.map fun node =>
        { packet := transit.packet, node := node, frame := sent }
      forwards := mesh.forwards ++
        [{ packet := transit.packet, received := transit.frame, sent := sent }] } := by
  have hcounted := hop.counted
  have halive := hop.alive
  dsimp only at hcounted halive
  have hnew : ∀ t ∈ reaches.toList.map (fun node =>
      ({ packet := transit.packet, node := node, frame := sent } : Transit ι)),
      t.packet = transit.packet ∧ t.frame = sent := by
    intro t ht
    obtain ⟨node, _, rfl⟩ := List.mem_map.mp ht
    exact ⟨rfl, rfl⟩
  -- the count of this frame goes up by one, every other count stays
  have hcount : ∀ packet, (Mesh.forwardsOf { mesh with
        inFlight := mesh.inFlight ++ reaches.toList.map fun node =>
          { packet := transit.packet, node := node, frame := sent }
        forwards := mesh.forwards ++
          [{ packet := transit.packet, received := transit.frame, sent := sent }] } packet).length
      = (mesh.forwardsOf packet).length + if transit.packet = packet then 1 else 0 := by
    intro packet
    unfold Mesh.forwardsOf
    dsimp only
    rw [List.filter_append, List.length_append]
    -- one copy, and the count of its frame goes up
    by_cases heq : transit.packet = packet <;> simp [heq]
  refine ⟨?_, ?_, ?_, ?_, ?_, ?_⟩
  · dsimp only
    rw [List.map_append]
    refine List.nodup_append.mpr ⟨h.single, ?_, ?_⟩
    · cases reaches <;> simp
    · intro a ha b hb
      obtain ⟨t, ht, rfl⟩ := List.mem_map.mp hb
      rw [(hnew t ht).1]
      rintro rfl
      exact hsingle ha
  · intro t ht
    rcases List.mem_append.mp ht with hold | hcopy
    · exact h.known t hold
    · rw [(hnew t hcopy).1]
      exact hknown
  · intro f hf
    rcases List.mem_append.mp hf with hold | hone
    · exact h.logged f hold
    · rw [List.mem_singleton] at hone
      subst hone
      exact hknown
  · intro t ht original horiginal
    rw [hcount]
    rcases List.mem_append.mp ht with hold | hcopy
    · rw [if_neg]
      · exact h.balance t hold original horiginal
      · intro heq
        exact hsingle (heq ▸ List.mem_map_of_mem hold)
    · obtain ⟨hpacket, hframe⟩ := hnew t hcopy
      rw [hpacket] at horiginal ⊢
      have := hbalance original horiginal
      rw [if_pos rfl, hframe]
      omega
  · intro packet original horiginal
    rw [hcount]
    have hold := h.bound packet original horiginal
    by_cases heq : transit.packet = packet
    · subst heq
      have := hbalance original horiginal
      rw [if_pos rfl]
      omega
    · rw [if_neg heq]
      exact hold
  · intro f hf
    rcases List.mem_append.mp hf with hold | hone
    · exact h.taken f hold
    · rw [List.mem_singleton] at hone
      subst hone
      exact hop

/-- Every step of a mesh keeps the balance. -/
theorem MeshInv.step {mesh : Mesh ι} (h : MeshInv mesh) (nodes : ι → NetworkCtx)
    (action : MeshAction ι) : MeshInv (meshStep nodes mesh action) := by
  cases action with
  | inject node frame => exact h.inject nodes node frame
  | receive index allocOk reaches =>
    unfold meshStep
    dsimp only
    cases hget : mesh.inFlight[index]? with
    | none => exact h
    | some transit =>
      obtain ⟨htaken, hsingle⟩ := h.take hget
      have hmem := List.mem_of_getElem? hget
      dsimp only
      unfold meshReceive
      split
      · rename_i err phy sent hrx
        exact htaken.forward (h.known transit hmem) (h.balance transit hmem) hsingle
          (hopTaken_of_transmitted transit.packet hrx) reaches
      · exact htaken

/-- Over every topology and in every order of receptions, a frame injected with hop
limit `t` is forwarded at most `max t 1 - 1` times, every forwarded copy leaves
with a hop limit of at least one, and the subtraction never wraps. -/
theorem hop_bound (nodes : ι → NetworkCtx) (actions : List (MeshAction ι)) :
    (∀ packet frame, (runMesh nodes actions).injected[packet]? = some frame →
      ((runMesh nodes actions).forwardsOf packet).length
        ≤ max (frameTtl frame).toNat 1 - 1) ∧
    ∀ forward ∈ (runMesh nodes actions).forwards,
      forward.packet < (runMesh nodes actions).injected.length ∧
      1 ≤ (frameTtl forward.sent).toNat ∧
      (frameTtl forward.sent).toNat + 1 = (frameTtl forward.received).toNat ∧
      ∃ header crc,
        xglWireDecodeHeader forward.received forward.received.length = .ok header ∧
        xglWireDecodeHeader forward.sent forward.sent.length
          = .ok { header with ttl := header.ttl - 1, headerCrc16 := crc } := by
  have hinv : MeshInv (runMesh nodes actions) :=
    foldl_invariant MeshInv (fun mesh action h => h.step nodes action) actions {} .empty
  refine ⟨hinv.bound, fun forward hmem => ?_⟩
  have hop := hinv.taken forward hmem
  exact ⟨hinv.logged forward hmem, hop.alive, hop.counted, hop.decodes⟩

end Mesh

end XgenLink
