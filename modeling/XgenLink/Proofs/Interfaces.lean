import XgenLink.Proofs.Resync
import XgenLink.System.Poll

/-!
# `XgenLink.Proofs.Interfaces`: several PHYs on one parser

An instance can have a PHY for every route. `xgl_run` reads them one after the other, a bounded
number of bytes at a time, and the reads of all of them go through the one parser of the datalink
context. A frame is often longer than a read, so the bytes of one PHY can land inside a frame of
another, and both frames are lost.

They do not as long as a PHY is read only when the parser is in search of a frame or holds the
bytes of that PHY. Then the frames handed on are those that every PHY would get from a parser of
its own. The proof follows the bytes that the parser holds: between two reads they are what the
PHY read last left unfinished, and no other PHY has left anything.

* `heldFrames`, `Tracks.read`, `Tracks.round`: the frames of a read and of a round.
* `Unmixed`: the condition, for every round of a run.
* `Kept`, `Kept.run`: what the parser holds between two rounds.
* `interfaces_isolated`: then the frames are those of the PHYs one by one.
* `interfaces_interfere`: a frame in two chunks with another PHY in between is lost.
-/

set_option autoImplicit false

namespace XgenLink

/-! ### Frames on the bytes held -/

/-- The frames that bytes complete. -/
def heldFrames (size : Nat) : Bytes → Bytes → List Bytes
  | [], _ => []
  | byte :: rest, held =>
    (if (heldStep size held byte).1 = .complete then [held ++ [byte]] else []) ++
      heldFrames size rest (heldNext size held byte)

/-- Frames of bytes behind each other. -/
theorem heldFrames_append (size : Nat) (a b held : Bytes) :
    heldFrames size (a ++ b) held
      = heldFrames size a held ++ heldFrames size b (heldRun size a held) := by
  induction a generalizing held with
  | nil => rfl
  | cons byte rest ih =>
    rw [List.cons_append, heldFrames, heldFrames, ih, List.append_assoc]
    rfl

section Bytes

variable {size : Nat} {parser : Parser} {held : Bytes}

/-- The frame handed on for a byte is the one that it completes. -/
theorem Tracks.handedFrame_eq (h : Tracks size parser held) (byte : UInt8) (now : UInt32) :
    handedFrame parser byte now
      = if (heldStep size held byte).1 = .complete then [held ++ [byte]] else [] := by
  have hagrees := h.feed byte now
  unfold handedFrame
  generalize hfed : xglParserFeedByte parser byte now = fed at hagrees
  obtain ⟨result, fed⟩ := fed
  have hresult : result = (heldStep size held byte).1 := hagrees.result
  by_cases hcomplete : (heldStep size held byte).1 = .complete
  · have hreports := hagrees.reports hcomplete
    rw [(h.complete hcomplete).1] at hreports
    rw [if_pos hcomplete, hresult, hcomplete]
    dsimp only
    obtain ⟨hget, htake⟩ := hreports.get_frame (by simp)
    rw [show xglParserGetFrame fed = .ok (fed.cache, (held ++ [byte]).length) from hget]
    exact congrArg (fun frame => [frame]) htake
  · rw [if_neg hcomplete, hresult]
    cases hstep : (heldStep size held byte).1 with
    | complete => exact absurd hstep hcomplete
    | incomplete => rfl
    | error => rfl

/-- The bytes held behind a parser step. -/
theorem Tracks.step (h : Tracks size parser held) (byte : UInt8) (now : UInt32) :
    Tracks size (parserStep parser (.feed byte now)) (heldNext size held byte) :=
  h.run [(byte, now)]

/-- A parser of its own hands on the frames of its stream. -/
theorem Tracks.parsedAlone_eq (h : Tracks size parser held) (bytes : Bytes) :
    parsedAlone parser bytes = heldFrames size bytes held := by
  induction bytes generalizing parser held with
  | nil => rfl
  | cons byte rest ih =>
    have hrest := ih (h.step byte 0)
    unfold parsedAlone at hrest ⊢
    rw [runSteps_cons, heldFrames, h.handedFrame_eq byte 0]
    exact congrArg _ hrest

end Bytes

/-! ### One read -/

/-- Processing a frame leaves the parser alone. -/
theorem xglDatalinkProcessFrame_parser_state (ctx : DatalinkCtx) (frameBuffer : Bytes)
    (frameLen : Nat) :
    (xglDatalinkProcessFrame ctx frameBuffer frameLen).2.1.parser = ctx.parser := by
  unfold xglDatalinkProcessFrame
  split
  · split
    · split
      · split
        · rfl
        · unfold datalinkVerifyFrame
          dsimp only
          split
          · rfl
          · split <;> rfl
      · rfl
    · rfl
  · rfl

/-- A byte of a read moves the parser like any other byte. -/
theorem datalinkReceiveByte_parser_state (ctx : DatalinkCtx) (byte : UInt8) (now : UInt32) :
    (datalinkReceiveByte ctx byte now).1.parser = parserStep ctx.parser (.feed byte now) := by
  unfold datalinkReceiveByte parserStep
  dsimp only
  generalize xglParserFeedByte ctx.parser byte now = fed
  obtain ⟨result, fed⟩ := fed
  cases result with
  | complete =>
    rw [if_pos (by rfl)]
    dsimp only
    cases hframe : xglParserGetFrame fed with
    | error err => rfl
    | ok frame =>
      dsimp only
      rw [xglDatalinkProcessFrame_parser_state]
  | incomplete => rfl
  | error => rfl

section Reads

variable {size : Nat} {held : Bytes}

/-- A read: the parser moves over its bytes and hands on their frames. -/
theorem Tracks.read {ctx : DatalinkCtx} (h : Tracks size ctx.parser held) (now : UInt32)
    (bytes : Bytes) :
    Tracks size (datalinkReceiveBytes now bytes ctx).1.parser (heldRun size bytes held) ∧
      readFrames now bytes ctx = heldFrames size bytes held := by
  induction bytes generalizing ctx held with
  | nil => exact ⟨h, rfl⟩
  | cons byte rest ih =>
    have hstep : Tracks size (datalinkReceiveByte ctx byte now).1.parser
        (heldNext size held byte) := by
      rw [datalinkReceiveByte_parser_state]
      exact h.step byte now
    obtain ⟨htracks, hframes⟩ := ih hstep
    refine ⟨htracks, ?_⟩
    unfold readFrames at hframes ⊢
    rw [runSteps_cons, heldFrames, h.handedFrame_eq byte now]
    exact congrArg _ hframes

/-- A round in which no timeout elapses: its read, when it makes one. -/
theorem Tracks.round {handle : PollHandle} (h : Tracks size handle.datalink.parser held)
    (poll : RoutePoll) (htime : routeTimesOut handle poll = false) :
    Tracks size (runRoute handle poll).1.datalink.parser
        ((routeRead handle poll).elim held fun read => heldRun size read.2 held) ∧
      routeFrames handle poll
        = (routeRead handle poll).elim [] fun read => heldFrames size read.2 held := by
  unfold routeFrames
  rw [htime]
  unfold runRoute routeRead
  unfold routeTimesOut at htime
  cases hdue : routeDue handle poll with
  | none => exact ⟨h, rfl⟩
  | some phy =>
    rw [hdue, Option.isSome_some, Bool.true_and] at htime
    unfold xglDatalinkReceive
    dsimp only
    rw [htime]
    cases hrx : poll.rx with
    | error err => exact ⟨h, rfl⟩
    | ok bytes => exact h.read poll.currentTimeMs bytes

end Reads

/-! ### Runs -/

/-- No parser timeout elapses. -/
def NoTimeout : List RoutePoll → PollHandle → Prop :=
  Along (fun handle poll => (runRoute handle poll).1)
    (fun handle poll => routeTimesOut handle poll = false)

/-- The PHY that was read last, among the reads that gave bytes. -/
def lastRead (last : Option Nat) : Option (Nat × Bytes) → Option Nat
  | some (phy, _ :: _) => some phy
  | _ => last

/-- A read that gives bytes finds the parser in search of a frame or follows a read of
the same PHY. -/
def Unmixed (polls : List RoutePoll) (handle : PollHandle) (last : Option Nat) : Prop :=
  Along (fun state poll => ((runRoute state.1 poll).1, lastRead state.2 (routeRead state.1 poll)))
    (fun state poll => ∀ phy bytes, routeRead state.1 poll = some (phy, bytes) → bytes ≠ [] →
      state.1.datalink.parser.state = .magic ∨ state.2 = some phy)
    polls (handle, last)

section Log

variable {size : Nat}

/-- One more read belongs to the stream of its PHY. -/
theorem logStream_append (log : List (Nat × Bytes)) (read : Nat × Bytes) (phy : Nat) :
    logStream (log ++ [read]) phy
      = logStream log phy ++ if read.1 = phy then read.2 else [] := by
  unfold logStream
  rw [List.filter_append, List.flatMap_append]
  by_cases hphy : read.1 = phy
  · rw [List.filter_cons, if_pos (by simpa using hphy), if_pos hphy]
    simp
  · rw [List.filter_cons, if_neg (by simpa using hphy), if_neg hphy]
    simp

/-- The frames of every PHY's own stream. -/
def separateFrames (size : Nat) (phys : List Nat) (log : List (Nat × Bytes)) : List Bytes :=
  phys.flatMap fun phy => heldFrames size (logStream log phy) []

/-- A read adds its frames to those of its PHY. -/
theorem separateFrames_read {phys : List Nat} (hnodup : phys.Nodup) (log : List (Nat × Bytes))
    {phy : Nat} (hphy : phy ∈ phys) (bytes : Bytes) :
    (separateFrames size phys log ++
        heldFrames size bytes (heldRun size (logStream log phy) [])).Perm
      (separateFrames size phys (log ++ [(phy, bytes)])) := by
  unfold separateFrames
  induction phys with
  | nil => cases hphy
  | cons first rest ih =>
    obtain ⟨hfirst, hrest⟩ := List.nodup_cons.mp hnodup
    rw [List.flatMap_cons, List.flatMap_cons, logStream_append]
    by_cases hsame : phy = first
    · subst hsame
      have hothers : rest.flatMap (fun other =>
          heldFrames size (logStream (log ++ [(phy, bytes)]) other) [])
            = rest.flatMap fun other => heldFrames size (logStream log other) [] := by
        apply List.flatMap_congr
        intro other hother
        rw [logStream_append, if_neg (by rintro rfl; exact hfirst hother), List.append_nil]
      rw [if_pos rfl, heldFrames_append, hothers, List.append_assoc, List.append_assoc]
      exact List.perm_append_comm.append_left _
    · rw [if_neg hsame, List.append_nil, List.append_assoc]
      exact (ih hrest ((List.mem_cons.mp hphy).resolve_left hsame)).append_left _

/-- The parser holds what the PHY read last left unfinished, and no other PHY has left
anything. -/
structure Kept (size : Nat) (log : List (Nat × Bytes)) (handle : PollHandle) (last : Option Nat)
    (held : Bytes) : Prop where
  tracks : Tracks size handle.datalink.parser held
  shared : ∀ phy, last = some phy → heldRun size (logStream log phy) [] = held
  others : ∀ phy, last ≠ some phy → heldRun size (logStream log phy) [] = []
  fresh : last = none → held = []

/-- The stream of a PHY that may be read stands where the parser stands. -/
theorem Kept.stream {log : List (Nat × Bytes)} {handle : PollHandle} {last : Option Nat}
    {held : Bytes} (h : Kept size log handle last held) {phy : Nat}
    (hread : handle.datalink.parser.state = .magic ∨ last = some phy) :
    heldRun size (logStream log phy) [] = held := by
  by_cases hlast : last = some phy
  · exact h.shared phy hlast
  · rw [h.others phy hlast, h.tracks.held_eq_nil (hread.resolve_right hlast)]

/-- A read keeps it. -/
theorem Kept.read {log : List (Nat × Bytes)} {handle next : PollHandle} {last : Option Nat}
    {held : Bytes} (h : Kept size log handle last held) {phy : Nat} {bytes : Bytes}
    (hmixed : bytes ≠ [] → handle.datalink.parser.state = .magic ∨ last = some phy)
    (hnext : Tracks size next.datalink.parser (heldRun size bytes held)) :
    Kept size (log ++ [(phy, bytes)]) next (lastRead last (some (phy, bytes)))
      (heldRun size bytes held) := by
  cases bytes with
  | nil =>
    have hsame : ∀ other, logStream (log ++ [(phy, [])]) other = logStream log other := by
      intro other
      rw [logStream_append, ite_self, List.append_nil]
    refine ⟨hnext, fun other hlast => ?_, fun other hlast => ?_, h.fresh⟩
    · rw [hsame]
      exact h.shared other hlast
    · rw [hsame]
      exact h.others other hlast
  | cons byte rest =>
    have hmixed' := hmixed (by simp)
    have hstream := h.stream hmixed'
    refine ⟨hnext, fun other hlast => ?_, fun other hlast => ?_, fun hnone => ?_⟩
    · obtain rfl : phy = other := Option.some.inj hlast
      rw [logStream_append, if_pos rfl, heldRun_append, hstream]
    · have hother : phy ≠ other := fun heq => hlast (congrArg some heq)
      rw [logStream_append, if_neg hother, List.append_nil]
      by_cases hwas : last = some other
      · -- the PHY read before left nothing, or it would be the one read now
        have hmagic : handle.datalink.parser.state = .magic :=
          hmixed'.resolve_right fun heq => hother (Option.some.inj (heq.symm.trans hwas))
        rw [h.shared other hwas, h.tracks.held_eq_nil hmagic]
      · exact h.others other hwas
    · cases hnone

/-- A run hands on the frames of the PHYs one by one. -/
theorem Kept.run {phys : List Nat} (hnodup : phys.Nodup) {log : List (Nat × Bytes)}
    {handle : PollHandle} {last : Option Nat} {held : Bytes} (h : Kept size log handle last held)
    (polls : List RoutePoll) (hphys : ∀ poll ∈ polls, ∀ phy, poll.route.rxPhy = some phy →
      phy ∈ phys)
    (htime : NoTimeout polls handle) (hunmixed : Unmixed polls handle last) :
    (separateFrames size phys log ++ pollFrames polls handle).Perm
      (separateFrames size phys (log ++ pollReads polls handle)) := by
  -- the induction is on the rounds, for every parser state they can start in
  induction polls generalizing log handle last held with
  | nil =>
    unfold pollFrames pollReads
    rw [runSteps_nil, runSteps_nil, List.append_nil, List.append_nil]
  | cons poll rest ih =>
    obtain ⟨htime, htimes⟩ := htime
    obtain ⟨hmixed, hunmixed⟩ := hunmixed
    change Unmixed rest (runRoute handle poll).1 (lastRead last (routeRead handle poll)) at hunmixed
    obtain ⟨htracks, hframes⟩ := h.tracks.round poll htime
    have hrest := fun other hother => hphys other (List.mem_cons_of_mem _ hother)
    unfold pollFrames pollReads at ih ⊢
    rw [runSteps_cons, runSteps_cons, hframes]
    dsimp only
    cases hread : routeRead handle poll with
    | none =>
      rw [hread] at htracks hunmixed
      rw [Option.elim_none, Option.toList_none, List.nil_append, List.nil_append]
      exact ih ⟨htracks, h.shared, h.others, h.fresh⟩ hrest htimes hunmixed
    | some read =>
      obtain ⟨phy, bytes⟩ := read
      rw [hread] at htracks hunmixed
      have hmember : phy ∈ phys := by
        refine hphys poll List.mem_cons_self phy ?_
        unfold routeRead routeDue at hread
        cases hphy : poll.route.rxPhy with
        | none =>
          rw [hphy] at hread
          cases hread
        | some other =>
          rw [hphy] at hread
          dsimp only at hread
          split at hread
          · rename_i hsome hok
            cases hread
            split at hsome
            · exact hsome
            · cases hsome
          · cases hread
      rw [Option.elim_some, Option.toList_some, ← List.append_assoc, ← List.append_assoc]
      refine List.Perm.trans (List.Perm.append_right _ ?_)
        (ih (h.read (hmixed phy bytes hread) htracks) hrest htimes hunmixed)
      -- a read without bytes changes nothing
      by_cases hempty : bytes = []
      · subst hempty
        have hsame := @separateFrames_read size _ hnodup log _ hmember []
        exact hsame
      · rw [← h.stream (hmixed phy bytes hread hempty)]
        exact separateFrames_read hnodup log hmember bytes

end Log

/-- For routes with distinct PHYs and a run of `xgl_run` in which no parser timeout
elapses: when every read that gives bytes finds the parser in search of a frame or
follows a read of the same PHY, the frames handed to `xgl_datalink_process_frame` are
those of the PHYs' streams, each on a fresh parser of its own. -/
theorem interfaces_isolated (routes : List PollRoute)
    (hdistinct : (routes.filterMap PollRoute.rxPhy).Nodup) (cacheBuffer : Bytes)
    (handle : PollHandle) (hinit : xglParserInit cacheBuffer = .ok handle.datalink.parser)
    (calls : List RunCall) (htime : NoTimeout (calls.flatMap (routePolls routes)) handle)
    (hunmixed : Unmixed (calls.flatMap (routePolls routes)) handle none) :
    (framesHanded routes calls handle).Perm
      ((routes.filterMap PollRoute.rxPhy).flatMap fun phy =>
        parsedAlone handle.datalink.parser (phyStream routes calls handle phy)) := by
  have htracks := tracks_init hinit
  have hkept : Kept cacheBuffer.length [] handle none [] :=
    ⟨htracks, fun _ h => (by cases h), fun _ _ => rfl, fun _ => rfl⟩
  have hphys : ∀ poll ∈ calls.flatMap (routePolls routes), ∀ phy, poll.route.rxPhy = some phy →
      phy ∈ routes.filterMap PollRoute.rxPhy := by
    intro poll hpoll phy hphy
    obtain ⟨call, _, hround⟩ := List.mem_flatMap.mp hpoll
    unfold routePolls at hround
    obtain ⟨entry, hentry, rfl⟩ := List.mem_map.mp hround
    exact List.mem_filterMap.mpr ⟨entry.1, (List.mem_zipIdx' hentry).2 ▸ List.getElem_mem _, hphy⟩
  have hrun := hkept.run hdistinct _ hphys htime hunmixed
  have hnone : separateFrames cacheBuffer.length (routes.filterMap PollRoute.rxPhy) [] = [] :=
    List.flatMap_eq_nil_iff.mpr fun _ _ => rfl
  rw [hnone, List.nil_append, List.nil_append] at hrun
  refine hrun.trans (List.Perm.of_eq ?_)
  exact List.flatMap_congr fun phy _ => (htracks.parsedAlone_eq _).symm

/-- Two routes with a PHY each. -/
def twoRoutes : List PollRoute :=
  [{ rxPhy := some 0 }, { rxPhy := some 1 }]

/-- An instance that was just set up. -/
def idleHandle : PollHandle where
  routeLastReadMs := some [0, 0]
  datalink := { parser := idleParser 64 }

/-- A call in which the two PHYs return the given bytes. -/
def callReading (currentTimeMs : UInt32) (first second : Bytes) : RunCall where
  freqHz := 100
  currentTimeMs := currentTimeMs
  rx := fun i => .ok (if i = 0 then first else second)

/-- A frame in two chunks is lost to the bytes that another PHY gave in between. -/
theorem interfaces_interfere :
    (twoRoutes.filterMap PollRoute.rxPhy).Nodup ∧
      xglParserInit (List.replicate 64 0) = .ok idleHandle.datalink.parser ∧
      NoTimeout ([callReading 5 (sampleFrame.take 20) [1, 2, 3],
        callReading 6 (sampleFrame.drop 20) []].flatMap (routePolls twoRoutes)) idleHandle ∧
      ¬ (framesHanded twoRoutes [callReading 5 (sampleFrame.take 20) [1, 2, 3],
          callReading 6 (sampleFrame.drop 20) []] idleHandle).Perm
        ((twoRoutes.filterMap PollRoute.rxPhy).flatMap fun phy =>
          parsedAlone idleHandle.datalink.parser
            (phyStream twoRoutes [callReading 5 (sampleFrame.take 20) [1, 2, 3],
              callReading 6 (sampleFrame.drop 20) []] idleHandle phy)) := by
  refine ⟨by decide, rfl, ⟨?_, ?_, ?_, ?_, trivial⟩, ?_⟩ <;> decide +kernel

/-- A frame in one chunk, and bytes of another PHY behind it. -/
theorem interfaces_isolated_whole_frame :
    (framesHanded twoRoutes [callReading 5 sampleFrame [1, 2, 3]] idleHandle).Perm
      [sampleFrame] := by
  have hperm := interfaces_isolated twoRoutes (by decide) (List.replicate 64 0) idleHandle rfl
    [callReading 5 sampleFrame [1, 2, 3]]
    ⟨by decide +kernel, by decide +kernel, trivial⟩
    ⟨fun _ _ _ _ => .inl (by decide +kernel), fun _ _ _ _ => .inl (by decide +kernel), trivial⟩
  have halone : ((twoRoutes.filterMap PollRoute.rxPhy).flatMap fun phy =>
      parsedAlone idleHandle.datalink.parser
        (phyStream twoRoutes [callReading 5 sampleFrame [1, 2, 3]] idleHandle phy))
      = [sampleFrame] := by decide +kernel
  rw [halone] at hperm
  exact hperm

end XgenLink
