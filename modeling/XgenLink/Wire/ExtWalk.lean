import XgenLink.Wire.ExtStream

/-!
# `XgenLink.Wire.ExtWalk`: walks over extensions that may run past the memory

The receive decoders walk the extension area with their own loop body: they refuse a record, read
its value or skip it. `walkExtsChecked` is such a loop over checked reads, for any body, and is
undefined when a read leaves the memory.

The area is as long as a header field says, so it may be longer than the memory behind it. As long
as a walk meets whole records nothing happens, and a record that is refused ends the walk. At the
first place where the memory holds less than a whole record it matters what the body does with a
record before it has seen the value: a type that is skipped sends the cursor beyond the memory,
where it reads the next header. `walkExtsChecked_none_iff` says for which bytes the walk leaves the
memory.

* `WalkStep`, `ExtTouch`: a loop body, and what it does to a record it has not seen whole.
* `walkExtsChecked_eq`: a walk that stays inside is the loop over the records.
* `tailOverruns`, `WalkOverruns`: which walks leave the memory.
* `walkExtsChecked_tail`: the bytes left over at the end.
* `walkExtsChecked_none_iff`, `walkExtsChecked_overruns_iff`: a whole walk.
-/

set_option autoImplicit false

namespace XgenLink

variable {State Refusal : Type}

/-- The loop `while (xgl_wire_ext_cursor_next(..) == XGL_OK)` with the body `step`: what the body
returns early with, or the code that ended the walk and the state then. -/
def walkExtsChecked (step : WireExtSlice → State → Option (Except Refusal State)) :
    Nat → WireExtCursor → State → Option (Except Refusal (XglError × State))
  | 0, _, state => some (.ok (.invalidFrame, state))
  | fuel + 1, cursor, state => do
    match ← xglWireExtCursorNextChecked cursor with
    | .error err => return .ok (err, state)
    | .ok (slice, next) =>
      match ← step slice state with
      | .error refusal => return .error refusal
      | .ok state => walkExtsChecked step fuel next state

/-- What a loop body does to a record of some type and length, before it has seen the value. -/
inductive ExtTouch where
  | refuses
  | reads
  | skips
  deriving DecidableEq, Repr

/-- A loop body over a memory: on records inside the memory it is `body`, and of a record that
crosses the end of the memory it needs the value just when `touch` says so. -/
structure WalkStep (memory : Bytes) (step : WireExtSlice → State → Option (Except Refusal State))
    (body : WireExt → State → Except Refusal State) (touch : State → UInt8 → Nat → ExtTouch) :
    Prop where
  inside : ∀ slice state, slice.valueOffset + slice.valueLen ≤ memory.length →
    step slice state = some (body (slice.toExt memory) state)
  reads : ∀ slice state, memory.length < slice.valueOffset + slice.valueLen →
    touch state slice.type slice.valueLen = .reads → step slice state = none
  refuses : ∀ slice state, touch state slice.type slice.valueLen = .refuses →
    ∃ refusal, step slice state = some (.error refusal) ∧
      body (slice.toExt memory) state = .error refusal
  skips : ∀ slice state, touch state slice.type slice.valueLen = .skips →
    step slice state = some (.ok state) ∧ body (slice.toExt memory) state = .ok state

/-- Whether the walk, arrived at the last bytes of the memory with `room` bytes of the area to go,
leaves the memory: the bytes `tail` hold no whole record. -/
def tailOverruns (touch : UInt8 → Nat → ExtTouch) (room : Nat) : Bytes → Bool
  | [] => decide (XGL_WIRE_EXT_HEADER_SIZE ≤ room)
  | [_] => true
  | type :: len :: _ =>
    type != 0 && decide (XGL_WIRE_EXT_HEADER_SIZE + len.toNat ≤ room) &&
      match touch type len.toNat with
      | .refuses => false
      | .reads => true
      | .skips => decide (XGL_WIRE_EXT_HEADER_SIZE ≤ room - (XGL_WIRE_EXT_HEADER_SIZE + len.toNat))

/-- Whether a walk over an area of `areaLen` bytes leaves the memory: the area is longer, no record
that lies in the memory whole is refused, and the bytes behind those records send the walk on. -/
def WalkOverruns (memory : Bytes) (areaLen : Nat) (body : WireExt → State → Except Refusal State)
    (touch : State → UInt8 → Nat → ExtTouch) (state : State) : Prop :=
  memory.length < areaLen ∧
    ∃ after, (wireExts memory memory.length).1.foldlM (fun state ext => body ext state) state
        = .ok after ∧
      tailOverruns (touch after)
        (areaLen - (encodeWireExts (wireExts memory memory.length).1).length)
        (memory.drop (encodeWireExts (wireExts memory memory.length).1).length) = true

/-- The bytes of a list of records, with the first apart. -/
theorem length_encodeWireExts_cons (ext : WireExt) (exts : List WireExt) :
    (encodeWireExts (ext :: exts)).length
      = XGL_WIRE_EXT_HEADER_SIZE + ext.value.length + (encodeWireExts exts).length := by
  rw [encodeWireExts, List.flatMap_cons, List.length_append, List.length_cons, List.length_cons]
  unfold XGL_WIRE_EXT_HEADER_SIZE encodeWireExts
  omega

section Walk

variable {memory : Bytes} {step : WireExtSlice → State → Option (Except Refusal State)}
  {body : WireExt → State → Except Refusal State} {touch : State → UInt8 → Nat → ExtTouch}

/-- A body that stays inside the memory does what it does on the record. -/
theorem WalkStep.eq (h : WalkStep memory step body touch) {slice : WireExtSlice} {state : State}
    {out : Except Refusal State} (hout : step slice state = some out) :
    body (slice.toExt memory) state = out := by
  by_cases hin : slice.valueOffset + slice.valueLen ≤ memory.length
  · rw [h.inside slice state hin] at hout
    exact Option.some.inj hout
  · cases htouch : touch state slice.type slice.valueLen with
    | refuses =>
      obtain ⟨refusal, hstep, hbody⟩ := h.refuses slice state htouch
      rw [hstep] at hout
      exact hbody.trans (Option.some.inj hout)
    | reads =>
      rw [h.reads slice state (Nat.lt_of_not_le hin) htouch] at hout
      cases hout
    | skips =>
      obtain ⟨hstep, hbody⟩ := h.skips slice state htouch
      rw [hstep] at hout
      exact hbody.trans (Option.some.inj hout)

/-- A walk that stays inside the memory is the loop over the records. -/
theorem walkExtsChecked_eq (h : WalkStep memory step body touch) {fuel : Nat}
    {cursor : WireExtCursor} (hmemory : cursor.buffer = memory) {state : State}
    {out : Except Refusal (XglError × State)}
    (hout : walkExtsChecked step fuel cursor state = some out) :
    ((wireExtStream fuel cursor).1.foldlM (fun state ext => body ext state) state).map
      (fun after => ((wireExtStream fuel cursor).2, after)) = out := by
  induction fuel generalizing cursor state with
  | zero => exact Option.some.inj hout
  | succ fuel ih =>
    simp only [walkExtsChecked, Option.bind_eq_bind, Option.bind_eq_some_iff] at hout
    obtain ⟨next, hnext, hout⟩ := hout
    have hplain := xglWireExtCursorNextChecked_eq hnext
    cases next with
    | error err =>
      rw [wireExtStream, hplain]
      exact Option.some.inj hout
    | ok taken =>
      obtain ⟨slice, next⟩ := taken
      simp only [Option.bind_eq_some_iff] at hout
      obtain ⟨after, hstep, hout⟩ := hout
      rw [wireExtStream, hplain]
      have hbody : body (slice.toExt cursor.buffer) state = after := by
        rw [hmemory]
        exact h.eq hstep
      have hkept : next.buffer = memory := (xglWireExtCursorNext_ok hplain).1.trans hmemory
      simp only [followSlice, List.foldlM_cons, hbody]
      cases after with
      | error refusal => exact Option.some.inj hout
      | ok after => exact ih hkept hout

/-- Rounds beyond the bytes of the area change nothing. -/
theorem wireExtStream_fuel (fuel more : Nat) (cursor : WireExtCursor)
    (hoff : cursor.offset ≤ cursor.len) (hfuel : cursor.len - cursor.offset < fuel)
    (hmore : cursor.len - cursor.offset < more) :
    wireExtStream fuel cursor = wireExtStream more cursor := by
  induction fuel generalizing more cursor with
  | zero => omega
  | succ fuel ih =>
    cases more with
    | zero => omega
    | succ more =>
      simp only [wireExtStream]
      cases hnext : xglWireExtCursorNext cursor with
      | error err => rfl
      | ok taken =>
        obtain ⟨ext, next⟩ := taken
        obtain ⟨_, hlen, hoffset, hle, _⟩ := xglWireExtCursorNext_ok hnext
        have hmoved : cursor.offset + 2 ≤ next.offset := by
          unfold XGL_WIRE_EXT_HEADER_SIZE at hoffset
          omega
        show (ext :: (wireExtStream fuel next).1, (wireExtStream fuel next).2) = _
        rw [ih more next (hlen ▸ hle) (by omega) (by omega)]

/-- With the whole area in the memory no walk leaves it. -/
theorem walkExtsChecked_isSome (h : WalkStep memory step body touch) (fuel : Nat)
    (cursor : WireExtCursor) (hmemory : cursor.buffer = memory)
    (harea : cursor.len ≤ memory.length) (hoff : cursor.offset ≤ cursor.len) (state : State) :
    walkExtsChecked step fuel cursor state ≠ none := by
  induction fuel generalizing cursor state with
  | zero =>
    intro hnone
    cases hnone
  | succ fuel ih =>
    obtain ⟨out, hnext, hvalue⟩ :=
      xglWireExtCursorNextChecked_inside (hmemory.symm ▸ harea) hoff
    rw [walkExtsChecked, hnext, Option.bind_eq_bind, Option.bind_some]
    cases out with
    | error err =>
      intro hnone
      cases hnone
    | ok taken =>
      obtain ⟨slice, next⟩ := taken
      have hin : slice.valueOffset + slice.valueLen ≤ memory.length :=
        (hvalue slice next rfl).trans harea
      obtain ⟨hbuffer, hlen, _, hle, _⟩ :=
        xglWireExtCursorNext_ok (xglWireExtCursorNextChecked_eq hnext)
      dsimp only
      rw [h.inside slice state hin, Option.bind_eq_bind, Option.bind_some]
      cases body (slice.toExt memory) state with
      | error refusal =>
        intro hnone
        cases hnone
      | ok after =>
        exact ih next (hbuffer.trans hmemory) (hlen ▸ harea) (hlen ▸ hle) after

/-- Beyond the memory a walk ends at the end of its area, or leaves the memory. -/
theorem walkExtsChecked_beyond (fuel : Nat) {cursor : WireExtCursor}
    (hbeyond : cursor.buffer.length ≤ cursor.offset)
    (state : State) :
    walkExtsChecked step (fuel + 1) cursor state = none ↔
      XGL_WIRE_EXT_HEADER_SIZE ≤ cursor.len - cursor.offset := by
  rw [walkExtsChecked, xglWireExtCursorNextChecked]
  by_cases hend : cursor.offset = cursor.len
  · rw [if_pos (by simpa using hend), hend, Nat.sub_self]
    simp [XGL_WIRE_EXT_HEADER_SIZE]
  rw [if_neg (by simpa using hend)]
  by_cases hroom : cursor.len - cursor.offset < XGL_WIRE_EXT_HEADER_SIZE
  · rw [if_pos hroom]
    simp only [Option.bind_eq_bind, Option.bind_some, reduceCtorEq, false_iff, not_le]
    exact hroom
  · rw [if_neg hroom, checkedByte_of_le hbeyond]
    simp only [Option.bind_eq_bind, Option.bind_none, true_iff]
    exact Nat.le_of_not_lt hroom

/-- Whether the bytes from `offset` on hold less than a whole record. -/
def NoWholeRecord (memory : Bytes) (offset : Nat) : Prop :=
  memory.length < offset + XGL_WIRE_EXT_HEADER_SIZE ∨ byteAt memory offset = 0 ∨
    memory.length <
      offset + XGL_WIRE_EXT_HEADER_SIZE + (byteAt memory (offset + 1)).toNat

/-- There the walk over the memory alone yields nothing more. -/
theorem wireExtStream_noWhole {offset : Nat} (fuel : Nat) (hnone : NoWholeRecord memory offset) :
    (wireExtStream fuel { buffer := memory, len := memory.length, offset := offset }).1 = [] := by
  cases fuel with
  | zero => rfl
  | succ fuel =>
    rw [wireExtStream]
    cases hnext : xglWireExtCursorNext
      { buffer := memory, len := memory.length, offset := offset } with
    | error err => rfl
    | ok taken =>
      obtain ⟨ext, next⟩ := taken
      obtain ⟨_, _, hoffset, hle, htype, hne, hvalue⟩ := xglWireExtCursorNext_ok hnext
      have hsize : ext.value.length = (byteAt memory (offset + 1)).toNat := by
        rw [hvalue, length_readBytes]
      dsimp only at hoffset hle htype
      rcases hnone with hshort | hzero | hcross
      · omega
      · exact absurd (htype.trans hzero) hne
      · omega

/-- A walk over a longer area that finds less than a whole record in the memory: the bytes left
over decide. -/
theorem walkExtsChecked_tail (h : WalkStep memory step body touch) {areaLen : Nat}
    (hlong : memory.length < areaLen) {fuel offset : Nat} (hoff : offset ≤ memory.length)
    (hfuel : areaLen - offset < fuel + 1) (hnone : NoWholeRecord memory offset) (state : State) :
    walkExtsChecked step (fuel + 1) { buffer := memory, len := areaLen, offset := offset } state
        = none ↔
      tailOverruns (touch state) (areaLen - offset) (memory.drop offset) = true := by
  -- no byte is left, so the type byte is outside
  cases hdrop : memory.drop offset with
  | nil =>
    have hend : memory.length ≤ offset := List.drop_eq_nil_iff.mp hdrop
    rw [@walkExtsChecked_beyond _ _ step fuel { buffer := memory, len := areaLen, offset := offset }
      hend state, tailOverruns, decide_eq_true_eq]
  | cons first rest =>
    have hlength := congrArg List.length hdrop
    rw [List.length_drop, List.length_cons] at hlength
    have hfirst : byteAt memory offset = first := by
      have hbyte := byteAt_drop memory offset 0
      rw [hdrop] at hbyte
      exact hbyte.symm
    have hroom : ¬ areaLen - offset < XGL_WIRE_EXT_HEADER_SIZE := by
      unfold XGL_WIRE_EXT_HEADER_SIZE
      omega
    have hend : ¬ (offset == areaLen) = true := by
      rw [beq_iff_eq]
      omega
    rw [walkExtsChecked, xglWireExtCursorNextChecked, if_neg hend, if_neg hroom,
      checkedByte_of_lt (show offset < memory.length by omega), hfirst]
    cases rest with
    | nil =>
      -- the length byte lies behind the memory
      rw [checkedByte_of_le (show memory.length ≤ offset + 1 by
        rw [List.length_nil] at hlength
        omega)]
      simp [tailOverruns]
    | cons second more =>
      rw [List.length_cons] at hlength
      have hsecond : byteAt memory (offset + 1) = second := by
        have hbyte := byteAt_drop memory offset 1
        rw [hdrop] at hbyte
        exact hbyte.symm
      rw [checkedByte_of_lt (show offset + 1 < memory.length by omega), hsecond]
      simp only [Option.bind_eq_bind, Option.bind_some, tailOverruns, Bool.and_eq_true, bne_iff_ne,
        decide_eq_true_eq]
      by_cases hshape : (first == 0 ||
          decide (XGL_WIRE_EXT_HEADER_SIZE + second.toNat > areaLen - offset)) = true
      · -- the record ends the walk
        rw [if_pos hshape]
        rw [Bool.or_eq_true, beq_iff_eq, decide_eq_true_eq] at hshape
        constructor
        · intro hsome
          cases hsome
        · rintro ⟨⟨hne, hfits⟩, -⟩
          rcases hshape with hzero | hlarge
          · exact absurd hzero hne
          · omega
      rw [if_neg hshape]
      rw [Bool.or_eq_true, not_or, beq_iff_eq, decide_eq_true_eq] at hshape
      have hfits : XGL_WIRE_EXT_HEADER_SIZE + second.toNat ≤ areaLen - offset :=
        Nat.le_of_not_lt hshape.2
      -- the record crosses the end of the memory
      have hcross : memory.length < offset + XGL_WIRE_EXT_HEADER_SIZE + second.toNat := by
        rcases hnone with hshort | hzero | hcross
        · unfold XGL_WIRE_EXT_HEADER_SIZE at hshort
          omega
        · exact absurd (hfirst.symm.trans hzero) hshape.1
        · rwa [hsecond] at hcross
      simp only [ne_eq, hshape.1, not_false_eq_true, hfits, and_self, true_and]
      show (step ⟨first, offset + XGL_WIRE_EXT_HEADER_SIZE, second.toNat⟩ state).bind _ = none ↔ _
      generalize hslice : WireExtSlice.mk first (offset + XGL_WIRE_EXT_HEADER_SIZE) second.toNat
        = slice
      have htype : slice.type = first := hslice ▸ rfl
      have hlen : slice.valueLen = second.toNat := hslice ▸ rfl
      have hplace : slice.valueOffset = offset + XGL_WIRE_EXT_HEADER_SIZE := hslice ▸ rfl
      cases htouch : touch state first second.toNat with
      | refuses =>
        rw [← htype, ← hlen] at htouch
        obtain ⟨refusal, hstep, -⟩ := h.refuses slice state htouch
        rw [hstep]
        simp
      | reads =>
        rw [← htype, ← hlen] at htouch
        rw [h.reads slice state (by omega) htouch]
        simp
      | skips =>
        rw [← htype, ← hlen] at htouch
        rw [(h.skips slice state htouch).1, Option.bind_some, decide_eq_true_eq]
        -- behind the record the cursor is beyond the memory
        obtain ⟨rounds, rfl⟩ : ∃ rounds, fuel = rounds + 1 := ⟨fuel - 1, by
          unfold XGL_WIRE_EXT_HEADER_SIZE at hfits
          omega⟩
        have hbeyond := @walkExtsChecked_beyond _ _ step rounds
          { buffer := memory, len := areaLen
            offset := offset + (XGL_WIRE_EXT_HEADER_SIZE + second.toNat) }
          (by dsimp only; omega) state
        rw [Nat.sub_sub]
        exact hbeyond

/-- Which walks over an area longer than the memory leave it. The induction is on the rounds: a
record that lies in the memory whole is taken by both walks, and at the first that does not the
bytes left over decide. -/
theorem walkExtsChecked_none_iff (h : WalkStep memory step body touch) {areaLen : Nat}
    (hlong : memory.length < areaLen) (fuel offset : Nat) (hoff : offset ≤ memory.length)
    (hfuel : areaLen - offset < fuel) (state : State) :
    walkExtsChecked step fuel { buffer := memory, len := areaLen, offset := offset } state = none ↔
      ∃ after, (wireExtStream fuel
          { buffer := memory, len := memory.length, offset := offset }).1.foldlM
            (fun state ext => body ext state) state = .ok after ∧
        tailOverruns (touch after)
          (areaLen - (offset + (encodeWireExts (wireExtStream fuel
            { buffer := memory, len := memory.length, offset := offset }).1).length))
          (memory.drop (offset + (encodeWireExts (wireExtStream fuel
            { buffer := memory, len := memory.length, offset := offset }).1).length)) = true := by
  induction fuel generalizing offset state with
  | zero => omega
  | succ fuel ih =>
    by_cases hnone : NoWholeRecord memory offset
    · rw [walkExtsChecked_tail h hlong hoff hfuel hnone, wireExtStream_noWhole _ hnone]
      constructor
      · intro htail
        exact ⟨state, rfl, htail⟩
      · rintro ⟨after, hafter, htail⟩
        cases hafter
        exact htail
    · simp only [NoWholeRecord, not_or, not_lt] at hnone
      obtain ⟨hheader, htype, hvalue⟩ := hnone
      unfold XGL_WIRE_EXT_HEADER_SIZE at hheader hvalue
      -- both walks take the record
      let slice : WireExtSlice := ⟨byteAt memory offset, offset + XGL_WIRE_EXT_HEADER_SIZE,
        (byteAt memory (offset + 1)).toNat⟩
      have hchecked : ∀ len, memory.length ≤ len →
          xglWireExtCursorNextChecked { buffer := memory, len := len, offset := offset }
            = some (.ok (slice, { buffer := memory, len := len
                                  offset := offset + (XGL_WIRE_EXT_HEADER_SIZE +
                                    (byteAt memory (offset + 1)).toNat) })) := by
        intro len hlen
        rw [xglWireExtCursorNextChecked, if_neg (by rw [beq_iff_eq]; dsimp only; omega),
          if_neg (by unfold XGL_WIRE_EXT_HEADER_SIZE; dsimp only; omega),
          checkedByte_of_lt (by dsimp only; omega), checkedByte_of_lt (by dsimp only; omega)]
        simp only [Option.bind_eq_bind, Option.bind_some]
        rw [if_neg]
        · rfl
        · rw [Bool.or_eq_true, not_or, beq_iff_eq, decide_eq_true_eq]
          refine ⟨htype, ?_⟩
          unfold XGL_WIRE_EXT_HEADER_SIZE
          omega
      have hinside : slice.valueOffset + slice.valueLen ≤ memory.length := by
        show offset + XGL_WIRE_EXT_HEADER_SIZE + (byteAt memory (offset + 1)).toNat ≤ memory.length
        unfold XGL_WIRE_EXT_HEADER_SIZE
        omega
      have hsize : (slice.toExt memory).value.length = (byteAt memory (offset + 1)).toNat :=
        length_readBytes _ _ _
      rw [walkExtsChecked, hchecked areaLen (Nat.le_of_lt hlong), wireExtStream,
        xglWireExtCursorNextChecked_eq (hchecked memory.length (le_refl _))]
      simp only [Option.bind_eq_bind, Option.bind_some, followSlice, List.foldlM_cons]
      rw [h.inside slice state hinside]
      -- the body returns early, or goes on behind the record
      cases hbody : body (slice.toExt memory) state with
      | error refusal =>
        constructor
        · intro hsome
          cases hsome
        · rintro ⟨after, hafter, -⟩
          cases hafter
      | ok next =>
        have hmoved : offset + (XGL_WIRE_EXT_HEADER_SIZE + (byteAt memory (offset + 1)).toNat)
            ≤ memory.length := by
          unfold XGL_WIRE_EXT_HEADER_SIZE
          omega
        have hrest := ih _ hmoved (by unfold XGL_WIRE_EXT_HEADER_SIZE; omega) next
        generalize (wireExtStream fuel { buffer := memory, len := memory.length, offset := offset +
          (XGL_WIRE_EXT_HEADER_SIZE + (byteAt memory (offset + 1)).toNat) }).1 = rest at hrest ⊢
        have hlength : offset + (encodeWireExts (slice.toExt memory :: rest)).length
            = offset + (XGL_WIRE_EXT_HEADER_SIZE + (byteAt memory (offset + 1)).toNat) +
              (encodeWireExts rest).length := by
          rw [length_encodeWireExts_cons, hsize]
          omega
        rw [hlength]
        exact hrest

/-- The walk of a decoder over its extension area. -/
theorem walkExtsChecked_overruns_iff (h : WalkStep memory step body touch) (areaLen : Nat)
    (state : State) :
    walkExtsChecked step (areaLen + 1) { buffer := memory, len := areaLen, offset := 0 } state
      = none
      ↔ WalkOverruns memory areaLen body touch state := by
  by_cases hlong : memory.length < areaLen
  · rw [walkExtsChecked_none_iff h hlong (areaLen + 1) 0 (Nat.zero_le _) (Nat.lt_succ_self _) state,
      wireExtStream_fuel (areaLen + 1) (memory.length + 1) _ (Nat.zero_le _)
        (by dsimp only; omega) (Nat.lt_succ_self _)]
    simp only [Nat.zero_add]
    exact ⟨fun hover => ⟨hlong, hover⟩, fun hover => hover.2⟩
  · have hinside := walkExtsChecked_isSome h (areaLen + 1)
      { buffer := memory, len := areaLen, offset := 0 } rfl (Nat.le_of_not_lt hlong)
      (Nat.zero_le _) state
    constructor
    · intro hnone
      exact absurd hnone hinside
    · intro hover
      exact absurd hover.1 hlong

end Walk

end XgenLink
