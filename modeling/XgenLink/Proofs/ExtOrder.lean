import XgenLink.Lib.PermFold
import XgenLink.Network.Receive
import XgenLink.Proofs.FrameReads

/-!
# `XgenLink.Proofs.ExtOrder`: the order of the extensions of a frame

The extension area of a frame is a list of records, each with a type and a value. The datalink
looks for SECURITY and SESSION, the network layer for DATA_TYPE and SESSION, the transport for
one type at a time. Each does so in a loop over the whole area that passes over records of other
types.

When no type occurs twice, the order of the records does not matter to these loops. The proof
swaps two records that follow each other: one body of the loop per record, and the two bodies
commute because they set different fields. A record that is refused is refused in either order,
but the code is that of the first refusal, so the datalink's loop agrees up to `SameRefusal`.

* `DistinctTypes`: no two records are of one type.
* `find_type_perm`: a lookup by type in records in another order.
* `networkExtStep_swap`, `datalinkRxExtStep_swap`: two records exchanged.
* `networkExtLoop_perm`, `datalinkRxExtensionLoop_perm`: the loops over records in another order.
-/

set_option autoImplicit false

namespace XgenLink

/-! ### Records of distinct types -/

/-- No two records are of one type. -/
def DistinctTypes (exts : List WireExt) : Prop :=
  (exts.map WireExt.type).Nodup

/-- Nor are two of the records behind the first. -/
theorem DistinctTypes.tail {ext : WireExt} {exts : List WireExt} (h : DistinctTypes (ext :: exts)) :
    DistinctTypes exts :=
  (List.nodup_cons.mp h).2

/-- The types stay distinct in another order. -/
theorem DistinctTypes.perm {exts exts' : List WireExt} (h : DistinctTypes exts)
    (hperm : exts.Perm exts') : DistinctTypes exts' :=
  (hperm.map WireExt.type).nodup_iff.mp h

/-- The first two records differ. -/
theorem DistinctTypes.ne {a b : WireExt} {exts : List WireExt}
    (h : DistinctTypes (a :: b :: exts)) :
    a.type ≠ b.type := by
  intro heq
  refine (List.nodup_cons.mp h).1 ?_
  rw [heq]
  exact List.mem_cons_self

/-- A record is found by its type wherever it stands. -/
theorem find_type_perm {exts exts' : List WireExt} (hperm : exts.Perm exts')
    (hdistinct : DistinctTypes exts) (type : UInt8) :
    (exts.find? fun ext => ext.type == type) = exts'.find? fun ext => ext.type == type := by
  induction hperm with
  | nil => rfl
  | cons ext _ ih => rw [List.find?_cons, List.find?_cons, ih hdistinct.tail]
  | swap a b rest =>
    have hne := hdistinct.ne
    simp only [List.find?_cons]
    cases ha : a.type == type with
    | true =>
      have hb : (b.type == type) = false := by
        rw [beq_eq_false_iff_ne]
        intro heq
        exact hne (heq.trans (beq_iff_eq.mp ha).symm)
      rw [hb]
    | false => rfl
  | trans hab _ ihab ihbc => exact (ihab hdistinct).trans (ihbc (hdistinct.perm hab))

/-- There is at most one record of a type. -/
theorem filter_type_of_distinct {exts : List WireExt} (h : DistinctTypes exts) (type : UInt8) :
    (exts.filter fun ext => ext.type == type)
      = (exts.find? fun ext => ext.type == type).toList := by
  induction exts with
  | nil => rfl
  | cons ext rest ih =>
    rw [List.filter_cons, List.find?_cons]
    cases htype : ext.type == type with
    | true =>
      have hothers : (rest.filter fun ext => ext.type == type) = [] := by
        rw [List.filter_eq_nil_iff]
        intro other hmem heq
        refine (List.nodup_cons.mp h).1 ?_
        rw [beq_iff_eq.mp htype, ← beq_iff_eq.mp heq]
        exact List.mem_map_of_mem hmem
      rw [if_pos rfl, hothers]
      rfl
    | false => exact ih h.tail

/-- The bytes of the records in another order are as many. -/
theorem length_encodeWireExts_perm {exts exts' : List WireExt} (hperm : exts.Perm exts') :
    (encodeWireExts exts).length = (encodeWireExts exts').length := by
  unfold encodeWireExts
  exact (hperm.flatMap_right _).length_eq

/-! ### The loops -/

/-- A SESSION_EXT that does not decode is an invalid frame. -/
theorem xglWireDecodeSessionExtValue_error {value : Bytes} {err : XglError}
    (h : xglWireDecodeSessionExtValue value = .error err) : err = .invalidFrame := by
  unfold xglWireDecodeSessionExtValue at h
  split at h
  · cases h
    rfl
  · cases h

/-- A record of another type is passed over. -/
theorem networkExtStep_other {ext : WireExt} (hdata : ext.type ≠ XGL_WIRE_EXT_DATA_TYPE)
    (hsession : ext.type ≠ XGL_WIRE_EXT_SESSION) (metadata : NetworkExtMetadata) :
    networkExtStep ext metadata = .ok metadata := by
  unfold networkExtStep
  rw [if_neg (by simpa using hdata), if_neg (by simpa using hsession)]

/-- A DATA_TYPE and a SESSION record set different fields, and are refused with the same code. -/
theorem networkExtStep_data_session {a b : WireExt} (ha : a.type = XGL_WIRE_EXT_DATA_TYPE)
    (hb : b.type = XGL_WIRE_EXT_SESSION) (metadata : NetworkExtMetadata) :
    (networkExtStep a metadata >>= networkExtStep b)
      = (networkExtStep b metadata >>= networkExtStep a) := by
  unfold networkExtStep
  rw [ha, hb]
  simp only [show (XGL_WIRE_EXT_DATA_TYPE == XGL_WIRE_EXT_DATA_TYPE) = true from rfl,
    show (XGL_WIRE_EXT_SESSION == XGL_WIRE_EXT_DATA_TYPE) = false from rfl,
    show (XGL_WIRE_EXT_SESSION == XGL_WIRE_EXT_SESSION) = true from rfl, if_true,
    Bool.false_eq_true, if_false]
  cases hdecode : xglWireDecodeSessionExtValue b.value with
  | error err =>
    cases xglWireDecodeSessionExtValue_error hdecode
    by_cases hbad : (metadata.dataTypeFound || a.value.length != 1) = true
    · by_cases hfound : metadata.sessionEpochFound = true <;> simp [hbad, hfound, bind, Except.bind]
    · by_cases hfound : metadata.sessionEpochFound = true <;> simp [hbad, hfound, bind, Except.bind]
  | ok session =>
    by_cases hbad : (metadata.dataTypeFound || a.value.length != 1) = true
    · by_cases hfound : metadata.sessionEpochFound = true <;> simp [hbad, hfound, bind, Except.bind]
    · by_cases hfound : metadata.sessionEpochFound = true <;> simp [hbad, hfound, bind, Except.bind]

/-- Two bodies of the loop of the network layer on records of different types can be swapped. -/
theorem networkExtStep_swap (metadata : NetworkExtMetadata) (a b : WireExt)
    (hne : a.type ≠ b.type) :
    Outcomes Eq (networkExtStep a metadata >>= networkExtStep b)
      (networkExtStep b metadata >>= networkExtStep a) := by
  have hskip : ∀ {x y : WireExt}, x.type ≠ XGL_WIRE_EXT_DATA_TYPE →
      x.type ≠ XGL_WIRE_EXT_SESSION →
      (networkExtStep x metadata >>= networkExtStep y)
        = (networkExtStep y metadata >>= networkExtStep x) := by
    intro x y hdata hsession
    rw [networkExtStep_other hdata hsession]
    show networkExtStep y metadata = _
    cases networkExtStep y metadata with
    | error err => rfl
    | ok next => exact (networkExtStep_other hdata hsession next).symm
  have heq : (networkExtStep a metadata >>= networkExtStep b)
      = (networkExtStep b metadata >>= networkExtStep a) := by
    by_cases hadata : a.type = XGL_WIRE_EXT_DATA_TYPE
    · by_cases hbsession : b.type = XGL_WIRE_EXT_SESSION
      · exact networkExtStep_data_session hadata hbsession metadata
      · exact (hskip (fun hb => hne (hadata.trans hb.symm)) hbsession).symm
    · by_cases hasession : a.type = XGL_WIRE_EXT_SESSION
      · by_cases hbdata : b.type = XGL_WIRE_EXT_DATA_TYPE
        · exact (networkExtStep_data_session hbdata hasession metadata).symm
        · exact (hskip hbdata fun hb => hne (hasession.trans hb.symm)).symm
      · exact hskip hadata hasession
  rw [heq]
  exact .refl (fun _ => rfl) _

/-- The loop of the network layer does not depend on the order. -/
theorem networkExtLoop_perm {exts exts' : List WireExt} (hperm : exts.Perm exts')
    (hdistinct : DistinctTypes exts) (final : XglError) (metadata : NetworkExtMetadata) :
    networkExtLoop final exts metadata = networkExtLoop final exts' metadata := by
  rw [networkExtLoop_eq, networkExtLoop_eq]
  have hfold := foldlM_perm (fun e => rfl) (fun a b c hab hbc => hab.trans hbc)
    networkExtStep_swap hperm hdistinct metadata
  generalize exts.foldlM (fun metadata ext => networkExtStep ext metadata) metadata = r at hfold ⊢
  generalize exts'.foldlM (fun metadata ext => networkExtStep ext metadata) metadata = r'
    at hfold ⊢
  cases hfold with
  | ok s => rfl
  | error h => rw [h]

/-- Outcomes of the datalink's loop that look the same from outside: equal, or both refused with
nothing to report. -/
def SameRefusal (a b : XglError × DatalinkRxMetadata) : Prop :=
  a = b ∨ (a.1 = .invalidFrame ∧ b.1 = .invalidFrame ∧ a.2.frameCrcFailed = b.2.frameCrcFailed)

/-- Outcomes look the same from either side. -/
theorem SameRefusal.symm {a b : XglError × DatalinkRxMetadata} (h : SameRefusal a b) :
    SameRefusal b a := by
  rcases h with rfl | ⟨ha, hb, hcrc⟩
  · exact .inl rfl
  · exact .inr ⟨hb, ha, hcrc.symm⟩

/-- Three outcomes that look the same. -/
theorem SameRefusal.trans {a b c : XglError × DatalinkRxMetadata} (hab : SameRefusal a b)
    (hbc : SameRefusal b c) : SameRefusal a c := by
  rcases hab with rfl | ⟨ha, hb, hcrc⟩
  · exact hbc
  · rcases hbc with rfl | ⟨_, hc, hcrc'⟩
    · exact .inr ⟨ha, hb, hcrc⟩
    · exact .inr ⟨ha, hc, hcrc.trans hcrc'⟩

/-- A record of another type is passed over. -/
theorem datalinkRxExtStep_other {ext : WireExt} (hsecurity : ext.type ≠ XGL_WIRE_EXT_SECURITY)
    (hsession : ext.type ≠ XGL_WIRE_EXT_SESSION) (authRequired : Bool) (key : UInt32)
    (metadata : DatalinkRxMetadata) :
    datalinkRxExtStep authRequired key ext metadata = .ok metadata := by
  unfold datalinkRxExtStep
  rw [if_neg (by simpa using hsecurity), if_neg (by simpa using hsession)]

/-- A SECURITY and a SESSION record set different fields, and nothing is reported of either when it
is refused. -/
theorem datalinkRxExtStep_security_session {a b : WireExt} (ha : a.type = XGL_WIRE_EXT_SECURITY)
    (hb : b.type = XGL_WIRE_EXT_SESSION) (authRequired : Bool) (key : UInt32)
    (metadata : DatalinkRxMetadata) :
    Outcomes SameRefusal
      (datalinkRxExtStep authRequired key a metadata >>= datalinkRxExtStep authRequired key b)
      (datalinkRxExtStep authRequired key b metadata >>= datalinkRxExtStep authRequired key a) := by
  unfold datalinkRxExtStep
  rw [ha, hb]
  simp only [show (XGL_WIRE_EXT_SECURITY == XGL_WIRE_EXT_SECURITY) = true from rfl,
    show (XGL_WIRE_EXT_SESSION == XGL_WIRE_EXT_SECURITY) = false from rfl,
    show (XGL_WIRE_EXT_SESSION == XGL_WIRE_EXT_SESSION) = true from rfl, if_true,
    Bool.false_eq_true, if_false]
  cases xglWireDecodeSecurityExtValue a.value with
  | error err =>
    cases xglWireDecodeSessionExtValue b.value with
    | error err' => exact .error (.inr ⟨rfl, rfl, rfl⟩)
    | ok session => exact .error (.inr ⟨rfl, rfl, rfl⟩)
  | ok security =>
    by_cases hkey : (authRequired && security.keyId != key) = true
    · cases xglWireDecodeSessionExtValue b.value with
      | error err' =>
        simp only [hkey, if_true, bind, Except.bind]
        exact .error (.inr ⟨rfl, rfl, rfl⟩)
      | ok session =>
        simp only [hkey, if_true, bind, Except.bind]
        exact .error (.inr ⟨rfl, rfl, rfl⟩)
    · cases xglWireDecodeSessionExtValue b.value with
      | error err' =>
        simp only [hkey, bind, Except.bind]
        exact .error (.inr ⟨rfl, rfl, rfl⟩)
      | ok session =>
        simp only [hkey, bind, Except.bind]
        exact .ok _

/-- Two bodies of the datalink's loop on records of different types can be swapped. -/
theorem datalinkRxExtStep_swap (authRequired : Bool) (key : UInt32) (metadata : DatalinkRxMetadata)
    (a b : WireExt) (hne : a.type ≠ b.type) :
    Outcomes SameRefusal
      (datalinkRxExtStep authRequired key a metadata >>= datalinkRxExtStep authRequired key b)
      (datalinkRxExtStep authRequired key b metadata >>= datalinkRxExtStep authRequired key a) := by
  have hskip : ∀ {x y : WireExt}, x.type ≠ XGL_WIRE_EXT_SECURITY →
      x.type ≠ XGL_WIRE_EXT_SESSION →
      (datalinkRxExtStep authRequired key x metadata >>= datalinkRxExtStep authRequired key y)
        = (datalinkRxExtStep authRequired key y metadata >>=
          datalinkRxExtStep authRequired key x) := by
    intro x y hsecurity hsession
    rw [datalinkRxExtStep_other hsecurity hsession]
    show datalinkRxExtStep authRequired key y metadata = _
    cases datalinkRxExtStep authRequired key y metadata with
    | error err => rfl
    | ok next => exact (datalinkRxExtStep_other hsecurity hsession authRequired key next).symm
  have hrefl := fun e : XglError × DatalinkRxMetadata => (.inl rfl : SameRefusal e e)
  by_cases hasecurity : a.type = XGL_WIRE_EXT_SECURITY
  · by_cases hbsession : b.type = XGL_WIRE_EXT_SESSION
    · exact datalinkRxExtStep_security_session hasecurity hbsession authRequired key metadata
    · rw [hskip (fun hb => hne (hasecurity.trans hb.symm)) hbsession]
      exact .refl hrefl _
  · by_cases hasession : a.type = XGL_WIRE_EXT_SESSION
    · by_cases hbsecurity : b.type = XGL_WIRE_EXT_SECURITY
      · exact (datalinkRxExtStep_security_session hbsecurity hasession authRequired key
          metadata).symm SameRefusal.symm
      · rw [hskip hbsecurity fun hb => hne (hasession.trans hb.symm)]
        exact .refl hrefl _
    · rw [hskip hasecurity hasession]
      exact .refl hrefl _

/-- The loop of the datalink does not depend on the order either. -/
theorem datalinkRxExtensionLoop_perm {exts exts' : List WireExt} (hperm : exts.Perm exts')
    (hdistinct : DistinctTypes exts) (authRequired : Bool) (key : UInt32) (final : XglError)
    (metadata : DatalinkRxMetadata) :
    SameRefusal (datalinkRxExtensionLoop authRequired key final exts metadata)
      (datalinkRxExtensionLoop authRequired key final exts' metadata) := by
  rw [datalinkRxExtensionLoop_eq, datalinkRxExtensionLoop_eq]
  have hfold := foldlM_perm (fun e => .inl rfl) (fun a b c hab hbc => hab.trans hbc)
    (datalinkRxExtStep_swap authRequired key) hperm hdistinct metadata
  generalize exts.foldlM (fun metadata ext => datalinkRxExtStep authRequired key ext metadata)
    metadata = r at hfold ⊢
  generalize exts'.foldlM (fun metadata ext => datalinkRxExtStep authRequired key ext metadata)
    metadata = r' at hfold ⊢
  cases hfold with
  | ok s => exact .inl rfl
  | error h => exact h

end XgenLink
