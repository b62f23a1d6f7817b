import XgenLink.Datalink.Receive

/-!
# `XgenLink.Datalink.Send`: the datalink transmit path

`xgl_datalink_send` serializes a frame, authenticated when the instance requires it, and hands the
bytes to the PHY. A small frame is serialized into a buffer on the stack and a larger one into a
buffer that is allocated for it and freed afterwards.

The PHY is a function from the bytes to its error code. Nothing is sent again here: a frame the PHY
refuses is reported and its code returned.
-/

set_option autoImplicit false

namespace XgenLink

/-- What a transmit call did: its code, the bytes given to the PHY, if any, and
the error callback it made. -/
structure TxResult where
  error : XglError
  transmitted : Option Bytes := none
  report : Option (XglError × String) := none
  deriving DecidableEq, Repr

/-- `datalink_auth_tag_len`. -/
def datalinkAuthTagLen (authRequired : Bool) (authProvider : Option AuthProvider) :
    Except XglError Nat :=
  if !authRequired then .ok 0
  else
    match authProvider with
    | none => .error .invalidParam
    | some provider =>
      if provider.sign.isNone || provider.tagLen == 0 || provider.tagLen > XGL_AUTH_TAG_MAX_LEN then
        .error .invalidParam
      else .ok provider.tagLen

/-- The serialization `xgl_datalink_send` chooses. -/
def datalinkSerialize (ctx : DatalinkCtx) (frameSize : Nat) (frame : Frame) :
    Except XglError Bytes :=
  match ctx.authRequired, ctx.authProvider with
  | true, some provider =>
    xglFrameSerializeAuthenticated frameSize frame ctx.authKeyId provider
  -- it does not come this far: `datalink_auth_tag_len` refuses it
  | true, none => .error .nullPointer
  | false, _ => xglFrameSerialize frameSize frame

/-- The error callback of `datalink_report_tx_error`, when one is registered. -/
def datalinkReportTxError (ctx : DatalinkCtx) (error : XglError) (message : String) :
    Option (XglError × String) :=
  if ctx.errorCallback then some (error, message) else none

/-- `xgl_datalink_send`. `phyTx` is the PHY's transmit function and `allocOk`
says whether the allocation of a large frame buffer succeeds. -/
def xglDatalinkSend (ctx : DatalinkCtx) (phyTx : Option (Bytes → XglError)) (allocOk : Bool)
    (frame : Frame) : TxResult :=
  match phyTx with
  | none => { error := .invalidParam }
  | some tx =>
    match datalinkAuthTagLen ctx.authRequired ctx.authProvider with
    | .error err => { error := err }
    | .ok authTagLen =>
      let frameSize :=
        xglFrameSerializedSize frame.payload.length frame.extensions.length authTagLen
      -- only a frame that is too large for the stack needs an allocation
      if frameSize > XGL_DATALINK_STACK_BUFFER_SIZE && !allocOk then
        { error := .noMemory
          report := datalinkReportTxError ctx .noMemory "Failed to allocate frame buffer" }
      else
        -- the stack buffer is larger than the frame, but only `frame_size` is offered
        match datalinkSerialize ctx frameSize frame with
        | .error err =>
          { error := err, report := datalinkReportTxError ctx err "Frame serialization failed" }
        | .ok bytes =>
          match tx bytes with
          | .ok => { error := .ok, transmitted := some bytes }
          -- the PHY was called, whatever its answer
          | err =>
            { error := err
              transmitted := some bytes
              report := datalinkReportTxError ctx err "Physical layer transmission failed" }

end XgenLink
