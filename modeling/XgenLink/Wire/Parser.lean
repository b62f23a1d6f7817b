import XgenLink.Wire.Frame

/-!
# `XgenLink.Wire.Parser`: the byte-by-byte frame parser

The state machine of `xgl_parser.c` over a cache of fixed size: hunt for the magic, collect the
header and its extensions, collect payload and tag, collect and check the CRC16. Each state
remembers how many bytes it still expects. An error, and a frame that is complete, take the parser
back to the hunt; a timeout does the same between two reads.

The cache is the whole buffer the caller supplied, so the bytes behind `cacheLen` are whatever
earlier frames left there. They are part of the model because the layers above are handed the
cache and a length, and not the frame by itself.
-/

set_option autoImplicit false

namespace XgenLink

/-- `xgl_parse_state_t`. -/
inductive ParseState where
  | magic
  | header
  | payload
  | crc
  deriving DecidableEq, Repr, Inhabited

/-- `xgl_parse_result_t`. -/
inductive ParseResult where
  | incomplete
  | complete
  | error
  deriving DecidableEq, Repr, Inhabited

/-- `xgl_parser_t`. -/
structure Parser where
  state : ParseState
  cache : Bytes
  cacheSize : Nat
  cacheLen : Nat
  index : Nat
  timestamp : UInt32
  expectedHeaderLen : Nat
  expectedPayloadLen : UInt16
  expectedAuthTagLen : UInt8
  deriving DecidableEq, Repr

/-- `xgl_parser_init`. -/
def xglParserInit (cacheBuffer : Bytes) : Except XglError Parser :=
  if cacheBuffer.length < XGL_WIRE_BASE_HEADER_SIZE + XGL_CRC16_SIZE then .error .bufferTooSmall
  else
    .ok { state := .magic
          cache := cacheBuffer
          cacheSize := cacheBuffer.length
          cacheLen := 0
          index := 0
          timestamp := 0
          expectedHeaderLen := 0
          expectedPayloadLen := 0
          expectedAuthTagLen := 0 }

/-- `xgl_parser_reset`. -/
def xglParserReset (parser : Parser) : Parser :=
  { parser with
    state := .magic
    cacheLen := 0
    index := 0
    timestamp := 0
    expectedHeaderLen := 0
    expectedPayloadLen := 0
    expectedAuthTagLen := 0 }

/-- The loop of `xgl_parser_validate_header_extensions` over the extensions:
the tag length of the last SECURITY_EXT, or `none` when one does not decode. -/
def parserAuthTagLen : List WireExt → UInt8 → Option UInt8
  | [], tagLen => some tagLen
  | ext :: rest, tagLen =>
    if ext.type == XGL_WIRE_EXT_SECURITY then
      match xglWireDecodeSecurityExtValue ext.value with
      | .error _ => none
      | .ok security =>
        if security.tagLen == 0 then none else parserAuthTagLen rest security.tagLen
    else parserAuthTagLen rest tagLen

/-- `xgl_parser_validate_header_extensions`. -/
def xglParserValidateHeaderExtensions (parser : Parser) : ParseResult × Parser :=
  let parser := { parser with expectedAuthTagLen := 0 }
  let extLen := parser.expectedHeaderLen - XGL_WIRE_BASE_HEADER_SIZE
  -- without extensions the flags are never looked at, AUTHENTICATED among them
  if extLen == 0 then (.incomplete, parser)
  else
    match xglWireDecodeHeader parser.cache XGL_WIRE_BASE_HEADER_SIZE with
    | .error _ => (.error, xglParserReset parser)
    | .ok header =>
      let exts := wireExts (parser.cache.drop XGL_WIRE_BASE_HEADER_SIZE) extLen
      match parserAuthTagLen exts.1 0 with
      -- a SECURITY_EXT that does not decode, or one that announces a tag of length 0
      | none => (.error, xglParserReset parser)
      | some tagLen =>
        -- the walk has to end at the end of the area, not in the middle of an extension
        if exts.2 != .notFound then (.error, xglParserReset parser)
        -- the flag without a SECURITY_EXT
        else if header.flags &&& XGL_WIRE_FLAG_AUTHENTICATED != 0 && tagLen == 0 then
          (.error, xglParserReset parser)
        else (.incomplete, { parser with expectedAuthTagLen := tagLen })

/-- `parser->cache[parser->cache_len++] = byte`. -/
def Parser.push (parser : Parser) (byte : UInt8) : Parser :=
  { parser with
    cache := parser.cache.set parser.cacheLen byte
    cacheLen := parser.cacheLen + 1 }

/-- The `XGL_PARSE_HEADER` case of `xgl_parser_feed_byte`. -/
def parserFeedHeader (parser : Parser) (byte : UInt8) : ParseResult × Parser :=
  let parser := parser.push byte
  if parser.cacheLen == 2 && byteAt parser.cache 1 != XGL_WIRE_MAGIC_1 then
    -- a repeated first magic byte may start the real frame
    if byte == XGL_WIRE_MAGIC_0 then
      (.incomplete,
        { parser with cache := parser.cache.set 0 byte, cacheLen := 1, state := .header })
    else (.incomplete, xglParserReset parser)
  else if parser.cacheLen ≥ XGL_WIRE_BASE_HEADER_SIZE then
    match xglWireDecodeHeader parser.cache XGL_WIRE_BASE_HEADER_SIZE with
    | .error _ => (.error, xglParserReset parser)
    | .ok header =>
      let parser :=
        { parser with
          expectedHeaderLen := header.headerLen.toNat
          expectedPayloadLen := header.payloadLen }
      -- the extensions are still to come; the header is decoded again with every byte of them
      if parser.cacheLen < parser.expectedHeaderLen then (.incomplete, parser)
      else
        match xglParserValidateHeaderExtensions parser with
        | (.error, parser) => (.error, parser)
        | (_, parser) =>
          -- the frame would not fit into the cache
          if parser.expectedHeaderLen + parser.expectedPayloadLen.toNat +
              parser.expectedAuthTagLen.toNat + XGL_CRC16_SIZE > parser.cacheSize then
            (.error, xglParserReset parser)
          else if parser.expectedPayloadLen > 0 || parser.expectedAuthTagLen > 0 then
            (.incomplete, { parser with state := .payload })
          -- neither a payload nor a tag, so the checksum is next
          else (.incomplete, { parser with state := .crc })
  else (.incomplete, parser)

/-- `xgl_parser_feed_byte`. -/
def xglParserFeedByte (parser : Parser) (byte : UInt8) (currentTimeMs : UInt32) :
    ParseResult × Parser :=
  -- a full cache is given up before the byte is looked at
  if parser.cacheLen ≥ parser.cacheSize then (.error, xglParserReset parser)
  else
    match parser.state with
    | .magic =>
      if byte == XGL_WIRE_MAGIC_0 then
        (.incomplete,
          { parser with
            cache := parser.cache.set 0 byte
            cacheLen := 1
            index := 0
            timestamp := currentTimeMs
            state := .header })
      -- what comes before the magic byte is dropped
      else (.incomplete, parser)
    | .header => parserFeedHeader parser byte
    | .payload =>
      let parser := parser.push byte
      -- the tag counts as a part of the body
      let bodyReceived := parser.cacheLen - parser.expectedHeaderLen
      let expectedBodyLen := parser.expectedPayloadLen.toNat + parser.expectedAuthTagLen.toNat
      if bodyReceived ≥ expectedBodyLen then
        (.incomplete, { parser with state := .crc, index := 0 })
      else (.incomplete, parser)
    | .crc =>
      let parser := { parser.push byte with index := parser.index + 1 }
      if parser.index ≥ XGL_CRC16_SIZE then
        -- the checksum covers everything in front of it
        let crcOffset := parser.cacheLen - XGL_CRC16_SIZE
        if xglCrc16Modbus (readBytes parser.cache 0 crcOffset) !=
            xglDeserializeU16Le (parser.cache.drop crcOffset) then
          (.error, xglParserReset parser)
        else (.complete, parser)
      else (.incomplete, parser)

/-- `xgl_parser_check_timeout`. -/
def xglParserCheckTimeout (parser : Parser) (currentTimeMs timeoutMs : UInt32) : Bool :=
  if parser.state == .magic then false
  else currentTimeMs - parser.timestamp ≥ timeoutMs

/-- `xgl_parser_get_frame`: the cache and the number of its bytes that form the
frame. -/
def xglParserGetFrame (parser : Parser) : Except XglError (Bytes × Nat) :=
  if parser.state != .crc || parser.cacheLen == 0 then .error .invalidFrame
  else .ok (parser.cache, parser.cacheLen)

end XgenLink
