import XgenLink.Core.Types

/-!
# `XgenLink.Wire.Codec`: little-endian fields and the frame checksum

The byte-wise serializers of `xgl_serialize.c` and `xgl_wire_ext.c` and the table-driven CRC16 of
`xgl_crc.c`. The source writes a field byte by byte, low byte first, and reads it back by shifting
and or-ing. Each serializer is the little-endian codec of `XgenLink.Lib.Bytes` at its width, so the
two round trips (`xglDeserializeU32Le_serialize`, `xglSerializeU32Le_deserialize` and their
siblings) come from the library.

What the table of the CRC16 stands for is in `XgenLink.Wire.Crc`.
-/

set_option autoImplicit false

namespace XgenLink

/-! ### Serializers -/

/-- `xgl_serialize_u16_le`. -/
def xglSerializeU16Le (value : UInt16) : Bytes :=
  [(value &&& 0xFF).toUInt8, ((value >>> 8) &&& 0xFF).toUInt8]

/-- `xgl_deserialize_u16_le`. -/
def xglDeserializeU16Le (buffer : Bytes) : UInt16 :=
  (byteAt buffer 0).toUInt16 ||| ((byteAt buffer 1).toUInt16 <<< 8)

/-- `xgl_serialize_u32_le`. -/
def xglSerializeU32Le (value : UInt32) : Bytes :=
  [(value &&& 0xFF).toUInt8, ((value >>> 8) &&& 0xFF).toUInt8,
   ((value >>> 16) &&& 0xFF).toUInt8, ((value >>> 24) &&& 0xFF).toUInt8]

/-- `xgl_deserialize_u32_le`. -/
def xglDeserializeU32Le (buffer : Bytes) : UInt32 :=
  (byteAt buffer 0).toUInt32 ||| ((byteAt buffer 1).toUInt32 <<< 8) |||
    ((byteAt buffer 2).toUInt32 <<< 16) ||| ((byteAt buffer 3).toUInt32 <<< 24)

/-- `wire_serialize_u64_le`. -/
def wireSerializeU64Le (value : UInt64) : Bytes :=
  (List.range 8).map fun i => ((value >>> UInt64.ofNat (8 * i)) &&& 0xFF).toUInt8

/-- `wire_deserialize_u64_le`. -/
def wireDeserializeU64Le (buffer : Bytes) : UInt64 :=
  (List.range 8).foldl
    (fun value i => value ||| ((byteAt buffer i).toUInt64 <<< UInt64.ofNat (8 * i))) 0

/-- A 16-bit field takes two bytes. -/
@[simp] theorem length_xglSerializeU16Le (value : UInt16) :
    (xglSerializeU16Le value).length = 2 := rfl

/-- A 32-bit field takes four. -/
@[simp] theorem length_xglSerializeU32Le (value : UInt32) :
    (xglSerializeU32Le value).length = 4 := rfl

/-- A 64-bit field takes eight. -/
@[simp] theorem length_wireSerializeU64Le (value : UInt64) :
    (wireSerializeU64Le value).length = 8 := rfl

/-! ### Round trips -/

/-- Or-ing a shifted number above a small one adds it. -/
theorem or_shiftLeft_eq_add (low high k : Nat) (h : low < 2 ^ k) :
    low ||| (high <<< k) = low + 2 ^ k * high := by
  have hor : high <<< k + low = high <<< k ||| low := Nat.shiftLeft_add_eq_or_of_lt h high
  rw [Nat.or_comm, ← hor, Nat.shiftLeft_eq]
  ring

/-- The 16-bit serializer writes the little-endian bytes. -/
theorem xglSerializeU16Le_eq (value : UInt16) :
    xglSerializeU16Le value = natToLe 2 value.toNat := by
  simp only [xglSerializeU16Le, natToLe, List.cons.injEq, and_true]
  refine ⟨?_, ?_⟩ <;> apply UInt8.toNat_inj.mp <;>
    simp [Nat.shiftRight_eq_div_pow, Nat.and_two_pow_sub_one_eq_mod _ 8]

/-- The 32-bit serializer writes the little-endian bytes. -/
theorem xglSerializeU32Le_eq (value : UInt32) :
    xglSerializeU32Le value = natToLe 4 value.toNat := by
  simp only [xglSerializeU32Le, natToLe, List.cons.injEq, and_true]
  refine ⟨?_, ?_, ?_, ?_⟩ <;> apply UInt8.toNat_inj.mp <;>
    simp [Nat.shiftRight_eq_div_pow, Nat.and_two_pow_sub_one_eq_mod _ 8,
      Nat.div_div_eq_div_mul]

/-- The 16-bit deserializer reads the number of its bytes. -/
theorem toNat_xglDeserializeU16Le (buffer : Bytes) :
    (xglDeserializeU16Le buffer).toNat = natOfLe [byteAt buffer 0, byteAt buffer 1] := by
  have h0 := (byteAt buffer 0).toNat_lt
  have h1 := (byteAt buffer 1).toNat_lt
  have hs : (byteAt buffer 1).toNat <<< 8 % 65536 = (byteAt buffer 1).toNat <<< 8 := by
    rw [Nat.shiftLeft_eq]
    omega
  simp only [xglDeserializeU16Le, natOfLe, UInt16.toNat_or, UInt16.toNat_shiftLeft,
    UInt8.toNat_toUInt16, UInt16.reduceToNat, Nat.reduceMod, Nat.reducePow, hs]
  rw [or_shiftLeft_eq_add _ _ _ h0]
  omega

/-- So does the 32-bit deserializer. -/
theorem toNat_xglDeserializeU32Le (buffer : Bytes) :
    (xglDeserializeU32Le buffer).toNat
      = natOfLe [byteAt buffer 0, byteAt buffer 1, byteAt buffer 2, byteAt buffer 3] := by
  have h0 := (byteAt buffer 0).toNat_lt
  have h1 := (byteAt buffer 1).toNat_lt
  have h2 := (byteAt buffer 2).toNat_lt
  have h3 := (byteAt buffer 3).toNat_lt
  -- no shifted byte leaves the 32 bits
  have hs1 : (byteAt buffer 1).toNat <<< 8 % 4294967296 = (byteAt buffer 1).toNat <<< 8 := by
    rw [Nat.shiftLeft_eq]
    omega
  have hs2 : (byteAt buffer 2).toNat <<< 16 % 4294967296 = (byteAt buffer 2).toNat <<< 16 := by
    rw [Nat.shiftLeft_eq]
    omega
  have hs3 : (byteAt buffer 3).toNat <<< 24 % 4294967296 = (byteAt buffer 3).toNat <<< 24 := by
    rw [Nat.shiftLeft_eq]
    omega
  simp only [xglDeserializeU32Le, natOfLe, UInt32.toNat_or, UInt32.toNat_shiftLeft,
    UInt8.toNat_toUInt32, UInt32.reduceToNat, Nat.reduceMod, Nat.reducePow, hs1, hs2, hs3]
  rw [or_shiftLeft_eq_add (byteAt buffer 0).toNat _ _ h0,
    or_shiftLeft_eq_add _ (byteAt buffer 2).toNat _ (by omega),
    or_shiftLeft_eq_add _ (byteAt buffer 3).toNat _ (by omega)]
  omega

/-- A 16-bit field is read back from the bytes written for it. -/
@[simp] theorem xglDeserializeU16Le_serialize (value : UInt16) (rest : Bytes) :
    xglDeserializeU16Le (xglSerializeU16Le value ++ rest) = value := by
  have hbytes : [byteAt (xglSerializeU16Le value ++ rest) 0,
      byteAt (xglSerializeU16Le value ++ rest) 1] = xglSerializeU16Le value := rfl
  have hlt : value.toNat < 256 ^ 2 := value.toNat_lt
  apply UInt16.toNat_inj.mp
  rw [toNat_xglDeserializeU16Le, hbytes, xglSerializeU16Le_eq, natOfLe_natToLe,
    Nat.mod_eq_of_lt hlt]

/-- A 32-bit field is read back from the bytes written for it. -/
@[simp] theorem xglDeserializeU32Le_serialize (value : UInt32) (rest : Bytes) :
    xglDeserializeU32Le (xglSerializeU32Le value ++ rest) = value := by
  have hbytes : [byteAt (xglSerializeU32Le value ++ rest) 0,
      byteAt (xglSerializeU32Le value ++ rest) 1, byteAt (xglSerializeU32Le value ++ rest) 2,
      byteAt (xglSerializeU32Le value ++ rest) 3] = xglSerializeU32Le value := rfl
  have hlt : value.toNat < 256 ^ 4 := value.toNat_lt
  apply UInt32.toNat_inj.mp
  rw [toNat_xglDeserializeU32Le, hbytes, xglSerializeU32Le_eq, natOfLe_natToLe,
    Nat.mod_eq_of_lt hlt]

/-- Writing back a 16-bit field gives the bytes it was read from. -/
@[simp] theorem xglSerializeU16Le_deserialize (buffer : Bytes) :
    xglSerializeU16Le (xglDeserializeU16Le buffer) = [byteAt buffer 0, byteAt buffer 1] := by
  rw [xglSerializeU16Le_eq, toNat_xglDeserializeU16Le]
  exact natToLe_natOfLe [byteAt buffer 0, byteAt buffer 1]

/-- Writing back a 32-bit field gives the bytes it was read from. -/
@[simp] theorem xglSerializeU32Le_deserialize (buffer : Bytes) :
    xglSerializeU32Le (xglDeserializeU32Le buffer)
      = [byteAt buffer 0, byteAt buffer 1, byteAt buffer 2, byteAt buffer 3] := by
  rw [xglSerializeU32Le_eq, toNat_xglDeserializeU32Le]
  exact natToLe_natOfLe [byteAt buffer 0, byteAt buffer 1, byteAt buffer 2, byteAt buffer 3]

/-! ### CRC16 -/

/-- `crc16_modbus_table`. -/
def crc16ModbusTable : List UInt16 :=
  [0x0000, 0xC0C1, 0xC181, 0x0140, 0xC301, 0x03C0, 0x0280, 0xC241,
   0xC601, 0x06C0, 0x0780, 0xC741, 0x0500, 0xC5C1, 0xC481, 0x0440,
   0xCC01, 0x0CC0, 0x0D80, 0xCD41, 0x0F00, 0xCFC1, 0xCE81, 0x0E40,
   0x0A00, 0xCAC1, 0xCB81, 0x0B40, 0xC901, 0x09C0, 0x0880, 0xC841,
   0xD801, 0x18C0, 0x1980, 0xD941, 0x1B00, 0xDBC1, 0xDA81, 0x1A40,
   0x1E00, 0xDEC1, 0xDF81, 0x1F40, 0xDD01, 0x1DC0, 0x1C80, 0xDC41,
   0x1400, 0xD4C1, 0xD581, 0x1540, 0xD701, 0x17C0, 0x1680, 0xD641,
   0xD201, 0x12C0, 0x1380, 0xD341, 0x1100, 0xD1C1, 0xD081, 0x1040,
   0xF001, 0x30C0, 0x3180, 0xF141, 0x3300, 0xF3C1, 0xF281, 0x3240,
   0x3600, 0xF6C1, 0xF781, 0x3740, 0xF501, 0x35C0, 0x3480, 0xF441,
   0x3C00, 0xFCC1, 0xFD81, 0x3D40, 0xFF01, 0x3FC0, 0x3E80, 0xFE41,
   0xFA01, 0x3AC0, 0x3B80, 0xFB41, 0x3900, 0xF9C1, 0xF881, 0x3840,
   0x2800, 0xE8C1, 0xE981, 0x2940, 0xEB01, 0x2BC0, 0x2A80, 0xEA41,
   0xEE01, 0x2EC0, 0x2F80, 0xEF41, 0x2D00, 0xEDC1, 0xEC81, 0x2C40,
   0xE401, 0x24C0, 0x2580, 0xE541, 0x2700, 0xE7C1, 0xE681, 0x2640,
   0x2200, 0xE2C1, 0xE381, 0x2340, 0xE101, 0x21C0, 0x2080, 0xE041,
   0xA001, 0x60C0, 0x6180, 0xA141, 0x6300, 0xA3C1, 0xA281, 0x6240,
   0x6600, 0xA6C1, 0xA781, 0x6740, 0xA501, 0x65C0, 0x6480, 0xA441,
   0x6C00, 0xACC1, 0xAD81, 0x6D40, 0xAF01, 0x6FC0, 0x6E80, 0xAE41,
   0xAA01, 0x6AC0, 0x6B80, 0xAB41, 0x6900, 0xA9C1, 0xA881, 0x6840,
   0x7800, 0xB8C1, 0xB981, 0x7940, 0xBB01, 0x7BC0, 0x7A80, 0xBA41,
   0xBE01, 0x7EC0, 0x7F80, 0xBF41, 0x7D00, 0xBDC1, 0xBC81, 0x7C40,
   0xB401, 0x74C0, 0x7580, 0xB541, 0x7700, 0xB7C1, 0xB681, 0x7640,
   0x7200, 0xB2C1, 0xB381, 0x7340, 0xB101, 0x71C0, 0x7080, 0xB041,
   0x5000, 0x90C1, 0x9181, 0x5140, 0x9301, 0x53C0, 0x5280, 0x9241,
   0x9601, 0x56C0, 0x5780, 0x9741, 0x5500, 0x95C1, 0x9481, 0x5440,
   0x9C01, 0x5CC0, 0x5D80, 0x9D41, 0x5F00, 0x9FC1, 0x9E81, 0x5E40,
   0x5A00, 0x9AC1, 0x9B81, 0x5B40, 0x9901, 0x59C0, 0x5880, 0x9841,
   0x8801, 0x48C0, 0x4980, 0x8941, 0x4B00, 0x8BC1, 0x8A81, 0x4A40,
   0x4E00, 0x8EC1, 0x8F81, 0x4F40, 0x8D01, 0x4DC0, 0x4C80, 0x8C41,
   0x4400, 0x84C1, 0x8581, 0x4540, 0x8701, 0x47C0, 0x4680, 0x8641,
   0x8201, 0x42C0, 0x4380, 0x8341, 0x4100, 0x81C1, 0x8081, 0x4040]

/-- One byte of `xgl_crc16_modbus_update`. -/
def crc16ModbusStep (crc : UInt16) (byte : UInt8) : UInt16 :=
  (crc >>> 8) ^^^ crc16ModbusTable.getD ((crc ^^^ byte.toUInt16).toUInt8).toNat 0

/-- `xgl_crc16_modbus_update`. -/
def xglCrc16ModbusUpdate (crc : UInt16) (data : Bytes) : UInt16 :=
  data.foldl crc16ModbusStep crc

/-- `xgl_crc16_modbus`. -/
def xglCrc16Modbus (data : Bytes) : UInt16 :=
  xglCrc16ModbusUpdate 0xFFFF data

/-- The check value of the MODBUS checksum. -/
example : xglCrc16Modbus [0x31, 0x32, 0x33, 0x34, 0x35, 0x36, 0x37, 0x38, 0x39] = 0x4B37 := by
  decide

end XgenLink
