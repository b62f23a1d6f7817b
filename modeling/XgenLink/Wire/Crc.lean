import XgenLink.Wire.Codec
import XgenLink.Lib.Crc

/-!
# `XgenLink.Wire.Crc`: the checksums are what their tables stand for

`src/wire/xgl_crc.c`: the CRC8, and for it and the CRC16 of `XgenLink.Wire.Codec` that looking
bytes up in the table computes the reflected checksum of the polynomial. The tables are those of
the source, entry by entry, and are compared with the bitwise computation of
`XgenLink.Lib.Crc`.

* `crc8MaximTable_eq`, `crc16ModbusTable_eq`: every entry is eight steps of its index.
* `xglCrc8MaximUpdate_toBitVec`, `xglCrc16ModbusUpdate_toBitVec`: feeding bytes.
* `crcs_are_reflected`: both checksums of every message, fed at once or in parts.
-/

set_option autoImplicit false

namespace XgenLink

/-! ### CRC8 -/

/-- `crc8_maxim_table`. -/
def crc8MaximTable : List UInt8 :=
  [0x00, 0x5E, 0xBC, 0xE2, 0x61, 0x3F, 0xDD, 0x83,
   0xC2, 0x9C, 0x7E, 0x20, 0xA3, 0xFD, 0x1F, 0x41,
   0x9D, 0xC3, 0x21, 0x7F, 0xFC, 0xA2, 0x40, 0x1E,
   0x5F, 0x01, 0xE3, 0xBD, 0x3E, 0x60, 0x82, 0xDC,
   0x23, 0x7D, 0x9F, 0xC1, 0x42, 0x1C, 0xFE, 0xA0,
   0xE1, 0xBF, 0x5D, 0x03, 0x80, 0xDE, 0x3C, 0x62,
   0xBE, 0xE0, 0x02, 0x5C, 0xDF, 0x81, 0x63, 0x3D,
   0x7C, 0x22, 0xC0, 0x9E, 0x1D, 0x43, 0xA1, 0xFF,
   0x46, 0x18, 0xFA, 0xA4, 0x27, 0x79, 0x9B, 0xC5,
   0x84, 0xDA, 0x38, 0x66, 0xE5, 0xBB, 0x59, 0x07,
   0xDB, 0x85, 0x67, 0x39, 0xBA, 0xE4, 0x06, 0x58,
   0x19, 0x47, 0xA5, 0xFB, 0x78, 0x26, 0xC4, 0x9A,
   0x65, 0x3B, 0xD9, 0x87, 0x04, 0x5A, 0xB8, 0xE6,
   0xA7, 0xF9, 0x1B, 0x45, 0xC6, 0x98, 0x7A, 0x24,
   0xF8, 0xA6, 0x44, 0x1A, 0x99, 0xC7, 0x25, 0x7B,
   0x3A, 0x64, 0x86, 0xD8, 0x5B, 0x05, 0xE7, 0xB9,
   0x8C, 0xD2, 0x30, 0x6E, 0xED, 0xB3, 0x51, 0x0F,
   0x4E, 0x10, 0xF2, 0xAC, 0x2F, 0x71, 0x93, 0xCD,
   0x11, 0x4F, 0xAD, 0xF3, 0x70, 0x2E, 0xCC, 0x92,
   0xD3, 0x8D, 0x6F, 0x31, 0xB2, 0xEC, 0x0E, 0x50,
   0xAF, 0xF1, 0x13, 0x4D, 0xCE, 0x90, 0x72, 0x2C,
   0x6D, 0x33, 0xD1, 0x8F, 0x0C, 0x52, 0xB0, 0xEE,
   0x32, 0x6C, 0x8E, 0xD0, 0x53, 0x0D, 0xEF, 0xB1,
   0xF0, 0xAE, 0x4C, 0x12, 0x91, 0xCF, 0x2D, 0x73,
   0xCA, 0x94, 0x76, 0x28, 0xAB, 0xF5, 0x17, 0x49,
   0x08, 0x56, 0xB4, 0xEA, 0x69, 0x37, 0xD5, 0x8B,
   0x57, 0x09, 0xEB, 0xB5, 0x36, 0x68, 0x8A, 0xD4,
   0x95, 0xCB, 0x29, 0x77, 0xF4, 0xAA, 0x48, 0x16,
   0xE9, 0xB7, 0x55, 0x0B, 0x88, 0xD6, 0x34, 0x6A,
   0x2B, 0x75, 0x97, 0xC9, 0x4A, 0x14, 0xF6, 0xA8,
   0x74, 0x2A, 0xC8, 0x96, 0x15, 0x4B, 0xA9, 0xF7,
   0xB6, 0xE8, 0x0A, 0x54, 0xD7, 0x89, 0x6B, 0x35]

/-- One byte of `xgl_crc8_maxim_update`. -/
def crc8MaximStep (crc : UInt8) (byte : UInt8) : UInt8 :=
  crc8MaximTable.getD (crc ^^^ byte).toNat 0

/-- `xgl_crc8_maxim_update`. -/
def xglCrc8MaximUpdate (crc : UInt8) (data : Bytes) : UInt8 :=
  data.foldl crc8MaximStep crc

/-- `xgl_crc8_maxim`. -/
def xglCrc8Maxim (data : Bytes) : UInt8 :=
  xglCrc8MaximUpdate 0 data

/-- The check value of the MAXIM checksum. -/
example : xglCrc8Maxim [0x31, 0x32, 0x33, 0x34, 0x35, 0x36, 0x37, 0x38, 0x39] = 0xA1 := by
  decide

/-! ### The tables -/

/-- The polynomial of the CRC8, reflected. -/
def CRC8_MAXIM_POLY : BitVec 8 := 0x8C#8

/-- The polynomial of the CRC16, reflected. -/
def CRC16_MODBUS_POLY : BitVec 16 := 0xA001#16

/-- The table of the CRC8 holds eight steps of every byte. -/
theorem crc8MaximTable_eq : crc8MaximTable.map UInt8.toBitVec
    = (List.range 256).map fun i => crcBits CRC8_MAXIM_POLY 8 ((BitVec.ofNat 8 i).setWidth 8) := by
  decide +kernel

/-- The table of the CRC16 holds eight steps of every byte. -/
theorem crc16ModbusTable_eq : crc16ModbusTable.map UInt16.toBitVec
    = (List.range 256).map fun i =>
        crcBits CRC16_MODBUS_POLY 8 ((BitVec.ofNat 8 i).setWidth 16) := by
  decide +kernel

/-- An entry of a table whose images under `read` are known. -/
theorem tableEntry_eq {α β : Type} {read : α → β} {table : List α} {value : Nat → β}
    (htable : table.map read = (List.range 256).map value) (fallback : α) (index : BitVec 8) :
    read (table.getD index.toNat fallback) = value index.toNat := by
  have hindex : index.toNat < 256 := index.isLt
  have hlength : table.length = 256 := by
    have := congrArg List.length htable
    simpa using this
  have hread := congrArg (fun entries => entries[index.toNat]?) htable
  simp only [List.getElem?_map, List.getElem?_range hindex, Option.map_some] at hread
  rw [List.getD_eq_getElem?_getD]
  obtain ⟨entry, hentry⟩ : ∃ entry, table[index.toNat]? = some entry :=
    ⟨_, List.getElem?_eq_getElem (by omega)⟩
  rw [hentry] at hread ⊢
  exact Option.some.inj hread

/-! ### The checksums -/

/-- A message as bit vectors. -/
def messageBits (data : Bytes) : List (BitVec 8) := data.map UInt8.toBitVec

/-- Feeding bytes to the CRC8 is feeding them to the reflected checksum. -/
theorem xglCrc8MaximUpdate_toBitVec (crc : UInt8) (data : Bytes) :
    (xglCrc8MaximUpdate crc data).toBitVec
      = reflectedCrc CRC8_MAXIM_POLY crc.toBitVec (messageBits data) := by
  induction data generalizing crc with
  | nil => rfl
  | cons byte rest ih =>
    have hentry := tableEntry_eq crc8MaximTable_eq 0 (crc ^^^ byte).toBitVec
    have hstep : (crc8MaximStep crc byte).toBitVec
        = crcByte CRC8_MAXIM_POLY crc.toBitVec byte.toBitVec := by
      show UInt8.toBitVec (crc8MaximTable.getD (crc ^^^ byte).toBitVec.toNat 0) = _
      rw [hentry, crcByte]
      simp
    show (xglCrc8MaximUpdate (crc8MaximStep crc byte) rest).toBitVec = _
    rw [ih, hstep]
    rfl

/-- Feeding bytes to the CRC16 is feeding them to the reflected checksum. -/
theorem xglCrc16ModbusUpdate_toBitVec (crc : UInt16) (data : Bytes) :
    (xglCrc16ModbusUpdate crc data).toBitVec
      = reflectedCrc CRC16_MODBUS_POLY crc.toBitVec (messageBits data) := by
  induction data generalizing crc with
  | nil => rfl
  | cons byte rest ih =>
    have hentry := tableEntry_eq crc16ModbusTable_eq 0 (crc ^^^ byte.toUInt16).toUInt8.toBitVec
    have hstep : (crc16ModbusStep crc byte).toBitVec
        = crcByte CRC16_MODBUS_POLY crc.toBitVec byte.toBitVec := by
      show ((crc >>> 8) ^^^ crc16ModbusTable.getD
        (crc ^^^ byte.toUInt16).toUInt8.toBitVec.toNat 0).toBitVec = _
      rw [UInt16.toBitVec_xor, hentry, crcByte_table, BitVec.ofNat_toNat, BitVec.setWidth_eq]
      rfl
    show (xglCrc16ModbusUpdate (crc16ModbusStep crc byte) rest).toBitVec = _
    rw [ih, hstep]
    rfl

/-- Every message has the reflected checksums of the two polynomials, and a
message fed in two parts has the checksums of the whole. -/
theorem crcs_are_reflected :
    (∀ data : Bytes, (xglCrc16Modbus data).toBitVec
      = reflectedCrc 0xA001#16 0xFFFF#16 (data.map UInt8.toBitVec)) ∧
    (∀ data : Bytes, (xglCrc8Maxim data).toBitVec
      = reflectedCrc 0x8C#8 0#8 (data.map UInt8.toBitVec)) ∧
    (∀ front back : Bytes,
      xglCrc16ModbusUpdate (xglCrc16Modbus front) back = xglCrc16Modbus (front ++ back)) ∧
    (∀ front back : Bytes,
      xglCrc8MaximUpdate (xglCrc8Maxim front) back = xglCrc8Maxim (front ++ back)) := by
  refine ⟨?_, ?_, ?_, ?_⟩
  · intro data
    exact xglCrc16ModbusUpdate_toBitVec 0xFFFF data
  · intro data
    exact xglCrc8MaximUpdate_toBitVec 0 data
  · intro front back
    exact List.foldl_append.symm
  · intro front back
    exact List.foldl_append.symm

end XgenLink
