import XgenLink.Lib.Bytes

/-!
# `XgenLink.Lib.ValueCodec`: encoders and decoders that are inverse to each other

A codec writes a value into a buffer of a given size and reads it back into arrays of a given
capacity; both may refuse. Which values and which sizes are refused belongs to the codec, and the
statement about it should hold for all of them.

A codec is exact (`ValueCodec.Exact`) when reading undoes writing, writing undoes reading, and the
byte strings the decoder accepts are therefore just the ones the encoder writes. So no two byte
strings mean the same value, and a decoded value can be passed on without a change of its bytes.
The third part follows from the other two (`ValueCodec.Exact.of_inverse`).
-/

set_option autoImplicit false

namespace XgenLink

variable {Value Err : Type}

/-- An encoder and a decoder for the values of one layout. -/
structure ValueCodec (Value Err : Type) where
  /-- The values the layout can hold. -/
  Valid : Value → Prop
  /-- The bytes a value takes. -/
  size : Value → Nat
  /-- The room its variable part needs where it is decoded to. -/
  room : Value → Nat
  /-- Writing a value into a buffer of the given size. -/
  encode : Nat → Value → Except Err Bytes
  /-- Reading a value into an array of the given capacity. -/
  decode : Nat → Bytes → Except Err Value

/-- Encoder and decoder are inverse to each other on byte strings of at most
`limit` bytes. -/
structure ValueCodec.Exact (codec : ValueCodec Value Err) (limit : Nat) : Prop where
  decode_encode : ∀ value bufferSize capacity, codec.Valid value →
    codec.size value ≤ bufferSize → codec.room value ≤ capacity →
      ∃ bytes, codec.encode bufferSize value = .ok bytes ∧ bytes.length = codec.size value ∧
        bytes.length ≤ limit ∧ codec.decode capacity bytes = .ok value
  encode_decode : ∀ bytes capacity value, bytes.length ≤ limit →
    codec.decode capacity bytes = .ok value →
      codec.Valid value ∧ codec.room value ≤ capacity ∧ codec.size value = bytes.length ∧
        ∀ bufferSize, bytes.length ≤ bufferSize → codec.encode bufferSize value = .ok bytes
  accepted_iff : ∀ bytes capacity, bytes.length ≤ limit →
    ((∃ value, codec.decode capacity bytes = .ok value) ↔
      ∃ value, codec.Valid value ∧ codec.room value ≤ capacity ∧
        codec.encode (codec.size value) value = .ok bytes)

/-- Two round trips make a codec exact. -/
theorem ValueCodec.Exact.of_inverse {codec : ValueCodec Value Err} {limit : Nat}
    (hencode : ∀ value bufferSize capacity, codec.Valid value →
      codec.size value ≤ bufferSize → codec.room value ≤ capacity →
        ∃ bytes, codec.encode bufferSize value = .ok bytes ∧ bytes.length = codec.size value ∧
          bytes.length ≤ limit ∧ codec.decode capacity bytes = .ok value)
    (hdecode : ∀ bytes capacity value, bytes.length ≤ limit →
      codec.decode capacity bytes = .ok value →
        codec.Valid value ∧ codec.room value ≤ capacity ∧ codec.size value = bytes.length ∧
          ∀ bufferSize, bytes.length ≤ bufferSize → codec.encode bufferSize value = .ok bytes) :
    codec.Exact limit where
  decode_encode := hencode
  encode_decode := hdecode
  accepted_iff := by
    intro bytes capacity hlimit
    constructor
    · rintro ⟨value, hvalue⟩
      have hback := hdecode bytes capacity value hlimit hvalue
      exact ⟨value, hback.1, hback.2.1, hback.2.2.2 _ (le_of_eq hback.2.2.1.symm)⟩
    · rintro ⟨value, hvalid, hroom, hbytes⟩
      obtain ⟨written, hwritten, -, -, hread⟩ :=
        hencode value (codec.size value) capacity hvalid (le_refl _) hroom
      rw [hbytes] at hwritten
      injection hwritten with hsame
      exact ⟨value, hsame ▸ hread⟩

end XgenLink
