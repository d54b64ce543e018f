import PcpClient.Serialization

/-!
Typed fields laid out one after the other with serialize() and read back in the same
order: the layout is appended to the buffer and the reads end where it ends.
-/
namespace PcpFields
open PcpOctets PcpSerialization

inductive Field where
  | uint8 (number : UInt8)
  | uint32 (number : UInt32)
  | text (txt : Bytes)
  deriving DecidableEq, Repr

inductive FieldType where
  | uint8
  | uint32
  | text (thingSize : Nat)
  deriving DecidableEq, Repr

def Field.fieldType : Field → FieldType
  | .uint8 _ => .uint8
  | .uint32 _ => .uint32
  | .text txt => .text txt.length

def Field.serialize (buffer : Bytes) : Field → Except Fault Bytes
  | .uint8 number => serializeUInt8 number 1 buffer
  | .uint32 number => serializeUInt32 number 4 buffer
  | .text txt => serializeString txt txt.length buffer

def FieldType.deserialize (start : Bytes) : FieldType → Except Fault (Field × Bytes)
  | .uint8 => do
    let (number, start) ← deserializeUInt8 1 start
    return (.uint8 number, start)
  | .uint32 => do
    let (number, start) ← deserializeUInt32 4 start
    return (.uint32 number, start)
  | .text thingSize => do
    let (txt, start) ← deserializeString thingSize start
    return (.text txt, start)

def serializeFields : List Field → Bytes → Except Fault Bytes
  | [], buffer => .ok buffer
  | field :: rest, buffer => do
    let buffer ← field.serialize buffer
    serializeFields rest buffer

def deserializeFields : List FieldType → Bytes → Except Fault (List Field × Bytes)
  | [], start => .ok ([], start)
  | fieldType :: rest, start => do
    let (field, start) ← fieldType.deserialize start
    let (fields, start) ← deserializeFields rest start
    return (field :: fields, start)

/-- The bytes of a field, numbers in network byte order. -/
def Field.octets : Field → Bytes
  | .uint8 number => [number]
  | .uint32 number => networkBytes 4 number.toNat
  | .text txt => txt

theorem field_serialized (field : Field) (buffer : Bytes) :
    field.serialize buffer = .ok (buffer ++ field.octets) := by
  cases field with
  | uint8 number => exact serialize_ok [number] buffer
  | uint32 number =>
    have written := serialize_ok (networkBytes 4 number.toNat) buffer
    rw [networkBytes_length] at written
    exact written
  | text txt => exact serialize_ok txt buffer

theorem field_deserialized (field : Field) (rest : Bytes) :
    field.fieldType.deserialize (field.octets ++ rest) = .ok (field, rest) := by
  cases field with
  | uint8 number =>
    simp only [Field.fieldType, FieldType.deserialize, Field.octets, List.singleton_append,
      deserializeUInt8_cons]
    rfl
  | uint32 number =>
    simp only [Field.fieldType, FieldType.deserialize, Field.octets, deserializeUInt32_network]
    rfl
  | text txt =>
    simp only [Field.fieldType, FieldType.deserialize, Field.octets, deserializeString,
      readBytes_append]
    rfl

theorem fields_serialized (fields : List Field) (buffer : Bytes) :
    serializeFields fields buffer = .ok (buffer ++ fields.flatMap Field.octets) := by
  induction fields generalizing buffer with
  | nil => simp [serializeFields]
  | cons field rest ih =>
    simp only [serializeFields, field_serialized, ok_bind, ih, List.flatMap_cons,
      List.append_assoc]

theorem fields_deserialized (fields : List Field) (suffix : Bytes) :
    deserializeFields (fields.map Field.fieldType) (fields.flatMap Field.octets ++ suffix) =
      .ok (fields, suffix) := by
  induction fields with
  | nil => rfl
  | cons field rest ih =>
    simp only [List.map_cons, List.flatMap_cons, List.append_assoc, deserializeFields,
      field_deserialized, ok_bind, ih]
    rfl

/-- Fields serialized onto a buffer and followed by any bytes are read back from the old end
    of the buffer, up to where those bytes start; the buffer is kept, and each 32-bit number
    stands in network byte order after the fields before it. -/
theorem fields_read_back (fields : List Field) (buffer suffix : Bytes) :
    ∃ written, serializeFields fields buffer = .ok written ∧
      written.take buffer.length = buffer ∧
      deserializeFields (fields.map Field.fieldType)
          ((written ++ suffix).drop buffer.length) =
        .ok (fields, (written ++ suffix).drop written.length) ∧
      ∀ before number after, fields = before ++ .uint32 number :: after →
        ∃ earlier, serializeFields before buffer = .ok earlier ∧
          (written.drop earlier.length).take 4 = networkBytes 4 number.toNat := by
  refine ⟨_, fields_serialized fields buffer, by simp, ?_, ?_⟩
  · have start : ((buffer ++ fields.flatMap Field.octets) ++ suffix).drop buffer.length =
        fields.flatMap Field.octets ++ suffix := by
      rw [List.append_assoc, List.drop_left]
    rw [start, List.drop_left]
    exact fields_deserialized fields suffix
  · rintro before number after rfl
    refine ⟨_, fields_serialized before buffer, ?_⟩
    have four := networkBytes_length 4 number.toNat
    have split : buffer ++ (before ++ .uint32 number :: after).flatMap Field.octets =
        (buffer ++ before.flatMap Field.octets) ++
          (networkBytes 4 number.toNat ++ after.flatMap Field.octets) := by
      simp [List.flatMap_append, Field.octets]
    rw [split, List.drop_left, ← four]
    exact List.take_left

/-- A version byte, a size and a text after it, onto a buffer that is not empty. -/
example : serializeFields [.uint8 1, .uint32 258, .text [104, 105]] [7] =
    .ok [7, 1, 0, 0, 1, 2, 104, 105] := by decide

end PcpFields
