/-
AMF0 values (`rtmp/Amf0Value.h`, `rtmp/Amf0Encoder.cc`, `rtmp/Amf0Decoder.cc`).

A `double` is its 64-bit pattern, and an object is a `std::map<std::string, Amf0Value>`:
the list of its properties in increasing order of their keys. The encoder writes that
order; the decoder rebuilds the map with `emplace`, so of two properties with one key
the first stays.

* `decodeValue_appendValue`, `decodeObject_appendProperties` — a value, and the rest of
  an object, are read back whatever follows them.
* `ValueFrame` — a value at the front of the data, with its type marker.
* `decode_wellFormed` — what the decoder accepts are values the encoder can write.
* `decode_fuel` — the recursion bound of the model is never reached.
* `decodeAll_round_trip` — the round trip, from values and from bytes.
-/

import Rmuduo.Lib.Bytes
import Rmuduo.Lib.OrderedMap

namespace Rmuduo.Rtmp

open Lib

def kAmf0Number : UInt8 := 0x00
def kAmf0Boolean : UInt8 := 0x01
def kAmf0String : UInt8 := 0x02
def kAmf0Object : UInt8 := 0x03
def kAmf0Null : UInt8 := 0x05
def kAmf0EcmaArray : UInt8 := 0x08
def kAmf0ObjectEnd : UInt8 := 0x09

/-- `Amf0Value`. -/
inductive Amf0Value where
  | number (bits : UInt64)
  | boolean (value : Bool)
  | string (value : Bytes)
  | object (properties : List (Bytes × Amf0Value))
  | null
  | ecmaArray (properties : List (Bytes × Amf0Value))

/-! ### Encoder -/

/-- `appendString`, without the type marker. -/
def appendKey (value : Bytes) : Bytes :=
  putUint16BE value.length.toUInt16 ++ value

/-- The bytes that end an object. -/
def objectEnd : Bytes := putUint16BE 0 ++ [kAmf0ObjectEnd]

mutual

/-- `appendValue`. -/
def appendValue : Amf0Value → Bytes
  | .number bits => kAmf0Number :: putUint64BE bits
  | .boolean value => [kAmf0Boolean, if value then 1 else 0]
  | .string value => kAmf0String :: appendKey value
  | .object properties => kAmf0Object :: (appendProperties properties ++ objectEnd)
  | .null => [kAmf0Null]
  | .ecmaArray properties =>
      kAmf0EcmaArray :: (putUint32BE properties.length.toUInt32 ++
        (appendProperties properties ++ objectEnd))
termination_by structural v => v

/-- The loop of `appendObject`. -/
def appendProperties : List (Bytes × Amf0Value) → Bytes
  | [] => []
  | (key, value) :: properties =>
      appendKey key ++ (appendValue value ++ appendProperties properties)
termination_by structural o => o

end

/-- The values of a message, one after the other. -/
def appendValues (values : List Amf0Value) : Bytes :=
  (values.map appendValue).flatten

/-! ### Decoder -/

/-- `decodeString`: the string and the bytes it takes. -/
def decodeString (data : Bytes) : Except String (Bytes × Nat) :=
  if data.length < 2 then .error "amf0 string length is truncated"
  else
    let length := (readUint16BE data).toNat
    if data.length < 2 + length then .error "amf0 string payload is truncated"
    else .ok ((data.drop 2).take length, 2 + length)

/-- The object end marker stands at the front. -/
def atObjectEnd (data : Bytes) : Prop :=
  3 ≤ data.length ∧ byteAt data 0 = 0 ∧ byteAt data 1 = 0 ∧ byteAt data 2 = kAmf0ObjectEnd

instance (data : Bytes) : Decidable (atObjectEnd data) := by
  unfold atObjectEnd; infer_instance

mutual

/-- `decodeValue`: the value and the bytes it takes; `0` bytes for no data. The source
recurses on the data, of which every call takes some; `data.length` levels are enough
(`decode_fuel`). -/
def decodeValue : Nat → Bytes → Except String (Amf0Value × Nat)
  | 0, _ => .ok (.null, 0)
  | fuel + 1, data =>
      if data.length = 0 then .ok (.null, 0)
      else
        let type := byteAt data 0
        if type = kAmf0Number then
          if data.length < 1 + 8 then .error "amf0 number payload is truncated"
          else .ok (.number (readUint64BE (data.drop 1)), 9)
        else if type = kAmf0Boolean then
          if data.length < 2 then .error "amf0 boolean payload is truncated"
          else .ok (.boolean (byteAt data 1 ≠ 0), 2)
        else if type = kAmf0String then
          match decodeString (data.drop 1) with
          | .error e => .error e
          | .ok (value, used) => .ok (.string value, 1 + used)
        else if type = kAmf0Object then
          match decodeObject fuel (data.drop 1) [] with
          | .error e => .error e
          | .ok (properties, used) => .ok (.object properties, 1 + used)
        else if type = kAmf0EcmaArray then
          if data.length < 5 then .error "amf0 ecma array payload is truncated"
          else
            match decodeObject fuel (data.drop 5) [] with
            | .error e => .error e
            | .ok (properties, used) => .ok (.ecmaArray properties, 5 + used)
        else if type = kAmf0Null then .ok (.null, 1)
        else .error "unsupported amf0 type marker"
termination_by structural fuel => fuel

/-- The loop of `decodeObject`, with the properties read so far: all properties, and the
bytes from here to behind the end marker. -/
def decodeObject : Nat → Bytes → List (Bytes × Amf0Value) →
    Except String (List (Bytes × Amf0Value) × Nat)
  | 0, _, _ => .error "amf0 object end marker is missing"
  | fuel + 1, data, properties =>
      if data.length = 0 then .error "amf0 object end marker is missing"
      else if atObjectEnd data then .ok (properties, 3)
      else
        match decodeString data with
        | .error e => .error e
        | .ok (key, keyBytes) =>
            match decodeValue fuel (data.drop keyBytes) with
            | .error e => .error e
            | .ok (property, valueBytes) =>
                if valueBytes = 0 then .error "amf0 object property is empty"
                else
                  match decodeObject fuel (data.drop (keyBytes + valueBytes))
                      (OrderedMap.emplace key property properties) with
                  | .error e => .error e
                  | .ok (all, used) => .ok (all, keyBytes + valueBytes + used)
termination_by structural fuel => fuel

end

/-- The loop of `decodeAll`. -/
def decodeAllLoop : Nat → Bytes → Except String (List Amf0Value)
  | 0, _ => .ok []
  | fuel + 1, data =>
      if data.length = 0 then .ok []
      else
        match decodeValue data.length data with
        | .error e => .error e
        | .ok (value, used) =>
            if used = 0 then .ok []
            else
              match decodeAllLoop fuel (data.drop used) with
              | .error e => .error e
              | .ok values => .ok (value :: values)

/-- `decodeAll`. -/
def decodeAll (data : Bytes) : Except String (List Amf0Value) :=
  decodeAllLoop data.length data

/-! ### Values that can be written -/

mutual

/-- The invariant of `std::map`, in every object of the value. -/
def Amf0Value.Ordered : Amf0Value → Prop
  | .object properties => OrderedMap.Ordered properties ∧ propertiesOrdered properties
  | .ecmaArray properties => OrderedMap.Ordered properties ∧ propertiesOrdered properties
  | .number _ => True
  | .boolean _ => True
  | .string _ => True
  | .null => True
termination_by structural v => v

def propertiesOrdered : List (Bytes × Amf0Value) → Prop
  | [] => True
  | (_, value) :: properties => value.Ordered ∧ propertiesOrdered properties
termination_by structural o => o

end

mutual

/-- Every string and every key has at most 65535 bytes. -/
def Amf0Value.Fits : Amf0Value → Prop
  | .string value => value.length ≤ 65535
  | .object properties => propertiesFit properties
  | .ecmaArray properties => propertiesFit properties
  | .number _ => True
  | .boolean _ => True
  | .null => True
termination_by structural v => v

def propertiesFit : List (Bytes × Amf0Value) → Prop
  | [] => True
  | (key, value) :: properties =>
      key.length ≤ 65535 ∧ value.Fits ∧ propertiesFit properties
termination_by structural o => o

end

/-! ### Reading back what was written -/

theorem length_appendKey (value : Bytes) : (appendKey value).length = 2 + value.length := by
  rw [appendKey, List.length_append, length_putUint16BE]

theorem decodeString_appendKey {value : Bytes} (h : value.length ≤ 65535) (rest : Bytes) :
    decodeString (appendKey value ++ rest) = .ok (value, 2 + value.length) := by
  have hlength : (readUint16BE (appendKey value ++ rest)).toNat = value.length := by
    rw [appendKey, List.append_assoc, readUint16BE_put]
    exact UInt16.toNat_ofNat_of_lt' (by simp only [UInt16.size]; omega)
  have hsize : (appendKey value ++ rest).length = 2 + value.length + rest.length := by
    rw [List.length_append, length_appendKey]
  unfold decodeString
  rw [if_neg (by omega)]
  dsimp only
  rw [hlength, if_neg (by omega)]
  simp [appendKey, putUint16BE]

/-- A written value starts with a type marker, and none of them is the end marker. -/
theorem appendValue_marker (value : Amf0Value) :
    ∃ marker payload, appendValue value = marker :: payload ∧ marker ≠ kAmf0ObjectEnd := by
  cases value <;> exact ⟨_, _, by rw [appendValue], by decide⟩

theorem length_appendValue_pos (value : Amf0Value) : 0 < (appendValue value).length := by
  obtain ⟨marker, payload, h, -⟩ := appendValue_marker value
  rw [h]
  exact Nat.succ_pos _

/-- No property looks like the end marker: an empty key has a type marker behind it. -/
theorem not_atObjectEnd_property {key : Bytes} (h : key.length ≤ 65535) (value : Amf0Value)
    (rest : Bytes) : ¬ atObjectEnd (appendKey key ++ (appendValue value ++ rest)) := by
  obtain ⟨marker, payload, hvalue, hmarker⟩ := appendValue_marker value
  rintro ⟨-, h0, h1, h2⟩
  have hempty : key = [] := by
    have hzero : readUint16BE (appendKey key ++ (appendValue value ++ rest)) = 0 := by
      simp [readUint16BE, h0, h1]
    rw [appendKey, List.append_assoc, readUint16BE_put] at hzero
    have hlen : key.length % 65536 = 0 := by
      simpa using congrArg UInt16.toNat hzero
    exact List.eq_nil_of_length_eq_zero (by omega)
  subst hempty
  rw [hvalue] at h2
  exact hmarker h2

theorem decodeValue_string (fuel : Nat) (payload : Bytes) :
    decodeValue (fuel + 1) (kAmf0String :: payload) =
      match decodeString payload with
      | .error e => .error e
      | .ok (value, used) => .ok (.string value, 1 + used) := rfl

theorem decodeValue_object (fuel : Nat) (payload : Bytes) :
    decodeValue (fuel + 1) (kAmf0Object :: payload) =
      match decodeObject fuel payload [] with
      | .error e => .error e
      | .ok (properties, used) => .ok (.object properties, 1 + used) := rfl

theorem decodeValue_array (fuel : Nat) (payload : Bytes) :
    decodeValue (fuel + 1) (kAmf0EcmaArray :: payload) =
      if (kAmf0EcmaArray :: payload).length < 5 then .error "amf0 ecma array payload is truncated"
      else
        match decodeObject fuel (payload.drop 4) [] with
        | .error e => .error e
        | .ok (properties, used) => .ok (.ecmaArray properties, 5 + used) := rfl

/-- The count in front of the properties is not looked at. -/
theorem decodeValue_ecmaArray (fuel : Nat) (count : UInt32) (payload : Bytes) :
    decodeValue (fuel + 1) (kAmf0EcmaArray :: (putUint32BE count ++ payload)) =
      match decodeObject fuel payload [] with
      | .error e => .error e
      | .ok (properties, used) => .ok (.ecmaArray properties, 5 + used) := by
  have hlen : ¬ (kAmf0EcmaArray :: (putUint32BE count ++ payload)).length < 5 := by
    simp only [List.length_cons, List.length_append, length_putUint32BE]
    omega
  rw [decodeValue_array, if_neg hlen, List.drop_left' (length_putUint32BE count)]

/-- One round of the loop over the properties, in front of a written property. -/
theorem decodeObject_property {key : Bytes} (hkey : key.length ≤ 65535) {value : Amf0Value}
    {fuel : Nat} {earlier : List (Bytes × Amf0Value)} {rest : Bytes}
    (hvalue : decodeValue fuel (appendValue value ++ rest) =
      .ok (value, (appendValue value).length)) :
    decodeObject (fuel + 1) (appendKey key ++ (appendValue value ++ rest)) earlier =
      match decodeObject fuel rest (OrderedMap.emplace key value earlier) with
      | .error e => .error e
      | .ok (all, used) =>
          .ok (all, (appendKey key).length + (appendValue value).length + used) := by
  have hlen : ¬ (appendKey key ++ (appendValue value ++ rest)).length = 0 := by
    simp only [List.length_append, length_appendKey]
    omega
  have hdrop : (appendKey key ++ (appendValue value ++ rest)).drop (2 + key.length) =
      appendValue value ++ rest := List.drop_left' (length_appendKey key)
  have hrest : (appendKey key ++ (appendValue value ++ rest)).drop
      (2 + key.length + (appendValue value).length) = rest := by
    rw [← List.drop_drop, hdrop, List.drop_left]
  have hpos : ¬ (appendValue value).length = 0 := by
    have := length_appendValue_pos value
    omega
  rw [decodeObject, if_neg hlen, if_neg (not_atObjectEnd_property hkey value rest),
    decodeString_appendKey hkey]
  dsimp only
  rw [hdrop, hvalue]
  dsimp only
  rw [if_neg hpos, hrest, length_appendKey]

mutual

/-- A value is read back, whatever follows it. -/
theorem decodeValue_appendValue : (value : Amf0Value) → (fuel : Nat) → (rest : Bytes) →
    value.Ordered → value.Fits → (appendValue value ++ rest).length ≤ fuel →
    decodeValue fuel (appendValue value ++ rest) = .ok (value, (appendValue value).length)
  | value, 0, rest, _, _, hfuel => by
      have hpos := length_appendValue_pos value
      rw [List.length_append] at hfuel
      omega
  | .number bits, fuel + 1, rest, _, _, _ => by
      have hread : readUint64BE (putUint64BE bits ++ rest) = bits := readUint64BE_put bits rest
      simp [appendValue, decodeValue, hread]
  | .boolean value, fuel + 1, rest, _, _, _ => by
      cases value <;> rfl
  | .string value, fuel + 1, rest, _, hfits, _ => by
      rw [Amf0Value.Fits] at hfits
      rw [appendValue, List.cons_append, decodeValue_string, decodeString_appendKey hfits]
      simp only [List.length_cons, length_appendKey, Nat.add_comm]
  | .null, fuel + 1, rest, _, _, _ => by
      rw [appendValue]
      rfl
  | .object properties, fuel + 1, rest, hord, hfits, hfuel => by
      rw [Amf0Value.Ordered] at hord
      rw [Amf0Value.Fits] at hfits
      rw [appendValue, List.cons_append, List.append_assoc] at hfuel ⊢
      have hread := decodeObject_appendProperties properties fuel [] rest hord.1 hord.2 hfits
        (Nat.le_of_succ_le_succ hfuel)
      rw [decodeValue_object, hread]
      simp only [List.nil_append, List.length_cons, Nat.add_comm]
  | .ecmaArray properties, fuel + 1, rest, hord, hfits, hfuel => by
      rw [Amf0Value.Ordered] at hord
      rw [Amf0Value.Fits] at hfits
      rw [appendValue, List.cons_append, List.append_assoc, List.append_assoc] at hfuel ⊢
      have hread := decodeObject_appendProperties properties fuel [] rest hord.1 hord.2 hfits
        (by
          simp only [List.length_cons, List.length_append, length_putUint32BE] at hfuel ⊢
          omega)
      rw [decodeValue_ecmaArray, hread]
      simp only [List.nil_append, List.length_cons, List.length_append, length_putUint32BE,
        Except.ok.injEq, Prod.mk.injEq, true_and]
      omega

/-- The properties that are still to come are read back behind those read so far. -/
theorem decodeObject_appendProperties : (properties : List (Bytes × Amf0Value)) →
    (fuel : Nat) → (earlier : List (Bytes × Amf0Value)) → (rest : Bytes) →
    OrderedMap.Ordered (earlier ++ properties) → propertiesOrdered properties →
    propertiesFit properties →
    (appendProperties properties ++ (objectEnd ++ rest)).length ≤ fuel →
    decodeObject fuel (appendProperties properties ++ (objectEnd ++ rest)) earlier =
      .ok (earlier ++ properties, (appendProperties properties ++ objectEnd).length)
  | properties, 0, earlier, rest, _, _, _, hfuel => by
      simp [objectEnd] at hfuel
  | [], fuel + 1, earlier, rest, _, _, _, _ => by
      have hlen : 3 ≤ (objectEnd ++ rest).length := by
        simp only [objectEnd, List.length_append, length_putUint16BE, List.length_singleton]
        omega
      have hend : atObjectEnd (objectEnd ++ rest) := ⟨hlen, rfl, rfl, rfl⟩
      rw [appendProperties, List.nil_append, decodeObject, if_neg (by omega), if_pos hend,
        List.append_nil]
      rfl
  | (key, value) :: properties, fuel + 1, earlier, rest, hmap, hord, hfits, hfuel => by
      rw [propertiesOrdered] at hord
      rw [propertiesFit] at hfits
      rw [appendProperties, List.append_assoc, List.append_assoc] at hfuel ⊢
      have hshort : (appendValue value ++ (appendProperties properties ++
          (objectEnd ++ rest))).length ≤ fuel := by
        rw [List.length_append, length_appendKey] at hfuel
        omega
      have hlast : ∀ e ∈ earlier, e.1 < key := fun e he =>
        (List.pairwise_append.mp hmap).2.2 e he (key, value) List.mem_cons_self
      have hvalue := decodeValue_appendValue value fuel (appendProperties properties ++
        (objectEnd ++ rest)) hord.1 hfits.2.1 hshort
      have hmap' : OrderedMap.Ordered ((earlier ++ [(key, value)]) ++ properties) := by
        rwa [List.append_assoc]
      have hread := decodeObject_appendProperties properties fuel (earlier ++ [(key, value)]) rest
        hmap' hord.2 hfits.2.2 (by
          rw [List.length_append] at hshort
          omega)
      rw [decodeObject_property hfits.1 hvalue, OrderedMap.emplace_last hlast, hread]
      simp only [List.append_assoc, List.singleton_append, List.length_append, Nat.add_assoc]

end

/-- Values are read back one after the other. -/
theorem decodeAllLoop_appendValues (values : List Amf0Value) (fuel : Nat)
    (hord : ∀ v ∈ values, v.Ordered) (hfits : ∀ v ∈ values, v.Fits)
    (hfuel : (appendValues values).length ≤ fuel) :
    decodeAllLoop fuel (appendValues values) = .ok values := by
  induction values generalizing fuel with
  | nil => cases fuel <;> rfl
  | cons value values ih =>
      have hpos := length_appendValue_pos value
      have hcons : appendValues (value :: values) = appendValue value ++ appendValues values := rfl
      have hlen : (appendValue value ++ appendValues values).length =
          (appendValue value).length + (appendValues values).length := List.length_append
      rw [hcons] at hfuel ⊢
      cases fuel with
      | zero => omega
      | succ fuel =>
          rw [decodeAllLoop, if_neg (by omega),
            decodeValue_appendValue value _ _ (hord value List.mem_cons_self)
              (hfits value List.mem_cons_self) (Nat.le_refl _)]
          dsimp only
          rw [if_neg (by omega), List.drop_left,
            ih fuel (fun v hv => hord v (List.mem_cons_of_mem _ hv))
              (fun v hv => hfits v (List.mem_cons_of_mem _ hv)) (by omega)]

/-- Encoding a list of values and decoding it gives the list back. -/
theorem decodeAll_appendValues {values : List Amf0Value} (hord : ∀ v ∈ values, v.Ordered)
    (hfits : ∀ v ∈ values, v.Fits) : decodeAll (appendValues values) = .ok values :=
  decodeAllLoop_appendValues values _ hord hfits (Nat.le_refl _)

/-! ### What the decoder accepts -/

theorem decodeString_ok {data value : Bytes} {used : Nat}
    (h : decodeString data = .ok (value, used)) :
    value.length ≤ 65535 ∧ 2 ≤ used ∧ used ≤ data.length := by
  unfold decodeString at h
  split at h
  · cases h
  · dsimp only at h
    split at h
    · cases h
    · cases h
      have hlt := (readUint16BE data).toNat_lt
      simp only [List.length_take, List.length_drop]
      omega

theorem propertiesOrdered_iff {properties : List (Bytes × Amf0Value)} :
    propertiesOrdered properties ↔ ∀ e ∈ properties, e.2.Ordered := by
  induction properties with
  | nil => simp [propertiesOrdered]
  | cons e properties ih => simp [propertiesOrdered, ih]

theorem propertiesFit_iff {properties : List (Bytes × Amf0Value)} :
    propertiesFit properties ↔ ∀ e ∈ properties, e.1.length ≤ 65535 ∧ e.2.Fits := by
  induction properties with
  | nil => simp [propertiesFit]
  | cons e properties ih => simp [propertiesFit, ih, and_assoc]

/-- The properties of an object that can be written. -/
structure PropertiesOk (properties : List (Bytes × Amf0Value)) : Prop where
  map : OrderedMap.Ordered properties
  ordered : ∀ e ∈ properties, e.2.Ordered
  fit : ∀ e ∈ properties, e.1.length ≤ 65535 ∧ e.2.Fits

theorem PropertiesOk.nil : PropertiesOk [] :=
  ⟨OrderedMap.ordered_nil, by simp, by simp⟩

theorem PropertiesOk.emplace {properties : List (Bytes × Amf0Value)} (h : PropertiesOk properties)
    {key : Bytes} {value : Amf0Value} (hkey : key.length ≤ 65535) (hord : value.Ordered)
    (hfits : value.Fits) : PropertiesOk (OrderedMap.emplace key value properties) where
  map := OrderedMap.ordered_emplace h.map
  ordered := by
    intro e he
    rcases OrderedMap.key_of_mem_emplace he with rfl | he
    · exact hord
    · exact h.ordered e he
  fit := by
    intro e he
    rcases OrderedMap.key_of_mem_emplace he with rfl | he
    · exact ⟨hkey, hfits⟩
    · exact h.fit e he

/-- A value at the front of the data and the bytes it takes, by its type marker. -/
inductive ValueFrame (fuel : Nat) : Bytes → Amf0Value → Nat → Prop where
  | number {payload : Bytes} (long : 8 ≤ payload.length) :
      ValueFrame fuel (kAmf0Number :: payload) (.number (readUint64BE payload)) 9
  | boolean {value : UInt8} {payload : Bytes} :
      ValueFrame fuel (kAmf0Boolean :: value :: payload) (.boolean (value ≠ 0)) 2
  | string {payload value : Bytes} {used : Nat} (read : decodeString payload = .ok (value, used)) :
      ValueFrame fuel (kAmf0String :: payload) (.string value) (used + 1)
  | object {payload : Bytes} {properties : List (Bytes × Amf0Value)} {used : Nat}
      (read : decodeObject fuel payload [] = .ok (properties, used)) :
      ValueFrame fuel (kAmf0Object :: payload) (.object properties) (used + 1)
  | ecmaArray {count payload : Bytes} {properties : List (Bytes × Amf0Value)} {used : Nat}
      (four : count.length = 4) (read : decodeObject fuel payload [] = .ok (properties, used)) :
      ValueFrame fuel (kAmf0EcmaArray :: (count ++ payload)) (.ecmaArray properties) (used + 5)
  | null {payload : Bytes} : ValueFrame fuel (kAmf0Null :: payload) .null 1

theorem decodeValue_number (fuel : Nat) (payload : Bytes) :
    decodeValue (fuel + 1) (kAmf0Number :: payload) =
      if (kAmf0Number :: payload).length < 1 + 8 then .error "amf0 number payload is truncated"
      else .ok (.number (readUint64BE payload), 9) := rfl

theorem decodeValue_nil (fuel : Nat) : decodeValue fuel [] = .ok (.null, 0) := by
  cases fuel <;> rfl

theorem decodeValue_of_frame {fuel : Nat} {data : Bytes} {value : Amf0Value} {used : Nat}
    (h : ValueFrame fuel data value used) : decodeValue (fuel + 1) data = .ok (value, used) := by
  cases h with
  | @number payload long =>
      rw [decodeValue_number, if_neg]
      rw [List.length_cons]
      omega
  | boolean => rfl
  | string read =>
      rw [decodeValue_string, read]
      dsimp only
      rw [Nat.add_comm]
  | object read =>
      rw [decodeValue_object, read]
      dsimp only
      rw [Nat.add_comm]
  | @ecmaArray count payload properties used four read =>
      rw [decodeValue_array, List.drop_left' four, read, if_neg]
      · dsimp only
        rw [Nat.add_comm]
      · rw [List.length_cons, List.length_append]
        omega
  | null => rfl

/-- A value that is accepted begins with a marker that the decoder knows. -/
theorem known_of_decodeValue {fuel : Nat} {type : UInt8} {payload : Bytes} {r : Amf0Value × Nat}
    (h : decodeValue (fuel + 1) (type :: payload) = .ok r) :
    type = kAmf0Number ∨ type = kAmf0Boolean ∨ type = kAmf0String ∨ type = kAmf0Object ∨
      type = kAmf0EcmaArray ∨ type = kAmf0Null := by
  by_contra hunknown
  simp only [not_or] at hunknown
  obtain ⟨hnumber, hboolean, hstring, hobject, harray, hnull⟩ := hunknown
  have hrejected :
      decodeValue (fuel + 1) (type :: payload) = .error "unsupported amf0 type marker" := by
    rw [decodeValue, if_neg (by rw [List.length_cons]; omega)]
    dsimp only [byteAt_cons_zero]
    rw [if_neg hnumber, if_neg hboolean, if_neg hstring, if_neg hobject, if_neg harray,
      if_neg hnull]
  rw [hrejected] at h
  cases h

/-- A value is accepted at the front of any data only as one of the frames. -/
theorem frame_of_cons {fuel : Nat} {type : UInt8} {payload : Bytes} {value : Amf0Value} {used : Nat}
    (h : decodeValue (fuel + 1) (type :: payload) = .ok (value, used)) :
    ValueFrame fuel (type :: payload) value used := by
  rcases known_of_decodeValue h with rfl | rfl | rfl | rfl | rfl | rfl
  · rw [decodeValue_number] at h
    split_ifs at h with hlen
    rw [List.length_cons] at hlen
    cases h
    exact .number (by omega)
  · cases payload with
    | nil => cases h
    | cons b payload =>
        cases h
        exact .boolean
  · rw [decodeValue_string] at h
    cases hs : decodeString payload with
    | error e =>
        rw [hs] at h
        cases h
    | ok r =>
        rw [hs] at h
        cases h
        rw [Nat.add_comm]
        exact .string hs
  · rw [decodeValue_object] at h
    cases hobj : decodeObject fuel payload [] with
    | error e =>
        rw [hobj] at h
        cases h
    | ok r =>
        rw [hobj] at h
        cases h
        rw [Nat.add_comm]
        exact .object hobj
  · rw [decodeValue_array] at h
    split_ifs at h with hlen
    rw [List.length_cons] at hlen
    cases hobj : decodeObject fuel (payload.drop 4) [] with
    | error e =>
        rw [hobj] at h
        cases h
    | ok r =>
        rw [hobj] at h
        cases h
        rw [Nat.add_comm, ← List.take_append_drop 4 payload]
        exact .ecmaArray (List.length_take_of_le (by omega)) hobj
  · cases h
    exact .null

theorem frame_of_decodeValue {fuel : Nat} {data : Bytes} {value : Amf0Value} {used : Nat}
    (h : decodeValue (fuel + 1) data = .ok (value, used)) (hused : 0 < used) :
    ValueFrame fuel data value used := by
  cases data with
  | nil =>
      cases h
      exact absurd hused (Nat.lt_irrefl 0)
  | cons type payload => exact frame_of_cons h

theorem ValueFrame.used_pos {fuel : Nat} {data : Bytes} {value : Amf0Value} {used : Nat}
    (h : ValueFrame fuel data value used) : 0 < used := by
  cases h <;> omega

/-- A value that `decodeValue` reads, and the bytes it takes. -/
inductive ValueRead (fuel : Nat) (data : Bytes) : Amf0Value → Nat → Prop where
  | nothing : ValueRead fuel data .null 0
  | number {bits : UInt64} (long : 9 ≤ data.length) : ValueRead fuel data (.number bits) 9
  | boolean {b : Bool} (long : 2 ≤ data.length) : ValueRead fuel data (.boolean b) 2
  | string {value : Bytes} {n : Nat} (long : 1 ≤ data.length)
      (read : decodeString (data.drop 1) = .ok (value, n)) :
      ValueRead fuel data (.string value) (1 + n)
  | object {properties : List (Bytes × Amf0Value)} {n : Nat} (long : 1 ≤ data.length)
      (read : decodeObject fuel (data.drop 1) [] = .ok (properties, n)) :
      ValueRead fuel data (.object properties) (1 + n)
  | ecmaArray {properties : List (Bytes × Amf0Value)} {n : Nat} (long : 5 ≤ data.length)
      (read : decodeObject fuel (data.drop 5) [] = .ok (properties, n)) :
      ValueRead fuel data (.ecmaArray properties) (5 + n)
  | null (long : 1 ≤ data.length) : ValueRead fuel data .null 1

theorem valueRead_of_decodeValue {fuel : Nat} {data : Bytes} {value : Amf0Value} {used : Nat}
    (h : decodeValue (fuel + 1) data = .ok (value, used)) : ValueRead fuel data value used := by
  cases data with
  | nil =>
      cases h
      exact .nothing
  | cons type payload =>
      have hlen : (type :: payload).length = payload.length + 1 := List.length_cons
      cases frame_of_cons h with
      | number long => exact .number (by omega)
      | boolean => exact .boolean (Nat.le_add_left 2 _)
      | string read =>
          rw [Nat.add_comm]
          exact .string (by omega) read
      | object read =>
          rw [Nat.add_comm]
          exact .object (by omega) read
      | @ecmaArray count payload properties n four read =>
          rw [List.length_append] at hlen
          rw [Nat.add_comm]
          refine .ecmaArray (by omega) ?_
          rw [List.drop_succ_cons, List.drop_left' four]
          exact read
      | null => exact .null (by omega)

/-- `decodeObject` stops at the end marker, or reads a property and goes on behind it. -/
theorem decodeObject_ok {fuel : Nat} {data : Bytes} {earlier all : List (Bytes × Amf0Value)}
    {used : Nat} (h : decodeObject (fuel + 1) data earlier = .ok (all, used)) :
    (atObjectEnd data ∧ all = earlier ∧ used = 3) ∨
      ∃ key keyBytes value valueBytes n, ¬ atObjectEnd data ∧
        decodeString data = .ok (key, keyBytes) ∧
        decodeValue fuel (data.drop keyBytes) = .ok (value, valueBytes) ∧ 0 < valueBytes ∧
        decodeObject fuel (data.drop (keyBytes + valueBytes))
          (OrderedMap.emplace key value earlier) = .ok (all, n) ∧
        used = keyBytes + valueBytes + n := by
  rw [decodeObject] at h
  split at h
  · cases h
  · split at h
    · rename_i hend
      cases h
      exact .inl ⟨hend, rfl, rfl⟩
    · rename_i hend
      right
      cases hs : decodeString data with
      | error e =>
          rw [hs] at h
          cases h
      | ok r =>
          obtain ⟨key, keyBytes⟩ := r
          rw [hs] at h
          dsimp only at h
          cases hv : decodeValue fuel (data.drop keyBytes) with
          | error e =>
              rw [hv] at h
              cases h
          | ok r =>
              obtain ⟨value, valueBytes⟩ := r
              rw [hv] at h
              dsimp only at h
              split at h
              · cases h
              · rename_i hpos
                cases ho : decodeObject fuel (data.drop (keyBytes + valueBytes))
                    (OrderedMap.emplace key value earlier) with
                | error e =>
                    rw [ho] at h
                    cases h
                | ok r =>
                    rw [ho] at h
                    cases h
                    exact ⟨key, keyBytes, value, valueBytes, _, hend, rfl, hv,
                      Nat.pos_of_ne_zero hpos, ho, rfl⟩

/-- What the decoder accepts can be written, and it takes no more bytes than there are. -/
theorem decode_wellFormed (fuel : Nat) :
    (∀ data value used, decodeValue fuel data = .ok (value, used) →
      value.Ordered ∧ value.Fits ∧ used ≤ data.length) ∧
    (∀ data earlier all used, decodeObject fuel data earlier = .ok (all, used) →
      PropertiesOk earlier → PropertiesOk all ∧ used ≤ data.length) := by
  induction fuel with
  | zero =>
      refine ⟨fun data value used h => ?_, fun data earlier all used h => ?_⟩
      · cases h
        simp [Amf0Value.Ordered, Amf0Value.Fits]
      · cases h
  | succ fuel ih =>
      constructor
      · intro data value used h
        cases valueRead_of_decodeValue h with
        | nothing => simp [Amf0Value.Ordered, Amf0Value.Fits]
        | number long => exact ⟨trivial, trivial, long⟩
        | boolean long => exact ⟨trivial, trivial, long⟩
        | string long read =>
            have hok := decodeString_ok read
            rw [List.length_drop] at hok
            refine ⟨trivial, ?_, by omega⟩
            rw [Amf0Value.Fits]
            exact hok.1
        | object long read =>
            obtain ⟨hok, hn⟩ := ih.2 _ _ _ _ read PropertiesOk.nil
            rw [List.length_drop] at hn
            rw [Amf0Value.Ordered, Amf0Value.Fits, propertiesOrdered_iff, propertiesFit_iff]
            exact ⟨⟨hok.map, hok.ordered⟩, hok.fit, by omega⟩
        | ecmaArray long read =>
            obtain ⟨hok, hn⟩ := ih.2 _ _ _ _ read PropertiesOk.nil
            rw [List.length_drop] at hn
            rw [Amf0Value.Ordered, Amf0Value.Fits, propertiesOrdered_iff, propertiesFit_iff]
            exact ⟨⟨hok.map, hok.ordered⟩, hok.fit, by omega⟩
        | null long => exact ⟨trivial, trivial, long⟩
      · intro data earlier all used h hearlier
        rcases decodeObject_ok h with ⟨hend, rfl, rfl⟩ |
          ⟨key, keyBytes, value, valueBytes, n, -, hs, hv, -, ho, rfl⟩
        · exact ⟨hearlier, hend.1⟩
        · have hkey := decodeString_ok hs
          obtain ⟨hord, hfits, hused⟩ := ih.1 _ _ _ hv
          obtain ⟨hall, hn⟩ := ih.2 _ _ _ _ ho (hearlier.emplace hkey.1 hord hfits)
          rw [List.length_drop] at hused hn
          exact ⟨hall, by omega⟩

theorem decodeAllLoop_wellFormed {fuel : Nat} {data : Bytes} {values : List Amf0Value}
    (h : decodeAllLoop fuel data = .ok values) : ∀ v ∈ values, v.Ordered ∧ v.Fits := by
  induction fuel generalizing data values with
  | zero =>
      cases h
      simp
  | succ fuel ih =>
      rw [decodeAllLoop] at h
      split at h
      · cases h
        simp
      · cases hv : decodeValue data.length data with
        | error e =>
            rw [hv] at h
            cases h
        | ok r =>
            obtain ⟨value, used⟩ := r
            rw [hv] at h
            dsimp only at h
            split at h
            · cases h
              simp
            · cases hrest : decodeAllLoop fuel (data.drop used) with
              | error e =>
                  rw [hrest] at h
                  cases h
              | ok rest =>
                  rw [hrest] at h
                  cases h
                  obtain ⟨hord, hfits, -⟩ := (decode_wellFormed _).1 _ _ _ hv
                  intro v hmem
                  rcases List.mem_cons.mp hmem with rfl | hmem
                  · exact ⟨hord, hfits⟩
                  · exact ih hrest v hmem

/-- The recursion bound of the model is never reached: any larger one decodes the same. -/
theorem decode_fuel (fuel : Nat) :
    (∀ fuel' data, data.length ≤ fuel → data.length ≤ fuel' →
      decodeValue fuel data = decodeValue fuel' data) ∧
    (∀ fuel' data earlier, data.length ≤ fuel → data.length ≤ fuel' →
      decodeObject fuel data earlier = decodeObject fuel' data earlier) := by
  induction fuel with
  | zero =>
      refine ⟨fun fuel' data h _ => ?_, fun fuel' data earlier h _ => ?_⟩
      · obtain rfl : data = [] := List.eq_nil_of_length_eq_zero (by omega)
        cases fuel' <;> rfl
      · obtain rfl : data = [] := List.eq_nil_of_length_eq_zero (by omega)
        cases fuel' <;> rfl
  | succ fuel ih =>
      constructor
      · intro fuel' data h h'
        cases fuel' with
        | zero =>
            obtain rfl : data = [] := List.eq_nil_of_length_eq_zero (by omega)
            rfl
        | succ fuel' =>
            have hobject : ∀ skip, 1 ≤ skip →
                decodeObject fuel (data.drop skip) [] = decodeObject fuel' (data.drop skip) [] :=
              fun skip hskip => ih.2 fuel' _ _ (by rw [List.length_drop]; omega)
                (by rw [List.length_drop]; omega)
            rw [decodeValue, decodeValue, hobject 1 (by omega), hobject 5 (by omega)]
      · intro fuel' data earlier h h'
        cases fuel' with
        | zero =>
            obtain rfl : data = [] := List.eq_nil_of_length_eq_zero (by omega)
            rfl
        | succ fuel' =>
            rw [decodeObject, decodeObject]
            cases hs : decodeString data with
            | error e => rfl
            | ok r =>
                obtain ⟨key, keyBytes⟩ := r
                have hkey := decodeString_ok hs
                have hvalue : decodeValue fuel (data.drop keyBytes) =
                    decodeValue fuel' (data.drop keyBytes) :=
                  ih.1 fuel' _ (by rw [List.length_drop]; omega) (by rw [List.length_drop]; omega)
                have hrest : ∀ valueBytes properties,
                    decodeObject fuel (data.drop (keyBytes + valueBytes)) properties =
                      decodeObject fuel' (data.drop (keyBytes + valueBytes)) properties :=
                  fun valueBytes properties => ih.2 fuel' _ _ (by rw [List.length_drop]; omega)
                    (by rw [List.length_drop]; omega)
                dsimp only
                simp only [hvalue, hrest]

/-- **The AMF0 round trip.** Values are read back as they were written, and what the
decoder accepts survives being written and decoded again. -/
theorem decodeAll_round_trip :
    (∀ values : List Amf0Value, (∀ v ∈ values, v.Ordered) → (∀ v ∈ values, v.Fits) →
      decodeAll (appendValues values) = .ok values) ∧
    (∀ data values, decodeAll data = .ok values →
      decodeAll (appendValues values) = .ok values) := by
  refine ⟨fun values hord hfits => decodeAll_appendValues hord hfits, fun data values h => ?_⟩
  have hok := decodeAllLoop_wellFormed h
  exact decodeAll_appendValues (fun v hv => (hok v hv).1) (fun v hv => (hok v hv).2)

/-- An object with an empty key, and one inside an array. -/
theorem decodeAll_round_trip_nested :
    decodeAll (appendValues [.object [([], .null)],
      .ecmaArray [(ascii "a", .object []), (ascii "b", .number 0)]]) =
      .ok [.object [([], .null)], .ecmaArray [(ascii "a", .object []), (ascii "b", .number 0)]] ∧
    decodeAll (appendValues [.string (ascii "x")]) = .ok [.string (ascii "x")] := by
  refine ⟨decodeAll_round_trip.1 _ ?_ ?_, decodeAll_round_trip.2
    (appendValues [.string (ascii "x")]) _ rfl⟩
  · simp [Amf0Value.Ordered, propertiesOrdered, OrderedMap.Ordered, ascii]
    decide
  · simp [Amf0Value.Fits, propertiesFit, ascii]

end Rmuduo.Rtmp
