/-
AMF0 values delimit themselves.

* `decode_append`, `decode_cut` — values and the rest of an object, by induction over the
  recursion of the decoder: what stands behind them makes no difference, and a cut of them is
  rejected.
* `decodeAll_eq_ok` — `decodeAll` reads the values whose bytes are the whole data.
* `decode_self_delimiting` — the decoder is self-delimiting, and decoding data in a row is
  decoding one after the other.
-/

import Rmuduo.Lib.Delimited
import Rmuduo.Rtmp.Amf0

namespace Rmuduo.Rtmp

open Lib

/-! ### Strings -/

theorem byteAt_take_append {data : Bytes} {i n : Nat} (hi : i < n) (hn : n ≤ data.length)
    (suffix : Bytes) : byteAt (data.take n ++ suffix) i = byteAt data i := by
  have hlt : i < (data.take n).length := by
    rw [List.length_take]
    omega
  conv_rhs => rw [← List.take_append_drop n data]
  rw [byteAt_append hlt, byteAt_append hlt]

theorem readUint16BE_take_append {data : Bytes} {n : Nat} (h : 2 ≤ n) (hn : n ≤ data.length)
    (suffix : Bytes) : readUint16BE (data.take n ++ suffix) = readUint16BE data := by
  rw [readUint16BE, readUint16BE, byteAt_take_append (by omega) hn,
    byteAt_take_append (by omega) hn]

theorem readUint64BE_take_append {data : Bytes} (h : 8 ≤ data.length) (suffix : Bytes) :
    readUint64BE (data.take 8 ++ suffix) = readUint64BE data := by
  have hbyte : ∀ i, i < 8 → byteAt (data.take 8 ++ suffix) i = byteAt data i :=
    fun i hi => byteAt_take_append hi h suffix
  simp only [readUint64BE, hbyte 0 (by decide), hbyte 1 (by decide), hbyte 2 (by decide),
    hbyte 3 (by decide), hbyte 4 (by decide), hbyte 5 (by decide), hbyte 6 (by decide),
    hbyte 7 (by decide)]

theorem decodeString_eq_ok {data value : Bytes} {used : Nat} :
    decodeString data = .ok (value, used) ↔
      used = 2 + (readUint16BE data).toNat ∧ used ≤ data.length ∧
        value = (data.take used).drop 2 := by
  rw [decodeString]
  constructor
  · intro h
    split at h
    · cases h
    · dsimp only at h
      split at h
      · cases h
      · cases h
        refine ⟨rfl, by omega, ?_⟩
        rw [List.drop_take, Nat.add_sub_cancel_left]
  · rintro ⟨rfl, hlen, rfl⟩
    rw [if_neg (by omega)]
    dsimp only
    rw [if_neg (by omega), List.drop_take, Nat.add_sub_cancel_left]

theorem decodeString_append {data value : Bytes} {used : Nat}
    (h : decodeString data = .ok (value, used)) (suffix : Bytes) :
    decodeString (data.take used ++ suffix) = .ok (value, used) := by
  obtain ⟨hused, hlen, hvalue⟩ := decodeString_eq_ok.mp h
  have htake : (data.take used).length = used := List.length_take_of_le hlen
  refine decodeString_eq_ok.mpr ⟨?_, ?_, ?_⟩
  · rw [readUint16BE_take_append (by omega) hlen]
    exact hused
  · rw [List.length_append, htake]
    omega
  · rw [List.take_left' htake]
    exact hvalue

theorem decodeString_cut {data value : Bytes} {used n : Nat}
    (h : decodeString data = .ok (value, used)) (hn : n < used) :
    ∃ e, decodeString (data.take n) = .error e := by
  obtain ⟨hused, hlen, -⟩ := decodeString_eq_ok.mp h
  have htake : (data.take n).length = n := List.length_take_of_le (by omega)
  cases hcut : decodeString (data.take n) with
  | error e => exact ⟨e, rfl⟩
  | ok r =>
      obtain ⟨hused', hlen', -⟩ := decodeString_eq_ok.mp hcut
      -- a string that is found has its two length bytes, and so its old length
      have hsame : readUint16BE (data.take n ++ []) = readUint16BE data :=
        readUint16BE_take_append (by omega) (by omega) []
      rw [List.append_nil] at hsame
      rw [hsame] at hused'
      omega

/-! ### Objects -/

theorem atObjectEnd_take_append {data : Bytes} {n : Nat} (h : 3 ≤ n) (hn : n ≤ data.length)
    (suffix : Bytes) : atObjectEnd (data.take n ++ suffix) ↔ atObjectEnd data := by
  unfold atObjectEnd
  rw [byteAt_take_append (by omega) hn, byteAt_take_append (by omega) hn,
    byteAt_take_append (by omega) hn, List.length_append, List.length_take_of_le hn]
  exact and_congr_left fun _ => ⟨fun _ => by omega, fun _ => by omega⟩

theorem decodeObject_end {fuel : Nat} {data : Bytes} (h : atObjectEnd data)
    (earlier : List (Bytes × Amf0Value)) :
    decodeObject (fuel + 1) data earlier = .ok (earlier, 3) := by
  rw [decodeObject, if_neg, if_pos h]
  have hlen := h.1
  omega

/-- The loop goes on behind a key. -/
theorem decodeObject_key {fuel keyBytes : Nat} {data key : Bytes} (hend : ¬ atObjectEnd data)
    (hkey : decodeString data = .ok (key, keyBytes)) (earlier : List (Bytes × Amf0Value)) :
    decodeObject (fuel + 1) data earlier =
      match decodeValue fuel (data.drop keyBytes) with
      | .error e => .error e
      | .ok (value, valueBytes) =>
          if valueBytes = 0 then .error "amf0 object property is empty"
          else
            match decodeObject fuel (data.drop (keyBytes + valueBytes))
              (OrderedMap.emplace key value earlier) with
            | .error e => .error e
            | .ok (all, used) => .ok (all, keyBytes + valueBytes + used) := by
  have hlen : ¬ data.length = 0 := by
    have hok := decodeString_ok hkey
    omega
  rw [decodeObject, if_neg hlen, if_neg hend]
  generalize decodeString data = decoded at hkey ⊢
  subst hkey
  rfl

/-- One round of the loop in front of a key and a value. -/
theorem decodeObject_round {fuel keyBytes valueBytes : Nat} {data key : Bytes} {value : Amf0Value}
    (hend : ¬ atObjectEnd data) (hkey : decodeString data = .ok (key, keyBytes))
    (hvalue : decodeValue fuel (data.drop keyBytes) = .ok (value, valueBytes))
    (hpos : 0 < valueBytes) (earlier : List (Bytes × Amf0Value)) :
    decodeObject (fuel + 1) data earlier =
      match decodeObject fuel (data.drop (keyBytes + valueBytes))
        (OrderedMap.emplace key value earlier) with
      | .error e => .error e
      | .ok (all, used) => .ok (all, keyBytes + valueBytes + used) := by
  rw [decodeObject_key hend hkey, hvalue]
  exact if_neg (by omega)

/-- No more bytes are taken than there are. -/
theorem decode_used_le (fuel : Nat) :
    (∀ data value used, decodeValue fuel data = .ok (value, used) → used ≤ data.length) ∧
    (∀ data earlier all used, decodeObject fuel data earlier = .ok (all, used) →
      used ≤ data.length) := by
  induction fuel with
  | zero =>
      constructor
      · intro data value used h
        cases h
        exact Nat.zero_le _
      · intro data earlier all used h
        cases h
  | succ fuel ih =>
      constructor
      · intro data value used h
        exact ((decode_wellFormed (fuel + 1)).1 data value used h).2.2
      · intro data earlier all used h
        rcases decodeObject_ok h with ⟨hend, -, rfl⟩ |
          ⟨key, keyBytes, value, valueBytes, n, -, hkey, hvalue, -, hrest, rfl⟩
        · exact hend.1
        · have hkeyLe := (decodeString_ok hkey).2.2
          have hvalueLe := ih.1 _ _ _ hvalue
          have hrestLe := ih.2 _ _ _ _ hrest
          rw [List.length_drop] at hvalueLe hrestLe
          omega

/-! ### What stands behind -/

/-- One round of the loop on a part of the data that has the key and the value, when what
stands behind the value makes no difference to it. -/
theorem decodeObject_round_take {fuel keyBytes valueBytes : Nat} {data key : Bytes}
    {value : Amf0Value} (hend : ¬ atObjectEnd data)
    (hkey : decodeString data = .ok (key, keyBytes))
    (hvalue : decodeValue fuel (data.drop keyBytes) = .ok (value, valueBytes))
    (hpos : 0 < valueBytes)
    (hbehind : ∀ suffix, decodeValue fuel ((data.drop keyBytes).take valueBytes ++ suffix) =
      .ok (value, valueBytes))
    {n : Nat} (hn : keyBytes + valueBytes + n ≤ data.length) (suffix : Bytes)
    (earlier : List (Bytes × Amf0Value)) :
    decodeObject (fuel + 1) (data.take (keyBytes + valueBytes + n) ++ suffix) earlier =
      match decodeObject fuel ((data.drop (keyBytes + valueBytes)).take n ++ suffix)
        (OrderedMap.emplace key value earlier) with
      | .error e => .error e
      | .ok (all, used) => .ok (all, keyBytes + valueBytes + used) := by
  have hkeyOk := decodeString_ok hkey
  have hvalueLe := (decode_used_le fuel).1 _ _ _ hvalue
  have hkeyLen : (data.take keyBytes).length = keyBytes := List.length_take_of_le (by omega)
  have hvalueLen : ((data.drop keyBytes).take valueBytes).length = valueBytes :=
    List.length_take_of_le hvalueLe
  -- the part is the key, the value and what is left of it
  have hparts : data.take (keyBytes + valueBytes + n) ++ suffix = data.take keyBytes ++
      ((data.drop keyBytes).take valueBytes ++
        ((data.drop (keyBytes + valueBytes)).take n ++ suffix)) := by
    rw [Nat.add_assoc, List.take_add, List.take_add, List.drop_drop]
    simp only [List.append_assoc]
  have hnotEnd := mt (atObjectEnd_take_append (by omega) hn suffix).mp hend
  rw [hparts] at hnotEnd ⊢
  have hround := decodeObject_round hnotEnd (decodeString_append hkey _)
    (by rw [List.drop_left' hkeyLen, hbehind]) hpos earlier
  rw [hround, ← List.drop_drop, List.drop_left' hkeyLen, List.drop_left' hvalueLen]

/-- Values, and the rest of an object, are decoded alike whatever stands behind their bytes. -/
theorem decode_append (fuel : Nat) :
    (∀ data value used, decodeValue fuel data = .ok (value, used) → 0 < used →
      ∀ suffix, decodeValue fuel (data.take used ++ suffix) = .ok (value, used)) ∧
    (∀ data earlier all used, decodeObject fuel data earlier = .ok (all, used) →
      ∀ suffix, decodeObject fuel (data.take used ++ suffix) earlier = .ok (all, used)) := by
  induction fuel with
  | zero =>
      constructor
      · intro data value used h hused
        cases h
        exact absurd hused (Nat.lt_irrefl 0)
      · intro data earlier all used h
        cases h
  | succ fuel ih =>
      constructor
      · intro data value used h hused suffix
        apply decodeValue_of_frame
        cases frame_of_decodeValue h hused with
        | @number payload long =>
            rw [← readUint64BE_take_append long suffix]
            have long' : 8 ≤ (payload.take 8 ++ suffix).length := by
              rw [List.length_append, List.length_take_of_le long]
              omega
            exact .number long'
        | boolean => exact .boolean
        | string read => exact .string (decodeString_append read suffix)
        | object read => exact .object (ih.2 _ _ _ _ read suffix)
        | @ecmaArray count payload properties used four read =>
            have htake : (kAmf0EcmaArray :: (count ++ payload)).take (used + 5) ++ suffix =
                kAmf0EcmaArray :: (count ++ (payload.take used ++ suffix)) := by
              rw [List.take_succ_cons, Nat.add_comm, ← four, List.take_length_add_append,
                List.cons_append, List.append_assoc]
            rw [htake]
            exact .ecmaArray four (ih.2 _ _ _ _ read suffix)
        | null => exact .null
      · intro data earlier all used h suffix
        have hlen := (decode_used_le (fuel + 1)).2 data earlier all used h
        rcases decodeObject_ok h with ⟨hend, rfl, rfl⟩ |
          ⟨key, keyBytes, value, valueBytes, n, hend, hkey, hvalue, hpos, hrest, rfl⟩
        · exact decodeObject_end
            ((atObjectEnd_take_append (Nat.le_refl 3) hend.1 suffix).mpr hend) _
        · rw [decodeObject_round_take hend hkey hvalue hpos (ih.1 _ _ _ hvalue hpos) hlen,
            ih.2 _ _ _ _ hrest]

/-! ### Cuts -/

theorem not_atObjectEnd_take {data : Bytes} (h : ¬ atObjectEnd data) {n : Nat}
    (hn : n ≤ data.length) : ¬ atObjectEnd (data.take n) := by
  intro hend
  have hlen := hend.1
  rw [List.length_take_of_le hn] at hlen
  have hiff := atObjectEnd_take_append hlen hn []
  rw [List.append_nil] at hiff
  exact h (hiff.mp hend)

section Errors

variable {fuel keyBytes : Nat} {data key : Bytes} {e : String}

theorem decodeObject_bad_key (hend : ¬ atObjectEnd data) (hkey : decodeString data = .error e)
    (earlier : List (Bytes × Amf0Value)) :
    ∃ e, decodeObject (fuel + 1) data earlier = .error e := by
  rw [decodeObject]
  by_cases hlen : data.length = 0
  · rw [if_pos hlen]
    exact ⟨_, rfl⟩
  · rw [if_neg hlen, if_neg hend, hkey]
    exact ⟨_, rfl⟩

theorem decodeObject_bad_value (hend : ¬ atObjectEnd data)
    (hkey : decodeString data = .ok (key, keyBytes))
    (hvalue : decodeValue fuel (data.drop keyBytes) = .error e)
    (earlier : List (Bytes × Amf0Value)) :
    ∃ e, decodeObject (fuel + 1) data earlier = .error e := by
  rw [decodeObject_key hend hkey, hvalue]
  exact ⟨e, rfl⟩

/-- Behind a key there has to be a value. -/
theorem decodeObject_no_value (hend : ¬ atObjectEnd data)
    (hkey : decodeString data = .ok (key, keyBytes)) (hnone : data.drop keyBytes = [])
    (earlier : List (Bytes × Amf0Value)) :
    ∃ e, decodeObject (fuel + 1) data earlier = .error e := by
  rw [decodeObject_key hend hkey, hnone, decodeValue_nil]
  exact ⟨_, rfl⟩

/-- A cut at the end of a key, or inside it, is rejected. -/
theorem decodeObject_cut_key (hkey : decodeString data = .ok (key, keyBytes)) {n : Nat}
    (hn : n ≤ keyBytes) (hend : ¬ atObjectEnd (data.take n))
    (earlier : List (Bytes × Amf0Value)) :
    ∃ e, decodeObject (fuel + 1) (data.take n) earlier = .error e := by
  rcases Nat.lt_or_eq_of_le hn with hlt | rfl
  · obtain ⟨e, he⟩ := decodeString_cut hkey hlt
    exact decodeObject_bad_key hend he earlier
  · have hwhole := decodeString_append hkey []
    rw [List.append_nil] at hwhole
    refine decodeObject_no_value hend hwhole ?_ earlier
    exact List.drop_eq_nil_of_le (List.length_take_le _ _)

end Errors

/-- The end marker looks like an empty key. -/
theorem decodeString_of_atObjectEnd {data : Bytes} (h : atObjectEnd data) :
    decodeString data = .ok ([], 2) := by
  have hlen := h.1
  have hzero : readUint16BE data = 0 := by
    rw [readUint16BE, h.2.1, h.2.2.1]
    rfl
  refine decodeString_eq_ok.mpr ⟨?_, by omega, ?_⟩
  · rw [hzero]
    rfl
  · exact (List.drop_eq_nil_of_le (List.length_take_le _ _)).symm

/-- A cut of a value, and of the rest of an object, is rejected. -/
theorem decode_cut (fuel : Nat) :
    (∀ data value used, decodeValue fuel data = .ok (value, used) →
      ∀ n, 0 < n → n < used → ∃ e, decodeValue fuel (data.take n) = .error e) ∧
    (∀ data earlier all used, decodeObject fuel data earlier = .ok (all, used) →
      ∀ n, n < used → ∃ e, decodeObject fuel (data.take n) earlier = .error e) := by
  induction fuel with
  | zero =>
      constructor
      · intro data value used h n hn hused
        cases h
        omega
      · intro data earlier all used h
        cases h
  | succ fuel ih =>
      constructor
      · intro data value used h n hn hused
        cases n with
        | zero => exact absurd hn (Nat.lt_irrefl 0)
        | succ n =>
            cases frame_of_decodeValue h (Nat.zero_lt_of_lt hused) with
            | @number payload long =>
                rw [List.take_succ_cons, decodeValue_number, if_pos]
                · exact ⟨_, rfl⟩
                · rw [List.length_cons, List.length_take_of_le (by omega)]
                  omega
            | boolean =>
                obtain rfl : n = 0 := by omega
                exact ⟨_, rfl⟩
            | @string payload value used read =>
                obtain ⟨e, he⟩ := decodeString_cut read (Nat.lt_of_succ_lt_succ hused)
                rw [List.take_succ_cons, decodeValue_string, he]
                exact ⟨e, rfl⟩
            | @object payload properties used read =>
                obtain ⟨e, he⟩ := ih.2 _ _ _ _ read n (Nat.lt_of_succ_lt_succ hused)
                rw [List.take_succ_cons, decodeValue_object, he]
                exact ⟨e, rfl⟩
            | @ecmaArray count payload properties used four read =>
                rw [List.take_succ_cons, decodeValue_array]
                by_cases hshort : n < 4
                · rw [if_pos]
                  · exact ⟨_, rfl⟩
                  · rw [List.length_cons, List.length_take]
                    omega
                · obtain ⟨k, rfl⟩ := Nat.exists_eq_add_of_le (Nat.le_of_not_lt hshort)
                  obtain ⟨e, he⟩ := ih.2 _ _ _ _ read k (by omega)
                  have hdrop : ((count ++ payload).take (4 + k)).drop 4 = payload.take k := by
                    rw [← four, List.take_length_add_append, List.drop_left]
                  rw [hdrop, he]
                  split
                  · exact ⟨_, rfl⟩
                  · exact ⟨e, rfl⟩
            | null => omega
      · intro data earlier all used h n hn
        have hlen := (decode_used_le (fuel + 1)).2 data earlier all used h
        rcases decodeObject_ok h with ⟨hend, rfl, rfl⟩ |
          ⟨key, keyBytes, value, valueBytes, k, hend, hkey, hvalue, hpos, hrest, rfl⟩
        · refine decodeObject_cut_key (decodeString_of_atObjectEnd hend) (by omega) ?_ _
          intro hcut
          have hthree := hcut.1
          rw [List.length_take_of_le (by omega)] at hthree
          omega
        · have hcut := not_atObjectEnd_take hend (by omega : n ≤ data.length)
          by_cases hinKey : n ≤ keyBytes
          · exact decodeObject_cut_key hkey hinKey hcut earlier
          · obtain ⟨j, rfl⟩ := Nat.exists_eq_add_of_lt (Nat.lt_of_not_le hinKey)
            by_cases hinValue : j + 1 < valueBytes
            · obtain ⟨e, he⟩ := ih.1 _ _ _ hvalue (j + 1) (Nat.succ_pos j) hinValue
              have hkeyLe := (decodeString_ok hkey).2.2
              have hkeyCut : decodeString (data.take (keyBytes + j + 1)) = .ok (key, keyBytes) := by
                rw [Nat.add_assoc, List.take_add]
                exact decodeString_append hkey _
              refine decodeObject_bad_value (e := e) hcut hkeyCut ?_ earlier
              rw [Nat.add_assoc, List.take_add,
                List.drop_left' (List.length_take_of_le hkeyLe)]
              exact he
            · obtain ⟨i, hi⟩ := Nat.exists_eq_add_of_le (Nat.le_of_not_lt hinValue)
              obtain ⟨e, he⟩ := ih.2 _ _ _ _ hrest i (by omega)
              have hn' : keyBytes + j + 1 = keyBytes + valueBytes + i := by omega
              have hround := decodeObject_round_take hend hkey hvalue hpos
                ((decode_append fuel).1 _ _ _ hvalue hpos) (by omega) [] earlier (n := i)
              rw [List.append_nil, List.append_nil, he] at hround
              rw [hn', hround]
              exact ⟨e, rfl⟩

/-! ### All values -/

/-- `decodeValue` on data, with the levels that are enough for it. -/
def decodeFront (data : Bytes) : Except String (Amf0Value × Nat) :=
  decodeValue data.length data

theorem decodeFront_eq {data : Bytes} {fuel : Nat} (h : data.length ≤ fuel) :
    decodeFront data = decodeValue fuel data :=
  (decode_fuel data.length).1 fuel data (Nat.le_refl _) h

theorem selfDelimiting_decodeFront : SelfDelimiting decodeFront where
  used_le {data value used} h := (decode_used_le data.length).1 data value used h
  append {data value used} h hused suffix := by
    have hfuel : data.length ≤ data.length + suffix.length := Nat.le_add_right ..
    have hlonger : (data.take used ++ suffix).length ≤ data.length + suffix.length := by
      rw [List.length_append, List.length_take]
      omega
    rw [decodeFront_eq hfuel] at h
    rw [decodeFront_eq hlonger]
    exact (decode_append _).1 data value used h hused suffix
  cut {data value used} h n hn hused := by
    have hshorter : (data.take n).length ≤ data.length := List.length_take_le' ..
    rw [decodeFront_eq hshorter]
    exact (decode_cut _).1 data value used h n hn hused

theorem decodeAllLoop_nil (fuel : Nat) {values : List Amf0Value} :
    decodeAllLoop fuel [] = .ok values ↔ Frames decodeFront [] values := by
  have hnone : decodeAllLoop fuel [] = .ok [] := by
    cases fuel <;> rfl
  rw [hnone]
  constructor
  · intro h
    cases h
    exact .nil
  · intro h
    cases h with
    | nil => rfl
    | cons first hpos _ =>
        cases first
        exact absurd hpos (Nat.lt_irrefl 0)

theorem decodeAllLoop_eq_ok {fuel : Nat} {data : Bytes} {values : List Amf0Value}
    (hfuel : data.length ≤ fuel) :
    decodeAllLoop fuel data = .ok values ↔ Frames decodeFront data values := by
  induction fuel generalizing data values with
  | zero =>
      obtain rfl : data = [] := List.eq_nil_of_length_eq_zero (by omega)
      exact decodeAllLoop_nil 0
  | succ fuel ih =>
      cases data with
      | nil => exact decodeAllLoop_nil (fuel + 1)
      | cons type payload =>
          have hlength : ¬ (type :: payload).length = 0 := Nat.succ_ne_zero _
          rw [decodeAllLoop, if_neg hlength, ← decodeFront_eq (Nat.le_refl _)]
          cases hfirst : decodeFront (type :: payload) with
          | error e =>
              constructor
              · intro h
                cases h
              · intro h
                cases h with
                | cons first _ _ =>
                    rw [hfirst] at first
                    cases first
          | ok r =>
              obtain ⟨value, used⟩ := r
              have hpos : 0 < used := (frame_of_cons hfirst).used_pos
              have hshorter : ((type :: payload).drop used).length ≤ fuel := by
                rw [List.length_drop]
                omega
              dsimp only
              rw [if_neg (by omega)]
              constructor
              · intro h
                cases hrest : decodeAllLoop fuel ((type :: payload).drop used) with
                | error e =>
                    rw [hrest] at h
                    cases h
                | ok rest =>
                    rw [hrest] at h
                    cases h
                    exact .cons hfirst hpos ((ih hshorter).mp hrest)
              · intro h
                cases h with
                | cons first _ rest =>
                    rw [hfirst] at first
                    cases first
                    rw [(ih hshorter).mpr rest]

theorem decodeAll_eq_ok {data : Bytes} {values : List Amf0Value} :
    decodeAll data = .ok values ↔ Frames decodeFront data values :=
  decodeAllLoop_eq_ok (Nat.le_refl _)

/-- **AMF0 values delimit themselves.** A value that is accepted is accepted alike with any
bytes behind its own, and no cut of them is accepted. So decoding data in a row is decoding
one after the other. -/
theorem decode_self_delimiting :
    (∀ data value used, decodeFront data = .ok (value, used) → 0 < used →
      used ≤ data.length ∧
      (∀ suffix, decodeFront (data.take used ++ suffix) = .ok (value, used)) ∧
      ∀ n, 0 < n → n < used → ∃ e, decodeFront (data.take n) = .error e) ∧
    (∀ a b va, decodeAll a = .ok va →
      ∀ values, decodeAll (a ++ b) = .ok values ↔
        ∃ vb, decodeAll b = .ok vb ∧ values = va ++ vb) := by
  have hself := selfDelimiting_decodeFront
  constructor
  · intro data value used h hused
    refine ⟨hself.used_le h, hself.append h hused, ?_⟩
    intro n hn hlt
    exact hself.cut h hn hlt
  · intro a b va ha values
    rw [decodeAll_eq_ok] at ha ⊢
    constructor
    · intro hall
      obtain ⟨vb, hvb, hvalues⟩ := ha.of_append hself hall
      exact ⟨vb, decodeAll_eq_ok.mpr hvb, hvalues⟩
    · rintro ⟨vb, hvb, rfl⟩
      exact ha.append hself (decodeAll_eq_ok.mp hvb)

/-- An object with one property and a byte behind it, and a null in front of a boolean. -/
theorem decode_self_delimiting_object :
    (8 ≤ 9 ∧
      (∀ suffix, decodeFront ([3, 0, 1, 97, 5, 0, 0, 9] ++ suffix) =
        .ok (.object [([97], .null)], 8)) ∧
      ∀ n, 0 < n → n < 8 → ∃ e, decodeFront ([3, 0, 1, 97, 5, 0, 0, 9, 7].take n) = .error e) ∧
    ∀ values, decodeAll ([5] ++ [1, 1]) = .ok values ↔
      ∃ vb, decodeAll [1, 1] = .ok vb ∧ values = [.null] ++ vb :=
  ⟨decode_self_delimiting.1 [3, 0, 1, 97, 5, 0, 0, 9, 7] (.object [([97], .null)]) 8 rfl
      (by decide),
    decode_self_delimiting.2 [5] [1, 1] [.null] rfl⟩

end Rmuduo.Rtmp
