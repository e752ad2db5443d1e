-- The round trip of the table codec: on the values that both positions of the
-- codec keep, the decoder gives back what the encoder took, with each tuple as
-- a list.
import Librabbitmq.Tables
import Mathlib.Tactic.NormNum

namespace librabbitmq.round_trip

/-! ## The domain -/

mutual

/-- A dict member that survives the round trip. -/
def MemberDomain : PyObj → Prop
  | .none => True
  | .bool _ => True
  | .int n => -2 ^ 31 ≤ n ∧ n < 2 ^ 31 ∧ n ≠ -1
  | .float bits => bits ≠ minusOneBits
  | .str s => IsUtf8 s
  | .dict members => (members.map Prod.fst).Nodup ∧ MembersDomain members
  | .list items => ItemsDomain items
  | .tuple items => ItemsDomain items
  | _ => False

/-- A list or tuple item that survives the round trip. -/
def ItemDomain : PyObj → Prop
  | .none => True
  | .int n => -2 ^ 31 ≤ n ∧ n < 2 ^ 31
  | .str s => IsAscii s
  | .dict members => (members.map Prod.fst).Nodup ∧ MembersDomain members
  | .list items => ItemsDomain items
  | .tuple items => ItemsDomain items
  | _ => False

def MembersDomain : PyMembers → Prop
  | [] => True
  | (key, value) :: rest =>
    (∃ s, key = .str s ∧ IsAscii s) ∧ MemberDomain value ∧ MembersDomain rest

def ItemsDomain : List PyObj → Prop
  | [] => True
  | item :: rest => ItemDomain item ∧ ItemsDomain rest

end

/-- A dict tree that survives the round trip. The keys of one dict differ. -/
def DictDomain (members : PyMembers) : Prop :=
  (members.map Prod.fst).Nodup ∧ MembersDomain members

mutual

/-- The value with each tuple turned into a list. -/
def listified : PyObj → PyObj
  | .dict members => .dict (listifiedMembers members)
  | .list items => .list (listifiedItems items)
  | .tuple items => .list (listifiedItems items)
  | v => v

def listifiedMembers : PyMembers → PyMembers
  | [] => []
  | (key, value) :: rest => (key, listified value) :: listifiedMembers rest

def listifiedItems : List PyObj → List PyObj
  | [] => []
  | item :: rest => listified item :: listifiedItems rest

end

/-! ## What the encoder stores -/

mutual

/-- The field of a value of the domain, the same in both positions. -/
def fieldOf : PyObj → amqp_field_value_t
  | .bool b => .boolean b
  | .int n => .i32 (BitVec.ofInt 32 n)
  | .float bits => .f64 bits
  | .str s => .utf8 ((utf8Encode s).getD [])
  | .bytes b => .utf8 b
  | .dict members => .table (entriesOf members)
  | .list items => .array (fieldsOf items)
  | .tuple items => .array (fieldsOf items)
  | _ => .void

def entriesOf : PyMembers → amqp_table_t
  | [] => []
  | (key, value) :: rest =>
    ((match key with | .str s => (asciiEncode s).getD [] | _ => []), fieldOf value) ::
      entriesOf rest

def fieldsOf : List PyObj → amqp_array_t
  | [] => []
  | item :: rest => fieldOf item :: fieldsOf rest

end

theorem fitsLong_of_int32 {n : Int} (h1 : -2 ^ 31 ≤ n) (h2 : n < 2 ^ 31) : FitsLong n := by
  unfold FitsLong
  omega

/-- An ASCII key is read as its octets. -/
theorem maybe_unicode_ascii {s : PyStr} {k : Octets} (h : asciiEncode s = some k)
    (err : Option PyErr) : PyObjectArray_Maybe_Unicode (.str s) err = (.bytes k, err) := by
  simp [PyObjectArray_Maybe_Unicode, PyUnicode_AsASCIIString, h]

mutual

theorem member_encodes : ∀ (v : PyObj), MemberDomain v → ∀ dst key err,
    PyDict_ToAMQTable.member dst (.bytes key) v err = .ret (some (dst ++ [(key, fieldOf v)]), err)
  | .none, _, dst, key, err => by
    simp [PyDict_ToAMQTable.member, PyString_AS_AMQBYTES, AMQTable_SetNilValue,
      AMQTable_AddEntry, fieldOf]
  | .bool b, _, dst, key, err => by
    simp [PyDict_ToAMQTable.member, PyString_AS_AMQBYTES, AMQTable_SetBoolValue,
      AMQTable_AddEntry, fieldOf]
  | .int n, h, dst, key, err => by
    obtain ⟨h1, h2, h3⟩ := h
    simp [PyDict_ToAMQTable.member, PyLong_AsLong, fitsLong_of_int32 h1 h2, h3,
      PyString_AS_AMQBYTES, AMQTable_SetIntValue, AMQTable_AddEntry, fieldOf]
  | .float bits, h, dst, key, err => by
    have h : bits ≠ minusOneBits := h
    simp [PyDict_ToAMQTable.member, h, PyString_AS_AMQBYTES, AMQTable_SetDoubleValue,
      AMQTable_AddEntry, fieldOf]
  | .str s, h, dst, key, err => by
    obtain ⟨b, hb⟩ := Option.isSome_iff_exists.mp h
    simp [PyDict_ToAMQTable.member, PyUnicode_AsEncodedString, hb, PyString_AS_AMQBYTES,
      AMQTable_SetStringValue, AMQTable_AddEntry, fieldOf]
  | .dict members, h, dst, key, err => by
    have ih := members_encode members h.2 [] err
    simp [PyDict_ToAMQTable.member, PyString_AS_AMQBYTES, ih, AMQTable_SetTableValue,
      AMQTable_AddEntry, fieldOf, amqp_empty_table]
  | .list items, h, dst, key, err => by
    have ih := items_encode items h [] err
    simp [PyDict_ToAMQTable.member, PyString_AS_AMQBYTES, ih, AMQTable_SetArrayValue,
      AMQTable_AddEntry, fieldOf, amqp_empty_array]
  | .tuple items, h, dst, key, err => by
    have ih := items_encode items h [] err
    simp [PyDict_ToAMQTable.member, PyString_AS_AMQBYTES, ih, AMQTable_SetArrayValue,
      AMQTable_AddEntry, fieldOf, amqp_empty_array]
  | .null, h, _, _, _ => absurd h id
  | .bytes _, h, _, _, _ => absurd h id
  | .other _, h, _, _, _ => absurd h id

theorem item_encodes : ∀ (v : PyObj), ItemDomain v → ∀ dst err,
    PyIter_ToAMQArray.item dst v err = .ret (some (dst ++ [fieldOf v]), err)
  | .none, _, dst, err => by
    simp [PyIter_ToAMQArray.item, AMQArray_SetNilValue, AMQArray_AddEntry, fieldOf]
  | .int n, h, dst, err => by
    obtain ⟨h1, h2⟩ := h
    simp [PyIter_ToAMQArray.item, PyLong_AsLong, fitsLong_of_int32 h1 h2, AMQArray_SetIntValue,
      AMQArray_AddEntry, fieldOf]
  | .str s, h, dst, err => by
    obtain ⟨b, hb⟩ := Option.isSome_iff_exists.mp h
    simp [PyIter_ToAMQArray.item, PyUnicode_AsASCIIString, hb, PyString_AS_AMQBYTES,
      AMQArray_SetStringValue, AMQArray_AddEntry, fieldOf, utf8Encode_of_ascii hb]
  | .dict members, h, dst, err => by
    have ih := members_encode members h.2 [] err
    simp [PyIter_ToAMQArray.item, ih, AMQArray_SetTableValue, AMQArray_AddEntry, fieldOf,
      amqp_empty_table]
  | .list items, h, dst, err => by
    have ih := items_encode items h [] err
    simp [PyIter_ToAMQArray.item, ih, AMQArray_SetArrayValue, AMQArray_AddEntry, fieldOf,
      amqp_empty_array]
  | .tuple items, h, dst, err => by
    have ih := items_encode items h [] err
    simp [PyIter_ToAMQArray.item, ih, AMQArray_SetArrayValue, AMQArray_AddEntry, fieldOf,
      amqp_empty_array]
  | .null, h, _, _ => absurd h id
  | .bool _, h, _, _ => absurd h id
  | .float _, h, _, _ => absurd h id
  | .bytes _, h, _, _ => absurd h id
  | .other _, h, _, _ => absurd h id

theorem members_encode : ∀ (members : PyMembers), MembersDomain members → ∀ dst err,
    PyDict_ToAMQTable.loop dst members err = .ret (dst ++ entriesOf members, err)
  | [], _, dst, err => by simp [PyDict_ToAMQTable.loop, entriesOf]
  | (key, value) :: rest, h, dst, err => by
    obtain ⟨⟨s, rfl, hs⟩, hv, hrest⟩ := h
    obtain ⟨k, hk⟩ := Option.isSome_iff_exists.mp hs
    have ihv := member_encodes value hv dst k err
    have ihr := members_encode rest hrest (dst ++ [(k, fieldOf value)]) err
    simp [PyDict_ToAMQTable.loop, PyKey.toObj, maybe_unicode_ascii hk, ihv, ihr, entriesOf, hk]

theorem items_encode : ∀ (items : List PyObj), ItemsDomain items → ∀ dst err,
    PyIter_ToAMQArray.loop dst items err = .ret (dst ++ fieldsOf items, err)
  | [], _, dst, err => by simp [PyIter_ToAMQArray.loop, fieldsOf]
  | item :: rest, h, dst, err => by
    have ihv := item_encodes item h.1 dst err
    have ihr := items_encode rest h.2 (dst ++ [fieldOf item]) err
    simp [PyIter_ToAMQArray.loop, ihv, ihr, fieldsOf]

end

/-! ## What the decoder gives back -/

theorem toInt_ofInt32 {n : Int} (h1 : -2 ^ 31 ≤ n) (h2 : n < 2 ^ 31) :
    (BitVec.ofInt 32 n).toInt = n := by
  rw [BitVec.toInt_ofInt]
  exact Int.bmod_eq_of_le (by norm_num; omega) (by norm_num; omega)

theorem utf8_decodes {s : PyStr} (h : IsUtf8 s) (err : Option PyErr) :
    PySTRING_FROM_AMQBYTES ((utf8Encode s).getD []) err = (.str s, err) := by
  obtain ⟨b, hb⟩ := Option.isSome_iff_exists.mp h
  simp [PySTRING_FROM_AMQBYTES, PyUnicode_FromStringAndSize, hb, utf8Decode_utf8Encode hb]

theorem ascii_decodes {s : PyStr} (h : IsAscii s) (err : Option PyErr) :
    PySTRING_FROM_AMQBYTES ((asciiEncode s).getD []) err = (.str s, err) := by
  obtain ⟨b, hb⟩ := Option.isSome_iff_exists.mp h
  simpa [hb, utf8Encode_of_ascii hb] using utf8_decodes h.isUtf8 err

theorem listified_ne_null {v : PyObj} (h : MemberDomain v) : listified v ≠ .null := by
  cases v with
  | null => exact absurd h id
  | _ => simp [listified]

/-- One entry with a `str` key that is new to the dict. -/
theorem toPyDict_entry {acc : PyMembers} {k : Octets} {s : PyStr} {f : amqp_field_value_t}
    {v : PyObj} {err : Option PyErr} (rest : amqp_table_t)
    (hk : PySTRING_FROM_AMQBYTES k err = (.str s, err))
    (hf : AMQTable_toPyDict.value f err = .ret (v, err)) (hv : v ≠ .null)
    (hs : PyKey.str s ∉ acc.map Prod.fst) :
    AMQTable_toPyDict.loop acc ((k, f) :: rest) err =
      AMQTable_toPyDict.loop (acc ++ [(.str s, v)]) rest err := by
  have hset : PyDict_SetItem acc (.str s) v = .ret (acc ++ [(.str s, v)]) := by
    rw [PyDict_SetItem_str acc s hv, Dict.set_fresh acc _ v hs]
  simp only [AMQTable_toPyDict.loop, hf, Outcome.ret_bind, hk]
  rw [hset, Outcome.ret_bind]

mutual

theorem member_decodes : ∀ (v : PyObj), MemberDomain v → ∀ err,
    AMQTable_toPyDict.value (fieldOf v) err = .ret (listified v, err)
  | .none, _, err => by simp [fieldOf, AMQTable_toPyDict.value, listified]
  | .bool b, _, err => by simp [fieldOf, AMQTable_toPyDict.value, listified]
  | .int n, h, err => by
    simp [fieldOf, AMQTable_toPyDict.value, listified, toInt_ofInt32 h.1 h.2.1]
  | .float bits, _, err => by simp [fieldOf, AMQTable_toPyDict.value, listified]
  | .str s, h, err => by
    simp [fieldOf, AMQTable_toPyDict.value, listified, utf8_decodes h]
  | .dict members, h, err => by
    have ih := members_decode members h.2 [] (by simpa using h.1) err
    simp [fieldOf, AMQTable_toPyDict.value, listified, ih]
  | .list items, h, err => by
    have ih := items_decode items h [] err
    simp [fieldOf, AMQTable_toPyDict.value, listified, ih]
  | .tuple items, h, err => by
    have ih := items_decode items h [] err
    simp [fieldOf, AMQTable_toPyDict.value, listified, ih]
  | .null, h, _ => absurd h id
  | .bytes _, h, _ => absurd h id
  | .other _, h, _ => absurd h id

theorem item_decodes : ∀ (v : PyObj), ItemDomain v → ∀ err,
    AMQArray_toPyList.value (fieldOf v) err = .ret (listified v, err)
  | .none, _, err => by simp [fieldOf, AMQArray_toPyList.value, listified]
  | .int n, h, err => by
    simp [fieldOf, AMQArray_toPyList.value, listified, toInt_ofInt32 h.1 h.2]
  | .str s, h, err => by
    simp [fieldOf, AMQArray_toPyList.value, listified, utf8_decodes (IsAscii.isUtf8 h)]
  | .dict members, h, err => by
    have ih := members_decode members h.2 [] (by simpa using h.1) err
    simp [fieldOf, AMQArray_toPyList.value, listified, ih]
  | .list items, h, err => by
    have ih := items_decode items h [] err
    simp [fieldOf, AMQArray_toPyList.value, listified, ih]
  | .tuple items, h, err => by
    have ih := items_decode items h [] err
    simp [fieldOf, AMQArray_toPyList.value, listified, ih]
  | .null, h, _ => absurd h id
  | .bool _, h, _ => absurd h id
  | .float _, h, _ => absurd h id
  | .bytes _, h, _ => absurd h id
  | .other _, h, _ => absurd h id

theorem members_decode : ∀ (members : PyMembers), MembersDomain members → ∀ (acc : PyMembers),
    (acc.map Prod.fst ++ members.map Prod.fst).Nodup → ∀ err,
    AMQTable_toPyDict.loop acc (entriesOf members) err =
      .ret (acc ++ listifiedMembers members, err)
  | [], _, acc, _, err => by simp [entriesOf, AMQTable_toPyDict.loop, listifiedMembers]
  | (key, value) :: rest, h, acc, hn, err => by
    obtain ⟨⟨s, rfl, hs⟩, hv, hrest⟩ := h
    have hfresh : PyKey.str s ∉ acc.map Prod.fst := by
      intro hm
      exact (List.nodup_append.mp hn).2.2 _ hm _ (by simp) rfl
    have ih := members_decode rest hrest (acc ++ [(.str s, listified value)])
      (by simpa using hn) err
    rw [entriesOf, toPyDict_entry _ (ascii_decodes hs err) (member_decodes value hv err)
      (listified_ne_null hv) hfresh, ih]
    simp [listifiedMembers]

theorem items_decode : ∀ (items : List PyObj), ItemsDomain items → ∀ (acc : List PyObj) err,
    AMQArray_toPyList.loop acc (fieldsOf items) err = .ret (acc ++ listifiedItems items, err)
  | [], _, acc, err => by simp [fieldsOf, AMQArray_toPyList.loop, listifiedItems]
  | item :: rest, h, acc, err => by
    have ihv := item_decodes item h.1 err
    have ihr := items_decode rest h.2 (acc ++ [listified item]) err
    simp [fieldsOf, AMQArray_toPyList.loop, listifiedItems, ihv, ihr]

end

/-! ## The round trip -/

/-- A dict tree of the domain is encoded with no exception pending, and the
decoder gives the same tree back, with each tuple as a list: the keys of each
dict in their order, the items of each list in theirs, and the values. -/
theorem a_table_survives_the_round_trip (members : PyMembers) (h : DictDomain members) :
    ∃ table, PyDict_ToAMQTable members none = .ret (table, none) ∧
      AMQTable_toPyDict table none = .ret (listifiedMembers members, none) := by
  refine ⟨entriesOf members, ?_, ?_⟩
  · exact members_encode members h.2 [] none
  · exact members_decode members h.2 [] (by simpa using h.1) none

/-- A dict with a nested tuple, an int at each end of the range and a text that
is not ASCII. -/
theorem a_nested_table_survives_the_round_trip :
    ∃ table,
      PyDict_ToAMQTable
        [(.str (pyStr "cc"), .tuple [.int (-1), .none, .dict [(.str (pyStr "n"), .int (2 ^ 31 - 1))]]),
          (.str (pyStr "text"), .str (pyStr "é")), (.str (pyStr "low"), .int (-2 ^ 31))] none =
        .ret (table, none) ∧
      AMQTable_toPyDict table none =
        .ret (listifiedMembers
          [(.str (pyStr "cc"), .tuple [.int (-1), .none, .dict [(.str (pyStr "n"), .int (2 ^ 31 - 1))]]),
            (.str (pyStr "text"), .str (pyStr "é")), (.str (pyStr "low"), .int (-2 ^ 31))], none) := by
  apply a_table_survives_the_round_trip
  refine ⟨by decide, ⟨_, rfl, by decide⟩, ?_, ⟨_, rfl, by decide⟩, ?_, ⟨_, rfl, by decide⟩, ?_, trivial⟩
  · exact ⟨by simp [ItemDomain], trivial, ⟨by decide, ⟨_, rfl, by decide⟩, by simp [MemberDomain],
      trivial⟩, trivial⟩
  · exact (by decide : IsUtf8 (pyStr "é"))
  · simp [MemberDomain]

end librabbitmq.round_trip
