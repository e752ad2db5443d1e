-- The two positions of the table codec. The encoder has one walk over the members of a
-- dict and one over the items of a list, and they take values in their own ways; in both
-- an int ends as 32 bits.
import Librabbitmq.Encoding
import Librabbitmq.TableRoundTrip

namespace librabbitmq.positions

open table_errors encoding

/-! ## One value in both positions -/

/-- As a member under the key and as an item, the value leaves an exception pending both
times, or it is stored both times as the same field. -/
def SameInBoth (key : PyKey) (v : PyObj) : Prop :=
  ∃ table err array err', PyDict_ToAMQTable [(key, v)] none = .ret (table, err) ∧
    PyIter_ToAMQArray [v] none = .ret (array, err') ∧
    ((err.isSome = true ∧ err'.isSome = true) ∨
      (err.isSome = false ∧ err'.isSome = false ∧ ∃ k f, table = [(k, f)] ∧ array = [f]))

/-- The values that both walks take alike. -/
def TakenAlike : PyObj → Prop
  | .bool _ => False
  | .float _ => False
  | .int n => n ≠ -1
  | .str s => IsUtf8 s → IsAscii s
  | v => valueCrashes v = false

/-- The walks on one value. -/
theorem sameInBoth_iff {key : PyKey} (hkey : (keyOctets key).isSome) (v : PyObj) :
    SameInBoth key v ↔ valueCrashes v = false ∧
      ((memberRaises v = true ∧ itemRaises v = true) ∨
        (memberRaises v = false ∧ itemRaises v = false ∧ memberStops v = false ∧
          memberField v = itemField v)) := by
  obtain ⟨k, hk⟩ := Option.isSome_iff_exists.mp hkey
  have hdict := toAMQTable_comes [(key, v)] none
  have hlist := toAMQArray_comes [v] none
  have hcrash : membersCrash [(key, v)] = valueCrashes v := by simp [membersCrash, hk]
  have hraise : membersRaise [(key, v)] = memberRaises v := by
    simp [membersRaise, keyRaises_of_octets hk]
  have htable : tableOf [(key, v)] = if memberStops v then [] else [(k, memberField v)] := by
    simp [tableOf, membersStop, entries, hk]
  have hcrash' : itemsCrash [v] = valueCrashes v := by simp [itemsCrash]
  have hraise' : itemsRaise [v] = itemRaises v := by simp [itemsRaise]
  have harray : fields [v] = if itemStops v then [] else [itemField v] := rfl
  rw [hcrash, hraise, htable, Option.isSome_none, Bool.false_or] at hdict
  rw [hcrash', hraise', harray, Option.isSome_none, Bool.false_or] at hlist
  constructor
  · rintro ⟨table, err, array, err', hd, hl, h⟩
    obtain ⟨hc, rfl, herr⟩ := hdict.of_ret hd
    obtain ⟨_, rfl, herr'⟩ := hlist.of_ret hl
    rw [herr, herr'] at h
    refine ⟨hc, h.imp_right ?_⟩
    rintro ⟨hm, hi, k', f, htab, harr⟩
    refine ⟨hm, hi, ?_⟩
    cases hs : memberStops v with
    | true =>
      rw [hs, if_pos rfl] at htab
      cases htab
    | false =>
      rw [hs, if_neg Bool.false_ne_true] at htab
      cases hs' : itemStops v with
      | true =>
        rw [hs', if_pos rfl] at harr
        cases harr
      | false =>
        rw [hs', if_neg Bool.false_ne_true] at harr
        have hmember := (Prod.mk.inj (List.cons.inj htab).1).2
        have hitem := (List.cons.inj harr).1
        exact ⟨rfl, hmember.trans hitem.symm⟩
  · rintro ⟨hc, h⟩
    rw [hc] at hdict hlist
    obtain ⟨err, herr, hd⟩ := hdict.returns
    obtain ⟨err', herr', hl⟩ := hlist.returns
    refine ⟨_, err, _, err', hd, hl, ?_⟩
    rw [herr, herr']
    refine h.imp_right ?_
    rintro ⟨hm, hi, hs, hf⟩
    have hs' : itemStops v = false := by
      by_contra hstops
      rw [itemRaises_of_stops (Bool.eq_true_of_not_eq_false hstops)] at hi
      cases hi
    rw [hs, hs', if_neg Bool.false_ne_true, if_neg Bool.false_ne_true, hf]
    exact ⟨hm, hi, k, _, rfl, rfl⟩

/-- The kinds of values that both walks take alike. -/
theorem takenAlike_iff (v : PyObj) : TakenAlike v ↔ valueCrashes v = false ∧
    ((memberRaises v = true ∧ itemRaises v = true) ∨
      (memberRaises v = false ∧ itemRaises v = false ∧ memberStops v = false ∧
        memberField v = itemField v)) := by
  cases v with
  | null => simp [TakenAlike, valueCrashes]
  | none => simp [TakenAlike, valueCrashes, memberRaises, itemRaises, memberStops, memberField,
      itemField]
  | bool b => simp [TakenAlike, memberRaises, memberField, itemField]
  | int n =>
    by_cases hfits : FitsLong n
    · simp [TakenAlike, valueCrashes, memberRaises, itemRaises, memberStops, memberField, itemField,
        hfits]
    · have hone : n ≠ -1 := by
        rintro rfl
        exact hfits (by decide)
      simp [TakenAlike, valueCrashes, memberRaises, itemRaises, hfits, hone]
  | float bits => simp [TakenAlike, memberRaises, itemRaises]
  | str s =>
    by_cases hascii : IsAscii s
    · obtain ⟨b, hb⟩ := Option.isSome_iff_exists.mp hascii
      simp [TakenAlike, valueCrashes, memberRaises, itemRaises, memberStops, memberField, itemField,
        hascii, hascii.isUtf8, hb, utf8Encode_of_ascii hb]
    · simp [TakenAlike, valueCrashes, memberRaises, itemRaises, hascii]
  | bytes b => simp [TakenAlike, valueCrashes, memberRaises, itemRaises, memberStops, memberField,
      itemField]
  | list items => cases itemsRaise items <;>
      simp [TakenAlike, memberRaises, itemRaises, memberStops, memberField, itemField]
  | tuple items => cases itemsRaise items <;>
      simp [TakenAlike, memberRaises, itemRaises, memberStops, memberField, itemField]
  | dict members => cases membersRaise members <;>
      simp [TakenAlike, memberRaises, itemRaises, memberStops, memberField, itemField]
  | other id => simp [TakenAlike, valueCrashes, memberRaises, itemRaises]

/-- A value has the same encoding in a dict and in a list exactly when both walks take it
alike. -/
theorem the_positions_agree_exactly_on_what_they_take_alike (key : PyKey)
    (hkey : (keyOctets key).isSome) (v : PyObj) : SameInBoth key v ↔ TakenAlike v :=
  (sameInBoth_iff hkey v).trans (takenAlike_iff v).symm

/-- A nested tuple, in a dict and in a list. -/
theorem a_nested_tuple_is_taken_alike :
    SameInBoth (.str (pyStr "k")) (.tuple [.int (-1), .str (pyStr "a"), .dict []]) :=
  (the_positions_agree_exactly_on_what_they_take_alike (.str (pyStr "k")) (by decide) _).mpr
    (by simp [TakenAlike, valueCrashes, itemsCrash, membersCrash])

/-- `True` is a BOOLEAN in a dict, and an I32 in a list. -/
theorem a_bool_is_an_int_in_a_list : ¬ SameInBoth (.str (pyStr "k")) (.bool true) := by
  have hd : PyDict_ToAMQTable [(.str (pyStr "k"), .bool true)] none =
      .ret ([([107], .boolean true)], none) := rfl
  have hl : PyIter_ToAMQArray [.bool true] none = .ret ([.i32 1], none) := rfl
  rintro ⟨table, err, array, err', hd', hl', h⟩
  cases hd.symm.trans hd'
  cases hl.symm.trans hl'
  rcases h with ⟨h, _⟩ | ⟨_, _, k, f, hf, hg⟩
  · cases h
  · cases hf
    cases hg

/-! ## Places in a tree -/

/-- The member or the item of a container at an index. -/
def child (i : Nat) : PyObj → Option PyObj
  | .dict members => members[i]?.map Prod.snd
  | .list items => items[i]?
  | .tuple items => items[i]?
  | _ => none

/-- The value at a place below a value: the indices on the way to it. -/
def valueAt : List Nat → PyObj → Option PyObj
  | [], v => some v
  | i :: path, v => (child i v).bind (valueAt path)

/-- The entry of a table or of an array at an index. -/
def subfield (i : Nat) : amqp_field_value_t → Option amqp_field_value_t
  | .table entries => entries[i]?.map Prod.snd
  | .array entries => entries[i]?
  | _ => none

def fieldAt : List Nat → amqp_field_value_t → Option amqp_field_value_t
  | [], f => some f
  | i :: path, f => (subfield i f).bind (fieldAt path)

/-- Both decoders give the int for the field. -/
def Decodes (f : amqp_field_value_t) (n : Int) : Prop :=
  ∀ err, AMQTable_toPyDict.value f err = .ret (.int n, err) ∧
    AMQArray_toPyList.value f err = .ret (.int n, err)

/-- The int at the place is rejected with an exception, or its field is decoded as it
was. -/
def ExactOrRejected (members : PyMembers) (path : List Nat) (n : Int) : Prop :=
  ∃ table err, PyDict_ToAMQTable members none = .ret (table, err) ∧
    (err.isSome = true ∨ ∃ f, fieldAt path (.table table) = some f ∧ Decodes f n)

/-- A dict on the way to the place, its own members included, is left at a -1. -/
def dropped : List Nat → PyObj → Bool
  | [], _ => false
  | i :: path, v =>
    (match v with
      | .dict members => members.any fun e => isMinusOne e.2
      | _ => false) || (child i v).any (dropped path)

theorem decodes_i32 (m : BitVec 32) (n : Int) : Decodes (.i32 m) n ↔ m.toInt = n := by
  constructor
  · intro h
    obtain ⟨hd, _⟩ := h none
    rw [AMQTable_toPyDict.value] at hd
    cases hd
    rfl
  · rintro rfl err
    exact ⟨by rw [AMQTable_toPyDict.value], by rw [AMQArray_toPyList.value]⟩

theorem toInt_ofInt32_iff (n : Int) :
    (BitVec.ofInt 32 n).toInt = n ↔ -2 ^ 31 ≤ n ∧ n < 2 ^ 31 := by
  constructor
  · intro h
    have hlo := BitVec.le_toInt (BitVec.ofInt 32 n)
    have hhi := BitVec.toInt_lt (x := BitVec.ofInt 32 n)
    rw [h] at hlo hhi
    exact ⟨hlo, hhi⟩
  · rintro ⟨h1, h2⟩
    exact round_trip.toInt_ofInt32 h1 h2

/-- Below the table of a dict that raises nothing, a place is found exactly when the dict
is not dropped. -/
theorem entry_at (path : List Nat) (g : amqp_field_value_t) {members : PyMembers} {i : Nat}
    {u : PyObj} (hraise : membersRaise members = false)
    (hu : child i (.dict members) = some u) :
    fieldAt (i :: path) (.table (tableOf members)) = some g ↔
      (members.any fun e => isMinusOne e.2) = false ∧ memberRaises u = false ∧
        fieldAt path (memberField u) = some g := by
  have hstop := membersStop_of_silent hraise
  rw [← hstop]
  unfold tableOf
  cases hs : membersStop members with
  | true => simp [fieldAt, subfield]
  | false =>
    obtain ⟨e, he, rfl⟩ := Option.map_eq_some_iff.mp hu
    have hsub : subfield i (.table (entries members)) = some (memberField e.2) := by
      simp [subfield, entries_eq_map, he]
    have hsilent := memberRaises_of_silent hraise hs e (List.mem_of_getElem? he)
    rw [if_neg Bool.false_ne_true, fieldAt, hsub, Option.bind_some]
    simp [hsilent]

/-- Below the array of a list that raises nothing, every place is found. -/
theorem slot_at (path : List Nat) {items : List PyObj} {i : Nat} {u : PyObj}
    (hraise : itemsRaise items = false) (hu : items[i]? = some u) :
    itemRaises u = false ∧ fieldAt (i :: path) (.array (fields items)) =
      fieldAt path (itemField u) := by
  have hsilent := itemRaises_of_silent hraise
  have hfields := fields_of_silent fun item h => (hsilent item h).2
  have hsub : subfield i (.array (fields items)) = some (itemField u) := by
    simp [subfield, hfields, hu]
  exact ⟨(hsilent u (List.mem_of_getElem? hu)).1, by rw [fieldAt, hsub, Option.bind_some]⟩

/-- Below a field of a value that raises nothing, an int is found as it was exactly when it
has 32 bits and no dict on the way is dropped. -/
theorem field_at {n : Int} : ∀ (path : List Nat) (v : PyObj) (f : amqp_field_value_t),
    (f = memberField v ∧ memberRaises v = false) ∨ (f = itemField v ∧ itemRaises v = false) →
    valueAt path v = some (.int n) →
    ((∃ g, fieldAt path f = some g ∧ Decodes g n) ↔
      (-2 ^ 31 ≤ n ∧ n < 2 ^ 31) ∧ dropped path v = false) := by
  intro path
  induction path with
  | nil =>
    intro v f hf hv
    cases hv
    have hi32 : f = .i32 (BitVec.ofInt 32 n) := by
      rcases hf with ⟨rfl, _⟩ | ⟨rfl, hraise⟩
      · rfl
      · have hfits : FitsLong n := by simpa [itemRaises] using hraise
        rw [itemField, if_pos hfits]
    subst hi32
    rw [← toInt_ofInt32_iff, ← decodes_i32]
    simp [fieldAt, dropped]
  | cons i path ih =>
    intro v f hf hv
    rw [valueAt, Option.bind_eq_some_iff] at hv
    obtain ⟨u, hu, hplace⟩ := hv
    have hslot : ∀ items, itemsRaise items = false → items[i]? = some u →
        ((∃ g, fieldAt (i :: path) (.array (fields items)) = some g ∧ Decodes g n) ↔
          (-2 ^ 31 ≤ n ∧ n < 2 ^ 31) ∧ dropped path u = false) := by
      intro items hraise hitem
      obtain ⟨hsilent, hat⟩ := slot_at path hraise hitem
      rw [hat]
      exact ih u (itemField u) (.inr ⟨rfl, hsilent⟩) hplace
    cases v with
    | dict members =>
      have htable : f = .table (tableOf members) ∧ membersRaise members = false := by
        rcases hf with ⟨rfl, hraise⟩ | ⟨rfl, hraise⟩
        · exact ⟨rfl, hraise⟩
        · exact ⟨rfl, hraise⟩
      obtain ⟨rfl, hraise⟩ := htable
      have hat := fun g => entry_at path g hraise hu
      simp only [hat, dropped, hu, Option.any_some, Bool.or_eq_false_iff]
      constructor
      · rintro ⟨g, ⟨hone, hsilent, hg⟩, hdecodes⟩
        obtain ⟨hrange, hdrop⟩ := (ih u _ (.inl ⟨rfl, hsilent⟩) hplace).mp ⟨g, hg, hdecodes⟩
        exact ⟨hrange, hone, hdrop⟩
      · rintro ⟨hrange, hone, hdrop⟩
        have hstop := (membersStop_of_silent hraise).trans hone
        obtain ⟨e, he, rfl⟩ := Option.map_eq_some_iff.mp hu
        have hsilent := memberRaises_of_silent hraise hstop e (List.mem_of_getElem? he)
        obtain ⟨g, hg, hdecodes⟩ := (ih _ _ (.inl ⟨rfl, hsilent⟩) hplace).mpr ⟨hrange, hdrop⟩
        exact ⟨g, ⟨hone, hsilent, hg⟩, hdecodes⟩
    | list items =>
      have harray : f = .array (fields items) ∧ itemsRaise items = false := by
        rcases hf with ⟨rfl, hraise⟩ | ⟨rfl, hraise⟩
        · exact ⟨rfl, hraise⟩
        · exact ⟨rfl, hraise⟩
      obtain ⟨rfl, hraise⟩ := harray
      rw [hslot items hraise hu, dropped, hu, Option.any_some, Bool.false_or]
      simp
    | tuple items =>
      have harray : f = .array (fields items) ∧ itemsRaise items = false := by
        rcases hf with ⟨rfl, hraise⟩ | ⟨rfl, hraise⟩
        · exact ⟨rfl, hraise⟩
        · exact ⟨rfl, hraise⟩
      obtain ⟨rfl, hraise⟩ := harray
      rw [hslot items hraise hu, dropped, hu, Option.any_some, Bool.false_or]
      simp
    | _ => cases hu

/-- An int in a tree is exact or rejected exactly when the encoder returns, and raises, or
the int has 32 bits and no dict on the way to it is dropped. -/
theorem an_int_is_exact_or_rejected_within_32_bits (members : PyMembers) (path : List Nat)
    (n : Int) (hplace : valueAt path (.dict members) = some (.int n)) :
    ExactOrRejected members path n ↔ membersCrash members = false ∧
      (membersRaise members = true ∨
        ((-2 ^ 31 ≤ n ∧ n < 2 ^ 31) ∧ dropped path (.dict members) = false)) := by
  have hrun := toAMQTable_comes members none
  rw [Option.isSome_none, Bool.false_or] at hrun
  constructor
  · rintro ⟨table, err, ht, h⟩
    obtain ⟨hcrash, rfl, herr⟩ := hrun.of_ret ht
    rw [herr] at h
    refine ⟨hcrash, ?_⟩
    cases hraise : membersRaise members with
    | true => exact .inl rfl
    | false =>
      rw [hraise] at h
      obtain ⟨f, hf, hdecodes⟩ := h.resolve_left Bool.false_ne_true
      exact .inr ((field_at path (.dict members) _ (.inl ⟨rfl, hraise⟩) hplace).mp
        ⟨f, hf, hdecodes⟩)
  · rintro ⟨hcrash, h⟩
    rw [hcrash] at hrun
    obtain ⟨err, herr, ht⟩ := hrun.returns
    refine ⟨_, err, ht, ?_⟩
    rw [herr]
    cases hraise : membersRaise members with
    | true => exact .inl rfl
    | false =>
      rw [hraise] at h
      exact .inr ((field_at path (.dict members) _ (.inl ⟨rfl, hraise⟩) hplace).mpr
        (h.resolve_left Bool.false_ne_true))

/-- An int of a list in a dict. -/
theorem a_nested_int_is_exact :
    ExactOrRejected [(.str (pyStr "x"), .list [.none, .int (-7)])] [0, 1] (-7) :=
  (an_int_is_exact_or_rejected_within_32_bits _ _ _ rfl).mpr
    ⟨rfl, .inr ⟨by decide, rfl⟩⟩

/-- `{"x": 2 ** 31}` becomes the I32 -2147483648. -/
theorem the_first_int_above_32_bits_changes_its_sign :
    ¬ ExactOrRejected [(.str (pyStr "x"), .int 2147483648)] [0] 2147483648 := by
  have ht : PyDict_ToAMQTable [(.str (pyStr "x"), .int 2147483648)] none =
      .ret ([([120], .i32 0x80000000)], none) := rfl
  rintro ⟨table, err, ht', h⟩
  cases ht.symm.trans ht'
  rcases h with h | ⟨f, hf, hdecodes⟩
  · cases h
  · cases hf
    rw [decodes_i32] at hdecodes
    revert hdecodes
    decide

end librabbitmq.positions
