-- When the table encoder fails. `PyLong_AsLong` and `PyFloat_AsDouble` report
-- failure in band, as -1, and the encoder takes every -1 for a failure. So a
-- dict with a member -1 or -1.0 comes back empty with no exception pending.
import Librabbitmq.Tables

namespace librabbitmq.table_errors

/-! ## Trees -/

mutual

/-- A Python value whose dicts, at every depth, have ASCII `str` keys. -/
def IsTree : PyObj → Prop
  | .null => False
  | .dict members => TreeMembers members
  | .list items => TreeItems items
  | .tuple items => TreeItems items
  | _ => True

/-- The members of a dict tree with ASCII `str` keys. -/
def TreeMembers : PyMembers → Prop
  | [] => True
  | (key, value) :: rest =>
    (∃ s, key = .str s ∧ IsAscii s) ∧ IsTree value ∧ TreeMembers rest

def TreeItems : List PyObj → Prop
  | [] => True
  | item :: rest => IsTree item ∧ TreeItems rest

end

/-! ## What cannot be encoded -/

mutual

/-- A dict member that is, or that holds at some depth, a value that the encoder
cannot encode. -/
def memberUnencodable : PyObj → Bool
  | .int n => !decide (FitsLong n)
  | .str s => !decide (IsUtf8 s)
  | .other _ => true
  | .dict members => membersUnencodable members
  | .list items => itemsUnencodable items
  | .tuple items => itemsUnencodable items
  | _ => false

/-- The same of a list or tuple item. -/
def itemUnencodable : PyObj → Bool
  | .int n => !decide (FitsLong n)
  | .str s => !decide (IsAscii s)
  | .float _ => true
  | .other _ => true
  | .dict members => membersUnencodable members
  | .list items => itemsUnencodable items
  | .tuple items => itemsUnencodable items
  | _ => false

def membersUnencodable : PyMembers → Bool
  | [] => false
  | (_, value) :: rest => memberUnencodable value || membersUnencodable rest

def itemsUnencodable : List PyObj → Bool
  | [] => false
  | item :: rest => itemUnencodable item || itemsUnencodable rest

end

mutual

/-- A dict member that is -1 or -1.0, or that holds a dict with such a member. -/
def memberMinusOne : PyObj → Bool
  | .int n => decide (n = -1)
  | .float bits => decide (bits = minusOneBits)
  | .dict members => membersMinusOne members
  | .list items => itemsMinusOne items
  | .tuple items => itemsMinusOne items
  | _ => false

/-- A list item that holds a dict with a member -1 or -1.0. -/
def itemMinusOne : PyObj → Bool
  | .dict members => membersMinusOne members
  | .list items => itemsMinusOne items
  | .tuple items => itemsMinusOne items
  | _ => false

def membersMinusOne : PyMembers → Bool
  | [] => false
  | (_, value) :: rest => memberMinusOne value || membersMinusOne rest

def itemsMinusOne : List PyObj → Bool
  | [] => false
  | item :: rest => itemMinusOne item || itemsMinusOne rest

end

/-! ## The values that the encoder meets

A dict is left at its first member of this kind, and the members behind it are
never looked at. -/

/-- A dict member at which the encoder leaves the dict. -/
def memberStops : PyObj → Bool
  | .int n => decide (n = -1) || !decide (FitsLong n)
  | .float bits => decide (bits = minusOneBits)
  | .str s => !decide (IsUtf8 s)
  | .other _ => true
  | _ => false

/-- An item at which the encoder leaves the list. -/
def itemStops : PyObj → Bool
  | .str s => !decide (IsAscii s)
  | .float _ => true
  | .other _ => true
  | _ => false

mutual

/-- The encoder meets a value that it cannot encode, in a dict member. -/
def memberMeets : PyObj → Bool
  | .int n => !decide (FitsLong n)
  | .str s => !decide (IsUtf8 s)
  | .other _ => true
  | .dict members => membersMeet members
  | .list items => itemsMeet items
  | .tuple items => itemsMeet items
  | _ => false

def itemMeets : PyObj → Bool
  | .int n => !decide (FitsLong n)
  | .str s => !decide (IsAscii s)
  | .float _ => true
  | .other _ => true
  | .dict members => membersMeet members
  | .list items => itemsMeet items
  | .tuple items => itemsMeet items
  | _ => false

def membersMeet : PyMembers → Bool
  | [] => false
  | (_, value) :: rest => memberMeets value || (!memberStops value && membersMeet rest)

def itemsMeet : List PyObj → Bool
  | [] => false
  | item :: rest => itemMeets item || (!itemStops item && itemsMeet rest)

end

/-! ## Complete results -/

mutual

/-- Every dict below the value has one entry for each key, and every list one
for each item. -/
def MemberComplete : PyObj → amqp_field_value_t → Prop
  | .dict members, f => ∃ t, f = .table t ∧ TableComplete members t
  | .list items, f => ∃ a, f = .array a ∧ ArrayComplete items a
  | .tuple items, f => ∃ a, f = .array a ∧ ArrayComplete items a
  | _, _ => True

/-- The table has exactly one entry for each key, at every depth. -/
def TableComplete : PyMembers → amqp_table_t → Prop
  | [], t => t = []
  | (key, value) :: rest, t => ∃ s k f t', key = .str s ∧ asciiEncode s = some k ∧
      t = (k, f) :: t' ∧ MemberComplete value f ∧ TableComplete rest t'

/-- The array has exactly one entry for each item, at every depth. -/
def ArrayComplete : List PyObj → amqp_array_t → Prop
  | [], a => a = []
  | item :: rest, a => ∃ f a', a = f :: a' ∧ MemberComplete item f ∧ ArrayComplete rest a'

end

/-! ## One turn of each loop -/

/-- What one member does to the loop of `PyDict_ToAMQTable`. -/
structure MemberTurn (dst : amqp_table_t) (key : Octets) (v : PyObj) (err : Option PyErr)
    (o : Option amqp_table_t) (err' : Option PyErr) : Prop where
  pending : err'.isSome = (err.isSome || memberMeets v)
  stops : o = none ↔ memberStops v = true
  entry : ∀ t, o = some t → ∃ f, t = dst ++ [(key, f)] ∧
    (memberMeets v = false → (MemberComplete v f ↔ memberMinusOne v = false))

/-- What one item does to the loop of `PyIter_ToAMQArray`. -/
structure ItemTurn (dst : amqp_array_t) (v : PyObj) (err : Option PyErr)
    (o : Option amqp_array_t) (err' : Option PyErr) : Prop where
  pending : err'.isSome = (err.isSome || itemMeets v)
  stops : o = none ↔ itemStops v = true
  entry : ∀ a, o = some a → ∃ f, a = dst ++ [f] ∧
    (itemMeets v = false → (MemberComplete v f ↔ itemMinusOne v = false))

/-- What the whole loop over a dict does. With a member -1 or -1.0 the table is
empty, or what was added to it is not complete. -/
structure MembersRun (dst : amqp_table_t) (members : PyMembers) (err : Option PyErr)
    (t : amqp_table_t) (err' : Option PyErr) : Prop where
  pending : err'.isSome = (err.isSome || membersMeet members)
  complete : membersMeet members = false → membersMinusOne members = false →
    ∃ t', t = dst ++ t' ∧ TableComplete members t'
  dropped : membersMeet members = false → membersMinusOne members = true →
    (t = [] ∧ members ≠ []) ∨ ∃ t', t = dst ++ t' ∧ ¬ TableComplete members t'

/-- What the whole loop over a list does. -/
structure ItemsRun (dst : amqp_array_t) (items : List PyObj) (err : Option PyErr)
    (a : amqp_array_t) (err' : Option PyErr) : Prop where
  pending : err'.isSome = (err.isSome || itemsMeet items)
  complete : itemsMeet items = false → itemsMinusOne items = false →
    ∃ a', a = dst ++ a' ∧ ArrayComplete items a'
  dropped : itemsMeet items = false → itemsMinusOne items = true →
    ∃ a', a = dst ++ a' ∧ ¬ ArrayComplete items a'

/-- From an empty table, the run of a dict is complete exactly when no member is
-1 or -1.0. -/
theorem MembersRun.complete_iff {members : PyMembers} {err err' : Option PyErr} {t : amqp_table_t}
    (h : MembersRun [] members err t err') (hm : membersMeet members = false) :
    TableComplete members t ↔ membersMinusOne members = false := by
  cases hone : membersMinusOne members with
  | false =>
    obtain ⟨t', ht, hc⟩ := h.complete hm hone
    simpa [ht] using hc
  | true =>
    simp only [Bool.true_eq_false, iff_false]
    rcases h.dropped hm hone with ⟨rfl, hne⟩ | ⟨t', ht, hc⟩
    · cases members with
      | nil => exact absurd rfl hne
      | cons e rest =>
        obtain ⟨key, value⟩ := e
        rintro ⟨_, _, _, _, _, _, h0, _⟩
        cases h0
    · simpa [ht] using hc

theorem ItemsRun.complete_iff {items : List PyObj} {err err' : Option PyErr} {a : amqp_array_t}
    (h : ItemsRun [] items err a err') (hm : itemsMeet items = false) :
    ArrayComplete items a ↔ itemsMinusOne items = false := by
  cases hone : itemsMinusOne items with
  | false =>
    obtain ⟨a', ha, hc⟩ := h.complete hm hone
    simpa [ha] using hc
  | true =>
    obtain ⟨a', ha, hc⟩ := h.dropped hm hone
    simpa [ha] using hc

theorem membersRun_nil (dst : amqp_table_t) (err : Option PyErr) :
    MembersRun dst [] err dst err := by
  refine ⟨by simp [membersMeet], fun _ _ => ⟨[], by simp, by simp [TableComplete]⟩, ?_⟩
  intro _ h
  simp [membersMinusOne] at h

/-- A dict that the encoder leaves at its first member. -/
theorem membersRun_stop {dst : amqp_table_t} {key : PyKey} {k : Octets} {v : PyObj}
    {rest : PyMembers} {err err' : Option PyErr} (h : MemberTurn dst k v err none err') :
    MembersRun dst ((key, v) :: rest) err [] err' := by
  have hs : memberStops v = true := h.stops.mp rfl
  refine ⟨by simp [membersMeet, hs, h.pending], ?_, fun _ _ => Or.inl ⟨rfl, by simp⟩⟩
  intro hm hone
  simp only [membersMeet, hs, membersMinusOne, Bool.or_eq_false_iff, Bool.not_true,
    Bool.false_and, and_true] at hm hone
  -- a value that stops the loop is a -1 or cannot be encoded
  cases v <;> simp_all [memberStops, memberMeets, memberMinusOne]

/-- A dict whose first member gets its entry. -/
theorem membersRun_cons {dst t : amqp_table_t} {s : PyStr} {k : Octets} {v : PyObj}
    {f : amqp_field_value_t} {rest : PyMembers} {err err1 err2 : Option PyErr}
    (hk : asciiEncode s = some k) (h : MemberTurn dst k v err (some (dst ++ [(k, f)])) err1)
    (hf : memberMeets v = false → (MemberComplete v f ↔ memberMinusOne v = false))
    (hr : MembersRun (dst ++ [(k, f)]) rest err1 t err2) :
    MembersRun dst ((.str s, v) :: rest) err t err2 := by
  have hs : memberStops v = false := by
    rw [← Bool.not_eq_true, ← h.stops]
    simp
  refine ⟨by simp [membersMeet, hs, hr.pending, h.pending, Bool.or_assoc], ?_, ?_⟩
  · intro hm hone
    simp only [membersMeet, hs, membersMinusOne, Bool.or_eq_false_iff, Bool.not_false,
      Bool.true_and] at hm hone
    obtain ⟨t', ht, hc⟩ := hr.complete hm.2 hone.2
    exact ⟨(k, f) :: t', by simp [ht], s, k, f, t', rfl, hk, rfl, (hf hm.1).mpr hone.1, hc⟩
  · intro hm hone
    simp only [membersMeet, hs, Bool.or_eq_false_iff, Bool.not_false, Bool.true_and] at hm
    cases hrest : membersMinusOne rest with
    | true =>
      rcases hr.dropped hm.2 hrest with ⟨ht, _⟩ | ⟨t', ht, hc⟩
      · exact Or.inl ⟨ht, by simp⟩
      · refine Or.inr ⟨(k, f) :: t', by simp [ht], ?_⟩
        rintro ⟨_, _, _, _, _, _, he, _, hc'⟩
        cases he
        exact hc hc'
    | false =>
      simp only [membersMinusOne, hrest, Bool.or_false] at hone
      obtain ⟨t', ht, _⟩ := hr.complete hm.2 hrest
      refine Or.inr ⟨(k, f) :: t', by simp [ht], ?_⟩
      rintro ⟨_, _, _, _, _, _, he, hc', _⟩
      cases he
      simp [hone] at hf
      exact hf hm.1 hc'

theorem itemsRun_nil (dst : amqp_array_t) (err : Option PyErr) :
    ItemsRun dst [] err dst err := by
  refine ⟨by simp [itemsMeet], fun _ _ => ⟨[], by simp, by simp [ArrayComplete]⟩, ?_⟩
  intro _ h
  simp [itemsMinusOne] at h

/-- A list that the encoder leaves at its first item: that item has set an
exception. -/
theorem itemsRun_stop {dst : amqp_array_t} {v : PyObj} {rest : List PyObj}
    {err err' : Option PyErr} (h : ItemTurn dst v err none err') :
    ItemsRun dst (v :: rest) err dst err' := by
  have hs : itemStops v = true := h.stops.mp rfl
  have hv : itemMeets v = true := by
    cases v <;> simp_all [itemStops, itemMeets]
  refine ⟨by simp [itemsMeet, hs, h.pending], ?_, ?_⟩
  · intro hm
    simp [itemsMeet, hv] at hm
  · intro hm
    simp [itemsMeet, hv] at hm

/-- A list whose first item gets its entry. -/
theorem itemsRun_cons {dst a : amqp_array_t} {v : PyObj} {f : amqp_field_value_t}
    {rest : List PyObj} {err err1 err2 : Option PyErr}
    (h : ItemTurn dst v err (some (dst ++ [f])) err1)
    (hf : itemMeets v = false → (MemberComplete v f ↔ itemMinusOne v = false))
    (hr : ItemsRun (dst ++ [f]) rest err1 a err2) : ItemsRun dst (v :: rest) err a err2 := by
  have hs : itemStops v = false := by
    rw [← Bool.not_eq_true, ← h.stops]
    simp
  refine ⟨by simp [itemsMeet, hs, hr.pending, h.pending, Bool.or_assoc], ?_, ?_⟩
  · intro hm hone
    simp only [itemsMeet, hs, itemsMinusOne, Bool.or_eq_false_iff, Bool.not_false,
      Bool.true_and] at hm hone
    obtain ⟨a', ha, hc⟩ := hr.complete hm.2 hone.2
    exact ⟨f :: a', by simp [ha], f, a', rfl, (hf hm.1).mpr hone.1, hc⟩
  · intro hm hone
    simp only [itemsMeet, hs, Bool.or_eq_false_iff, Bool.not_false, Bool.true_and] at hm
    cases hrest : itemsMinusOne rest with
    | true =>
      obtain ⟨a', ha, hc⟩ := hr.dropped hm.2 hrest
      refine ⟨f :: a', by simp [ha], ?_⟩
      rintro ⟨_, _, he, _, hc'⟩
      cases he
      exact hc hc'
    | false =>
      simp only [itemsMinusOne, hrest, Bool.or_false] at hone
      obtain ⟨a', ha, _⟩ := hr.complete hm.2 hrest
      refine ⟨f :: a', by simp [ha], ?_⟩
      rintro ⟨_, _, he, hc', _⟩
      cases he
      simp [hone] at hf
      exact hf hm.1 hc'

/-! ## The whole walk -/

/-- A member that gets its entry and is no container. -/
theorem memberTurn_entry {dst : amqp_table_t} {key : Octets} {v : PyObj} {err : Option PyErr}
    (f : amqp_field_value_t) (hm : memberMeets v = false) (hs : memberStops v = false)
    (hone : memberMinusOne v = false) (hc : MemberComplete v f) :
    MemberTurn dst key v err (some (dst ++ [(key, f)])) err := by
  refine ⟨by simp [hm], by simp [hs], ?_⟩
  intro t ht
  cases ht
  exact ⟨f, rfl, fun _ => by simp [hone, hc]⟩

/-- A member at which the encoder sets an exception and leaves the dict. -/
theorem memberTurn_error {dst : amqp_table_t} {key : Octets} {v : PyObj} {err : Option PyErr}
    (e : PyErr) (hm : memberMeets v = true) (hs : memberStops v = true) :
    MemberTurn dst key v err none (some e) := by
  refine ⟨by simp [hm], by simp [hs], ?_⟩
  intro t ht
  cases ht

/-- A member -1 or -1.0, at which the encoder leaves the dict. -/
theorem memberTurn_minusOne {dst : amqp_table_t} {key : Octets} {v : PyObj} {err : Option PyErr}
    (hm : memberMeets v = false) (hs : memberStops v = true) :
    MemberTurn dst key v err none err := by
  refine ⟨by simp [hm], by simp [hs], ?_⟩
  intro t ht
  cases ht

/-- A dict as a member. -/
theorem memberTurn_dict {dst : amqp_table_t} {key : Octets} {members : PyMembers}
    {t : amqp_table_t} {err err' : Option PyErr} (h : MembersRun [] members err t err') :
    MemberTurn dst key (.dict members) err (some (dst ++ [(key, .table t)])) err' := by
  refine ⟨h.pending, by simp [memberStops], ?_⟩
  intro t' ht
  cases ht
  refine ⟨.table t, rfl, fun hm => ?_⟩
  have hc := h.complete_iff hm
  simpa [MemberComplete, memberMinusOne] using hc

/-- A list or a tuple as a member. -/
theorem memberTurn_array {dst : amqp_table_t} {key : Octets} {items : List PyObj}
    {a : amqp_array_t} {err err' : Option PyErr} (h : ItemsRun [] items err a err') (v : PyObj)
    (hv : v = .list items ∨ v = .tuple items) :
    MemberTurn dst key v err (some (dst ++ [(key, .array a)])) err' := by
  have hp := h.pending
  have hc := h.complete_iff
  refine ⟨?_, ?_, ?_⟩
  · rcases hv with rfl | rfl <;> exact hp
  · rcases hv with rfl | rfl <;> simp [memberStops]
  · intro t' ht
    cases ht
    refine ⟨.array a, rfl, ?_⟩
    rcases hv with rfl | rfl <;>
      simpa [MemberComplete, memberMinusOne, memberMeets] using hc

theorem itemTurn_entry {dst : amqp_array_t} {v : PyObj} {err : Option PyErr}
    (f : amqp_field_value_t) (hm : itemMeets v = false) (hs : itemStops v = false)
    (hone : itemMinusOne v = false) (hc : MemberComplete v f) :
    ItemTurn dst v err (some (dst ++ [f])) err := by
  refine ⟨by simp [hm], by simp [hs], ?_⟩
  intro t ht
  cases ht
  exact ⟨f, rfl, fun _ => by simp [hone, hc]⟩

theorem itemTurn_error {dst : amqp_array_t} {v : PyObj} {err : Option PyErr} (e : PyErr)
    (hm : itemMeets v = true) (hs : itemStops v = true) :
    ItemTurn dst v err none (some e) := by
  refine ⟨by simp [hm], by simp [hs], ?_⟩
  intro t ht
  cases ht

theorem itemTurn_dict {dst : amqp_array_t} {members : PyMembers} {t : amqp_table_t}
    {err err' : Option PyErr} (h : MembersRun [] members err t err') :
    ItemTurn dst (.dict members) err (some (dst ++ [.table t])) err' := by
  refine ⟨h.pending, by simp [itemStops], ?_⟩
  intro t' ht
  cases ht
  refine ⟨.table t, rfl, fun hm => ?_⟩
  have hc := h.complete_iff hm
  simpa [MemberComplete, itemMinusOne] using hc

theorem itemTurn_array {dst : amqp_array_t} {items : List PyObj} {a : amqp_array_t}
    {err err' : Option PyErr} (h : ItemsRun [] items err a err') (v : PyObj)
    (hv : v = .list items ∨ v = .tuple items) :
    ItemTurn dst v err (some (dst ++ [.array a])) err' := by
  have hp := h.pending
  have hc := h.complete_iff
  refine ⟨?_, ?_, ?_⟩
  · rcases hv with rfl | rfl <;> exact hp
  · rcases hv with rfl | rfl <;> simp [itemStops]
  · intro t' ht
    cases ht
    refine ⟨.array a, rfl, ?_⟩
    rcases hv with rfl | rfl <;>
      simpa [MemberComplete, itemMinusOne, itemMeets] using hc

mutual

theorem member_turn : ∀ (v : PyObj), IsTree v → ∀ dst key err, ∃ o err',
    PyDict_ToAMQTable.member dst (.bytes key) v err = .ret (o, err') ∧
      MemberTurn dst key v err o err'
  | .none, _, dst, key, err => by
    refine ⟨_, err, by simp [PyDict_ToAMQTable.member, PyString_AS_AMQBYTES, AMQTable_SetNilValue,
      AMQTable_AddEntry]; rfl, ?_⟩
    exact memberTurn_entry .void rfl rfl rfl trivial
  | .bool b, _, dst, key, err => by
    refine ⟨_, err, by simp [PyDict_ToAMQTable.member, PyString_AS_AMQBYTES, AMQTable_SetBoolValue,
      AMQTable_AddEntry]; rfl, ?_⟩
    exact memberTurn_entry (.boolean b) rfl rfl rfl trivial
  | .int n, _, dst, key, err => by
    by_cases hf : FitsLong n
    · by_cases hn : n = -1
      · subst hn
        refine ⟨none, err, by simp [PyDict_ToAMQTable.member, PyLong_AsLong, hf], ?_⟩
        exact memberTurn_minusOne (by simp [memberMeets, hf]) (by simp [memberStops])
      · refine ⟨_, err, by simp [PyDict_ToAMQTable.member, PyLong_AsLong, hf, hn,
          PyString_AS_AMQBYTES, AMQTable_SetIntValue, AMQTable_AddEntry]; rfl, ?_⟩
        exact memberTurn_entry (.i32 (BitVec.ofInt 32 n)) (by simp [memberMeets, hf])
          (by simp [memberStops, hf, hn]) (by simp [memberMinusOne, hn]) trivial
    · refine ⟨none, _, by simp [PyDict_ToAMQTable.member, PyLong_AsLong, hf]; rfl, ?_⟩
      exact memberTurn_error _ (by simp [memberMeets, hf]) (by simp [memberStops, hf])
  | .float bits, _, dst, key, err => by
    by_cases hb : bits = minusOneBits
    · refine ⟨none, err, by simp [PyDict_ToAMQTable.member, hb], ?_⟩
      exact memberTurn_minusOne rfl (by simp [memberStops, hb])
    · refine ⟨_, err, by simp [PyDict_ToAMQTable.member, hb, PyString_AS_AMQBYTES,
        AMQTable_SetDoubleValue, AMQTable_AddEntry]; rfl, ?_⟩
      exact memberTurn_entry (.f64 bits) rfl (by simp [memberStops, hb])
        (by simp [memberMinusOne, hb]) trivial
  | .str s, _, dst, key, err => by
    cases hs : utf8Encode s with
    | some b =>
      have hu : IsUtf8 s := by simp [IsUtf8, hs]
      refine ⟨_, err, by simp [PyDict_ToAMQTable.member, PyUnicode_AsEncodedString, hs,
        PyString_AS_AMQBYTES, AMQTable_SetStringValue, AMQTable_AddEntry]; rfl, ?_⟩
      exact memberTurn_entry (.utf8 b) (by simp [memberMeets, hu]) (by simp [memberStops, hu])
        rfl trivial
    | none =>
      have hu : ¬ IsUtf8 s := by simp [IsUtf8, hs]
      refine ⟨none, _, by simp [PyDict_ToAMQTable.member, PyUnicode_AsEncodedString, hs]; rfl, ?_⟩
      exact memberTurn_error _ (by simp [memberMeets, hu]) (by simp [memberStops, hu])
  | .bytes b, _, dst, key, err => by
    refine ⟨_, err, by simp [PyDict_ToAMQTable.member, PyString_AS_AMQBYTES,
      AMQTable_SetStringValue, AMQTable_AddEntry]; rfl, ?_⟩
    exact memberTurn_entry (.utf8 b) rfl rfl rfl trivial
  | .other id, _, dst, key, err => by
    refine ⟨none, _, by simp [PyDict_ToAMQTable.member, PyString_AS_AMQBYTES]; rfl, ?_⟩
    exact memberTurn_error _ rfl rfl
  | .dict members, h, dst, key, err => by
    obtain ⟨t, err', ht, hr⟩ := members_run members h [] err
    refine ⟨_, err', by simp [PyDict_ToAMQTable.member, PyString_AS_AMQBYTES, amqp_empty_table,
      ht, AMQTable_SetTableValue, AMQTable_AddEntry]; rfl, ?_⟩
    exact memberTurn_dict hr
  | .list items, h, dst, key, err => by
    obtain ⟨a, err', ha, hr⟩ := items_run items h [] err
    refine ⟨_, err', by simp [PyDict_ToAMQTable.member, PyString_AS_AMQBYTES, amqp_empty_array,
      ha, AMQTable_SetArrayValue, AMQTable_AddEntry]; rfl, ?_⟩
    exact memberTurn_array hr _ (Or.inl rfl)
  | .tuple items, h, dst, key, err => by
    obtain ⟨a, err', ha, hr⟩ := items_run items h [] err
    refine ⟨_, err', by simp [PyDict_ToAMQTable.member, PyString_AS_AMQBYTES, amqp_empty_array,
      ha, AMQTable_SetArrayValue, AMQTable_AddEntry]; rfl, ?_⟩
    exact memberTurn_array hr _ (Or.inr rfl)
  | .null, h, _, _, _ => absurd h id

theorem item_turn : ∀ (v : PyObj), IsTree v → ∀ dst err, ∃ o err',
    PyIter_ToAMQArray.item dst v err = .ret (o, err') ∧ ItemTurn dst v err o err'
  | .none, _, dst, err => by
    refine ⟨_, err, by simp [PyIter_ToAMQArray.item, AMQArray_SetNilValue, AMQArray_AddEntry]; rfl,
      ?_⟩
    exact itemTurn_entry .void rfl rfl rfl trivial
  | .bool b, _, dst, err => by
    refine ⟨_, err, by simp [PyIter_ToAMQArray.item, AMQArray_SetIntValue, AMQArray_AddEntry]; rfl,
      ?_⟩
    exact itemTurn_entry (.i32 (BitVec.ofInt 32 b.toInt)) rfl rfl rfl trivial
  | .int n, _, dst, err => by
    by_cases hf : FitsLong n
    · refine ⟨_, err, by simp [PyIter_ToAMQArray.item, PyLong_AsLong, hf, AMQArray_SetIntValue,
        AMQArray_AddEntry]; rfl, ?_⟩
      exact itemTurn_entry (.i32 (BitVec.ofInt 32 n)) (by simp [itemMeets, hf]) rfl rfl trivial
    · -- an int out of range leaves an entry -1 behind, and the loop goes on
      refine ⟨_, _, by simp [PyIter_ToAMQArray.item, PyLong_AsLong, hf, AMQArray_SetIntValue,
        AMQArray_AddEntry]; exact ⟨rfl, rfl⟩, by simp [itemMeets, hf], by simp [itemStops], ?_⟩
      intro a ha
      cases ha
      refine ⟨.i32 (BitVec.ofInt 32 (-1)), rfl, fun hm => ?_⟩
      simp [itemMeets, hf] at hm
  | .float bits, _, dst, err => by
    refine ⟨none, _, by simp [PyIter_ToAMQArray.item]; rfl, ?_⟩
    exact itemTurn_error _ rfl rfl
  | .str s, _, dst, err => by
    cases hs : asciiEncode s with
    | some b =>
      have hu : IsAscii s := by simp [IsAscii, hs]
      refine ⟨_, err, by simp [PyIter_ToAMQArray.item, PyUnicode_AsASCIIString, hs,
        PyString_AS_AMQBYTES, AMQArray_SetStringValue, AMQArray_AddEntry]; rfl, ?_⟩
      exact itemTurn_entry (.utf8 b) (by simp [itemMeets, hu]) (by simp [itemStops, hu]) rfl
        trivial
    | none =>
      have hu : ¬ IsAscii s := by simp [IsAscii, hs]
      refine ⟨none, _, by simp [PyIter_ToAMQArray.item, PyUnicode_AsASCIIString, hs]; rfl, ?_⟩
      exact itemTurn_error _ (by simp [itemMeets, hu]) (by simp [itemStops, hu])
  | .bytes b, _, dst, err => by
    refine ⟨_, err, by simp [PyIter_ToAMQArray.item, AMQArray_SetStringValue,
      AMQArray_AddEntry]; rfl, ?_⟩
    exact itemTurn_entry (.utf8 b) rfl rfl rfl trivial
  | .other id, _, dst, err => by
    refine ⟨none, _, by simp [PyIter_ToAMQArray.item]; rfl, ?_⟩
    exact itemTurn_error _ rfl rfl
  | .dict members, h, dst, err => by
    obtain ⟨t, err', ht, hr⟩ := members_run members h [] err
    refine ⟨_, err', by simp [PyIter_ToAMQArray.item, amqp_empty_table, ht,
      AMQArray_SetTableValue, AMQArray_AddEntry]; rfl, ?_⟩
    exact itemTurn_dict hr
  | .list items, h, dst, err => by
    obtain ⟨a, err', ha, hr⟩ := items_run items h [] err
    refine ⟨_, err', by simp [PyIter_ToAMQArray.item, amqp_empty_array, ha,
      AMQArray_SetArrayValue, AMQArray_AddEntry]; rfl, ?_⟩
    exact itemTurn_array hr _ (Or.inl rfl)
  | .tuple items, h, dst, err => by
    obtain ⟨a, err', ha, hr⟩ := items_run items h [] err
    refine ⟨_, err', by simp [PyIter_ToAMQArray.item, amqp_empty_array, ha,
      AMQArray_SetArrayValue, AMQArray_AddEntry]; rfl, ?_⟩
    exact itemTurn_array hr _ (Or.inr rfl)
  | .null, h, _, _ => absurd h id

theorem members_run : ∀ (members : PyMembers), TreeMembers members → ∀ dst err, ∃ t err',
    PyDict_ToAMQTable.loop dst members err = .ret (t, err') ∧ MembersRun dst members err t err'
  | [], _, dst, err => ⟨dst, err, by simp [PyDict_ToAMQTable.loop], membersRun_nil dst err⟩
  | (key, value) :: rest, h, dst, err => by
    obtain ⟨⟨s, rfl, hs⟩, hv, hrest⟩ := h
    obtain ⟨k, hk⟩ := Option.isSome_iff_exists.mp hs
    have hkey : PyObjectArray_Maybe_Unicode (.str s) err = (.bytes k, err) := by
      simp [PyObjectArray_Maybe_Unicode, PyUnicode_AsASCIIString, hk]
    obtain ⟨o, err1, ho, ht⟩ := member_turn value hv dst k err
    cases o with
    | none =>
      refine ⟨[], err1, ?_, membersRun_stop ht⟩
      simp [PyDict_ToAMQTable.loop, PyKey.toObj, hkey, ho, amqp_empty_table]
    | some d =>
      obtain ⟨f, rfl, hf⟩ := ht.entry d rfl
      obtain ⟨t, err2, hl, hr⟩ := members_run rest hrest (dst ++ [(k, f)]) err1
      refine ⟨t, err2, ?_, membersRun_cons hk ht hf hr⟩
      simp [PyDict_ToAMQTable.loop, PyKey.toObj, hkey, ho, hl]

theorem items_run : ∀ (items : List PyObj), TreeItems items → ∀ dst err, ∃ a err',
    PyIter_ToAMQArray.loop dst items err = .ret (a, err') ∧ ItemsRun dst items err a err'
  | [], _, dst, err => ⟨dst, err, by simp [PyIter_ToAMQArray.loop], itemsRun_nil dst err⟩
  | item :: rest, h, dst, err => by
    obtain ⟨o, err1, ho, ht⟩ := item_turn item h.1 dst err
    cases o with
    | none =>
      refine ⟨dst, err1, ?_, itemsRun_stop ht⟩
      simp [PyIter_ToAMQArray.loop, ho]
    | some d =>
      obtain ⟨f, rfl, hf⟩ := ht.entry d rfl
      obtain ⟨a, err2, hl, hr⟩ := items_run rest h.2 (dst ++ [f]) err1
      refine ⟨a, err2, ?_, itemsRun_cons ht hf hr⟩
      simp [PyIter_ToAMQArray.loop, ho, hl]

end

/-! ## What is met and what is there -/

mutual

theorem unencodable_of_memberMeets : ∀ v, memberMeets v = true → memberUnencodable v = true
  | .int _, h => h
  | .str _, h => h
  | .other _, _ => rfl
  | .dict members, h => unencodable_of_membersMeet members h
  | .list items, h => unencodable_of_itemsMeet items h
  | .tuple items, h => unencodable_of_itemsMeet items h
  | .null, h => h
  | .none, h => h
  | .bool _, h => h
  | .float _, h => h
  | .bytes _, h => h

theorem unencodable_of_itemMeets : ∀ v, itemMeets v = true → itemUnencodable v = true
  | .int _, h => h
  | .str _, h => h
  | .float _, _ => rfl
  | .other _, _ => rfl
  | .dict members, h => unencodable_of_membersMeet members h
  | .list items, h => unencodable_of_itemsMeet items h
  | .tuple items, h => unencodable_of_itemsMeet items h
  | .null, h => h
  | .none, h => h
  | .bool _, h => h
  | .bytes _, h => h

theorem unencodable_of_membersMeet : ∀ members, membersMeet members = true →
    membersUnencodable members = true
  | [], h => h
  | (key, value) :: rest, h => by
    simp only [membersMeet, Bool.or_eq_true, Bool.and_eq_true] at h
    simp only [membersUnencodable, Bool.or_eq_true]
    rcases h with h | ⟨_, h⟩
    · exact Or.inl (unencodable_of_memberMeets value h)
    · exact Or.inr (unencodable_of_membersMeet rest h)

theorem unencodable_of_itemsMeet : ∀ items, itemsMeet items = true →
    itemsUnencodable items = true
  | [], h => h
  | item :: rest, h => by
    simp only [itemsMeet, Bool.or_eq_true, Bool.and_eq_true] at h
    simp only [itemsUnencodable, Bool.or_eq_true]
    rcases h with h | ⟨_, h⟩
    · exact Or.inl (unencodable_of_itemMeets item h)
    · exact Or.inr (unencodable_of_itemsMeet rest h)

end

/-- Short of a -1, what the loop stops at is what it cannot encode. -/
theorem stops_of_no_minusOne {v : PyObj} (h : memberMinusOne v = false)
    (hs : memberStops v = true) : memberMeets v = true := by
  cases v <;> simp_all [memberMinusOne, memberStops, memberMeets]

theorem itemMeets_of_stops {v : PyObj} (hs : itemStops v = true) : itemMeets v = true := by
  cases v <;> simp_all [itemStops, itemMeets]

mutual

theorem memberMeets_of_unencodable : ∀ v, memberMinusOne v = false →
    memberUnencodable v = true → memberMeets v = true
  | .int _, _, h => h
  | .str _, _, h => h
  | .other _, _, _ => rfl
  | .dict members, hone, h => membersMeet_of_unencodable members hone h
  | .list items, hone, h => itemsMeet_of_unencodable items hone h
  | .tuple items, hone, h => itemsMeet_of_unencodable items hone h
  | .null, _, h => h
  | .none, _, h => h
  | .bool _, _, h => h
  | .float _, _, h => h
  | .bytes _, _, h => h

theorem itemMeets_of_unencodable : ∀ v, itemMinusOne v = false →
    itemUnencodable v = true → itemMeets v = true
  | .int _, _, h => h
  | .str _, _, h => h
  | .float _, _, _ => rfl
  | .other _, _, _ => rfl
  | .dict members, hone, h => membersMeet_of_unencodable members hone h
  | .list items, hone, h => itemsMeet_of_unencodable items hone h
  | .tuple items, hone, h => itemsMeet_of_unencodable items hone h
  | .null, _, h => h
  | .none, _, h => h
  | .bool _, _, h => h
  | .bytes _, _, h => h

theorem membersMeet_of_unencodable : ∀ members, membersMinusOne members = false →
    membersUnencodable members = true → membersMeet members = true
  | [], _, h => h
  | (key, value) :: rest, hone, h => by
    simp only [membersMinusOne, Bool.or_eq_false_iff] at hone
    simp only [membersUnencodable, Bool.or_eq_true] at h
    simp only [membersMeet, Bool.or_eq_true, Bool.and_eq_true]
    rcases h with h | h
    · exact Or.inl (memberMeets_of_unencodable value hone.1 h)
    · cases hs : memberStops value with
      | true => exact Or.inl (stops_of_no_minusOne hone.1 hs)
      | false => exact Or.inr ⟨rfl, membersMeet_of_unencodable rest hone.2 h⟩

theorem itemsMeet_of_unencodable : ∀ items, itemsMinusOne items = false →
    itemsUnencodable items = true → itemsMeet items = true
  | [], _, h => h
  | item :: rest, hone, h => by
    simp only [itemsMinusOne, Bool.or_eq_false_iff] at hone
    simp only [itemsUnencodable, Bool.or_eq_true] at h
    simp only [itemsMeet, Bool.or_eq_true, Bool.and_eq_true]
    rcases h with h | h
    · exact Or.inl (itemMeets_of_unencodable item hone.1 h)
    · cases hs : itemStops item with
      | true => exact Or.inl (itemMeets_of_stops hs)
      | false => exact Or.inr ⟨rfl, itemsMeet_of_unencodable rest hone.2 h⟩

end

/-! ## The law -/

/-- `PyDict_ToAMQTable` returns; an exception is pending exactly when some member
cannot be encoded; and with no exception pending no entry is missing. -/
def FailsExactlyWhenItMust (members : PyMembers) : Prop :=
  ∃ table err, PyDict_ToAMQTable members none = .ret (table, err) ∧
    (err.isSome = true ↔ membersUnencodable members = true) ∧
    (err = none → TableComplete members table)

/-- The encoder fails exactly when it must, on the dicts with no member -1 or
-1.0 at any depth, and on those where it meets a value that it cannot encode in
spite of them. On every other dict it drops entries and keeps silent. -/
theorem the_encoder_fails_when_it_must_short_of_a_minus_one (members : PyMembers)
    (h : TreeMembers members) :
    FailsExactlyWhenItMust members ↔
      membersMinusOne members = false ∨ membersMeet members = true := by
  obtain ⟨t, err, ht, hr⟩ := members_run members h [] none
  have hp : err.isSome = membersMeet members := by simpa using hr.pending
  unfold FailsExactlyWhenItMust
  constructor
  · rintro ⟨t', err', ht', hiff, hc⟩
    have heq : (t', err') = (t, err) := by
      have := ht'.symm.trans ht
      exact Outcome.ret.inj this
    cases heq
    cases hm : membersMeet members with
    | true => exact Or.inr rfl
    | false =>
      have hnone : err = none := by
        rw [hm] at hp
        simpa using hp
      exact Or.inl ((hr.complete_iff hm).mp (hc hnone))
  · intro hcond
    refine ⟨t, err, ht, ?_, ?_⟩
    · rw [hp]
      refine ⟨unencodable_of_membersMeet members, fun hu => ?_⟩
      rcases hcond with hone | hm
      · exact membersMeet_of_unencodable members hone hu
      · exact hm
    · intro hnone
      have hm : membersMeet members = false := by rw [← hp, hnone]; rfl
      rcases hcond with hone | hm'
      · exact (hr.complete_iff hm).mpr hone
      · rw [hm] at hm'
        cases hm'

/-- A nested list with an item that cannot be encoded. -/
theorem a_float_in_a_list_is_an_error :
    FailsExactlyWhenItMust [(.str (pyStr "a"), .list [.int (-1), .float 0])] := by
  have h : TreeMembers [(.str (pyStr "a"), .list [.int (-1), .float 0])] :=
    ⟨⟨_, rfl, by decide⟩, ⟨trivial, trivial, trivial⟩, trivial⟩
  rw [the_encoder_fails_when_it_must_short_of_a_minus_one _ h]
  exact Or.inl rfl

/-- `{"a": -1}` becomes an empty table, with no exception. -/
theorem a_minus_one_empties_the_table :
    TreeMembers [(.str (pyStr "a"), .int (-1))] ∧
      PyDict_ToAMQTable [(.str (pyStr "a"), .int (-1))] none = .ret ([], none) ∧
      ¬ FailsExactlyWhenItMust [(.str (pyStr "a"), .int (-1))] := by
  have ht : PyDict_ToAMQTable [(.str (pyStr "a"), .int (-1))] none = .ret ([], none) := rfl
  refine ⟨⟨⟨_, rfl, by decide⟩, trivial, trivial⟩, ht, ?_⟩
  rintro ⟨t, err, ht', _, hc⟩
  cases ht.symm.trans ht'
  obtain ⟨_, _, _, _, _, _, h, _⟩ := hc rfl
  cases h

end librabbitmq.table_errors
