-- The table encoder with its references. Every object has an address and a count, the
-- temporary `bytes` are new objects, and a string of a table points into an object.
-- Without the references it is the encoder of the values.
import Librabbitmq.References
import Librabbitmq.TableErrors

namespace librabbitmq.ownership

open references

/-! ## Objects with addresses -/

/-- A `PyObject *` that is followed to all that it holds. One object can stand at many
places. -/
inductive PyRef where
  | null
  | none (self : Nat)
  | bool (self : Nat) (b : Bool)
  | int (self : Nat) (n : Int)
  | float (self : Nat) (bits : BitVec 64)
  | str (self : Nat) (s : PyStr)
  | bytes (self : Nat) (b : Octets)
  | list (self : Nat) (items : List PyRef)
  | tuple (self : Nat) (items : List PyRef)
  | dict (self : Nat) (members : List ((Nat × PyKey) × PyRef))
  | other (self : Nat) (id : Nat)

abbrev PyRefMembers := List ((Nat × PyKey) × PyRef)

def PyRef.self : PyRef → Option Nat
  | .null => Option.none
  | .none self | .bool self _ | .int self _ | .float self _ | .str self _ | .bytes self _
  | .list self _ | .tuple self _ | .dict self _ | .other self _ => some self

mutual

/-- The value without its addresses. -/
def PyRef.obj : PyRef → PyObj
  | .null => .null
  | .none _ => .none
  | .bool _ b => .bool b
  | .int _ n => .int n
  | .float _ bits => .float bits
  | .str _ s => .str s
  | .bytes _ b => .bytes b
  | .list _ items => .list (itemObjs items)
  | .tuple _ items => .tuple (itemObjs items)
  | .dict _ members => .dict (memberObjs members)
  | .other _ id => .other id

def memberObjs : PyRefMembers → PyMembers
  | [] => []
  | (key, value) :: rest => (key.2, value.obj) :: memberObjs rest

def itemObjs : List PyRef → List PyObj
  | [] => []
  | item :: rest => item.obj :: itemObjs rest

end

/-- A key as an object. -/
def keyRef : Nat × PyKey → PyRef
  | (self, .str s) => .str self s
  | (self, .bytes b) => .bytes self b
  | (self, .other id) => .other self id

/-- An `amqp_bytes_t`: octets inside of an object. -/
structure amqp_bytes_t where
  owner : Nat
  octets : Octets

/-- The fields that the encoder makes. -/
inductive amqp_field_value_t where
  | boolean (b : Bool)
  | i32 (v : BitVec 32)
  | f64 (bits : BitVec 64)
  | utf8 (bytes : amqp_bytes_t)
  | table (entries : List (amqp_bytes_t × amqp_field_value_t))
  | array (entries : List amqp_field_value_t)
  | void

abbrev amqp_table_t := List (amqp_bytes_t × amqp_field_value_t)

abbrev amqp_array_t := List amqp_field_value_t

mutual

/-- The field without the owners. -/
def amqp_field_value_t.field : amqp_field_value_t → librabbitmq.amqp_field_value_t
  | .boolean b => .boolean b
  | .i32 v => .i32 v
  | .f64 bits => .f64 bits
  | .utf8 bytes => .utf8 bytes.octets
  | .table entries => .table (tableFields entries)
  | .array entries => .array (arrayFields entries)
  | .void => .void

def tableFields : amqp_table_t → librabbitmq.amqp_table_t
  | [] => []
  | (key, value) :: rest => (key.octets, value.field) :: tableFields rest

def arrayFields : amqp_array_t → librabbitmq.amqp_array_t
  | [] => []
  | value :: rest => value.field :: arrayFields rest

end

mutual

/-- The strings of a field, at every depth. -/
def amqp_field_value_t.strings : amqp_field_value_t → List amqp_bytes_t
  | .utf8 bytes => [bytes]
  | .table entries => tableStrings entries
  | .array entries => arrayStrings entries
  | _ => []

/-- The keys and the strings of a table, at every depth. -/
def tableStrings : amqp_table_t → List amqp_bytes_t
  | [] => []
  | (key, value) :: rest => key :: (value.strings ++ tableStrings rest)

def arrayStrings : amqp_array_t → List amqp_bytes_t
  | [] => []
  | value :: rest => value.strings ++ arrayStrings rest

end

/-! ## The recorded objects -/

def PYOBJECT_ARRAY_MAX : Nat := 5

/-- A `pyobject_array_t`: a chain of nodes, the last with `next` NULL. -/
inductive pyobject_array_t where
  | last (entries : List Nat)
  | link (entries : List Nat) (next : pyobject_array_t)

/-- The zeroed array. -/
def pyobject_array_t.zero : pyobject_array_t := .last []

/-- `PyObjectArray_AddEntry` of an object. The `calloc` of a node succeeds. -/
def PyObjectArray_AddEntry : pyobject_array_t → Nat → pyobject_array_t
  | .last entries, obj =>
    if entries.length = PYOBJECT_ARRAY_MAX then .link entries (.last [obj])
    else .last (entries ++ [obj])
  | .link entries next, obj =>
    if entries.length = PYOBJECT_ARRAY_MAX then .link entries (PyObjectArray_AddEntry next obj)
    else .link (entries ++ [obj]) next

/-- The objects of all nodes. -/
def pyobject_array_t.recorded : pyobject_array_t → List Nat
  | .last entries => entries
  | .link entries next => entries ++ next.recorded

theorem recorded_add (array : pyobject_array_t) (obj : Nat) :
    (PyObjectArray_AddEntry array obj).recorded.Perm (obj :: array.recorded) := by
  induction array with
  | last entries =>
    unfold PyObjectArray_AddEntry
    split
    · exact List.perm_append_singleton obj entries
    · exact List.perm_append_singleton obj entries
  | link entries next ih =>
    unfold PyObjectArray_AddEntry
    split
    · exact (ih.append_left entries).trans List.perm_middle
    · have hobj := (List.perm_append_singleton obj entries).append_right next.recorded
      exact hobj

/-! ## The state -/

/-- The objects, the tracking array and the pending exception. -/
structure Rt where
  heap : Heap Octets
  array : pyobject_array_t
  err : Option PyErr

def Py_INCREF (a : Nat) : Run Rt Unit := Run.modify fun rt => { rt with heap := rt.heap.incref a }

def Py_DECREF (a : Nat) : Run Rt Unit := Run.modify fun rt => { rt with heap := rt.heap.decref a }

def Py_XDECREF : Option Nat → Run Rt Unit
  | some a => Py_DECREF a
  | none => pure ()

/-- A new object. Only a `bytes` has contents here. -/
def PyObject_New (contents : Octets) : Run Rt Nat := do
  let rt ← Run.get
  Run.modify fun rt => { rt with heap := rt.heap.alloc contents }
  return rt.heap.next

def PyErr_Set (e : PyErr) : Run Rt Unit := Run.modify fun rt => { rt with err := some e }

/-- A codec: a new `bytes`, or NULL with an exception. -/
def encodeWith (octets : Option Octets) : Run Rt PyRef :=
  match octets with
  | some b => do
    let self ← PyObject_New b
    return .bytes self b
  | none => do
    PyErr_Set (.raised .UnicodeEncodeError)
    return .null

def PyUnicode_AsASCIIString (s : PyStr) : Run Rt PyRef := encodeWith (asciiEncode s)

def PyUnicode_AsEncodedString (s : PyStr) : Run Rt PyRef := encodeWith (utf8Encode s)

/-- `PyObjectArray_AddEntry` of a pointer: a NULL is not recorded. -/
def record (obj : PyRef) : Run Rt PyRef :=
  match obj.self with
  | some a => do
    Run.modify fun rt => { rt with array := PyObjectArray_AddEntry rt.array a }
    return obj
  | none => return obj

def PyObjectArray_Maybe_Unicode (s : PyRef) : Run Rt PyRef :=
  match s with
  | .str _ s => do
    let obj ← PyUnicode_AsASCIIString s
    record obj
  | s => return s

def PyString_AS_AMQBYTES : PyRef → Run Rt amqp_bytes_t
  | .bytes self b => return ⟨self, b⟩
  | _ => Run.crash

def PyLong_AsLong (n : Int) : Run Rt Int := do
  let rt ← Run.get
  let (clong_value, err) := librabbitmq.PyLong_AsLong n rt.err
  Run.modify fun rt => { rt with err := err }
  return clong_value

/-- `PyObject_GetIter`: an iterator, which holds a reference to the list. -/
def PyObject_GetIter (src : Nat) : Run Rt Nat := do
  let iterator ← PyObject_New []
  Py_INCREF src
  return iterator

/-- The release of the reference to an iterator. One that dies gives back its list. -/
def releaseIterator (iterator src : Nat) : Run Rt Unit := do
  Py_DECREF iterator
  let rt ← Run.get
  if rt.heap.count iterator = 0 then Py_DECREF src

/-! ## The encoder -/

mutual

def PyDict_ToAMQTable.loop (dst : amqp_table_t) : PyRefMembers → Run Rt amqp_table_t
  | [] => return dst
  | (key, dvalue) :: rest => do
    let dkey ← PyObjectArray_Maybe_Unicode (keyRef key)
    match ← PyDict_ToAMQTable.member dst dkey dvalue with
    | some dst => PyDict_ToAMQTable.loop dst rest
    -- `error:`
    | none => return []

def PyDict_ToAMQTable.member (dst : amqp_table_t) (dkey : PyRef) :
    PyRef → Run Rt (Option amqp_table_t)
  | .null => Run.crash
  | .none _ => do
    let key ← PyString_AS_AMQBYTES dkey
    return some (dst ++ [(key, .void)])
  | .dict _ members => do
    let key ← PyString_AS_AMQBYTES dkey
    let value ← PyDict_ToAMQTable.loop [] members
    return some (dst ++ [(key, .table value)])
  | .list self items => do
    let key ← PyString_AS_AMQBYTES dkey
    let iterator ← PyObject_GetIter self
    let value ← PyIter_ToAMQArray.loop self iterator none [] items
    return some (dst ++ [(key, .array value)])
  | .tuple self items => do
    let key ← PyString_AS_AMQBYTES dkey
    let iterator ← PyObject_GetIter self
    let value ← PyIter_ToAMQArray.loop self iterator none [] items
    return some (dst ++ [(key, .array value)])
  | .bool _ b => do
    let key ← PyString_AS_AMQBYTES dkey
    return some (dst ++ [(key, .boolean b)])
  | .int _ n => do
    let clong_value ← PyLong_AsLong n
    if clong_value = -1 then return none
    let key ← PyString_AS_AMQBYTES dkey
    return some (dst ++ [(key, .i32 (BitVec.ofInt 32 clong_value))])
  | .float _ bits => do
    if bits = minusOneBits then return none
    let key ← PyString_AS_AMQBYTES dkey
    return some (dst ++ [(key, .f64 bits)])
  | .str _ s => do
    match ← PyUnicode_AsEncodedString s with
    | .null => return none
    | dvalue =>
      let dvalue ← record dvalue
      let key ← PyString_AS_AMQBYTES dkey
      let value ← PyString_AS_AMQBYTES dvalue
      return some (dst ++ [(key, .utf8 value)])
  | .bytes self b => do
    let key ← PyString_AS_AMQBYTES dkey
    return some (dst ++ [(key, .utf8 ⟨self, b⟩)])
  | .other _ _ => do
    let key ← PyString_AS_AMQBYTES dkey
    PyErr_Set (unsupportedTableMember key.octets)
    return none

/-- The loop over the items, with the variable `item_tmp`, which outlives its item. On the way
out at the end of the list the iterator gives back the list and is left alive itself. -/
def PyIter_ToAMQArray.loop (src iterator : Nat) (item_tmp : Option Nat) (dst : amqp_array_t) :
    List PyRef → Run Rt amqp_array_t
  | [] => do
    Py_DECREF src
    return dst
  | item :: rest => do
    match ← PyIter_ToAMQArray.item item_tmp dst item with
    | (some dst, item, item_tmp) =>
      Py_XDECREF item
      PyIter_ToAMQArray.loop src iterator item_tmp dst rest
    -- `item_error:`
    | (none, item, item_tmp) =>
      Py_XDECREF item_tmp
      Py_XDECREF item
      releaseIterator iterator src
      return dst

/-- One item, from `PyIter_Next` on: the array with its entry, or `none` for
`goto item_error`, and the variables `item` and `item_tmp`. -/
def PyIter_ToAMQArray.item (item_tmp : Option Nat) (dst : amqp_array_t) :
    PyRef → Run Rt (Option amqp_array_t × Option Nat × Option Nat)
  | .null => Run.crash
  | .none self => do
    Py_INCREF self
    return (some (dst ++ [.void]), some self, item_tmp)
  | .dict self members => do
    Py_INCREF self
    let value ← PyDict_ToAMQTable.loop [] members
    return (some (dst ++ [.table value]), some self, item_tmp)
  | .list self items => do
    Py_INCREF self
    let iterator ← PyObject_GetIter self
    let value ← PyIter_ToAMQArray.loop self iterator none [] items
    return (some (dst ++ [.array value]), some self, item_tmp)
  | .tuple self items => do
    Py_INCREF self
    let iterator ← PyObject_GetIter self
    let value ← PyIter_ToAMQArray.loop self iterator none [] items
    return (some (dst ++ [.array value]), some self, item_tmp)
  | .bool self b => do
    Py_INCREF self
    return (some (dst ++ [.i32 (BitVec.ofInt 32 b.toInt)]), some self, item_tmp)
  | .int self n => do
    Py_INCREF self
    let clong_value ← PyLong_AsLong n
    return (some (dst ++ [.i32 (BitVec.ofInt 32 clong_value)]), some self, item_tmp)
  | .str self s => do
    Py_INCREF self
    match ← PyUnicode_AsASCIIString s with
    | .bytes temp b =>
      Py_DECREF self
      return (some (dst ++ [.utf8 ⟨temp, b⟩]), some temp, some self)
    | _ => return (none, none, some self)
  | .bytes self b => do
    Py_INCREF self
    return (some (dst ++ [.utf8 ⟨self, b⟩]), some self, item_tmp)
  | .float self bits => do
    Py_INCREF self
    PyErr_Set (unsupportedArrayMember 0 (.float bits))
    return (none, some self, item_tmp)
  | .other self id => do
    Py_INCREF self
    PyErr_Set (unsupportedArrayMember 0 (.other id))
    return (none, some self, item_tmp)

end

def PyDict_ToAMQTable (src : PyRefMembers) : Run Rt amqp_table_t := PyDict_ToAMQTable.loop [] src

def PyIter_ToAMQArray (src : Nat) (items : List PyRef) : Run Rt amqp_array_t := do
  let iterator ← PyObject_GetIter src
  PyIter_ToAMQArray.loop src iterator none [] items

/-! ## Without the references -/

theorem tableFields_append (dst : amqp_table_t) (key : amqp_bytes_t) (v : amqp_field_value_t) :
    tableFields (dst ++ [(key, v)]) = tableFields dst ++ [(key.octets, v.field)] := by
  induction dst with
  | nil => rfl
  | cons e dst ih =>
    obtain ⟨k, w⟩ := e
    rw [List.cons_append, tableFields, tableFields, ih, List.cons_append]

theorem arrayFields_append (dst : amqp_array_t) (v : amqp_field_value_t) :
    arrayFields (dst ++ [v]) = arrayFields dst ++ [v.field] := by
  induction dst with
  | nil => rfl
  | cons w dst ih => rw [List.cons_append, arrayFields, arrayFields, ih, List.cons_append]

section

variable {α β γ δ : Type}

/-- How a run with references has ended is how the plain function ends, up to `f`. -/
def Erased (f : α → β) (r : Outcome α × Rt) (p : Outcome (β × Option PyErr)) : Prop :=
  p = match r with
    | (.ret a, rt) => .ret (f a, rt.err)
    | (.crash, _) => .crash
    | (.hang, _) => .hang

theorem erased_crash {f : α → β} {rt : Rt} : Erased f ((Run.crash : Run Rt α) rt) .crash := rfl

theorem Erased.bind {f : α → β} {g : γ → δ} {x : Run Rt α} {k : α → Run Rt γ} {rt : Rt}
    {p : Outcome (β × Option PyErr)} {q : β × Option PyErr → Outcome (δ × Option PyErr)}
    (h : Erased f (x rt) p) (hk : ∀ a rt', Erased g (k a rt') (q (f a, rt'.err))) :
    Erased g ((x >>= k) rt) (p >>= q) := by
  unfold Erased at h
  rw [Run.bind_apply, h]
  rcases x rt with ⟨o, rt'⟩
  cases o with
  | ret a => exact hk a rt'
  | crash => rfl
  | hang => rfl

/-- A step that the plain function does not have. -/
theorem Erased.still {g : γ → δ} {x : Run Rt α} {k : α → Run Rt γ} {rt rt' : Rt} {a : α}
    {p : Outcome (δ × Option PyErr)} (hx : x rt = (.ret a, rt')) (hk : Erased g (k a rt') p) :
    Erased g ((x >>= k) rt) p := by
  rw [Run.bind_ret hx]
  exact hk

theorem erased_key {g : γ → δ} {k : amqp_bytes_t → Run Rt γ} {rt : Rt} (dkey : PyRef)
    {q : Octets → Outcome (δ × Option PyErr)} (hk : ∀ s, Erased g (k s rt) (q s.octets)) :
    Erased g ((PyString_AS_AMQBYTES dkey >>= k) rt)
      (librabbitmq.PyString_AS_AMQBYTES dkey.obj >>= q) := by
  cases dkey with
  | bytes self b => exact hk ⟨self, b⟩
  | _ => rfl

end

theorem maybeUnicode_erased (key : Nat × PyKey) (rt : Rt) : ∃ dkey rt',
    PyObjectArray_Maybe_Unicode (keyRef key) rt = (.ret dkey, rt') ∧
      librabbitmq.PyObjectArray_Maybe_Unicode key.2.toObj rt.err = (dkey.obj, rt'.err) := by
  obtain ⟨self, key⟩ := key
  cases key with
  | bytes b => exact ⟨_, _, rfl, rfl⟩
  | other id => exact ⟨_, _, rfl, rfl⟩
  | str s =>
    have hrun : ∃ dkey rt', (encodeWith (asciiEncode s) >>= record) rt = (.ret dkey, rt') ∧
        librabbitmq.PyUnicode_AsASCIIString s rt.err = (dkey.obj, rt'.err) := by
      unfold librabbitmq.PyUnicode_AsASCIIString
      cases asciiEncode s with
      | some b => exact ⟨_, _, rfl, rfl⟩
      | none => exact ⟨_, _, rfl, rfl⟩
    exact hrun

def increfed (a : Nat) (rt : Rt) : Rt := { rt with heap := rt.heap.incref a }

def decrefed (a : Nat) (rt : Rt) : Rt := { rt with heap := rt.heap.decref a }

theorem incref_apply (a : Nat) (rt : Rt) : Py_INCREF a rt = (.ret (), increfed a rt) := rfl

theorem asLong_bind {α : Type} (n : Int) (k : Int → Run Rt α) (rt : Rt) :
    (PyLong_AsLong n >>= k) rt = k (librabbitmq.PyLong_AsLong n rt.err).1
      { rt with err := (librabbitmq.PyLong_AsLong n rt.err).2 } := rfl

theorem xdecref_still (a : Option Nat) (rt : Rt) :
    ∃ rt', Py_XDECREF a rt = (.ret (), rt') ∧ rt'.err = rt.err := by
  cases a with
  | some a => exact ⟨_, rfl, rfl⟩
  | none => exact ⟨rt, rfl, rfl⟩

theorem releaseIterator_still (iterator src : Nat) (rt : Rt) :
    ∃ rt', releaseIterator iterator src rt = (.ret (), rt') ∧ rt'.err = rt.err := by
  unfold releaseIterator
  rw [Run.bind_ret (show Py_DECREF iterator rt = (.ret (), _) from rfl), Run.get_bind_apply]
  split
  · exact ⟨_, rfl, rfl⟩
  · exact ⟨_, rfl, rfl⟩

/-- The state with a new iterator over the list. -/
def gotIter (src : Nat) (rt : Rt) : Rt := { rt with heap := (rt.heap.alloc []).incref src }

theorem getIter_apply (src : Nat) (rt : Rt) :
    PyObject_GetIter src rt = (.ret rt.heap.next, gotIter src rt) := rfl

/-- The result of a member or of an item, without its references. -/
abbrev stepTable (o : Option amqp_table_t) : Option librabbitmq.amqp_table_t := o.map tableFields

abbrev stepArray (r : Option amqp_array_t × Option Nat × Option Nat) :
    Option librabbitmq.amqp_array_t := r.1.map arrayFields

theorem entry_erased (dst : amqp_table_t) (s : amqp_bytes_t) (f : amqp_field_value_t) (rt : Rt) :
    Erased stepTable ((pure (some (dst ++ [(s, f)])) : Run Rt _) rt)
      (.ret (some (tableFields dst ++ [(s.octets, f.field)]), rt.err)) := by
  rw [← tableFields_append]
  rfl

theorem slot_erased (dst : amqp_array_t) (f : amqp_field_value_t) (item item_tmp : Option Nat)
    (rt : Rt) : Erased stepArray ((pure (some (dst ++ [f]), item, item_tmp) : Run Rt _) rt)
      (.ret (some (arrayFields dst ++ [f.field]), rt.err)) := by
  rw [← arrayFields_append]
  rfl

mutual

theorem member_erased : ∀ (v : PyRef) (dst : amqp_table_t) (dkey : PyRef) (rt : Rt),
    Erased stepTable (PyDict_ToAMQTable.member dst dkey v rt)
      (librabbitmq.PyDict_ToAMQTable.member (tableFields dst) dkey.obj v.obj rt.err)
  | .null, dst, dkey, rt => by
    rw [PyDict_ToAMQTable.member, PyRef.obj, librabbitmq.PyDict_ToAMQTable.member]
    exact erased_crash
  | .none _, dst, dkey, rt => by
    rw [PyDict_ToAMQTable.member, PyRef.obj, librabbitmq.PyDict_ToAMQTable.member]
    exact erased_key dkey fun s => entry_erased dst s .void rt
  | .bool _ b, dst, dkey, rt => by
    rw [PyDict_ToAMQTable.member, PyRef.obj, librabbitmq.PyDict_ToAMQTable.member]
    exact erased_key dkey fun s => entry_erased dst s (.boolean b) rt
  | .int _ n, dst, dkey, rt => by
    rw [PyDict_ToAMQTable.member, PyRef.obj, librabbitmq.PyDict_ToAMQTable.member]
    rw [asLong_bind]
    rcases librabbitmq.PyLong_AsLong n rt.err with ⟨clong_value, err⟩
    dsimp only
    split
    · rfl
    · exact erased_key dkey fun s => entry_erased dst s (.i32 _) _
  | .float _ bits, dst, dkey, rt => by
    rw [PyDict_ToAMQTable.member, PyRef.obj, librabbitmq.PyDict_ToAMQTable.member]
    split
    · rfl
    · exact erased_key dkey fun s => entry_erased dst s (.f64 bits) rt
  | .bytes self b, dst, dkey, rt => by
    rw [PyDict_ToAMQTable.member, PyRef.obj, librabbitmq.PyDict_ToAMQTable.member]
    exact erased_key dkey fun s => entry_erased dst s (.utf8 ⟨self, b⟩) rt
  | .other _ id, dst, dkey, rt => by
    rw [PyDict_ToAMQTable.member, PyRef.obj, librabbitmq.PyDict_ToAMQTable.member]
    exact erased_key dkey fun s => rfl
  | .str _ s, dst, dkey, rt => by
    rw [PyDict_ToAMQTable.member, PyRef.obj, librabbitmq.PyDict_ToAMQTable.member]
    unfold PyUnicode_AsEncodedString librabbitmq.PyUnicode_AsEncodedString
    cases utf8Encode s with
    | none => rfl
    | some b =>
      -- the new `bytes` is recorded before it is read
      exact erased_key dkey fun key => entry_erased dst key (.utf8 ⟨_, b⟩) _
  | .dict _ members, dst, dkey, rt => by
    rw [PyDict_ToAMQTable.member, PyRef.obj, librabbitmq.PyDict_ToAMQTable.member]
    refine erased_key dkey fun s => ?_
    exact (members_erased members [] rt).bind fun t rt' => entry_erased dst s (.table t) rt'
  | .list self items, dst, dkey, rt => by
    rw [PyDict_ToAMQTable.member, PyRef.obj, librabbitmq.PyDict_ToAMQTable.member]
    refine erased_key dkey fun s => Erased.still (getIter_apply self rt) ?_
    exact (items_erased items self _ none [] _).bind fun a rt' => entry_erased dst s (.array a) rt'
  | .tuple self items, dst, dkey, rt => by
    rw [PyDict_ToAMQTable.member, PyRef.obj, librabbitmq.PyDict_ToAMQTable.member]
    refine erased_key dkey fun s => Erased.still (getIter_apply self rt) ?_
    exact (items_erased items self _ none [] _).bind fun a rt' => entry_erased dst s (.array a) rt'

theorem item_erased : ∀ (v : PyRef) (item_tmp : Option Nat) (dst : amqp_array_t) (rt : Rt),
    Erased stepArray (PyIter_ToAMQArray.item item_tmp dst v rt)
      (librabbitmq.PyIter_ToAMQArray.item (arrayFields dst) v.obj rt.err)
  | .null, item_tmp, dst, rt => by
    rw [PyIter_ToAMQArray.item, PyRef.obj, librabbitmq.PyIter_ToAMQArray.item]
    exact erased_crash
  | .none self, item_tmp, dst, rt => by
    rw [PyIter_ToAMQArray.item, PyRef.obj, librabbitmq.PyIter_ToAMQArray.item]
    exact Erased.still (incref_apply self rt) (slot_erased dst .void _ _ _)
  | .bool self b, item_tmp, dst, rt => by
    rw [PyIter_ToAMQArray.item, PyRef.obj, librabbitmq.PyIter_ToAMQArray.item]
    exact Erased.still (incref_apply self rt) (slot_erased dst (.i32 _) _ _ _)
  | .int self n, item_tmp, dst, rt => by
    rw [PyIter_ToAMQArray.item, PyRef.obj, librabbitmq.PyIter_ToAMQArray.item]
    refine Erased.still (incref_apply self rt) ?_
    rw [asLong_bind]
    exact slot_erased dst (.i32 _) _ _ _
  | .float self bits, item_tmp, dst, rt => by
    rw [PyIter_ToAMQArray.item, PyRef.obj, librabbitmq.PyIter_ToAMQArray.item]
    rfl
  | .str self s, item_tmp, dst, rt => by
    rw [PyIter_ToAMQArray.item, PyRef.obj, librabbitmq.PyIter_ToAMQArray.item]
    unfold PyUnicode_AsASCIIString librabbitmq.PyUnicode_AsASCIIString
    cases asciiEncode s with
    | none => rfl
    | some b => exact slot_erased dst (.utf8 ⟨_, b⟩) _ _ _
  | .bytes self b, item_tmp, dst, rt => by
    rw [PyIter_ToAMQArray.item, PyRef.obj, librabbitmq.PyIter_ToAMQArray.item]
    exact Erased.still (incref_apply self rt) (slot_erased dst (.utf8 ⟨self, b⟩) _ _ _)
  | .other self id, item_tmp, dst, rt => by
    rw [PyIter_ToAMQArray.item, PyRef.obj, librabbitmq.PyIter_ToAMQArray.item]
    rfl
  | .dict self members, item_tmp, dst, rt => by
    rw [PyIter_ToAMQArray.item, PyRef.obj, librabbitmq.PyIter_ToAMQArray.item]
    refine Erased.still (incref_apply self rt) ?_
    exact (members_erased members [] _).bind fun t rt1 => slot_erased dst (.table t) _ _ rt1
  | .list self items, item_tmp, dst, rt => by
    rw [PyIter_ToAMQArray.item, PyRef.obj, librabbitmq.PyIter_ToAMQArray.item]
    refine Erased.still (incref_apply self rt) (Erased.still (getIter_apply self _) ?_)
    exact (items_erased items self _ none [] _).bind fun a rt1 => slot_erased dst (.array a) _ _ rt1
  | .tuple self items, item_tmp, dst, rt => by
    rw [PyIter_ToAMQArray.item, PyRef.obj, librabbitmq.PyIter_ToAMQArray.item]
    refine Erased.still (incref_apply self rt) (Erased.still (getIter_apply self _) ?_)
    exact (items_erased items self _ none [] _).bind fun a rt1 => slot_erased dst (.array a) _ _ rt1

theorem members_erased : ∀ (members : PyRefMembers) (dst : amqp_table_t) (rt : Rt),
    Erased tableFields (PyDict_ToAMQTable.loop dst members rt)
      (librabbitmq.PyDict_ToAMQTable.loop (tableFields dst) (memberObjs members) rt.err)
  | [], dst, rt => by
    rw [PyDict_ToAMQTable.loop, memberObjs, librabbitmq.PyDict_ToAMQTable.loop]
    rfl
  | (key, value) :: rest, dst, rt => by
    rw [PyDict_ToAMQTable.loop, memberObjs, librabbitmq.PyDict_ToAMQTable.loop]
    obtain ⟨dkey, rt1, hkey, hplain⟩ := maybeUnicode_erased key rt
    rw [hplain]
    refine Erased.still hkey ((member_erased value dst dkey rt1).bind fun o rt2 => ?_)
    cases o with
    | none => rfl
    | some dst => exact members_erased rest dst rt2

theorem items_erased : ∀ (items : List PyRef) (src iterator : Nat) (item_tmp : Option Nat)
    (dst : amqp_array_t) (rt : Rt),
    Erased arrayFields (PyIter_ToAMQArray.loop src iterator item_tmp dst items rt)
      (librabbitmq.PyIter_ToAMQArray.loop (arrayFields dst) (itemObjs items) rt.err)
  | [], src, iterator, item_tmp, dst, rt => by
    rw [PyIter_ToAMQArray.loop, itemObjs, librabbitmq.PyIter_ToAMQArray.loop]
    rfl
  | item :: rest, src, iterator, item_tmp, dst, rt => by
    rw [PyIter_ToAMQArray.loop, itemObjs, librabbitmq.PyIter_ToAMQArray.loop]
    refine (item_erased item item_tmp dst rt).bind fun r rt1 => ?_
    obtain ⟨o, item', item_tmp'⟩ := r
    obtain ⟨rt2, hitem, herr2⟩ := xdecref_still item' rt1
    cases o with
    | some dst =>
      refine Erased.still hitem ?_
      rw [← herr2]
      exact items_erased rest src iterator item_tmp' dst rt2
    | none =>
      obtain ⟨rt3, htmp, herr3⟩ := xdecref_still item_tmp' rt1
      obtain ⟨rt4, hitem', herr4⟩ := xdecref_still item' rt3
      obtain ⟨rt5, hiter, herr5⟩ := releaseIterator_still iterator src rt4
      refine Erased.still htmp (Erased.still hitem' (Erased.still hiter ?_))
      rw [← herr3, ← herr4, ← herr5]
      rfl

end

/-- The encoder with references ends as the encoder of the values does. -/
theorem toAMQTable_erased (src : PyRefMembers) (rt : Rt) :
    Erased tableFields (PyDict_ToAMQTable src rt)
      (librabbitmq.PyDict_ToAMQTable (memberObjs src) rt.err) := members_erased src [] rt

theorem toAMQArray_erased (src : Nat) (items : List PyRef) (rt : Rt) :
    Erased arrayFields (PyIter_ToAMQArray src items rt)
      (librabbitmq.PyIter_ToAMQArray (itemObjs items) rt.err) :=
  Erased.still (getIter_apply src rt) (items_erased items src _ none [] _)

end librabbitmq.ownership
