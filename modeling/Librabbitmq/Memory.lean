-- The objects of the receive path with their references: a dict, a list and a memoryview hold
-- references to others, and the decoders make objects and hand them over. Each function comes
-- with what it takes and what it leaves to its caller.
import Librabbitmq.Containers
import Librabbitmq.Ownership
import Librabbitmq.Amqp
import Mathlib.Data.List.ReduceOption
import Mathlib.Tactic.Abel

namespace librabbitmq.memory

open references containers
open ownership (pyobject_array_t)

/-! ## Objects -/

/-- An object. A member of a dict is the text of its key, with the key and the value; a list has
the slots that are set. -/
inductive Obj where
  | plain (o : PyObj)
  | dict (members : List (PyStr × Nat × Nat))
  | list (items : List (Option Nat))
  | view (payload : Nat)

def memberRefs (members : List (PyStr × Nat × Nat)) : List Nat :=
  members.flatMap fun m => [m.2.1, m.2.2]

/-- The references that an object holds. -/
def Obj.refs : Obj → List Nat
  | .plain _ => []
  | .dict members => memberRefs members
  | .list items => items.reduceOption
  | .view payload => [payload]

/-- `Py_None`, `Py_True` and `Py_False`. -/
structure Statics where
  Py_None : Nat
  Py_True : Nat
  Py_False : Nat

/-- The objects, and the tracking array of the call. -/
structure Memory where
  heap : Heap Obj
  array : pyobject_array_t

/-- A dead object cannot be taken. -/
def Py_INCREF (a : Nat) : Run Memory Unit := do
  let s ← Run.get
  if s.heap.Alive a then Run.modify fun s => { s with heap := s.heap.incref a }
  else Run.crash

/-- A dead object can be released, and its count falls below zero. -/
def Py_DECREF (a : Nat) : Run Memory Unit := do
  let s ← Run.get
  if a < s.heap.next then Run.modify fun s => { s with heap := drop Obj.refs s.heap a }
  else Run.crash

def Py_XDECREF : Option Nat → Run Memory Unit
  | some a => Py_DECREF a
  | none => return ()

def PyObject_New (k : Obj) : Run Memory Nat := do
  let s ← Run.get
  Run.modify fun s => { s with heap := s.heap.alloc k }
  return s.heap.next

/-- A store into a live object, of pointers to objects. -/
def PyObject_Set (a : Nat) (k : Obj) : Run Memory Unit := do
  let s ← Run.get
  if s.heap.Alive a ∧ ∀ x ∈ k.refs, x < s.heap.next then
    Run.modify fun s => { s with heap := replace s.heap a k }
  else Run.crash

def PyDict_New : Run Memory Nat := PyObject_New (.dict [])

def PyInt_FromLong (n : Int) : Run Memory Nat := PyObject_New (.plain (.int n))

def PyFloat_FromDouble (bits : BitVec 64) : Run Memory Nat := PyObject_New (.plain (.float bits))

def PyBool_FromLong (st : Statics) (b : Bool) : Run Memory Nat := do
  let self := if b then st.Py_True else st.Py_False
  Py_INCREF self
  return self

/-- A new `str`, or NULL. -/
def PySTRING_FROM_AMQBYTES (b : Octets) : Run Memory (Option Nat) :=
  match utf8Decode b with
  | some s => do
    let self ← PyObject_New (.plain (.str s))
    return some self
  | none => return none

/-- A memoryview holds its object. -/
def PyMemoryView_FromObject (a : Nat) : Run Memory Nat := do
  Py_INCREF a
  PyObject_New (.view a)

/-! ## Containers -/

/-- The members with a key set, and the value that was there. A key that is there stays. -/
def setMember (k : PyStr) (key value : Nat) :
    List (PyStr × Nat × Nat) → List (PyStr × Nat × Nat) × Option Nat
  | [] => ([(k, key, value)], none)
  | m :: rest =>
    if m.1 = k then ((m.1, m.2.1, value) :: rest, some m.2.2)
    else (m :: (setMember k key value rest).1, (setMember k key value rest).2)

/-- `PyDict_SetItem`: the dict takes references of its own. -/
def PyDict_SetItem (dict : Nat) : Option Nat → Option Nat → Run Memory Unit
  | some key, some value => do
    let s ← Run.get
    match s.heap.contents dict, s.heap.contents key with
    | .dict members, .plain (.str k) => do
      Py_INCREF key
      Py_INCREF value
      PyObject_Set dict (.dict (setMember k key value members).1)
      match (setMember k key value members).2 with
      | none => return ()
      | some old => do
        Py_DECREF old
        Py_DECREF key
    | _, _ => Run.crash
  | _, _ => Run.crash

/-- `PyDict_SetItemString`, which makes the key and releases it. -/
def PyDict_SetItemString (dict : Nat) (key : String) (value : Option Nat) : Run Memory Unit := do
  let kv ← PyObject_New (.plain (.str (pyStr key)))
  PyDict_SetItem dict (some kv) value
  Py_DECREF kv

def PyDICT_SETNONE_DECREF (st : Statics) (dict : Nat) (key : Option Nat) : Run Memory Unit := do
  PyDict_SetItem dict key (some st.Py_None)
  Py_XDECREF key

def PyDICT_SETSTR_DECREF (dict : Nat) (key : String) (value : Option Nat) : Run Memory Unit := do
  PyDict_SetItemString dict key value
  Py_XDECREF value

def PyDICT_SETKV_DECREF (dict : Nat) (key value : Option Nat) : Run Memory Unit := do
  PyDict_SetItem dict key value
  Py_XDECREF key
  Py_XDECREF value

def PyList_New : Run Memory Nat := PyObject_New (.list [])

/-- `PyList_SET_ITEM` of the next slot: the list takes the reference of its caller. -/
def PyList_SET_ITEM (list : Nat) (value : Option Nat) : Run Memory Unit := do
  let s ← Run.get
  match s.heap.contents list with
  | .list items => PyObject_Set list (.list (items ++ [value]))
  | _ => Run.crash

/-! ## The decoders -/

mutual

def AMQTable_toPyDict.loop (st : Statics) (dict : Nat) : amqp_table_t → Run Memory Unit
  | [] => return ()
  | (k, v) :: rest => do
    let value ← AMQTable_toPyDict.value st v
    let key ← PySTRING_FROM_AMQBYTES k
    match value with
    | none => PyDICT_SETNONE_DECREF st dict key
    | some value => PyDICT_SETKV_DECREF dict key (some value)
    AMQTable_toPyDict.loop st dict rest

/-- The `switch` of `AMQTable_toPyDict`. The test that follows it takes `Py_None`, which is not
owned, together with NULL. -/
def AMQTable_toPyDict.value (st : Statics) : amqp_field_value_t → Run Memory (Option Nat)
  | .void => return none
  | .boolean b => some <$> PyBool_FromLong st b
  | .i8 v => some <$> PyInt_FromLong v.toInt
  | .i16 v => some <$> PyInt_FromLong v.toInt
  | .i32 v => some <$> PyInt_FromLong v.toInt
  | .i64 v => some <$> PyInt_FromLong v.toInt
  | .u8 v => some <$> PyInt_FromLong v.toNat
  | .u16 v => some <$> PyInt_FromLong v.toNat
  | .u32 v => some <$> PyInt_FromLong v.toNat
  | .u64 v => some <$> PyInt_FromLong v.toNat
  | .f32 v => some <$> PyFloat_FromDouble (widenFloat v)
  | .f64 v => some <$> PyFloat_FromDouble v
  | .utf8 b => PySTRING_FROM_AMQBYTES b
  | .table t => do
    let dict ← PyDict_New
    AMQTable_toPyDict.loop st dict t
    return some dict
  | .array a => do
    let list ← PyList_New
    AMQArray_toPyList.loop st list a
    return some list
  | .other _ => return none

def AMQArray_toPyList.loop (st : Statics) (list : Nat) : amqp_array_t → Run Memory Unit
  | [] => return ()
  | v :: rest => do
    let value ← AMQArray_toPyList.value st v
    PyList_SET_ITEM list value
    AMQArray_toPyList.loop st list rest

/-- The `switch` of `AMQArray_toPyList`. -/
def AMQArray_toPyList.value (st : Statics) : amqp_field_value_t → Run Memory (Option Nat)
  | .boolean b => some <$> PyBool_FromLong st b
  | .i8 v => some <$> PyInt_FromLong v.toInt
  | .i16 v => some <$> PyInt_FromLong v.toInt
  | .i32 v => some <$> PyInt_FromLong v.toInt
  | .i64 v => some <$> PyInt_FromLong v.toInt
  | .u8 v => some <$> PyInt_FromLong v.toNat
  | .u16 v => some <$> PyInt_FromLong v.toNat
  | .u32 v => some <$> PyInt_FromLong v.toNat
  | .u64 v => some <$> PyInt_FromLong v.toNat
  | .f32 v => some <$> PyFloat_FromDouble (widenFloat v)
  | .f64 v => some <$> PyFloat_FromDouble v
  | .utf8 b => PySTRING_FROM_AMQBYTES b
  | .table t => do
    let dict ← PyDict_New
    AMQTable_toPyDict.loop st dict t
    return some dict
  | .array a => do
    let list ← PyList_New
    AMQArray_toPyList.loop st list a
    return some list
  | .void => do
    Py_INCREF st.Py_None
    return some st.Py_None
  | .other _ => do
    Py_INCREF st.Py_None
    return some st.Py_None

end

def AMQTable_toPyDict (st : Statics) (table : amqp_table_t) : Run Memory Nat := do
  let dict ← PyDict_New
  AMQTable_toPyDict.loop st dict table
  return dict

/-- One property of `basic_properties_to_PyDict`, under its flag. -/
def setProperty (flag : Bool) (name : String) (value : Run Memory (Option Nat)) (p : Nat) :
    Run Memory Unit :=
  if flag then do
    let value ← value
    PyDICT_SETSTR_DECREF p name value
  else return ()

def basic_properties_to_PyDict (st : Statics) (props : amqp_basic_properties_t) (p : Nat) :
    Run Memory Unit := do
  setProperty (props._flags .content_type) "content_type"
    (PySTRING_FROM_AMQBYTES props.content_type) p
  setProperty (props._flags .content_encoding) "content_encoding"
    (PySTRING_FROM_AMQBYTES props.content_encoding) p
  setProperty (props._flags .correlation_id) "correlation_id"
    (PySTRING_FROM_AMQBYTES props.correlation_id) p
  setProperty (props._flags .reply_to) "reply_to" (PySTRING_FROM_AMQBYTES props.reply_to) p
  setProperty (props._flags .expiration) "expiration" (PySTRING_FROM_AMQBYTES props.expiration) p
  setProperty (props._flags .message_id) "message_id" (PySTRING_FROM_AMQBYTES props.message_id) p
  setProperty (props._flags .type) "type" (PySTRING_FROM_AMQBYTES props.type) p
  setProperty (props._flags .user_id) "user_id" (PySTRING_FROM_AMQBYTES props.user_id) p
  setProperty (props._flags .app_id) "app_id" (PySTRING_FROM_AMQBYTES props.app_id) p
  setProperty (props._flags .delivery_mode) "delivery_mode"
    (some <$> PyInt_FromLong props.delivery_mode.toNat) p
  setProperty (props._flags .priority) "priority" (some <$> PyInt_FromLong props.priority.toNat) p
  setProperty (props._flags .timestamp) "timestamp"
    (some <$> PyInt_FromLong props.timestamp.toInt) p
  setProperty (props._flags .headers) "headers" (some <$> AMQTable_toPyDict st props.headers) p

def amqp_basic_deliver_to_PyDict (st : Statics) (dest : Nat) (delivery_tag : BitVec 64)
    (exchange routing_key : Octets) (redelivered : Bool) : Run Memory Unit := do
  let value ← PyInt_FromLong delivery_tag.toInt
  PyDICT_SETSTR_DECREF dest "delivery_tag" (some value)
  let value ← PySTRING_FROM_AMQBYTES exchange
  PyDICT_SETSTR_DECREF dest "exchange" value
  let value ← PySTRING_FROM_AMQBYTES routing_key
  PyDICT_SETSTR_DECREF dest "routing_key" value
  let value ← PyBool_FromLong st redelivered
  PyDICT_SETSTR_DECREF dest "redelivered" (some value)

/-! ## What a call owns -/

/-- One reference to `a`. -/
def one (a : Nat) : Nat → Int := fun x => if x = a then 1 else 0

def owned : Option Nat → Nat → Int
  | some a => one a
  | none => 0

theorem one_nonneg (a x : Nat) : 0 ≤ one a x := by
  rw [one]
  split <;> omega

/-- `L` are the references that are held from outside of the objects. -/
structure Owes (L : Nat → Int) (s : Memory) : Prop where
  closed : Sealed Obj.refs s.heap
  loose : ∀ x, loose Obj.refs s.heap x = L x

/-- Objects are only added, and the tracking array is left alone. -/
structure Later (s s' : Memory) : Prop where
  next_le : s.heap.next ≤ s'.heap.next
  array : s'.array = s.array

/-- A call that owns the references `P` owns `Q` once it returns, whatever others own. -/
def Owns {α : Type} (P : Nat → Int) (x : Run Memory α) (Q : α → Nat → Int) : Prop :=
  ∀ ⦃L : Nat → Int⦄ ⦃s s' : Memory⦄ ⦃a : α⦄, Owes (L + P) s → x s = (.ret a, s') →
    Later s s' ∧ Owes (L + Q a) s'

section

variable {α β : Type} {P : Nat → Int} {Q : α → Nat → Int} {s s' : Memory}

theorem Owes.congr {L M : Nat → Int} (h : Owes L s) (hLM : L = M) : Owes M s := hLM ▸ h

theorem Later.refl (s : Memory) : Later s s := ⟨le_rfl, rfl⟩

theorem Later.trans {s1 : Memory} (h1 : Later s s1) (h2 : Later s1 s') : Later s s' :=
  ⟨h1.next_le.trans h2.next_le, h2.array.trans h1.array⟩

theorem owns_pure {a : α} (h : P = Q a) : Owns P (pure a) Q := by
  intro L s s' b hs hrun
  cases hrun
  exact ⟨.refl s, h ▸ hs⟩

theorem Owns.bind {x : Run Memory α} {f : α → Run Memory β} {R : β → Nat → Int} (hx : Owns P x Q)
    (hf : ∀ a, Owns (Q a) (f a) R) : Owns P (x >>= f) R := by
  intro L s s' b hs hrun
  obtain ⟨a, s1, h1, h2⟩ := Run.ret_of_bind hrun
  obtain ⟨hlater, hs1⟩ := hx hs h1
  obtain ⟨hlater', hs'⟩ := hf a hs1 h2
  exact ⟨hlater.trans hlater', hs'⟩

theorem Owns.congr {x : Run Memory α} {R : α → Nat → Int} (hx : Owns P x Q)
    (h : ∀ a, Q a = R a) : Owns P x R := by
  intro L s s' b hs hrun
  obtain ⟨hlater, hs'⟩ := hx hs hrun
  exact ⟨hlater, h b ▸ hs'⟩

theorem Owns.some {x : Run Memory Nat} (hx : Owns P x fun a => P + one a) :
    Owns P (Option.some <$> x) fun r => P + owned r :=
  hx.bind fun _ => owns_pure rfl

/-! ### The primitives -/

theorem incref_run {a : Nat} {u : Unit} (h : Py_INCREF a s = (.ret u, s')) :
    s.heap.Alive a ∧ s' = { s with heap := s.heap.incref a } := by
  unfold Py_INCREF at h
  rw [Run.get_bind_apply] at h
  split at h
  · rename_i ha
    cases h
    exact ⟨ha, rfl⟩
  · cases h

theorem decref_run {a : Nat} {u : Unit} (h : Py_DECREF a s = (.ret u, s')) :
    a < s.heap.next ∧ s' = { s with heap := drop Obj.refs s.heap a } := by
  unfold Py_DECREF at h
  rw [Run.get_bind_apply] at h
  split at h
  · rename_i ha
    cases h
    exact ⟨ha, rfl⟩
  · cases h

theorem set_run {a : Nat} {k : Obj} {u : Unit} (h : PyObject_Set a k s = (.ret u, s')) :
    s.heap.Alive a ∧ (∀ x ∈ k.refs, x < s.heap.next) ∧
      s' = { s with heap := replace s.heap a k } := by
  unfold PyObject_Set at h
  rw [Run.get_bind_apply] at h
  split at h
  · rename_i ha
    cases h
    exact ⟨ha.1, ha.2, rfl⟩
  · cases h

theorem owns_incref (a : Nat) : Owns P (Py_INCREF a) fun _ => P + one a := by
  intro L s s' u hs hrun
  obtain ⟨ha, rfl⟩ := incref_run hrun
  refine ⟨⟨le_rfl, rfl⟩, sealed_incref hs.closed ha, fun x => ?_⟩
  have hloose : loose Obj.refs (s.heap.incref a) x =
      loose Obj.refs s.heap x + if x = a then 1 else 0 := loose_incref ha x
  have := hs.loose x
  simp only [Pi.add_apply, one] at *
  omega

theorem owns_decref (a : Nat) : Owns P (Py_DECREF a) fun _ => P - one a := by
  intro L s s' u hs hrun
  obtain ⟨ha, rfl⟩ := decref_run hrun
  obtain ⟨hclosed, hnext, hloose⟩ := drop_loose hs.closed ha
  refine ⟨⟨hnext.ge, rfl⟩, hclosed, fun x => ?_⟩
  have := hloose x
  have := hs.loose x
  simp only [Pi.add_apply, Pi.sub_apply, one] at *
  omega

theorem owns_xdecref (o : Option Nat) : Owns P (Py_XDECREF o) fun _ => P - owned o := by
  cases o with
  | none => exact owns_pure (sub_zero P).symm
  | some a => exact owns_decref a

theorem owns_new {k : Obj} (hk : k.refs = []) : Owns P (PyObject_New k) fun a => P + one a := by
  intro L s s' a hs hrun
  cases hrun
  refine ⟨⟨Nat.le_succ _, rfl⟩, sealed_alloc hs.closed (by simp [hk]), fun x => ?_⟩
  have hloose := loose_alloc hs.closed k x
  have := hs.loose x
  rw [hk, List.count_nil] at hloose
  simp only [Pi.add_apply, one] at *
  omega

theorem owns_dict : Owns P PyDict_New fun a => P + one a := owns_new rfl

theorem owns_list : Owns P PyList_New fun a => P + one a := owns_new rfl

theorem owns_int (n : Int) : Owns P (PyInt_FromLong n) fun a => P + one a := owns_new rfl

theorem owns_float (bits : BitVec 64) : Owns P (PyFloat_FromDouble bits) fun a => P + one a :=
  owns_new rfl

theorem owns_bool (st : Statics) (b : Bool) : Owns P (PyBool_FromLong st b) fun a => P + one a :=
  (owns_incref _).bind fun _ => owns_pure rfl

theorem owns_string (b : Octets) : Owns P (PySTRING_FROM_AMQBYTES b) fun r => P + owned r := by
  unfold PySTRING_FROM_AMQBYTES
  split
  · exact (owns_new rfl).bind fun _ => owns_pure rfl
  · exact owns_pure (add_zero P).symm

theorem owns_view (a : Nat) : Owns P (PyMemoryView_FromObject a) fun v => P + one v := by
  intro L s s' v hs hrun
  obtain ⟨u, s1, hincref, hnew⟩ := Run.ret_of_bind hrun
  obtain ⟨-, hs1⟩ := owns_incref a hs hincref
  obtain ⟨ha, rfl⟩ := incref_run hincref
  cases hnew
  have halive := hs.closed.lt_of_alive ha
  have hmem : ∀ x ∈ (Obj.view a).refs, x < (s.heap.incref a).next := by
    intro x hx
    rwa [List.mem_singleton.mp hx]
  refine ⟨⟨Nat.le_succ _, rfl⟩, sealed_alloc hs1.closed hmem, fun x => ?_⟩
  have hloose := loose_alloc hs1.closed (.view a) x
  have := hs1.loose x
  have hcount := count_cons_eq a [] x
  simp only [Obj.refs, List.count_nil, Pi.add_apply, one] at *
  omega

/-! ### The containers -/

theorem memberRefs_cons (m : PyStr × Nat × Nat) (members : List (PyStr × Nat × Nat)) (x : Nat) :
    ((memberRefs (m :: members)).count x : Int) =
      (memberRefs members).count x + one m.2.1 x + one m.2.2 x := by
  have hkey := count_cons_eq m.2.1 (m.2.2 :: memberRefs members) x
  have hvalue := count_cons_eq m.2.2 (memberRefs members) x
  have hcons : memberRefs (m :: members) = m.2.1 :: m.2.2 :: memberRefs members := rfl
  rw [hcons, hkey, hvalue]
  unfold one
  omega

/-- A new member adds its key and its value, and a new value takes the place of the old one. -/
theorem setMember_refs (k : PyStr) (key value : Nat) (members : List (PyStr × Nat × Nat))
    (x : Nat) :
    ((memberRefs (setMember k key value members).1).count x : Int) +
        owned (setMember k key value members).2 x =
      (memberRefs members).count x + one value x +
        if (setMember k key value members).2 = none then one key x else 0 := by
  induction members with
  | nil =>
    have hnew := memberRefs_cons (k, key, value) [] x
    have hold : owned none x = 0 := rfl
    simp only [setMember, if_pos]
    dsimp only at hnew
    omega
  | cons m members ih =>
    have hm := memberRefs_cons m members x
    unfold setMember
    by_cases hk : m.1 = k
    · have hnew := memberRefs_cons (m.1, m.2.1, value) members x
      have hold : owned (some m.2.2) x = one m.2.2 x := rfl
      rw [if_pos hk]
      dsimp only at hnew ⊢
      rw [hold, if_neg (by simp)]
      omega
    · have hnew := memberRefs_cons m (setMember k key value members).1 x
      rw [if_neg hk]
      dsimp only
      omega

theorem setItem_run {dict key value : Nat} {u : Unit}
    (h : PyDict_SetItem dict (some key) (some value) s = (.ret u, s')) :
    ∃ members k, s.heap.contents dict = .dict members ∧
      (do
        Py_INCREF key
        Py_INCREF value
        PyObject_Set dict (.dict (setMember k key value members).1)
        match (setMember k key value members).2 with
        | none => return ()
        | some old => do
          Py_DECREF old
          Py_DECREF key) s = (.ret u, s') := by
  rw [PyDict_SetItem, Run.get_bind_apply] at h
  cases hdict : s.heap.contents dict with
  | dict members =>
    cases hkey : s.heap.contents key with
    | plain o =>
      rw [hdict, hkey] at h
      cases o with
      | str k => exact ⟨members, k, rfl, h⟩
      | _ => cases h
    | _ =>
      rw [hdict, hkey] at h
      cases h
  | _ =>
    rw [hdict] at h
    cases h

theorem owns_setItem (dict : Nat) (key value : Option Nat) :
    Owns P (PyDict_SetItem dict key value) fun _ => P := by
  intro L s s' u hs hrun
  cases key with
  | none => cases hrun
  | some key =>
    cases value with
    | none => cases hrun
    | some value =>
      obtain ⟨members, k, hmembers, hrun⟩ := setItem_run hrun
      obtain ⟨u1, s1, h1, hrun⟩ := Run.ret_of_bind hrun
      obtain ⟨u2, s2, h2, hrun⟩ := Run.ret_of_bind hrun
      obtain ⟨u3, s3, h3, hrun⟩ := Run.ret_of_bind hrun
      obtain ⟨-, hs1⟩ := owns_incref key hs h1
      obtain ⟨-, hs2⟩ := owns_incref value hs1 h2
      obtain ⟨hkey, rfl⟩ := incref_run h1
      obtain ⟨hvalue, rfl⟩ := incref_run h2
      obtain ⟨hdict, hmem, rfl⟩ := set_run h3
      have hold : ((s.heap.incref key).incref value).contents dict = .dict members := hmembers
      have hset := loose_replace hs2.closed hdict (.dict (setMember k key value members).1)
      -- the value that was there and the second key are not held any more
      have hs3 : Owes (L + (P + owned (setMember k key value members).2 +
          if (setMember k key value members).2 = none then 0 else one key))
          ⟨replace ((s.heap.incref key).incref value) dict
            (.dict (setMember k key value members).1), s.array⟩ := by
        refine ⟨sealed_replace hs2.closed hdict hmem, fun x => ?_⟩
        have hrefs := setMember_refs k key value members x
        have hloose := hs2.loose x
        rw [hset x, hold]
        simp only [Pi.add_apply, Obj.refs] at *
        split <;> rename_i hnone <;> simp only [hnone, if_true, if_false, Pi.zero_apply] at * <;>
          omega
      cases hsecond : (setMember k key value members).2 with
      | none =>
        rw [hsecond] at hrun hs3
        cases hrun
        refine ⟨⟨le_rfl, rfl⟩, hs3.congr ?_⟩
        have hzero : owned none = 0 := rfl
        rw [if_pos rfl, hzero, add_zero, add_zero]
      | some old =>
        rw [hsecond] at hrun hs3
        rw [if_neg (by simp), owned] at hs3
        obtain ⟨hlater, hs'⟩ := ((owns_decref old).bind fun _ => owns_decref key) hs3 hrun
        have hback : P + one old + one key - one old - one key = P := by abel
        exact ⟨⟨hlater.next_le, hlater.array⟩, hs'.congr (congrArg (L + ·) hback)⟩

theorem owns_setItemString (dict : Nat) (key : String) (value : Option Nat) :
    Owns P (PyDict_SetItemString dict key value) fun _ => P := by
  refine (owns_new rfl).bind fun kv => (owns_setItem dict _ value).bind fun _ => ?_
  exact (owns_decref kv).congr fun _ => add_sub_cancel_right P _

theorem owns_setNone (st : Statics) (dict : Nat) (key : Option Nat) :
    Owns P (PyDICT_SETNONE_DECREF st dict key) fun _ => P - owned key :=
  (owns_setItem dict key _).bind fun _ => owns_xdecref key

theorem owns_setStr (dict : Nat) (key : String) (value : Option Nat) :
    Owns P (PyDICT_SETSTR_DECREF dict key value) fun _ => P - owned value :=
  (owns_setItemString dict key value).bind fun _ => owns_xdecref value

theorem owns_setKv (dict : Nat) (key value : Option Nat) :
    Owns P (PyDICT_SETKV_DECREF dict key value) fun _ => P - owned key - owned value :=
  (owns_setItem dict key value).bind fun _ => (owns_xdecref key).bind fun _ => owns_xdecref value

theorem owns_setSlot (list : Nat) (value : Option Nat) :
    Owns P (PyList_SET_ITEM list value) fun _ => P - owned value := by
  intro L s s' u hs hrun
  rw [PyList_SET_ITEM, Run.get_bind_apply] at hrun
  cases hitems : s.heap.contents list with
  | list items =>
    rw [hitems] at hrun
    obtain ⟨hlist, hmem, rfl⟩ := set_run hrun
    refine ⟨⟨le_rfl, rfl⟩, sealed_replace hs.closed hlist hmem, fun x => ?_⟩
    have hset := loose_replace hs.closed hlist (.list (items ++ [value])) x
    have hloose := hs.loose x
    have hslot : ((items ++ [value]).reduceOption.count x : Int) =
        items.reduceOption.count x + owned value x := by
      rw [List.reduceOption_append, List.count_append, Nat.cast_add]
      cases value with
      | none => rfl
      | some a =>
        have ha := count_cons_eq a [] x
        rw [List.count_nil, Nat.cast_zero, zero_add] at ha
        exact congrArg _ ha
    rw [hset, hitems]
    simp only [Obj.refs, Pi.add_apply, Pi.sub_apply] at *
    omega
  | _ =>
    rw [hitems] at hrun
    cases hrun

/-! ### The decoders -/

mutual

theorem table_owns (st : Statics) (dict : Nat) : ∀ (table : amqp_table_t) {P : Nat → Int},
    Owns P (AMQTable_toPyDict.loop st dict table) fun _ => P
  | [], P => by
    rw [AMQTable_toPyDict.loop]
    exact owns_pure rfl
  | (k, v) :: rest, P => by
    rw [AMQTable_toPyDict.loop]
    refine (tableValue_owns st v).bind fun value => (owns_string k).bind fun key => ?_
    have hback : P + owned value + owned key - owned key - owned value = P := by abel
    cases value with
    | none =>
      have hnone : Owns (P + owned none + owned key) (PyDICT_SETNONE_DECREF st dict key)
          fun _ => P := (owns_setNone st dict key).congr fun _ => (sub_zero _).symm.trans hback
      exact hnone.bind fun _ => table_owns st dict rest
    | some value =>
      have hsome : Owns (P + owned (some value) + owned key)
          (PyDICT_SETKV_DECREF dict key (some value)) fun _ => P :=
        (owns_setKv dict key _).congr fun _ => hback
      exact hsome.bind fun _ => table_owns st dict rest

theorem tableValue_owns (st : Statics) : ∀ (v : amqp_field_value_t) {P : Nat → Int},
    Owns P (AMQTable_toPyDict.value st v) fun r => P + owned r
  | .void, P => by
    rw [AMQTable_toPyDict.value]
    exact owns_pure (add_zero P).symm
  | .other _, P => by
    rw [AMQTable_toPyDict.value]
    exact owns_pure (add_zero P).symm
  | .boolean b, P => by
    rw [AMQTable_toPyDict.value]
    exact (owns_bool st b).some
  | .i8 _, P | .i16 _, P | .i32 _, P | .i64 _, P
  | .u8 _, P | .u16 _, P | .u32 _, P | .u64 _, P => by
    rw [AMQTable_toPyDict.value]
    exact (owns_int _).some
  | .f32 _, P | .f64 _, P => by
    rw [AMQTable_toPyDict.value]
    exact (owns_float _).some
  | .utf8 b, P => by
    rw [AMQTable_toPyDict.value]
    exact owns_string b
  | .table t, P => by
    rw [AMQTable_toPyDict.value]
    exact owns_dict.bind fun dict => (table_owns st dict t).bind fun _ => owns_pure rfl
  | .array a, P => by
    rw [AMQTable_toPyDict.value]
    exact owns_list.bind fun list => (array_owns st list a).bind fun _ => owns_pure rfl

theorem array_owns (st : Statics) (list : Nat) : ∀ (array : amqp_array_t) {P : Nat → Int},
    Owns P (AMQArray_toPyList.loop st list array) fun _ => P
  | [], P => by
    rw [AMQArray_toPyList.loop]
    exact owns_pure rfl
  | v :: rest, P => by
    rw [AMQArray_toPyList.loop]
    refine (arrayValue_owns st v).bind fun value => ?_
    have hslot : Owns (P + owned value) (PyList_SET_ITEM list value) fun _ => P :=
      (owns_setSlot list value).congr fun _ => add_sub_cancel_right P _
    exact hslot.bind fun _ => array_owns st list rest

theorem arrayValue_owns (st : Statics) : ∀ (v : amqp_field_value_t) {P : Nat → Int},
    Owns P (AMQArray_toPyList.value st v) fun r => P + owned r
  | .void, P => by
    rw [AMQArray_toPyList.value]
    exact (owns_incref _).bind fun _ => owns_pure rfl
  | .other _, P => by
    rw [AMQArray_toPyList.value]
    exact (owns_incref _).bind fun _ => owns_pure rfl
  | .boolean b, P => by
    rw [AMQArray_toPyList.value]
    exact (owns_bool st b).some
  | .i8 _, P | .i16 _, P | .i32 _, P | .i64 _, P
  | .u8 _, P | .u16 _, P | .u32 _, P | .u64 _, P => by
    rw [AMQArray_toPyList.value]
    exact (owns_int _).some
  | .f32 _, P | .f64 _, P => by
    rw [AMQArray_toPyList.value]
    exact (owns_float _).some
  | .utf8 b, P => by
    rw [AMQArray_toPyList.value]
    exact owns_string b
  | .table t, P => by
    rw [AMQArray_toPyList.value]
    exact owns_dict.bind fun dict => (table_owns st dict t).bind fun _ => owns_pure rfl
  | .array a, P => by
    rw [AMQArray_toPyList.value]
    exact owns_list.bind fun list => (array_owns st list a).bind fun _ => owns_pure rfl

end

theorem owns_table (st : Statics) (table : amqp_table_t) :
    Owns P (AMQTable_toPyDict st table) fun dict => P + one dict :=
  owns_dict.bind fun dict => (table_owns st dict table).bind fun _ => owns_pure rfl

/-- A property is handed over to the dict, or not made. -/
theorem owns_property {value : Run Memory (Option Nat)} (flag : Bool) (name : String) (p : Nat)
    (hvalue : Owns P value fun r => P + owned r) :
    Owns P (setProperty flag name value p) fun _ => P := by
  unfold setProperty
  split
  · refine hvalue.bind fun r => (owns_setStr p name r).congr fun _ => add_sub_cancel_right P _
  · exact owns_pure rfl

theorem owns_properties (st : Statics) (props : amqp_basic_properties_t) (p : Nat) :
    Owns P (basic_properties_to_PyDict st props p) fun _ => P := by
  refine (owns_property _ _ p (owns_string _)).bind fun _ => ?_
  refine (owns_property _ _ p (owns_string _)).bind fun _ => ?_
  refine (owns_property _ _ p (owns_string _)).bind fun _ => ?_
  refine (owns_property _ _ p (owns_string _)).bind fun _ => ?_
  refine (owns_property _ _ p (owns_string _)).bind fun _ => ?_
  refine (owns_property _ _ p (owns_string _)).bind fun _ => ?_
  refine (owns_property _ _ p (owns_string _)).bind fun _ => ?_
  refine (owns_property _ _ p (owns_string _)).bind fun _ => ?_
  refine (owns_property _ _ p (owns_string _)).bind fun _ => ?_
  refine (owns_property _ _ p (owns_int _).some).bind fun _ => ?_
  refine (owns_property _ _ p (owns_int _).some).bind fun _ => ?_
  refine (owns_property _ _ p (owns_int _).some).bind fun _ => ?_
  exact owns_property _ _ p (owns_table st _).some

theorem owns_deliver (st : Statics) (dest : Nat) (delivery_tag : BitVec 64)
    (exchange routing_key : Octets) (redelivered : Bool) :
    Owns P (amqp_basic_deliver_to_PyDict st dest delivery_tag exchange routing_key redelivered)
      fun _ => P := by
  have hstore : ∀ name r, Owns (P + owned r) (PyDICT_SETSTR_DECREF dest name r) fun _ => P :=
    fun name r => (owns_setStr dest name r).congr fun _ => add_sub_cancel_right P _
  refine (owns_int _).bind fun tag => (hstore _ (some tag)).bind fun _ => ?_
  refine (owns_string exchange).bind fun r => (hstore _ r).bind fun _ => ?_
  refine (owns_string routing_key).bind fun r => (hstore _ r).bind fun _ => ?_
  exact (owns_bool st redelivered).bind fun b => hstore _ (some b)

end

end librabbitmq.memory
