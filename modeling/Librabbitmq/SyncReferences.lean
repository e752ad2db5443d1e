-- The references of the methods that send a request and wait for its reply: `_queue_bind` to
-- `_basic_cancel`. Each converts its names and, where it has one, its table of arguments, and
-- releases what was recorded on every way out.
import Librabbitmq.PublishReferences

namespace librabbitmq.ownership

open references encoding table_errors string_arguments

/-! ## The methods -/

/-- What the library answers: whether there is a pool for the channel, whether `ok` is not NULL,
the reply, and what comes while a channel is revived. -/
structure RpcAnswers where
  pool : Bool
  ok : Bool
  reply : amqp_rpc_reply_t
  revivals : memory.Revivals

/-- How a method is called: whether the connection is up, and whether `PyArg_ParseTuple` takes the
arguments. -/
structure Calling where
  connected : Bool
  parsed : Bool

/-- The names, in their order, up to one that is refused. -/
def maybeUnicodes : List PyRef → Run Rt (Option (List PyRef))
  | [] => return some []
  | name :: rest => do
    match ← PyObjectArray_Maybe_Unicode name with
    | .null => return none
    | name =>
      match ← maybeUnicodes rest with
      | none => return none
      | some names => return some (name :: names)

/-- `PyString_AS_AMQBYTES` of a name that goes into a request. -/
def readName (name : PyRef) : Run Rt Unit := do
  let _ ← PyString_AS_AMQBYTES name

/-- `Py_RETURN_NONE`. -/
def returnNone (Py_None : Nat) : Run Rt (Option Nat) := do
  Py_INCREF Py_None
  return some Py_None

/-- A result that is made from `ok`, which is followed also where it is NULL. A tuple stands for
what it holds. -/
def returnNew (answers : RpcAnswers) : Run Rt (Option Nat) :=
  if answers.ok then do
    let self ← PyObject_New []
    return some self
  else Run.crash

/-- A string that is made from `ok`, which is NULL where the octets are no text. -/
def returnString (answers : RpcAnswers) (octets : Octets) : Run Rt (Option Nat) :=
  if answers.ok then
    match utf8Decode octets with
    | some _ => do
      let self ← PyObject_New []
      return some self
    | none => do
      PyErr_Set (.raised .UnicodeDecodeError)
      return none
  else Run.crash

section

variable (Py_None : Nat) (answers : RpcAnswers)

def HandleAMQError : Run Rt Int :=
  let close := PyRabbitMQ_Connection_close Py_None
  memory.PyRabbitMQ_HandleAMQError close
    (memory.PyRabbitMQ_revive_channel close answers.revivals) answers.reply

/-- The request, from the read of its strings on. -/
def rpcMethod.request (names : List PyRef) (result : Run Rt (Option Nat)) :
    Run Rt (Option Nat) := do
  names.forM readName
  PyObjectArray_XDECREF
  let status ← HandleAMQError Py_None answers
  if status ≠ 0 then bail else result

/-- The table of arguments, and what follows it. -/
def rpcMethod.table (arguments : Option PyRef) (request : Run Rt (Option Nat)) :
    Run Rt (Option Nat) :=
  match arguments with
  | none => request
  | some arguments =>
    if answers.pool then
      match arguments with
      | .dict _ members => do
        let _ ← PyDict_ToAMQTable members
        let rt ← Run.get
        if rt.err.isSome then bail else request
      -- `PyDict_Size` of what is no dict
      | _ => do
        PyErr_Set (.raised .SystemError)
        bail
    else do
      PyErr_Set (.raised .MemoryError)
      bail

/-- A method that converts its names, and its dict if there is one, sends a request and waits for
the reply. -/
def rpcMethod (names : List PyRef) (arguments : Option PyRef)
    (request : List PyRef → Run Rt (Option Nat)) : Run Rt (Option Nat) := do
  match ← maybeUnicodes names with
  | none => bail
  | some names => rpcMethod.table answers arguments (request names)

/-- The checks of a method, with the array that it starts with. -/
def checked (calling : Calling) (unconnected body : Run Rt (Option Nat)) : Run Rt (Option Nat) := do
  Run.modify fun rt => { rt with array := .zero }
  if calling.connected then
    if calling.parsed then body else bail
  else unconnected

variable (calling : Calling)

def PyRabbitMQ_Connection_queue_bind (queue exchange routing_key arguments : PyRef) :
    Run Rt (Option Nat) :=
  checked calling bail <| rpcMethod answers [queue, exchange, routing_key] (some arguments)
    fun names => rpcMethod.request Py_None answers names (returnNone Py_None)

def PyRabbitMQ_Connection_queue_unbind (queue exchange routing_key arguments : PyRef) :
    Run Rt (Option Nat) :=
  checked calling bail <| rpcMethod answers [queue, exchange, routing_key] (some arguments)
    fun names => rpcMethod.request Py_None answers names (returnNone Py_None)

/-- The reply is asked for only after a NULL. -/
def PyRabbitMQ_Connection_queue_delete.request (names : List PyRef) : Run Rt (Option Nat) := do
  names.forM readName
  PyObjectArray_XDECREF
  if answers.ok then returnNew answers
  else
    let status ← HandleAMQError Py_None answers
    if status ≠ 0 then bail else returnNew answers

def PyRabbitMQ_Connection_queue_delete (queue : PyRef) : Run Rt (Option Nat) :=
  checked calling bail <| rpcMethod answers [queue] none
    fun names => PyRabbitMQ_Connection_queue_delete.request Py_None answers names

def PyRabbitMQ_Connection_queue_declare (queue arguments : PyRef) :
    Run Rt (Option Nat) :=
  checked calling bail <| rpcMethod answers [queue] (some arguments)
    fun names => rpcMethod.request Py_None answers names (returnNew answers)

def PyRabbitMQ_Connection_queue_purge (queue : PyRef) : Run Rt (Option Nat) :=
  checked calling bail <| rpcMethod answers [queue] none
    fun names => rpcMethod.request Py_None answers names (returnNew answers)

def PyRabbitMQ_Connection_exchange_declare (exchange type arguments : PyRef) :
    Run Rt (Option Nat) :=
  checked calling bail <| rpcMethod answers [exchange, type] (some arguments)
    fun names => rpcMethod.request Py_None answers names (returnNone Py_None)

def PyRabbitMQ_Connection_exchange_delete (exchange : PyRef) : Run Rt (Option Nat) :=
  checked calling bail <| rpcMethod answers [exchange] none
    fun names => rpcMethod.request Py_None answers names (returnNone Py_None)

/-- Without a connection there is nothing to cancel. -/
def PyRabbitMQ_Connection_basic_cancel (consumer_tag : PyRef) : Run Rt (Option Nat) :=
  checked calling (returnNone Py_None) <| rpcMethod answers [consumer_tag] none
    fun names => rpcMethod.request Py_None answers names (returnNone Py_None)

/-- `answered` is the tag of the consume-ok. -/
def PyRabbitMQ_Connection_basic_consume (answered : Octets)
    (queue consumer_tag arguments : PyRef) : Run Rt (Option Nat) :=
  checked calling bail <| rpcMethod answers [queue, consumer_tag] (some arguments)
    fun names => rpcMethod.request Py_None answers names (returnString answers answered)

end

/-! ## What a conversion makes -/

variable {P : List Nat} {rt rt1 rt2 rt' : Rt}

/-- A new object is recorded once and has the one reference of the array, or it is not recorded and
was not released too often. -/
def Fresh (rt rt' : Rt) : Prop := ∀ a, rt.heap.next ≤ a → a < rt'.heap.next →
  (rt'.array.recorded.count a = 0 ∧ 0 ≤ rt'.heap.count a) ∨
    (rt'.array.recorded.count a = 1 ∧ rt'.heap.count a = 1)

/-- Nothing new was made. -/
theorem fresh_of_next (hnext : rt'.heap.next = rt.heap.next) : Fresh rt rt' := by
  intro a ha ha'
  omega

theorem Fresh.step (h1 : Fresh rt rt1) (h2 : Fresh rt1 rt2)
    (hsame : ∀ a, rt.heap.next ≤ a → a < rt1.heap.next →
      rt2.heap.count a = rt1.heap.count a ∧
        rt2.array.recorded.count a = rt1.array.recorded.count a) : Fresh rt rt2 := by
  intro a ha ha'
  by_cases hlt : a < rt1.heap.next
  · obtain ⟨hcount, hrecorded⟩ := hsame a ha hlt
    rw [hcount, hrecorded]
    exact h1 a ha hlt
  · exact h2 a (by omega) ha'

theorem Known.not_mem (hknown : Known P rt) {a : Nat} (ha : rt.heap.next ≤ a) : a ∉ P :=
  fun hmem => by
    have := hknown.given a hmem
    omega

theorem Fresh.trans (hknown : Known P rt) (h1 : Fresh rt rt1) (h2 : Fresh rt1 rt2)
    (hmoves : Moves P rt1 rt2) : Fresh rt rt2 :=
  h1.step h2 fun a ha hlt =>
    ⟨hmoves.frame a hlt (hknown.not_mem ha), hmoves.records a (Or.inl hlt)⟩

theorem Since.fresh_all (hknown : Known P rt) (h : Since rt rt') : Fresh rt rt' := by
  intro a ha ha'
  obtain ⟨new, hperm, hnodup, hnew⟩ := h.recorded
  have hcount : rt'.array.recorded.count a = new.count a := by
    rw [hperm.count_eq a, List.count_append, hknown.count_next ha, Nat.add_zero]
  rw [hcount]
  by_cases hmem : a ∈ new
  · exact Or.inr ⟨List.count_eq_one_of_mem hnodup hmem, (hnew a hmem).2.2⟩
  · exact Or.inl ⟨List.count_eq_zero_of_not_mem hmem, h.fresh a ha ha'⟩

/-- An object that was there is released. -/
theorem Fresh.decref {a : Nat} (ha : a < rt.heap.next) (h : Fresh rt rt') :
    Fresh rt (decrefed a rt') := by
  intro b hb hb'
  rw [decrefed_count, if_neg (by omega), sub_zero]
  exact h b hb hb'

/-- The iterator of a list is not recorded, and not released too often. -/
theorem Fresh.of_gotIter {src : Nat} {b : Bool} (hknown : Known P rt) (hsrc : src < rt.heap.next)
    (hloop : LoopSettles P src rt.heap.next (gotIter src rt) rt' b)
    (h : Fresh (gotIter src rt) rt') : Fresh rt rt' := by
  intro a ha ha'
  by_cases hself : a = rt.heap.next
  · subst hself
    obtain ⟨rt1, clean, hmoves, hleft, -⟩ := hloop
    obtain ⟨-, hone, hunrecorded⟩ := iterator_kept hknown hsrc hmoves
    have hne : rt.heap.next ≠ src := by omega
    refine Or.inl ?_
    cases hleft with
    | whole hheap harray =>
      rw [hheap, harray, Heap.decref_count, if_neg hne, hone]
      exact ⟨hunrecorded, by decide⟩
    | clean hheap harray =>
      rw [hheap, harray, Heap.decref_count, Heap.decref_count, if_neg hne, if_pos rfl, hone]
      exact ⟨hunrecorded, by decide⟩
    | stale hc hheap harray =>
      have hne' : rt.heap.next ≠ _ := fun h => hknown.not_mem le_rfl (h ▸ hc)
      rw [hheap, harray, Heap.decref_count, Heap.decref_count, Heap.decref_count, if_neg hne,
        if_pos rfl, if_neg hne', hone]
      exact ⟨hunrecorded, by decide⟩
  · exact h a (by rw [gotIter_next]; omega) ha'

/-- The exits of a loop leave the new objects alone. -/
theorem LoopSettles.same {src iterator : Nat} {b : Bool}
    (hplaces : ∀ a, a ∈ P → a < rt.heap.next) (hsrc : src < rt.heap.next)
    (hiterator : iterator < rt.heap.next)
    (hloop : LoopSettles P src iterator rt1 rt' b) : ∀ a, rt.heap.next ≤ a → a < rt1.heap.next →
      rt'.heap.count a = rt1.heap.count a ∧
        rt'.array.recorded.count a = rt1.array.recorded.count a := by
  intro a ha hlt
  obtain ⟨rt2, clean, hmoves, hleft, -⟩ := hloop
  have hnot : a ∉ P := fun hmem => by
    have := hplaces a hmem
    omega
  have hcount := hmoves.frame a hlt hnot
  have hrecorded := hmoves.records a (Or.inl hlt)
  have hne : a ≠ src := by omega
  have hne' : a ≠ iterator := by omega
  cases hleft with
  | whole hheap harray =>
    rw [hheap, harray, Heap.decref_count, if_neg hne, sub_zero]
    exact ⟨hcount, hrecorded⟩
  | clean hheap harray =>
    rw [hheap, harray, Heap.decref_count, Heap.decref_count, if_neg hne, if_neg hne', sub_zero,
      sub_zero]
    exact ⟨hcount, hrecorded⟩
  | stale hc hheap harray =>
    have hne'' : a ≠ _ := fun h => hnot (h ▸ hc)
    rw [hheap, harray, Heap.decref_count, Heap.decref_count, Heap.decref_count, if_neg hne,
      if_neg hne', if_neg hne'', sub_zero, sub_zero, sub_zero]
    exact ⟨hcount, hrecorded⟩

/-- A read of the key makes nothing. -/
theorem plain_fresh {α : Type} {dkey : PyRef} {f : amqp_bytes_t → α} {x : α}
    (h : (PyString_AS_AMQBYTES dkey >>= fun key => pure (f key)) rt = (.ret x, rt')) :
    Fresh rt rt' := by
  obtain ⟨self, b, -, h⟩ := key_of_run h
  cases h
  exact fresh_of_next rfl

/-- The way out by `item_error:` makes nothing. -/
theorem exit_next {tmp item : Option Nat} {src iterator : Nat} {dst a : amqp_array_t}
    (hrun : (do
      Py_XDECREF tmp
      Py_XDECREF item
      releaseIterator iterator src
      return dst : Run Rt amqp_array_t) rt = (.ret a, rt')) : rt'.heap.next = rt.heap.next := by
  have hdecref : ∀ {o : Option Nat} {rt rt' : Rt} {u : Unit},
      Py_XDECREF o rt = (.ret u, rt') → rt'.heap.next = rt.heap.next := by
    intro o rt rt' u h
    cases o <;> cases h <;> rfl
  obtain ⟨u1, rt1, h1, hrun⟩ := Run.ret_of_bind hrun
  obtain ⟨u2, rt2, h2, hrun⟩ := Run.ret_of_bind hrun
  obtain ⟨u3, rt3, h3, hrun⟩ := Run.ret_of_bind hrun
  cases hrun
  obtain ⟨u4, rt4, h4, h3⟩ := Run.ret_of_bind h3
  rw [Run.get_bind_apply] at h3
  rw [← hdecref h1, ← hdecref h2]
  split at h3
  · cases h3
    cases h4
    rfl
  · cases h3
    cases h4
    rfl

/-- A list or a tuple, by what its loop makes. -/
theorem array_fresh {src : Nat} {items : List PyRef} {a : amqp_array_t} (hknown : Known P rt)
    (hsrc : src < rt.heap.next) (hp : ∀ p ∈ itemPlaces items, p.1 ∈ P)
    (hrun : PyIter_ToAMQArray.loop src rt.heap.next none [] items (gotIter src rt) =
      (.ret a, rt')) (h : Fresh (gotIter src rt) rt') : Fresh rt rt' := by
  have hloop := items_settle items hp (by simp) (hknown.gotIter src) hknown.not_next
    (Nat.lt_succ_self _) (gotIter_count_self src rt hsrc) hrun
  exact Fresh.of_gotIter hknown hsrc hloop h

mutual

theorem member_fresh {P : List Nat} : ∀ (v : PyRef) {dst : amqp_table_t} {dkey : PyRef}
    {rt rt' : Rt} {o : Option amqp_table_t}, (∀ p ∈ v.places, p.1 ∈ P) → Known P rt →
    PyDict_ToAMQTable.member dst dkey v rt = (.ret o, rt') → Fresh rt rt'
  | .null, dst, dkey, rt, rt', o, hp, hknown, hrun => by
    rw [PyDict_ToAMQTable.member] at hrun
    cases hrun
  | .none _, dst, dkey, rt, rt', o, hp, hknown, hrun => by
    rw [PyDict_ToAMQTable.member] at hrun
    exact plain_fresh hrun
  | .bool _ _, dst, dkey, rt, rt', o, hp, hknown, hrun => by
    rw [PyDict_ToAMQTable.member] at hrun
    exact plain_fresh hrun
  | .int _ n, dst, dkey, rt, rt', o, hp, hknown, hrun => by
    rw [PyDict_ToAMQTable.member, asLong_bind] at hrun
    split at hrun
    · cases hrun
      exact fresh_of_next rfl
    · obtain ⟨self, b, -, hrun⟩ := key_of_run hrun
      cases hrun
      exact fresh_of_next rfl
  | .float _ bits, dst, dkey, rt, rt', o, hp, hknown, hrun => by
    rw [PyDict_ToAMQTable.member] at hrun
    split at hrun
    · cases hrun
      exact fresh_of_next rfl
    · exact plain_fresh hrun
  | .str _ s, dst, dkey, rt, rt', o, hp, hknown, hrun => by
    rw [PyDict_ToAMQTable.member] at hrun
    unfold PyUnicode_AsEncodedString at hrun
    cases hs : utf8Encode s with
    | none =>
      rw [hs] at hrun
      cases hrun
      exact fresh_of_next rfl
    | some b =>
      rw [hs] at hrun
      have hrun' : (PyString_AS_AMQBYTES dkey >>= fun key =>
          pure (some (dst ++ [(key, .utf8 ⟨rt.heap.next, b⟩)]))) (recordedNew rt b) =
            (.ret o, rt') := hrun
      obtain ⟨self, c, -, hpure⟩ := key_of_run hrun'
      cases hpure
      exact (since_recorded rt b).fresh_all hknown
  | .bytes self b, dst, dkey, rt, rt', o, hp, hknown, hrun => by
    rw [PyDict_ToAMQTable.member] at hrun
    exact plain_fresh hrun
  | .other _ id, dst, dkey, rt, rt', o, hp, hknown, hrun => by
    rw [PyDict_ToAMQTable.member] at hrun
    obtain ⟨self, b, -, hrun⟩ := key_of_run hrun
    cases hrun
    exact fresh_of_next rfl
  | .dict _ members, dst, dkey, rt, rt', o, hp, hknown, hrun => by
    rw [PyDict_ToAMQTable.member] at hrun
    obtain ⟨_, b, -, hrun⟩ := key_of_run hrun
    obtain ⟨t, rt1, hloop, hpure⟩ := Run.ret_of_bind hrun
    cases hpure
    exact members_fresh members (fun p h => hp p (List.mem_cons_of_mem _ h)) hknown hloop
  | .list self items, dst, dkey, rt, rt', o, hp, hknown, hrun => by
    rw [PyDict_ToAMQTable.member] at hrun
    obtain ⟨_, b, -, hrun⟩ := key_of_run hrun
    rw [Run.bind_ret (getIter_apply self rt)] at hrun
    obtain ⟨a, rt1, hloop, hpure⟩ := Run.ret_of_bind hrun
    cases hpure
    have hself := hknown.given self (hp (self, none) List.mem_cons_self)
    have hitems : ∀ p ∈ itemPlaces items, p.1 ∈ P := fun p h => hp p (List.mem_cons_of_mem _ h)
    exact array_fresh hknown hself hitems hloop (items_fresh items hitems (by simp)
      (hknown.gotIter self) hknown.not_next (Nat.lt_succ_of_lt hself) (Nat.lt_succ_self _)
      (gotIter_count_self self rt hself) hloop)
  | .tuple self items, dst, dkey, rt, rt', o, hp, hknown, hrun => by
    rw [PyDict_ToAMQTable.member] at hrun
    obtain ⟨_, b, -, hrun⟩ := key_of_run hrun
    rw [Run.bind_ret (getIter_apply self rt)] at hrun
    obtain ⟨a, rt1, hloop, hpure⟩ := Run.ret_of_bind hrun
    cases hpure
    have hself := hknown.given self (hp (self, none) List.mem_cons_self)
    have hitems : ∀ p ∈ itemPlaces items, p.1 ∈ P := fun p h => hp p (List.mem_cons_of_mem _ h)
    exact array_fresh hknown hself hitems hloop (items_fresh items hitems (by simp)
      (hknown.gotIter self) hknown.not_next (Nat.lt_succ_of_lt hself) (Nat.lt_succ_self _)
      (gotIter_count_self self rt hself) hloop)

theorem item_fresh {P : List Nat} : ∀ (v : PyRef) {item_tmp tmp : Option Nat}
    {dst t : amqp_array_t} {item : Nat} {rt rt' : Rt}, (∀ p ∈ v.places, p.1 ∈ P) → Known P rt →
    PyIter_ToAMQArray.item item_tmp dst v rt = (.ret (some t, some item, tmp), rt') →
    Fresh rt (decrefed item rt')
  | .null, item_tmp, tmp, dst, t, item, rt, rt', hp, hknown, hrun => by
    rw [PyIter_ToAMQArray.item] at hrun
    cases hrun
  | .none self, item_tmp, tmp, dst, t, item, rt, rt', hp, hknown, hrun => by
    rw [PyIter_ToAMQArray.item] at hrun
    cases hrun
    exact fresh_of_next rfl
  | .bool self b, item_tmp, tmp, dst, t, item, rt, rt', hp, hknown, hrun => by
    rw [PyIter_ToAMQArray.item] at hrun
    cases hrun
    exact fresh_of_next rfl
  | .int self n, item_tmp, tmp, dst, t, item, rt, rt', hp, hknown, hrun => by
    rw [PyIter_ToAMQArray.item, Run.bind_ret (incref_apply self rt), asLong_bind] at hrun
    cases hrun
    exact fresh_of_next rfl
  | .bytes self b, item_tmp, tmp, dst, t, item, rt, rt', hp, hknown, hrun => by
    rw [PyIter_ToAMQArray.item] at hrun
    cases hrun
    exact fresh_of_next rfl
  | .float self bits, item_tmp, tmp, dst, t, item, rt, rt', hp, hknown, hrun => by
    rw [PyIter_ToAMQArray.item] at hrun
    cases hrun
  | .other self id, item_tmp, tmp, dst, t, item, rt, rt', hp, hknown, hrun => by
    rw [PyIter_ToAMQArray.item] at hrun
    cases hrun
  | .str self s, item_tmp, tmp, dst, t, item, rt, rt', hp, hknown, hrun => by
    rw [PyIter_ToAMQArray.item] at hrun
    unfold PyUnicode_AsASCIIString at hrun
    cases hs : asciiEncode s with
    | none =>
      rw [hs] at hrun
      cases hrun
    | some b =>
      rw [hs] at hrun
      cases hrun
      have hself := hknown.given self (hp (self, none) (List.mem_singleton_self _))
      have hfresh : Fresh (increfed self rt) _ :=
        (since_temporary (increfed self rt) b).fresh_all (hknown.increfed self)
      have hcomm : (((rt.heap.incref self).alloc b).decref self).decref rt.heap.next =
          (((rt.heap.incref self).alloc b).decref rt.heap.next).decref self :=
        Heap.decref_comm _ _ _
      have hdone : Fresh (increfed self rt) (decrefed self _) := hfresh.decref hself
      unfold decrefed at hdone ⊢
      dsimp only [increfed, Heap.incref_next] at hdone hcomm ⊢
      rw [hcomm]
      exact hdone
  | .dict self members, item_tmp, tmp, dst, t, item, rt, rt', hp, hknown, hrun => by
    rw [PyIter_ToAMQArray.item, Run.bind_ret (incref_apply self rt)] at hrun
    obtain ⟨t1, rt1, hloop, hpure⟩ := Run.ret_of_bind hrun
    cases hpure
    have hself := hknown.given self (hp (self, none) List.mem_cons_self)
    have hfresh := members_fresh members (fun p h => hp p (List.mem_cons_of_mem _ h))
      (hknown.increfed self) hloop
    exact hfresh.decref hself
  | .list self items, item_tmp, tmp, dst, t, item, rt, rt', hp, hknown, hrun => by
    rw [PyIter_ToAMQArray.item, Run.bind_ret (incref_apply self rt),
      Run.bind_ret (getIter_apply self (increfed self rt))] at hrun
    obtain ⟨a, rt1, hloop, hpure⟩ := Run.ret_of_bind hrun
    cases hpure
    have hself := hknown.given self (hp (self, none) List.mem_cons_self)
    have hitems : ∀ p ∈ itemPlaces items, p.1 ∈ P := fun p h => hp p (List.mem_cons_of_mem _ h)
    have hknown' := hknown.increfed self
    have hfresh := array_fresh hknown' hself hitems hloop (items_fresh items hitems (by simp)
      (hknown'.gotIter self) hknown'.not_next (Nat.lt_succ_of_lt hself) (Nat.lt_succ_self _)
      (gotIter_count_self self (increfed self rt) hself) hloop)
    exact hfresh.decref hself
  | .tuple self items, item_tmp, tmp, dst, t, item, rt, rt', hp, hknown, hrun => by
    rw [PyIter_ToAMQArray.item, Run.bind_ret (incref_apply self rt),
      Run.bind_ret (getIter_apply self (increfed self rt))] at hrun
    obtain ⟨a, rt1, hloop, hpure⟩ := Run.ret_of_bind hrun
    cases hpure
    have hself := hknown.given self (hp (self, none) List.mem_cons_self)
    have hitems : ∀ p ∈ itemPlaces items, p.1 ∈ P := fun p h => hp p (List.mem_cons_of_mem _ h)
    have hknown' := hknown.increfed self
    have hfresh := array_fresh hknown' hself hitems hloop (items_fresh items hitems (by simp)
      (hknown'.gotIter self) hknown'.not_next (Nat.lt_succ_of_lt hself) (Nat.lt_succ_self _)
      (gotIter_count_self self (increfed self rt) hself) hloop)
    exact hfresh.decref hself

theorem members_fresh {P : List Nat} : ∀ (members : PyRefMembers) {dst t : amqp_table_t}
    {rt rt' : Rt}, (∀ p ∈ memberPlaces members, p.1 ∈ P) → Known P rt →
    PyDict_ToAMQTable.loop dst members rt = (.ret t, rt') → Fresh rt rt'
  | [], dst, t, rt, rt', hp, hknown, hrun => by
    rw [PyDict_ToAMQTable.loop] at hrun
    cases hrun
    exact fresh_of_next rfl
  | (key, value) :: rest, dst, t, rt, rt', hp, hknown, hrun => by
    rw [PyDict_ToAMQTable.loop] at hrun
    obtain ⟨dkey, rt1, hdkey, hrun⟩ := Run.ret_of_bind hrun
    obtain ⟨o, rt2, hmember, hrun⟩ := Run.ret_of_bind hrun
    have hvalue : ∀ p ∈ value.places, p.1 ∈ P :=
      fun p h => hp p (List.mem_cons_of_mem _ (List.mem_append_left _ h))
    have hkey := key_settles hknown hdkey
    have hkeyFresh := (maybe_leaves (keyRef key) hknown hdkey).2.fresh_all hknown
    have hknown1 := hknown.moves hkey.moves
    have hsettles := member_settles value hvalue hknown1 hmember
    have hfirst := hkeyFresh.trans hknown (member_fresh value hvalue hknown1 hmember)
      hsettles.moves
    cases o with
    | none =>
      cases hrun
      exact hfirst
    | some dst' =>
      have hrest : ∀ p ∈ memberPlaces rest, p.1 ∈ P :=
        fun p h => hp p (List.mem_cons_of_mem _ (List.mem_append_right _ h))
      have hknown2 := hknown1.moves hsettles.moves
      exact hfirst.trans hknown (members_fresh rest hrest hknown2 hrun)
        (members_settle rest hrest hknown2 hrun).moves

theorem items_fresh {P : List Nat} : ∀ (items : List PyRef) {src iterator : Nat}
    {item_tmp : Option Nat} {dst a : amqp_array_t} {rt rt' : Rt},
    (∀ p ∈ itemPlaces items, p.1 ∈ P) → (∀ a, a ∈ item_tmp → a ∈ P) → Known P rt →
    iterator ∉ P → src < rt.heap.next → iterator < rt.heap.next → rt.heap.count iterator = 1 →
    PyIter_ToAMQArray.loop src iterator item_tmp dst items rt = (.ret a, rt') → Fresh rt rt'
  | [], src, iterator, item_tmp, dst, a, rt, rt', hp, htmp, hknown, hnot, hsrc, hlt, hone,
    hrun => by
    rw [PyIter_ToAMQArray.loop] at hrun
    cases hrun
    exact fresh_of_next rfl
  | item :: rest, src, iterator, item_tmp, dst, a, rt, rt', hp, htmp, hknown, hnot, hsrc, hlt,
    hone, hrun => by
    rw [PyIter_ToAMQArray.loop] at hrun
    obtain ⟨r, rt1, hitem, hrun⟩ := Run.ret_of_bind hrun
    have hplaces : ∀ p ∈ item.places, p.1 ∈ P := fun p h => hp p (List.mem_append_left _ h)
    have hends := item_ends item hplaces htmp hknown hitem
    cases hends with
    | @entered t i item_tmp' hstops hsettles hconverted hgiven =>
      obtain ⟨_, rt2, hdecref, hrun⟩ := Run.ret_of_bind hrun
      cases hdecref
      have hfirst := item_fresh item hplaces hknown hitem
      have hrest : ∀ p ∈ itemPlaces rest, p.1 ∈ P := fun p h => hp p (List.mem_append_right _ h)
      have hknown1 := hknown.moves hsettles.moves
      have hle := hsettles.moves.next_le
      have hcount := (hsettles.moves.frame iterator hlt hnot).trans hone
      refine hfirst.step (items_fresh rest hrest hgiven hknown1 hnot (hsrc.trans_le hle)
        (hlt.trans_le hle) hcount hrun) ?_
      exact (items_settle rest hrest hgiven hknown1 hnot (hlt.trans_le hle) hcount hrun).same
        hknown.given hsrc hlt
    | @rejectedStr self hstops hstr hheap harray =>
      refine fresh_of_next ((exit_next hrun).trans ?_)
      rw [hheap]
      rfl
    | @rejected self hstops hstr hself hheap harray =>
      refine fresh_of_next ((exit_next hrun).trans ?_)
      rw [hheap]
      rfl

end

/-! ## What the methods make -/

/-- A part of a conversion, from where the arguments are known. -/
structure Makes (P : List Nat) (rt rt' : Rt) (b : Bool) : Prop where
  settles : Settles P rt rt' b
  fresh : Fresh rt rt'

theorem Makes.trans {b c : Bool} (hknown : Known P rt) (h1 : Makes P rt rt1 b)
    (h2 : Makes P rt1 rt2 c) : Makes P rt rt2 (b && c) :=
  ⟨h1.settles.trans hknown h2.settles, h1.fresh.trans hknown h2.fresh h2.settles.moves⟩

theorem makes_same (hheap : rt'.heap = rt.heap) (harray : rt'.array = rt.array) :
    Makes P rt rt' true :=
  ⟨settles_same hheap harray, fresh_of_next (by rw [hheap])⟩

theorem names_leave (names : List PyRef) : Leaves P (maybeUnicodes names) := by
  induction names with
  | nil => exact Leaves.pure _
  | cons name rest ih =>
    refine (maybe_leaves name).bind fun obj => ?_
    cases obj with
    | null => exact Leaves.pure _
    | _ =>
      refine ih.bind fun names => ?_
      cases names <;> exact Leaves.pure _

/-- The names are taken when none of them is refused, and nothing is pending then. -/
theorem names_taken (names : List PyRef) : ∀ {rt rt' : Rt} {o : Option (List PyRef)},
    maybeUnicodes names rt = (.ret o, rt') →
    o.isNone = names.any (fun name => refused name.obj) ∧ (o.isSome = true → rt'.err = rt.err) := by
  induction names with
  | nil =>
    intro rt rt' o hrun
    cases hrun
    exact ⟨rfl, fun _ => rfl⟩
  | cons name rest ih =>
    intro rt rt' o hrun
    obtain ⟨obj, rt1, hname, hrun⟩ := Run.ret_of_bind hrun
    rw [List.any_cons]
    rcases maybe_taken hname with ⟨rfl, hrefused⟩ | ⟨hne, htaken, herr⟩
    · cases hrun
      rw [hrefused]
      exact ⟨rfl, fun h => by cases h⟩
    · rw [htaken, Bool.false_or]
      obtain ⟨names, rt2, hnames, hpure⟩ : ∃ names rt2, maybeUnicodes rest rt1 = (.ret names, rt2) ∧
          rt' = rt2 ∧ o = names.map (obj :: ·) := by
        cases obj with
        | null => exact absurd rfl hne
        | _ =>
          obtain ⟨names, rt2, hnames, hpure⟩ := Run.ret_of_bind hrun
          refine ⟨names, rt2, hnames, ?_⟩
          cases names <;> cases hpure <;> exact ⟨rfl, rfl⟩
      obtain ⟨rfl, rfl⟩ := hpure
      obtain ⟨hany, herr'⟩ := ih hnames
      rw [← hany, Option.isNone_map, Option.isSome_map]
      exact ⟨rfl, fun h => (herr' h).trans herr⟩

/-- A conversion with nothing pending raises when its members do. -/
theorem table_raises {members : PyRefMembers} {t : amqp_table_t} (herr : rt.err = none)
    (hrun : PyDict_ToAMQTable members rt = (.ret t, rt')) :
    rt'.err.isSome = membersRaise (memberObjs members) := by
  have herased := toAMQTable_erased members rt
  unfold Erased at herased
  rw [hrun, herr] at herased
  obtain ⟨-, -, hpending⟩ := (toAMQTable_comes (memberObjs members) none).of_ret herased
  rw [hpending]
  rfl

/-! ## The ends of a method -/

/-- The recorded objects are released, once for each time that they were recorded. -/
structure Cleared (rt rt' : Rt) : Prop where
  array : rt'.array = .zero
  next : rt'.heap.next = rt.heap.next
  count : ∀ x, rt'.heap.count x = rt.heap.count x - rt.array.recorded.count x

theorem xdecref_cleared {u : Unit} (hrun : PyObjectArray_XDECREF rt = (.ret u, rt')) :
    Cleared rt rt' := by
  obtain ⟨harray, hreleased⟩ := xdecref_released 0 hrun
  refine ⟨harray, hreleased.next, fun x => ?_⟩
  rw [hreleased.count x]
  simp

/-- A run that returns `r` and leaves `k` references to `None` besides. -/
structure Ends (Py_None k : Nat) (r : Option Nat) (rt rt' : Rt) : Prop where
  next_le : rt.heap.next ≤ rt'.heap.next
  old : ∀ a, a < rt.heap.next → rt'.heap.count a =
    rt.heap.count a + (if a = Py_None then (k : Int) else 0) + if r = some a then 1 else 0
  new : ∀ a, rt.heap.next ≤ a → a < rt'.heap.next →
    rt'.heap.count a = if r = some a then 1 else 0
  result : ∀ a, r = some a → a = Py_None ∨ rt.heap.next ≤ a

section

variable {Py_None k : Nat} {r : Option Nat} {answers : RpcAnswers}

theorem ends_same (hheap : rt'.heap = rt.heap) : Ends Py_None 0 none rt rt' := by
  refine ⟨by rw [hheap], fun a ha => ?_, fun a ha ha' => ?_, fun a h => by cases h⟩
  · rw [hheap]
    simp
  · rw [hheap] at ha'
    omega

/-- The exit with an array that is released. -/
theorem bail_ends (hempty : rt.array = .zero) (hrun : bail rt = (.ret r, rt')) :
    Ends Py_None 0 r rt rt' := by
  obtain ⟨u, rt1, hclear, hrun⟩ := Run.ret_of_bind hrun
  cases hrun
  obtain ⟨-, hnext, hcount⟩ := xdecref_cleared hclear
  refine ⟨hnext.ge, fun a ha => ?_, fun a ha ha' => by omega, fun a h => by cases h⟩
  rw [hcount a, hempty]
  simp [pyobject_array_t.zero, pyobject_array_t.recorded]

theorem returnNone_ends (hrun : returnNone Py_None rt = (.ret r, rt')) :
    Ends Py_None 0 r rt rt' := by
  cases hrun
  refine ⟨le_rfl, fun a ha => ?_, fun a ha ha' => absurd ha' (by simpa using ha),
    fun a h => Or.inl (Option.some.inj h).symm⟩
  rw [Heap.incref_count]
  simp [eq_comm]

/-- The result is a new object. -/
theorem new_ends (hrun : (PyObject_New [] >>= fun self => pure (some self)) rt = (.ret r, rt')) :
    Ends Py_None 0 r rt rt' := by
  cases hrun
  refine ⟨Nat.le_succ _, fun a ha => ?_, fun a ha ha' => ?_,
    fun a h => Or.inr (Option.some.inj h).le⟩
  · rw [Heap.alloc_count_ne _ _ (by omega), if_neg (show some rt.heap.next ≠ some a by
      rw [Ne, Option.some.injEq]
      omega)]
    simp
  · have hself : a = rt.heap.next := by
      simp only [Heap.alloc_next] at ha'
      omega
    subst hself
    rw [Heap.alloc_count_self, if_pos rfl]

theorem returnNew_ends (hrun : returnNew answers rt = (.ret r, rt')) :
    Ends Py_None 0 r rt rt' := by
  unfold returnNew at hrun
  split at hrun
  · exact new_ends hrun
  · cases hrun

theorem returnString_ends {octets : Octets}
    (hrun : returnString answers octets rt = (.ret r, rt')) :
    Ends Py_None 0 r rt rt' := by
  unfold returnString at hrun
  split at hrun
  · cases hdecode : utf8Decode octets with
    | some text =>
      rw [hdecode] at hrun
      exact new_ends hrun
    | none =>
      rw [hdecode] at hrun
      cases hrun
      exact ends_same rfl
  · cases hrun

def RpcAnswers.closes (answers : RpcAnswers) : Nat :=
  memory.handleCloses (memory.reviveCloses answers.revivals) answers.reply

theorem handle_released {n : Int} (hrun : HandleAMQError Py_None answers rt = (.ret n, rt')) :
    Released Py_None answers.closes [] rt rt' :=
  memory.handle_closes (R := fun k => Released Py_None k []) Released.refl incref_released
    revive_released hrun

theorem Released.ends (h : Released Py_None k [] rt rt1) (hends : Ends Py_None 0 r rt1 rt') :
    Ends Py_None k r rt rt' := by
  refine ⟨h.next.ge.trans hends.next_le, fun a ha => ?_, fun a ha ha' => ?_, fun a hr => ?_⟩
  · rw [hends.old a (by rw [h.next]; exact ha), h.count a]
    simp
  · exact hends.new a (by rw [h.next]; exact ha) ha'
  · rw [← h.next]
    exact hends.result a hr

/-- What follows the reply: an error is handled, and the method leaves by its exit. -/
theorem answered_ends {result : Run Rt (Option Nat)} (hempty : rt.array = .zero)
    (hresult : ∀ {rt rt' : Rt} {r : Option Nat}, result rt = (.ret r, rt') →
      Ends Py_None 0 r rt rt')
    (hrun : (do
      let status ← HandleAMQError Py_None answers
      if status ≠ 0 then bail else result) rt = (.ret r, rt')) :
    Ends Py_None answers.closes r rt rt' := by
  obtain ⟨status, rt1, hhandle, hrun⟩ := Run.ret_of_bind hrun
  have hreleased := handle_released hhandle
  refine hreleased.ends ?_
  split at hrun
  · exact bail_ends (hreleased.array.trans hempty) hrun
  · exact hresult hrun

/-- A request clears the array before it looks at the reply. -/
def Requests (Py_None k : Nat) (request : List PyRef → Run Rt (Option Nat)) : Prop :=
  ∀ {names : List PyRef} {rt rt' : Rt} {r : Option Nat}, request names rt = (.ret r, rt') →
    ∃ rt1, Cleared rt rt1 ∧ Ends Py_None k r rt1 rt'

theorem names_read {names : List PyRef} : ∀ {rt rt' : Rt} {u : Unit},
    names.forM readName rt = (.ret u, rt') → rt' = rt := by
  induction names with
  | nil =>
    intro rt rt' u hrun
    cases hrun
    rfl
  | cons name rest ih =>
    intro rt rt' u hrun
    obtain ⟨u1, rt1, hread, hrun⟩ := Run.ret_of_bind hrun
    obtain ⟨self, b, -, hread⟩ := key_of_run hread
    cases hread
    exact ih hrun

theorem request_requests {result : Run Rt (Option Nat)}
    (hresult : ∀ {rt rt' : Rt} {r : Option Nat}, result rt = (.ret r, rt') →
      Ends Py_None 0 r rt rt') :
    Requests Py_None answers.closes fun names =>
      rpcMethod.request Py_None answers names result := by
  intro names rt rt' r hrun
  obtain ⟨u1, rt1, hread, hrun⟩ := Run.ret_of_bind hrun
  obtain ⟨u2, rt2, hclear, hrun⟩ := Run.ret_of_bind hrun
  have hcleared := xdecref_cleared hclear
  rw [names_read hread] at hcleared
  exact ⟨rt2, hcleared, answered_ends hcleared.array hresult hrun⟩

/-- `_queue_delete` looks at the reply only where `ok` is NULL. -/
theorem delete_requests : Requests Py_None (if answers.ok then 0 else answers.closes)
    fun names => PyRabbitMQ_Connection_queue_delete.request Py_None answers names := by
  intro names rt rt' r hrun
  obtain ⟨u1, rt1, hread, hrun⟩ := Run.ret_of_bind hrun
  obtain ⟨u2, rt2, hclear, hrun⟩ := Run.ret_of_bind hrun
  have hcleared := xdecref_cleared hclear
  rw [names_read hread] at hcleared
  refine ⟨rt2, hcleared, ?_⟩
  split at hrun
  · rename_i hok
    rw [if_pos hok]
    exact returnNew_ends hrun
  · rename_i hok
    rw [if_neg hok]
    exact answered_ends hcleared.array returnNew_ends hrun

/-! ## The methods as a whole -/

/-- Every object that was there has its count, with the references to `None` that the `closes`
have taken, and of the new ones only the result is left. -/
structure Accounts (Py_None closes : Nat) (h h' : Heap Octets) (r : Option Nat) : Prop where
  old : ∀ a, a < h.next → h'.count a =
    h.count a + (if a = Py_None then (closes : Int) else 0) + if r = some a then 1 else 0
  new : ∀ a, h.next ≤ a → a < h'.next → h'.count a = if r = some a then 1 else 0

/-- A conversion whose recorded objects were released. An object that was there may have lost
references, and a new one may be left over. -/
structure Converts (P : List Nat) (rt rt' : Rt) (b : Bool) : Prop where
  next_le : rt.heap.next ≤ rt'.heap.next
  falls : ∀ a, a < rt.heap.next → rt'.heap.count a ≤ rt.heap.count a
  frame : ∀ a, a < rt.heap.next → a ∉ P → rt'.heap.count a = rt.heap.count a
  left : ∀ a, rt.heap.next ≤ a → a < rt'.heap.next → 0 ≤ rt'.heap.count a
  neutral : b = true ↔ (∀ a, a < rt.heap.next → rt'.heap.count a = rt.heap.count a) ∧
    ∀ a, rt.heap.next ≤ a → a < rt'.heap.next → rt'.heap.count a = 0

theorem Makes.converts {b : Bool} (hempty : rt.array = .zero) (hmakes : Makes P rt rt1 b)
    (hcleared : Cleared rt1 rt2) : Converts P rt rt2 b := by
  have hnext := hcleared.next
  have hold : ∀ a, a < rt.heap.next → rt2.heap.count a = rt1.heap.count a := by
    intro a ha
    have hunrecorded : rt1.array.recorded.count a = 0 :=
      (hmakes.settles.moves.records a (Or.inl ha)).trans (by rw [hempty]; rfl)
    rw [hcleared.count a, hunrecorded]
    exact sub_zero _
  have hnew : ∀ a, rt.heap.next ≤ a → a < rt1.heap.next →
      0 ≤ rt2.heap.count a ∧ (Settled rt1 a ↔ rt2.heap.count a = 0) := by
    intro a ha ha'
    rw [hcleared.count a]
    unfold Settled
    rw [← List.count_eq_zero]
    rcases hmakes.fresh a ha ha' with ⟨hrecorded, hcount⟩ | ⟨hrecorded, hcount⟩ <;>
      rw [hrecorded] <;> omega
  refine ⟨hnext ▸ hmakes.settles.moves.next_le, fun a ha => ?_, fun a ha hnot => ?_,
    fun a ha ha' => (hnew a ha (hnext ▸ ha')).1, ?_⟩
  · exact (hold a ha).trans_le (hmakes.settles.moves.falls a ha)
  · exact (hold a ha).trans (hmakes.settles.moves.frame a ha hnot)
  · rw [← hmakes.settles.neutral, hnext]
    constructor
    · intro h
      exact ⟨fun a ha => (hold a ha).trans (h.kept a ha),
        fun a ha ha' => (hnew a ha ha').2.mp (h.settled a ha ha')⟩
    · rintro ⟨hkept, hgone⟩
      exact ⟨fun a ha => (hold a ha).symm.trans (hkept a ha),
        fun a ha ha' => (hnew a ha ha').2.mpr (hgone a ha ha')⟩

/-- What was made and recorded is released, and the method ends. -/
theorem cleared_accounts {b : Bool} (hempty : rt.array = .zero) (hnone : Py_None < rt.heap.next)
    (hmakes : Makes P rt rt1 b) (hcleared : Cleared rt1 rt2)
    (hends : Ends Py_None k r rt2 rt') :
    Accounts Py_None k rt.heap rt'.heap r ↔ b = true := by
  have hconverts := hmakes.converts hempty hcleared
  have hle := hconverts.next_le
  have hle' := hends.next_le
  have hold : ∀ a, a < rt.heap.next → rt'.heap.count a =
      rt2.heap.count a + (if a = Py_None then (k : Int) else 0) + if r = some a then 1 else 0 :=
    fun a ha => hends.old a (by omega)
  -- the result is none of the objects that the conversion has made
  have hreturned : ∀ a, rt.heap.next ≤ a → a < rt2.heap.next → r ≠ some a := by
    intro a ha ha' hr
    rcases hends.result a hr with rfl | hge
    · omega
    · omega
  have hmade : ∀ a, rt.heap.next ≤ a → a < rt2.heap.next →
      rt'.heap.count a = rt2.heap.count a := by
    intro a ha ha'
    rw [hends.old a ha', if_neg (by omega), if_neg (hreturned a ha ha')]
    omega
  rw [hconverts.neutral]
  constructor
  · intro h
    refine ⟨fun a ha => ?_, fun a ha ha' => ?_⟩
    · have := h.old a ha
      have := hold a ha
      omega
    · rw [← hmade a ha ha', h.new a ha (by omega), if_neg (hreturned a ha ha')]
  · rintro ⟨hkept, hgone⟩
    refine ⟨fun a ha => ?_, fun a ha ha' => ?_⟩
    · rw [hold a ha, hkept a ha]
    · by_cases hlt : a < rt2.heap.next
      · rw [if_neg (hreturned a ha hlt), hmade a ha hlt]
        exact hgone a ha hlt
      · exact hends.new a (by omega) ha'

/-- An exit before the request. -/
theorem bail_accounts {b : Bool} (hempty : rt.array = .zero) (hnone : Py_None < rt.heap.next)
    (hmakes : Makes P rt rt1 b) (hrun : bail rt1 = (.ret r, rt')) :
    Accounts Py_None 0 rt.heap rt'.heap r ↔ b = true := by
  obtain ⟨u, rt2, hclear, hpure⟩ := Run.ret_of_bind hrun
  cases hpure
  exact cleared_accounts hempty hnone hmakes (xdecref_cleared hclear) (ends_same rfl)

/-- The conversions of a method, up to its request, raise nothing. -/
def sends (answers : RpcAnswers) (names : List PyRef) : Option PyRef → Bool
  | none => names.all fun name => !refused name.obj
  | some (.dict _ members) => (names.all fun name => !refused name.obj) && answers.pool &&
      !membersRaise (memberObjs members)
  | some _ => false

/-- The method comes to the conversion of its arguments, and that is not neutral. -/
def slips (answers : RpcAnswers) (names : List PyRef) : Option PyRef → Bool
  | some (.dict _ members) => (names.all fun name => !refused name.obj) && answers.pool &&
      !membersBalance (memberObjs members)
  | _ => false

/-- The places of the arguments. -/
def argumentPlaces : Option PyRef → List (Nat × Option Octets)
  | some (.dict _ members) => memberPlaces members
  | _ => []

theorem table_refused {answers : RpcAnswers} {arguments : PyRef}
    {request : Run Rt (Option Nat)} (hno : ∀ self members, arguments ≠ .dict self members) :
    rpcMethod.table answers (some arguments) request = (do
      PyErr_Set (.raised (if answers.pool then .SystemError else .MemoryError))
      bail) := by
  unfold rpcMethod.table
  cases arguments with
  | dict self members => exact absurd rfl (hno self members)
  | _ => cases answers.pool <;> rfl

theorem refused_accounts {e : PyErr} (hempty : rt.array = .zero) (hnone : Py_None < rt.heap.next)
    (hknown : Known P rt) (hmakes : Makes P rt rt1 true)
    (hrun : (do
      PyErr_Set e
      bail) rt1 = (.ret r, rt')) : Accounts Py_None 0 rt.heap rt'.heap r := by
  obtain ⟨u, rt2, hset, hrun⟩ := Run.ret_of_bind hrun
  cases hset
  have hsame : Makes P rt { rt1 with err := some e } (true && true) :=
    hmakes.trans hknown (makes_same rfl rfl)
  exact (bail_accounts hempty hnone hsame hrun).mpr rfl

/-- From the conversion of a dict on. -/
theorem dict_accounts {members : PyRefMembers} {request : Run Rt (Option Nat)}
    (hempty : rt.array = .zero) (hnone : Py_None < rt.heap.next) (hknown : Known P rt)
    (hp : ∀ p ∈ memberPlaces members, p.1 ∈ P) (hmakes : Makes P rt rt1 true)
    (herr : rt1.err = none)
    (hrequest : ∀ {rt rt' : Rt} {r : Option Nat}, request rt = (.ret r, rt') →
      ∃ rt1, Cleared rt rt1 ∧ Ends Py_None k r rt1 rt')
    (hrun : (do
      let _ ← PyDict_ToAMQTable members
      let rt ← Run.get
      if rt.err.isSome then bail else request) rt1 = (.ret r, rt')) :
    Accounts Py_None (if membersRaise (memberObjs members) then 0 else k) rt.heap rt'.heap r ↔
      membersBalance (memberObjs members) = true := by
  obtain ⟨t, rt2, hloop, hrun⟩ := Run.ret_of_bind hrun
  have hknown1 := hknown.moves hmakes.settles.moves
  have hconverts : Makes P rt rt2 (true && membersBalance (memberObjs members)) :=
    hmakes.trans hknown ⟨members_settle members hp hknown1 hloop,
      members_fresh members hp hknown1 hloop⟩
  rw [Bool.true_and] at hconverts
  rw [Run.get_bind_apply, table_raises herr hloop] at hrun
  cases hraise : membersRaise (memberObjs members) with
  | true =>
    rw [hraise, if_pos rfl] at hrun
    exact bail_accounts hempty hnone hconverts hrun
  | false =>
    rw [hraise, if_neg Bool.false_ne_true] at hrun
    obtain ⟨rt3, hcleared, hends⟩ := hrequest hrun
    exact cleared_accounts hempty hnone hconverts hcleared hends

/-- From the table of arguments on. -/
theorem table_accounts {names : List PyRef} {arguments : Option PyRef}
    {request : Run Rt (Option Nat)} (hempty : rt.array = .zero) (hnone : Py_None < rt.heap.next)
    (hknown : Known P rt) (hp : ∀ p ∈ argumentPlaces arguments, p.1 ∈ P)
    (hmakes : Makes P rt rt1 true) (herr : rt1.err = none)
    (htaken : (names.all fun name => !refused name.obj) = true)
    (hrequest : ∀ {rt rt' : Rt} {r : Option Nat}, request rt = (.ret r, rt') →
      ∃ rt1, Cleared rt rt1 ∧ Ends Py_None k r rt1 rt')
    (hrun : rpcMethod.table answers arguments request rt1 = (.ret r, rt')) :
    Accounts Py_None (if sends answers names arguments then k else 0) rt.heap rt'.heap r ↔
      slips answers names arguments = false := by
  cases arguments with
  | none =>
    obtain ⟨rt2, hcleared, hends⟩ := hrequest hrun
    rw [sends, if_pos htaken, cleared_accounts hempty hnone hmakes hcleared hends]
    exact iff_of_true rfl rfl
  | some arguments =>
    by_cases hdict : ∃ self members, arguments = .dict self members
    · obtain ⟨self, members, rfl⟩ := hdict
      rw [sends, slips, htaken, Bool.true_and]
      cases hpool : answers.pool with
      | false =>
        rw [rpcMethod.table, hpool, if_neg Bool.false_ne_true] at hrun
        exact iff_of_true (refused_accounts hempty hnone hknown hmakes hrun) rfl
      | true =>
        rw [rpcMethod.table, hpool, if_pos rfl] at hrun
        have hdict := dict_accounts hempty hnone hknown hp hmakes herr hrequest hrun
        cases hraise : membersRaise (memberObjs members) with
        | true =>
          rw [hraise] at hdict
          simpa using hdict
        | false =>
          rw [hraise] at hdict
          simpa using hdict
    · have hno : ∀ self members, arguments ≠ .dict self members :=
        fun self members h => hdict ⟨self, members, h⟩
      rw [table_refused hno] at hrun
      have hnothing : sends answers names (some arguments) = false ∧
          slips answers names (some arguments) = false := by
        cases arguments with
        | dict self members => exact absurd rfl (hno self members)
        | _ => exact ⟨rfl, rfl⟩
      rw [hnothing.1, hnothing.2]
      exact iff_of_true (refused_accounts hempty hnone hknown hmakes hrun) rfl

/-- A method from its first name on. -/
theorem rpc_accounts {names : List PyRef} {arguments : Option PyRef}
    {request : List PyRef → Run Rt (Option Nat)} (hempty : rt.array = .zero)
    (hnone : Py_None < rt.heap.next) (herr : rt.err = none)
    (hgiven : ∀ p ∈ argumentPlaces arguments, p.1 < rt.heap.next)
    (hrequest : Requests Py_None k request)
    (hrun : rpcMethod answers names arguments request rt = (.ret r, rt')) :
    Accounts Py_None (if sends answers names arguments then k else 0) rt.heap rt'.heap r ↔
      slips answers names arguments = false := by
  have hknown : Known ((argumentPlaces arguments).map Prod.fst) rt := by
    refine ⟨fun a ha => ?_, fun a ha => ?_⟩
    · obtain ⟨p, hp, rfl⟩ := List.mem_map.mp ha
      exact hgiven p hp
    · rw [hempty] at ha
      cases ha
  obtain ⟨o, rt1, hnames, hrun⟩ := Run.ret_of_bind hrun
  obtain ⟨hsettles, hsince⟩ := names_leave names hknown hnames
  have hmakes : Makes _ rt rt1 true := ⟨hsettles, hsince.fresh_all hknown⟩
  obtain ⟨hany, herr'⟩ := names_taken names hnames
  have hall : (names.all fun name => !refused name.obj) = o.isSome := by
    rw [← List.not_any_eq_all_not, ← hany]
    cases o <;> rfl
  cases o with
  | none =>
    have hnothing : sends answers names arguments = false ∧
        slips answers names arguments = false := by
      unfold sends slips
      rw [hall]
      cases arguments with
      | none => exact ⟨rfl, rfl⟩
      | some arguments => cases arguments <;> exact ⟨rfl, rfl⟩
    rw [hnothing.1, hnothing.2, if_neg (by simp), bail_accounts hempty hnone hmakes hrun]
    simp
  | some objs =>
    exact table_accounts hempty hnone hknown (fun p hp => List.mem_map_of_mem hp) hmakes
      ((herr' rfl).trans herr) hall hrequest hrun

end

/-! ## The requests -/

/-- A method that sends a request, with its arguments that are objects. `answered` is the tag of
the consume-ok. -/
inductive Request where
  | queue_bind (queue exchange routing_key arguments : PyRef)
  | queue_unbind (queue exchange routing_key arguments : PyRef)
  | queue_delete (queue : PyRef)
  | queue_declare (queue arguments : PyRef)
  | queue_purge (queue : PyRef)
  | exchange_declare (exchange type arguments : PyRef)
  | exchange_delete (exchange : PyRef)
  | basic_cancel (consumer_tag : PyRef)
  | basic_consume (answered : Octets) (queue consumer_tag arguments : PyRef)

namespace Request

def run (Py_None : Nat) (answers : RpcAnswers) (calling : Calling) :
    Request → Run Rt (Option Nat)
  | queue_bind queue exchange routing_key arguments =>
    PyRabbitMQ_Connection_queue_bind Py_None answers calling queue exchange routing_key arguments
  | queue_unbind queue exchange routing_key arguments =>
    PyRabbitMQ_Connection_queue_unbind Py_None answers calling queue exchange routing_key arguments
  | queue_delete queue => PyRabbitMQ_Connection_queue_delete Py_None answers calling queue
  | queue_declare queue arguments =>
    PyRabbitMQ_Connection_queue_declare Py_None answers calling queue arguments
  | queue_purge queue => PyRabbitMQ_Connection_queue_purge Py_None answers calling queue
  | exchange_declare exchange type arguments =>
    PyRabbitMQ_Connection_exchange_declare Py_None answers calling exchange type arguments
  | exchange_delete exchange =>
    PyRabbitMQ_Connection_exchange_delete Py_None answers calling exchange
  | basic_cancel consumer_tag =>
    PyRabbitMQ_Connection_basic_cancel Py_None answers calling consumer_tag
  | basic_consume answered queue consumer_tag arguments =>
    PyRabbitMQ_Connection_basic_consume Py_None answers calling answered queue consumer_tag
      arguments

def names : Request → List PyRef
  | queue_bind queue exchange routing_key _ => [queue, exchange, routing_key]
  | queue_unbind queue exchange routing_key _ => [queue, exchange, routing_key]
  | queue_delete queue => [queue]
  | queue_declare queue _ => [queue]
  | queue_purge queue => [queue]
  | exchange_declare exchange type _ => [exchange, type]
  | exchange_delete exchange => [exchange]
  | basic_cancel consumer_tag => [consumer_tag]
  | basic_consume _ queue consumer_tag _ => [queue, consumer_tag]

def arguments : Request → Option PyRef
  | queue_bind _ _ _ arguments => some arguments
  | queue_unbind _ _ _ arguments => some arguments
  | queue_declare _ arguments => some arguments
  | exchange_declare _ _ arguments => some arguments
  | basic_consume _ _ _ arguments => some arguments
  | _ => none

/-- `_queue_delete` does not look at the reply where `ok` is not NULL. -/
def closesSent (answers : RpcAnswers) : Request → Nat
  | queue_delete _ => if answers.ok then 0 else answers.closes
  | _ => answers.closes

/-- The closes that the handlers make. -/
def closes (answers : RpcAnswers) (calling : Calling) (request : Request) : Nat :=
  if calling.connected && calling.parsed &&
      sends answers request.names request.arguments then request.closesSent answers
  else 0

/-- The method converts its arguments, and loses references in them. -/
def Slips (answers : RpcAnswers) (calling : Calling) (request : Request) : Prop :=
  (calling.connected && calling.parsed && slips answers request.names request.arguments) = true

end Request

section

variable {Py_None k : Nat} {r : Option Nat} {answers : RpcAnswers} {calling : Calling}

theorem checked_accounts {unconnected : Run Rt (Option Nat)} {names : List PyRef}
    {arguments : Option PyRef} {request : List PyRef → Run Rt (Option Nat)}
    (hnone : Py_None < rt.heap.next) (herr : rt.err = none)
    (hgiven : ∀ p ∈ argumentPlaces arguments, p.1 < rt.heap.next)
    (hunconnected : ∀ {rt rt' : Rt} {r : Option Nat}, rt.array = .zero →
      unconnected rt = (.ret r, rt') → Ends Py_None 0 r rt rt')
    (hrequest : Requests Py_None k request)
    (hrun : checked calling unconnected (rpcMethod answers names arguments request) rt =
      (.ret r, rt')) :
    Accounts Py_None (if calling.connected && calling.parsed && sends answers names arguments
      then k else 0) rt.heap rt'.heap r ↔
      ¬ (calling.connected && calling.parsed && slips answers names arguments) = true := by
  obtain ⟨u, rt0, hmodify, hrun⟩ := Run.ret_of_bind hrun
  obtain ⟨hheap, hempty, herr0⟩ : rt.heap = rt0.heap ∧ rt0.array = .zero ∧ rt0.err = none := by
    cases hmodify
    exact ⟨rfl, rfl, herr⟩
  rw [hheap] at hnone hgiven ⊢
  have hcleared : Cleared rt0 rt0 := ⟨hempty, rfl, fun x => by
    rw [hempty]
    simp [pyobject_array_t.zero, pyobject_array_t.recorded]⟩
  have hstart : Makes [] rt0 rt0 true := makes_same rfl rfl
  cases hconnected : calling.connected with
  | false =>
    rw [hconnected, if_neg Bool.false_ne_true] at hrun
    rw [if_neg (by simp), cleared_accounts hempty hnone hstart hcleared
      (hunconnected hempty hrun)]
    simp
  | true =>
    rw [hconnected, if_pos rfl] at hrun
    cases hparsed : calling.parsed with
    | false =>
      rw [hparsed, if_neg Bool.false_ne_true] at hrun
      rw [if_neg (by simp), cleared_accounts hempty hnone hstart hcleared (bail_ends hempty hrun)]
      simp
    | true =>
      rw [hparsed, if_pos rfl] at hrun
      rw [Bool.true_and, Bool.true_and, rpc_accounts hempty hnone herr0 hgiven hrequest hrun]
      simp

/-- After every return of a method that sends a request each object has its count, with one
reference to `None` for each close that the handlers make, and of what was made only the result is
left, if and only if the conversion of the arguments, where the method comes to it, is neutral. -/
theorem the_references_of_a_request_are_accounted_exactly_without_a_slip {request : Request}
    (hnone : Py_None < rt.heap.next) (herr : rt.err = none)
    (hgiven : ∀ p ∈ argumentPlaces request.arguments, p.1 < rt.heap.next)
    (hrun : request.run Py_None answers calling rt = (.ret r, rt')) :
    Accounts Py_None (request.closes answers calling) rt.heap rt'.heap r ↔
      ¬ request.Slips answers calling := by
  unfold Request.closes Request.Slips
  cases request with
  | queue_delete queue =>
    exact checked_accounts hnone herr hgiven bail_ends delete_requests hrun
  | queue_declare queue arguments =>
    exact checked_accounts hnone herr hgiven bail_ends (request_requests returnNew_ends) hrun
  | queue_purge queue =>
    exact checked_accounts hnone herr hgiven bail_ends (request_requests returnNew_ends) hrun
  | basic_cancel consumer_tag =>
    exact checked_accounts hnone herr hgiven (fun _ => returnNone_ends)
      (request_requests returnNone_ends) hrun
  | basic_consume answered queue consumer_tag arguments =>
    exact checked_accounts hnone herr hgiven bail_ends (request_requests returnString_ends) hrun
  | _ => exact checked_accounts hnone herr hgiven bail_ends (request_requests returnNone_ends) hrun

end

/-- A declare with one argument, of a queue `q` on a connection that is up. -/
def declare (value : PyRef) : Request :=
  .queue_declare (.str 1 (pyStr "q")) (.dict 2 [((3, .str (pyStr "x")), value)])

/-- A declare is refused by a `channel.close`, and the channel cannot be revived: one reference to
`None` is dropped. One with an empty list loses the iterator. -/
theorem a_declare_is_refused_and_one_loses_an_iterator :
    (∃ rt', (declare (.int 4 7)).run 0
        ⟨true, false, .server_exception (.channel_close ⟨404, []⟩), [(-1, .none)]⟩ ⟨true, true⟩
        (startOf 5) = (.ret none, rt') ∧
      Accounts 0 1 (startOf 5).heap rt'.heap none) ∧
    ∃ rt', (declare (.list 4 [])).run 0
        ⟨true, true, .normal (.other 0x0032000B), []⟩ ⟨true, true⟩ (startOf 5) =
          (.ret (some 8), rt') ∧
      ¬ Accounts 0 0 (startOf 5).heap rt'.heap (some 8) := by
  refine ⟨⟨_, run_of_fst (by decide +kernel), ?_⟩, _, run_of_fst (by decide +kernel), fun h => ?_⟩
  · refine (@the_references_of_a_request_are_accounted_exactly_without_a_slip (startOf 5) _ 0 none
      ⟨true, false, .server_exception (.channel_close ⟨404, []⟩), [(-1, .none)]⟩ ⟨true, true⟩
      (declare (.int 4 7)) (by decide) rfl (by decide +kernel)
      (run_of_fst (by decide +kernel))).mpr ?_
    unfold Request.Slips
    decide +kernel
  · refine (@the_references_of_a_request_are_accounted_exactly_without_a_slip
      (startOf 5) _ 0 (some 8) ⟨true, true, .normal (.other 0x0032000B), []⟩ ⟨true, true⟩
      (declare (.list 4 [])) (by decide) rfl (by decide +kernel) (run_of_fst (by decide +kernel))).mp h ?_
    unfold Request.Slips
    decide +kernel

end librabbitmq.ownership
