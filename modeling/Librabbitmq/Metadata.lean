-- The metadata of a received message: what the decoders make of octets that any client may
-- have sent. A string that is no UTF-8 is NULL where it is a key or a property, a slot of a list
-- where it is an item, and `None` with an exception pending where it is the value of a table.
import Librabbitmq.PropertyFields
import Librabbitmq.Cancellation

namespace librabbitmq.metadata

open property_fields body_loop recv_run delivery cancellation

variable {σ κ : Type}

/-! ## What a complete decoding is -/

mutual

/-- A Python value with no NULL slot at any depth. -/
def NoNull : PyObj → Prop
  | .null => False
  | .dict members => NoNullMembers members
  | .list items => NoNullItems items
  | .tuple items => NoNullItems items
  | _ => True

def NoNullMembers : PyMembers → Prop
  | [] => True
  | (_, value) :: rest => NoNull value ∧ NoNullMembers rest

def NoNullItems : List PyObj → Prop
  | [] => True
  | item :: rest => NoNull item ∧ NoNullItems rest

end

mutual

/-- The value has all of the field. -/
def FieldDone : amqp_field_value_t → PyObj → Prop
  | .utf8 b, o => ∃ s, utf8Decode b = some s ∧ o = .str s
  | .table t, o => ∃ d, o = .dict d ∧ TableDone t d
  | .array a, o => ∃ l, o = .list l ∧ ArrayDone a l
  | _, _ => True

/-- The dict has an entry for every key of the table. Of two entries with one key the last
one counts. -/
def TableDone : amqp_table_t → PyMembers → Prop
  | [], _ => True
  | (k, v) :: rest, d =>
    (∃ s o, utf8Decode k = some s ∧ d.lookup (.str s) = some o ∧
      (k ∉ rest.map Prod.fst → FieldDone v o)) ∧ TableDone rest d

/-- The list has an item for every element of the array. -/
def ArrayDone : amqp_array_t → List PyObj → Prop
  | [], l => l = []
  | v :: rest, l => ∃ o items, l = o :: items ∧ FieldDone v o ∧ ArrayDone rest items

end

theorem noNullMembers_iff {d : PyMembers} : NoNullMembers d ↔ ∀ e ∈ d, NoNull e.2 := by
  induction d with
  | nil => simp [NoNullMembers]
  | cons e d ih => simp [NoNullMembers, ih]

theorem noNullMembers_set {d : PyMembers} {k : PyKey} {v : PyObj} (hd : NoNullMembers d)
    (hv : NoNull v) : NoNullMembers (Dict.set d k v) := by
  induction d with
  | nil => exact ⟨hv, trivial⟩
  | cons e d ih =>
    unfold Dict.set
    by_cases hk : e.1 = k
    · rw [if_pos hk]
      exact ⟨hv, hd.2⟩
    · rw [if_neg hk]
      exact ⟨hd.1, ih hd.2⟩

/-! ## Text is decoded completely -/

/-- What a value of a table is stored as. -/
def storedValue : PyObj → PyObj
  | .null => .none
  | o => o

/-- One entry of a table. -/
theorem table_entry_eq (dict : PyMembers) (k : Octets) (v : amqp_field_value_t)
    (rest : amqp_table_t) (err : Option PyErr) :
    AMQTable_toPyDict.loop dict ((k, v) :: rest) err = AMQTable_toPyDict.value v err >>= fun r =>
      PyDict_SetItem dict (PySTRING_FROM_AMQBYTES k r.2).1 (storedValue r.1) >>= fun dict =>
        AMQTable_toPyDict.loop dict rest (PySTRING_FROM_AMQBYTES k r.2).2 := by
  rw [AMQTable_toPyDict.loop]
  refine bind_congr fun ⟨o, err1⟩ => ?_
  cases o <;> rfl

/-- One entry of a table whose value and key are decoded. -/
theorem table_entry_stored {k : Octets} {v : amqp_field_value_t} {err : Option PyErr} {o : PyObj}
    {s : PyStr} (ho : AMQTable_toPyDict.value v err = .ret (o, err)) (hs : utf8Decode k = some s)
    (dict : PyMembers) (rest : amqp_table_t) :
    AMQTable_toPyDict.loop dict ((k, v) :: rest) err =
      AMQTable_toPyDict.loop (Dict.set dict (.str s) (storedValue o)) rest err := by
  have hkey : PySTRING_FROM_AMQBYTES k err = (.str s, err) := by
    unfold PySTRING_FROM_AMQBYTES PyUnicode_FromStringAndSize
    rw [hs]
  rw [table_entry_eq, ho, Outcome.ret_bind]
  dsimp only
  rw [hkey]
  cases o <;> rfl

/-- The keys of a table decode to other keys. -/
def NoKeyOf (t : amqp_table_t) (key : PyKey) : Prop :=
  ∀ e ∈ t, ∀ s, utf8Decode e.1 = some s → key ≠ .str s

theorem noKeyOf_of_not_mem {k : Octets} {s : PyStr} (hs : utf8Decode k = some s)
    {t : amqp_table_t} (h : k ∉ t.map Prod.fst) : NoKeyOf t (.str s) := by
  intro e he s' hs' heq
  cases heq
  have hk := utf8Encode_utf8Decode hs
  rw [utf8Encode_utf8Decode hs'] at hk
  cases hk
  exact h (List.mem_map_of_mem he)

/-- A table that has an entry for a key has one in the dict. -/
theorem TableDone.lookup {t : amqp_table_t} {d : PyMembers} (h : TableDone t d) {k : Octets}
    {s : PyStr} (hs : utf8Decode k = some s) (hk : k ∈ t.map Prod.fst) :
    ∃ o, d.lookup (.str s) = some o := by
  induction t with
  | nil => cases hk
  | cons e t ih =>
    obtain ⟨⟨s', o, hs', ho, _⟩, hrest⟩ := h
    rcases List.mem_cons.mp hk with hk | hk
    · rw [← hk, hs] at hs'
      cases hs'
      exact ⟨o, ho⟩
    · exact ih hrest hk

mutual

theorem tableValue_done (v : amqp_field_value_t) (h : v.IsUtf8) (err : Option PyErr) :
    ∃ o, AMQTable_toPyDict.value v err = .ret (o, err) ∧ NoNull (storedValue o) ∧
      FieldDone v (storedValue o) := by
  cases v with
  | utf8 b =>
    obtain ⟨s, hs⟩ := Option.isSome_iff_exists.mp h
    refine ⟨.str s, ?_, trivial, s, hs, rfl⟩
    rw [AMQTable_toPyDict.value, PySTRING_FROM_AMQBYTES, PyUnicode_FromStringAndSize, hs]
  | table t =>
    obtain ⟨d, hd, hnull, hdone, _⟩ := table_done t h [] trivial err
    exact ⟨.dict d, by rw [AMQTable_toPyDict.value, hd]; rfl, hnull, d, rfl, hdone⟩
  | array a =>
    obtain ⟨l, hl, hnull, hdone⟩ := array_done a h [] err
    exact ⟨.list l, by rw [AMQTable_toPyDict.value, hl]; rfl, hnull, l, rfl, hdone⟩
  | _ =>
    refine ⟨_, by rw [AMQTable_toPyDict.value], ?_, trivial⟩
    exact trivial

theorem arrayValue_done (v : amqp_field_value_t) (h : v.IsUtf8) (err : Option PyErr) :
    ∃ o, AMQArray_toPyList.value v err = .ret (o, err) ∧ NoNull o ∧ FieldDone v o := by
  cases v with
  | utf8 b =>
    obtain ⟨s, hs⟩ := Option.isSome_iff_exists.mp h
    refine ⟨.str s, ?_, trivial, s, hs, rfl⟩
    rw [AMQArray_toPyList.value, PySTRING_FROM_AMQBYTES, PyUnicode_FromStringAndSize, hs]
  | table t =>
    obtain ⟨d, hd, hnull, hdone, _⟩ := table_done t h [] trivial err
    exact ⟨.dict d, by rw [AMQArray_toPyList.value, hd]; rfl, hnull, d, rfl, hdone⟩
  | array a =>
    obtain ⟨l, hl, hnull, hdone⟩ := array_done a h [] err
    exact ⟨.list l, by rw [AMQArray_toPyList.value, hl]; rfl, hnull, l, rfl, hdone⟩
  | _ =>
    refine ⟨_, by rw [AMQArray_toPyList.value], ?_, trivial⟩
    exact trivial

theorem table_done (t : amqp_table_t) (h : TableIsUtf8 t) (dict : PyMembers)
    (hdict : NoNullMembers dict) (err : Option PyErr) :
    ∃ d, AMQTable_toPyDict.loop dict t err = .ret (d, err) ∧ NoNullMembers d ∧ TableDone t d ∧
      ∀ key, NoKeyOf t key → d.lookup key = dict.lookup key := by
  cases t with
  | nil => exact ⟨dict, by rw [AMQTable_toPyDict.loop], hdict, trivial, fun _ _ => rfl⟩
  | cons e rest =>
    obtain ⟨k, v⟩ := e
    obtain ⟨hk, hv, hrest⟩ := h
    obtain ⟨s, hs⟩ := Option.isSome_iff_exists.mp hk
    obtain ⟨o, ho, hnull, hdone⟩ := tableValue_done v hv err
    obtain ⟨d, hd, hnull', hdone', hsame⟩ := table_done rest hrest _
      (noNullMembers_set (k := .str s) hdict hnull) err
    refine ⟨d, (table_entry_stored ho hs dict rest).trans hd, hnull', ⟨?_, hdone'⟩, ?_⟩
    · by_cases hmem : k ∈ rest.map Prod.fst
      · obtain ⟨o', ho'⟩ := hdone'.lookup hs hmem
        exact ⟨s, o', hs, ho', fun hnot => absurd hmem hnot⟩
      · have hlast := hsame (.str s) (noKeyOf_of_not_mem hs hmem)
        rw [Dict.lookup_set_self] at hlast
        exact ⟨s, _, hs, hlast, fun _ => hdone⟩
    · intro key hkey
      rw [hsame key fun e he => hkey e (List.mem_cons_of_mem _ he)]
      exact Dict.lookup_set_ne dict _ (hkey (k, v) (by simp) s hs)

theorem array_done (a : amqp_array_t) (h : ArrayIsUtf8 a) (list : List PyObj)
    (err : Option PyErr) :
    ∃ l, AMQArray_toPyList.loop list a err = .ret (list ++ l, err) ∧ NoNullItems l ∧
      ArrayDone a l := by
  cases a with
  | nil => exact ⟨[], by rw [AMQArray_toPyList.loop, List.append_nil], trivial, rfl⟩
  | cons v rest =>
    obtain ⟨o, ho, hnull, hdone⟩ := arrayValue_done v h.1 err
    obtain ⟨l, hl, hnull', hdone'⟩ := array_done rest h.2 (list ++ [o]) err
    refine ⟨o :: l, ?_, ⟨hnull, hnull'⟩, o, l, rfl, hdone, hdone'⟩
    rw [AMQArray_toPyList.loop, ho, Outcome.ret_bind]
    dsimp only
    rw [hl, List.append_assoc]
    rfl

end

/-! ## Only text is decoded without an exception -/

theorem areUtf8_of_quiet {b : Octets} {err : Option PyErr} {o : PyObj}
    (h : PySTRING_FROM_AMQBYTES b err = (o, none)) : err = none ∧ AreUtf8 b := by
  unfold PySTRING_FROM_AMQBYTES PyUnicode_FromStringAndSize at h
  cases hs : utf8Decode b with
  | some s =>
    rw [hs] at h
    cases h
    exact ⟨rfl, by simp [AreUtf8, hs]⟩
  | none =>
    rw [hs] at h
    cases h

mutual

theorem tableValue_quiet (v : amqp_field_value_t) {err : Option PyErr} {o : PyObj}
    (h : AMQTable_toPyDict.value v err = .ret (o, none)) : err = none ∧ v.IsUtf8 := by
  cases v with
  | utf8 b =>
    rw [AMQTable_toPyDict.value] at h
    exact areUtf8_of_quiet (Outcome.ret.inj h)
  | table t =>
    rw [AMQTable_toPyDict.value] at h
    obtain ⟨⟨d, err'⟩, hd, hret⟩ := Outcome.ret_of_bind h
    cases hret
    exact table_quiet t hd
  | array a =>
    rw [AMQTable_toPyDict.value] at h
    obtain ⟨⟨l, err'⟩, hl, hret⟩ := Outcome.ret_of_bind h
    cases hret
    exact array_quiet a hl
  | _ =>
    rw [AMQTable_toPyDict.value] at h
    cases h
    exact ⟨rfl, trivial⟩

theorem arrayValue_quiet (v : amqp_field_value_t) {err : Option PyErr} {o : PyObj}
    (h : AMQArray_toPyList.value v err = .ret (o, none)) : err = none ∧ v.IsUtf8 := by
  cases v with
  | utf8 b =>
    rw [AMQArray_toPyList.value] at h
    exact areUtf8_of_quiet (Outcome.ret.inj h)
  | table t =>
    rw [AMQArray_toPyList.value] at h
    obtain ⟨⟨d, err'⟩, hd, hret⟩ := Outcome.ret_of_bind h
    cases hret
    exact table_quiet t hd
  | array a =>
    rw [AMQArray_toPyList.value] at h
    obtain ⟨⟨l, err'⟩, hl, hret⟩ := Outcome.ret_of_bind h
    cases hret
    exact array_quiet a hl
  | _ =>
    rw [AMQArray_toPyList.value] at h
    cases h
    exact ⟨rfl, trivial⟩

theorem table_quiet (t : amqp_table_t) {dict d : PyMembers} {err : Option PyErr}
    (h : AMQTable_toPyDict.loop dict t err = .ret (d, none)) : err = none ∧ TableIsUtf8 t := by
  cases t with
  | nil =>
    rw [AMQTable_toPyDict.loop] at h
    cases h
    exact ⟨rfl, trivial⟩
  | cons e rest =>
    obtain ⟨k, v⟩ := e
    rw [table_entry_eq] at h
    obtain ⟨⟨o, err1⟩, ho, h⟩ := Outcome.ret_of_bind h
    obtain ⟨dict', _, h⟩ := Outcome.ret_of_bind h
    obtain ⟨herr2, hrest⟩ := table_quiet rest h
    have hkey : PySTRING_FROM_AMQBYTES k err1 = ((PySTRING_FROM_AMQBYTES k err1).1, none) :=
      Prod.ext rfl herr2
    obtain ⟨rfl, hk⟩ := areUtf8_of_quiet hkey
    obtain ⟨rfl, hv⟩ := tableValue_quiet v ho
    exact ⟨rfl, hk, hv, hrest⟩

theorem array_quiet (a : amqp_array_t) {list l : List PyObj} {err : Option PyErr}
    (h : AMQArray_toPyList.loop list a err = .ret (l, none)) : err = none ∧ ArrayIsUtf8 a := by
  cases a with
  | nil =>
    rw [AMQArray_toPyList.loop] at h
    cases h
    exact ⟨rfl, trivial⟩
  | cons v rest =>
    rw [AMQArray_toPyList.loop] at h
    obtain ⟨⟨o, err1⟩, ho, h⟩ := Outcome.ret_of_bind h
    dsimp only at h
    obtain ⟨rfl, hrest⟩ := array_quiet rest h
    obtain ⟨rfl, hv⟩ := arrayValue_quiet v ho
    exact ⟨rfl, hv, hrest⟩

end

/-- A string property that is no UTF-8 is a NULL, too. -/
theorem setProperty_text {flag : Bool} {b : Octets} {name : String} {p : PyMembers}
    {err : Option PyErr} {r : PyMembers × Option PyErr}
    (h : setProperty flag name (PySTRING_FROM_AMQBYTES b err) p err = .ret r) :
    (flag = true → AreUtf8 b) ∧ r.2 = err := by
  unfold setProperty at h
  cases flag with
  | false =>
    cases h
    exact ⟨fun hf => absurd hf Bool.false_ne_true, rfl⟩
  | true =>
    unfold PySTRING_FROM_AMQBYTES PyUnicode_FromStringAndSize at h
    cases hs : utf8Decode b with
    | none =>
      rw [hs] at h
      cases h
    | some s =>
      rw [hs] at h
      cases h
      exact ⟨fun _ => by simp [AreUtf8, hs], rfl⟩

theorem setProperty_number {flag : Bool} {n : Int} {name : String} {p : PyMembers}
    {err : Option PyErr} {r : PyMembers × Option PyErr}
    (h : setProperty flag name (.int n, err) p err = .ret r) : r.2 = err := by
  unfold setProperty at h
  cases flag <;> cases h <;> rfl

/-- Properties that are decoded at all are UTF-8 up to the values of their headers, and those
are if no exception is pending. -/
theorem isUtf8_of_decoded {props : amqp_basic_properties_t} {pd : PyMembers}
    (h : basic_properties_to_PyDict props [] none = .ret (pd, none)) : props.IsUtf8 := by
  unfold basic_properties_to_PyDict at h
  obtain ⟨⟨p1, err1⟩, h1, h⟩ := Outcome.ret_of_bind h
  obtain ⟨t1, rfl⟩ := setProperty_text h1
  obtain ⟨⟨p2, err2⟩, h2, h⟩ := Outcome.ret_of_bind h
  obtain ⟨t2, rfl⟩ := setProperty_text h2
  obtain ⟨⟨p3, err3⟩, h3, h⟩ := Outcome.ret_of_bind h
  obtain ⟨t3, rfl⟩ := setProperty_text h3
  obtain ⟨⟨p4, err4⟩, h4, h⟩ := Outcome.ret_of_bind h
  obtain ⟨t4, rfl⟩ := setProperty_text h4
  obtain ⟨⟨p5, err5⟩, h5, h⟩ := Outcome.ret_of_bind h
  obtain ⟨t5, rfl⟩ := setProperty_text h5
  obtain ⟨⟨p6, err6⟩, h6, h⟩ := Outcome.ret_of_bind h
  obtain ⟨t6, rfl⟩ := setProperty_text h6
  obtain ⟨⟨p7, err7⟩, h7, h⟩ := Outcome.ret_of_bind h
  obtain ⟨t7, rfl⟩ := setProperty_text h7
  obtain ⟨⟨p8, err8⟩, h8, h⟩ := Outcome.ret_of_bind h
  obtain ⟨t8, rfl⟩ := setProperty_text h8
  obtain ⟨⟨p9, err9⟩, h9, h⟩ := Outcome.ret_of_bind h
  obtain ⟨t9, rfl⟩ := setProperty_text h9
  obtain ⟨⟨p10, err10⟩, h10, h⟩ := Outcome.ret_of_bind h
  obtain rfl := setProperty_number h10
  obtain ⟨⟨p11, err11⟩, h11, h⟩ := Outcome.ret_of_bind h
  obtain rfl := setProperty_number h11
  obtain ⟨⟨p12, err12⟩, h12, h⟩ := Outcome.ret_of_bind h
  obtain rfl := setProperty_number h12
  refine ⟨t1, t2, t3, t4, t5, t6, t7, t8, t9, fun hflag => ?_⟩
  dsimp only at h
  rw [if_pos hflag] at h
  obtain ⟨⟨d, err13⟩, hd, h⟩ := Outcome.ret_of_bind h
  cases h
  exact (table_quiet props.headers hd).2

/-! ## A received message -/

/-- What comes with a message: the method that announces it, and its header. -/
inductive Metadata where
  | deliver (m : amqp_basic_deliver_t) (props : amqp_basic_properties_t)
  | get (ok : amqp_basic_get_ok_t) (props : amqp_basic_properties_t)

def Metadata.props : Metadata → amqp_basic_properties_t
  | .deliver _ props => props
  | .get _ props => props

def Metadata.exchange : Metadata → Octets
  | .deliver m _ => m.exchange
  | .get ok _ => ok.exchange

def Metadata.routing_key : Metadata → Octets
  | .deliver m _ => m.routing_key
  | .get ok _ => ok.routing_key

/-- Only a delivery has a consumer tag. -/
def Metadata.consumer_tag : Metadata → Option Octets
  | .deliver m _ => some m.consumer_tag
  | .get _ _ => none

/-- What is decoded of the method. -/
def Metadata.decodeMethod : Metadata → Run (World σ κ) PyMembers
  | .deliver m _ => do
    let (_, delivery_info) ← PyRabbitMQ_recv.delivery m
    return delivery_info
  | .get ok _ => withErr fun err =>
    amqp_basic_deliver_to_PyDict [] ok.delivery_tag ok.exchange ok.routing_key ok.redelivered err

/-- The method, and then the header. -/
def Metadata.decode (md : Metadata) : Run (World σ κ) (PyMembers × PyMembers) := do
  let delivery_info ← md.decodeMethod
  let propdict ← withErr (basic_properties_to_PyDict md.props [])
  return (delivery_info, propdict)

/-- The run reads this method and this header. -/
inductive Receives (env : Env σ κ) (w : World σ κ) : Metadata → Mode → Prop
  | deliver {skipped : List amqp_frame_t} {f h : amqp_frame_t} {m : amqp_basic_deliver_t}
      {s0 s1 s2 : σ} {t : BitVec 64} {props : amqp_basic_properties_t} :
      Skips env.lib w.self.conn skipped s0 →
      env.lib.amqp_simple_wait_frame s0 = (.ok f, s1) →
      f.payload = .method (.basic_deliver m) →
      PyRabbitMQ_recv.waitHeader env.lib f.channel s1 = (.ok h, s2) →
      h.payload = .header t props →
      Receives env w (.deliver m props) .consume
  | get {h : amqp_frame_t} {s : σ} {t : BitVec 64} {ok : amqp_basic_get_ok_t}
      {props : amqp_basic_properties_t} {dict : PyMembers} :
      PyRabbitMQ_recv.waitHeader env.lib 0 w.self.conn = (.ok h, s) →
      h.payload = .header t props →
      Receives env w (.get ok props) (.get dict)

/-- Every run that reads the metadata gives a negative result where it returns. -/
def Reported (md : Metadata) : Prop :=
  ∀ (σ κ : Type) (env : Env σ κ) (w : World σ κ) (mode : Mode) (fuel : Nat), w.err = none →
    Receives env w md mode → ∀ n p, (recvIn env fuel mode w).1 = .ret (n, p) → n < 0

/-- The dict of the method has all of its strings. -/
structure MethodDone (md : Metadata) (delivery_info : PyMembers) : Prop where
  exchange : ∃ s, utf8Decode md.exchange = some s ∧
    delivery_info.lookup (.str (pyStr "exchange")) = some (.str s)
  routing_key : ∃ s, utf8Decode md.routing_key = some s ∧
    delivery_info.lookup (.str (pyStr "routing_key")) = some (.str s)
  consumer_tag : ∀ tag, md.consumer_tag = some tag → ∃ s, utf8Decode tag = some s ∧
    delivery_info.lookup (.str (pyStr "consumer_tag")) = some (.str s)

/-- The dict of the header has every property, and all of the headers. -/
structure HeaderDone (props : amqp_basic_properties_t) (propdict : PyMembers) : Prop where
  properties : ∀ f, props._flags f = true → ∃ o, propdict.lookup f.key = some o
  headers : props._flags .headers = true → ∃ d,
    propdict.lookup BasicFlag.headers.key = some (.dict d) ∧ TableDone props.headers d

/-- No NULL is followed and none is stored, and the decoding is complete or its failure is
reported. A run that follows NULL crashes. -/
def DecodesSafely (md : Metadata) : Prop :=
  ∀ (σ κ : Type) (w : World σ κ), w.err = none → ∃ delivery_info propdict w',
    md.decode w = (.ret (delivery_info, propdict), w') ∧
    NoNullMembers delivery_info ∧ NoNullMembers propdict ∧
    ((w'.err = none ∧ MethodDone md delivery_info ∧ HeaderDone md.props propdict) ∨ Reported md)

/-- Every string of the metadata is UTF-8. -/
structure Metadata.IsUtf8 (md : Metadata) : Prop where
  exchange : AreUtf8 md.exchange
  routing_key : AreUtf8 md.routing_key
  consumer_tag : ∀ tag, md.consumer_tag = some tag → AreUtf8 tag
  props : md.props.IsUtf8

/-! ## Text is safe -/

theorem deliveryInfo_done {m : amqp_basic_deliver_t} {exchange key tag : PyStr}
    (hexchange : utf8Decode m.exchange = some exchange)
    (hkey : utf8Decode m.routing_key = some key) (htag : utf8Decode m.consumer_tag = some tag) :
    ∃ info, deliveryInfo m = some (tag, info) ∧ NoNullMembers info ∧
      info.lookup (.str (pyStr "exchange")) = some (.str exchange) ∧
      info.lookup (.str (pyStr "routing_key")) = some (.str key) ∧
      info.lookup (.str (pyStr "consumer_tag")) = some (.str tag) := by
  unfold deliveryInfo
  rw [hexchange, hkey, htag]
  exact ⟨_, rfl, ⟨trivial, trivial, trivial, trivial, trivial, trivial⟩, rfl, rfl, rfl⟩

theorem deliver_done (delivery_tag : BitVec 64) (redelivered : Bool) {exchange routing_key : Octets}
    {text key : PyStr} (hexchange : utf8Decode exchange = some text)
    (hkey : utf8Decode routing_key = some key) (err : Option PyErr) :
    ∃ info, amqp_basic_deliver_to_PyDict [] delivery_tag exchange routing_key redelivered err =
        .ret (info, err) ∧ NoNullMembers info ∧
      info.lookup (.str (pyStr "exchange")) = some (.str text) ∧
      info.lookup (.str (pyStr "routing_key")) = some (.str key) :=
  ⟨_, deliver_ret hexchange hkey, ⟨trivial, trivial, trivial, trivial, trivial⟩, rfl, rfl⟩

theorem decodeMethod_done {md : Metadata} (h : md.IsUtf8) (w : World σ κ) :
    ∃ info, md.decodeMethod w = (.ret info, w) ∧ NoNullMembers info ∧ MethodDone md info := by
  obtain ⟨exchange, hexchange⟩ := Option.isSome_iff_exists.mp h.exchange
  obtain ⟨key, hkey⟩ := Option.isSome_iff_exists.mp h.routing_key
  cases md with
  | deliver m props =>
    obtain ⟨tag, htag⟩ := Option.isSome_iff_exists.mp (h.consumer_tag _ rfl)
    obtain ⟨info, hinfo, hnull, h1, h2, h3⟩ := deliveryInfo_done hexchange hkey htag
    refine ⟨info, ?_, hnull, ⟨_, hexchange, h1⟩, ⟨_, hkey, h2⟩, fun b hb => ?_⟩
    · unfold Metadata.decodeMethod
      dsimp only
      rw [Run.bind_ret (delivery_ret hinfo)]
      rfl
    · cases hb
      exact ⟨_, htag, h3⟩
  | get ok props =>
    obtain ⟨info, hinfo, hnull, h1, h2⟩ :=
      deliver_done ok.delivery_tag ok.redelivered hexchange hkey w.err
    refine ⟨info, withErr_ret hinfo, hnull, ⟨_, hexchange, h1⟩, ⟨_, hkey, h2⟩, fun b hb => ?_⟩
    cases hb

theorem decoded_noNull {headers : PyMembers} (hnull : NoNullMembers headers) {x : Field}
    (h : x.IsText) : NoNull (x.decoded headers) := by
  cases x with
  | octets b =>
    obtain ⟨s, hs⟩ := Option.isSome_iff_exists.mp h
    simp [Field.decoded, hs, NoNull]
  | byte n => exact trivial
  | stamp n => exact trivial
  | table t => exact hnull

/-- The properties of text. -/
theorem properties_done {props : amqp_basic_properties_t} (h : props.IsUtf8)
    (err : Option PyErr) : ∃ pd, basic_properties_to_PyDict props [] err = .ret (pd, err) ∧
      NoNullMembers pd ∧ HeaderDone props pd := by
  have hheaders : ∃ d, NoNullMembers d ∧ (props._flags .headers = true →
      AMQTable_toPyDict props.headers err = .ret (d, err) ∧ TableDone props.headers d) := by
    cases hflag : props._flags .headers with
    | false => exact ⟨[], trivial, fun hf => absurd hf Bool.false_ne_true⟩
    | true =>
      obtain ⟨d, hd, hnull, hdone, _⟩ := table_done props.headers (h.headers hflag) [] trivial err
      exact ⟨d, hnull, fun _ => ⟨hd, hdone⟩⟩
  obtain ⟨d, hnull, hd⟩ := hheaders
  have htext := isText_of_isUtf8 h
  have hlookup : ∀ f, props._flags f = true →
      (row props d BasicFlag.all).lookup f.key = some ((field props f).decoded d) := by
    intro f hf
    rw [lookup_row, if_pos ⟨BasicFlag.mem_all f, hf⟩]
  refine ⟨_, properties_row htext fun hf => (hd hf).1, ?_, fun f hf => ⟨_, hlookup f hf⟩,
    fun hf => ⟨d, hlookup .headers hf, (hd hf).2⟩⟩
  rw [noNullMembers_iff]
  intro e he
  unfold row at he
  obtain ⟨f, hf, rfl⟩ := List.mem_map.mp he
  exact decoded_noNull hnull (htext f (List.mem_filter.mp hf).2)

theorem decodesSafely_of_isUtf8 {md : Metadata} (h : md.IsUtf8) : DecodesSafely md := by
  intro σ κ w herr
  obtain ⟨info, hinfo, hnull, hmethod⟩ := decodeMethod_done h w
  obtain ⟨pd, hpd, hnull', hheader⟩ := properties_done h.props w.err
  refine ⟨info, pd, w.setErr w.err, ?_, hnull, hnull', .inl ⟨herr, hmethod, hheader⟩⟩
  unfold Metadata.decode
  rw [Run.bind_ret hinfo, Run.bind_ret (withErr_ret hpd)]
  rfl

/-! ## Only text is safe -/

/-- The frames of the message up to its header, and a frame in the place of its body. -/
def Metadata.broken : Metadata → List amqp_frame_t
  | .deliver m props => [⟨1, .method (.basic_deliver m)⟩, ⟨1, .header 1 props⟩,
      ⟨1, .other 8 (by decide)⟩]
  | .get _ props => [⟨1, .header 1 props⟩, ⟨1, .other 8 (by decide)⟩]

def Metadata.mode : Metadata → Mode
  | .deliver _ _ => .consume
  | .get _ _ => .get []

/-- The world before the message comes. -/
def Metadata.before (md : Metadata) : World (List amqp_frame_t) (Option PyErr) :=
  opened.world.setConn md.broken

/-- There is nothing to skip on the way to it. -/
theorem skips_none (md : Metadata) :
    Skips memoryEnv.lib md.before.self.conn [] md.before.self.conn :=
  ⟨rfl, by simp⟩

theorem receives_before (md : Metadata) : Receives memoryEnv md.before md md.mode := by
  cases md with
  | deliver m props =>
    exact .deliver (f := ⟨1, .method (.basic_deliver m)⟩) (h := ⟨1, .header 1 props⟩)
      (skips_none _) rfl rfl rfl rfl
  | get ok props => exact .get (h := ⟨1, .header 1 props⟩) rfl rfl

/-- The run enters the body loop when all of the metadata is decoded. -/
theorem enters_before {md : Metadata} {pd : PyMembers} {err : Option PyErr}
    (hinfo : ∀ m props, md = .deliver m props → ∃ d, deliveryInfo m = some d)
    (hpd : basic_properties_to_PyDict md.props [] none = .ret (pd, err)) :
    ∃ d w1, Enters memoryEnv md.before md.mode.piggyback d 1 1 pd w1 ∧
      w1.self.conn = [⟨1, .other 8 (by decide)⟩] := by
  cases md with
  | deliver m props =>
    obtain ⟨d, hd⟩ := hinfo m props rfl
    have hat : AtHeader memoryEnv (Metadata.deliver m props).before false (some d) 1 _ :=
      .consume (f := ⟨1, .method (.basic_deliver m)⟩) (skips_none _) rfl rfl hd
    exact ⟨_, _, .mk (f := ⟨1, .header 1 props⟩) hat rfl rfl hpd, rfl⟩
  | get ok props => exact ⟨_, _, .mk (f := ⟨1, .header 1 props⟩) .get rfl rfl hpd, rfl⟩

/-- The body loop meets a frame that it does not expect. -/
theorem breaks_other : Breaks memoryEnv 1 1 [⟨1, .other 8 (by decide)⟩]
    ([] ++ [⟨1, .other 8 (by decide)⟩]) ⟨.ChannelError, "Expected body, got unexpected frame", []⟩
    [] := by
  have hreads : Reads memoryEnv 1 1 [⟨1, .other 8 (by decide)⟩] [] [⟨1, .other 8 (by decide)⟩] :=
    ⟨rfl, by simp, fun pre f rest he => (by cases pre <;> cases he), by simp⟩
  exact .unexpected hreads (by decide) rfl (by rintro ⟨m, hm⟩; cases hm)
    (by rintro ⟨b, hb⟩; cases hb)

/-- No caller looks for a failure: a run that gets over the metadata can return 0. -/
theorem not_reported {md : Metadata} {pd : PyMembers} {err : Option PyErr}
    (hinfo : ∀ m props, md = .deliver m props → ∃ d, deliveryInfo m = some d)
    (hpd : basic_properties_to_PyDict md.props [] none = .ret (pd, err)) : ¬ Reported md := by
  intro hreported
  obtain ⟨d, w1, henters, hconn⟩ := enters_before hinfo hpd
  obtain ⟨k, w2, _, _, hrun⟩ := recv_of_breaks henters (by rw [hconn]; exact breaks_other)
  have hneg := hreported _ _ memoryEnv md.before md.mode (k + 1) rfl (receives_before md) 0 _
    (congrArg Prod.fst (hrun (k + 1) (by omega)))
  omega

theorem deliveryInfo_text {m : amqp_basic_deliver_t} {d : PyStr × PyMembers}
    (h : deliveryInfo m = some d) :
    AreUtf8 m.exchange ∧ AreUtf8 m.routing_key ∧ AreUtf8 m.consumer_tag := by
  unfold deliveryInfo at h
  split at h
  · rename_i hex hrk htag
    simp [AreUtf8, hex, hrk, htag]
  · cases h

/-- The strings of a method that is decoded. -/
theorem text_of_decodeMethod {md : Metadata} {w w' : World σ κ} {info : PyMembers}
    (h : md.decodeMethod w = (.ret info, w')) :
    AreUtf8 md.exchange ∧ AreUtf8 md.routing_key ∧
      (∀ tag, md.consumer_tag = some tag → AreUtf8 tag) ∧
      (∀ m props, md = .deliver m props → ∃ d, deliveryInfo m = some d) ∧ w'.err = w.err := by
  cases md with
  | deliver m props =>
    obtain ⟨r, w1, hr, hret⟩ := Run.ret_of_bind h
    cases hret
    cases hd : deliveryInfo m with
    | none =>
      obtain ⟨err, hcrash⟩ := delivery_crash (w := w) hd
      rw [hcrash] at hr
      cases hr
    | some d =>
      rw [delivery_ret hd] at hr
      cases hr
      obtain ⟨h1, h2, h3⟩ := deliveryInfo_text hd
      refine ⟨h1, h2, fun tag htag => ?_, fun m' props' heq => ?_, rfl⟩
      · cases htag
        exact h3
      · cases heq
        exact ⟨_, hd⟩
  | get ok props =>
    have hcrash : utf8Decode ok.exchange = none ∨ utf8Decode ok.routing_key = none →
        (Metadata.get ok props).decodeMethod w = (.crash, w) :=
      fun hnone => withErr_crash (deliver_crash hnone)
    cases hex : utf8Decode ok.exchange with
    | none =>
      rw [hcrash (.inl hex)] at h
      cases h
    | some text =>
      cases hrk : utf8Decode ok.routing_key with
      | none =>
        rw [hcrash (.inr hrk)] at h
        cases h
      | some key =>
        have hret : (Metadata.get ok props).decodeMethod w = (.ret _, w) :=
          withErr_ret (deliver_ret hex hrk)
        rw [hret] at h
        cases h
        exact ⟨Option.isSome_of_eq_some hex, Option.isSome_of_eq_some hrk,
          fun tag htag => (by cases htag), fun m props heq => (by cases heq), rfl⟩

theorem isUtf8_of_decodesSafely {md : Metadata} (h : DecodesSafely md) : md.IsUtf8 := by
  obtain ⟨info, pd, w', hdecode, _, _, hend⟩ := h _ _ md.before rfl
  obtain ⟨info', w1, hmethod, hrest⟩ := Run.ret_of_bind hdecode
  obtain ⟨pd', w2, hpd, hret⟩ := Run.ret_of_bind hrest
  cases hret
  obtain ⟨h1, h2, h3, hinfo, herr⟩ := text_of_decodeMethod hmethod
  have herr1 : w1.err = none := herr
  unfold withErr at hpd
  rw [herr1] at hpd
  cases hprops : basic_properties_to_PyDict md.props [] none with
  | crash =>
    rw [hprops] at hpd
    cases hpd
  | hang =>
    rw [hprops] at hpd
    cases hpd
  | ret r =>
    obtain ⟨pd1, err⟩ := r
    rw [hprops] at hpd
    cases hpd
    rcases hend with ⟨hnone, _⟩ | hreported
    · have herr2 : err = none := hnone
      subst herr2
      exact ⟨h1, h2, h3, isUtf8_of_decoded hprops⟩
    · exact absurd hreported (not_reported hinfo hprops)

/-- The metadata of a message is decoded safely exactly when all of its strings are UTF-8. -/
theorem metadata_is_safe_exactly_when_it_is_text (md : Metadata) :
    DecodesSafely md ↔ md.IsUtf8 :=
  ⟨isUtf8_of_decodesSafely, decodesSafely_of_isUtf8⟩

/-- An exchange of the one octet 255 is followed as NULL. -/
theorem a_delivery_with_a_foreign_octet_is_not_safe :
    ¬ DecodesSafely (.deliver ⟨[116], 1, false, [255], []⟩ .empty) := by
  intro h
  obtain ⟨info, pd, w', hdecode, _⟩ := h _ _ opened.world rfl
  obtain ⟨err, hcrash⟩ := delivery_crash (w := opened.world)
    (m := ⟨[116], 1, false, [255], []⟩) rfl
  have hrun : Metadata.decode (.deliver ⟨[116], 1, false, [255], []⟩ .empty) opened.world =
      (.crash, opened.world.setErr err) := Run.bind_crash (Run.bind_crash hcrash)
  rw [hrun] at hdecode
  cases hdecode

end librabbitmq.metadata
