-- Properties whose strings are UTF-8. A string that is not is what the decoders
-- trip over; without one they leave the pending exception as it was.
import Librabbitmq.Tables

namespace librabbitmq

/-- Octets that are UTF-8. -/
def AreUtf8 (b : Octets) : Prop := (utf8Decode b).isSome

mutual

/-- Every string of a field is UTF-8. -/
def amqp_field_value_t.IsUtf8 : amqp_field_value_t → Prop
  | .utf8 b => AreUtf8 b
  | .table t => TableIsUtf8 t
  | .array a => ArrayIsUtf8 a
  | _ => True

/-- Every key and every string of a table is UTF-8. -/
def TableIsUtf8 : amqp_table_t → Prop
  | [] => True
  | (k, v) :: rest => AreUtf8 k ∧ v.IsUtf8 ∧ TableIsUtf8 rest

def ArrayIsUtf8 : amqp_array_t → Prop
  | [] => True
  | v :: rest => v.IsUtf8 ∧ ArrayIsUtf8 rest

end

/-- Every string of the properties that are there is UTF-8. -/
structure amqp_basic_properties_t.IsUtf8 (props : amqp_basic_properties_t) : Prop where
  content_type : props._flags .content_type = true → AreUtf8 props.content_type
  content_encoding : props._flags .content_encoding = true → AreUtf8 props.content_encoding
  correlation_id : props._flags .correlation_id = true → AreUtf8 props.correlation_id
  reply_to : props._flags .reply_to = true → AreUtf8 props.reply_to
  expiration : props._flags .expiration = true → AreUtf8 props.expiration
  message_id : props._flags .message_id = true → AreUtf8 props.message_id
  type : props._flags .type = true → AreUtf8 props.type
  user_id : props._flags .user_id = true → AreUtf8 props.user_id
  app_id : props._flags .app_id = true → AreUtf8 props.app_id
  headers : props._flags .headers = true → TableIsUtf8 props.headers

theorem string_decodes {b : Octets} (h : AreUtf8 b) (err : Option PyErr) :
    ∃ s, PySTRING_FROM_AMQBYTES b err = (.str s, err) := by
  obtain ⟨s, hs⟩ := Option.isSome_iff_exists.mp h
  refine ⟨s, ?_⟩
  unfold PySTRING_FROM_AMQBYTES PyUnicode_FromStringAndSize
  rw [hs]

/-- One entry of a table whose value and key are decoded. -/
theorem table_entry {k : Octets} {v : amqp_field_value_t} {err : Option PyErr} {o : PyObj}
    {s : PyStr} (ho : AMQTable_toPyDict.value v err = .ret (o, err))
    (hs : PySTRING_FROM_AMQBYTES k err = (.str s, err)) (dict : PyMembers) (rest : amqp_table_t) :
    ∃ dict', AMQTable_toPyDict.loop dict ((k, v) :: rest) err =
      AMQTable_toPyDict.loop dict' rest err := by
  rw [AMQTable_toPyDict.loop, ho, Outcome.ret_bind]
  dsimp only
  rw [hs]
  -- NULL is stored as `None`
  cases o <;> exact ⟨_, rfl⟩

mutual

theorem tableValue_decodes : ∀ v : amqp_field_value_t, v.IsUtf8 → ∀ err,
    ∃ o, AMQTable_toPyDict.value v err = .ret (o, err)
  | .utf8 b, h, err => by
    obtain ⟨s, hs⟩ := string_decodes h err
    exact ⟨.str s, by rw [AMQTable_toPyDict.value, hs]⟩
  | .table t, h, err => by
    obtain ⟨d, hd⟩ := table_decodes t h [] err
    exact ⟨.dict d, by rw [AMQTable_toPyDict.value, hd]; rfl⟩
  | .array a, h, err => by
    obtain ⟨l, hl⟩ := array_decodes a h [] err
    exact ⟨.list l, by rw [AMQTable_toPyDict.value, hl]; rfl⟩
  | .boolean _, _, err => ⟨_, by rw [AMQTable_toPyDict.value]⟩
  | .i8 _, _, err => ⟨_, by rw [AMQTable_toPyDict.value]⟩
  | .u8 _, _, err => ⟨_, by rw [AMQTable_toPyDict.value]⟩
  | .i16 _, _, err => ⟨_, by rw [AMQTable_toPyDict.value]⟩
  | .u16 _, _, err => ⟨_, by rw [AMQTable_toPyDict.value]⟩
  | .i32 _, _, err => ⟨_, by rw [AMQTable_toPyDict.value]⟩
  | .u32 _, _, err => ⟨_, by rw [AMQTable_toPyDict.value]⟩
  | .i64 _, _, err => ⟨_, by rw [AMQTable_toPyDict.value]⟩
  | .u64 _, _, err => ⟨_, by rw [AMQTable_toPyDict.value]⟩
  | .f32 _, _, err => ⟨_, by rw [AMQTable_toPyDict.value]⟩
  | .f64 _, _, err => ⟨_, by rw [AMQTable_toPyDict.value]⟩
  | .void, _, err => ⟨_, by rw [AMQTable_toPyDict.value]⟩
  | .other _, _, err => ⟨_, by rw [AMQTable_toPyDict.value]⟩

theorem arrayValue_decodes : ∀ v : amqp_field_value_t, v.IsUtf8 → ∀ err,
    ∃ o, AMQArray_toPyList.value v err = .ret (o, err)
  | .utf8 b, h, err => by
    obtain ⟨s, hs⟩ := string_decodes h err
    exact ⟨.str s, by rw [AMQArray_toPyList.value, hs]⟩
  | .table t, h, err => by
    obtain ⟨d, hd⟩ := table_decodes t h [] err
    exact ⟨.dict d, by rw [AMQArray_toPyList.value, hd]; rfl⟩
  | .array a, h, err => by
    obtain ⟨l, hl⟩ := array_decodes a h [] err
    exact ⟨.list l, by rw [AMQArray_toPyList.value, hl]; rfl⟩
  | .boolean _, _, err => ⟨_, by rw [AMQArray_toPyList.value]⟩
  | .i8 _, _, err => ⟨_, by rw [AMQArray_toPyList.value]⟩
  | .u8 _, _, err => ⟨_, by rw [AMQArray_toPyList.value]⟩
  | .i16 _, _, err => ⟨_, by rw [AMQArray_toPyList.value]⟩
  | .u16 _, _, err => ⟨_, by rw [AMQArray_toPyList.value]⟩
  | .i32 _, _, err => ⟨_, by rw [AMQArray_toPyList.value]⟩
  | .u32 _, _, err => ⟨_, by rw [AMQArray_toPyList.value]⟩
  | .i64 _, _, err => ⟨_, by rw [AMQArray_toPyList.value]⟩
  | .u64 _, _, err => ⟨_, by rw [AMQArray_toPyList.value]⟩
  | .f32 _, _, err => ⟨_, by rw [AMQArray_toPyList.value]⟩
  | .f64 _, _, err => ⟨_, by rw [AMQArray_toPyList.value]⟩
  | .void, _, err => ⟨_, by rw [AMQArray_toPyList.value]⟩
  | .other _, _, err => ⟨_, by rw [AMQArray_toPyList.value]⟩

theorem table_decodes : ∀ t : amqp_table_t, TableIsUtf8 t → ∀ dict err,
    ∃ d, AMQTable_toPyDict.loop dict t err = .ret (d, err)
  | [], _, dict, err => ⟨dict, by rw [AMQTable_toPyDict.loop]⟩
  | (k, v) :: rest, h, dict, err => by
    obtain ⟨hk, hv, hrest⟩ := h
    obtain ⟨o, ho⟩ := tableValue_decodes v hv err
    obtain ⟨s, hs⟩ := string_decodes hk err
    obtain ⟨dict', hentry⟩ := table_entry ho hs dict rest
    obtain ⟨d, hd⟩ := table_decodes rest hrest dict' err
    exact ⟨d, hentry.trans hd⟩

theorem array_decodes : ∀ a : amqp_array_t, ArrayIsUtf8 a → ∀ list err,
    ∃ l, AMQArray_toPyList.loop list a err = .ret (l, err)
  | [], _, list, err => ⟨list, by rw [AMQArray_toPyList.loop]⟩
  | v :: rest, h, list, err => by
    obtain ⟨o, ho⟩ := arrayValue_decodes v h.1 err
    obtain ⟨l, hl⟩ := array_decodes rest h.2 (list ++ [o]) err
    refine ⟨l, ?_⟩
    rw [AMQArray_toPyList.loop, ho, Outcome.ret_bind]
    exact hl

end

/-! ## The properties -/

/-- A property that is a string, or that is not there. -/
theorem setProperty_string {flag : Bool} {b : Octets} (h : flag = true → AreUtf8 b) (name : String)
    (p : PyMembers) (err : Option PyErr) :
    ∃ p', setProperty flag name (PySTRING_FROM_AMQBYTES b err) p err = .ret (p', err) := by
  unfold setProperty
  cases flag with
  | false => exact ⟨p, rfl⟩
  | true =>
    obtain ⟨s, hs⟩ := string_decodes (h rfl) err
    rw [hs]
    exact ⟨_, rfl⟩

theorem setProperty_int (flag : Bool) (n : Int) (name : String) (p : PyMembers)
    (err : Option PyErr) : ∃ p', setProperty flag name (.int n, err) p err = .ret (p', err) := by
  unfold setProperty
  cases flag <;> exact ⟨_, rfl⟩

/-- Properties whose strings are UTF-8 are decoded, and no exception is set. -/
theorem properties_decode {props : amqp_basic_properties_t} (h : props.IsUtf8)
    (err : Option PyErr) : ∃ pd, basic_properties_to_PyDict props [] err = .ret (pd, err) := by
  obtain ⟨p1, h1⟩ := setProperty_string h.content_type "content_type" [] err
  obtain ⟨p2, h2⟩ := setProperty_string h.content_encoding "content_encoding" p1 err
  obtain ⟨p3, h3⟩ := setProperty_string h.correlation_id "correlation_id" p2 err
  obtain ⟨p4, h4⟩ := setProperty_string h.reply_to "reply_to" p3 err
  obtain ⟨p5, h5⟩ := setProperty_string h.expiration "expiration" p4 err
  obtain ⟨p6, h6⟩ := setProperty_string h.message_id "message_id" p5 err
  obtain ⟨p7, h7⟩ := setProperty_string h.type "type" p6 err
  obtain ⟨p8, h8⟩ := setProperty_string h.user_id "user_id" p7 err
  obtain ⟨p9, h9⟩ := setProperty_string h.app_id "app_id" p8 err
  obtain ⟨p10, h10⟩ := setProperty_int (props._flags .delivery_mode) props.delivery_mode.toNat
    "delivery_mode" p9 err
  obtain ⟨p11, h11⟩ := setProperty_int (props._flags .priority) props.priority.toNat
    "priority" p10 err
  obtain ⟨p12, h12⟩ := setProperty_int (props._flags .timestamp) props.timestamp.toInt
    "timestamp" p11 err
  unfold basic_properties_to_PyDict
  simp only [h1, h2, h3, h4, h5, h6, h7, h8, h9, h10, h11, h12, Outcome.ret_bind]
  split
  · rename_i hflag
    obtain ⟨d, hd⟩ := table_decodes props.headers (h.headers hflag) [] err
    have hd' : AMQTable_toPyDict props.headers err = .ret (d, err) := hd
    rw [hd', Outcome.ret_bind]
    exact ⟨_, rfl⟩
  · exact ⟨p12, rfl⟩

theorem empty_isUtf8 : amqp_basic_properties_t.empty.IsUtf8 := by
  constructor <;> exact fun h => by cases h

end librabbitmq
