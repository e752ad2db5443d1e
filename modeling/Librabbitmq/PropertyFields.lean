-- The properties of a content by their flags: one name, one field and one Python value for
-- each. `basic_properties_to_PyDict` is the row of those whose flag is set.
import Librabbitmq.Properties

namespace librabbitmq

/-- The key of a property in the dict of the properties. -/
def BasicFlag.name : BasicFlag → String
  | .content_type => "content_type"
  | .content_encoding => "content_encoding"
  | .correlation_id => "correlation_id"
  | .reply_to => "reply_to"
  | .expiration => "expiration"
  | .message_id => "message_id"
  | .type => "type"
  | .user_id => "user_id"
  | .app_id => "app_id"
  | .delivery_mode => "delivery_mode"
  | .priority => "priority"
  | .timestamp => "timestamp"
  | .headers => "headers"

def BasicFlag.key (f : BasicFlag) : PyKey := .str (pyStr f.name)

/-- The properties in the order of the source. -/
def BasicFlag.all : List BasicFlag :=
  [.content_type, .content_encoding, .correlation_id, .reply_to, .expiration, .message_id, .type,
    .user_id, .app_id, .delivery_mode, .priority, .timestamp, .headers]

theorem BasicFlag.mem_all (f : BasicFlag) : f ∈ BasicFlag.all := by
  cases f <;> decide

namespace property_fields

theorem name_injective {f g : BasicFlag} (h : f.name = g.name) : f = g := by
  revert h
  cases f <;> cases g <;> decide

theorem pyStr_injective {s t : String} (h : pyStr s = pyStr t) : s = t := by
  have hinj : Function.Injective CodePoint.scalar := fun a b hab => by
    cases hab
    rfl
  exact String.toList_inj.mp (List.map_injective_iff.mpr hinj h)

/-- No two properties have one key. -/
theorem key_injective {f g : BasicFlag} (h : f.key = g.key) : f = g := by
  unfold BasicFlag.key at h
  exact name_injective (pyStr_injective (PyKey.str.inj h))

/-- The value of a field of the properties. -/
inductive Field where
  | octets (b : Octets)
  | byte (n : BitVec 8)
  | stamp (n : BitVec 64)
  | table (t : amqp_table_t)

/-- The field under a flag. -/
def field (props : amqp_basic_properties_t) : BasicFlag → Field
  | .content_type => .octets props.content_type
  | .content_encoding => .octets props.content_encoding
  | .correlation_id => .octets props.correlation_id
  | .reply_to => .octets props.reply_to
  | .expiration => .octets props.expiration
  | .message_id => .octets props.message_id
  | .type => .octets props.type
  | .user_id => .octets props.user_id
  | .app_id => .octets props.app_id
  | .delivery_mode => .byte props.delivery_mode
  | .priority => .byte props.priority
  | .timestamp => .stamp props.timestamp
  | .headers => .table props.headers

/-- The Python value of a field, where `headers` is what its table is decoded to. A string
that is no UTF-8 gives NULL. -/
def Field.decoded (headers : PyMembers) : Field → PyObj
  | .octets b => match utf8Decode b with
    | some s => .str s
    | none => .null
  | .byte n => .int n.toNat
  | .stamp n => .int n.toInt
  | .table _ => .dict headers

/-- The string is UTF-8, if the field is one. -/
def Field.IsText : Field → Prop
  | .octets b => AreUtf8 b
  | _ => True

theorem decoded_octets {b : Octets} (h : AreUtf8 b) (headers : PyMembers) (err : Option PyErr) :
    PySTRING_FROM_AMQBYTES b err = ((Field.octets b).decoded headers, err) ∧
      (Field.octets b).decoded headers ≠ .null := by
  obtain ⟨s, hs⟩ := Option.isSome_iff_exists.mp h
  simp [PySTRING_FROM_AMQBYTES, PyUnicode_FromStringAndSize, Field.decoded, hs]

/-! ## The row -/

/-- The members of the dict for some of the properties. -/
def row (props : amqp_basic_properties_t) (headers : PyMembers) (fs : List BasicFlag) : PyMembers :=
  (fs.filter fun f => props._flags f).map fun f => (f.key, (field props f).decoded headers)

variable {props : amqp_basic_properties_t} {headers : PyMembers} {fs : List BasicFlag}
  {f : BasicFlag}

theorem lookup_row : (row props headers fs).lookup f.key =
    if f ∈ fs ∧ props._flags f = true then some ((field props f).decoded headers) else none := by
  unfold row
  induction fs with
  | nil => simp
  | cons g fs ih =>
    by_cases hg : f = g
    · subst hg
      cases hflag : props._flags f with
      | true => simp [hflag]
      | false =>
        rw [List.filter_cons, hflag, if_neg Bool.false_ne_true, ih, hflag]
        simp
    · have hkey : (f.key == g.key) = false := beq_false_of_ne fun h => hg (key_injective h)
      cases hflag : props._flags g with
      | true =>
        rw [List.filter_cons, hflag, if_pos rfl, List.map_cons, List.lookup_cons, hkey, ih]
        simp [hg]
      | false =>
        rw [List.filter_cons, hflag, if_neg Bool.false_ne_true, ih]
        simp [hg]

/-- Every key of the row is the key of a property. -/
theorem row_keys {key : PyKey} (h : key ∈ (row props headers fs).map Prod.fst) :
    ∃ f ∈ fs, f.key = key := by
  unfold row at h
  simp only [List.map_map, List.mem_map, List.mem_filter] at h
  obtain ⟨f, ⟨hf, _⟩, hkey⟩ := h
  exact ⟨f, hf, hkey⟩

theorem lookup_row_other {key : PyKey} (h : ∀ f : BasicFlag, f.key ≠ key) :
    (row props headers fs).lookup key = none := by
  rw [List.lookup_eq_none_iff]
  intro e he
  obtain ⟨f, _, hkey⟩ := row_keys (List.mem_map_of_mem he)
  rw [← hkey]
  exact bne_iff_ne.mpr fun heq => h f heq.symm

theorem row_nodup (h : fs.Nodup) : ((row props headers fs).map Prod.fst).Nodup := by
  unfold row
  rw [List.map_map]
  exact (h.filter _).map fun f g heq => key_injective heq

theorem row_snoc : row props headers (fs ++ [f]) =
    if props._flags f then row props headers fs ++ [(f.key, (field props f).decoded headers)]
    else row props headers fs := by
  unfold row
  rw [List.filter_append, List.map_append]
  cases hflag : props._flags f <;> simp [hflag]

/-- One property more. -/
theorem setProperty_row {value : PyObj × Option PyErr} {err : Option PyErr}
    (hvalue : props._flags f = true → value = ((field props f).decoded headers, err) ∧
      (field props f).decoded headers ≠ .null) (hf : f ∉ fs) :
    setProperty (props._flags f) f.name value (row props headers fs) err =
      .ret (row props headers (fs ++ [f]), err) := by
  rw [row_snoc]
  unfold setProperty
  cases hflag : props._flags f with
  | false => rfl
  | true =>
    obtain ⟨rfl, hnull⟩ := hvalue hflag
    have hfresh : f.key ∉ (row props headers fs).map Prod.fst := by
      intro hmem
      obtain ⟨g, hg, hkey⟩ := row_keys hmem
      rw [key_injective hkey] at hg
      exact hf hg
    have hset : PyDict_SetItemString (row props headers fs) f.name
        ((field props f).decoded headers) =
        .ret (row props headers fs ++ [(f.key, (field props f).decoded headers)]) := by
      rw [← Dict.set_fresh _ _ _ hfresh]
      exact PyDict_SetItem_str _ _ hnull
    rw [if_pos rfl, if_pos rfl, hset]
    rfl

theorem setString_row (fs : List BasicFlag) (f : BasicFlag) (b : Octets) {err : Option PyErr}
    (hfield : field props f = .octets b) (htext : props._flags f = true → AreUtf8 b) (hf : f ∉ fs) :
    setProperty (props._flags f) f.name (PySTRING_FROM_AMQBYTES b err) (row props headers fs) err =
      .ret (row props headers (fs ++ [f]), err) := by
  refine setProperty_row (fun hflag => ?_) hf
  rw [hfield]
  exact decoded_octets (htext hflag) headers err

theorem setInt_row {n : Int} {err : Option PyErr}
    (hfield : (field props f).decoded headers = .int n) (hf : f ∉ fs) :
    setProperty (props._flags f) f.name (.int n, err) (row props headers fs) err =
      .ret (row props headers (fs ++ [f]), err) := by
  refine setProperty_row (fun _ => ?_) hf
  rw [hfield]
  exact ⟨rfl, by simp⟩

theorem isText_of_isUtf8 (h : props.IsUtf8) :
    ∀ f, props._flags f = true → (field props f).IsText := by
  intro f
  cases f with
  | content_type => exact h.content_type
  | content_encoding => exact h.content_encoding
  | correlation_id => exact h.correlation_id
  | reply_to => exact h.reply_to
  | expiration => exact h.expiration
  | message_id => exact h.message_id
  | type => exact h.type
  | user_id => exact h.user_id
  | app_id => exact h.app_id
  | _ => exact fun _ => trivial

/-- The dict of the properties is the row of all of them. -/
theorem properties_row {err : Option PyErr}
    (h : ∀ f, props._flags f = true → (field props f).IsText)
    (hheaders : props._flags .headers = true →
      AMQTable_toPyDict props.headers err = .ret (headers, err)) :
    basic_properties_to_PyDict props [] err = .ret (row props headers BasicFlag.all, err) := by
  -- the dict behind the first `n` properties
  let done := fun n => row props headers (BasicFlag.all.take n)
  have h1 : setProperty (props._flags .content_type) "content_type"
      (PySTRING_FROM_AMQBYTES props.content_type err) [] err = .ret (done 1, err) :=
    setString_row [] .content_type _ rfl (h .content_type) (by decide)
  have h2 : setProperty (props._flags .content_encoding) "content_encoding"
      (PySTRING_FROM_AMQBYTES props.content_encoding err) (done 1) err = .ret (done 2, err) :=
    setString_row _ .content_encoding _ rfl (h .content_encoding) (by decide)
  have h3 : setProperty (props._flags .correlation_id) "correlation_id"
      (PySTRING_FROM_AMQBYTES props.correlation_id err) (done 2) err = .ret (done 3, err) :=
    setString_row _ .correlation_id _ rfl (h .correlation_id) (by decide)
  have h4 : setProperty (props._flags .reply_to) "reply_to"
      (PySTRING_FROM_AMQBYTES props.reply_to err) (done 3) err = .ret (done 4, err) :=
    setString_row _ .reply_to _ rfl (h .reply_to) (by decide)
  have h5 : setProperty (props._flags .expiration) "expiration"
      (PySTRING_FROM_AMQBYTES props.expiration err) (done 4) err = .ret (done 5, err) :=
    setString_row _ .expiration _ rfl (h .expiration) (by decide)
  have h6 : setProperty (props._flags .message_id) "message_id"
      (PySTRING_FROM_AMQBYTES props.message_id err) (done 5) err = .ret (done 6, err) :=
    setString_row _ .message_id _ rfl (h .message_id) (by decide)
  have h7 : setProperty (props._flags .type) "type"
      (PySTRING_FROM_AMQBYTES props.type err) (done 6) err = .ret (done 7, err) :=
    setString_row _ .type _ rfl (h .type) (by decide)
  have h8 : setProperty (props._flags .user_id) "user_id"
      (PySTRING_FROM_AMQBYTES props.user_id err) (done 7) err = .ret (done 8, err) :=
    setString_row _ .user_id _ rfl (h .user_id) (by decide)
  have h9 : setProperty (props._flags .app_id) "app_id"
      (PySTRING_FROM_AMQBYTES props.app_id err) (done 8) err = .ret (done 9, err) :=
    setString_row _ .app_id _ rfl (h .app_id) (by decide)
  have h10 : setProperty (props._flags .delivery_mode) "delivery_mode"
      (.int props.delivery_mode.toNat, err) (done 9) err = .ret (done 10, err) :=
    setInt_row (f := .delivery_mode) rfl (by decide)
  have h11 : setProperty (props._flags .priority) "priority"
      (.int props.priority.toNat, err) (done 10) err = .ret (done 11, err) :=
    setInt_row (f := .priority) rfl (by decide)
  have h12 : setProperty (props._flags .timestamp) "timestamp"
      (.int props.timestamp.toInt, err) (done 11) err = .ret (done 12, err) :=
    setInt_row (f := .timestamp) rfl (by decide)
  have h13 : setProperty (props._flags .headers) "headers" (.dict headers, err) (done 12) err =
      .ret (done 13, err) :=
    setProperty_row (f := .headers) (fun _ => ⟨rfl, by simp [field, Field.decoded]⟩) (by decide)
  unfold basic_properties_to_PyDict
  simp only [h1, h2, h3, h4, h5, h6, h7, h8, h9, h10, h11, h12, Outcome.ret_bind]
  refine Eq.trans ?_ h13
  unfold setProperty
  cases hflag : props._flags .headers with
  | false => rfl
  | true => rw [if_pos rfl, if_pos rfl, hheaders hflag, Outcome.ret_bind]

end property_fields

end librabbitmq
