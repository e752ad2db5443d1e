-- The exceptions of the conversions. Whatever a Python value or a field of a peer
-- looks like, what its conversion raises is no exception of AMQP.
import Librabbitmq.Operations

namespace librabbitmq

/-! ## Outcomes -/

/-- What a function returns, where it returns. -/
def Outcome.Ensures {α : Type} (o : Outcome α) (P : α → Prop) : Prop := ∀ a, o = .ret a → P a

variable {α β : Type}

theorem Outcome.Ensures.bind {o : Outcome α} {f : α → Outcome β} {P : α → Prop} {Q : β → Prop}
    (ho : o.Ensures P) (hf : ∀ a, P a → (f a).Ensures Q) : (o >>= f).Ensures Q := by
  intro b hb
  cases o with
  | ret a => exact hf a (ho a rfl) b hb
  | crash => cases hb
  | hang => cases hb

theorem ensures_ret {a : α} {P : α → Prop} (h : P a) : (Outcome.ret a).Ensures P := by
  rintro b ⟨⟩
  exact h

theorem ensures_crash {P : α → Prop} : (Outcome.crash : Outcome α).Ensures P := by
  rintro b ⟨⟩

theorem ensures_any (o : Outcome α) : o.Ensures fun _ => True := fun _ _ => trivial

/-! ## Classes of exceptions -/

/-- The exception says something about a channel or a connection. -/
def PyErr.OfAmqp (e : PyErr) : Prop := e.cls = .ChannelError ∨ e.cls = .ConnectionError

/-- No such exception is pending. -/
def Quiet (err : Option PyErr) : Prop := ∀ e, err = some e → ¬ e.OfAmqp

theorem quiet_of_none {err : Option PyErr} (h : err = none) : Quiet err := by
  subst h
  rintro e ⟨⟩

theorem quiet_some {e : PyErr} (h : ¬ e.OfAmqp) : Quiet (some e) := by
  rintro e ⟨⟩
  exact h

theorem quiet_raised {c : ExcClass} (hchannel : c ≠ .ChannelError)
    (hconnection : c ≠ .ConnectionError) : Quiet (some (.raised c)) :=
  quiet_some fun h => h.elim hchannel hconnection

theorem fromStringAndSize_quiet {b : Octets} {err : Option PyErr} (h : Quiet err) :
    Quiet (PySTRING_FROM_AMQBYTES b err).2 := by
  unfold PySTRING_FROM_AMQBYTES PyUnicode_FromStringAndSize
  split
  · exact h
  · exact quiet_raised (by decide) (by decide)

theorem asciiString_quiet {s : PyStr} {err : Option PyErr} (h : Quiet err) :
    Quiet (PyUnicode_AsASCIIString s err).2 := by
  unfold PyUnicode_AsASCIIString
  split
  · exact h
  · exact quiet_raised (by decide) (by decide)

theorem encodedString_quiet {s : PyStr} {err : Option PyErr} (h : Quiet err) :
    Quiet (PyUnicode_AsEncodedString s err).2 := by
  unfold PyUnicode_AsEncodedString
  split
  · exact h
  · exact quiet_raised (by decide) (by decide)

theorem asLong_quiet {n : Int} {err : Option PyErr} (h : Quiet err) :
    Quiet (PyLong_AsLong n err).2 := by
  unfold PyLong_AsLong
  split
  · exact h
  · exact quiet_raised (by decide) (by decide)

theorem maybeUnicode_quiet {o : PyObj} {err : Option PyErr} (h : Quiet err) :
    Quiet (PyObjectArray_Maybe_Unicode o err).2 := by
  cases o
  case str s => exact asciiString_quiet h
  all_goals exact h

/-! ## The decoders -/

/-- What is returned beside an exception that is not of AMQP. -/
abbrev Outcome.KeepsQuiet (o : Outcome (α × Option PyErr)) : Prop := o.Ensures fun r => Quiet r.2

mutual

theorem tableLoop_quiet : ∀ (table : amqp_table_t) (dict : PyMembers) (err : Option PyErr),
    Quiet err → (AMQTable_toPyDict.loop dict table err).KeepsQuiet
  | [], _, _, h => by
    unfold AMQTable_toPyDict.loop
    exact ensures_ret h
  | (k, v) :: rest, dict, err, h => by
    unfold AMQTable_toPyDict.loop
    refine (tableValue_quiet v err h).bind fun r hr => ?_
    have hkey := fromStringAndSize_quiet (b := k) hr
    dsimp only
    split <;> exact (ensures_any _).bind fun dict _ => tableLoop_quiet rest dict _ hkey

theorem tableValue_quiet : ∀ (v : amqp_field_value_t) (err : Option PyErr), Quiet err →
    (AMQTable_toPyDict.value v err).KeepsQuiet
  | .utf8 b, err, h => by
    unfold AMQTable_toPyDict.value
    exact ensures_ret (fromStringAndSize_quiet h)
  | .table t, err, h => by
    unfold AMQTable_toPyDict.value
    exact (tableLoop_quiet t [] err h).bind fun r hr => ensures_ret hr
  | .array a, err, h => by
    unfold AMQTable_toPyDict.value
    exact (arrayLoop_quiet a [] err h).bind fun r hr => ensures_ret hr
  | .void, err, h | .boolean _, err, h | .i8 _, err, h | .i16 _, err, h | .i32 _, err, h
  | .i64 _, err, h | .u8 _, err, h | .u16 _, err, h | .u32 _, err, h | .u64 _, err, h
  | .f32 _, err, h | .f64 _, err, h | .other _, err, h => by
    unfold AMQTable_toPyDict.value
    exact ensures_ret h

theorem arrayLoop_quiet : ∀ (array : amqp_array_t) (list : List PyObj) (err : Option PyErr),
    Quiet err → (AMQArray_toPyList.loop list array err).KeepsQuiet
  | [], _, _, h => by
    unfold AMQArray_toPyList.loop
    exact ensures_ret h
  | v :: rest, list, err, h => by
    unfold AMQArray_toPyList.loop
    exact (arrayValue_quiet v err h).bind fun r hr => arrayLoop_quiet rest _ _ hr

theorem arrayValue_quiet : ∀ (v : amqp_field_value_t) (err : Option PyErr), Quiet err →
    (AMQArray_toPyList.value v err).KeepsQuiet
  | .utf8 b, err, h => by
    unfold AMQArray_toPyList.value
    exact ensures_ret (fromStringAndSize_quiet h)
  | .table t, err, h => by
    unfold AMQArray_toPyList.value
    exact (tableLoop_quiet t [] err h).bind fun r hr => ensures_ret hr
  | .array a, err, h => by
    unfold AMQArray_toPyList.value
    exact (arrayLoop_quiet a [] err h).bind fun r hr => ensures_ret hr
  | .void, err, h | .boolean _, err, h | .i8 _, err, h | .i16 _, err, h | .i32 _, err, h
  | .i64 _, err, h | .u8 _, err, h | .u16 _, err, h | .u32 _, err, h | .u64 _, err, h
  | .f32 _, err, h | .f64 _, err, h | .other _, err, h => by
    unfold AMQArray_toPyList.value
    exact ensures_ret h

end

theorem maybeUnicode_keepsQuiet (o : PyObj) {err : Option PyErr} (h : Quiet err) :
    (Outcome.ret (PyObjectArray_Maybe_Unicode o err)).KeepsQuiet :=
  ensures_ret (maybeUnicode_quiet h)

/-- A conversion that returns has set no exception of AMQP. -/
theorem ret_of_withErr {σ κ : Type} {w w' : World σ κ} {a : α}
    {f : Option PyErr → Outcome (α × Option PyErr)} (hf : (f w.err).KeepsQuiet)
    (h : withErr f w = (.ret a, w')) :
    ∃ err, f w.err = .ret (a, err) ∧ w' = w.setErr err ∧ Quiet err := by
  unfold withErr at h
  cases hr : f w.err with
  | ret r =>
    obtain ⟨a', err⟩ := r
    rw [hr] at h
    cases h
    exact ⟨err, rfl, rfl, hf _ hr⟩
  | crash =>
    rw [hr] at h
    cases h
  | hang =>
    rw [hr] at h
    cases h

theorem toPyDict_quiet (table : amqp_table_t) {err : Option PyErr} (h : Quiet err) :
    (AMQTable_toPyDict table err).KeepsQuiet := tableLoop_quiet table [] err h

theorem setProperty_quiet (flag : Bool) (name : String) {value : PyObj × Option PyErr}
    (p : PyMembers) {err : Option PyErr} (h : Quiet err) (hvalue : Quiet value.2) :
    (setProperty flag name value p err).KeepsQuiet := by
  unfold setProperty
  split
  · exact (ensures_any _).bind fun _ _ => ensures_ret hvalue
  · exact ensures_ret h

theorem setPropertyString_quiet (flag : Bool) (name : String) (b : Octets) (p : PyMembers)
    {err : Option PyErr} (h : Quiet err) :
    (setProperty flag name (PySTRING_FROM_AMQBYTES b err) p err).KeepsQuiet :=
  setProperty_quiet flag name p h (fromStringAndSize_quiet h)

/-- The properties of a content. -/
theorem toProperties_quiet (props : amqp_basic_properties_t) (p : PyMembers) {err : Option PyErr}
    (h : Quiet err) : (basic_properties_to_PyDict props p err).KeepsQuiet := by
  unfold basic_properties_to_PyDict
  refine (setPropertyString_quiet _ _ _ _ h).bind fun r hr => ?_
  refine (setPropertyString_quiet _ _ _ _ hr).bind fun r hr => ?_
  refine (setPropertyString_quiet _ _ _ _ hr).bind fun r hr => ?_
  refine (setPropertyString_quiet _ _ _ _ hr).bind fun r hr => ?_
  refine (setPropertyString_quiet _ _ _ _ hr).bind fun r hr => ?_
  refine (setPropertyString_quiet _ _ _ _ hr).bind fun r hr => ?_
  refine (setPropertyString_quiet _ _ _ _ hr).bind fun r hr => ?_
  refine (setPropertyString_quiet _ _ _ _ hr).bind fun r hr => ?_
  refine (setPropertyString_quiet _ _ _ _ hr).bind fun r hr => ?_
  refine (setProperty_quiet _ _ _ hr hr).bind fun r hr => ?_
  refine (setProperty_quiet _ _ _ hr hr).bind fun r hr => ?_
  refine (setProperty_quiet _ _ _ hr hr).bind fun r hr => ?_
  dsimp only
  split
  · refine (toPyDict_quiet _ hr).bind fun r hr => ?_
    exact (ensures_any _).bind fun _ _ => ensures_ret hr
  · exact ensures_ret hr

/-! ## The encoders -/

mutual

theorem membersLoop_quiet : ∀ (members : PyMembers) (dst : amqp_table_t) (err : Option PyErr),
    Quiet err → (PyDict_ToAMQTable.loop dst members err).KeepsQuiet
  | [], _, _, h => by
    unfold PyDict_ToAMQTable.loop
    exact ensures_ret h
  | (key, value) :: rest, dst, err, h => by
    unfold PyDict_ToAMQTable.loop
    refine (member_quiet value dst _ _ (maybeUnicode_quiet h)).bind fun r hr => ?_
    split
    · exact membersLoop_quiet rest _ _ hr
    · exact ensures_ret hr

theorem member_quiet : ∀ (value : PyObj) (dst : amqp_table_t) (dkey : PyObj) (err : Option PyErr),
    Quiet err → (PyDict_ToAMQTable.member dst dkey value err).KeepsQuiet
  | .null, _, _, _, _ => by
    unfold PyDict_ToAMQTable.member
    exact ensures_crash
  | .dict members, dst, dkey, err, h => by
    unfold PyDict_ToAMQTable.member
    refine (ensures_any _).bind fun key _ => ?_
    exact (membersLoop_quiet members _ err h).bind fun r hr => ensures_ret hr
  | .list items, dst, dkey, err, h => by
    unfold PyDict_ToAMQTable.member
    refine (ensures_any _).bind fun key _ => ?_
    exact (itemsLoop_quiet items _ err h).bind fun r hr => ensures_ret hr
  | .tuple items, dst, dkey, err, h => by
    unfold PyDict_ToAMQTable.member
    refine (ensures_any _).bind fun key _ => ?_
    exact (itemsLoop_quiet items _ err h).bind fun r hr => ensures_ret hr
  | .int n, dst, dkey, err, h => by
    have hlong := asLong_quiet (n := n) h
    unfold PyDict_ToAMQTable.member
    dsimp only
    split
    · exact ensures_ret hlong
    · exact (ensures_any _).bind fun key _ => ensures_ret hlong
  | .float bits, dst, dkey, err, h => by
    unfold PyDict_ToAMQTable.member
    split
    · exact ensures_ret h
    · exact (ensures_any _).bind fun key _ => ensures_ret h
  | .str s, dst, dkey, err, h => by
    have hencoded := encodedString_quiet (s := s) h
    unfold PyDict_ToAMQTable.member
    dsimp only
    split
    · exact ensures_ret hencoded
    · refine (ensures_any _).bind fun key _ => ?_
      exact (ensures_any _).bind fun value _ => ensures_ret hencoded
  | .other id, dst, dkey, err, h => by
    unfold PyDict_ToAMQTable.member
    refine (ensures_any _).bind fun key _ => ensures_ret ?_
    exact quiet_some (by simp [PyErr.OfAmqp, unsupportedTableMember])
  | .none, dst, dkey, err, h | .bool _, dst, dkey, err, h | .bytes _, dst, dkey, err, h => by
    unfold PyDict_ToAMQTable.member
    exact (ensures_any _).bind fun key _ => ensures_ret h

theorem itemsLoop_quiet : ∀ (items : List PyObj) (dst : amqp_array_t) (err : Option PyErr),
    Quiet err → (PyIter_ToAMQArray.loop dst items err).KeepsQuiet
  | [], _, _, h => by
    unfold PyIter_ToAMQArray.loop
    exact ensures_ret h
  | item :: rest, dst, err, h => by
    unfold PyIter_ToAMQArray.loop
    refine (item_quiet item dst err h).bind fun r hr => ?_
    split
    · exact itemsLoop_quiet rest _ _ hr
    · exact ensures_ret hr

theorem item_quiet : ∀ (item : PyObj) (dst : amqp_array_t) (err : Option PyErr), Quiet err →
    (PyIter_ToAMQArray.item dst item err).KeepsQuiet
  | .null, _, _, _ => by
    unfold PyIter_ToAMQArray.item
    exact ensures_crash
  | .dict members, dst, err, h => by
    unfold PyIter_ToAMQArray.item
    exact (membersLoop_quiet members _ err h).bind fun r hr => ensures_ret hr
  | .list items, dst, err, h => by
    unfold PyIter_ToAMQArray.item
    exact (itemsLoop_quiet items _ err h).bind fun r hr => ensures_ret hr
  | .tuple items, dst, err, h => by
    unfold PyIter_ToAMQArray.item
    exact (itemsLoop_quiet items _ err h).bind fun r hr => ensures_ret hr
  | .int n, dst, err, h => by
    unfold PyIter_ToAMQArray.item
    exact ensures_ret (asLong_quiet h)
  | .str s, dst, err, h => by
    have hascii := asciiString_quiet (s := s) h
    unfold PyIter_ToAMQArray.item
    dsimp only
    split
    · exact ensures_ret hascii
    · exact (ensures_any _).bind fun value _ => ensures_ret hascii
  | .float bits, dst, err, h => by
    unfold PyIter_ToAMQArray.item
    exact ensures_ret (quiet_some (by simp [PyErr.OfAmqp, unsupportedArrayMember]))
  | .other id, dst, err, h => by
    unfold PyIter_ToAMQArray.item
    exact ensures_ret (quiet_some (by simp [PyErr.OfAmqp, unsupportedArrayMember]))
  | .none, dst, err, h | .bool _, dst, err, h | .bytes _, dst, err, h => by
    unfold PyIter_ToAMQArray.item
    exact ensures_ret h

end

theorem toAMQTable_quiet (members : PyMembers) {err : Option PyErr} (h : Quiet err) :
    (PyDict_ToAMQTable members err).KeepsQuiet := membersLoop_quiet members _ err h

theorem truncDouble_error {bits : BitVec 64} {c : ExcClass} (h : truncDouble bits = .error c) :
    c = .OverflowError ∨ c = .ValueError := by
  unfold truncDouble at h
  dsimp only at h
  split at h
  · split at h <;> cases h
    · exact Or.inl rfl
    · exact Or.inr rfl
  · cases h

theorem asLongOf_quiet (o : PyObj) {err : Option PyErr} (h : Quiet err) :
    Quiet (PyInt_AS_LONG o err).2 := by
  unfold PyInt_AS_LONG
  split
  · exact asLong_quiet h
  · exact h
  · split
    · exact asLong_quiet h
    · rename_i c hc
      rcases truncDouble_error hc with rfl | rfl <;> exact quiet_raised (by decide) (by decide)
  · exact quiet_raised (by decide) (by decide)

theorem setString_quiet (p : PyMembers) (name : String) (flag : BasicFlag)
    (store : amqp_basic_properties_t → Octets → amqp_basic_properties_t)
    {r : Option amqp_basic_properties_t × Option PyErr} (h : Quiet r.2) :
    (setString p name flag store r).KeepsQuiet := by
  obtain ⟨props, err⟩ := r
  cases props with
  | none => exact ensures_ret h
  | some props =>
    unfold setString
    dsimp only
    cases p.lookup (.str (pyStr name)) with
    | none => exact ensures_ret h
    | some value =>
      have hvalue := maybeUnicode_quiet (o := value) h
      dsimp only
      split
      · rename_i heq
        rw [heq] at hvalue
        exact ensures_ret hvalue
      · rename_i heq
        rw [heq] at hvalue
        exact (ensures_any _).bind fun b _ => ensures_ret hvalue

theorem setInt_quiet (p : PyMembers) (name : String) (flag : BasicFlag)
    (store : amqp_basic_properties_t → Int → amqp_basic_properties_t)
    {r : Option amqp_basic_properties_t × Option PyErr} (h : Quiet r.2) :
    Quiet (setInt p name flag store r).2 := by
  obtain ⟨props, err⟩ := r
  cases props with
  | none => exact h
  | some props =>
    unfold setInt
    dsimp only
    cases p.lookup (.str (pyStr name)) with
    | none => exact h
    | some value => exact asLongOf_quiet value h

theorem setHeaders_quiet (p : PyMembers) {r : Option amqp_basic_properties_t × Option PyErr}
    (h : Quiet r.2) : (setHeaders p r).KeepsQuiet := by
  obtain ⟨props, err⟩ := r
  cases props with
  | none => exact ensures_ret h
  | some props =>
    unfold setHeaders
    dsimp only
    split
    · exact ensures_ret h
    · refine (toAMQTable_quiet _ h).bind fun r hr => ?_
      split <;> exact ensures_ret hr
    · exact ensures_ret (quiet_raised (by decide) (by decide))

/-- The properties of a publish. -/
theorem fromProperties_quiet (p : PyMembers) {err : Option PyErr} (h : Quiet err) :
    (PyDict_to_basic_properties p err).KeepsQuiet := by
  unfold PyDict_to_basic_properties
  refine (setString_quiet p _ _ _ h).bind fun r hr => ?_
  refine (setString_quiet p _ _ _ hr).bind fun r hr => ?_
  refine (setString_quiet p _ _ _ hr).bind fun r hr => ?_
  refine (setString_quiet p _ _ _ hr).bind fun r hr => ?_
  refine (setString_quiet p _ _ _ hr).bind fun r hr => ?_
  refine (setString_quiet p _ _ _ hr).bind fun r hr => ?_
  refine (setString_quiet p _ _ _ hr).bind fun r hr => ?_
  refine (setString_quiet p _ _ _ hr).bind fun r hr => ?_
  refine (setString_quiet p _ _ _ hr).bind fun r hr => ?_
  exact setHeaders_quiet p (setInt_quiet p _ _ _ (setInt_quiet p _ _ _ (setInt_quiet p _ _ _ hr)))

end librabbitmq
