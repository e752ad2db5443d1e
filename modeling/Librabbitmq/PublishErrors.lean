-- The law of a publish whose properties do not convert. The strings are tested one by one, the
-- headers make the function look for an exception, and nothing looks at the integers.
import Librabbitmq.PropertySteps
import Librabbitmq.TableErrors
import Librabbitmq.Sending

namespace librabbitmq.publish_errors

open drain property_fields property_steps table_errors

/-! ## The law -/

/-- A string property is a `str` or a `bytes`. -/
def IsStringValue (v : PyObj) : Prop := (∃ s, v = .str s) ∨ ∃ b, v = .bytes b

/-- The dicts of properties: any values for the integers, strings for the strings, and a dict
tree with ASCII keys for the headers. -/
structure PublishDomain (p : PyMembers) : Prop where
  strings : ∀ f ∈ strings, ∀ v, p.lookup f.key = some v → IsStringValue v
  headers : ∀ v, p.lookup BasicFlag.headers.key = some v →
    ∃ members, v = .dict members ∧ TreeMembers members

/-- The exception that the conversion of a value leaves pending, by itself. -/
def conversionError : BasicFlag → PyObj → Option PyErr
  | .delivery_mode, v => (PyInt_AS_LONG v none).2
  | .priority, v => (PyInt_AS_LONG v none).2
  | .timestamp, v => (PyInt_AS_LONG v none).2
  | .headers, .dict members => match PyDict_ToAMQTable members none with
    | .ret (_, err) => err
    | _ => none
  | .headers, _ => none
  | _, v => (PyObjectArray_Maybe_Unicode v none).2

/-- The property is there, and its conversion fails. -/
def Fails (p : PyMembers) (f : BasicFlag) : Prop :=
  ∃ v, p.lookup f.key = some v ∧ (conversionError f v).isSome

/-- The publish raises, and the connection has seen no call but the one for the pool. -/
def RaisesUnsent (p : PyMembers) : Prop :=
  ∀ (σ κ : Type) (env : Env σ κ) (api : RabbitMQApi σ) (fuel : Nat) (channel : Int) (body : Octets)
    (exchange routing_key : PyObj) (mandatory immediate : Bool) (w : World σ κ),
    w.self.connected = true → w.err = none → exchange ≠ .null → routing_key ≠ .null →
    ∃ e w', PyRabbitMQ_Connection_basic_publish env api fuel channel body exchange routing_key p
        mandatory immediate w = (.ret none, w') ∧ w'.err = some e ∧
      (w'.self.conn = w.self.conn ∨ w'.self.conn =
        (api.amqp_get_or_create_channel_pool w.self.conn (channelNumber channel)).2)

/-- A conversion that fails makes the publish raise with nothing sent, and properties that are
given back leave no exception pending. -/
structure PublishesSafely (p : PyMembers) : Prop where
  sends_nothing : (∃ f, Fails p f) →
    (∃ err, PyDict_to_basic_properties p none = .ret (none, err)) ∧ RaisesUnsent p
  returns_clean : ∀ props err, PyDict_to_basic_properties p none = .ret (some props, err) →
    err = none

/-- The flags of the integer properties. -/
def integers : List BasicFlag := [.delivery_mode, .priority, .timestamp]

/-- An integer fails, and nothing after it looks for the exception. -/
def Unnoticed (p : PyMembers) : Prop :=
  (∃ f ∈ integers, Fails p f) ∧ (∀ f ∈ strings, ¬ Fails p f) ∧
    p.lookup BasicFlag.headers.key = none

/-! ## The steps -/

section

variable {p : PyMembers} {f : BasicFlag} {props : amqp_basic_properties_t} {err : Option PyErr}

theorem not_fails_of_absent (h : p.lookup f.key = none) : ¬ Fails p f := by
  rintro ⟨v, hv, _⟩
  rw [h] at hv
  cases hv

theorem fails_iff {v : PyObj} (h : p.lookup f.key = some v) :
    Fails p f ↔ (conversionError f v).isSome := by
  constructor
  · rintro ⟨u, hu, herr⟩
    rw [h] at hu
    cases hu
    exact herr
  · exact fun herr => ⟨v, h, herr⟩

/-- A string is converted, or NULL with an exception. -/
theorem maybe_unicode_cases {v : PyObj} (h : IsStringValue v) :
    (∃ b, PyObjectArray_Maybe_Unicode v none = (.bytes b, none)) ∨
      ∃ e, PyObjectArray_Maybe_Unicode v none = (.null, some e) := by
  rcases h with ⟨s, rfl⟩ | ⟨b, rfl⟩
  · cases hs : asciiEncode s with
    | some b => exact .inl ⟨b, by simp [PyObjectArray_Maybe_Unicode, PyUnicode_AsASCIIString, hs]⟩
    | none =>
      refine .inr ⟨.raised .UnicodeEncodeError, ?_⟩
      simp [PyObjectArray_Maybe_Unicode, PyUnicode_AsASCIIString, hs]
  · exact .inl ⟨b, rfl⟩

theorem conversionError_string (hf : f ∈ strings) (v : PyObj) :
    conversionError f v = (PyObjectArray_Maybe_Unicode v none).2 := by
  revert hf
  cases f <;> first | exact fun _ => rfl | exact fun hf => absurd hf (by decide)

/-- One string property: stored, or the function has returned -1. -/
theorem stringStep_cases (props : amqp_basic_properties_t) (h : PublishDomain p)
    (hf : f ∈ strings) :
    (¬ Fails p f ∧ ∃ props', stringStep p (some props, none) f = .ret (some props', none)) ∨
      (Fails p f ∧ ∃ e, stringStep p (some props, none) f = .ret (none, some e)) := by
  unfold stringStep setString
  cases hv : p.lookup f.key with
  | none =>
    have hv' : p.lookup (.str (pyStr f.name)) = none := hv
    rw [hv']
    exact .inl ⟨not_fails_of_absent hv, props, rfl⟩
  | some v =>
    have hv' : p.lookup (.str (pyStr f.name)) = some v := hv
    rw [hv', fails_iff hv, conversionError_string hf]
    dsimp only
    rcases maybe_unicode_cases (h.strings f hf v hv) with ⟨b, hb⟩ | ⟨e, he⟩
    · rw [hb]
      exact .inl ⟨Bool.false_ne_true, _, rfl⟩
    · rw [he]
      exact .inr ⟨rfl, e, rfl⟩

/-- All strings: every one is stored, or one has failed. -/
theorem strings_cases (h : PublishDomain p) (props : amqp_basic_properties_t) :
    ((∀ f ∈ strings, ¬ Fails p f) ∧ ∃ props',
      strings.foldlM (stringStep p) (some props, none) = .ret (some props', none)) ∨
    ((∃ f ∈ strings, Fails p f) ∧ ∃ e,
      strings.foldlM (stringStep p) (some props, none) = .ret (none, some e)) := by
  let P : List BasicFlag → Progress → Prop := fun done r =>
    ((∀ f ∈ done, ¬ Fails p f) ∧ ∃ props', r = (some props', none)) ∨
      ((∃ f ∈ done, Fails p f) ∧ ∃ e, r = (none, some e))
  have hstep : ∀ done f r, f ∈ strings → f ∉ done → P done r →
      ∃ r', stringStep p r f = .ret r' ∧ P (done ++ [f]) r' := by
    rintro done f r hf _ (⟨hok, props', rfl⟩ | ⟨⟨g, hg, hfail⟩, e, rfl⟩)
    · rcases stringStep_cases props' h hf with ⟨hnot, props1, hret⟩ | ⟨hfail, e, hret⟩
      · refine ⟨_, hret, .inl ⟨fun g hg => ?_, props1, rfl⟩⟩
        rcases List.mem_append.mp hg with hg | hg
        · exact hok g hg
        · rwa [List.mem_singleton.mp hg]
      · exact ⟨_, hret, .inr ⟨⟨f, by simp, hfail⟩, e, rfl⟩⟩
    · exact ⟨_, rfl, .inr ⟨⟨g, List.mem_append_left _ hg, hfail⟩, e, rfl⟩⟩
  obtain ⟨r, hrun, ⟨hok, props', rfl⟩ | ⟨hfail, e, rfl⟩⟩ :=
    strings_keep (P := P) hstep (r := (some props, none)) (.inl ⟨by simp, props, rfl⟩)
  · exact .inl ⟨hok, props', hrun⟩
  · exact .inr ⟨hfail, e, hrun⟩

/-- A number that is no C `long` leaves an exception, and a pending one stays. -/
theorem asLong_pending (v : PyObj) (err : Option PyErr) :
    (PyInt_AS_LONG v err).2.isSome = (err.isSome || (PyInt_AS_LONG v none).2.isSome) := by
  unfold PyInt_AS_LONG PyLong_AsLong
  cases v with
  | int n => by_cases hn : FitsLong n <;> simp [hn]
  | bool b => simp
  | float bits =>
    dsimp only
    cases truncDouble bits with
    | ok n => by_cases hn : FitsLong n <;> simp [hn]
    | error c => simp
  | _ => simp

/-- One integer property: it is stored, and nothing looks for the exception. -/
theorem setInt_pending (p : PyMembers) (props : amqp_basic_properties_t) (err : Option PyErr)
    (store : amqp_basic_properties_t → Int → amqp_basic_properties_t) (hf : f ∈ integers) :
    ∃ props' err',
      setInt p f.name f store (some props, err) = (some props', err') ∧
      (err'.isSome ↔ err.isSome ∨ Fails p f) := by
  have hconversion : ∀ v, conversionError f v = (PyInt_AS_LONG v none).2 := by
    revert hf
    cases f <;> first | exact fun _ _ => rfl | exact fun hf => absurd hf (by decide)
  unfold setInt
  cases hv : p.lookup f.key with
  | none =>
    have hv' : p.lookup (.str (pyStr f.name)) = none := hv
    rw [hv']
    exact ⟨props, err, rfl, by simp [not_fails_of_absent hv]⟩
  | some v =>
    have hv' : p.lookup (.str (pyStr f.name)) = some v := hv
    rw [hv']
    have hpending : (PyInt_AS_LONG v err).2.isSome ↔ err.isSome ∨ Fails p f := by
      rw [asLong_pending, fails_iff hv, hconversion, Bool.or_eq_true]
    exact ⟨_, _, rfl, hpending⟩

theorem intSteps_pending (p : PyMembers) (props : amqp_basic_properties_t) : ∃ props' err',
    intSteps p (some props, none) = (some props', err') ∧
      (err'.isSome ↔ ∃ f ∈ integers, Fails p f) := by
  obtain ⟨p1, err1, h1, hp1⟩ := setInt_pending p props none
    (fun props n => { props with delivery_mode := BitVec.ofInt 8 n })
    (f := .delivery_mode) (by decide)
  obtain ⟨p2, err2, h2, hp2⟩ := setInt_pending p p1 err1
    (fun props n => { props with priority := BitVec.ofInt 8 n }) (f := .priority) (by decide)
  obtain ⟨p3, err3, h3, hp3⟩ := setInt_pending p p2 err2
    (fun props n => { props with timestamp := BitVec.ofInt 64 n })
    (f := .timestamp) (by decide)
  refine ⟨p3, err3, ?_, ?_⟩
  · unfold intSteps
    dsimp only
    rw [h1, h2, h3]
  · rw [hp3, hp2, hp1]
    simp [integers, or_assoc]

/-- The headers make the function look for an exception. -/
theorem setHeaders_cases (props : amqp_basic_properties_t) (err : Option PyErr)
    (h : PublishDomain p) :
    (p.lookup BasicFlag.headers.key = none ∧
      setHeaders p (some props, err) = .ret (some props, err)) ∨
    ((err.isSome ∨ Fails p .headers) ∧ ∃ e, setHeaders p (some props, err) = .ret (none, some e)) ∨
    (¬ err.isSome ∧ ¬ Fails p .headers ∧
      ∃ props', setHeaders p (some props, err) = .ret (some props', none)) := by
  unfold setHeaders
  cases hv : p.lookup BasicFlag.headers.key with
  | none =>
    have hv' : p.lookup (.str (pyStr "headers")) = none := hv
    rw [hv']
    exact .inl ⟨rfl, rfl⟩
  | some v =>
    obtain ⟨members, rfl, htree⟩ := h.headers v hv
    have hv' : p.lookup (.str (pyStr "headers")) = some (.dict members) := hv
    obtain ⟨t, err', hret, hrun⟩ := members_run members htree [] err
    obtain ⟨t0, err0, hret0, hrun0⟩ := members_run members htree [] none
    have herr0 : conversionError .headers (.dict members) = err0 := by
      simp [conversionError, PyDict_ToAMQTable, amqp_empty_table, hret0]
    have hfails : Fails p .headers ↔ membersMeet members = true := by
      rw [fails_iff hv, herr0, hrun0.pending]
      simp
    have hpending := hrun.pending
    have hconv : PyDict_ToAMQTable members err = .ret (t, err') := hret
    rw [hv', hfails]
    dsimp only
    rw [hconv, Outcome.ret_bind]
    dsimp only
    cases err' with
    | none =>
      refine .inr (.inr ?_)
      simp only [Option.isSome_none, Bool.false_eq, Bool.or_eq_false_iff] at hpending
      refine ⟨by simp [hpending.1], by simp [hpending.2], _, rfl⟩
    | some e =>
      refine .inr (.inl ⟨?_, e, rfl⟩)
      simpa using hpending.symm

end

/-! ## The conversion -/

section

variable {p : PyMembers}

/-- How the conversion ends: with -1 behind a failure, with the properties when nothing fails,
and with the properties and an exception when a failure is not noticed. -/
theorem conversion_cases (h : PublishDomain p) :
    ((∃ f, Fails p f) ∧ ¬ Unnoticed p ∧
      ∃ e, PyDict_to_basic_properties p none = .ret (none, some e)) ∨
    ((¬ ∃ f, Fails p f) ∧ ∃ props, PyDict_to_basic_properties p none = .ret (some props, none)) ∨
    (Unnoticed p ∧ ∃ props e, PyDict_to_basic_properties p none = .ret (some props, some e)) := by
  rw [properties_steps]
  rcases strings_cases h { amqp_basic_properties_t.empty with _flags := fun f => f = .headers } with
    ⟨hstrings, props1, h1⟩ | ⟨⟨f, hf, hfail⟩, e, h1⟩
  · rw [h1, Outcome.ret_bind]
    obtain ⟨props2, err2, h2, hpending⟩ := intSteps_pending p props1
    rw [h2]
    rcases setHeaders_cases props2 err2 h with ⟨habsent, h3⟩ |
      ⟨hfail, e, h3⟩ | ⟨hnone, hheaders, props3, h3⟩
    · rw [h3]
      cases err2 with
      | none =>
        refine .inr (.inl ⟨?_, props2, rfl⟩)
        have hints := hpending.not.mp Bool.false_ne_true
        rintro ⟨f, hf⟩
        by_cases hstring : f ∈ strings
        · exact hstrings f hstring hf
        by_cases hint : f ∈ integers
        · exact hints ⟨f, hint, hf⟩
        · have hheaders : f = .headers := by
            revert hstring hint
            cases f <;> decide
          rw [hheaders] at hf
          exact not_fails_of_absent habsent hf
      | some e => exact .inr (.inr ⟨⟨hpending.mp rfl, hstrings, habsent⟩, props2, e, rfl⟩)
    · refine .inl ⟨?_, fun hun => ?_, e, h3⟩
      · rcases hfail with hints | hheaders
        · obtain ⟨f, _, hf⟩ := hpending.mp hints
          exact ⟨f, hf⟩
        · exact ⟨_, hheaders⟩
      · have hsome : p.lookup (.str (pyStr "headers")) = none := hun.2.2
        unfold setHeaders at h3
        rw [hsome] at h3
        cases h3
    · rw [h3]
      refine .inr (.inl ⟨?_, props3, rfl⟩)
      rintro ⟨f, hf⟩
      by_cases hstring : f ∈ strings
      · exact hstrings f hstring hf
      by_cases hint : f ∈ integers
      · exact hnone (hpending.mpr ⟨f, hint, hf⟩)
      · have hfh : f = .headers := by
          revert hstring hint
          cases f <;> decide
        rw [hfh] at hf
        exact hheaders hf
  · exact .inl ⟨⟨f, hfail⟩, fun hun => hun.2.1 f hf hfail, e, by rw [h1]; rfl⟩

end

/-! ## The publish -/

section

variable {σ κ : Type} {env : Env σ κ} {api : RabbitMQApi σ} {w : World σ κ}

/-- Names that are no NULL: they are names, or an exception is set. -/
theorem maybeUnicodes_cases : ∀ {names : List PyObj}, (∀ o ∈ names, o ≠ .null) → w.err = none →
    (∃ objs, maybeUnicodes names w = (.ret (some objs), w)) ∨
      ∃ e, maybeUnicodes names w = (.ret none, w.setErr (some e)) := by
  intro names
  induction names with
  | nil => exact fun _ _ => .inl ⟨[], rfl⟩
  | cons o rest ih =>
    intro hnull herr
    have hmaybe : (∃ o', o' ≠ .null ∧ PyObjectArray_Maybe_Unicode o w.err = (o', w.err)) ∨
        ∃ e, PyObjectArray_Maybe_Unicode o w.err = (.null, some e) := by
      unfold PyObjectArray_Maybe_Unicode PyUnicode_AsASCIIString
      cases o with
      | str s =>
        dsimp only
        cases asciiEncode s with
        | some b => exact .inl ⟨.bytes b, by simp, rfl⟩
        | none => exact .inr ⟨_, rfl⟩
      | null => exact absurd rfl (hnull .null (by simp))
      | _ => exact .inl ⟨_, by simp, rfl⟩
    unfold maybeUnicodes
    rcases hmaybe with ⟨o', hne, ho⟩ | ⟨e, he⟩
    · rw [Run.bind_ret (withErr_ret (congrArg Outcome.ret ho))]
      have hrest := ih (fun o ho => hnull o (List.mem_cons_of_mem _ ho)) herr
      have hself : w.setErr w.err = w := rfl
      rw [hself]
      cases o' with
      | null => exact absurd rfl hne
      | _ =>
        rcases hrest with ⟨objs, hobjs⟩ | ⟨e, he⟩
        · exact .inl ⟨_, by dsimp only; rw [Run.bind_ret hobjs]; rfl⟩
        · exact .inr ⟨e, by dsimp only; rw [Run.bind_ret he]; rfl⟩
    · rw [Run.bind_ret (withErr_ret (congrArg Outcome.ret he))]
      exact .inr ⟨e, rfl⟩

end

/-- Properties that do not convert stop the publish. -/
theorem raisesUnsent_of_conversion {p : PyMembers} {e : PyErr}
    (h : PyDict_to_basic_properties p none = .ret (none, some e)) : RaisesUnsent p := by
  intro σ κ env api fuel channel body exchange routing_key mandatory immediate w hconn herr hex hrk
  have hnull : ∀ o ∈ [exchange, routing_key], o ≠ .null := by
    intro o ho
    simp only [List.mem_cons, List.not_mem_nil, or_false] at ho
    rcases ho with rfl | rfl
    · exact hex
    · exact hrk
  unfold PyRabbitMQ_Connection_basic_publish
  rw [connected_bind hconn]
  rcases maybeUnicodes_cases hnull herr with ⟨objs, hobjs⟩ | ⟨e, he⟩
  · rw [Run.bind_ret hobjs]
    rcases hpool : api.amqp_get_or_create_channel_pool w.self.conn (channelNumber channel) with
      ⟨found, s⟩
    have hcall : onConn (fun s => api.amqp_get_or_create_channel_pool s (channelNumber channel)) w =
        (.ret found, w.setConn s) := onConn_ret hpool
    have hconverted : withErr (PyDict_to_basic_properties p) (w.setConn s) =
        (.ret none, (w.setConn s).setErr (some e)) := by
      apply withErr_ret
      rw [show (w.setConn s).err = none from herr, h]
    refine ⟨e, (w.setConn s).setErr (some e), ?_, rfl, .inr rfl⟩
    dsimp only
    rw [Run.bind_ret hcall, Run.bind_ret hconverted]
    rfl
  · refine ⟨e, w.setErr (some e), ?_, rfl, .inl rfl⟩
    rw [Run.bind_ret he]
    rfl

/-- A publish whose properties do not convert sends nothing exactly when the failure is
noticed: it goes by when only an integer fails and there are no headers. -/
theorem a_failed_conversion_sends_nothing_exactly_when_it_is_noticed (p : PyMembers)
    (h : PublishDomain p) : PublishesSafely p ↔ ¬ Unnoticed p := by
  rcases conversion_cases h with ⟨hfails, hnoticed, e, hret⟩ | ⟨hfine, props, hret⟩ |
    ⟨hun, props, e, hret⟩
  · refine iff_of_true ⟨fun _ => ⟨⟨_, hret⟩, raisesUnsent_of_conversion hret⟩,
      fun props err hsome => ?_⟩ hnoticed
    rw [hret] at hsome
    cases hsome
  · refine iff_of_true ⟨fun hfails => absurd hfails hfine, fun props' err hsome => ?_⟩ fun hun => ?_
    · rw [hret] at hsome
      cases hsome
      rfl
    · obtain ⟨f, _, hf⟩ := hun.1
      exact hfine ⟨f, hf⟩
  · refine iff_of_false (fun hsafe => ?_) (not_not_intro hun)
    cases hsafe.returns_clean props (some e) hret

/-- A text for the priority, and headers behind it. -/
def withHeaders : PyMembers :=
  [(.str (pyStr "priority"), .str (pyStr "high")), (.str (pyStr "headers"), .dict [])]

theorem withHeaders_domain : PublishDomain withHeaders := by
  refine ⟨fun f hf v hv => ?_, fun v hv => ?_⟩
  · revert hf hv
    cases f <;> first
      | exact fun hf => absurd hf (by decide)
      | exact fun _ hv => by cases hv
  · cases hv
    exact ⟨[], rfl, trivial⟩

theorem a_priority_before_headers_is_noticed : PublishesSafely withHeaders := by
  refine (a_failed_conversion_sends_nothing_exactly_when_it_is_noticed withHeaders
    withHeaders_domain).mpr ?_
  rintro ⟨_, _, habsent⟩
  cases habsent

/-- A text for the priority alone is published, with an exception pending. -/
theorem a_priority_that_is_no_number_is_published :
    ¬ PublishesSafely [(.str (pyStr "priority"), .str (pyStr "high"))] := by
  intro h
  cases h.returns_clean _ (some (.raised .TypeError)) rfl

end librabbitmq.publish_errors
