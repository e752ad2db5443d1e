-- `PyDict_to_basic_properties` as steps over the flags: the nine strings are one fold, then the
-- integers and the headers.
import Librabbitmq.PropertyFields
import Librabbitmq.Operations

namespace librabbitmq.property_steps

/-- The flags of the string properties, in the order of the source. -/
def strings : List BasicFlag :=
  [.content_type, .content_encoding, .correlation_id, .reply_to, .expiration, .message_id, .type,
    .user_id, .app_id]

/-- The store of a string property. -/
def storeString : BasicFlag → amqp_basic_properties_t → Octets → amqp_basic_properties_t
  | .content_type => fun props b => { props with content_type := b }
  | .content_encoding => fun props b => { props with content_encoding := b }
  | .correlation_id => fun props b => { props with correlation_id := b }
  | .reply_to => fun props b => { props with reply_to := b }
  | .expiration => fun props b => { props with expiration := b }
  | .message_id => fun props b => { props with message_id := b }
  | .type => fun props b => { props with type := b }
  | .user_id => fun props b => { props with user_id := b }
  | .app_id => fun props b => { props with app_id := b }
  | _ => fun props _ => props

/-- What the steps hand on: the properties, unless one failed, and the pending exception. -/
abbrev Progress := Option amqp_basic_properties_t × Option PyErr

/-- One string property. -/
def stringStep (p : PyMembers) (r : Progress) (f : BasicFlag) : Outcome Progress :=
  setString p f.name f (storeString f) r

/-- The three integer properties. -/
def intSteps (p : PyMembers) (r : Progress) : Progress :=
  let r := setInt p BasicFlag.delivery_mode.name .delivery_mode
    (fun props n => { props with delivery_mode := BitVec.ofInt 8 n }) r
  let r := setInt p BasicFlag.priority.name .priority
    (fun props n => { props with priority := BitVec.ofInt 8 n }) r
  setInt p BasicFlag.timestamp.name .timestamp
    (fun props n => { props with timestamp := BitVec.ofInt 64 n }) r

theorem properties_steps (p : PyMembers) (err : Option PyErr) :
    PyDict_to_basic_properties p err =
      strings.foldlM (stringStep p)
          (some { amqp_basic_properties_t.empty with _flags := fun f => f = .headers }, err) >>=
        fun r => setHeaders p (intSteps p r) := by
  have hfold : ∀ r : Progress, strings.foldlM (stringStep p) r = (do
      let r ← stringStep p r .content_type
      let r ← stringStep p r .content_encoding
      let r ← stringStep p r .correlation_id
      let r ← stringStep p r .reply_to
      let r ← stringStep p r .expiration
      let r ← stringStep p r .message_id
      let r ← stringStep p r .type
      let r ← stringStep p r .user_id
      stringStep p r .app_id) := by
    intro r
    simp only [strings, List.foldlM_cons, List.foldlM_nil, bind_pure]
  rw [hfold]
  simp only [bind_assoc]
  rfl

/-- What every string step keeps holds behind all of them. -/
theorem strings_keep {p : PyMembers} {P : List BasicFlag → Progress → Prop}
    (hstep : ∀ done f r, f ∈ strings → f ∉ done → P done r →
      ∃ r', stringStep p r f = .ret r' ∧ P (done ++ [f]) r')
    {r : Progress} (hstart : P [] r) :
    ∃ r', strings.foldlM (stringStep p) r = .ret r' ∧ P strings r' := by
  have hrun : ∀ rest done r, done ++ rest = strings → P done r →
      ∃ r', rest.foldlM (stringStep p) r = .ret r' ∧ P strings r' := by
    intro rest
    induction rest with
    | nil =>
      intro done r hsplit hr
      rw [List.append_nil] at hsplit
      subst hsplit
      exact ⟨r, rfl, hr⟩
    | cons f rest ih =>
      intro done r hsplit hr
      have hnodup : (done ++ f :: rest).Nodup := by
        rw [hsplit]
        decide
      have hnot : f ∉ done := fun hmem =>
        (List.nodup_append.mp hnodup).2.2 f hmem f (by simp) rfl
      obtain ⟨r1, h1, hr1⟩ := hstep done f r (by rw [← hsplit]; simp) hnot hr
      obtain ⟨r2, h2, hr2⟩ := ih (done ++ [f]) r1 (by simpa using hsplit) hr1
      refine ⟨r2, ?_, hr2⟩
      rw [List.foldlM_cons, h1]
      exact h2
  exact hrun strings [] r rfl hstart

/-! ## The bit that no step sets -/

/-- The properties so far have no `cluster_id`. -/
def Unclustered (r : Progress) : Prop :=
  ∀ props, r.1 = some props → props.AMQP_BASIC_CLUSTER_ID_FLAG = false

variable {p : PyMembers} {r r' : Progress}

theorem stringStep_unclustered {f : BasicFlag} (h : Unclustered r)
    (hstep : stringStep p r f = .ret r') : Unclustered r' := by
  have hstore : ∀ props b, (storeString f props b).AMQP_BASIC_CLUSTER_ID_FLAG =
      props.AMQP_BASIC_CLUSTER_ID_FLAG := by
    intro props b
    cases f <;> rfl
  obtain ⟨_ | props, err⟩ := r
  · cases hstep
    exact h
  unfold stringStep setString at hstep
  dsimp only at hstep
  split at hstep
  · cases hstep
    exact h
  split at hstep
  · cases hstep
    exact fun props hprops => by cases hprops
  · obtain ⟨b, _, hstored⟩ := Outcome.ret_of_bind hstep
    cases hstored
    intro props' hprops'
    cases hprops'
    exact (hstore props b).trans (h props rfl)

theorem strings_unclustered (fs : List BasicFlag) : ∀ {r : Progress}, Unclustered r →
    fs.foldlM (stringStep p) r = .ret r' → Unclustered r' := by
  induction fs with
  | nil =>
    intro r h hfold
    cases hfold
    exact h
  | cons f fs ih =>
    intro r h hfold
    rw [List.foldlM_cons] at hfold
    obtain ⟨r1, hstep, hfold⟩ := Outcome.ret_of_bind hfold
    exact ih (stringStep_unclustered h hstep) hfold

theorem setInt_unclustered {name : String} {f : BasicFlag}
    {store : amqp_basic_properties_t → Int → amqp_basic_properties_t}
    (hstore : ∀ props n, (store props n).AMQP_BASIC_CLUSTER_ID_FLAG =
      props.AMQP_BASIC_CLUSTER_ID_FLAG) (h : Unclustered r) :
    Unclustered (setInt p name f store r) := by
  obtain ⟨_ | props, err⟩ := r
  · exact h
  unfold setInt
  dsimp only
  split
  · exact h
  · intro props' hprops'
    cases hprops'
    exact (hstore props _).trans (h props rfl)

theorem setHeaders_unclustered (h : Unclustered r) (hheaders : setHeaders p r = .ret r') :
    Unclustered r' := by
  obtain ⟨_ | props, err⟩ := r
  · cases hheaders
    exact h
  unfold setHeaders at hheaders
  dsimp only at hheaders
  split at hheaders
  · cases hheaders
    exact h
  · obtain ⟨⟨headers, err'⟩, _, hrest⟩ := Outcome.ret_of_bind hheaders
    cases err' with
    | some e =>
      cases hrest
      exact fun props hprops => by cases hprops
    | none =>
      cases hrest
      intro props' hprops'
      cases hprops'
      exact h props rfl
  · cases hheaders
    exact fun props hprops => by cases hprops

/-- Properties that are encoded have no `cluster_id`. -/
theorem encoded_unclustered {err err' : Option PyErr} {sent : amqp_basic_properties_t}
    (h : PyDict_to_basic_properties p err = .ret (some sent, err')) :
    sent.AMQP_BASIC_CLUSTER_ID_FLAG = false := by
  rw [properties_steps] at h
  obtain ⟨r, hstrings, hheaders⟩ := Outcome.ret_of_bind h
  have hstart : Unclustered
      (some { amqp_basic_properties_t.empty with _flags := fun f => f = .headers }, err) := by
    intro props hprops
    cases hprops
    rfl
  have hints : Unclustered (intSteps p r) :=
    setInt_unclustered (fun _ _ => rfl) (setInt_unclustered (fun _ _ => rfl)
      (setInt_unclustered (fun _ _ => rfl) (strings_unclustered strings hstart hstrings)))
  exact setHeaders_unclustered hints hheaders sent rfl

end librabbitmq.property_steps
