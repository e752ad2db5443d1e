-- The references of `Connection._basic_publish`. The dict of the properties is held while it is
-- converted; when that fails, the exit releases what the conversion recorded, and not the dict.
import Librabbitmq.GetReferences
import Librabbitmq.ListReferences
import Librabbitmq.StringArguments

namespace librabbitmq.ownership

open references encoding table_errors property_fields string_arguments
open containers (Balanced Sound loose)

/-! ## The properties -/

/-- The properties, unless the function has returned -1. -/
abbrev Progress := Option amqp_basic_properties_t

/-- The members of a dict. No member is found in anything else. -/
def PyRef.members : PyRef → PyRefMembers
  | .dict _ members => members
  | _ => []

/-- A borrowed reference to the value under the name. -/
def PyDict_GetItemString (p : PyRefMembers) (name : String) : Option PyRef :=
  match p with
  | [] => none
  | (key, value) :: rest =>
    if key.2 = .str (pyStr name) then some value else PyDict_GetItemString rest name

/-- `PyInt_AS_LONG`: -1 with an exception when it fails. -/
def PyInt_AS_LONG (value : PyRef) : Run Rt Int := do
  let rt ← Run.get
  let r := librabbitmq.PyInt_AS_LONG value.obj rt.err
  Run.modify fun rt => { rt with err := r.2 }
  return r.1

/-- A string property under its key. -/
def setString (p : PyRefMembers) (name : String) (flag : BasicFlag)
    (store : amqp_basic_properties_t → Octets → amqp_basic_properties_t) :
    Progress → Run Rt Progress
  | none => return none
  | some props =>
    match PyDict_GetItemString p name with
    | none => return some props
    | some value => do
      match ← PyObjectArray_Maybe_Unicode value with
      | .null => return none
      | value =>
        let bytes ← PyString_AS_AMQBYTES value
        let props := store props bytes.octets
        return some { props with _flags := fun f => f = flag || props._flags f }

/-- An integer property under its key. -/
def setInt (p : PyRefMembers) (name : String) (flag : BasicFlag)
    (store : amqp_basic_properties_t → Int → amqp_basic_properties_t) :
    Progress → Run Rt Progress
  | none => return none
  | some props =>
    match PyDict_GetItemString p name with
    | none => return some props
    | some value => do
      let n ← PyInt_AS_LONG value
      let props := store props n
      return some { props with _flags := fun f => f = flag || props._flags f }

/-- The headers, after which a pending exception makes the function return. -/
def setHeaders (p : PyRefMembers) : Progress → Run Rt Progress
  | none => return none
  | some props =>
    match PyDict_GetItemString p "headers" with
    | none => return some props
    | some (.dict _ value) => do
      let headers ← PyDict_ToAMQTable value
      let rt ← Run.get
      if rt.err.isSome then return none
      return some { props with headers := tableFields headers }
    -- `PyDict_Size` of what is no dict
    | some _ => do
      PyErr_Set (.raised .SystemError)
      return none

/-- The strings and the integers, in the order of the source. -/
def PyDict_to_basic_properties.plain (p : PyRefMembers) : Run Rt Progress := do
  let r := some { amqp_basic_properties_t.empty with _flags := fun f => f = .headers }
  let r ← setString p "content_type" .content_type
    (fun props b => { props with content_type := b }) r
  let r ← setString p "content_encoding" .content_encoding
    (fun props b => { props with content_encoding := b }) r
  let r ← setString p "correlation_id" .correlation_id
    (fun props b => { props with correlation_id := b }) r
  let r ← setString p "reply_to" .reply_to (fun props b => { props with reply_to := b }) r
  let r ← setString p "expiration" .expiration (fun props b => { props with expiration := b }) r
  let r ← setString p "message_id" .message_id (fun props b => { props with message_id := b }) r
  let r ← setString p "type" .type (fun props b => { props with type := b }) r
  let r ← setString p "user_id" .user_id (fun props b => { props with user_id := b }) r
  let r ← setString p "app_id" .app_id (fun props b => { props with app_id := b }) r
  let r ← setInt p "delivery_mode" .delivery_mode
    (fun props n => { props with delivery_mode := BitVec.ofInt 8 n }) r
  let r ← setInt p "priority" .priority
    (fun props n => { props with priority := BitVec.ofInt 8 n }) r
  setInt p "timestamp" .timestamp (fun props n => { props with timestamp := BitVec.ofInt 64 n }) r

def PyDict_to_basic_properties (p : PyRefMembers) : Run Rt Progress := do
  let r ← PyDict_to_basic_properties.plain p
  setHeaders p r

/-! ## The call -/

/-- The entries are taken out before they are released. -/
def PyObjectArray_XDECREF : Run Rt Unit := do
  let rt ← Run.get
  Run.modify fun rt => { rt with array := .zero }
  memory.releaseEntries Py_DECREF rt.array

/-- `PyRabbitMQ_Connection_close` returns `None`. -/
def PyRabbitMQ_Connection_close (Py_None : Nat) : Run Rt Unit := Py_INCREF Py_None

/-- `Py_INCREF` and `Py_DECREF` of a pointer that is followed. -/
def increfObj (o : PyRef) : Run Rt Unit :=
  match o.self with
  | some self => Py_INCREF self
  | none => Run.crash

def decrefObj (o : PyRef) : Run Rt Unit :=
  match o.self with
  | some self => Py_DECREF self
  | none => Run.crash

/-- The arguments of a call that are objects. -/
structure PublishArgs where
  exchange : PyRef
  routing_key : PyRef
  propdict : PyRef

/-- What the library answers: the status of the publish, and what comes while the channel is
revived. -/
structure PublishAnswers where
  ret : Int
  revivals : memory.Revivals

/-- `bail:` -/
def bail : Run Rt (Option Nat) := do
  PyObjectArray_XDECREF
  return none

/-- The publish, from the read of its strings on. -/
def PyRabbitMQ_Connection_basic_publish.sent (Py_None : Nat) (answers : PublishAnswers)
    (exchange routing_key : PyRef) : Run Rt (Option Nat) := do
  let _ ← PyString_AS_AMQBYTES exchange
  let _ ← PyString_AS_AMQBYTES routing_key
  PyObjectArray_XDECREF
  if answers.ret < 0 then
    -- `error:`
    let _ ← memory.PyRabbitMQ_revive_channel (PyRabbitMQ_Connection_close Py_None) answers.revivals
    bail
  else
    Py_INCREF Py_None
    return some Py_None

/-- The conversion of the properties, and what follows it. -/
def PyRabbitMQ_Connection_basic_publish.named (Py_None : Nat) (answers : PublishAnswers)
    (exchange routing_key propdict : PyRef) : Run Rt (Option Nat) := do
  increfObj propdict
  match ← PyDict_to_basic_properties propdict.members with
  | none => bail
  | some _ => do
    decrefObj propdict
    PyRabbitMQ_Connection_basic_publish.sent Py_None answers exchange routing_key

/-- The name of the routing key, and what follows it. -/
def PyRabbitMQ_Connection_basic_publish.routed (Py_None : Nat) (answers : PublishAnswers)
    (exchange : PyRef) (args : PublishArgs) : Run Rt (Option Nat) := do
  match ← PyObjectArray_Maybe_Unicode args.routing_key with
  | .null => bail
  | routing_key =>
    PyRabbitMQ_Connection_basic_publish.named Py_None answers exchange routing_key args.propdict

/-- `Connection._basic_publish`. `args` is `none` where the arguments are refused. -/
def PyRabbitMQ_Connection_basic_publish (Py_None : Nat) (answers : PublishAnswers)
    (connected : Bool) (args : Option PublishArgs) : Run Rt (Option Nat) := do
  Run.modify fun rt => { rt with array := .zero }
  match connected, args with
  | true, some args =>
    match ← PyObjectArray_Maybe_Unicode args.exchange with
    | .null => bail
    | exchange => PyRabbitMQ_Connection_basic_publish.routed Py_None answers exchange args
  | _, _ => bail

/-! ## The conversion without the references -/

section

variable {p : PyRefMembers} {rt rt' : Rt}

theorem getItem_obj (p : PyRefMembers) (name : String) :
    (memberObjs p).lookup (.str (pyStr name)) = (PyDict_GetItemString p name).map PyRef.obj := by
  induction p with
  | nil => rfl
  | cons member rest ih =>
    obtain ⟨key, value⟩ := member
    rw [memberObjs, PyDict_GetItemString, List.lookup_cons]
    by_cases hkey : key.2 = .str (pyStr name)
    · rw [if_pos hkey, hkey, beq_self_eq_true]
      rfl
    · rw [if_neg hkey, beq_false_of_ne (Ne.symm hkey)]
      exact ih

/-- What is found is a part of the dict. -/
theorem getItem_places {name : String} {value : PyRef}
    (h : PyDict_GetItemString p name = some value) :
    ∀ place ∈ value.places, place ∈ memberPlaces p := by
  induction p with
  | nil => cases h
  | cons member rest ih =>
    obtain ⟨key, other⟩ := member
    intro place hplace
    rw [memberPlaces]
    rw [PyDict_GetItemString] at h
    split_ifs at h
    · cases h
      exact List.mem_cons_of_mem _ (List.mem_append_left _ hplace)
    · exact List.mem_cons_of_mem _ (List.mem_append_right _ (ih h place hplace))

theorem maybe_erased (value : PyRef) (rt : Rt) : ∃ obj rt',
    PyObjectArray_Maybe_Unicode value rt = (.ret obj, rt') ∧
      librabbitmq.PyObjectArray_Maybe_Unicode value.obj rt.err = (obj.obj, rt'.err) := by
  cases value with
  | str self s => exact maybeUnicode_erased (self, .str s) rt
  | _ => exact ⟨_, _, rfl, rfl⟩

theorem setString_erased (p : PyRefMembers) (name : String) (flag : BasicFlag)
    (store : amqp_basic_properties_t → Octets → amqp_basic_properties_t) (r : Progress) (rt : Rt) :
    Erased id (setString p name flag store r rt)
      (librabbitmq.setString (memberObjs p) name flag store (r, rt.err)) := by
  cases r with
  | none => rfl
  | some props =>
    unfold setString librabbitmq.setString
    rw [getItem_obj]
    cases PyDict_GetItemString p name with
    | none => rfl
    | some value =>
      obtain ⟨obj, rt1, hobj, hplain⟩ := maybe_erased value rt
      dsimp only [Option.map_some]
      rw [hplain]
      refine Erased.still hobj ?_
      cases obj with
      | null => rfl
      | _ => exact erased_key _ fun s => rfl

/-- An integer property takes the exception from the conversion of the value. -/
theorem setInt_run (p : PyRefMembers) (name : String) (flag : BasicFlag)
    (store : amqp_basic_properties_t → Int → amqp_basic_properties_t) (r : Progress) (rt : Rt) :
    setInt p name flag store r rt =
      (.ret (librabbitmq.setInt (memberObjs p) name flag store (r, rt.err)).1,
        { rt with err := (librabbitmq.setInt (memberObjs p) name flag store (r, rt.err)).2 }) := by
  cases r with
  | none => rfl
  | some props =>
    unfold setInt librabbitmq.setInt
    dsimp only
    rw [getItem_obj]
    cases PyDict_GetItemString p name with
    | none => rfl
    | some value => rfl

theorem setHeaders_erased (p : PyRefMembers) (r : Progress) (rt : Rt) :
    Erased id (setHeaders p r rt) (librabbitmq.setHeaders (memberObjs p) (r, rt.err)) := by
  cases r with
  | none => rfl
  | some props =>
    unfold setHeaders librabbitmq.setHeaders
    dsimp only
    rw [getItem_obj]
    cases PyDict_GetItemString p "headers" with
    | none => rfl
    | some value =>
      cases value with
      | dict self members =>
        rw [Option.map_some, PyRef.obj]
        refine (toAMQTable_erased members rt).bind fun headers rt1 => ?_
        rw [Run.get_bind_apply]
        cases rt1.err.isSome <;> rfl
      | _ => rfl

/-- The conversion with references ends as the conversion of the values does. -/
theorem properties_erased (p : PyRefMembers) (rt : Rt) :
    Erased id (PyDict_to_basic_properties p rt)
      (librabbitmq.PyDict_to_basic_properties (memberObjs p) rt.err) := by
  unfold PyDict_to_basic_properties PyDict_to_basic_properties.plain
  simp only [Run.bind_assoc]
  refine (setString_erased p _ _ _ _ rt).bind fun r1 rt1 => ?_
  refine (setString_erased p _ _ _ r1 rt1).bind fun r2 rt2 => ?_
  refine (setString_erased p _ _ _ r2 rt2).bind fun r3 rt3 => ?_
  refine (setString_erased p _ _ _ r3 rt3).bind fun r4 rt4 => ?_
  refine (setString_erased p _ _ _ r4 rt4).bind fun r5 rt5 => ?_
  refine (setString_erased p _ _ _ r5 rt5).bind fun r6 rt6 => ?_
  refine (setString_erased p _ _ _ r6 rt6).bind fun r7 rt7 => ?_
  refine (setString_erased p _ _ _ r7 rt7).bind fun r8 rt8 => ?_
  refine (setString_erased p _ _ _ r8 rt8).bind fun r9 rt9 => ?_
  refine Erased.still (setInt_run p _ _ _ r9 rt9) ?_
  refine Erased.still (setInt_run p _ _ _ _ _) ?_
  refine Erased.still (setInt_run p _ _ _ _ _) ?_
  exact setHeaders_erased p _ _

/-- The conversion returns -1 exactly when the properties raise. -/
theorem properties_raise {r : Progress} (herr : rt.err = none)
    (hrun : PyDict_to_basic_properties p rt = (.ret r, rt')) :
    r.isNone = propertiesRaise (memberObjs p) := by
  have herased := properties_erased p rt
  unfold Erased at herased
  rw [hrun, herr] at herased
  rcases properties_end (memberObjs p) with ⟨-, hret⟩ | ⟨-, hraise, err, hret⟩ |
    ⟨-, hraise, props, err, hret⟩
  · rw [hret] at herased
    cases herased
  · rw [hret] at herased
    cases herased
    rw [hraise]
    rfl
  · rw [hret] at herased
    cases herased
    rw [hraise]
    rfl

end

/-! ## What the conversion leaves -/

section

variable {α β : Type} {P : List Nat} {p : PyRefMembers}

/-- What the run makes is recorded once, and every object that was there has its count. -/
def Leaves (P : List Nat) (x : Run Rt α) : Prop := ∀ ⦃rt rt' : Rt⦄ ⦃a : α⦄, Known P rt →
  x rt = (.ret a, rt') → Settles P rt rt' true ∧ Since rt rt'

theorem Leaves.pure (a : α) : Leaves P (pure a) := by
  intro rt rt' a' _ hrun
  cases hrun
  exact ⟨settles_same rfl rfl, .refl rt⟩

theorem Leaves.bind {x : Run Rt α} {k : α → Run Rt β} (hx : Leaves P x)
    (hk : ∀ a, Leaves P (k a)) : Leaves P (x >>= k) := by
  intro rt rt' b hknown hrun
  obtain ⟨a, rt1, hfirst, hrest⟩ := Run.ret_of_bind hrun
  obtain ⟨hsettles, hsince⟩ := hx hknown hfirst
  obtain ⟨hsettles', hsince'⟩ := hk a (hknown.moves hsettles.moves) hrest
  exact ⟨hsettles.trans hknown hsettles', hsince.trans hsince'⟩

theorem leaves_same {rt rt' : Rt} (hheap : rt'.heap = rt.heap) (harray : rt'.array = rt.array) :
    Settles P rt rt' true ∧ Since rt rt' :=
  ⟨settles_same hheap harray, (Since.refl rt).of_same hheap harray⟩

theorem maybe_leaves (value : PyRef) : Leaves P (PyObjectArray_Maybe_Unicode value) := by
  cases value with
  | str self s =>
    intro rt rt' obj hknown hrun
    have hrun' : (encodeWith (asciiEncode s) >>= record) rt = (.ret obj, rt') := hrun
    cases hs : asciiEncode s with
    | none =>
      rw [hs] at hrun'
      cases hrun'
      exact leaves_same rfl rfl
    | some b =>
      rw [hs] at hrun'
      cases hrun'
      obtain ⟨hmoves, hneutral⟩ := recordedNew_settles hknown b
      exact ⟨⟨hmoves, iff_of_true hneutral rfl⟩, since_recorded rt b⟩
  | _ => exact Leaves.pure _

theorem setString_leaves (p : PyRefMembers) (name : String) (flag : BasicFlag)
    (store : amqp_basic_properties_t → Octets → amqp_basic_properties_t) (r : Progress) :
    Leaves P (setString p name flag store r) := by
  cases r with
  | none => exact Leaves.pure _
  | some props =>
    unfold setString
    cases PyDict_GetItemString p name with
    | none => exact Leaves.pure _
    | some value =>
      refine (maybe_leaves value).bind fun obj => ?_
      cases obj with
      | null => exact Leaves.pure _
      | _ =>
        intro rt rt' r' _ hrun
        obtain ⟨self, b, _, hrun⟩ := key_of_run hrun
        cases hrun
        exact leaves_same rfl rfl

theorem setInt_leaves (p : PyRefMembers) (name : String) (flag : BasicFlag)
    (store : amqp_basic_properties_t → Int → amqp_basic_properties_t) (r : Progress) :
    Leaves P (setInt p name flag store r) := by
  intro rt rt' r' _ hrun
  rw [setInt_run] at hrun
  cases hrun
  exact leaves_same rfl rfl

theorem plain_leaves (p : PyRefMembers) : Leaves P (PyDict_to_basic_properties.plain p) :=
  (setString_leaves p _ _ _ _).bind fun _ => (setString_leaves p _ _ _ _).bind fun _ =>
  (setString_leaves p _ _ _ _).bind fun _ => (setString_leaves p _ _ _ _).bind fun _ =>
  (setString_leaves p _ _ _ _).bind fun _ => (setString_leaves p _ _ _ _).bind fun _ =>
  (setString_leaves p _ _ _ _).bind fun _ => (setString_leaves p _ _ _ _).bind fun _ =>
  (setString_leaves p _ _ _ _).bind fun _ => (setInt_leaves p _ _ _ _).bind fun _ =>
  (setInt_leaves p _ _ _ _).bind fun _ => setInt_leaves p _ _ _ _

/-- The conversion of the headers keeps their references, where it gets to them. -/
def headersBalance (p : PyMembers) : Bool :=
  match p.lookup BasicFlag.headers.key with
  | some (.dict members) => membersBalance members
  | _ => true

theorem headers_settle {r r' : Progress} {rt rt' : Rt}
    (hp : ∀ place ∈ memberPlaces p, place.1 ∈ P)
    (hstands : ∀ place ∈ memberPlaces p, StandsAt rt.heap place) (hknown : Known P rt)
    (hrun : setHeaders p r rt = (.ret r', rt')) :
    Moves P rt rt' ∧ (r'.isSome = true →
      Settles P rt rt' (headersBalance (memberObjs p)) ∧ Since rt rt') := by
  have hfails : ∀ {rt' : Rt}, rt'.heap = rt.heap → rt'.array = rt.array →
      Moves P rt rt' ∧ ((none : Progress).isSome = true →
        Settles P rt rt' (headersBalance (memberObjs p)) ∧ Since rt rt') :=
    fun hheap harray => ⟨moves_of_same hheap harray, fun h => by cases h⟩
  cases r with
  | none =>
    cases hrun
    exact hfails rfl rfl
  | some props =>
    unfold setHeaders at hrun
    unfold headersBalance
    rw [show (memberObjs p).lookup BasicFlag.headers.key =
      (PyDict_GetItemString p "headers").map PyRef.obj from getItem_obj p "headers"]
    dsimp only at hrun
    cases hfound : PyDict_GetItemString p "headers" with
    | none =>
      rw [hfound] at hrun
      cases hrun
      exact ⟨.refl rt, fun _ => leaves_same rfl rfl⟩
    | some value =>
      rw [hfound] at hrun
      have hplaces := getItem_places hfound
      cases value with
      | dict self members =>
        have hmembers : ∀ place ∈ memberPlaces members, place ∈ memberPlaces p :=
          fun place h => hplaces place (List.mem_cons_of_mem _ h)
        obtain ⟨headers, rt1, hloop, hrest⟩ := Run.ret_of_bind hrun
        have hsettles := members_settle members (fun place h => hp place (hmembers place h)) hknown
          hloop
        rw [Run.get_bind_apply] at hrest
        cases herr : rt1.err with
        | some e =>
          rw [herr] at hrest
          cases hrest
          exact ⟨hsettles.moves, fun h => by cases h⟩
        | none =>
          rw [herr] at hrest
          cases hrest
          obtain ⟨hsince, -⟩ := members_left members hmembers hstands hloop herr
          exact ⟨hsettles.moves, fun _ => ⟨hsettles, hsince⟩⟩
      | _ =>
        cases hrun
        exact ⟨moves_of_same rfl rfl, fun h => by cases h⟩

/-- What a conversion that succeeds has made is recorded once exactly when the headers keep their
references. -/
theorem properties_settle {r : Progress} {rt rt' : Rt}
    (hp : ∀ place ∈ memberPlaces p, place.1 ∈ P)
    (hstands : ∀ place ∈ memberPlaces p, StandsAt rt.heap place) (hknown : Known P rt)
    (hrun : PyDict_to_basic_properties p rt = (.ret r, rt')) :
    Moves P rt rt' ∧ (r.isSome = true →
      Settles P rt rt' (headersBalance (memberObjs p)) ∧ Since rt rt') := by
  obtain ⟨r1, rt1, hplain, hheaders⟩ := Run.ret_of_bind hrun
  obtain ⟨hsettles, hsince⟩ := plain_leaves p hknown hplain
  obtain ⟨hmoves, hleft⟩ := headers_settle hp (fun place h => (hstands place h).since hsince)
    (hknown.moves hsettles.moves) hheaders
  refine ⟨hsettles.moves.trans hmoves, fun hsome => ?_⟩
  obtain ⟨hsettles', hsince'⟩ := hleft hsome
  have hall := hsettles.trans hknown hsettles'
  rw [Bool.true_and] at hall
  exact ⟨hall, hsince.trans hsince'⟩

end

/-! ## The releases -/

/-- The objects are released once for each time that they stand in the list, and `k` references
to `None` are taken. -/
structure Released (Py_None k : Nat) (entries : List Nat) (rt rt' : Rt) : Prop where
  next : rt'.heap.next = rt.heap.next
  array : rt'.array = rt.array
  count : ∀ x, rt'.heap.count x =
    rt.heap.count x - entries.count x + if x = Py_None then (k : Int) else 0

section

variable {Py_None k k' : Nat} {entries entries' : List Nat} {rt rt1 rt' : Rt}

theorem Released.refl (rt : Rt) : Released Py_None 0 [] rt rt :=
  ⟨rfl, rfl, fun x => by simp⟩

theorem Released.trans (h1 : Released Py_None k entries rt rt1)
    (h2 : Released Py_None k' entries' rt1 rt') :
    Released Py_None (k + k') (entries ++ entries') rt rt' := by
  refine ⟨h2.next.trans h1.next, h2.array.trans h1.array, fun x => ?_⟩
  rw [h2.count, h1.count, List.count_append]
  push_cast
  split <;> omega

theorem decref_released {a : Nat} {u : Unit} (hrun : Py_DECREF a rt = (.ret u, rt')) :
    Released Py_None 0 [a] rt rt' := by
  cases hrun
  refine ⟨rfl, rfl, fun x => ?_⟩
  rw [Heap.decref_count, containers.count_cons_eq, List.count_nil]
  split <;> simp

theorem incref_released {u : Unit} (hrun : Py_INCREF Py_None rt = (.ret u, rt')) :
    Released Py_None 1 [] rt rt' := by
  cases hrun
  refine ⟨rfl, rfl, fun x => ?_⟩
  rw [Heap.incref_count, List.count_nil]
  simp

theorem forM_released (Py_None : Nat) (entries : List Nat) : ∀ {rt rt' : Rt} {u : Unit},
    entries.forM Py_DECREF rt = (.ret u, rt') → Released Py_None 0 entries rt rt' := by
  induction entries with
  | nil =>
    intro rt rt' u hrun
    cases hrun
    exact .refl rt
  | cons a entries ih =>
    intro rt rt' u hrun
    obtain ⟨u1, rt1, hfirst, hrest⟩ := Run.ret_of_bind hrun
    exact (decref_released hfirst).trans (ih hrest)

theorem releaseEntries_released (array : pyobject_array_t) : ∀ {rt rt' : Rt} {u : Unit},
    memory.releaseEntries Py_DECREF array rt = (.ret u, rt') →
      Released Py_None 0 array.recorded rt rt' := by
  induction array with
  | last entries => exact fun hrun => forM_released Py_None entries hrun
  | link entries next ih =>
    intro rt rt' u hrun
    obtain ⟨u1, rt1, hnext, hentries⟩ := Run.ret_of_bind hrun
    have hall := (ih hnext).trans (forM_released Py_None entries hentries)
    refine ⟨hall.next, hall.array, fun x => ?_⟩
    rw [hall.count, pyobject_array_t.recorded, List.count_append, List.count_append, Nat.add_comm]

/-- The release of the array leaves it empty. -/
theorem xdecref_released (Py_None : Nat) {u : Unit}
    (hrun : PyObjectArray_XDECREF rt = (.ret u, rt')) : rt'.array = .zero ∧
      Released Py_None 0 rt.array.recorded { rt with array := .zero } rt' := by
  have hreleased : Released Py_None 0 rt.array.recorded { rt with array := .zero } rt' :=
    releaseEntries_released rt.array hrun
  exact ⟨hreleased.array, hreleased⟩

theorem revive_released {revivals : memory.Revivals} {n : Int}
    (hrun : memory.PyRabbitMQ_revive_channel (PyRabbitMQ_Connection_close Py_None) revivals rt =
      (.ret n, rt')) : Released Py_None (memory.reviveCloses revivals) [] rt rt' :=
  memory.revive_closes (R := fun k => Released Py_None k []) Released.refl incref_released hrun

theorem bail_released (Py_None : Nat) {r : Option Nat} (hrun : bail rt = (.ret r, rt')) :
    r = none ∧ Released Py_None 0 rt.array.recorded { rt with array := .zero } rt' := by
  obtain ⟨u, rt1, hrelease, hrest⟩ := Run.ret_of_bind hrun
  cases hrest
  exact ⟨rfl, (xdecref_released Py_None hrelease).2⟩

/-- From the read of its strings on the publish releases what is recorded, once. -/
theorem sent_released {answers : PublishAnswers} {exchange routing_key : PyRef} {r : Option Nat}
    (hrun : PyRabbitMQ_Connection_basic_publish.sent Py_None answers exchange routing_key rt =
      (.ret r, rt')) :
    (∀ a, r = some a → a = Py_None) ∧
      Released Py_None (if answers.ret < 0 then memory.reviveCloses answers.revivals else 1)
        rt.array.recorded { rt with array := .zero } rt' := by
  obtain ⟨self, b, -, hrun⟩ := key_of_run hrun
  obtain ⟨self', b', -, hrun⟩ := key_of_run hrun
  obtain ⟨u1, rt1, hrelease, hrun⟩ := Run.ret_of_bind hrun
  obtain ⟨hempty, hreleased⟩ := xdecref_released Py_None hrelease
  split_ifs at hrun ⊢
  · obtain ⟨n, rt2, hrevive, hrun⟩ := Run.ret_of_bind hrun
    have hrevived := revive_released hrevive
    obtain ⟨rfl, hbail⟩ := bail_released Py_None hrun
    have hsame : ({ rt2 with array := .zero } : Rt) = rt2 := by
      rw [← hempty, ← hrevived.array]
    rw [hsame, hrevived.array, hempty] at hbail
    refine ⟨fun a ha => (by cases ha), ?_⟩
    have hall := hreleased.trans (hrevived.trans hbail)
    rwa [pyobject_array_t.zero, pyobject_array_t.recorded, List.append_nil, List.append_nil,
      zero_add, add_zero] at hall
  · obtain ⟨u2, rt2, hincref, hrun⟩ := Run.ret_of_bind hrun
    cases hrun
    refine ⟨fun a ha => (Option.some.inj ha).symm, ?_⟩
    have hall := hreleased.trans (incref_released hincref)
    rwa [List.append_nil, zero_add] at hall

end

/-! ## The call, as a whole -/

/-- Objects that hold nothing. -/
theorem loose_plain (h : Heap Octets) (x : Nat) : loose (fun _ => []) h x = h.count x := by
  rw [loose, containers.held_of_plain (fun _ => rfl), Nat.cast_zero, sub_zero]

section

variable {Py_None k : Nat} {rt rt1 rt' : Rt}

/-- The recorded objects are new and stand in the array once. -/
theorem recorded_count (hempty : rt.array = .zero) (hsince : Since rt rt1) (a : Nat) :
    rt1.array.recorded.count a ≤ 1 ∧ (a ∈ rt1.array.recorded →
      rt.heap.next ≤ a ∧ a < rt1.heap.next ∧ rt1.heap.count a = 1) := by
  obtain ⟨new, hperm, hnodup, hnew⟩ := hsince.recorded
  rw [hempty, pyobject_array_t.zero, pyobject_array_t.recorded, List.append_nil] at hperm
  refine ⟨?_, fun hmem => hnew a (hperm.mem_iff.mp hmem)⟩
  rw [hperm.count_eq a]
  exact List.nodup_iff_count_le_one.mp hnodup a

/-- A new object is settled exactly when the release of the array takes its last reference. -/
theorem settled_iff (hempty : rt.array = .zero) (hsince : Since rt rt1) (a : Nat) :
    Settled rt1 a ↔ rt1.heap.count a - rt1.array.recorded.count a = 0 := by
  obtain ⟨hle, hnew⟩ := recorded_count hempty hsince a
  unfold Settled
  by_cases hmem : a ∈ rt1.array.recorded
  · have hpos := List.count_pos_iff.mpr hmem
    obtain ⟨-, -, hone⟩ := hnew hmem
    refine iff_of_true (Or.inr ⟨hone, by omega⟩) ?_
    omega
  · rw [List.count_eq_zero_of_not_mem hmem]
    constructor
    · rintro (⟨hdead, -⟩ | ⟨-, hrecorded⟩)
      · omega
      · omega
    · intro hdead
      exact Or.inl ⟨by omega, hmem⟩

/-- The release behind a conversion that succeeded balances exactly when the conversion was
neutral. -/
theorem released_balanced {r : Option Nat} (hsound : Sound (fun _ => []) rt.heap)
    (hnone : Py_None < rt.heap.next) (hempty : rt.array = .zero) (hsince : Since rt rt1)
    (hreleased : Released Py_None k rt1.array.recorded { rt1 with array := .zero } rt')
    (hr : ∀ a, r = some a → a = Py_None) :
    (Balanced (fun _ => []) rt.heap rt'.heap r ↔ Neutral rt rt1) ∧
      ∀ a, a < rt.heap.next → a ≠ Py_None → rt'.heap.count a = rt.heap.count a := by
  have hold : ∀ a, a < rt.heap.next →
      rt'.heap.count a = rt.heap.count a + if a = Py_None then (k : Int) else 0 := by
    intro a ha
    have hnot : a ∉ rt1.array.recorded := fun hmem => by
      have := ((recorded_count hempty hsince a).2 hmem).1
      omega
    rw [hreleased.count, List.count_eq_zero_of_not_mem hnot, ← hsince.count a ha]
    simp
  have hnew : ∀ a, rt.heap.next ≤ a →
      rt'.heap.count a = rt1.heap.count a - rt1.array.recorded.count a := by
    intro a ha
    rw [hreleased.count, if_neg (by omega), add_zero]
  have hreturned : ∀ a, rt.heap.next ≤ a → (if r = some a then (1 : Int) else 0) = 0 :=
    fun a ha => if_neg fun heq => by
      have := hr a heq
      omega
  have hzero : Neutral rt rt1 → ∀ a, rt.heap.next ≤ a → rt'.heap.count a = 0 := by
    intro hneutral a ha
    rw [hnew a ha]
    by_cases hlt : a < rt1.heap.next
    · exact (settled_iff hempty hsince a).mp (hneutral.settled a ha hlt)
    · have hnot : a ∉ rt1.array.recorded := fun hmem =>
        hlt ((recorded_count hempty hsince a).2 hmem).2.1
      rw [hsince.beyond a (by omega), hsound.given a ha, List.count_eq_zero_of_not_mem hnot]
      rfl
  refine ⟨⟨fun h => ⟨hsince.count, fun a ha _ => ?_⟩, fun h => ⟨fun a ha => ?_, fun a => ?_⟩⟩,
    fun a ha hne => ?_⟩
  · have hsettled := h.settled a ha
    rw [loose_plain, hreturned a ha, hnew a ha] at hsettled
    exact (settled_iff hempty hsince a).mpr hsettled
  · rw [loose_plain, hreturned a ha]
    exact hzero h a ha
  · by_cases ha : a < rt.heap.next
    · have hcounted := hsound.counted a
      rw [hold a ha]
      split <;> omega
    · exact (hzero h a (by omega)).ge
  · rw [hold a ha, if_neg hne, add_zero]

end

/-- The objects of the dict stand, and it is not `None` and no part of itself. -/
structure PublishArgs.Stand (Py_None : Nat) (h : Heap Octets) (args : PublishArgs) : Prop where
  places : ∀ place ∈ args.propdict.places, StandsAt h place
  apart : ∀ self members, args.propdict = .dict self members →
    self ≠ Py_None ∧ ∀ place ∈ memberPlaces members, place.1 ≠ self

/-- The dict of the caller has the count that it had. -/
def DictKept (propdict : PyRef) (h h' : Heap Octets) : Prop :=
  ∀ self members, propdict = .dict self members → h'.count self = h.count self

/-- The properties are converted, and no reference is lost in the headers. -/
def converts (p : PyMembers) : Bool := !propertiesRaise p && headersBalance p

/-- The conversion of the properties, which is gone to with a connection and two names, raises or
loses references. -/
structure SlipsInConversion (connected : Bool) (args : PublishArgs) : Prop where
  connected : connected = true
  exchange : refused args.exchange.obj = false
  routing_key : refused args.routing_key.obj = false
  slips : converts (memberObjs args.propdict.members) = false

section

variable {Py_None : Nat} {answers : PublishAnswers} {rt rt1 rt' : Rt}

theorem members_places {o : PyRef} : ∀ place ∈ memberPlaces o.members, place ∈ o.places := by
  cases o with
  | dict self members => exact fun place h => List.mem_cons_of_mem _ h
  | _ => exact fun place h => absurd h List.not_mem_nil

theorem self_place {o : PyRef} {self : Nat} (h : o.self = some self) :
    ∃ b, (self, b) ∈ o.places := by
  cases o with
  | null => cases h
  | _ =>
    cases h
    exact ⟨_, List.mem_cons_self⟩

/-- The conversion of what is no dict does not raise. -/
theorem dict_of_raises {o : PyRef} (h : propertiesRaise (memberObjs o.members) = true) :
    ∃ self members, o = .dict self members := by
  cases o with
  | dict self members => exact ⟨self, members, rfl⟩
  | _ => exact absurd (show propertiesRaise [] = true from h) (by decide)

theorem PublishArgs.Stand.known {args : PublishArgs} (hstand : args.Stand Py_None rt.heap)
    (hempty : rt.array = .zero) : Known ((memberPlaces args.propdict.members).map Prod.fst) rt := by
  refine ⟨fun a ha => ?_, fun a ha => ?_⟩
  · obtain ⟨place, hplace, rfl⟩ := List.mem_map.mp ha
    exact (hstand.places place (members_places place hplace)).1
  · rw [hempty] at ha
    cases ha

/-- The dict keeps its count where every object but `None` does. -/
theorem PublishArgs.Stand.kept {args : PublishArgs} {h h' : Heap Octets}
    (hstand : args.Stand Py_None h)
    (hkept : ∀ a, a < h.next → a ≠ Py_None → h'.count a = h.count a) :
    DictKept args.propdict h h' := by
  intro self members hdict
  obtain ⟨hne, -⟩ := hstand.apart _ _ hdict
  refine hkept self ?_ hne
  exact (hstand.places (self, none) (by rw [hdict]; exact List.mem_cons_self)).1

/-- The exit behind a conversion that failed leaves the dict with the reference that was taken for
the conversion. -/
theorem exit_keeps_reference {P : List Nat} {rt2 : Rt} {self : Nat} {r : Option Nat}
    (hempty : rt.array = .zero) (hne : self ≠ Py_None) (hnot : self ∉ P)
    (hlt : self < rt.heap.next) (hfirst : Settles P rt rt1 true) (hsince : Since rt rt1)
    (hmoves : Moves P (increfed self rt1) rt2) (hrun : bail rt2 = (.ret r, rt')) :
    rt'.heap.count self = rt.heap.count self + 1 := by
  have hlt1 := hlt.trans_le hsince.next_le
  have hunrecorded : rt2.array.recorded.count self = 0 := by
    rw [hmoves.records self (Or.inl hlt1)]
    exact (hfirst.moves.records self (Or.inl hlt)).trans (by rw [hempty]; rfl)
  obtain ⟨-, hreleased⟩ := bail_released Py_None hrun
  have hframe := hmoves.frame self hlt1 hnot
  rw [increfed_count, if_pos rfl, hsince.count self hlt] at hframe
  rw [hreleased.count, if_neg hne, hunrecorded, add_zero]
  exact (sub_zero _).trans hframe

/-- The references of a conversion and of what follows it. -/
theorem named_balanced {args : PublishArgs} {exchange routing_key : PyRef} {r : Option Nat}
    (hsound : Sound (fun _ => []) rt.heap) (hnone : Py_None < rt.heap.next)
    (hempty : rt.array = .zero) (hstand : args.Stand Py_None rt.heap)
    (hfirst : Settles ((memberPlaces args.propdict.members).map Prod.fst) rt rt1 true)
    (hsince : Since rt rt1) (herr : rt1.err = none)
    (hrun : PyRabbitMQ_Connection_basic_publish.named Py_None answers exchange routing_key
      args.propdict rt1 = (.ret r, rt')) :
    (Balanced (fun _ => []) rt.heap rt'.heap r ∧ DictKept args.propdict rt.heap rt'.heap) ↔
      converts (memberObjs args.propdict.members) = true := by
  have hknown := hstand.known hempty
  have hknown1 := hknown.moves hfirst.moves
  unfold PyRabbitMQ_Connection_basic_publish.named increfObj decrefObj at hrun
  cases hself : args.propdict.self with
  | none =>
    rw [hself] at hrun
    cases hrun
  | some self =>
    rw [hself] at hrun
    obtain ⟨b, hplace⟩ := self_place hself
    have hlt : self < rt.heap.next := (hstand.places _ hplace).1
    have hlt1 := hlt.trans_le hsince.next_le
    rw [Run.bind_ret (incref_apply self rt1)] at hrun
    obtain ⟨converted, rt2, hconvert, hrest⟩ := Run.ret_of_bind hrun
    have herr1 : (increfed self rt1).err = none := herr
    have hraise := properties_raise herr1 hconvert
    obtain ⟨hmoves, hleft⟩ := properties_settle (fun place h => List.mem_map_of_mem h)
      (fun place h => ((hstand.places place (members_places place h)).since hsince).incref self)
      (hknown1.increfed self) hconvert
    unfold converts
    rw [← hraise]
    cases converted with
    | none =>
      refine iff_of_false (fun h => ?_) (by simp)
      obtain ⟨self', members, hdict⟩ := dict_of_raises hraise.symm
      obtain rfl : self' = self := by
        rw [hdict] at hself
        exact Option.some.inj hself
      obtain ⟨hne, hapart⟩ := hstand.apart _ _ hdict
      have hnot : self' ∉ (memberPlaces args.propdict.members).map Prod.fst := by
        rw [hdict]
        intro hmem
        obtain ⟨place, hplace, heq⟩ := List.mem_map.mp hmem
        exact hapart place hplace heq
      have hleaked := exit_keeps_reference hempty hne hnot hlt hfirst hsince hmoves hrest
      have hkept := h.2 _ _ hdict
      omega
    | some props =>
      obtain ⟨hsettles, hsince2⟩ := hleft rfl
      have hall := hfirst.trans hknown (hsettles.around hlt1)
      have hsinceAll := hsince.trans (hsince2.around hlt1)
      have hrest' : PyRabbitMQ_Connection_basic_publish.sent Py_None answers exchange routing_key
        (decrefed self rt2) = (.ret r, rt') := hrest
      obtain ⟨hr, hreleased⟩ := sent_released hrest'
      obtain ⟨hbalanced, hkept⟩ :=
        released_balanced hsound hnone hempty hsinceAll hreleased hr
      rw [hbalanced, hall.neutral]
      exact ⟨fun h => h.1, fun h => ⟨h, hstand.kept hkept⟩⟩

theorem maybe_taken {value obj : PyRef}
    (hrun : PyObjectArray_Maybe_Unicode value rt = (.ret obj, rt')) :
    (obj = .null ∧ refused value.obj = true) ∨
      (obj ≠ .null ∧ refused value.obj = false ∧ rt'.err = rt.err) := by
  obtain ⟨obj1, rt1, hmade, hplain⟩ := maybe_erased value rt
  cases hrun.symm.trans hmade
  cases hrefused : refused value.obj with
  | true =>
    obtain ⟨err, hnull⟩ := maybe_refused hrefused rt.err
    rw [hnull, Prod.mk.injEq] at hplain
    refine Or.inl ⟨?_, rfl⟩
    cases obj with
    | null => rfl
    | _ => cases hplain.1
  | false =>
    rw [maybe_converted hrefused, Prod.mk.injEq] at hplain
    refine Or.inr ⟨fun h => ?_, rfl, hplain.2.symm⟩
    rw [h] at hplain
    exact converted_ne_null hrefused hplain.1

/-- An exit before the conversion. -/
theorem bail_balanced {P : List Nat} {r : Option Nat} (hsound : Sound (fun _ => []) rt.heap)
    (hnone : Py_None < rt.heap.next) (hempty : rt.array = .zero)
    (hsettles : Settles P rt rt1 true) (hsince : Since rt rt1)
    (hrun : bail rt1 = (.ret r, rt')) :
    Balanced (fun _ => []) rt.heap rt'.heap r ∧
      ∀ a, a < rt.heap.next → a ≠ Py_None → rt'.heap.count a = rt.heap.count a := by
  obtain ⟨rfl, hreleased⟩ := bail_released Py_None hrun
  obtain ⟨hbalanced, hkept⟩ :=
    released_balanced (r := none) hsound hnone hempty hsince hreleased (by simp)
  exact ⟨hbalanced.mpr (hsettles.neutral.mpr rfl), hkept⟩

/-- The references from the name of the routing key on. -/
theorem routed_balanced {args : PublishArgs} {exchange : PyRef} {r : Option Nat}
    (hsound : Sound (fun _ => []) rt.heap) (hnone : Py_None < rt.heap.next)
    (hempty : rt.array = .zero) (hstand : args.Stand Py_None rt.heap)
    (hfirst : Settles ((memberPlaces args.propdict.members).map Prod.fst) rt rt1 true)
    (hsince : Since rt rt1) (herr : rt1.err = none)
    (hrun : PyRabbitMQ_Connection_basic_publish.routed Py_None answers exchange args rt1 =
      (.ret r, rt')) :
    (Balanced (fun _ => []) rt.heap rt'.heap r ∧ DictKept args.propdict rt.heap rt'.heap) ↔
      ¬ (refused args.routing_key.obj = false ∧
        converts (memberObjs args.propdict.members) = false) := by
  have hknown := hstand.known hempty
  obtain ⟨routing_key, rt2, hrouting, hrest⟩ := Run.ret_of_bind hrun
  obtain ⟨hsettles, hsince2⟩ := maybe_leaves args.routing_key (hknown.moves hfirst.moves) hrouting
  have hboth := hfirst.trans hknown hsettles
  rcases maybe_taken hrouting with ⟨rfl, hrefused⟩ | ⟨hne, htaken, herr2⟩
  · obtain ⟨hbalanced, hkept⟩ :=
      bail_balanced hsound hnone hempty hboth (hsince.trans hsince2) hrest
    refine iff_of_true ⟨hbalanced, hstand.kept hkept⟩ fun h => ?_
    rw [h.1] at hrefused
    cases hrefused
  · have hnamed : PyRabbitMQ_Connection_basic_publish.named Py_None answers exchange routing_key
        args.propdict rt2 = (.ret r, rt') := by
      cases routing_key with
      | null => exact absurd rfl hne
      | _ => exact hrest
    rw [named_balanced hsound hnone hempty hstand hboth (hsince.trans hsince2) (herr2.trans herr)
      hnamed, htaken]
    simp

/-- The references of `_basic_publish` balance unless the conversion of the properties slips. -/
theorem publish_balanced {connected : Bool} {args : Option PublishArgs} {r : Option Nat}
    (hsound : Sound (fun _ => []) rt.heap) (hnone : Py_None < rt.heap.next) (herr : rt.err = none)
    (hstand : ∀ a, args = some a → a.Stand Py_None rt.heap)
    (hrun : PyRabbitMQ_Connection_basic_publish Py_None answers connected args rt =
      (.ret r, rt')) :
    (Balanced (fun _ => []) rt.heap rt'.heap r ∧
      ∀ a, args = some a → DictKept a.propdict rt.heap rt'.heap) ↔
        ¬ ∃ a, args = some a ∧ SlipsInConversion connected a := by
  obtain ⟨u, rt0, hmodify, hrun⟩ := Run.ret_of_bind hrun
  obtain ⟨hheap, hempty, herr0⟩ : rt.heap = rt0.heap ∧ rt0.array = .zero ∧ rt0.err = none := by
    cases hmodify
    exact ⟨rfl, rfl, herr⟩
  rw [hheap] at hsound hnone hstand ⊢
  have hleft : ∀ {P : List Nat} {rt1 : Rt}, Settles P rt0 rt1 true → Since rt0 rt1 →
      bail rt1 = (.ret r, rt') → Balanced (fun _ => []) rt0.heap rt'.heap r ∧
        ∀ a, args = some a → DictKept a.propdict rt0.heap rt'.heap := by
    intro P rt1 hsettles hsince h
    obtain ⟨hbalanced, hkept⟩ := bail_balanced hsound hnone hempty hsettles hsince h
    exact ⟨hbalanced, fun a ha => (hstand a ha).kept hkept⟩
  have hstart : Settles [] rt0 rt0 true := settles_same rfl rfl
  cases connected with
  | false =>
    refine iff_of_true (hleft hstart (.refl rt0) hrun) ?_
    rintro ⟨a, -, h⟩
    cases h.connected
  | true =>
    cases args with
    | none =>
      refine iff_of_true (hleft hstart (.refl rt0) hrun) ?_
      rintro ⟨a, ha, -⟩
      cases ha
    | some args =>
      have hstand := hstand args rfl
      have hknown := hstand.known hempty
      obtain ⟨exchange, rt1, hexchange, hrest⟩ := Run.ret_of_bind hrun
      obtain ⟨hsettles1, hsince1⟩ := maybe_leaves args.exchange hknown hexchange
      rcases maybe_taken hexchange with ⟨rfl, hrefused⟩ | ⟨hne, htaken, herr1⟩
      · refine iff_of_true (hleft hsettles1 hsince1 hrest) ?_
        rintro ⟨a, ha, h⟩
        cases ha
        rw [h.exchange] at hrefused
        cases hrefused
      · have hrouted : PyRabbitMQ_Connection_basic_publish.routed Py_None answers exchange args
            rt1 = (.ret r, rt') := by
          cases exchange with
          | null => exact absurd rfl hne
          | _ => exact hrest
        have hbalanced := routed_balanced hsound hnone hempty hstand hsettles1 hsince1
          (herr1.trans herr0) hrouted
        have hdict : (∀ a, some args = some a → DictKept a.propdict rt0.heap rt'.heap) ↔
            DictKept args.propdict rt0.heap rt'.heap := by simp
        rw [hdict, hbalanced, not_iff_not]
        constructor
        · rintro ⟨hrouting, hslips⟩
          exact ⟨args, rfl, rfl, htaken, hrouting, hslips⟩
        · rintro ⟨a, ha, h⟩
          cases ha
          exact ⟨h.routing_key, h.slips⟩

end

/-! ## Both calls -/

/-- A run of one of the calls: its arguments and the answers to it, the state before it and behind
it, and what it returned. -/
inductive Call where
  | basic_get (st : memory.Statics) (bytesAvailable : Nat → Bool) (answers : memory.GetAnswers)
      (connected : Bool) (queue : Option PyRef) (s s' : memory.Memory) (r : Option Nat)
  | basic_publish (Py_None : Nat) (answers : PublishAnswers) (connected : Bool)
      (args : Option PublishArgs) (rt rt' : Rt) (r : Option Nat)

/-- The counts of the state before it are in order, and the objects of its arguments stand. -/
def Call.Starts : Call → Prop
  | .basic_get st _ _ _ _ s _ _ => Sound memory.Obj.refs s.heap ∧ st.Py_None < s.heap.next
  | .basic_publish Py_None _ _ args rt _ _ =>
    (Sound (fun _ => []) rt.heap ∧ Py_None < rt.heap.next ∧ rt.err = none) ∧
      ∀ a, args = some a → a.Stand Py_None rt.heap

def Call.Returns : Call → Prop
  | .basic_get st bytesAvailable answers connected queue s s' r =>
    memory.PyRabbitMQ_Connection_basic_get st bytesAvailable answers connected queue s =
      (.ret r, s')
  | .basic_publish Py_None answers connected args rt rt' r =>
    PyRabbitMQ_Connection_basic_publish Py_None answers connected args rt = (.ret r, rt')

/-- The new objects have the references that are held, no object was released beyond its last one,
and the dict of the caller has the count that it had. -/
def Call.Balances : Call → Prop
  | .basic_get _ _ _ _ _ s s' r => Balanced memory.Obj.refs s.heap s'.heap r
  | .basic_publish _ _ _ args rt rt' r => Balanced (fun _ => []) rt.heap rt'.heap r ∧
    ∀ a, args = some a → DictKept a.propdict rt.heap rt'.heap

/-- The call fails behind a get-ok, or in the conversion of the properties. -/
def Call.Slips : Call → Prop
  | .basic_get _ bytesAvailable answers connected queue _ _ _ =>
    memory.FailsBehindGetOk bytesAvailable answers connected queue
  | .basic_publish _ _ connected args _ _ _ => ∃ a, args = some a ∧ SlipsInConversion connected a

/-- The references of `_basic_get` balance exactly when it does not fail behind a get-ok, and those
of `_basic_publish` exactly when the conversion of the properties does not slip. -/
theorem the_references_of_a_call_balance_exactly_without_a_slip {call : Call}
    (hstarts : call.Starts) (hreturns : call.Returns) : call.Balances ↔ ¬ call.Slips := by
  cases call with
  | basic_get st bytesAvailable answers connected queue s s' r =>
    exact memory.get_balanced hstarts.1 hstarts.2 hreturns
  | basic_publish Py_None answers connected args rt rt' r =>
    obtain ⟨⟨hsound, hnone, herr⟩, hstand⟩ := hstarts
    exact publish_balanced hsound hnone herr hstand hreturns

deriving instance DecidableEq for Outcome

theorem run_of_fst {ω α : Type} {x : Run ω α} {w : ω} {a : α} (h : (x w).1 = .ret a) :
    x w = (.ret a, (x w).2) := Prod.ext h rfl

/-- A state with `n` objects that hold nothing, each held once. -/
def memoryOf (n : Nat) : memory.Memory :=
  ⟨⟨fun a => if a < n then 1 else 0, fun _ => .plain .none, n⟩, .zero⟩

theorem sound_memoryOf (n : Nat) : Sound memory.Obj.refs (memoryOf n).heap := by
  refine containers.sound_of_plain (fun _ => rfl) (fun x hx => ?_) fun x => ?_
  · exact if_neg (Nat.not_lt.mpr hx)
  · unfold memoryOf
    dsimp only
    split <;> decide

theorem sound_startOf (n : Nat) : Sound (fun _ => []) (startOf n).heap := by
  refine containers.sound_of_plain (fun _ => rfl) (fun x hx => ?_) fun x => ?_
  · exact if_neg (Nat.not_lt.mpr hx)
  · unfold startOf
    dsimp only
    split <;> decide

/-- A get-ok for a queue `q`, with the reads that follow it. -/
def gotOk (reads : List ReadResult) : memory.GetAnswers :=
  ⟨.normal (.basic_get_ok ⟨1, false, [], [], 0⟩), [], true, reads⟩

/-- A publish whose dict has the content type. -/
def typed (content_type : PyStr) : PublishArgs :=
  ⟨.bytes 1 [120], .bytes 2 [120],
    .dict 3 [((4, .str (pyStr "content_type")), .str 5 content_type)]⟩

theorem typed_stands (content_type : PyStr) : (typed content_type).Stand 0 (startOf 6).heap := by
  have hstands : ∀ a, a < 6 → StandsAt (startOf 6).heap (a, none) :=
    fun a ha => ⟨ha, by simp [Heap.Alive, startOf, ha], fun b hb => by cases hb⟩
  refine ⟨fun place hplace => ?_, fun self members hdict => ?_⟩
  · have hmem : place ∈ [(3, none), (4, none), (5, none)] := hplace
    simp only [List.mem_cons, List.not_mem_nil, or_false] at hmem
    rcases hmem with rfl | rfl | rfl
    · exact hstands 3 (by decide)
    · exact hstands 4 (by decide)
    · exact hstands 5 (by decide)
  · cases hdict
    refine ⟨by decide, fun place hplace => ?_⟩
    have hmem : place ∈ [(4, none), (5, none)] := hplace
    simp only [List.mem_cons, List.not_mem_nil, or_false] at hmem
    rcases hmem with rfl | rfl <;> decide

/-- A message that is got, and one that is published with the content type `t`. -/
theorem a_message_is_got_and_one_is_published :
    (∃ s', memory.PyRabbitMQ_Connection_basic_get ⟨0, 1, 2⟩ (fun _ => true)
        (gotOk [.ok ⟨1, .header 2 .empty⟩, .ok ⟨1, .body_fragment ⟨[72, 105], by decide⟩⟩]) true
        (some (.str 2 (pyStr "q"))) (memoryOf 3) = (.ret (some 4), s') ∧
      Balanced memory.Obj.refs (memoryOf 3).heap s'.heap (some 4)) ∧
    ∃ rt', PyRabbitMQ_Connection_basic_publish 0 ⟨0, []⟩ true (some (typed (pyStr "t")))
        (startOf 6) = (.ret (some 0), rt') ∧
      Balanced (fun _ => []) (startOf 6).heap rt'.heap (some 0) ∧
      ∀ a, some (typed (pyStr "t")) = some a → DictKept a.propdict (startOf 6).heap rt'.heap := by
  refine ⟨⟨_, run_of_fst (by decide +kernel), ?_⟩, _, rfl, ?_⟩
  · refine (@the_references_of_a_call_balance_exactly_without_a_slip
      (.basic_get ⟨0, 1, 2⟩ (fun _ => true) _ true _ (memoryOf 3) _ _) ⟨sound_memoryOf 3, by decide⟩
      (run_of_fst (by decide +kernel))).mpr fun h => ?_
    exact absurd h.missed (by decide)
  · refine (@the_references_of_a_call_balance_exactly_without_a_slip
      (.basic_publish 0 ⟨0, []⟩ true (some (typed (pyStr "t"))) (startOf 6) _ _)
      ⟨⟨sound_startOf 6, by decide, rfl⟩, fun a ha => ?_⟩ rfl).mpr ?_
    · cases ha
      exact typed_stands _
    · rintro ⟨a, ha, h⟩
      cases ha
      exact absurd h.slips (by decide)

/-- The read behind a get-ok fails, and the exit releases `delivery_info` once more than it was
taken; the content type is no ASCII, and the exit leaves the dict with the reference that was taken
for the conversion. -/
theorem a_failed_call_does_not_balance :
    (∃ s', memory.PyRabbitMQ_Connection_basic_get ⟨0, 1, 2⟩ (fun _ => true)
        (gotOk [.failed (-9) (by decide)]) true (some (.str 2 (pyStr "q"))) (memoryOf 3) =
          (.ret none, s') ∧
      s'.heap.count 5 = -1 ∧ ¬ Balanced memory.Obj.refs (memoryOf 3).heap s'.heap none) ∧
    ∃ rt', PyRabbitMQ_Connection_basic_publish 0 ⟨0, []⟩ true (some (typed (pyStr "é")))
        (startOf 6) = (.ret none, rt') ∧
      ¬ DictKept (typed (pyStr "é")).propdict (startOf 6).heap rt'.heap := by
  have hcount : (memory.PyRabbitMQ_Connection_basic_get ⟨0, 1, 2⟩ (fun _ => true)
      (gotOk [.failed (-9) (by decide)]) true (some (.str 2 (pyStr "q")))
      (memoryOf 3)).2.heap.count 5 = -1 := by decide +kernel
  refine ⟨⟨_, run_of_fst (by decide +kernel), hcount, fun h => ?_⟩, _, rfl, fun h => ?_⟩
  · have := h.unspoiled 5
    omega
  · exact absurd (h 3 _ rfl) (by decide)

end librabbitmq.ownership
