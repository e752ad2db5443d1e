-- What a connection object owns: four strings, its callbacks, the client properties that it was
-- given and the server properties that a login decodes. `__init__` and `connect` store pointers,
-- and the destructor releases what the fields point to then.
import Librabbitmq.SyncReferences
import Mathlib.Algebra.Order.Pi

namespace librabbitmq.memory.connection_object

open references containers
open ownership (PyRefMembers Rt memberPlaces membersBalance memberObjs Converts)

/-! ## The object -/

/-- The client properties: an object, and the members where it is a dict. -/
structure ClientProperties where
  self : Nat
  members : Option PyRefMembers

/-- The fields that own something, and `connected`. -/
structure PyRabbitMQ_Connection where
  hostname : Option Nat
  userid : Option Nat
  password : Option Nat
  virtual_host : Option Nat
  callbacks : Option Nat
  client_properties : Option ClientProperties
  server_properties : Option Nat
  connected : Bool

/-- The objects, the blocks of `PyMem_Malloc`, and the connection. The members of the client
properties, with what is made of them, have a heap to themselves. -/
structure Process where
  objects : Memory
  arguments : Rt
  blocks : Heap Octets
  self : PyRabbitMQ_Connection

def onMemory {α : Type} (x : Run Memory α) : Run Process α := fun w =>
  ((x w.objects).1, { w with objects := (x w.objects).2 })

def onArguments {α : Type} (x : Run Rt α) : Run Process α := fun w =>
  ((x w.arguments).1, { w with arguments := (x w.arguments).2 })

def store (f : PyRabbitMQ_Connection → PyRabbitMQ_Connection) : Run Process Unit :=
  Run.modify fun w => { w with self := f w.self }

/-- A conversion in a thread that has given up its thread state. It finds no exception there,
and to raise one is to dereference NULL. -/
def withoutThreadState {α : Type} (survives : Bool) (x : Run Rt α) : Run Rt α := do
  let rt ← Run.get
  Run.modify fun rt => { rt with err := none }
  let a ← x
  let rt' ← Run.get
  if rt'.err.isNone && survives then
    Run.modify fun rt' => { rt' with err := rt.err }
    return a
  else Run.crash

/-! ### Blocks -/

/-- A block that nothing was written to, or NULL. -/
def PyMem_Malloc (available : Bool) : Run Process (Option Nat) :=
  if available then do
    let w ← Run.get
    Run.modify fun w => { w with blocks := w.blocks.alloc [] }
    return some w.blocks.next
  else return none

/-- A block can be given back once. -/
def PyMem_Free (b : Nat) : Run Process Unit := do
  let w ← Run.get
  if w.blocks.Alive b then Run.modify fun w => { w with blocks := w.blocks.decref b }
  else Run.crash

def strcpy : Option Nat → Octets → Run Process Unit
  | some dest, src => do
    let w ← Run.get
    if w.blocks.Alive dest then
      Run.modify fun w => { w with blocks := replace w.blocks dest (src ++ [0]) }
    else Run.crash
  | none, _ => Run.crash

/-! ## The methods -/

/-- What `__init__` is given, where a string can be left out, and whether
`PyArg_ParseTupleAndKeywords` takes it. -/
structure InitArguments where
  parsed : Bool
  hostname : Option Octets
  userid : Option Octets
  password : Option Octets
  virtual_host : Option Octets
  client_properties : Option ClientProperties

/-- Which of the allocations of `__init__` succeed. -/
structure Available where
  hostname : Bool
  userid : Bool
  password : Bool
  virtual_host : Bool
  callbacks : Bool

/-- What a dial comes to: a socket, the status of its opening, the reply to the login, what is
answered while the channel 0 is revived, and the properties of the server. -/
structure DialAnswers where
  socket : Bool
  status : Int
  reply : amqp_rpc_reply_t
  revivals : Revivals
  server_properties : amqp_table_t

/-- `Connection.__new__`. -/
def PyRabbitMQ_ConnectionType_new : Run Process Unit :=
  store fun _ => ⟨none, none, none, none, none, none, none, false⟩

def freeString : Option Nat → Run Process Unit
  | some b => PyMem_Free b
  | none => return ()

/-- `Connection.__del__`. -/
def PyRabbitMQ_ConnectionType_dealloc : Run Process Unit := do
  let w ← Run.get
  freeString w.self.hostname
  freeString w.self.userid
  freeString w.self.password
  freeString w.self.virtual_host
  onMemory (Py_XDECREF w.self.callbacks)
  onMemory (Py_XDECREF (w.self.client_properties.map ClientProperties.self))
  onMemory (Py_XDECREF w.self.server_properties)

def Py_XINCREF : Option Nat → Run Memory Unit
  | some a => Py_INCREF a
  | none => return ()

/-- From the dict of the callbacks on. -/
def PyRabbitMQ_ConnectionType_init.callbacks (client_properties : Option ClientProperties)
    (available : Bool) : Run Process Int :=
  if available then do
    let callbacks ← onMemory PyDict_New
    store fun self => { self with callbacks := some callbacks }
    onMemory (Py_XINCREF (client_properties.map ClientProperties.self))
    store fun self =>
      { self with client_properties := client_properties, server_properties := none }
    return 0
  else do
    store fun self => { self with callbacks := none }
    return -1

/-- From the first `PyMem_Malloc` on. -/
def PyRabbitMQ_ConnectionType_init.strings (hostname userid password virtual_host : Octets)
    (client_properties : Option ClientProperties) (available : Available) : Run Process Int := do
  let hostnameBlock ← PyMem_Malloc available.hostname
  let useridBlock ← PyMem_Malloc available.userid
  let passwordBlock ← PyMem_Malloc available.password
  let virtual_hostBlock ← PyMem_Malloc available.virtual_host
  store fun self => { self with
    hostname := hostnameBlock
    userid := useridBlock
    password := passwordBlock
    virtual_host := virtual_hostBlock }
  if hostnameBlock.isSome && useridBlock.isSome && passwordBlock.isSome &&
      virtual_hostBlock.isSome then
    strcpy hostnameBlock hostname
    strcpy useridBlock userid
    strcpy passwordBlock password
    strcpy virtual_hostBlock virtual_host
    PyRabbitMQ_ConnectionType_init.callbacks client_properties available.callbacks
  -- `PyErr_NoMemory`, and yet the result says that all went well
  else return 0

/-- `Connection.__init__`. A string that was left out is a pointer that was never set, and
`strlen` follows it. -/
def PyRabbitMQ_ConnectionType_init (arguments : InitArguments) (available : Available) :
    Run Process Int :=
  if arguments.parsed then
    match arguments.hostname, arguments.userid, arguments.password, arguments.virtual_host with
    | some hostname, some userid, some password, some virtual_host =>
      PyRabbitMQ_ConnectionType_init.strings hostname userid password virtual_host
        arguments.client_properties available
    | _, _, _, _ => Run.crash
  else return -1

section

variable (python : Interpreter) (st : Statics)

/-- `Connection._close`. -/
def PyRabbitMQ_Connection_close : Run Process Nat := do
  store fun self => { self with connected := false }
  onMemory (Py_INCREF st.Py_None)
  return st.Py_None

/-- A close whose result is dropped. -/
def dropClose : Run Process Unit := do
  let _ ← PyRabbitMQ_Connection_close st

/-- `bail:` -/
def PyRabbitMQ_Connection_connect.bail : Run Process (Option Nat) := do
  onArguments ownership.PyObjectArray_XDECREF
  return none

/-- The client properties, converted for the login and released behind it, between
`Py_BEGIN_ALLOW_THREADS` and `Py_END_ALLOW_THREADS`. -/
def PyRabbitMQ_Connection_connect.properties : Run Process Unit := do
  let w ← Run.get
  match w.self.client_properties.bind ClientProperties.members with
  | some members => do
    let _ ← onArguments (withoutThreadState (python.convertsDetached (memberObjs members))
      (ownership.PyDict_ToAMQTable members))
    onArguments ownership.PyObjectArray_XDECREF
  | none => return ()

/-- After the login. -/
def PyRabbitMQ_Connection_connect.granted (table : amqp_table_t) : Run Process (Option Nat) := do
  store fun self => { self with connected := true }
  let server_properties ← onMemory (AMQTable_toPyDict st table)
  store fun self => { self with server_properties := some server_properties }
  onMemory (Py_INCREF st.Py_None)
  return some st.Py_None

/-- From the login on, with a socket that is open. -/
def PyRabbitMQ_Connection_connect.login (answers : DialAnswers) : Run Process (Option Nat) := do
  PyRabbitMQ_Connection_connect.properties python
  let status ← PyRabbitMQ_HandleAMQError (dropClose st)
    (PyRabbitMQ_revive_channel (dropClose st) answers.revivals) answers.reply
  if status ≠ 0 then PyRabbitMQ_Connection_connect.bail
  else PyRabbitMQ_Connection_connect.granted st answers.server_properties

/-- `Connection.connect`. -/
def PyRabbitMQ_Connection_connect (answers : DialAnswers) : Run Process (Option Nat) := do
  onArguments (Run.modify fun rt => { rt with array := .zero })
  let w ← Run.get
  if w.self.connected then PyRabbitMQ_Connection_connect.bail
  else if answers.socket && answers.status == 0 then
    PyRabbitMQ_Connection_connect.login python st answers
  else do
    -- `error:`
    dropClose st
    PyRabbitMQ_Connection_connect.bail

/-! ## Lives -/

/-- One step in the life of a connection: a method of it, or what the application does to the
objects that it sees. -/
inductive Op where
  | init (arguments : InitArguments) (available : Available)
  | connect (answers : DialAnswers)
  | close
  | take (a : Nat)
  | give (a : Nat)
  | make (o : PyObj)

/-- The step, with the references that the application takes in it. -/
def Op.run : Op → Run Process (Nat → Int)
  | .init arguments available => do
    let _ ← PyRabbitMQ_ConnectionType_init arguments available
    return 0
  | .connect answers => do
    let r ← PyRabbitMQ_Connection_connect python st answers
    return owned r
  | .close => do
    let r ← PyRabbitMQ_Connection_close st
    return one r
  | .take a => do
    onMemory (Py_INCREF a)
    return one a
  | .give a => do
    onMemory (Py_DECREF a)
    return -one a
  | .make o => do
    let a ← onMemory (PyObject_New (.plain o))
    return one a

def Op.runs : List Op → Run Process (Nat → Int)
  | [] => return 0
  | op :: ops => do
    let kept ← op.run python st
    let kept' ← Op.runs ops
    return kept + kept'

/-- A connection from its making up to where it is given up. -/
def live (ops : List Op) : Run Process (Nat → Int) := do
  PyRabbitMQ_ConnectionType_new
  Op.runs python st ops

end

/-! ## What a life loses -/

/-- The conversion of the client properties keeps all references. -/
def ClientProperties.balances (c : ClientProperties) : Bool :=
  match c.members with
  | some members => membersBalance (memberObjs members)
  | none => true

/-- Which fields are set. The client properties come with what their conversion does. -/
structure Owner where
  strings : Bool
  callbacks : Bool
  client_properties : Option Bool
  server_properties : Bool
  connected : Bool

def Owner.new : Owner := ⟨false, false, none, false, false⟩

def Available.all (available : Available) : Bool :=
  available.hostname && available.userid && available.password && available.virtual_host

def Available.any (available : Available) : Bool :=
  available.hostname || available.userid || available.password || available.virtual_host

/-- `connect` comes to its login. -/
def DialAnswers.dials (answers : DialAnswers) : Bool := answers.socket && answers.status == 0

/-- The login is granted. -/
def DialAnswers.grants (answers : DialAnswers) : Bool :=
  answers.dials && match answers.reply with
    | .normal _ => true
    | _ => false

/-- The fields after a step. -/
def Op.after (owner : Owner) : Op → Owner
  | .init arguments available =>
    if arguments.parsed then
      if available.all then
        if available.callbacks then
          ⟨true, true, arguments.client_properties.map ClientProperties.balances, false,
            owner.connected⟩
        else { owner with strings := true, callbacks := false }
      else { owner with strings := available.any }
    else owner
  | .connect answers =>
    if owner.connected then owner
    else { owner with
      server_properties := owner.server_properties || answers.grants
      connected := answers.grants }
  | .close => { owner with connected := false }
  | _ => owner

/-- No field is overwritten while it is set, and the conversion of the client properties keeps all
references. -/
def Op.lossless (owner : Owner) : Op → Bool
  | .init arguments available =>
    !arguments.parsed || (!owner.strings && (!available.all || (!owner.callbacks &&
      (!available.callbacks || (owner.client_properties.isNone && !owner.server_properties)))))
  | .connect answers =>
    owner.connected || !answers.dials || (owner.client_properties.getD true &&
      (!answers.grants || !owner.server_properties))
  | _ => true

/-- The closes of a step whose result is dropped. -/
def Op.closes (owner : Owner) : Op → Nat
  | .connect answers =>
    if owner.connected then 0
    else if answers.dials then handleCloses (reviveCloses answers.revivals) answers.reply
    else 1
  | _ => 0

/-- In no step is anything lost. -/
def lossless : Owner → List Op → Bool
  | _, [] => true
  | owner, op :: ops => op.lossless owner && lossless (op.after owner) ops

def droppedCloses : Owner → List Op → Nat
  | _, [] => 0
  | owner, op :: ops => op.closes owner + droppedCloses (op.after owner) ops

/-- The places of what a step is given to convert. -/
def Op.places : Op → List (Nat × Option Octets)
  | .init arguments _ =>
    ((arguments.client_properties.bind ClientProperties.members).map memberPlaces).getD []
  | _ => []

/-- From one state to the other every block was given back, an object has the references that it
had, with `taken`, and what was made to convert the client properties is gone. -/
structure GivesBack (taken : Nat → Int) (w w' : Process) : Prop where
  blocks : ∀ b, b < w'.blocks.next →
    w'.blocks.count b = if b < w.blocks.next then w.blocks.count b else 0
  objects : ∀ x, loose Obj.refs w'.objects.heap x = loose Obj.refs w.objects.heap x + taken x
  arguments : ∀ a, a < w'.arguments.heap.next → w'.arguments.heap.count a =
    if a < w.arguments.heap.next then w.arguments.heap.count a else 0

/-! ## Blocks -/

section

theorem owned_nonneg (o : Option Nat) : 0 ≤ owned o := by
  cases o with
  | none => exact le_rfl
  | some a => exact one_nonneg a

theorem owned_eq_zero {o : Option Nat} : owned o = 0 ↔ o.isSome = false := by
  cases o with
  | none => exact iff_of_true rfl rfl
  | some a =>
    refine iff_of_false (fun h => ?_) Bool.noConfusion
    have := congrFun h a
    simp [owned, one] at this

/-- The blocks that were made since, of each of which `held` pointers are kept, and as many frees
are due. -/
structure Blocks (h h' : Heap Octets) (held : Nat → Int) : Prop where
  next_le : h.next ≤ h'.next
  old : ∀ b, b < h.next → h'.count b = h.count b
  new : ∀ b, h.next ≤ b → b < h'.next → h'.count b = held b
  range : ∀ b, b < h.next ∨ h'.next ≤ b → held b = 0

variable {h h' : Heap Octets} {held : Nat → Int} {w w' : Process}

theorem Blocks.congr {held' : Nat → Int} (hblocks : Blocks h h' held) (hheld : held = held') :
    Blocks h h' held' := hheld ▸ hblocks

theorem Blocks.refl (h : Heap Octets) : Blocks h h 0 :=
  ⟨le_rfl, fun _ _ => rfl, fun b hb hb' => by omega, fun _ _ => rfl⟩

theorem malloc_run {available : Bool} {r : Option Nat}
    (hrun : PyMem_Malloc available w = (.ret r, w')) :
    r.isSome = available ∧ w' = { w with blocks := w'.blocks } ∧
      ∀ {h : Heap Octets} {held : Nat → Int}, Blocks h w.blocks held →
        Blocks h w'.blocks (held + owned r) := by
  cases available with
  | false =>
    cases hrun
    exact ⟨rfl, rfl, fun hblocks => hblocks.congr (add_zero _).symm⟩
  | true =>
    cases hrun
    refine ⟨rfl, rfl, fun {h held} hblocks => ?_⟩
    have hle := hblocks.next_le
    refine ⟨hle.trans (Nat.le_succ _), fun b hb => ?_, fun b hb hb' => ?_, fun b hb => ?_⟩
    · exact (Heap.alloc_count_ne _ _ (by omega)).trans (hblocks.old b hb)
    · by_cases hself : b = w.blocks.next
      · subst hself
        have hzero := hblocks.range w.blocks.next (Or.inr le_rfl)
        rw [Heap.alloc_count_self, Pi.add_apply, hzero, owned, one, if_pos rfl, zero_add]
      · have hlt : b < w.blocks.next + 1 := hb'
        rw [Heap.alloc_count_ne _ _ hself, hblocks.new b hb (by omega), Pi.add_apply, owned, one,
          if_neg hself, add_zero]
    · have hne : b ≠ w.blocks.next := by
        rcases hb with hb | hb
        · omega
        · have hge : w.blocks.next + 1 ≤ b := hb
          omega
      have hzero : held b = 0 := hblocks.range b (hb.imp id fun hb => (Nat.le_succ _).trans hb)
      rw [Pi.add_apply, hzero, owned, one, if_neg hne, add_zero]

theorem strcpy_run {dest : Option Nat} {src : Octets} {u : Unit}
    (hrun : strcpy dest src w = (.ret u, w')) : w' = { w with blocks := w'.blocks } ∧
      ∀ {h : Heap Octets} {held : Nat → Int}, Blocks h w.blocks held →
        Blocks h w'.blocks held := by
  cases dest with
  | none => cases hrun
  | some b =>
    rw [strcpy, Run.get_bind_apply] at hrun
    split at hrun
    · cases hrun
      exact ⟨rfl, fun hblocks => ⟨hblocks.next_le, hblocks.old, hblocks.new, hblocks.range⟩⟩
    · cases hrun

/-- A string that is kept can be freed. -/
theorem free_returns {o : Option Nat} (hheld : 0 ≤ held)
    (hblocks : Blocks h w.blocks (owned o + held)) :
    ∃ blocks, freeString o w = (.ret (), { w with blocks := blocks }) ∧ Blocks h blocks held := by
  cases o with
  | none => exact ⟨w.blocks, rfl, hblocks.congr (zero_add held)⟩
  | some b =>
    have hpos : 0 < (owned (some b) + held) b := by
      have hle : 0 ≤ held b := hheld b
      rw [Pi.add_apply, owned, one, if_pos rfl]
      omega
    have hrange : h.next ≤ b ∧ b < w.blocks.next := by
      by_contra hout
      have := hblocks.range b (by omega)
      omega
    have hcount := hblocks.new b hrange.1 hrange.2
    have halive : w.blocks.Alive b := by
      unfold Heap.Alive
      omega
    refine ⟨w.blocks.decref b, ?_, hblocks.next_le, fun c hc => ?_, fun c hc hc' => ?_,
      fun c hc => ?_⟩
    · rw [freeString, PyMem_Free, Run.get_bind_apply, if_pos halive]
      rfl
    · rw [Heap.decref_count, if_neg (by omega), hblocks.old c hc, sub_zero]
    · rw [Heap.decref_count, hblocks.new c hc hc', Pi.add_apply, owned, one]
      split <;> omega
    · have := hblocks.range c hc
      rw [Heap.decref_next] at hc
      rw [Pi.add_apply, owned, one, if_neg (by omega), zero_add] at this
      exact this

end

/-! ## The client properties -/

section

/-- What conversions have done: `dropped` references of objects that were there are gone, and `left`
references to new ones remain. -/
structure Converted (h h' : Heap Octets) (dropped left : Nat → Int) : Prop where
  next_le : h.next ≤ h'.next
  old : ∀ a, a < h.next → h'.count a = h.count a - dropped a
  new : ∀ a, h.next ≤ a → a < h'.next → h'.count a = left a
  droppedRange : ∀ a, h.next ≤ a → dropped a = 0
  leftRange : ∀ a, a < h.next ∨ h'.next ≤ a → left a = 0

variable {h h' : Heap Octets} {dropped left : Nat → Int} {rt rt1 rt2 : Rt}

theorem Converted.refl (h : Heap Octets) : Converted h h 0 0 :=
  ⟨le_rfl, fun _ _ => (sub_zero _).symm, fun a ha ha' => by omega, fun _ _ => rfl, fun _ _ => rfl⟩

theorem Converted.same (hconverted : Converted h rt.heap dropped left)
    (hnext : rt1.heap.next = rt.heap.next) (hcount : rt1.heap.count = rt.heap.count) :
    Converted h rt1.heap dropped left := by
  obtain ⟨hle, hold, hnew, hdropped, hleft⟩ := hconverted
  rw [← hnext] at hle hnew hleft
  rw [← hcount] at hold hnew
  exact ⟨hle, hold, hnew, hdropped, hleft⟩

/-- One more conversion, of objects that were there from the start. What it drops and leaves over
does not make up for what was dropped or left over before. -/
theorem Converted.step {P : List Nat} {b : Bool} (hconverted : Converted h rt.heap dropped left)
    (hP : ∀ a ∈ P, a < h.next) (hconverts : Converts P rt rt1 b) :
    ∃ dropped' left', Converted h rt1.heap (dropped + dropped') (left + left') ∧
      0 ≤ dropped' ∧ 0 ≤ left' ∧ ((dropped' = 0 ∧ left' = 0) ↔ b = true) := by
  have hle := hconverted.next_le
  have hle' := hconverts.next_le
  refine ⟨fun a => if a < h.next then rt.heap.count a - rt1.heap.count a else 0,
    fun a => if rt.heap.next ≤ a ∧ a < rt1.heap.next then rt1.heap.count a else 0,
    ⟨hle.trans hle', fun a ha => ?_, fun a ha ha' => ?_, fun a ha => ?_, fun a ha => ?_⟩,
    fun a => ?_, fun a => ?_, ?_⟩
  · have := hconverted.old a ha
    simp only [Pi.add_apply, if_pos ha]
    omega
  · simp only [Pi.add_apply]
    by_cases hlt : a < rt.heap.next
    · rw [if_neg (by omega), add_zero, ← hconverted.new a ha hlt]
      exact hconverts.frame a hlt fun hmem => absurd (hP a hmem) (by omega)
    · rw [hconverted.leftRange a (Or.inr (by omega)), if_pos ⟨by omega, ha'⟩, zero_add]
  · simp only [Pi.add_apply, if_neg (not_lt.mpr ha), hconverted.droppedRange a ha, add_zero]
  · simp only [Pi.add_apply]
    rw [hconverted.leftRange a (by omega), if_neg (by omega), zero_add]
  · show 0 ≤ if a < h.next then rt.heap.count a - rt1.heap.count a else 0
    split
    · have := hconverts.falls a (by omega)
      omega
    · exact le_rfl
  · show 0 ≤ if rt.heap.next ≤ a ∧ a < rt1.heap.next then rt1.heap.count a else 0
    split
    · rename_i hrange
      exact hconverts.left a hrange.1 hrange.2
    · exact le_rfl
  · rw [hconverts.neutral]
    constructor
    · rintro ⟨hdropped, hleft⟩
      refine ⟨fun a ha => ?_, fun a ha ha' => ?_⟩
      · by_cases hold : a < h.next
        · have hzero := congrFun hdropped a
          simp only [if_pos hold, Pi.zero_apply] at hzero
          omega
        · exact hconverts.frame a ha fun hmem => hold (hP a hmem)
      · have hzero := congrFun hleft a
        simpa only [if_pos (And.intro ha ha'), Pi.zero_apply] using hzero
    · rintro ⟨hkept, hgone⟩
      refine ⟨funext fun a => ?_, funext fun a => ?_⟩
      · split
        · rw [hkept a (by omega), sub_self]
          rfl
        · rfl
      · split
        · rename_i hrange
          exact hgone a hrange.1 hrange.2
        · rfl

end

/-! ## The ledger -/

/-- Where something can be lost: a block, a reference to an object, and in a conversion a reference
to an object that was there or to a new one. -/
inductive Place where
  | block (b : Nat)
  | reference (x : Nat)
  | dropped (a : Nat)
  | left (a : Nat)

abbrev Losses := Place → Int

def Losses.blocks (E : Losses) : Nat → Int := fun b => E (.block b)

def Losses.references (E : Losses) : Nat → Int := fun x => E (.reference x)

def Losses.dropped (E : Losses) : Nat → Int := fun a => E (.dropped a)

def Losses.left (E : Losses) : Nat → Int := fun a => E (.left a)

def losses (blocks references dropped left : Nat → Int) : Losses
  | .block b => blocks b
  | .reference x => references x
  | .dropped a => dropped a
  | .left a => left a

/-- The blocks that the fields point to. -/
def PyRabbitMQ_Connection.blocks (self : PyRabbitMQ_Connection) : Nat → Int :=
  owned self.hostname + (owned self.userid + (owned self.password + (owned self.virtual_host + 0)))

/-- The references of the fields. -/
def PyRabbitMQ_Connection.references (self : PyRabbitMQ_Connection) : Nat → Int :=
  owned self.callbacks + (owned (self.client_properties.map ClientProperties.self) +
    (owned self.server_properties + 0))

def PyRabbitMQ_Connection.places (self : PyRabbitMQ_Connection) : List (Nat × Option Octets) :=
  ((self.client_properties.bind ClientProperties.members).map memberPlaces).getD []

/-- Which fields are set. -/
def PyRabbitMQ_Connection.owner (self : PyRabbitMQ_Connection) : Owner where
  strings := self.hostname.isSome || self.userid.isSome || self.password.isSome ||
    self.virtual_host.isSome
  callbacks := self.callbacks.isSome
  client_properties := self.client_properties.map ClientProperties.balances
  server_properties := self.server_properties.isSome
  connected := self.connected

section

variable {python : Interpreter} {st : Statics} {start w w' : Process} {kept : Nat → Int}
  {closes : Nat} {E : Losses}

/-- What the fields point to was given out. -/
structure Given (fields : PyRabbitMQ_Connection) (s : Memory) : Prop where
  callbacks : ∀ a ∈ fields.callbacks, a < s.heap.next
  client_properties : ∀ c ∈ fields.client_properties, c.self < s.heap.next
  server_properties : ∀ a ∈ fields.server_properties, a < s.heap.next

theorem Given.later {fields : PyRabbitMQ_Connection} {s s' : Memory} (h : Given fields s)
    (hlater : Later s s') : Given fields s' :=
  ⟨fun a ha => (h.callbacks a ha).trans_le hlater.next_le,
    fun c hc => (h.client_properties c hc).trans_le hlater.next_le,
    fun a ha => (h.server_properties a ha).trans_le hlater.next_le⟩

/-- Everything that was made or taken since `start` is held by a field or by the application, or it
is written down as lost. -/
structure Ledger (st : Statics) (start w : Process) (kept : Nat → Int) (closes : Nat)
    (E : Losses) : Prop where
  nonneg : 0 ≤ E
  blocks : Blocks start.blocks w.blocks (w.self.blocks + E.blocks)
  owes : Owes (loose Obj.refs start.objects.heap + kept + closes • one st.Py_None + E.references +
    w.self.references) w.objects
  given : Given w.self w.objects
  converted : Converted start.arguments.heap w.arguments.heap E.dropped E.left
  places : ∀ p ∈ w.self.places, p.1 < start.arguments.heap.next

theorem losses_nonneg {B R D F : Nat → Int} (hB : 0 ≤ B) (hR : 0 ≤ R) (hD : 0 ≤ D) (hF : 0 ≤ F) :
    0 ≤ losses B R D F := by
  intro place
  cases place with
  | block b => exact hB b
  | reference x => exact hR x
  | dropped a => exact hD a
  | left a => exact hF a

theorem losses_eq_zero {E : Losses} :
    E = 0 ↔ E.blocks = 0 ∧ E.references = 0 ∧ E.dropped = 0 ∧ E.left = 0 := by
  constructor
  · rintro rfl
    exact ⟨rfl, rfl, rfl, rfl⟩
  · rintro ⟨hB, hR, hD, hF⟩
    funext place
    cases place with
    | block b => exact congrFun hB b
    | reference x => exact congrFun hR x
    | dropped a => exact congrFun hD a
    | left a => exact congrFun hF a

theorem blocks_nonneg (self : PyRabbitMQ_Connection) : 0 ≤ self.blocks :=
  add_nonneg (owned_nonneg _) (add_nonneg (owned_nonneg _) (add_nonneg (owned_nonneg _)
    (add_nonneg (owned_nonneg _) le_rfl)))

theorem owned_add_eq_zero {o : Option Nat} {R : Nat → Int} (hR : 0 ≤ R) :
    owned o + R = 0 ↔ o.isSome = false ∧ R = 0 := by
  rw [add_eq_zero_iff_of_nonneg (owned_nonneg o) hR, owned_eq_zero]

/-- No string is set. -/
theorem blocks_eq_zero (self : PyRabbitMQ_Connection) :
    self.blocks = 0 ↔ self.owner.strings = false := by
  have h4 : 0 ≤ owned self.virtual_host + 0 := add_nonneg (owned_nonneg _) le_rfl
  have h3 := add_nonneg (owned_nonneg self.password) h4
  have h2 := add_nonneg (owned_nonneg self.userid) h3
  unfold PyRabbitMQ_Connection.blocks PyRabbitMQ_Connection.owner
  rw [owned_add_eq_zero h2, owned_add_eq_zero h3, owned_add_eq_zero h4, owned_add_eq_zero le_rfl]
  simp [and_assoc]

/-! ### One step -/

theorem onMemory_run {α : Type} {x : Run Memory α} {a : α} (hrun : onMemory x w = (.ret a, w')) :
    x w.objects = (.ret a, w'.objects) ∧ w' = { w with objects := w'.objects } := by
  obtain ⟨hr, hw⟩ := Prod.mk.inj hrun
  subst hw
  exact ⟨Prod.ext hr rfl, rfl⟩

theorem onArguments_run {α : Type} {x : Run Rt α} {a : α}
    (hrun : onArguments x w = (.ret a, w')) :
    x w.arguments = (.ret a, w'.arguments) ∧ w' = { w with arguments := w'.arguments } := by
  obtain ⟨hr, hw⟩ := Prod.mk.inj hrun
  subst hw
  exact ⟨Prod.ext hr rfl, rfl⟩

theorem owes_run {α : Type} {x : Run Memory α} {L : Nat → Int} {Q : α → Nat → Int} {s s' : Memory}
    {a : α} (hx : Owns 0 x Q) (hs : Owes L s) (hrun : x s = (.ret a, s')) :
    Later s s' ∧ Owes (L + Q a) s' :=
  hx (hs.congr (add_zero L).symm) hrun

theorem owns_xincref (o : Option Nat) : Owns 0 (Py_XINCREF o) fun _ => owned o := by
  cases o with
  | none => exact owns_pure rfl
  | some a => exact (owns_incref a).congr fun _ => zero_add _

theorem dict_given {s s' : Memory} {a : Nat} (hrun : PyDict_New s = (.ret a, s')) :
    a < s'.heap.next := by
  cases hrun
  exact Nat.lt_succ_self _

/-- A part of a step. The application takes `taken`, the results of `k` closes are dropped, and
something is lost exactly where the part is not lossless. -/
def Advances (st : Statics) (start w w' : Process) (taken : Nat → Int) (k : Nat)
    (lossless : Bool) : Prop :=
  ∀ ⦃kept : Nat → Int⦄ ⦃closes : Nat⦄ ⦃E : Losses⦄, Ledger st start w kept closes E →
    ∃ δ : Losses, 0 ≤ δ ∧ Ledger st start w' (kept + taken) (closes + k) (E + δ) ∧
      (δ = 0 ↔ lossless = true)

/-- Nothing makes up for what was lost. -/
theorem Advances.trans {w1 : Process} {taken taken' : Nat → Int} {k k' : Nat} {b b' : Bool}
    (h : Advances st start w w1 taken k b) (h' : Advances st start w1 w' taken' k' b') :
    Advances st start w w' (taken + taken') (k + k') (b && b') := by
  intro kept closes E hledger
  obtain ⟨δ, hδ, hledger1, hiff⟩ := h hledger
  obtain ⟨δ', hδ', hledger', hiff'⟩ := h' hledger1
  rw [add_assoc, add_assoc, add_assoc] at hledger'
  refine ⟨δ + δ', add_nonneg hδ hδ', hledger', ?_⟩
  rw [add_eq_zero_iff_of_nonneg hδ hδ', hiff, hiff', Bool.and_eq_true]

/-- A part that keeps the ledger as it is. -/
theorem advances_kept (h : ∀ {kept : Nat → Int} {closes : Nat} {E : Losses},
    Ledger st start w kept closes E → Ledger st start w' kept closes E) :
    Advances st start w w' 0 0 true := by
  intro kept closes E hledger
  refine ⟨0, le_rfl, ?_, iff_of_true rfl rfl⟩
  rw [add_zero, add_zero, add_zero]
  exact h hledger

theorem Advances.refl (w : Process) : Advances st start w w 0 0 true := advances_kept id

/-- The connection is told up or down. -/
theorem advances_connected (connected : Bool) : Advances st start w
    { w with self := { w.self with connected := connected } } 0 0 true :=
  advances_kept fun ⟨hnonneg, hblocks, howes, ⟨hcallbacks, hclient, hserver⟩, hconverted,
      hplaces⟩ => ⟨hnonneg, hblocks, howes, ⟨hcallbacks, hclient, hserver⟩, hconverted, hplaces⟩

/-- A run on the objects, whose result the application has. -/
theorem advances_objects {α : Type} {x : Run Memory α} {Q : α → Nat → Int} {a : α}
    (hx : Owns 0 x Q) (hrun : onMemory x w = (.ret a, w')) :
    Advances st start w w' (Q a) 0 true := by
  obtain ⟨hrun, hw⟩ := onMemory_run hrun
  intro kept closes E hledger
  obtain ⟨hlater, howes⟩ := owes_run hx hledger.owes hrun
  rw [hw]
  refine ⟨0, le_rfl, ⟨?_, ?_, howes.congr ?_, hledger.given.later hlater, ?_, ?_⟩,
    iff_of_true rfl rfl⟩
  · rw [add_zero]
    exact hledger.nonneg
  · rw [add_zero]
    exact hledger.blocks
  · rw [add_zero, add_zero]
    abel
  · rw [add_zero]
    exact hledger.converted
  · exact hledger.places

/-- A result that is dropped. -/
theorem Advances.drop {b : Bool} (h : Advances st start w w' (one st.Py_None) 0 b) :
    Advances st start w w' 0 1 b := by
  intro kept closes E hledger
  obtain ⟨δ, hδ, ⟨hnonneg, hblocks, howes, hgiven, hconverted, hplaces⟩, hiff⟩ := h hledger
  refine ⟨δ, hδ, ⟨hnonneg, hblocks, howes.congr ?_, hgiven, hconverted, hplaces⟩, hiff⟩
  rw [add_zero, add_zero, add_nsmul, one_nsmul]
  abel

theorem close_advances {r : Nat} (hrun : PyRabbitMQ_Connection_close st w = (.ret r, w')) :
    r = st.Py_None ∧ Advances st start w w' (one r) 0 true ∧
      w'.self = { w.self with connected := false } ∧ w'.arguments = w.arguments := by
  obtain ⟨u1, w1, hstore, hrun⟩ := Run.ret_of_bind hrun
  cases hstore
  obtain ⟨u2, w2, hincref, hpure⟩ := Run.ret_of_bind hrun
  cases hpure
  have hdown : Advances st start w { w with self := { w.self with connected := false } } 0 0 true :=
    advances_connected false
  have hnone := hdown.trans (advances_objects ((owns_incref _).congr fun _ => zero_add _) hincref)
  rw [zero_add] at hnone
  obtain ⟨-, hw⟩ := onMemory_run hincref
  exact ⟨rfl, hnone, by rw [hw], by rw [hw]⟩

/-! ### `__init__` -/

/-- New strings are stored, over what the fields pointed to. -/
theorem advances_strings {blocks : Heap Octets} {self : PyRabbitMQ_Connection}
    (hself : self = { w.self with
      hostname := self.hostname
      userid := self.userid
      password := self.password
      virtual_host := self.virtual_host })
    (hblocks : ∀ {held : Nat → Int}, Blocks start.blocks w.blocks held →
      Blocks start.blocks blocks (held + self.blocks)) :
    Advances st start w { w with blocks := blocks, self := self } 0 0 (!w.self.owner.strings) := by
  have hreferences : self.references = w.self.references := by rw [hself]; rfl
  have hplaces : self.places = w.self.places := by rw [hself]; rfl
  intro kept closes E hledger
  have hnonneg := losses_nonneg (blocks_nonneg w.self) (le_refl (0 : Nat → Int))
    (le_refl (0 : Nat → Int)) (le_refl (0 : Nat → Int))
  refine ⟨losses w.self.blocks 0 0 0, hnonneg, ⟨add_nonneg hledger.nonneg hnonneg, ?_, ?_, ?_,
    ?_, ?_⟩, ?_⟩
  · refine (hblocks hledger.blocks).congr ?_
    show w.self.blocks + E.blocks + self.blocks = self.blocks + (E.blocks + w.self.blocks)
    abel
  · refine hledger.owes.congr ?_
    show _ = _ + (E.references + 0) + self.references
    rw [hreferences, add_zero, add_zero, add_zero]
  · show Given self w.objects
    rw [hself]
    exact ⟨hledger.given.callbacks, hledger.given.client_properties,
      hledger.given.server_properties⟩
  · show Converted _ _ (E.dropped + 0) (E.left + 0)
    rw [add_zero, add_zero]
    exact hledger.converted
  · show ∀ p ∈ self.places, p.1 < start.arguments.heap.next
    rw [hplaces]
    exact hledger.places
  · rw [losses_eq_zero, Bool.not_eq_true', ← blocks_eq_zero]
    exact ⟨fun h => h.1, fun h => ⟨h, rfl, rfl, rfl⟩⟩

variable (st start) in
theorem advances_strcpy {dest : Option Nat} {src : Octets} {u : Unit}
    (hrun : strcpy dest src w = (.ret u, w')) :
    Advances st start w w' 0 0 true ∧ w'.self = w.self := by
  obtain ⟨hw, hblocks⟩ := strcpy_run hrun
  refine ⟨advances_kept fun hledger => ?_, by rw [hw]⟩
  have hheld := hblocks hledger.blocks
  rw [hw]
  exact ⟨hledger.nonneg, hheld, hledger.owes, hledger.given, hledger.converted, hledger.places⟩

/-- A run on the objects makes or takes what is stored, over what the fields pointed to. -/
theorem advances_fields {objects : Memory} {self : PyRabbitMQ_Connection} (lost : Nat → Int)
    {b : Bool} (hblocks : self.blocks = w.self.blocks) (hlost : 0 ≤ lost)
    (hiff : lost = 0 ↔ b = true) (hplaces : ∀ p ∈ self.places, p ∉ w.self.places →
      p.1 < start.arguments.heap.next)
    (howes : ∀ {L : Nat → Int}, Owes (L + w.self.references) w.objects → Given w.self w.objects →
      Owes (L + lost + self.references) objects ∧ Given self objects) :
    Advances st start w { w with objects := objects, self := self } 0 0 b := by
  intro kept closes E hledger
  have hnonneg := losses_nonneg (le_refl (0 : Nat → Int)) hlost (le_refl (0 : Nat → Int))
    (le_refl (0 : Nat → Int))
  obtain ⟨howed, hgiven⟩ := howes hledger.owes hledger.given
  refine ⟨losses 0 lost 0 0, hnonneg, ⟨add_nonneg hledger.nonneg hnonneg, ?_, ?_, hgiven, ?_,
    fun p hp => ?_⟩, ?_⟩
  · show Blocks _ _ (self.blocks + (E.blocks + 0))
    rw [hblocks, add_zero]
    exact hledger.blocks
  · refine howed.congr ?_
    show _ + E.references + lost + _ = _ + (E.references + lost) + _
    rw [add_zero, add_zero]
    abel
  · show Converted _ _ (E.dropped + 0) (E.left + 0)
    rw [add_zero, add_zero]
    exact hledger.converted
  · by_cases hold : p ∈ w.self.places
    · exact hledger.places p hold
    · exact hplaces p hp hold
  · rw [losses_eq_zero, ← hiff]
    exact ⟨fun h => h.2.1, fun h => ⟨rfl, h, rfl, rfl⟩⟩

/-- The dict of the callbacks, or NULL. -/
theorem advances_callbacks {objects : Memory} {callbacks : Option Nat}
    (hmade : ∀ {L : Nat → Int}, Owes L w.objects →
      Later w.objects objects ∧ Owes (L + owned callbacks) objects ∧
        ∀ a ∈ callbacks, a < objects.heap.next) :
    Advances st start w
      { w with objects := objects, self := { w.self with callbacks := callbacks } } 0 0
      (!w.self.callbacks.isSome) := by
  refine advances_fields (owned w.self.callbacks) rfl (owned_nonneg _) ?_
    (fun p hp hnot => absurd hp hnot) fun howes hgiven => ?_
  · rw [owned_eq_zero, Bool.not_eq_true']
  · obtain ⟨hlater, howed, hnew⟩ := hmade howes
    refine ⟨howed.congr ?_, hnew, (hgiven.later hlater).client_properties,
      (hgiven.later hlater).server_properties⟩
    unfold PyRabbitMQ_Connection.references
    abel

/-- The client properties are stored, and those of the server forgotten. -/
theorem advances_client {objects : Memory} {c : Option ClientProperties} {u : Unit}
    (hplaces : ∀ p ∈ ((c.bind ClientProperties.members).map memberPlaces).getD [],
      p.1 < start.arguments.heap.next)
    (hincref : Py_XINCREF (c.map ClientProperties.self) w.objects = (.ret u, objects)) :
    Advances st start w { w with
      objects := objects
      self := { w.self with client_properties := c, server_properties := none } } 0 0
      (w.self.owner.client_properties.isNone && !w.self.owner.server_properties) := by
  refine advances_fields (owned (w.self.client_properties.map ClientProperties.self) +
    owned w.self.server_properties) rfl (add_nonneg (owned_nonneg _) (owned_nonneg _)) ?_
    (fun p hp _ => hplaces p hp) fun howes hgiven => ?_
  · rw [add_eq_zero_iff_of_nonneg (owned_nonneg _) (owned_nonneg _), owned_eq_zero, owned_eq_zero]
    simp [PyRabbitMQ_Connection.owner]
  · obtain ⟨hlater, howed⟩ := owes_run (owns_xincref _) howes hincref
    refine ⟨howed.congr ?_, (hgiven.later hlater).callbacks, fun d hd => ?_,
      fun b hb => by cases hb⟩
    · show _ + (owned w.self.callbacks + _) + owned (c.map ClientProperties.self) =
        _ + (owned w.self.callbacks + (owned (c.map ClientProperties.self) + (0 + 0)))
      abel
    · have hd : c = some d := hd
      rw [hd] at hincref
      exact (howes.closed.lt_of_alive (incref_run hincref).1).trans_le hlater.next_le

variable (st) in
/-- From the dict of the callbacks on. -/
theorem callbacks_advance {client_properties : Option ClientProperties} {available : Bool} {r : Int}
    (hplaces : ∀ p ∈ ((client_properties.bind ClientProperties.members).map memberPlaces).getD [],
      p.1 < start.arguments.heap.next)
    (hrun : PyRabbitMQ_ConnectionType_init.callbacks client_properties available w =
      (.ret r, w')) :
    Advances st start w w' 0 0 (!w.self.owner.callbacks && (!available ||
      (w.self.owner.client_properties.isNone && !w.self.owner.server_properties))) ∧
    w'.self.owner = if available then
        ⟨w.self.owner.strings, true, client_properties.map ClientProperties.balances, false,
          w.self.owner.connected⟩
      else { w.self.owner with callbacks := false } := by
  cases available with
  | false =>
    obtain ⟨u, w1, hstore, hpure⟩ := Run.ret_of_bind hrun
    cases hstore
    cases hpure
    refine ⟨?_, rfl⟩
    rw [Bool.not_false, Bool.true_or, Bool.and_true]
    exact advances_callbacks fun howes =>
      ⟨.refl _, howes.congr (add_zero _).symm, fun a ha => by cases ha⟩
  | true =>
    obtain ⟨a, w1, hdict, hrun⟩ := Run.ret_of_bind hrun
    obtain ⟨u1, w2, hstore, hrun⟩ := Run.ret_of_bind hrun
    cases hstore
    obtain ⟨u2, w3, hincref, hrun⟩ := Run.ret_of_bind hrun
    obtain ⟨u3, w4, hstore, hpure⟩ := Run.ret_of_bind hrun
    cases hstore
    cases hpure
    obtain ⟨hdict, hw1⟩ := onMemory_run hdict
    obtain ⟨hincref, hw3⟩ := onMemory_run hincref
    have hfirst : Advances st start w { w with
        objects := w1.objects
        self := { w.self with callbacks := some a } } 0 0 (!w.self.owner.callbacks) :=
      advances_callbacks fun howes => by
        obtain ⟨hlater, howed⟩ := owes_run (owns_dict.congr fun _ => zero_add _) howes hdict
        exact ⟨hlater, howed, fun b hb => Option.mem_some.mp hb ▸ dict_given hdict⟩
    have hsecond := hfirst.trans (advances_client hplaces hincref)
    rw [hw3, hw1]
    exact ⟨hsecond, rfl⟩

/-- A call that returns was not taken, or had all of its strings. -/
theorem init_run {arguments : InitArguments} {available : Available} {r : Int}
    (hrun : PyRabbitMQ_ConnectionType_init arguments available w = (.ret r, w')) :
    (arguments.parsed = false ∧ w' = w) ∨ (arguments.parsed = true ∧
      ∃ hostname userid password virtual_host, PyRabbitMQ_ConnectionType_init.strings hostname
        userid password virtual_host arguments.client_properties available w = (.ret r, w')) := by
  obtain ⟨parsed, hostname, userid, password, virtual_host, client_properties⟩ := arguments
  cases parsed with
  | false =>
    cases hrun
    exact Or.inl ⟨rfl, rfl⟩
  | true =>
    refine Or.inr ⟨rfl, ?_⟩
    cases hostname with
    | none => cases hrun
    | some hostname =>
      cases userid with
      | none => cases hrun
      | some userid =>
        cases password with
        | none => cases hrun
        | some password =>
          cases virtual_host with
          | none => cases hrun
          | some virtual_host => exact ⟨hostname, userid, password, virtual_host, hrun⟩

theorem all_any {available : Available} (hall : available.all = true) : available.any = true := by
  unfold Available.all at hall
  unfold Available.any
  simp only [Bool.and_eq_true] at hall
  rw [hall.2, Bool.or_true]

variable (st start) in
/-- Four strings are made and stored. -/
theorem mallocs_advance {available : Available} {h u p v : Option Nat} {w1 w2 w3 w4 : Process}
    (hmalloc1 : PyMem_Malloc available.hostname w = (.ret h, w1))
    (hmalloc2 : PyMem_Malloc available.userid w1 = (.ret u, w2))
    (hmalloc3 : PyMem_Malloc available.password w2 = (.ret p, w3))
    (hmalloc4 : PyMem_Malloc available.virtual_host w3 = (.ret v, w4)) :
    w4 = { w with blocks := w4.blocks } ∧
    (h.isSome && u.isSome && p.isSome && v.isSome) = available.all ∧
    Advances st start w { w with
      blocks := w4.blocks
      self := { w.self with hostname := h, userid := u, password := p, virtual_host := v } } 0 0
      (!w.self.owner.strings) ∧
    ({ w.self with hostname := h, userid := u, password := p, virtual_host := v } :
      PyRabbitMQ_Connection).owner = { w.self.owner with strings := available.any } := by
  obtain ⟨hh, hw1, hblocks1⟩ := malloc_run hmalloc1
  obtain ⟨hu, hw2, hblocks2⟩ := malloc_run hmalloc2
  obtain ⟨hp, hw3, hblocks3⟩ := malloc_run hmalloc3
  obtain ⟨hv, hw4, hblocks4⟩ := malloc_run hmalloc4
  rw [hw3, hw2, hw1] at hw4
  refine ⟨hw4, by rw [hh, hu, hp, hv]; rfl, advances_strings rfl fun hblocks => ?_, ?_⟩
  · refine (hblocks4 (hblocks3 (hblocks2 (hblocks1 hblocks)))).congr ?_
    unfold PyRabbitMQ_Connection.blocks
    abel
  · unfold PyRabbitMQ_Connection.owner Available.any
    rw [← hh, ← hu, ← hp, ← hv]

variable (st start) in
theorem strcpys_advance {h u p v : Option Nat} {hostname userid password virtual_host : Octets}
    {u1 u2 u3 u4 : Unit} {w1 w2 w3 : Process} (hcopy1 : strcpy h hostname w = (.ret u1, w1))
    (hcopy2 : strcpy u userid w1 = (.ret u2, w2)) (hcopy3 : strcpy p password w2 = (.ret u3, w3))
    (hcopy4 : strcpy v virtual_host w3 = (.ret u4, w')) :
    Advances st start w w' 0 0 true ∧ w'.self = w.self := by
  obtain ⟨hcopied1, hself1⟩ := advances_strcpy st start hcopy1
  obtain ⟨hcopied2, hself2⟩ := advances_strcpy st start hcopy2
  obtain ⟨hcopied3, hself3⟩ := advances_strcpy st start hcopy3
  obtain ⟨hcopied4, hself4⟩ := advances_strcpy st start hcopy4
  have hcopied := ((hcopied1.trans hcopied2).trans hcopied3).trans hcopied4
  simp only [add_zero, Bool.and_true] at hcopied
  exact ⟨hcopied, by rw [hself4, hself3, hself2, hself1]⟩

/-- The strings are overwritten first, and the other fields only where all of them were made. -/
theorem strings_advance {hostname userid password virtual_host : Octets}
    {c : Option ClientProperties} {available : Available} {r : Int}
    (hplaces : ∀ p ∈ ((c.bind ClientProperties.members).map memberPlaces).getD [],
      p.1 < start.arguments.heap.next)
    (hrun : PyRabbitMQ_ConnectionType_init.strings hostname userid password virtual_host c
      available w = (.ret r, w')) :
    Advances st start w w' 0 0 (!w.self.owner.strings && (!available.all ||
      (!w.self.owner.callbacks && (!available.callbacks ||
        (w.self.owner.client_properties.isNone && !w.self.owner.server_properties))))) ∧
    w'.self.owner = if available.all then
        if available.callbacks then
          ⟨true, true, c.map ClientProperties.balances, false, w.self.owner.connected⟩
        else { w.self.owner with strings := true, callbacks := false }
      else { w.self.owner with strings := available.any } := by
  obtain ⟨h, w1, hmalloc1, hrun⟩ := Run.ret_of_bind hrun
  obtain ⟨u, w2, hmalloc2, hrun⟩ := Run.ret_of_bind hrun
  obtain ⟨p, w3, hmalloc3, hrun⟩ := Run.ret_of_bind hrun
  obtain ⟨v, w4, hmalloc4, hrun⟩ := Run.ret_of_bind hrun
  obtain ⟨u5, w5, hstore, hrun⟩ := Run.ret_of_bind hrun
  cases hstore
  obtain ⟨hw4, hmade, hstrings, howner⟩ :=
    mallocs_advance st start hmalloc1 hmalloc2 hmalloc3 hmalloc4
  rw [hmade, hw4] at hrun
  cases hall : available.all with
  | false =>
    rw [hall, if_neg Bool.false_ne_true] at hrun
    cases hrun
    rw [Bool.not_false, Bool.true_or, Bool.and_true]
    exact ⟨hstrings, howner⟩
  | true =>
    rw [hall, if_pos rfl] at hrun
    obtain ⟨u6, w6, hcopy1, hrun⟩ := Run.ret_of_bind hrun
    obtain ⟨u7, w7, hcopy2, hrun⟩ := Run.ret_of_bind hrun
    obtain ⟨u8, w8, hcopy3, hrun⟩ := Run.ret_of_bind hrun
    obtain ⟨u9, w9, hcopy4, hrun⟩ := Run.ret_of_bind hrun
    obtain ⟨hcopied, hself⟩ :=
      strcpys_advance st start hcopy1 hcopy2 hcopy3 hcopy4
    obtain ⟨hcallbacks, howner'⟩ := callbacks_advance st hplaces hrun
    rw [hself, howner] at hcallbacks howner'
    have hadvances := hstrings.trans (hcopied.trans hcallbacks)
    simp only [add_zero, Bool.true_and] at hadvances
    rw [all_any hall] at howner'
    exact ⟨hadvances, howner'⟩

/-- `PyRabbitMQ_ConnectionType_init` as a step. -/
theorem init_advances {arguments : InitArguments} {available : Available} {r : Int}
    (hplaces : ∀ p ∈ (Op.init arguments available).places, p.1 < start.arguments.heap.next)
    (hrun : PyRabbitMQ_ConnectionType_init arguments available w = (.ret r, w')) :
    Advances st start w w' 0 0 ((Op.init arguments available).lossless w.self.owner) ∧
      w'.self.owner = (Op.init arguments available).after w.self.owner := by
  rw [Op.lossless, Op.after]
  rcases init_run hrun with ⟨hparsed, rfl⟩ | ⟨hparsed, _, _, _, _, hrun⟩
  · rw [hparsed]
    exact ⟨.refl w', rfl⟩
  · rw [hparsed, Bool.not_true, Bool.false_or, if_pos rfl]
    exact strings_advance hplaces hrun

/-! ### `connect` -/

theorem advances_arguments {rt : Rt} (hnext : rt.heap.next = w.arguments.heap.next)
    (hcount : rt.heap.count = w.arguments.heap.count) :
    Advances st start w { w with arguments := rt } 0 0 true :=
  advances_kept fun ⟨hnonneg, hblocks, howes, hgiven, hconverted, hplaces⟩ =>
    ⟨hnonneg, hblocks, howes, hgiven, hconverted.same hnext hcount, hplaces⟩

theorem withoutThreadState_run {α : Type} {survives : Bool} {x : Run Rt α} {rt rt' : Rt} {a : α}
    (hrun : withoutThreadState survives x rt = (.ret a, rt')) :
    ∃ rt1, x { rt with err := none } = (.ret a, rt1) ∧ rt1.err = none ∧ survives = true ∧
      rt' = { rt1 with err := rt.err } := by
  rw [withoutThreadState, Run.get_bind_apply, Run.modify_bind_apply] at hrun
  obtain ⟨b, rt1, hx, hrest⟩ := Run.ret_of_bind hrun
  rw [Run.get_bind_apply] at hrest
  split at hrest
  · rename_i hquiet
    cases hrest
    rw [Bool.and_eq_true, Option.isNone_iff_eq_none] at hquiet
    exact ⟨rt1, hx, hquiet.1, hquiet.2, rfl⟩
  · cases hrest

/-- The conversion of the client properties with the release of what was recorded. -/
theorem table_converts {members : PyRefMembers} {t : ownership.amqp_table_t} {u : Unit}
    {survives : Bool} {rt rt1 rt2 : Rt} (hempty : rt.array = .zero)
    (hgiven : ∀ p ∈ memberPlaces members, p.1 < rt.heap.next)
    (hloop : withoutThreadState survives (ownership.PyDict_ToAMQTable members) rt = (.ret t, rt1))
    (hclear : ownership.PyObjectArray_XDECREF rt1 = (.ret u, rt2)) :
    Converts ((memberPlaces members).map Prod.fst) rt rt2 (membersBalance (memberObjs members)) ∧
      rt2.array = .zero := by
  obtain ⟨rt1', hconv, -, -, rfl⟩ := withoutThreadState_run hloop
  have hknown : ownership.Known ((memberPlaces members).map Prod.fst) { rt with err := none } := by
    refine ⟨fun a ha => ?_, fun a ha => ?_⟩
    · obtain ⟨p, hp, rfl⟩ := List.mem_map.mp ha
      exact hgiven p hp
    · dsimp only at ha
      rw [hempty] at ha
      cases ha
  have hp : ∀ p ∈ memberPlaces members, p.1 ∈ (memberPlaces members).map Prod.fst :=
    fun p hp => List.mem_map_of_mem hp
  have hcleared := ownership.xdecref_cleared hclear
  have hcleared' : ownership.Cleared rt1' rt2 := ⟨hcleared.array, hcleared.next, hcleared.count⟩
  have hmakes : ownership.Makes ((memberPlaces members).map Prod.fst) { rt with err := none } rt1'
      (membersBalance (memberObjs members)) :=
    ⟨ownership.members_settle members hp hknown hconv,
      ownership.members_fresh members hp hknown hconv⟩
  have hconverts := hmakes.converts (by exact hempty) hcleared'
  exact ⟨⟨hconverts.next_le, hconverts.falls, hconverts.frame, hconverts.left,
    hconverts.neutral⟩, hcleared.array⟩

theorem balances_of_members {fields : PyRabbitMQ_Connection} {members : PyRefMembers}
    (hmembers : fields.client_properties.bind ClientProperties.members = some members) :
    fields.owner.client_properties.getD true = membersBalance (memberObjs members) ∧
      fields.places = memberPlaces members := by
  obtain ⟨c, hc, hcmembers⟩ := Option.bind_eq_some_iff.mp hmembers
  unfold PyRabbitMQ_Connection.owner PyRabbitMQ_Connection.places
  rw [hmembers, hc]
  refine ⟨?_, rfl⟩
  show c.balances = _
  unfold ClientProperties.balances
  rw [hcmembers]

/-- Client properties that are no dict are not converted. -/
theorem balances_of_none {fields : PyRabbitMQ_Connection}
    (hmembers : fields.client_properties.bind ClientProperties.members = none) :
    fields.owner.client_properties.getD true = true := by
  unfold PyRabbitMQ_Connection.owner
  cases hc : fields.client_properties with
  | none => rfl
  | some c =>
    rw [hc] at hmembers
    show c.balances = _
    unfold ClientProperties.balances
    rw [show c.members = none from hmembers]

variable (st start) in
theorem properties_advance {u : Unit} (hempty : w.arguments.array = .zero)
    (hrun : PyRabbitMQ_Connection_connect.properties python w = (.ret u, w')) :
    Advances st start w w' 0 0 (w.self.owner.client_properties.getD true) ∧ w'.self = w.self ∧
      w'.arguments.array = .zero := by
  rw [PyRabbitMQ_Connection_connect.properties, Run.get_bind_apply] at hrun
  cases hmembers : w.self.client_properties.bind ClientProperties.members with
  | none =>
    rw [hmembers] at hrun
    cases hrun
    rw [balances_of_none hmembers]
    exact ⟨.refl w, rfl, hempty⟩
  | some members =>
    rw [hmembers] at hrun
    obtain ⟨hbalances, hplaces⟩ := balances_of_members hmembers
    obtain ⟨t, w1, hloop, hclear⟩ := Run.ret_of_bind hrun
    obtain ⟨hloop, hw1⟩ := onArguments_run hloop
    obtain ⟨hclear, hw'⟩ := onArguments_run hclear
    rw [hw1] at hw'
    refine ⟨fun kept closes E hledger => ?_, by rw [hw'], ?_⟩
    · have hgiven : ∀ p ∈ memberPlaces members, p.1 < start.arguments.heap.next :=
        fun p hp => hledger.places p (by rwa [hplaces])
      have hle := hledger.converted.next_le
      obtain ⟨hconverts, -⟩ := table_converts hempty
        (fun p hp => (hgiven p hp).trans_le hle) hloop hclear
      obtain ⟨dropped, left, hconverted, hdropped, hleft, hiff⟩ := hledger.converted.step
        (fun a ha => by
          obtain ⟨p, hp, rfl⟩ := List.mem_map.mp ha
          exact hgiven p hp) hconverts
      have hnonneg := losses_nonneg (le_refl (0 : Nat → Int)) (le_refl (0 : Nat → Int)) hdropped
        hleft
      refine ⟨losses 0 0 dropped left, hnonneg, ?_, ?_⟩
      · rw [hw']
        refine ⟨add_nonneg hledger.nonneg hnonneg, hledger.blocks.congr ?_,
          hledger.owes.congr ?_, hledger.given, hconverted, hledger.places⟩
        · show _ = w.self.blocks + (E.blocks + 0)
          rw [add_zero]
        · show _ = _ + (E.references + 0) + w.self.references
          rw [add_zero, add_zero, add_zero]
      · rw [losses_eq_zero, hbalances, ← hiff]
        exact ⟨fun h => h.2.2, fun h => ⟨rfl, rfl, h⟩⟩
    · obtain ⟨harray, -, -⟩ := ownership.xdecref_cleared hclear
      exact harray

/-- Client properties that got past the login raise nothing, and the interpreter converts them
without a thread state. -/
theorem properties_survive {u : Unit} {members : PyRefMembers}
    (hmembers : w.self.client_properties.bind ClientProperties.members = some members)
    (hrun : PyRabbitMQ_Connection_connect.properties python w = (.ret u, w')) :
    python.convertsDetached (memberObjs members) = true ∧
      ∃ t, PyDict_ToAMQTable (memberObjs members) none = .ret (t, none) := by
  rw [PyRabbitMQ_Connection_connect.properties, Run.get_bind_apply, hmembers] at hrun
  obtain ⟨t, w1, hloop, -⟩ := Run.ret_of_bind hrun
  obtain ⟨rt1, hconv, hquiet, hsurvives, -⟩ := withoutThreadState_run (onArguments_run hloop).1
  refine ⟨hsurvives, ownership.tableFields t, ?_⟩
  have herased := ownership.toAMQTable_erased members { w.arguments with err := none }
  rw [hconv] at herased
  unfold ownership.Erased at herased
  rw [herased]
  exact congrArg (fun err => Outcome.ret (ownership.tableFields t, err)) hquiet

/-- `k` closes of a connection that is not up, whose results are dropped. -/
def Closed (st : Statics) (start : Process) (k : Nat) (w w' : Process) : Prop :=
  w.self.connected = false →
    Advances st start w w' 0 k true ∧ w'.self = w.self ∧ w'.arguments = w.arguments

theorem closed_none (w : Process) : Closed st start 0 w w := fun _ => ⟨.refl w, rfl, rfl⟩

variable (st start) in
theorem closed_once {u : Unit} (hrun : dropClose st w = (.ret u, w')) :
    Closed st start 1 w w' := by
  intro hdown
  obtain ⟨r, w1, hclose, hpure⟩ := Run.ret_of_bind hrun
  cases hpure
  obtain ⟨rfl, hadvances, hself, harguments⟩ := close_advances hclose
  refine ⟨hadvances.drop, hself.trans ?_, harguments⟩
  rw [← hdown]

variable (st start) in
theorem login_handled {answers : DialAnswers} {n : Int}
    (hrun : PyRabbitMQ_HandleAMQError (dropClose st)
      (PyRabbitMQ_revive_channel (dropClose st) answers.revivals) answers.reply w = (.ret n, w')) :
    Closed st start (handleCloses (reviveCloses answers.revivals) answers.reply) w w' :=
  handle_closes closed_none (closed_once st start)
    (revive_closes closed_none (closed_once st start)) hrun

theorem table_given {table : amqp_table_t} {s s' : Memory} {a : Nat}
    (hsealed : Sealed Obj.refs s.heap) (hrun : AMQTable_toPyDict st table s = (.ret a, s')) :
    a < s'.heap.next := by
  obtain ⟨dict, s1, hdict, hrun⟩ := Run.ret_of_bind hrun
  obtain ⟨u, s2, hloop, hpure⟩ := Run.ret_of_bind hrun
  cases hpure
  have hs : Owes (loose Obj.refs s.heap) s := ⟨hsealed, fun _ => rfl⟩
  obtain ⟨-, hs1⟩ := owes_run (owns_dict.congr fun _ => zero_add _) hs hdict
  obtain ⟨hlater, -⟩ := table_owns st _ table hs1 hloop
  exact (dict_given hdict).trans_le hlater.next_le

variable (st start) in
/-- After the login. The dict of the login before is lost. -/
theorem granted_advance {table : amqp_table_t} {r : Option Nat}
    (hrun : PyRabbitMQ_Connection_connect.granted st table w = (.ret r, w')) :
    Advances st start w w' (owned r) 0 (!w.self.owner.server_properties) ∧
      w'.self.owner = { w.self.owner with server_properties := true, connected := true } := by
  obtain ⟨u1, w1, hstore, hrun⟩ := Run.ret_of_bind hrun
  cases hstore
  obtain ⟨a, w2, htable, hrun⟩ := Run.ret_of_bind hrun
  obtain ⟨u3, w3, hstore, hrun⟩ := Run.ret_of_bind hrun
  cases hstore
  obtain ⟨u4, w4, hincref, hpure⟩ := Run.ret_of_bind hrun
  cases hpure
  obtain ⟨htable, hw2⟩ := onMemory_run htable
  have hconnected : Advances st start w { w with self := { w.self with connected := true } } 0 0
      true := advances_connected true
  have hstored : Advances st start { w with self := { w.self with connected := true } } { w with
      objects := w2.objects
      self := { w.self with connected := true, server_properties := some a } } 0 0
      (!w.self.owner.server_properties) := by
    refine advances_fields (owned w.self.server_properties) rfl (owned_nonneg _) ?_
      (fun p hp hnot => absurd hp hnot) fun howes hgiven => ?_
    · rw [owned_eq_zero, Bool.not_eq_true']
      rfl
    · obtain ⟨hlater, howed⟩ := owes_run ((owns_table st table).congr fun _ => zero_add _) howes
        htable
      refine ⟨howed.congr ?_, (hgiven.later hlater).callbacks,
        (hgiven.later hlater).client_properties, fun b hb => ?_⟩
      · unfold PyRabbitMQ_Connection.references
        show _ + (_ + (_ + (owned w.self.server_properties + 0))) + owned (some a) = _
        abel
      · exact Option.mem_some.mp hb ▸ table_given howes.closed htable
  rw [hw2] at hincref
  dsimp only at hincref
  have hreturned : Advances st start { w with
      objects := w2.objects
      self := { w.self with connected := true, server_properties := some a } } w'
      (one st.Py_None) 0 true :=
    advances_objects (Q := fun _ => one st.Py_None) ((owns_incref _).congr fun _ => zero_add _)
      hincref
  have hadvances := (hconnected.trans hstored).trans hreturned
  obtain ⟨-, hw'⟩ := onMemory_run hincref
  simp only [zero_add, Bool.true_and, Bool.and_true] at hadvances
  rw [hw'] at hadvances ⊢
  exact ⟨hadvances, rfl⟩

variable (st start) in
/-- `bail:` finds the array empty. -/
theorem bail_advances {r : Option Nat} (hempty : w.arguments.array = .zero)
    (hrun : PyRabbitMQ_Connection_connect.bail w = (.ret r, w')) :
    Advances st start w w' (owned r) 0 true ∧ w'.self = w.self := by
  obtain ⟨u, w1, hclear, hpure⟩ := Run.ret_of_bind hrun
  cases hpure
  obtain ⟨hclear, hw'⟩ := onArguments_run hclear
  obtain ⟨-, hnext, hcount⟩ := ownership.xdecref_cleared hclear
  rw [hw']
  refine ⟨advances_arguments hnext (funext fun x => ?_), rfl⟩
  rw [hcount x, hempty]
  exact sub_zero _

/-- A login that is granted is a normal reply. -/
theorem grants_iff {answers : DialAnswers} (hdials : answers.dials = true) :
    answers.grants = true ↔ ∃ m, answers.reply = .normal m := by
  unfold DialAnswers.grants
  rw [hdials, Bool.true_and]
  cases answers.reply with
  | normal m => exact iff_of_true rfl ⟨m, rfl⟩
  | _ => exact iff_of_false Bool.false_ne_true fun ⟨m, h⟩ => by cases h

theorem owner_down {fields : PyRabbitMQ_Connection} (hdown : fields.connected = false) :
    { fields.owner with connected := false } = fields.owner := by
  unfold PyRabbitMQ_Connection.owner
  rw [hdown]

variable (st start) in
theorem login_advance {answers : DialAnswers} {r : Option Nat}
    (hrun : PyRabbitMQ_Connection_connect.login python st answers w = (.ret r, w'))
    (hdials : answers.dials = true) (hdown : w.self.connected = false)
    (hempty : w.arguments.array = .zero) :
    Advances st start w w' (owned r) (handleCloses (reviveCloses answers.revivals) answers.reply)
      (w.self.owner.client_properties.getD true &&
        (!answers.grants || !w.self.owner.server_properties)) ∧
    w'.self.owner = { w.self.owner with
      server_properties := w.self.owner.server_properties || answers.grants
      connected := answers.grants } := by
  obtain ⟨u1, w1, hproperties, hhandled⟩ := Run.ret_of_bind hrun
  obtain ⟨status, w2, hhandle, hend⟩ := Run.ret_of_bind hhandled
  obtain ⟨hconverted, hself1, hempty1⟩ := properties_advance st start hempty
    hproperties
  obtain ⟨hclosed, hself2, harguments⟩ := login_handled st start hhandle
    (by rw [hself1]; exact hdown)
  have hbefore := hconverted.trans hclosed
  rw [Bool.and_true, zero_add, zero_add] at hbefore
  have hstatus := handle_zero hhandle
  by_cases hnormal : ∃ m, answers.reply = .normal m
  · have hzero : status = 0 := by
      rcases hstatus with ⟨hzero, -, -⟩ | ⟨-, hfailed⟩
      · exact hzero
      · obtain ⟨m, hm⟩ := hnormal
        exact absurd hm (hfailed m)
    rw [if_neg (not_not.mpr hzero)] at hend
    obtain ⟨hgranted, howner⟩ := granted_advance st start hend
    have hadvances := hbefore.trans hgranted
    rw [hself2, hself1, zero_add, add_zero] at hadvances
    rw [(grants_iff hdials).mpr hnormal, howner, hself2, hself1, Bool.not_true, Bool.false_or,
      Bool.or_true]
    exact ⟨hadvances, rfl⟩
  · have hnonzero : status ≠ 0 := by
      rcases hstatus with ⟨-, -, hm⟩ | ⟨hnonzero, -⟩
      · exact absurd hm hnormal
      · exact hnonzero
    have hnot : answers.grants = false :=
      Bool.eq_false_iff.mpr fun h => hnormal ((grants_iff hdials).mp h)
    rw [if_pos hnonzero] at hend
    obtain ⟨hbail, hself'⟩ := bail_advances st start
      (by rw [harguments]; exact hempty1) hend
    have hadvances := hbefore.trans hbail
    rw [Bool.and_true, zero_add, add_zero] at hadvances
    rw [hnot, hself', hself2, hself1, Bool.not_false, Bool.true_or, Bool.and_true, Bool.or_false]
    exact ⟨hadvances, (owner_down hdown).symm⟩

/-- `connect` as a step. -/
theorem connect_advances {answers : DialAnswers} {r : Option Nat}
    (hrun : PyRabbitMQ_Connection_connect python st answers w = (.ret r, w')) :
    Advances st start w w' (owned r) ((Op.connect answers).closes w.self.owner)
        ((Op.connect answers).lossless w.self.owner) ∧
      w'.self.owner = (Op.connect answers).after w.self.owner := by
  rw [Op.closes, Op.lossless, Op.after]
  obtain ⟨u0, w0, hreset, hrun⟩ := Run.ret_of_bind hrun
  cases hreset
  rw [Run.get_bind_apply] at hrun
  have hstart : Advances st start w
      { w with arguments := { w.arguments with array := .zero } } 0 0 true :=
    advances_arguments rfl rfl
  have hdials : answers.dials = (answers.socket && answers.status == 0) := rfl
  have hup : w.self.owner.connected = w.self.connected := rfl
  rw [← hdials] at hrun
  dsimp only at hrun
  cases hconnected : w.self.connected with
  | true =>
    rw [if_pos hconnected] at hrun
    obtain ⟨hbail, hself⟩ := bail_advances st start rfl hrun
    have hadvances := hstart.trans hbail
    rw [zero_add] at hadvances
    rw [hup, hconnected, if_pos rfl, if_pos rfl, Bool.true_or, Bool.true_or, hself]
    exact ⟨hadvances, rfl⟩
  | false =>
    rw [if_neg (by rw [hconnected]; exact Bool.false_ne_true)] at hrun
    rw [hup, hconnected, if_neg Bool.false_ne_true, if_neg Bool.false_ne_true, Bool.false_or]
    cases hd : answers.dials with
    | false =>
      rw [hd, if_neg Bool.false_ne_true] at hrun
      obtain ⟨u1, w1, hclose, hbail⟩ := Run.ret_of_bind hrun
      obtain ⟨hclosed, hself1, harguments⟩ := closed_once st start hclose hconnected
      obtain ⟨hbail, hself⟩ := bail_advances st start
        (by rw [harguments]; rfl) hbail
      have hadvances := (hstart.trans hclosed).trans hbail
      have hnot : answers.grants = false := by
        unfold DialAnswers.grants
        rw [hd, Bool.false_and]
      rw [zero_add, zero_add] at hadvances
      rw [hself, hself1, hnot, Bool.or_false]
      exact ⟨hadvances, (owner_down hconnected).symm⟩
    | true =>
      rw [hd, if_pos rfl] at hrun
      obtain ⟨hlogin, howner⟩ := login_advance st start hrun hd hconnected rfl
      have hadvances := hstart.trans hlogin
      rw [zero_add, zero_add] at hadvances
      exact ⟨hadvances, howner⟩

/-! ### Lives -/

/-- Every step advances by what the fields say of it. -/
theorem op_advances {op : Op} {taken : Nat → Int}
    (hplaces : ∀ p ∈ op.places, p.1 < start.arguments.heap.next)
    (hrun : op.run python st w = (.ret taken, w')) :
    Advances st start w w' taken (op.closes w.self.owner) (op.lossless w.self.owner) ∧
      w'.self.owner = op.after w.self.owner := by
  cases op with
  | init arguments available =>
    obtain ⟨r, w1, hinit, hpure⟩ := Run.ret_of_bind hrun
    cases hpure
    exact init_advances hplaces hinit
  | connect answers =>
    obtain ⟨r, w1, hconnect, hpure⟩ := Run.ret_of_bind hrun
    cases hpure
    exact connect_advances hconnect
  | close =>
    obtain ⟨r, w1, hclose, hpure⟩ := Run.ret_of_bind hrun
    cases hpure
    obtain ⟨-, hadvances, hself, -⟩ := close_advances hclose
    exact ⟨hadvances, by rw [hself]; rfl⟩
  | take a =>
    obtain ⟨u, w1, htake, hpure⟩ := Run.ret_of_bind hrun
    cases hpure
    have hw := (onMemory_run htake).2
    refine ⟨advances_objects (Q := fun _ => one a) ((owns_incref a).congr fun _ => zero_add _)
      htake, ?_⟩
    rw [hw]
    rfl
  | give a =>
    obtain ⟨u, w1, hgive, hpure⟩ := Run.ret_of_bind hrun
    cases hpure
    have hw := (onMemory_run hgive).2
    refine ⟨advances_objects (Q := fun _ => -one a) ((owns_decref a).congr fun _ => zero_sub _)
      hgive, ?_⟩
    rw [hw]
    rfl
  | make o =>
    obtain ⟨a, w1, hmake, hpure⟩ := Run.ret_of_bind hrun
    cases hpure
    have hw := (onMemory_run hmake).2
    refine ⟨advances_objects ((owns_new rfl).congr fun _ => zero_add _) hmake, ?_⟩
    rw [hw]
    rfl

/-- A whole life, by induction on its steps. -/
theorem runs_advance {ops : List Op} : ∀ {w w' : Process} {kept : Nat → Int},
    (∀ op ∈ ops, ∀ p ∈ op.places, p.1 < start.arguments.heap.next) →
      Op.runs python st ops w = (.ret kept, w') →
        Advances st start w w' kept (droppedCloses w.self.owner ops)
          (lossless w.self.owner ops) := by
  induction ops with
  | nil =>
    intro w w' kept _ hrun
    cases hrun
    exact .refl w
  | cons op ops ih =>
    intro w w' kept hplaces hrun
    obtain ⟨taken, w1, hop, hrun⟩ := Run.ret_of_bind hrun
    obtain ⟨kept', w2, hops, hpure⟩ := Run.ret_of_bind hrun
    cases hpure
    obtain ⟨hfirst, howner⟩ := op_advances (hplaces op List.mem_cons_self) hop
    have hrest := ih (fun op h => hplaces op (List.mem_cons_of_mem _ h)) hops
    rw [howner] at hrest
    exact hfirst.trans hrest

/-- A new connection owns nothing. -/
theorem ledger_new (hsound : Sound Obj.refs start.objects.heap) :
    Ledger st start { start with self := ⟨none, none, none, none, none, none, none, false⟩ }
      0 0 0 := by
  refine ⟨le_rfl, .refl _, ⟨hsound.sealed, fun x => ?_⟩, ⟨?_, ?_, ?_⟩, .refl _, ?_⟩
  · simp [Losses.references, PyRabbitMQ_Connection.references, owned]
  all_goals
    intro _ h
    cases h

/-! ### The end of a life -/

/-- A reference of a field is released. -/
theorem xdecref_returns {o : Option Nat} {s : Memory} {L : Nat → Int}
    (hgiven : ∀ a ∈ o, a < s.heap.next) (hs : Owes (L + owned o) s) :
    ∃ s', Py_XDECREF o s = (.ret (), s') ∧ Later s s' ∧ Owes L s' := by
  obtain ⟨s', hrun⟩ : ∃ s', Py_XDECREF o s = (.ret (), s') := by
    cases o with
    | none => exact ⟨s, rfl⟩
    | some a =>
      refine ⟨{ s with heap := drop Obj.refs s.heap a }, ?_⟩
      rw [Py_XDECREF, Py_DECREF, Run.get_bind_apply, if_pos (hgiven a rfl)]
      rfl
  obtain ⟨hlater, howes⟩ := owes_run ((owns_xdecref o).congr fun _ => zero_sub _) hs hrun
  exact ⟨s', hrun, hlater, howes.congr (by abel)⟩

theorem onMemory_returns {α : Type} {x : Run Memory α} {a : α} {s' : Memory}
    (hrun : x w.objects = (.ret a, s')) : onMemory x w = (.ret a, { w with objects := s' }) := by
  unfold onMemory
  rw [hrun]

/-- The destructor releases what the fields point to, and nothing else. -/
theorem dealloc_returns (hledger : Ledger st start w kept closes E) :
    ∃ blocks objects, PyRabbitMQ_ConnectionType_dealloc w =
        (.ret (), { w with blocks := blocks, objects := objects }) ∧
      Blocks start.blocks blocks E.blocks ∧
      Owes (loose Obj.refs start.objects.heap + kept + closes • one st.Py_None + E.references)
        objects := by
  have hE : 0 ≤ E.blocks := fun b => hledger.nonneg (.block b)
  have h4 := add_nonneg (owned_nonneg w.self.virtual_host) hE
  have h3 := add_nonneg (owned_nonneg w.self.password) h4
  have h2 := add_nonneg (owned_nonneg w.self.userid) h3
  have hblocks : Blocks start.blocks w.blocks (owned w.self.hostname + (owned w.self.userid +
      (owned w.self.password + (owned w.self.virtual_host + E.blocks)))) :=
    hledger.blocks.congr (by unfold PyRabbitMQ_Connection.blocks; abel)
  obtain ⟨blocks1, hfree1, hblocks1⟩ := free_returns h2 hblocks
  obtain ⟨blocks2, hfree2, hblocks2⟩ := free_returns (w := { w with blocks := blocks1 }) h3 hblocks1
  obtain ⟨blocks3, hfree3, hblocks3⟩ := free_returns (w := { w with blocks := blocks2 }) h4 hblocks2
  obtain ⟨blocks4, hfree4, hblocks4⟩ := free_returns (w := { w with blocks := blocks3 }) hE hblocks3
  have howes : Owes (loose Obj.refs start.objects.heap + kept + closes • one st.Py_None +
      E.references + owned w.self.server_properties +
      owned (w.self.client_properties.map ClientProperties.self) + owned w.self.callbacks)
      w.objects := hledger.owes.congr (by unfold PyRabbitMQ_Connection.references; abel)
  obtain ⟨s1, hdecref1, hlater1, howes1⟩ := xdecref_returns hledger.given.callbacks howes
  obtain ⟨s2, hdecref2, hlater2, howes2⟩ := xdecref_returns (fun a ha => by
    obtain ⟨c, hc, rfl⟩ := Option.map_eq_some_iff.mp ha
    exact (hledger.given.later hlater1).client_properties c hc) howes1
  obtain ⟨s3, hdecref3, -, howes3⟩ := xdecref_returns
    ((hledger.given.later hlater1).later hlater2).server_properties howes2
  have hobjects1 := onMemory_returns (w := { w with blocks := blocks4 }) hdecref1
  have hobjects2 := onMemory_returns (w := { w with blocks := blocks4, objects := s1 }) hdecref2
  have hobjects3 := onMemory_returns (w := { w with blocks := blocks4, objects := s2 }) hdecref3
  refine ⟨blocks4, s3, ?_, hblocks4, howes3⟩
  unfold PyRabbitMQ_ConnectionType_dealloc
  rw [Run.get_bind_apply, Run.bind_ret hfree1, Run.bind_ret hfree2, Run.bind_ret hfree3,
    Run.bind_ret hfree4]
  exact (Run.bind_ret hobjects1).trans ((Run.bind_ret hobjects2).trans hobjects3)

/-- Everything was given back exactly when nothing is written down as lost. -/
theorem givesBack_iff {blocks : Heap Octets} {objects : Memory}
    (hledger : Ledger st start w kept closes E) (hblocks : Blocks start.blocks blocks E.blocks)
    (howes : Owes (loose Obj.refs start.objects.heap + kept + closes • one st.Py_None +
      E.references) objects) :
    GivesBack (kept + closes • one st.Py_None) start
      { w with blocks := blocks, objects := objects } ↔ E = 0 := by
  have hconverted := hledger.converted
  rw [losses_eq_zero]
  constructor
  · intro h
    refine ⟨funext fun b => ?_, funext fun x => ?_, funext fun a => ?_, funext fun a => ?_⟩
    · by_cases hrange : start.blocks.next ≤ b ∧ b < blocks.next
      · have hcount : blocks.count b = if b < start.blocks.next then _ else 0 :=
          h.blocks b hrange.2
        rw [if_neg (by omega)] at hcount
        exact (hblocks.new b hrange.1 hrange.2).symm.trans hcount
      · exact hblocks.range b (by omega)
    · have hloose := h.objects x
      have howed := howes.loose x
      simp only [Pi.add_apply] at hloose howed
      show E.references x = 0
      have hloose : loose Obj.refs objects.heap x = _ := hloose
      omega
    · by_cases hold : a < start.arguments.heap.next
      · have hcount := h.arguments a (lt_of_lt_of_le hold hconverted.next_le)
        rw [if_pos hold] at hcount
        have hdropped := hconverted.old a hold
        show E.dropped a = 0
        have hcount : w.arguments.heap.count a = start.arguments.heap.count a := hcount
        omega
      · exact hconverted.droppedRange a (by omega)
    · by_cases hrange : start.arguments.heap.next ≤ a ∧ a < w.arguments.heap.next
      · have hcount := h.arguments a hrange.2
        rw [if_neg (by omega)] at hcount
        exact (hconverted.new a hrange.1 hrange.2).symm.trans hcount
      · exact hconverted.leftRange a (by omega)
  · rintro ⟨hB, hR, hD, hF⟩
    rw [hB] at hblocks
    rw [hR, add_zero] at howes
    rw [hD, hF] at hconverted
    refine ⟨fun b hb => ?_, fun x => ?_, fun a ha => ?_⟩
    · split
      · exact hblocks.old b (by omega)
      · exact hblocks.new b (by omega) hb
    · rw [howes.loose x]
      simp only [Pi.add_apply]
      omega
    · split
      · rename_i hold
        rw [hconverted.old a hold]
        exact sub_zero _
      · exact hconverted.new a (by omega) ha

/-- Whatever is done with a connection, and whatever fails short of the process itself, its
destructor then returns: no block is freed twice. All that was made is given back, with one
reference to `None` left for each close whose result is dropped, if and only if no field was
overwritten while it was set and the client properties were converted without a loss. No count
falls below zero while the application gives back its own references only. -/
theorem a_connection_gives_back_all_unless_a_field_is_overwritten {ops : List Op}
    (hsound : Sound Obj.refs start.objects.heap)
    (hplaces : ∀ op ∈ ops, ∀ p ∈ op.places, p.1 < start.arguments.heap.next)
    (hrun : live python st ops start = (.ret kept, w)) :
    ∃ w', PyRabbitMQ_ConnectionType_dealloc w = (.ret (), w') ∧
      (GivesBack (kept + droppedCloses .new ops • one st.Py_None) start w' ↔
        lossless .new ops = true) ∧
      ((∀ x, 0 ≤ loose Obj.refs start.objects.heap x + kept x) →
        ∀ x, 0 ≤ w'.objects.heap.count x) := by
  obtain ⟨u, w0, hnew, hruns⟩ := Run.ret_of_bind hrun
  cases hnew
  obtain ⟨E, hE, hledger, hiff⟩ := runs_advance hplaces hruns (ledger_new hsound)
  rw [zero_add, zero_add, zero_add] at hledger
  replace hledger : Ledger st start w kept (droppedCloses .new ops) E := hledger
  obtain ⟨blocks, objects, hdealloc, hblocks, howes⟩ := dealloc_returns hledger
  refine ⟨_, hdealloc, (givesBack_iff hledger hblocks howes).trans hiff, fun hkept x => ?_⟩
  have hloose := howes.loose x
  have hold := hkept x
  have hnone : 0 ≤ (droppedCloses .new ops • one st.Py_None) x :=
    nsmul_nonneg (one_nonneg st.Py_None x) _
  have hlost : 0 ≤ E.references x := hE (.reference x)
  rw [loose] at hloose
  simp only [Pi.add_apply] at hloose
  show 0 ≤ objects.heap.count x
  omega

end

/-- A connection that is made with client properties, and a login. -/
def dialled : List Op :=
  [.init ⟨true, some [104], some [117], some [112], some [118],
      some ⟨3, some [((3, .str (pyStr "x")), .int 4 7)]⟩⟩ ⟨true, true, true, true, true⟩,
    .connect ⟨true, 0, .normal (.other 0), [], []⟩, .close]

/-- Five objects on each side, and no block. -/
def freshProcess : Process :=
  ⟨ownership.memoryOf 5, ownership.startOf 5, ⟨fun _ => 0, fun _ => [], 0⟩,
    ⟨none, none, none, none, none, none, none, false⟩⟩

def returned {α : Type} : Outcome α → Bool
  | .ret _ => true
  | _ => false

theorem ret_of_returned {α : Type} {x : Run Process α} {w : Process}
    (h : returned (x w).1 = true) : ∃ a, x w = (.ret a, (x w).2) := by
  rcases hx : x w with ⟨o, w'⟩
  rw [hx] at h
  cases o with
  | ret a => exact ⟨a, rfl⟩
  | _ => cases h

/-- One login gives everything back. With another one the server properties of the first are
lost. -/
theorem a_second_login_loses_the_server_properties :
    (∃ kept w w', live .lenient ⟨0, 1, 2⟩ dialled freshProcess = (.ret kept, w) ∧
      PyRabbitMQ_ConnectionType_dealloc w = (.ret (), w') ∧ GivesBack kept freshProcess w') ∧
    ∃ kept w w', live .lenient ⟨0, 1, 2⟩
        (dialled ++ [.connect ⟨true, 0, .normal (.other 0), [], []⟩]) freshProcess =
          (.ret kept, w) ∧
      PyRabbitMQ_ConnectionType_dealloc w = (.ret (), w') ∧ ¬ GivesBack kept freshProcess w' := by
  obtain ⟨kept, hrun⟩ := ret_of_returned (x := live .lenient ⟨0, 1, 2⟩ dialled) (w := freshProcess)
    (by decide +kernel)
  obtain ⟨kept', hrun'⟩ := ret_of_returned (x := live .lenient ⟨0, 1, 2⟩
    (dialled ++ [.connect ⟨true, 0, .normal (.other 0), [], []⟩])) (w := freshProcess)
    (by decide +kernel)
  obtain ⟨w', hdealloc, hiff, -⟩ := a_connection_gives_back_all_unless_a_field_is_overwritten
    (ownership.sound_memoryOf 5) (by decide +kernel) hrun
  obtain ⟨w'', hdealloc', hiff', -⟩ := a_connection_gives_back_all_unless_a_field_is_overwritten
    (ownership.sound_memoryOf 5) (by decide +kernel) hrun'
  refine ⟨⟨kept, _, w', hrun, hdealloc, ?_⟩, kept', _, w'', hrun', hdealloc', fun h => ?_⟩
  · have hgives := hiff.mpr (by decide +kernel)
    have hzero : droppedCloses .new dialled = 0 := by decide +kernel
    rwa [hzero, zero_nsmul, add_zero] at hgives
  · have hzero : droppedCloses .new
        (dialled ++ [.connect ⟨true, 0, .normal (.other 0), [], []⟩]) = 0 := by decide +kernel
    rw [hzero, zero_nsmul, add_zero] at hiff'
    exact absurd (hiff'.mp h) (by decide +kernel)

end librabbitmq.memory.connection_object
