-- The references of `Connection._basic_recv`, in programs whose callbacks hold on to what they
-- are given, let it go, and drain in turn. What a program keeps is written down while it runs,
-- and the heap is compared with these books.
import Librabbitmq.PublishReferences
import Mathlib.Algebra.Order.Pi

namespace librabbitmq.memory.draining

open references containers

/-! ## The callback -/

/-- The books of a run: the references that the application has taken, less those it has given
back, the closes that error handlers have made, and whether a body loop has made a payload
anew. -/
structure Books where
  kept : Nat → Int
  closes : Nat
  lapped : Bool

def Books.empty : Books := ⟨0, 0, false⟩

def Books.take (books : Books) (a : Nat) : Books := { books with kept := books.kept + one a }

def Books.give (books : Books) (a : Nat) : Books := { books with kept := books.kept - one a }

def Books.add (books books' : Books) : Books :=
  ⟨books.kept + books'.kept, books.closes + books'.closes, books.lapped || books'.lapped⟩

/-- The callback under a channel number and a consumer tag, called with a message: its result,
which is NULL where it raises, with its books. -/
abbrev Callback := PyObj → PyObj → Nat → Run Memory (Option Nat × Books)

/-- What is found on the connection: `self.callbacks`, the attribute `channels`, and whether
`self.Message` makes a message. -/
structure Tables where
  callbacks : PyObj → Option (PyObj → Bool)
  channels : Option (Nat × (PyObj → Option Nat))
  Message : Bool

/-- The key of a lookup. A dead object cannot be read. -/
def readKey : Option Nat → Run Memory PyObj
  | none => Run.crash
  | some a => do
    let s ← Run.get
    match s.heap.contents a with
    | .plain key => if s.heap.Alive a then return key else Run.crash
    | _ => Run.crash

def PyTuple_New : Run Memory Nat := PyObject_New (.list [])

def PyTuple_SET_ITEM : Nat → Option Nat → Run Memory Unit := PyList_SET_ITEM

/-- An attribute of a message. A message has them as its slots. -/
def setAttribute (message value : Nat) : Run Memory Unit := do
  Py_INCREF value
  PyList_SET_ITEM message (some value)

/-- `Message.__init__` on a new object. -/
def Message_new (channel properties delivery_info body : Nat) : Run Memory Nat := do
  let self ← PyObject_New (.list [])
  setAttribute self channel
  setAttribute self properties
  setAttribute self delivery_info
  setAttribute self body
  return self

/-- `finally:` -/
def PyRabbitMQ_ApplyCallback.cleanup (args channels Message : Option Nat) : Run Memory Unit := do
  Py_XDECREF args
  Py_XDECREF channels
  Py_XDECREF Message

/-- From the lookup of the channel on. -/
def PyRabbitMQ_ApplyCallback.call (tables : Tables)
    (callback : Nat → Run Memory (Option Nat × Books)) (channels : Nat) (channelobj : Option Nat)
    (propdict delivery_info view : Nat) : Run Memory (Int × Books) :=
  match channelobj with
  | none => do
    PyRabbitMQ_ApplyCallback.cleanup none (some channels) none
    return (-1, .empty)
  | some channelobj => do
    let Message ← PyObject_New (.plain (.str (pyStr "Message")))
    if tables.Message then
      let message ← Message_new channelobj propdict delivery_info view
      let args ← PyTuple_New
      PyTuple_SET_ITEM args (some message)
      let (callback_result, books) ← callback message
      Py_XDECREF callback_result
      PyRabbitMQ_ApplyCallback.cleanup (some args) (some channels) (some Message)
      return (0, books)
    else
      PyRabbitMQ_ApplyCallback.cleanup none (some channels) (some Message)
      return (-1, .empty)

/-- `PyRabbitMQ_ApplyCallback`. -/
def PyRabbitMQ_ApplyCallback (tables : Tables) (callback : Callback)
    (consumer_tag : Option Nat) (channel propdict delivery_info view : Nat) :
    Run Memory (Int × Books) := do
  let number ← readKey (some channel)
  match tables.callbacks number with
  | none => return (-1, .empty)
  | some channel_callbacks => do
    let tag ← readKey consumer_tag
    if channel_callbacks tag then
      match tables.channels with
      | none => do
        PyRabbitMQ_ApplyCallback.cleanup none none none
        return (-1, .empty)
      | some channels => do
        -- the attribute is a new reference, and what is found in a dict is none
        Py_INCREF channels.1
        PyRabbitMQ_ApplyCallback.call tables (callback number tag) channels.1
          (channels.2 number) propdict delivery_info view
    else do
      PyRabbitMQ_ApplyCallback.cleanup none none none
      return (-1, .empty)

/-! ## The receive machine -/

/-- A memoryview of memory that belongs to no object. -/
def buffer_toMemoryView : Run Memory Nat := PyObject_New (.plain (.other 0))

/-- A body frame. `bytesAvailable` tells whether a `bytes` of the size can be made. -/
def PyRabbitMQ_recv.fragment (bytesAvailable : Nat → Bool) (body_target : BitVec 64)
    (v : BodyVars) (b : Octets) : Run Memory (BodyVars ⊕ BodyEnd) := do
  let v := { v with body_received := v.body_received + BitVec.ofNat 64 b.length }
  if v.i = 0 then
    if v.body_received.toInt < body_target.toInt then
      if bytesAvailable body_target.toNat then
        let payload ← PyBytes_FromStringAndSize
        let view ← PyMemoryView_FromObject payload
        return .inl { v with i := v.i + 1, payload := some payload, view := some view }
      else return .inr (.goto_finally { v with payload := none })
    else
      let view ← buffer_toMemoryView
      return .inr (.done { v with view := some view })
  else return .inl { v with i := v.i + 1 }

/-- The body loop over the reads that are to come. -/
def PyRabbitMQ_recv.loop (bytesAvailable : Nat → Bool) (body_target : BitVec 64) :
    List ReadResult → BodyVars → Run Memory BodyEnd
  | [], v =>
    if v.body_received.toInt < body_target.toInt then Run.hang else return .done v
  | read :: reads, v =>
    if v.body_received.toInt < body_target.toInt then
      match read with
      | .blocked => Run.hang
      | .failed _ _ => return .done v
      | .ok frame =>
        match frame.payload with
        | .method m => return .altframe m v
        | .body_fragment b => do
          match ← PyRabbitMQ_recv.fragment bytesAvailable body_target v b.bytes with
          | .inl v => PyRabbitMQ_recv.loop bytesAvailable body_target reads v
          | .inr e => return e
        | _ => return .goto_finally v
    else return .done v

/-- `finally:` -/
def PyRabbitMQ_recv.cleanup (payload channel propdict delivery_info view : Option Nat) :
    Run Memory Unit := do
  Py_XDECREF payload
  Py_XDECREF channel
  Py_XDECREF propdict
  Py_XDECREF delivery_info
  Py_XDECREF view

/-- The exits that call nobody. -/
def PyRabbitMQ_recv.exit (retval : Int) (payload channel propdict delivery_info view : Option Nat) :
    Run Memory (Int × Books) := do
  PyRabbitMQ_recv.cleanup payload channel propdict delivery_info view
  return (retval, .empty)

/-- How a call of `_basic_recv` finds the connection: whether it is up, whether there is something
to read in time, what is read, and what is answered while a channel is revived. -/
structure RecvAnswers where
  connected : Bool
  ready : Bool
  reads : List ReadResult
  revivals : Revivals

section

variable (st : Statics) (bytesAvailable : Nat → Bool) (tables : Tables) (callback : Callback)
  (revivals : Revivals)

/-- What comes after the body loop. -/
def PyRabbitMQ_recv.finish (consumer_tag : Option Nat) (channel propdict delivery_info : Nat)
    (v : BodyVars) : Run Memory (Int × Books) :=
  match v.view with
  | none => PyRabbitMQ_recv.exit (-1) v.payload (some channel) (some propdict)
      (some delivery_info) none
  | some view => do
    let (retval, books) ← PyRabbitMQ_ApplyCallback tables callback consumer_tag channel propdict
      delivery_info view
    PyRabbitMQ_recv.cleanup v.payload (some channel) (some propdict) (some delivery_info)
      (some view)
    return (retval, books)

/-- From the header on. -/
def PyRabbitMQ_recv.content (consumer_tag : Option Nat) (propdict delivery_info : Nat)
    (number : amqp_channel_t) (body_target : BitVec 64) (props : amqp_basic_properties_t)
    (reads : List ReadResult) : Run Memory (Int × Books) := do
  let channel ← PyInt_FromLong number.toNat
  basic_properties_to_PyDict st props propdict
  match ← PyRabbitMQ_recv.loop bytesAvailable body_target reads BodyVars.init with
  | .done v =>
    PyRabbitMQ_recv.finish tables callback consumer_tag channel propdict delivery_info v
  | .altframe m v => do
    PyRabbitMQ_SetErr_ReceivedFrame (PyRabbitMQ_Connection_close st) revivals m
    PyRabbitMQ_recv.exit (-1) v.payload (some channel) (some propdict) (some delivery_info) v.view
  | .goto_finally v =>
    PyRabbitMQ_recv.exit 0 v.payload (some channel) (some propdict) (some delivery_info) v.view

/-- From the deliver on. The tag goes into `delivery_info`, and is borrowed from it. -/
def PyRabbitMQ_recv.delivered (propdict : Nat) (deliver : amqp_basic_deliver_t)
    (reads : List ReadResult) : Run Memory (Int × Books) := do
  let delivery_info ← PyDict_New
  amqp_basic_deliver_to_PyDict st delivery_info deliver.delivery_tag deliver.exchange
    deliver.routing_key deliver.redelivered
  let consumer_tag ← PySTRING_FROM_AMQBYTES deliver.consumer_tag
  PyDICT_SETSTR_DECREF delivery_info "consumer_tag" consumer_tag
  match reads with
  | [] => Run.hang
  | .blocked :: _ => Run.hang
  | .failed status _ :: _ =>
    PyRabbitMQ_recv.exit status none none (some propdict) (some delivery_info) none
  | .ok frame :: reads =>
    match frame.payload with
    | .method m => do
      PyRabbitMQ_SetErr_ReceivedFrame (PyRabbitMQ_Connection_close st) revivals m
      PyRabbitMQ_recv.exit (-1) none none (some propdict) (some delivery_info) none
    | .header body_target props =>
      PyRabbitMQ_recv.content st bytesAvailable tables callback revivals consumer_tag propdict
        delivery_info frame.channel body_target props reads
    | _ => PyRabbitMQ_recv.exit 0 none none (some propdict) (some delivery_info) none

/-- The turns of the outer loop. Frames that are no method are skipped. -/
def PyRabbitMQ_recv.wait (propdict : Nat) : List ReadResult → Run Memory (Int × Books)
  | [] => Run.hang
  | .blocked :: _ => Run.hang
  | .failed status _ :: _ => PyRabbitMQ_recv.exit status none none (some propdict) none none
  | .ok frame :: reads =>
    match frame.payload with
    | .method (.basic_deliver deliver) =>
      PyRabbitMQ_recv.delivered st bytesAvailable tables callback revivals propdict deliver reads
    | .method m => do
      PyRabbitMQ_SetErr_ReceivedFrame (PyRabbitMQ_Connection_close st) revivals m
      PyRabbitMQ_recv.exit (-1) none none (some propdict) none none
    | _ => PyRabbitMQ_recv.wait propdict reads

/-- `PyRabbitMQ_recv` where `p` is NULL and `piggyback` is not set, over the reads that it
makes. -/
def PyRabbitMQ_recv (reads : List ReadResult) : Run Memory (Int × Books) := do
  let propdict ← PyDict_New
  PyRabbitMQ_recv.wait st bytesAvailable tables callback revivals propdict reads

/-- `Connection._basic_recv`. -/
def PyRabbitMQ_Connection_basic_recv (answers : RecvAnswers) :
    Run Memory (Option Nat × Books) :=
  if answers.connected && answers.ready then do
    let (retval, books) ← PyRabbitMQ_recv st bytesAvailable tables callback answers.revivals
      answers.reads
    if retval < 0 then
      -- `error:`
      PyRabbitMQ_Connection_close st
      return (none, books)
    else
      Py_INCREF st.Py_None
      return (some st.Py_None, books)
  else return (none, .empty)

end

/-! ## Programs -/

/-- What an application does, in a callback and outside of it, until it returns or raises. It sees
all objects, and what it takes or makes is its own until it gives it back. -/
inductive Program where
  | finish (raises : Bool)
  | look (rest : Memory → Program)
  | take (a : Nat) (rest : Program)
  | give (a : Nat) (rest : Program)
  | make (o : PyObj) (rest : Nat → Program)
  | drain (answers : RecvAnswers) (tables : Tables) (callback : PyObj → PyObj → Nat → Program)
      (rest : Option Nat → Program)

/-- A body frame is read at a zero of the counter behind another one: the payload is made anew,
and the old one is lost. -/
def bodyLaps (bytesAvailable : Nat → Bool) (body_target : BitVec 64) :
    List ReadResult → BitVec 32 → BitVec 64 → Bool → Bool
  | [], _, _, _ => false
  | read :: reads, i, body_received, begun =>
    if body_received.toInt < body_target.toInt then
      match read with
      | .ok frame =>
        match frame.payload with
        | .body_fragment b =>
          let body_received := body_received + BitVec.ofNat 64 b.bytes.length
          if i = 0 then
            begun || if body_received.toInt < body_target.toInt then
                bytesAvailable body_target.toNat &&
                  bodyLaps bytesAvailable body_target reads (i + 1) body_received true
              else false
          else bodyLaps bytesAvailable body_target reads (i + 1) body_received begun
        | _ => false
      | _ => false
    else false

/-- The reads behind a deliver lose a payload. -/
def contentLaps (bytesAvailable : Nat → Bool) : List ReadResult → Bool
  | .ok frame :: reads =>
    match frame.payload with
    | .header body_target _ => bodyLaps bytesAvailable body_target reads 0 0 false
    | _ => false
  | _ => false

/-- The reads of a drain lose a payload. -/
def waitLaps (bytesAvailable : Nat → Bool) : List ReadResult → Bool
  | .ok frame :: reads =>
    match frame.payload with
    | .method (.basic_deliver _) => contentLaps bytesAvailable reads
    | .method _ => false
    | _ => waitLaps bytesAvailable reads
  | _ => false

def RecvAnswers.laps (bytesAvailable : Nat → Bool) (answers : RecvAnswers) : Bool :=
  answers.connected && answers.ready && waitLaps bytesAvailable answers.reads

/-- The method frame that a drain ends with, where it is not the deliver. -/
def waitCut (bytesAvailable : Nat → Bool) : List ReadResult → Option amqp_method_t
  | .ok frame :: reads =>
    match frame.payload with
    | .method (.basic_deliver _) => contentCut bytesAvailable reads
    | .method m => some m
    | _ => waitCut bytesAvailable reads
  | _ => none

/-- The closes of a drain: those behind a method frame, and that of `error:` where it raises. -/
def RecvAnswers.closes (bytesAvailable : Nat → Bool) (answers : RecvAnswers)
    (drained : Option Nat) : Nat :=
  if answers.connected && answers.ready then
    cutCloses answers.revivals (waitCut bytesAvailable answers.reads) +
      if drained.isNone then 1 else 0
  else 0

/-- A program with its books. The result of a drain belongs to the program. -/
def Program.run (st : Statics) (bytesAvailable : Nat → Bool) :
    Program → Run Memory (Option Nat × Books)
  | .finish true => return (none, .empty)
  | .finish false => do
    Py_INCREF st.Py_None
    return (some st.Py_None, .empty)
  | .look rest => do
    let s ← Run.get
    (rest s).run st bytesAvailable
  | .take a rest => do
    Py_INCREF a
    let (r, books) ← rest.run st bytesAvailable
    return (r, books.take a)
  | .give a rest => do
    Py_DECREF a
    let (r, books) ← rest.run st bytesAvailable
    return (r, books.give a)
  | .make o rest => do
    let a ← PyObject_New (.plain o)
    let (r, books) ← (rest a).run st bytesAvailable
    return (r, books.take a)
  | .drain answers tables callback rest => do
    let (drained, books) ← PyRabbitMQ_Connection_basic_recv st bytesAvailable tables
      (fun number tag message => (callback number tag message).run st bytesAvailable) answers
    let (r, books') ← (rest drained).run st bytesAvailable
    return (r, books.add (.add ⟨owned drained, answers.closes bytesAvailable drained,
      answers.laps bytesAvailable⟩ books'))

/-! ## What a call leaves over -/

variable {st : Statics} {L : Nat → Int} {s s' s1 : Memory}

/-- A call that ends with `L` held, besides what it leaves over: the references to `None` that its
closes have dropped, and others to new objects only when it `lapped`. -/
def Settled (st : Statics) (L : Nat → Int) (s s' : Memory) (closes : Nat) (lapped : Bool) : Prop :=
  Later s s' ∧ ∃ E, Lost s.heap.next E ∧ Owes (L + (closes • one st.Py_None + E)) s' ∧
    (E = 0 ↔ lapped = false)

theorem Settled.congr {M : Nat → Int} {closes : Nat} {lapped : Bool}
    (h : Settled st L s s' closes lapped) (hLM : L = M) : Settled st M s s' closes lapped :=
  hLM ▸ h

theorem Settled.of_owes (hlater : Later s s') (hs : Owes L s') : Settled st L s s' 0 false :=
  ⟨hlater, 0, .zero _, hs.congr (by rw [zero_nsmul, add_zero, add_zero]), iff_of_true rfl rfl⟩

/-- What is left over first and what is left over then add up. Nothing makes up for the other. -/
theorem Settled.join {E : Nat → Int} {k k' : Nat} {b b' : Bool} (hlater : Later s s1)
    (hE : Lost s.heap.next E) (hiff : E = 0 ↔ b = false)
    (h : Settled st (L + (k • one st.Py_None + E)) s1 s' k' b') :
    Settled st L s s' (k + k') (b || b') := by
  obtain ⟨hlater', F, hF, hs', hiff'⟩ := h
  refine ⟨hlater.trans hlater', E + F, hE.add (hF.of_le hlater.next_le), hs'.congr ?_, ?_⟩
  · rw [add_nsmul]
    abel
  · rw [add_eq_zero_iff_of_nonneg hE.nonneg hF.nonneg, hiff, hiff', Bool.or_eq_false_iff]

theorem Settled.after {closes : Nat} {lapped : Bool} (hlater : Later s s1)
    (h : Settled st L s1 s' closes lapped) : Settled st L s s' closes lapped := by
  have hzero : Settled st (L + (0 • one st.Py_None + 0)) s1 s' closes lapped :=
    h.congr (by rw [zero_nsmul, add_zero, add_zero])
  exact Nat.zero_add closes ▸ Settled.join (b := false) hlater (.zero _) (iff_of_true rfl rfl) hzero

theorem Settled.drops {k closes : Nat} {lapped : Bool} (hlater : Later s s1)
    (h : Settled st (L + k • one st.Py_None) s1 s' closes lapped) :
    Settled st L s s' (k + closes) lapped :=
  Settled.join (b := false) hlater (.zero _) (iff_of_true rfl rfl)
    (h.congr (by rw [add_zero]))

theorem Settled.lost {E : Nat → Int} {closes : Nat} {lapped lapped' : Bool} (hlater : Later s s1)
    (hE : Lost s.heap.next E) (hiff : E = 0 ↔ lapped = false)
    (h : Settled st (L + E) s1 s' closes lapped') :
    Settled st L s s' closes (lapped || lapped') := by
  have hzero : Settled st (L + (0 • one st.Py_None + E)) s1 s' closes lapped' :=
    h.congr (by rw [zero_nsmul, zero_add])
  exact Nat.zero_add closes ▸ Settled.join hlater hE hiff hzero

/-- A first part that is settled, and the rest. -/
theorem Settled.bind {M : Nat → Int} {k k' : Nat} {lapped lapped' : Bool}
    (h : Settled st L s s1 k lapped)
    (hrest : ∀ E, Owes (L + E) s1 → Settled st (M + E) s1 s' k' lapped') :
    Settled st M s s' (k + k') (lapped || lapped') := by
  obtain ⟨hlater, E, hE, hs1, hiff⟩ := h
  exact Settled.join hlater hE hiff (hrest _ hs1)

/-! ### Calls with books -/

/-- A call that owns `P` owns `Q` in the end, and the application owns what the books say. The call
itself makes `closes`, and has lost a payload when it `laps`. -/
def Keeps {α : Type} (st : Statics) (P : Nat → Int) (x : Run Memory (α × Books))
    (Q : α → Nat → Int) (closes : Nat) (laps : Bool) : Prop :=
  ∀ ⦃L : Nat → Int⦄ ⦃s s' : Memory⦄ ⦃r : α × Books⦄, Owes (L + P) s → x s = (.ret r, s') →
    Settled st (L + (Q r.1 + r.2.kept)) s s' (closes + r.2.closes) (laps || r.2.lapped)

section

variable {α β : Type} {P : Nat → Int} {Q : α → Nat → Int} {R : β → Nat → Int} {closes : Nat}
  {laps : Bool}

theorem keeps_pure {a : α} (h : P = Q a) : Keeps st P (pure (a, Books.empty)) Q 0 false := by
  intro L s s' r hs hrun
  cases hrun
  refine .of_owes (.refl s) (hs.congr ?_)
  show L + P = L + (Q a + 0)
  rw [add_zero, h]

theorem keeps_hang : Keeps st P Run.hang Q closes laps := by
  intro L s s' r hs hrun
  cases hrun

/-- A first part that calls nobody. -/
theorem keeps_owns {x : Run Memory α} {f : α → Run Memory (β × Books)} (hx : Owns P x Q)
    (hf : ∀ a, Keeps st (Q a) (f a) R closes laps) : Keeps st P (x >>= f) R closes laps := by
  intro L s s' r hs hrun
  obtain ⟨a, s1, h1, h2⟩ := Run.ret_of_bind hrun
  obtain ⟨hlater, hs1⟩ := hx hs h1
  exact (hf a hs1 h2).after hlater

/-- A first part that makes `k` closes. -/
theorem keeps_dropped {k : Nat} {x : Run Memory α} {f : α → Run Memory (β × Books)}
    (hx : ∀ {s s' : Memory} {a : α}, x s = (.ret a, s') → Dropped st k s s')
    (hf : ∀ a, Keeps st P (f a) R closes laps) : Keeps st P (x >>= f) R (k + closes) laps := by
  intro L s s' r hs hrun
  obtain ⟨a, s1, h1, h2⟩ := Run.ret_of_bind hrun
  obtain ⟨hlater, hdropped⟩ := hx h1
  have hs1 : Owes (L + k • one st.Py_None + P) s1 := (hdropped _ hs).congr (add_right_comm _ _ _)
  rw [Nat.add_assoc]
  exact ((hf a hs1 h2).congr (add_right_comm _ _ _)).drops hlater

/-- A call in the middle of another one leaves alone what that one owns. -/
theorem Keeps.frame {x : Run Memory (α × Books)} (h : Keeps st 0 x Q closes laps) :
    Keeps st P x (fun a => P + Q a) closes laps := by
  intro L s s' r hs hrun
  refine (h (hs.congr (add_zero _).symm) hrun).congr ?_
  show L + P + (Q r.1 + r.2.kept) = L + (P + Q r.1 + r.2.kept)
  rw [add_assoc, add_assoc]

/-- A call, and a last part that calls nobody. -/
theorem Keeps.then {x : Run Memory (α × Books)} {y : α → Run Memory Unit} {c : α → β}
    {f : α × Books → Run Memory (β × Books)} (hx : Keeps st P x Q closes laps)
    (hf : ∀ r, f r = y r.1 >>= fun _ => pure (c r.1, r.2))
    (hy : ∀ a, Owns (Q a) (y a) fun _ => R (c a)) : Keeps st P (x >>= f) R closes laps := by
  intro L s s' r hs hrun
  obtain ⟨a, s1, h1, h2⟩ := Run.ret_of_bind hrun
  rw [hf] at h2
  obtain ⟨u, s2, h2, h3⟩ := Run.ret_of_bind h2
  cases h3
  rw [← Bool.or_false (laps || _), ← Nat.add_zero (closes + _)]
  refine (hx hs h1).bind fun E hs1 => ?_
  have hs1 : Owes (L + a.2.kept + E + Q a.1) s1 := hs1.congr (by abel)
  obtain ⟨hlater, hs'⟩ := hy a.1 hs1 h2
  refine .of_owes hlater (hs'.congr ?_)
  show L + a.2.kept + E + R (c a.1) = L + (R (c a.1) + a.2.kept) + E
  abel

end

/-! ## The callback settles -/

/-- Whatever a callback does, its books tell. -/
def Accounted (st : Statics) (callback : Callback) : Prop :=
  ∀ number tag message, Keeps st 0 (callback number tag message) owned 0 false

section

variable {P : Nat → Int} {tables : Tables} {callback : Callback}

theorem owns_readKey (key : Option Nat) : Owns P (readKey key) fun _ => P := by
  intro L s s' o hs hrun
  cases key with
  | none => cases hrun
  | some a =>
    rw [readKey, Run.get_bind_apply] at hrun
    cases ha : s.heap.contents a with
    | plain key =>
      rw [ha] at hrun
      dsimp only at hrun
      split at hrun
      · cases hrun
        exact ⟨.refl s, hs⟩
      · cases hrun
    | _ =>
      rw [ha] at hrun
      cases hrun

theorem owns_attribute (message value : Nat) : Owns P (setAttribute message value) fun _ => P :=
  (owns_incref value).bind fun _ =>
    (owns_setSlot message (some value)).congr fun _ => add_sub_cancel_right P _

theorem owns_message (channel properties delivery_info body : Nat) :
    Owns P (Message_new channel properties delivery_info body) fun message => P + one message :=
  (owns_new rfl).bind fun message => (owns_attribute message channel).bind fun _ =>
    (owns_attribute message properties).bind fun _ =>
      (owns_attribute message delivery_info).bind fun _ =>
        (owns_attribute message body).bind fun _ => owns_pure rfl

theorem owns_applied (args channels Message : Option Nat) :
    Owns P (PyRabbitMQ_ApplyCallback.cleanup args channels Message) fun _ =>
      P - owned args - owned channels - owned Message :=
  (owns_xdecref args).bind fun _ => (owns_xdecref channels).bind fun _ => owns_xdecref Message

theorem call_keeps {callback : Nat → Run Memory (Option Nat × Books)}
    (hcallback : ∀ message, Keeps st 0 (callback message) owned 0 false) (channels : Nat)
    (channelobj : Option Nat) (propdict delivery_info view : Nat) :
    Keeps st (P + one channels)
      (PyRabbitMQ_ApplyCallback.call tables callback channels channelobj propdict delivery_info
        view) (fun _ => P) 0 false := by
  have hzero : owned none = 0 := rfl
  cases channelobj with
  | none =>
    refine keeps_owns (owns_applied none (some channels) none) fun _ => keeps_pure ?_
    rw [hzero]
    simp only [owned]
    abel
  | some channelobj =>
    refine keeps_owns (owns_new rfl) fun Message => ?_
    split
    · refine keeps_owns (owns_message _ _ _ _) fun message => ?_
      refine keeps_owns (owns_new rfl) fun args => ?_
      refine keeps_owns (owns_setSlot args (some message)) fun _ => ?_
      refine (hcallback message).frame.then
        (y := fun result => Py_XDECREF result >>= fun _ =>
          PyRabbitMQ_ApplyCallback.cleanup (some args) (some channels) (some Message))
        (c := fun _ => 0) (fun _ => (Run.bind_assoc _ _ _).symm) fun result => ?_
      refine (owns_xdecref result).bind fun _ => (owns_applied _ _ _).congr fun _ => ?_
      simp only [owned]
      abel
    · refine keeps_owns (owns_applied none (some channels) (some Message)) fun _ => keeps_pure ?_
      rw [hzero]
      simp only [owned]
      abel

/-- `PyRabbitMQ_ApplyCallback` gives back all that it takes, however it ends. -/
theorem apply_keeps (hcallback : Accounted st callback) (consumer_tag : Option Nat)
    (channel propdict delivery_info view : Nat) :
    Keeps st P (PyRabbitMQ_ApplyCallback tables callback consumer_tag channel propdict
      delivery_info view) (fun _ => P) 0 false := by
  have hnothing : Owns P (PyRabbitMQ_ApplyCallback.cleanup none none none) fun _ => P :=
    (owns_applied none none none).congr fun _ => by
      have hzero : owned none = 0 := rfl
      rw [hzero, sub_zero, sub_zero, sub_zero]
  refine keeps_owns (owns_readKey _) fun number => ?_
  cases tables.callbacks number with
  | none => exact keeps_pure rfl
  | some channel_callbacks =>
    refine keeps_owns (owns_readKey _) fun tag => ?_
    split
    · cases tables.channels with
      | none => exact keeps_owns hnothing fun _ => keeps_pure rfl
      | some channels =>
        refine keeps_owns (owns_incref channels.1) fun _ => ?_
        exact call_keeps (fun message => hcallback number tag message) _ _ _ _ _
    · exact keeps_owns hnothing fun _ => keeps_pure rfl

end

/-! ## The body loop -/

section

variable {bytesAvailable : Nat → Bool} {body_target : BitVec 64}

/-- How a body frame ends. A payload or a view that is made anew leaves what the variables
owned. -/
inductive FragmentEnds (bytesAvailable : Nat → Bool) (body_target : BitVec 64) (v : BodyVars)
    (b : Octets) (L : Nat → Int) (s s' : Memory) : BodyVars ⊕ BodyEnd → Prop
  | copied (hi : v.i ≠ 0) (hs : s' = s) : FragmentEnds bytesAvailable body_target v b L s s'
      (.inl { v with i := v.i + 1, body_received := v.body_received + BitVec.ofNat 64 b.length })
  | made {payload view : Nat} (hi : v.i = 0)
      (hshort : (v.body_received + BitVec.ofNat 64 b.length).toInt < body_target.toInt)
      (havailable : bytesAvailable body_target.toNat = true) (hpayload : s.heap.next ≤ payload)
      (hview : s.heap.next ≤ view) (hs : Owes (L + v.holds + one payload + one view) s') :
      FragmentEnds bytesAvailable body_target v b L s s' (.inl ⟨v.i + 1,
        v.body_received + BitVec.ofNat 64 b.length, some payload, some view⟩)
  | noMemory (hi : v.i = 0)
      (hshort : (v.body_received + BitVec.ofNat 64 b.length).toInt < body_target.toInt)
      (havailable : bytesAvailable body_target.toNat = false) (hs : s' = s) :
      FragmentEnds bytesAvailable body_target v b L s s' (.inr (.goto_finally ⟨v.i,
        v.body_received + BitVec.ofNat 64 b.length, none, v.view⟩))
  | whole {view : Nat} (hi : v.i = 0)
      (hfull : ¬ (v.body_received + BitVec.ofNat 64 b.length).toInt < body_target.toInt)
      (hs : Owes (L + v.holds + one view) s') :
      FragmentEnds bytesAvailable body_target v b L s s' (.inr (.done ⟨v.i,
        v.body_received + BitVec.ofNat 64 b.length, v.payload, some view⟩))

theorem fragment_ends {v : BodyVars} {b : Octets} {r : BodyVars ⊕ BodyEnd}
    (hs : Owes (L + v.holds) s)
    (hrun : PyRabbitMQ_recv.fragment bytesAvailable body_target v b s = (.ret r, s')) :
    Later s s' ∧ FragmentEnds bytesAvailable body_target v b L s s' r := by
  unfold PyRabbitMQ_recv.fragment at hrun
  dsimp only at hrun
  split_ifs at hrun with hi hshort havailable
  · obtain ⟨payload, s1, hpayload, hrun⟩ := Run.ret_of_bind hrun
    obtain ⟨view, s2, hview, hrun⟩ := Run.ret_of_bind hrun
    obtain ⟨hlater1, hs1⟩ := (owns_new (P := v.holds) rfl) hs hpayload
    obtain ⟨hlater2, hs2⟩ := (owns_view (P := v.holds + one payload) payload) hs1 hview
    obtain ⟨rfl, hnext⟩ := new_run hpayload
    obtain ⟨u, s3, hincref, hnew⟩ := Run.ret_of_bind hview
    obtain ⟨-, rfl⟩ := incref_run hincref
    obtain ⟨rfl, -⟩ := new_run hnew
    cases hrun
    refine ⟨hlater1.trans hlater2, .made hi hshort havailable le_rfl ?_ ?_⟩
    · exact hlater1.next_le
    · exact hs2.congr (by simp only [add_assoc])
  · cases hrun
    exact ⟨.refl s, .noMemory hi hshort (Bool.not_eq_true _ ▸ havailable) rfl⟩
  · obtain ⟨view, s1, hview, hrun⟩ := Run.ret_of_bind hrun
    obtain ⟨hlater, hs1⟩ := (owns_new (P := v.holds) rfl) hs hview
    cases hrun
    exact ⟨hlater, .whole hi hshort (hs1.congr (add_assoc _ _ _).symm)⟩
  · cases hrun
    exact ⟨.refl s, .copied hi rfl⟩

/-- What the loop leaves: what its variables own, and what it lost where a payload was made
anew. It was left at the method frame `cut`. -/
def LoopLoses (start : Nat) (L : Nat → Int) (s s' : Memory) (e : BodyEnd) (laps : Bool)
    (cut : Option amqp_method_t) : Prop :=
  Later s s' ∧ ∃ E, Lost start E ∧ Owes (L + E + e.vars.holds) s' ∧ (E = 0 ↔ laps = false) ∧
    e.cut = cut

section

variable {start : Nat} {v : BodyVars} {L : Nat → Int} {s s' : Memory} {e : BodyEnd}
  {received : BitVec 64} {laps : Bool} {cut : Option amqp_method_t}

/-- The loop is left at once, with the variables that it has. -/
theorem loses_at_once (hs : Owes (L + v.holds) s) (hvars : e.vars = v) (hcut : e.cut = cut) :
    LoopLoses start L s s e false cut :=
  ⟨.refl s, 0, .zero start, hs.congr (by rw [add_zero, hvars]), iff_of_true rfl rfl, hcut⟩

/-- A lap loses what the variables owned, and the first body frame finds them empty. -/
theorem loses_made {s1 : Memory} (hboth : v.payload.isSome = v.view.isSome)
    (hpayload : ∀ a, v.payload = some a → start ≤ a) (hview : ∀ a, v.view = some a → start ≤ a)
    (hlater : Later s s1) (h : LoopLoses start (L + v.holds) s1 s' e laps cut) :
    LoopLoses start L s s' e (v.payload.isSome || laps) cut := by
  obtain ⟨hlater', E, hE, hs', hiff, hcut⟩ := h
  have hrest := (lost_owned hview).add hE
  have hold : Lost start v.holds := (lost_owned hpayload).add (lost_owned hview)
  refine ⟨hlater.trans hlater', v.holds + E, hold.add hE, hs'.congr (by rw [add_assoc L]), ?_,
    hcut⟩
  rw [BodyVars.holds, add_assoc, owned_add_eq_zero hrest, owned_add_eq_zero hE, hiff,
    Bool.or_eq_false_iff]
  cases hv : v.payload with
  | none =>
    have hnone : v.view = none := by
      rw [hv] at hboth
      simpa using hboth.symm
    simp [hnone]
  | some a => simp

/-- Where there is no memory the variables lose their payload. -/
theorem loses_noMemory (hpayload : ∀ a, v.payload = some a → start ≤ a)
    (hs : Owes (L + v.holds) s) : LoopLoses start L s s
      (.goto_finally ⟨v.i, received, none, v.view⟩) v.payload.isSome none := by
  refine ⟨.refl s, owned v.payload, lost_owned hpayload, hs.congr ?_, ?_, rfl⟩
  · rw [add_assoc]
    exact congrArg (L + ·) (congrArg (owned v.payload + ·) (zero_add _).symm)
  · rw [← add_zero (owned v.payload), owned_add_eq_zero (.zero start)]
    cases v.payload <;> simp

/-- A frame that completes the body takes the place of the view. -/
theorem loses_whole {view : Nat} (hboth : v.payload.isSome = v.view.isSome)
    (hview : ∀ a, v.view = some a → start ≤ a) (hlater : Later s s')
    (hs : Owes (L + v.holds + one view) s') :
    LoopLoses start L s s' (.done ⟨v.i, received, v.payload, some view⟩) v.payload.isSome
      none := by
  refine ⟨hlater, owned v.view, lost_owned hview, hs.congr ?_, ?_, rfl⟩
  · simp only [BodyVars.holds, BodyEnd.vars, owned]
    abel
  · rw [hboth, ← add_zero (owned v.view), owned_add_eq_zero (.zero start)]
    cases v.view <;> simp

end

theorem loop_loses (start : Nat) : ∀ (reads : List ReadResult) (v : BodyVars) {L : Nat → Int}
    {s s' : Memory} {e : BodyEnd}, start ≤ s.heap.next → (∀ a, v.payload = some a → start ≤ a) →
    (∀ a, v.view = some a → start ≤ a) → v.payload.isSome = v.view.isSome →
    Owes (L + v.holds) s →
    PyRabbitMQ_recv.loop bytesAvailable body_target reads v s = (.ret e, s') →
    LoopLoses start L s s' e
      (bodyLaps bytesAvailable body_target reads v.i v.body_received v.payload.isSome)
      (bodyCut bytesAvailable body_target reads v.i v.body_received) := by
  intro reads
  induction reads with
  | nil =>
    intro v L s s' e hstart _ _ _ hs hrun
    unfold PyRabbitMQ_recv.loop at hrun
    split at hrun
    · cases hrun
    · cases hrun
      exact loses_at_once hs rfl rfl
  | cons read reads ih =>
    intro v L s s' e hstart hpayload hview hboth hs hrun
    unfold PyRabbitMQ_recv.loop at hrun
    unfold bodyLaps bodyCut
    by_cases hshort : v.body_received.toInt < body_target.toInt
    · rw [if_pos hshort] at hrun
      rw [if_pos hshort, if_pos hshort]
      cases read with
      | blocked => cases hrun
      | failed status h =>
        cases hrun
        exact loses_at_once hs rfl rfl
      | ok frame =>
        dsimp only at hrun ⊢
        cases hframe : frame.payload with
        | method m =>
          rw [hframe] at hrun
          cases hrun
          exact loses_at_once hs rfl rfl
        | header size props =>
          rw [hframe] at hrun
          cases hrun
          exact loses_at_once hs rfl rfl
        | other t h =>
          rw [hframe] at hrun
          cases hrun
          exact loses_at_once hs rfl rfl
        | body_fragment b =>
          rw [hframe] at hrun
          obtain ⟨r, s1, hfragment, hrest⟩ := Run.ret_of_bind hrun
          obtain ⟨hlater, hends⟩ := fragment_ends hs hfragment
          have hnew := hlater.next_le
          dsimp only
          cases hends with
          | copied hi hsame =>
            subst hsame
            rw [if_neg hi, if_neg hi]
            exact ih ⟨v.i + 1, _, v.payload, v.view⟩ hstart hpayload hview hboth hs hrest
          | @made payload view hi hlack havailable hge hge' hs1 =>
            have hs1' : Owes (L + v.holds + (owned (some payload) + owned (some view))) s1 :=
              hs1.congr (add_assoc _ _ _)
            have hloses := ih ⟨v.i + 1, _, some payload, some view⟩ (hstart.trans hnew)
              (fun a ha => by cases ha; omega) (fun a ha => by cases ha; omega) rfl hs1' hrest
            rw [if_pos hi, if_pos hlack, havailable, if_pos hi, Bool.and_true,
              if_pos (decide_eq_true hlack)]
            exact loses_made hboth hpayload hview hlater hloses
          | noMemory hi hlack havailable hsame =>
            subst hsame
            cases hrest
            rw [if_pos hi, if_pos hlack, havailable, Bool.false_and, Bool.or_false, if_pos hi,
              Bool.and_false, if_neg Bool.false_ne_true]
            exact loses_noMemory hpayload hs
          | @whole view hi hfull hs1 =>
            cases hrest
            rw [if_pos hi, if_neg hfull, Bool.or_false, if_pos hi, decide_eq_false hfull,
              Bool.false_and, if_neg Bool.false_ne_true]
            exact loses_whole hboth hview hlater hs1
    · rw [if_neg hshort] at hrun
      rw [if_neg hshort, if_neg hshort]
      cases hrun
      exact loses_at_once hs rfl rfl

end

/-! ## The receive machine -/

section

variable {bytesAvailable : Nat → Bool} {tables : Tables} {callback : Callback}
  {revivals : Revivals} {P : Nat → Int} {Q : Int → Nat → Int}

theorem owns_cleanup (payload channel propdict delivery_info view : Option Nat) :
    Owns P (PyRabbitMQ_recv.cleanup payload channel propdict delivery_info view) fun _ =>
      P - owned payload - owned channel - owned propdict - owned delivery_info - owned view :=
  (owns_xdecref payload).bind fun _ => (owns_xdecref channel).bind fun _ =>
    (owns_xdecref propdict).bind fun _ => (owns_xdecref delivery_info).bind fun _ =>
      owns_xdecref view

theorem exit_keeps {retval : Int} {payload channel propdict delivery_info view : Option Nat}
    (h : ∀ n, P - owned payload - owned channel - owned propdict - owned delivery_info -
      owned view = Q n) :
    Keeps st P (PyRabbitMQ_recv.exit retval payload channel propdict delivery_info view) Q 0
      false :=
  keeps_owns (owns_cleanup _ _ _ _ _) fun _ => keeps_pure (h retval)

/-- What comes after the body loop gives back what the variables own. -/
theorem finish_keeps (hcallback : Accounted st callback) (consumer_tag : Option Nat)
    (channel propdict delivery_info : Nat) (v : BodyVars) :
    Keeps st (P + one propdict + one delivery_info + one channel + v.holds)
      (PyRabbitMQ_recv.finish tables callback consumer_tag channel propdict delivery_info v)
      (fun _ => P) 0 false := by
  unfold PyRabbitMQ_recv.finish BodyVars.holds
  cases v.view with
  | none =>
    refine exit_keeps fun _ => ?_
    have hzero : owned none = 0 := rfl
    rw [hzero]
    simp only [owned]
    abel
  | some view =>
    refine (apply_keeps hcallback _ _ _ _ _).then
      (y := fun _ => PyRabbitMQ_recv.cleanup v.payload (some channel) (some propdict)
        (some delivery_info) (some view)) (c := id) (fun _ => rfl) fun retval => ?_
    refine (owns_cleanup _ _ _ _ _).congr fun _ => ?_
    simp only [owned]
    abel

/-- The body loop, with what it loses, before what follows it. -/
theorem keeps_loop {body_target : BitVec 64} {reads : List ReadResult}
    {f : BodyEnd → Run Memory (Int × Books)}
    (hf : ∀ e, Keeps st (P + e.vars.holds) (f e) Q (cutCloses revivals e.cut) false) :
    Keeps st P (PyRabbitMQ_recv.loop bytesAvailable body_target reads .init >>= f) Q
      (cutCloses revivals (bodyCut bytesAvailable body_target reads 0 0))
      (bodyLaps bytesAvailable body_target reads 0 0 false) := by
  intro L s s' r hs hrun
  obtain ⟨e, s1, hloop, hrun⟩ := Run.ret_of_bind hrun
  have hempty : BodyVars.init.holds = 0 := rfl
  have hs : Owes (L + P + BodyVars.init.holds) s := hs.congr (by rw [hempty, add_zero])
  obtain ⟨hlater, E, hE, hs1, hiff, hcut⟩ := loop_loses s.heap.next reads .init le_rfl
    (by simp [BodyVars.init]) (by simp [BodyVars.init]) rfl hs hloop
  have hs1 : Owes (L + E + (P + e.vars.holds)) s1 := hs1.congr (by abel)
  have hrest := hf e hs1 hrun
  rw [hcut] at hrest
  exact Settled.lost hlater hE hiff (hrest.congr (add_right_comm _ _ _))

theorem content_keeps (hcallback : Accounted st callback) (consumer_tag : Option Nat)
    (propdict delivery_info : Nat) (number : amqp_channel_t) (body_target : BitVec 64)
    (props : amqp_basic_properties_t) (reads : List ReadResult) :
    Keeps st (P + one propdict + one delivery_info)
      (PyRabbitMQ_recv.content st bytesAvailable tables callback revivals consumer_tag propdict
        delivery_info number body_target props reads)
      (fun _ => P) (cutCloses revivals (bodyCut bytesAvailable body_target reads 0 0))
      (bodyLaps bytesAvailable body_target reads 0 0 false) := by
  refine keeps_owns (owns_int _) fun channel => ?_
  refine keeps_owns (owns_properties st props propdict) fun _ => keeps_loop fun e => ?_
  have hheld : ∀ v : BodyVars, P + one propdict + one delivery_info + one channel + v.holds -
      owned v.payload - owned (some channel) - owned (some propdict) -
      owned (some delivery_info) - owned v.view = P := by
    intro v
    simp only [BodyVars.holds, owned]
    abel
  cases e with
  | done v => exact finish_keeps hcallback consumer_tag channel propdict delivery_info v
  | altframe m v =>
    exact keeps_dropped received_drops fun _ => exit_keeps fun _ => hheld v
  | goto_finally v => exact exit_keeps fun _ => hheld v

theorem delivered_keeps (hcallback : Accounted st callback) (propdict : Nat)
    (deliver : amqp_basic_deliver_t) (reads : List ReadResult) :
    Keeps st (P + one propdict)
      (PyRabbitMQ_recv.delivered st bytesAvailable tables callback revivals propdict deliver
        reads) (fun _ => P) (cutCloses revivals (contentCut bytesAvailable reads))
      (contentLaps bytesAvailable reads) := by
  refine keeps_owns owns_dict fun delivery_info => ?_
  refine keeps_owns (owns_deliver st delivery_info _ _ _ _) fun _ => ?_
  refine keeps_owns (owns_string _) fun consumer_tag => ?_
  refine keeps_owns ((owns_setStr _ _ _).congr fun _ => add_sub_cancel_right _ _) fun _ => ?_
  have hexit : ∀ retval, Keeps st (P + one propdict + one delivery_info)
      (PyRabbitMQ_recv.exit retval none none (some propdict) (some delivery_info) none)
      (fun _ => P) 0 false := by
    refine fun retval => exit_keeps fun _ => ?_
    have hzero : owned none = 0 := rfl
    rw [hzero]
    simp only [owned]
    abel
  cases reads with
  | nil => exact keeps_hang
  | cons read reads =>
    cases read with
    | blocked => exact keeps_hang
    | failed status h => exact hexit status
    | ok frame =>
      unfold contentLaps contentCut
      dsimp only
      cases frame.payload with
      | method m => exact keeps_dropped received_drops fun _ => hexit (-1)
      | header body_target props => exact content_keeps hcallback _ _ _ _ _ _ _
      | body_fragment b => exact hexit 0
      | other t h => exact hexit 0

theorem wait_keeps (hcallback : Accounted st callback) (propdict : Nat) :
    ∀ reads : List ReadResult, Keeps st (P + one propdict)
      (PyRabbitMQ_recv.wait st bytesAvailable tables callback revivals propdict reads)
      (fun _ => P) (cutCloses revivals (waitCut bytesAvailable reads))
      (waitLaps bytesAvailable reads) := by
  have hexit : ∀ retval, Keeps st (P + one propdict)
      (PyRabbitMQ_recv.exit retval none none (some propdict) none none) (fun _ => P) 0 false := by
    refine fun retval => exit_keeps fun _ => ?_
    have hzero : owned none = 0 := rfl
    rw [hzero]
    simp only [owned]
    abel
  intro reads
  induction reads with
  | nil => exact keeps_hang
  | cons read reads ih =>
    cases read with
    | blocked => exact keeps_hang
    | failed status h => exact hexit status
    | ok frame =>
      unfold PyRabbitMQ_recv.wait waitLaps waitCut
      cases frame.payload with
      | method m =>
        cases m with
        | basic_deliver deliver => exact delivered_keeps hcallback propdict deliver reads
        | _ => exact keeps_dropped received_drops fun _ => hexit (-1)
      | header body_target props => exact ih
      | body_fragment b => exact ih
      | other t h => exact ih

/-- `_basic_recv` gives back all that it takes. -/
theorem basic_recv_settles (hcallback : Accounted st callback) {answers : RecvAnswers}
    {r : Option Nat × Books} (hs : Owes L s)
    (hrun : PyRabbitMQ_Connection_basic_recv st bytesAvailable tables callback answers s =
      (.ret r, s')) :
    Settled st (L + (owned r.1 + r.2.kept)) s s'
      (answers.closes bytesAvailable r.1 + r.2.closes)
      (answers.laps bytesAvailable || r.2.lapped) := by
  have hs : Owes (L + 0) s := hs.congr (add_zero L).symm
  unfold PyRabbitMQ_Connection_basic_recv at hrun
  unfold RecvAnswers.closes RecvAnswers.laps
  cases hready : answers.connected && answers.ready with
  | false =>
    rw [hready] at hrun
    exact (keeps_pure (P := 0) (Q := owned) (a := none) rfl) hs hrun
  | true =>
    rw [hready, if_pos rfl] at hrun
    rw [if_pos rfl, Bool.true_and]
    obtain ⟨received, s1, hrecv, hrun⟩ := Run.ret_of_bind hrun
    have hreceived := ((keeps_owns owns_dict fun propdict =>
      wait_keeps hcallback propdict answers.reads) hs hrecv).congr
        (congrArg (L + ·) (zero_add received.2.kept))
    dsimp only at hrun
    rw [Nat.add_right_comm, ← Bool.or_false (waitLaps _ _ || _)]
    split at hrun
    · obtain ⟨u, s2, hclose, hrun⟩ := Run.ret_of_bind hrun
      cases hrun
      refine hreceived.bind fun E hs1 => ?_
      obtain ⟨hlater, hdropped⟩ := close_drops hclose
      refine ((Settled.of_owes (.refl s') (hdropped _ hs1)).drops hlater).congr ?_
      exact congrArg (L + · + E) (zero_add received.2.kept).symm
    · obtain ⟨u, s2, hincref, hrun⟩ := Run.ret_of_bind hrun
      cases hrun
      refine hreceived.bind fun E hs1 => ?_
      have hs1 : Owes (L + received.2.kept + E + 0) s1 := hs1.congr (by abel)
      obtain ⟨hlater, hs'⟩ := owns_incref st.Py_None hs1 hincref
      refine .of_owes hlater (hs'.congr ?_)
      show L + received.2.kept + E + (0 + one st.Py_None) =
        L + (one st.Py_None + received.2.kept) + E
      abel

end

/-! ## Programs keep their books -/

section

variable {α β : Type} {bytesAvailable : Nat → Bool} {Q : β → Nat → Int}

/-- A first part of a program, whose gain is written down behind the rest. -/
theorem keeps_booked {x : Run Memory α} {gain : α → Nat → Int}
    {f : α → Run Memory (β × Books)} {g : α → Books → Books}
    (hx : Owns 0 x gain) (hf : ∀ a, Keeps st 0 (f a) Q 0 false)
    (hg : ∀ a books, g a books = { books with kept := books.kept + gain a }) :
    Keeps st 0 (x >>= fun a => f a >>= fun r => pure (r.1, g a r.2)) Q 0 false := by
  intro L s s' r hs hrun
  obtain ⟨a, s1, h1, hrun⟩ := Run.ret_of_bind hrun
  obtain ⟨r', s2, h2, hrun⟩ := Run.ret_of_bind hrun
  cases hrun
  obtain ⟨hlater, hs1⟩ := hx hs h1
  have hs1 : Owes (L + gain a + 0) s1 := hs1.congr (add_zero _).symm
  have hrest := (hf a hs1 h2).after hlater
  rw [hg]
  refine hrest.congr ?_
  show L + gain a + (Q r'.1 + r'.2.kept) = L + (Q r'.1 + (r'.2.kept + gain a))
  abel

theorem program_keeps (program : Program) :
    Keeps st 0 (program.run st bytesAvailable) owned 0 false := by
  induction program with
  | finish raises =>
    cases raises with
    | true => exact keeps_pure rfl
    | false => exact keeps_owns (owns_incref _) fun _ => keeps_pure (zero_add _)
  | look rest ih =>
    intro L s s' r hs hrun
    exact ih s hs hrun
  | take a rest ih =>
    exact keeps_booked (g := fun _ books => books.take a)
      ((owns_incref a).congr fun _ => zero_add _) (fun _ => ih) fun _ _ => rfl
  | give a rest ih =>
    exact keeps_booked (g := fun _ books => books.give a)
      ((owns_decref a).congr fun _ => zero_sub _) (fun _ => ih)
      fun _ books => by rw [Books.give, sub_eq_add_neg]
  | make o rest ih =>
    exact keeps_booked (g := fun a books => books.take a) ((owns_new rfl).congr fun _ => zero_add _)
      ih fun _ _ => rfl
  | drain answers tables callback rest ihcallback ihrest =>
    intro L s s' r hs hrun
    obtain ⟨drained, s1, h1, hrun⟩ := Run.ret_of_bind hrun
    obtain ⟨r', s2, h2, hrun⟩ := Run.ret_of_bind hrun
    cases hrun
    have hs : Owes L s := hs.congr (add_zero L)
    have hdrained := basic_recv_settles ihcallback hs h1
    have hboth := hdrained.bind (M := L + (owned r'.1 + (drained.2.kept +
        (owned drained.1 + r'.2.kept)))) fun E hs1 => by
      have hs1 : Owes (L + (owned drained.1 + drained.2.kept) + E + 0) s1 :=
        hs1.congr (add_zero _).symm
      refine (ihrest drained.1 hs1 h2).congr ?_
      abel
    simp only [Books.add, Nat.zero_add, Bool.false_or] at hboth ⊢
    rw [Nat.add_left_comm, ← Nat.add_assoc, Bool.or_left_comm, ← Bool.or_assoc]
    exact hboth

/-- In every program of drains, whose callbacks hold on to the messages, let go and drain in turn
to any depth, an object has the references that it had, with those that the program took, and
`None` one more for each close that an error handler has made. What is left over besides is,
exactly where a body ran through the counter of its frames, the payload that was lost. Nothing
falls below zero while the program gives back its own references only. -/
theorem a_program_of_drains_keeps_its_books {program : Program} {r : Option Nat} {books : Books}
    (hsound : Sound Obj.refs s.heap) (hrun : program.run st bytesAvailable s = (.ret (r, books), s')) :
    (∃ E, Lost s.heap.next E ∧
      (∀ x, loose Obj.refs s'.heap x = loose Obj.refs s.heap x + owned r x + books.kept x +
        (if x = st.Py_None then (books.closes : Int) else 0) + E x) ∧
      (E = 0 ↔ books.lapped = false)) ∧
    ((∀ x, 0 ≤ loose Obj.refs s.heap x + books.kept x) → ∀ x, 0 ≤ s'.heap.count x) := by
  have hs : Owes (loose Obj.refs s.heap + 0) s := ⟨hsound.sealed, fun x => (add_zero _).symm⟩
  obtain ⟨-, E, hE, hs', hiff⟩ := program_keeps program hs hrun
  rw [Nat.zero_add] at hs'
  have hloose : ∀ x, loose Obj.refs s'.heap x = loose Obj.refs s.heap x + owned r x +
      books.kept x + (if x = st.Py_None then (books.closes : Int) else 0) + E x := by
    intro x
    rw [hs'.loose x]
    simp only [Pi.add_apply, nones_apply]
    omega
  refine ⟨⟨E, hE, hloose, hiff⟩, fun hkept x => ?_⟩
  have hold := hkept x
  have hnew := hloose x
  have hlost := hE.nonneg x
  have hresult : 0 ≤ owned r x := by
    cases r with
    | none => exact le_rfl
    | some a => exact one_nonneg a x
  rw [loose] at hnew
  split at hnew <;> omega

end

/-! ### A program -/

/-- A delivery whose body comes in these pieces. -/
def deliveredIn (size : BitVec 64) (pieces : List body_fragment_t) : List ReadResult :=
  .ok ⟨1, .method (.basic_deliver ⟨[116], 1, false, [], []⟩)⟩ :: .ok ⟨1, .header size .empty⟩ ::
    pieces.map fun b => .ok ⟨1, .body_fragment b⟩

/-- A drain of a connection that is up, whose callback is registered everywhere. -/
def drained (reads : List ReadResult) (revivals : Revivals) (callback : Nat → Program)
    (rest : Program) : Program :=
  .drain ⟨true, true, reads, revivals⟩
    ⟨fun _ => some fun _ => true, some (3, fun _ => some 4), true⟩
    (fun _ _ message => callback message) fun _ => rest

/-- The callback holds on to its message, and drains one that comes in two pieces, and of which
nothing is kept. The next drain reads a `channel.close`, and the close-ok cannot be sent. -/
def holding : Program :=
  drained (deliveredIn 2 [⟨[72, 105], by decide⟩]) [] (fun message =>
    .take message (drained (deliveredIn 3 [⟨[72, 111], by decide⟩, ⟨[33], by decide⟩]) []
      (fun _ => .finish false) (.finish false)))
    (drained [.ok ⟨1, .method (.channel_close ⟨404, []⟩)⟩] [(-1, .none)] (fun _ => .finish false)
      (.finish false))

/-- The run returns with so many closes, and has lost no payload. -/
def lossless (closes : Nat) : Outcome (Option Nat × Books) → Bool
  | .ret r => r.2.closes == closes && !r.2.lapped
  | _ => false

theorem ret_of_lossless {x : Run Memory (Option Nat × Books)} (closes : Nat)
    (h : lossless closes (x s).1 = true) :
    ∃ r books, x s = (.ret (r, books), (x s).2) ∧ books.closes = closes ∧
      books.lapped = false := by
  rcases hx : x s with ⟨o, s'⟩
  rw [hx] at h
  cases o with
  | ret r => exact ⟨r.1, r.2, rfl, by simpa [lossless] using h⟩
  | _ => cases h

/-- The message that is held stays, of the other one nothing is left, and the drain that fails
drops two references to `None`. -/
theorem a_message_is_held_while_another_is_drained :
    ∃ r books s', holding.run ⟨0, 1, 2⟩ (fun _ => true) (ownership.memoryOf 5) =
        (.ret (r, books), s') ∧
      (∃ E, Lost 5 E ∧ (∀ x, loose Obj.refs s'.heap x =
        loose Obj.refs (ownership.memoryOf 5).heap x + owned r x + books.kept x +
          (if x = 0 then (2 : Int) else 0) + E x) ∧ E = 0) ∧
      s'.heap.count 19 = 1 ∧ (List.range 19).all fun a => s'.heap.count (a + 20) = 0 := by
  obtain ⟨r, books, hrun, hcloses, hlapped⟩ :=
    ret_of_lossless (x := holding.run ⟨0, 1, 2⟩ fun _ => true) (s := ownership.memoryOf 5) 2
      (by decide +kernel)
  obtain ⟨⟨E, hE, hloose, hiff⟩, -⟩ := a_program_of_drains_keeps_its_books
    (ownership.sound_memoryOf 5) hrun
  rw [hcloses] at hloose
  exact ⟨r, books, _, hrun, ⟨E, hE, hloose, hiff.mpr hlapped⟩, by decide +kernel,
    by decide +kernel⟩

end librabbitmq.memory.draining
