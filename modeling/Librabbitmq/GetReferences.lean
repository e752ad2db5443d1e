-- The references of `Connection._basic_get`. What is read behind the get-ok is received into
-- the dict that the call returns; when that fails, the exit releases the dict and then
-- `delivery_info`, which went with it.
import Librabbitmq.Memory
import Librabbitmq.Connection

namespace librabbitmq.memory

open references containers
open ownership (PyRef pyobject_array_t PyObjectArray_AddEntry)

/-! ## The handlers of errors -/

section

variable {ω : Type}

/-- What the library answers while a channel is revived: the status of the close-ok that is sent,
and the reply to the open behind it. -/
abbrev Revivals := List (Int × amqp_rpc_reply_t)

/-- `PyRabbitMQ_HandleAMQError`, where `close` is what a call of `PyRabbitMQ_Connection_close`
does, whose result is dropped, and `revive` is a call of `PyRabbitMQ_revive_channel`. -/
def PyRabbitMQ_HandleAMQError (close : Run ω Unit) (revive : Run ω Int) :
    amqp_rpc_reply_t → Run ω Int
  | .normal _ => return 0
  | .server_exception (.channel_close _) => do
    let _ ← revive
    return PYRABBITMQ_CHANNEL_ERROR
  | _ => do
    close
    return PYRABBITMQ_CONNECTION_ERROR

/-- `PyRabbitMQ_revive_channel`. A library that does not answer is waited for. -/
def PyRabbitMQ_revive_channel (close : Run ω Unit) : Revivals → Run ω Int
  | [] => Run.hang
  | (status, reply) :: rest =>
    if status < 0 then do
      close
      return 1
    else PyRabbitMQ_HandleAMQError close (PyRabbitMQ_revive_channel close rest) reply

/-- `PyRabbitMQ_SetErr_ReceivedFrame`. -/
def PyRabbitMQ_SetErr_ReceivedFrame (close : Run ω Unit) (revivals : Revivals) :
    amqp_method_t → Run ω Unit
  | .channel_close _ => do
    let _ ← PyRabbitMQ_revive_channel close revivals
    return ()
  | .connection_close _ => close
  | _ => return ()

/-- `PyObjectArray_XDECREF`: the nodes from the last one on. -/
def releaseEntries (decref : Nat → Run ω Unit) : pyobject_array_t → Run ω Unit
  | .last entries => entries.forM decref
  | .link entries next => do
    releaseEntries decref next
    entries.forM decref

end

/-! ## The call -/

/-- `PyRabbitMQ_Connection_close` returns `None`. -/
def PyRabbitMQ_Connection_close (st : Statics) : Run Memory Unit := Py_INCREF st.Py_None

/-- The entries are taken out before they are released. -/
def PyObjectArray_XDECREF : Run Memory Unit := do
  let s ← Run.get
  Run.modify fun s => { s with array := .zero }
  releaseEntries Py_DECREF s.array

def PyObjectArray_Maybe_Unicode (s : PyRef) : Run Memory PyRef :=
  match s with
  | .str _ s =>
    match asciiEncode s with
    | some b => do
      let self ← PyObject_New (.plain (.bytes b))
      Run.modify fun s => { s with array := PyObjectArray_AddEntry s.array self }
      return .bytes self b
    | none => return .null
  | s => return s

/-- `PyString_AS_AMQBYTES` reads a `bytes`, unchecked. -/
def PyString_AS_AMQBYTES : PyRef → Run Memory Unit
  | .bytes _ _ => return ()
  | _ => Run.crash

/-- A new `bytes`. What is copied into it does not matter here. -/
def PyBytes_FromStringAndSize : Run Memory Nat := PyObject_New (.plain (.bytes []))

/-- The variables of the body loop. -/
structure BodyVars where
  i : BitVec 32
  body_received : BitVec 64
  payload : Option Nat
  view : Option Nat

def BodyVars.init : BodyVars := ⟨0, 0, none, none⟩

/-- How the body loop is left, with its variables. -/
inductive BodyEnd where
  | done (v : BodyVars)
  | altframe (m : amqp_method_t) (v : BodyVars)
  | goto_finally (v : BodyVars)

/-- A body frame. `bytesAvailable` tells whether a `bytes` of the size can be made. -/
def PyRabbitMQ_recv.fragment (bytesAvailable : Nat → Bool) (body_target : BitVec 64)
    (v : BodyVars) (b : Octets) : Run Memory (BodyVars ⊕ BodyEnd) := do
  let v := { v with body_received := v.body_received + BitVec.ofNat 64 b.length }
  if v.i = 0 then
    if v.body_received.toInt < body_target.toInt then
      if bytesAvailable body_target.toNat then
        let payload ← PyBytes_FromStringAndSize
        let view ← PyMemoryView_FromObject payload
        return .inl { v with i := v.i + 1, payload := some payload, view := some view }
      else return .inr (.goto_finally { v with payload := none })
    else
      let payload ← PySTRING_FROM_AMQBYTES b
      return .inr (.done { v with payload := payload })
  else return .inl { v with i := v.i + 1 }

/-- The body loop over the reads that are to come. -/
def PyRabbitMQ_recv.loop (bytesAvailable : Nat → Bool) (body_target : BitVec 64) :
    List ReadResult → BodyVars → Run Memory BodyEnd
  | [], v =>
    if v.body_received.toInt < body_target.toInt then Run.hang else return .done v
  | read :: reads, v =>
    if v.body_received.toInt < body_target.toInt then
      match read with
      | .blocked => Run.hang
      | .failed _ _ => return .done v
      | .ok frame =>
        match frame.payload with
        | .method m => return .altframe m v
        | .body_fragment b => do
          match ← PyRabbitMQ_recv.fragment bytesAvailable body_target v b.bytes with
          | .inl v => PyRabbitMQ_recv.loop bytesAvailable body_target reads v
          | .inr e => return e
        | _ => return .goto_finally v
    else return .done v

/-- `finally:`, where `delivery_info` is NULL. -/
def PyRabbitMQ_recv.cleanup (payload channel propdict view : Option Nat) : Run Memory Unit := do
  Py_XDECREF payload
  Py_XDECREF channel
  Py_XDECREF propdict
  Py_XDECREF view

/-- The content goes into `p`. -/
def PyRabbitMQ_recv.fill (p : Nat) (payload channel propdict : Nat) (view : Option Nat) :
    Run Memory Int := do
  PyDict_SetItemString p "properties" (some propdict)
  PyDict_SetItemString p "body" (some payload)
  PyDict_SetItemString p "channel" (some channel)
  PyRabbitMQ_recv.cleanup (some payload) (some channel) (some propdict) view
  return 0

/-- What comes after the body loop. -/
def PyRabbitMQ_recv.finish (p : Nat) (body_target : BitVec 64) (channel propdict : Nat)
    (v : BodyVars) : Run Memory Int :=
  match v.payload with
  | some payload => PyRabbitMQ_recv.fill p payload channel propdict v.view
  | none =>
    -- expected content, got none
    if body_target ≠ 0 then do
      PyRabbitMQ_recv.cleanup none (some channel) (some propdict) v.view
      return -1
    else do
      let payload ← PyBytes_FromStringAndSize
      PyRabbitMQ_recv.fill p payload channel propdict v.view

/-- `PyRabbitMQ_recv` with a dict `p` and `piggyback` set, over the reads that it makes. -/
def PyRabbitMQ_recv (st : Statics) (bytesAvailable : Nat → Bool) (revivals : Revivals) (p : Nat)
    (reads : List ReadResult) : Run Memory Int := do
  let close := PyRabbitMQ_Connection_close st
  let propdict ← PyDict_New
  match reads with
  | [] => Run.hang
  | .blocked :: _ => Run.hang
  | .failed status _ :: _ => do
    PyRabbitMQ_recv.cleanup none none (some propdict) none
    return status
  | .ok frame :: reads =>
    match frame.payload with
    | .method m => do
      PyRabbitMQ_SetErr_ReceivedFrame close revivals m
      PyRabbitMQ_recv.cleanup none none (some propdict) none
      return -1
    | .header body_target props => do
      let channel ← PyInt_FromLong frame.channel.toNat
      basic_properties_to_PyDict st props propdict
      match ← PyRabbitMQ_recv.loop bytesAvailable body_target reads BodyVars.init with
      | .done v => PyRabbitMQ_recv.finish p body_target channel propdict v
      | .altframe m v => do
        PyRabbitMQ_SetErr_ReceivedFrame close revivals m
        PyRabbitMQ_recv.cleanup v.payload (some channel) (some propdict) v.view
        return -1
      | .goto_finally v => do
        PyRabbitMQ_recv.cleanup v.payload (some channel) (some propdict) v.view
        return 0
    | _ => do
      PyRabbitMQ_recv.cleanup none none (some propdict) none
      return 0

/-- What the library answers in a call of `_basic_get`. -/
structure GetAnswers where
  reply : amqp_rpc_reply_t
  revivals : Revivals
  data_in_buffer : Bool
  reads : List ReadResult

/-- `bail:` -/
def bail : Run Memory (Option Nat) := do
  PyObjectArray_XDECREF
  return none

/-- The dict of a get-ok, and what is read behind it. -/
def PyRabbitMQ_Connection_basic_get.got (st : Statics) (bytesAvailable : Nat → Bool)
    (answers : GetAnswers) (ok : amqp_basic_get_ok_t) : Run Memory (Option Nat) := do
  let p ← PyDict_New
  let delivery_info ← PyDict_New
  PyDICT_SETSTR_DECREF p "delivery_info" (some delivery_info)
  amqp_basic_deliver_to_PyDict st delivery_info ok.delivery_tag ok.exchange ok.routing_key
    ok.redelivered
  let message_count ← PyInt_FromLong ok.message_count.toNat
  PyDict_SetItemString delivery_info "message_count" (some message_count)
  Py_DECREF message_count
  if answers.data_in_buffer then
    let retval ← PyRabbitMQ_recv st bytesAvailable answers.revivals p answers.reads
    if retval < 0 then
      Py_DECREF p
      Py_DECREF delivery_info
      -- `error:`
      PyRabbitMQ_Connection_close st
      bail
    else return some p
  else return some p

/-- What the call does with the reply. -/
def PyRabbitMQ_Connection_basic_get.answered (st : Statics) (bytesAvailable : Nat → Bool)
    (answers : GetAnswers) : Run Memory (Option Nat) := do
  let close := PyRabbitMQ_Connection_close st
  let revive := PyRabbitMQ_revive_channel close answers.revivals
  let status ← PyRabbitMQ_HandleAMQError close revive answers.reply
  if status ≠ 0 then bail
  else
    match answers.reply with
    | .normal (.basic_get_ok ok) =>
      PyRabbitMQ_Connection_basic_get.got st bytesAvailable answers ok
    -- `empty:`
    | _ => do
      Py_INCREF st.Py_None
      return some st.Py_None

/-- `Connection._basic_get`. `queue` is `none` where the arguments are refused. -/
def PyRabbitMQ_Connection_basic_get (st : Statics) (bytesAvailable : Nat → Bool)
    (answers : GetAnswers) (connected : Bool) (queue : Option PyRef) :
    Run Memory (Option Nat) := do
  Run.modify fun s => { s with array := .zero }
  match connected, queue with
  | true, some queue =>
    match ← PyObjectArray_Maybe_Unicode queue with
    | .null => bail
    | queue => do
      PyString_AS_AMQBYTES queue
      PyObjectArray_XDECREF
      PyRabbitMQ_Connection_basic_get.answered st bytesAvailable answers
  | _, _ => bail

/-! ## What is received -/

/-- The reads that are to come leave a body for `p`, where `begun` tells that there was a body
frame. At a lap of the counter the payload is made anew, and the old one is lost. -/
def bodyTaken (bytesAvailable : Nat → Bool) (body_target : BitVec 64) :
    List ReadResult → BitVec 32 → BitVec 64 → Bool → Bool
  | [], _, _, begun => begun || body_target = 0
  | read :: reads, i, body_received, begun =>
    if body_received.toInt < body_target.toInt then
      match read with
      | .blocked => true
      | .failed _ _ => begun || body_target = 0
      | .ok frame =>
        match frame.payload with
        | .method _ => false
        | .body_fragment b =>
          let body_received := body_received + BitVec.ofNat 64 b.bytes.length
          if i = 0 then
            !begun && if body_received.toInt < body_target.toInt then
                !bytesAvailable body_target.toNat ||
                  bodyTaken bytesAvailable body_target reads (i + 1) body_received true
              else (utf8Decode b.bytes).isSome || body_target = 0
          else bodyTaken bytesAvailable body_target reads (i + 1) body_received begun
        | _ => true
    else begun || body_target = 0

/-- What is read behind the get-ok is received: it is no failure and no method, and no body is
cut or lost. -/
def receives (bytesAvailable : Nat → Bool) : List ReadResult → Bool
  | [] => true
  | .blocked :: _ => true
  | .failed _ _ :: _ => false
  | .ok frame :: reads =>
    match frame.payload with
    | .method _ => false
    | .header body_target _ => bodyTaken bytesAvailable body_target reads 0 0 false
    | _ => true

/-- The method frame that cuts a body short. -/
def bodyCut (bytesAvailable : Nat → Bool) (body_target : BitVec 64) :
    List ReadResult → BitVec 32 → BitVec 64 → Option amqp_method_t
  | [], _, _ => none
  | read :: reads, i, body_received =>
    if body_received.toInt < body_target.toInt then
      match read with
      | .ok frame =>
        match frame.payload with
        | .method m => some m
        | .body_fragment b =>
          let body_received := body_received + BitVec.ofNat 64 b.bytes.length
          if i = 0 then
            if body_received.toInt < body_target.toInt && bytesAvailable body_target.toNat then
              bodyCut bytesAvailable body_target reads (i + 1) body_received
            else none
          else bodyCut bytesAvailable body_target reads (i + 1) body_received
        | _ => none
      | _ => none
    else none

/-- The method frame that is read where the header or a body frame of a content is due. -/
def contentCut (bytesAvailable : Nat → Bool) : List ReadResult → Option amqp_method_t
  | .ok frame :: reads =>
    match frame.payload with
    | .method m => some m
    | .header body_target _ => bodyCut bytesAvailable body_target reads 0 0
    | _ => none
  | _ => none

def BodyEnd.cut : BodyEnd → Option amqp_method_t
  | .altframe m _ => some m
  | _ => none

/-! ## The closes of the handlers -/

/-- The closes of a handler, where a channel that is revived makes `revived`. -/
def handleCloses (revived : Nat) : amqp_rpc_reply_t → Nat
  | .normal _ => 0
  | .server_exception (.channel_close _) => revived
  | _ => 1

/-- The closes while a channel is revived. -/
def reviveCloses : Revivals → Nat
  | [] => 0
  | (status, reply) :: rest => if status < 0 then 1 else handleCloses (reviveCloses rest) reply

/-- The closes behind a method frame that is not expected. -/
def receivedCloses (revivals : Revivals) : amqp_method_t → Nat
  | .channel_close _ => reviveCloses revivals
  | .connection_close _ => 1
  | _ => 0

def cutCloses (revivals : Revivals) (cut : Option amqp_method_t) : Nat :=
  cut.elim 0 (receivedCloses revivals)

section

variable {ω : Type} {close : Run ω Unit} {w w' : ω} {R : Nat → ω → ω → Prop}

/-- A handler does nothing but close, where `R k` is what `k` closes do. -/
theorem handle_closes (hnone : ∀ w, R 0 w w)
    (hclose : ∀ {w w' : ω} {u : Unit}, close w = (.ret u, w') → R 1 w w')
    {revive : Run ω Int} {revived : Nat}
    (hrevive : ∀ {w w' : ω} {n : Int}, revive w = (.ret n, w') → R revived w w')
    {reply : amqp_rpc_reply_t} {n : Int}
    (hrun : PyRabbitMQ_HandleAMQError close revive reply w = (.ret n, w')) :
    R (handleCloses revived reply) w w' := by
  have hclosed : ∀ {m : Int}, (close >>= fun _ => pure m) w = (.ret n, w') → R 1 w w' := by
    intro m h
    obtain ⟨u, w1, h1, h2⟩ := Run.ret_of_bind h
    cases h2
    exact hclose h1
  cases reply with
  | normal m =>
    cases hrun
    exact hnone w
  | none => exact hclosed hrun
  | library_exception e => exact hclosed hrun
  | server_exception m =>
    cases m with
    | channel_close c =>
      obtain ⟨j, w1, h1, h2⟩ := Run.ret_of_bind hrun
      cases h2
      exact hrevive h1
    | _ => exact hclosed hrun

theorem revive_closes (hnone : ∀ w, R 0 w w)
    (hclose : ∀ {w w' : ω} {u : Unit}, close w = (.ret u, w') → R 1 w w') :
    ∀ {revivals : Revivals} {w w' : ω} {n : Int},
      PyRabbitMQ_revive_channel close revivals w = (.ret n, w') →
        R (reviveCloses revivals) w w' := by
  intro revivals
  induction revivals with
  | nil =>
    intro w w' n hrun
    cases hrun
  | cons answer rest ih =>
    intro w w' n hrun
    obtain ⟨status, reply⟩ := answer
    rw [PyRabbitMQ_revive_channel] at hrun
    rw [reviveCloses]
    split at hrun
    · rename_i hfailed
      obtain ⟨u, w1, h1, h2⟩ := Run.ret_of_bind hrun
      cases h2
      rw [if_pos hfailed]
      exact hclose h1
    · rename_i hsent
      rw [if_neg hsent]
      exact handle_closes hnone hclose ih hrun

theorem received_closes (hnone : ∀ w, R 0 w w)
    (hclose : ∀ {w w' : ω} {u : Unit}, close w = (.ret u, w') → R 1 w w') {revivals : Revivals}
    {m : amqp_method_t} {u : Unit}
    (hrun : PyRabbitMQ_SetErr_ReceivedFrame close revivals m w = (.ret u, w')) :
    R (receivedCloses revivals m) w w' := by
  cases m with
  | channel_close c =>
    obtain ⟨n, w1, h1, h2⟩ := Run.ret_of_bind hrun
    cases h2
    exact revive_closes hnone hclose h1
  | connection_close c => exact hclose hrun
  | _ =>
    cases hrun
    exact hnone w

/-- Only a normal reply is no error. -/
theorem handle_zero {revive : Run ω Int} {reply : amqp_rpc_reply_t} {w w' : ω} {n : Int}
    (hrun : PyRabbitMQ_HandleAMQError close revive reply w = (.ret n, w')) :
    (n = 0 ∧ w' = w ∧ ∃ m, reply = .normal m) ∨ (n ≠ 0 ∧ ∀ m, reply ≠ .normal m) := by
  have hclosed : (close >>= fun _ => pure PYRABBITMQ_CONNECTION_ERROR) w = (.ret n, w') →
      n ≠ 0 := by
    intro h
    obtain ⟨u, w1, h1, h2⟩ := Run.ret_of_bind h
    cases h2
    decide
  cases reply with
  | normal m =>
    cases hrun
    exact Or.inl ⟨rfl, rfl, m, rfl⟩
  | none => exact Or.inr ⟨hclosed hrun, fun m => by simp⟩
  | library_exception e => exact Or.inr ⟨hclosed hrun, fun m => by simp⟩
  | server_exception m =>
    refine Or.inr ⟨?_, fun m => by simp⟩
    cases m with
    | channel_close c =>
      obtain ⟨k, w1, h1, h2⟩ := Run.ret_of_bind hrun
      cases h2
      decide
    | _ => exact hclosed hrun

end

section

variable {st : Statics} {s s' : Memory}

/-- `k` closes have dropped a reference to `None` each. -/
def Dropped (st : Statics) (k : Nat) (s s' : Memory) : Prop :=
  Later s s' ∧ ∀ L, Owes L s → Owes (L + k • one st.Py_None) s'

theorem dropped_none (s : Memory) : Dropped st 0 s s :=
  ⟨.refl s, fun _ hs => hs.congr (by rw [zero_nsmul, add_zero])⟩

theorem close_drops {u : Unit} (hrun : PyRabbitMQ_Connection_close st s = (.ret u, s')) :
    Dropped st 1 s s' := by
  obtain ⟨-, hs'⟩ := incref_run hrun
  refine ⟨?_, fun L hs => ?_⟩
  · rw [hs']
    exact ⟨le_rfl, rfl⟩
  · have hzero : Owes (L + 0) s := hs.congr (add_zero L).symm
    exact ((owns_incref st.Py_None) hzero hrun).2.congr (by rw [one_nsmul, zero_add])

theorem received_drops {revivals : Revivals} {m : amqp_method_t} {u : Unit}
    (hrun : PyRabbitMQ_SetErr_ReceivedFrame (PyRabbitMQ_Connection_close st) revivals m s =
      (.ret u, s')) : Dropped st (receivedCloses revivals m) s s' :=
  received_closes dropped_none close_drops hrun

end

/-! ## The body loop -/

/-- What the variables of the loop own. -/
def BodyVars.holds (v : BodyVars) : Nat → Int := owned v.payload + owned v.view

def BodyEnd.vars : BodyEnd → BodyVars
  | .done v => v
  | .altframe _ v => v
  | .goto_finally v => v

/-- The receive machine goes on to return 0. -/
def BodyEnd.good (body_target : BitVec 64) : BodyEnd → Bool
  | .done v => v.payload.isSome || body_target = 0
  | .altframe _ _ => false
  | .goto_finally _ => true

/-- References to objects from `start` on that nobody gives back. -/
structure Lost (start : Nat) (E : Nat → Int) : Prop where
  nonneg : ∀ x, 0 ≤ E x
  old : ∀ x, x < start → E x = 0

theorem Lost.zero (start : Nat) : Lost start 0 := ⟨fun _ => le_rfl, fun _ _ => rfl⟩

theorem Lost.add {start : Nat} {E F : Nat → Int} (hE : Lost start E) (hF : Lost start F) :
    Lost start (E + F) := by
  refine ⟨fun x => add_nonneg (hE.nonneg x) (hF.nonneg x), fun x hx => ?_⟩
  rw [Pi.add_apply, hE.old x hx, hF.old x hx]
  rfl

theorem Lost.of_le {start start' : Nat} {E : Nat → Int} (hle : start ≤ start')
    (hE : Lost start' E) : Lost start E :=
  ⟨hE.nonneg, fun x hx => hE.old x (hx.trans_le hle)⟩

theorem lost_owned {start : Nat} {o : Option Nat} (ho : ∀ a, o = some a → start ≤ a) :
    Lost start (owned o) := by
  cases o with
  | none => exact .zero start
  | some a =>
    have ha := ho a rfl
    refine ⟨fun x => ?_, fun x hx => ?_⟩
    · simp only [owned, one]
      split <;> omega
    · rw [owned, one, if_neg (by omega)]

/-- With a reference that is owned nothing can be lost that makes up for it. -/
theorem owned_add_eq_zero {start : Nat} {o : Option Nat} {E : Nat → Int} (hE : Lost start E) :
    owned o + E = 0 ↔ o = none ∧ E = 0 := by
  cases o with
  | none =>
    have hzero : owned none = 0 := rfl
    rw [hzero, zero_add, eq_self_iff_true, true_and]
  | some a =>
    refine iff_of_false (fun hzero => ?_) (by simp)
    have hself : one a a + E a = 0 := congrFun hzero a
    have := hE.nonneg a
    rw [one, if_pos rfl] at hself
    omega

section

variable {bytesAvailable : Nat → Bool} {body_target : BitVec 64} {L : Nat → Int} {s s' : Memory}

/-- How a body frame ends. A payload that is made anew leaves what the variables owned. -/
inductive FragmentEnds (bytesAvailable : Nat → Bool) (body_target : BitVec 64) (v : BodyVars)
    (b : Octets) (L : Nat → Int) (s s' : Memory) : BodyVars ⊕ BodyEnd → Prop
  | copied (hi : v.i ≠ 0) (hs : s' = s) : FragmentEnds bytesAvailable body_target v b L s s'
      (.inl { v with i := v.i + 1, body_received := v.body_received + BitVec.ofNat 64 b.length })
  | made {payload view : Nat} (hi : v.i = 0)
      (hshort : (v.body_received + BitVec.ofNat 64 b.length).toInt < body_target.toInt)
      (havailable : bytesAvailable body_target.toNat = true) (hpayload : s.heap.next ≤ payload)
      (hview : s.heap.next ≤ view) (hs : Owes (L + v.holds + one payload + one view) s') :
      FragmentEnds bytesAvailable body_target v b L s s' (.inl ⟨v.i + 1,
        v.body_received + BitVec.ofNat 64 b.length, some payload, some view⟩)
  | noMemory (hi : v.i = 0)
      (hshort : (v.body_received + BitVec.ofNat 64 b.length).toInt < body_target.toInt)
      (havailable : bytesAvailable body_target.toNat = false) (hs : s' = s) :
      FragmentEnds bytesAvailable body_target v b L s s' (.inr (.goto_finally ⟨v.i,
        v.body_received + BitVec.ofNat 64 b.length, none, v.view⟩))
  | whole {payload : Option Nat} (hi : v.i = 0)
      (hfull : ¬ (v.body_received + BitVec.ofNat 64 b.length).toInt < body_target.toInt)
      (htext : payload.isSome = (utf8Decode b).isSome)
      (hs : Owes (L + v.holds + owned payload) s') :
      FragmentEnds bytesAvailable body_target v b L s s' (.inr (.done ⟨v.i,
        v.body_received + BitVec.ofNat 64 b.length, payload, v.view⟩))

theorem fragment_ends {v : BodyVars} {b : Octets} {r : BodyVars ⊕ BodyEnd}
    (hs : Owes (L + v.holds) s)
    (hrun : PyRabbitMQ_recv.fragment bytesAvailable body_target v b s = (.ret r, s')) :
    Later s s' ∧ FragmentEnds bytesAvailable body_target v b L s s' r := by
  unfold PyRabbitMQ_recv.fragment at hrun
  dsimp only at hrun
  split_ifs at hrun with hi hshort havailable
  · obtain ⟨payload, s1, hpayload, hrun⟩ := Run.ret_of_bind hrun
    obtain ⟨view, s2, hview, hrun⟩ := Run.ret_of_bind hrun
    obtain ⟨hlater1, hs1⟩ := (owns_new (P := v.holds) rfl) hs hpayload
    obtain ⟨hlater2, hs2⟩ := (owns_view (P := v.holds + one payload) payload) hs1 hview
    cases hpayload
    obtain ⟨u, s3, hincref, hnew⟩ := Run.ret_of_bind hview
    obtain ⟨-, hs3⟩ := incref_run hincref
    cases hnew
    cases hrun
    refine ⟨hlater1.trans hlater2, .made hi hshort havailable le_rfl ?_ ?_⟩
    · rw [hs3]
      exact Nat.le_succ _
    · exact hs2.congr (by simp only [add_assoc])
  · cases hrun
    exact ⟨.refl s, .noMemory hi hshort (Bool.not_eq_true _ ▸ havailable) rfl⟩
  · obtain ⟨payload, s1, hpayload, hrun⟩ := Run.ret_of_bind hrun
    obtain ⟨hlater, hs1⟩ := (owns_string (P := v.holds) b) hs hpayload
    cases hrun
    refine ⟨hlater, .whole hi hshort ?_ (hs1.congr (add_assoc _ _ _).symm)⟩
    unfold PySTRING_FROM_AMQBYTES at hpayload
    cases hdecode : utf8Decode b with
    | some text =>
      rw [hdecode] at hpayload
      cases hpayload
      rfl
    | none =>
      rw [hdecode] at hpayload
      cases hpayload
      rfl
  · cases hrun
    exact ⟨.refl s, .copied hi rfl⟩

/-- What the loop leaves: what its variables own, and what it lost at the laps of its counter.
It leaves a body where `taken`, and was left at the method frame `cut`. -/
def LoopLeaves (body_target : BitVec 64) (start : Nat) (L : Nat → Int) (s s' : Memory)
    (e : BodyEnd) (taken : Bool) (cut : Option amqp_method_t) : Prop :=
  Later s s' ∧ ∃ E, Lost start E ∧ Owes (L + E + e.vars.holds) s' ∧
    (E = 0 ∧ e.good body_target = true ↔ taken = true) ∧ e.cut = cut

section

variable {start : Nat} {v : BodyVars} {e : BodyEnd} {received : BitVec 64} {taken : Bool}
  {cut : Option amqp_method_t}

/-- The loop is left at once, with the variables that it has. -/
theorem leaves_at_once (hs : Owes (L + v.holds) s) (hvars : e.vars = v)
    (hgood : e.good body_target = taken) (hcut : e.cut = cut) :
    LoopLeaves body_target start L s s e taken cut := by
  refine ⟨.refl s, 0, .zero start, hs.congr (by rw [add_zero, hvars]), ?_, hcut⟩
  rw [hgood]
  simp

/-- A payload that is made anew loses what the variables had. -/
theorem leaves_made {s1 : Memory} (hpayload : ∀ a, v.payload = some a → start ≤ a)
    (hview : ∀ a, v.view = some a → start ≤ a) (hnone : v.payload = none → v.view = none)
    (hlater : Later s s1) (h : LoopLeaves body_target start (L + v.holds) s1 s' e taken cut) :
    LoopLeaves body_target start L s s' e (!v.payload.isSome && taken) cut := by
  obtain ⟨hlater', E, hE, hs', hiff, hcut⟩ := h
  have hold : Lost start v.holds := (lost_owned hpayload).add (lost_owned hview)
  refine ⟨hlater.trans hlater', v.holds + E, hold.add hE, hs'.congr (by rw [add_assoc L]), ?_,
    hcut⟩
  rw [BodyVars.holds, add_assoc, owned_add_eq_zero ((lost_owned hview).add hE),
    owned_add_eq_zero hE, and_assoc, and_assoc, hiff]
  cases hv : v.payload with
  | none => simp [hnone hv]
  | some a => simp

/-- Where there is no memory the variables lose their payload. -/
theorem leaves_noMemory (hpayload : ∀ a, v.payload = some a → start ≤ a)
    (hs : Owes (L + v.holds) s) : LoopLeaves body_target start L s s
      (.goto_finally ⟨v.i, received, none, v.view⟩) (!v.payload.isSome) none := by
  refine ⟨.refl s, owned v.payload, lost_owned hpayload, hs.congr ?_, ?_, rfl⟩
  · rw [add_assoc]
    exact congrArg (L + ·) (congrArg (owned v.payload + ·) (zero_add _).symm)
  · rw [← add_zero (owned v.payload), owned_add_eq_zero (.zero start)]
    cases v.payload <;> simp [BodyEnd.good]

/-- A frame that completes the body takes the place of the payload. -/
theorem leaves_whole {payload : Option Nat} (hpayload : ∀ a, v.payload = some a → start ≤ a)
    (hlater : Later s s') (hs : Owes (L + v.holds + owned payload) s') :
    LoopLeaves body_target start L s s' (.done ⟨v.i, received, payload, v.view⟩)
      (!v.payload.isSome && (payload.isSome || body_target = 0)) none := by
  refine ⟨hlater, owned v.payload, lost_owned hpayload, hs.congr ?_, ?_, rfl⟩
  · simp only [BodyVars.holds, BodyEnd.vars]
    abel
  · rw [← add_zero (owned v.payload), owned_add_eq_zero (.zero start)]
    cases v.payload <;> simp [BodyEnd.good]

end

theorem loop_leaves (start : Nat) : ∀ (reads : List ReadResult) (v : BodyVars) {L : Nat → Int}
    {s s' : Memory} {e : BodyEnd}, start ≤ s.heap.next → (∀ a, v.payload = some a → start ≤ a) →
    (∀ a, v.view = some a → start ≤ a) → (v.payload = none → v.view = none) →
    Owes (L + v.holds) s →
    PyRabbitMQ_recv.loop bytesAvailable body_target reads v s = (.ret e, s') →
    LoopLeaves body_target start L s s' e
      (bodyTaken bytesAvailable body_target reads v.i v.body_received v.payload.isSome)
      (bodyCut bytesAvailable body_target reads v.i v.body_received) := by
  intro reads
  induction reads with
  | nil =>
    intro v L s s' e hstart _ _ _ hs hrun
    unfold PyRabbitMQ_recv.loop at hrun
    split at hrun
    · cases hrun
    · cases hrun
      exact leaves_at_once hs rfl rfl rfl
  | cons read reads ih =>
    intro v L s s' e hstart hpayload hview hnone hs hrun
    unfold PyRabbitMQ_recv.loop at hrun
    unfold bodyTaken bodyCut
    by_cases hshort : v.body_received.toInt < body_target.toInt
    · rw [if_pos hshort] at hrun
      rw [if_pos hshort, if_pos hshort]
      cases read with
      | blocked => cases hrun
      | failed status h =>
        cases hrun
        exact leaves_at_once hs rfl rfl rfl
      | ok frame =>
        dsimp only at hrun ⊢
        cases hframe : frame.payload with
        | method m =>
          rw [hframe] at hrun
          cases hrun
          exact leaves_at_once hs rfl rfl rfl
        | header size props =>
          rw [hframe] at hrun
          cases hrun
          exact leaves_at_once hs rfl rfl rfl
        | other t h =>
          rw [hframe] at hrun
          cases hrun
          exact leaves_at_once hs rfl rfl rfl
        | body_fragment b =>
          rw [hframe] at hrun
          obtain ⟨r, s1, hfragment, hrest⟩ := Run.ret_of_bind hrun
          obtain ⟨hlater, hends⟩ := fragment_ends hs hfragment
          have hnew := hlater.next_le
          dsimp only
          cases hends with
          | copied hi hsame =>
            subst hsame
            rw [if_neg hi, if_neg hi]
            exact ih ⟨v.i + 1, _, v.payload, v.view⟩ hstart hpayload hview hnone hs hrest
          | @made payload view hi hlack havailable hge hge' hs1 =>
            have hs1' : Owes (L + v.holds + (owned (some payload) + owned (some view))) s1 :=
              hs1.congr (add_assoc _ _ _)
            have hleaves := ih ⟨v.i + 1, _, some payload, some view⟩ (hstart.trans hnew)
              (fun a ha => by cases ha; omega) (fun a ha => by cases ha; omega) (by simp) hs1' hrest
            rw [if_pos hi, if_pos hlack, havailable, if_pos hi, Bool.and_true,
              if_pos (decide_eq_true hlack)]
            exact leaves_made hpayload hview hnone hlater hleaves
          | noMemory hi hlack havailable hsame =>
            subst hsame
            cases hrest
            rw [if_pos hi, if_pos hlack, havailable, Bool.not_false, Bool.true_or, Bool.and_true,
              if_pos hi, Bool.and_false, if_neg Bool.false_ne_true]
            exact leaves_noMemory hpayload hs
          | @whole payload hi hfull htext hs1 =>
            cases hrest
            rw [if_pos hi, if_neg hfull, ← htext, if_pos hi, decide_eq_false hfull, Bool.false_and,
              if_neg Bool.false_ne_true]
            exact leaves_whole hpayload hlater hs1
    · rw [if_neg hshort] at hrun
      rw [if_neg hshort, if_neg hshort]
      cases hrun
      exact leaves_at_once hs rfl rfl rfl

end

/-! ## The receive machine -/

section

variable {P : Nat → Int} {s s' : Memory}

theorem owns_cleanup (payload channel propdict view : Option Nat) :
    Owns P (PyRabbitMQ_recv.cleanup payload channel propdict view) fun _ =>
      P - owned payload - owned channel - owned propdict - owned view :=
  (owns_xdecref payload).bind fun _ => (owns_xdecref channel).bind fun _ =>
    (owns_xdecref propdict).bind fun _ => owns_xdecref view

/-- `p` takes references of its own, and those of the variables are given back. -/
theorem owns_fill (p payload channel propdict : Nat) (view : Option Nat) :
    Owns P (PyRabbitMQ_recv.fill p payload channel propdict view) fun _ =>
      P - one payload - one channel - one propdict - owned view := by
  refine (owns_setItemString p _ _).bind fun _ => (owns_setItemString p _ _).bind fun _ => ?_
  refine (owns_setItemString p _ _).bind fun _ => (owns_cleanup _ _ _ _).bind fun _ => ?_
  exact owns_pure rfl

theorem owns_finish (p : Nat) (body_target : BitVec 64) (channel propdict : Nat) (v : BodyVars) :
    Owns P (PyRabbitMQ_recv.finish p body_target channel propdict v) fun _ =>
      P - v.holds - one channel - one propdict := by
  unfold PyRabbitMQ_recv.finish BodyVars.holds
  cases v.payload with
  | some payload =>
    refine (owns_fill p payload channel propdict v.view).congr fun _ => ?_
    simp only [owned]
    abel
  | none =>
    have hzero : owned none = 0 := rfl
    dsimp only
    split
    · refine (owns_cleanup none _ _ v.view).bind fun _ => owns_pure ?_
      rw [hzero]
      simp only [owned]
      abel
    · refine (owns_new rfl).bind fun payload => ?_
      refine (owns_fill p payload channel propdict v.view).congr fun _ => ?_
      rw [hzero]
      abel

theorem fill_zero {p payload channel propdict : Nat} {view : Option Nat} {n : Int}
    (hrun : PyRabbitMQ_recv.fill p payload channel propdict view s = (.ret n, s')) : n = 0 := by
  obtain ⟨_, _, _, hrun⟩ := Run.ret_of_bind hrun
  obtain ⟨_, _, _, hrun⟩ := Run.ret_of_bind hrun
  obtain ⟨_, _, _, hrun⟩ := Run.ret_of_bind hrun
  obtain ⟨_, _, _, hrun⟩ := Run.ret_of_bind hrun
  cases hrun
  rfl

theorem finish_good {p channel propdict : Nat} {body_target : BitVec 64} {v : BodyVars} {n : Int}
    (hrun : PyRabbitMQ_recv.finish p body_target channel propdict v s = (.ret n, s')) :
    0 ≤ n ↔ (BodyEnd.done v).good body_target = true := by
  unfold PyRabbitMQ_recv.finish at hrun
  dsimp only [BodyEnd.good]
  cases hpayload : v.payload with
  | some payload =>
    rw [hpayload] at hrun
    rw [fill_zero hrun]
    exact iff_of_true le_rfl rfl
  | none =>
    rw [hpayload] at hrun
    dsimp only at hrun
    split at hrun
    · rename_i htarget
      obtain ⟨_, _, _, hrun⟩ := Run.ret_of_bind hrun
      cases hrun
      exact iff_of_false (by decide) (by simpa using htarget)
    · rename_i htarget
      obtain ⟨_, _, _, hrun⟩ := Run.ret_of_bind hrun
      rw [fill_zero hrun]
      simp [not_not.mp htarget]

end

section

variable {st : Statics} {bytesAvailable : Nat → Bool} {revivals : Revivals} {L : Nat → Int}
  {s s' : Memory}

theorem nones_apply (k x : Nat) :
    (k • one st.Py_None) x = if x = st.Py_None then (k : Int) else 0 := by
  rw [Pi.smul_apply, one]
  split <;> simp

/-- The references to `None` that closes have dropped are no others. -/
theorem dropped_apply (E : Nat → Int) (k : Nat) {x : Nat} (hx : x ≠ st.Py_None) :
    (k • one st.Py_None + E) x = E x := by
  rw [Pi.add_apply, nones_apply, if_neg hx, zero_add]

theorem dropped_nonneg {E : Nat → Int} (hE : ∀ x, 0 ≤ E x) (k x : Nat) :
    0 ≤ (k • one st.Py_None + E) x :=
  add_nonneg (nsmul_nonneg (one_nonneg st.Py_None x) k) (hE x)

/-- An exit of the receive machine. -/
theorem cleanup_leaves {payload channel propdict view : Option Nat} {m n : Int}
    (hs : Owes (L + (owned payload + owned channel + owned propdict + owned view)) s)
    (hrun : (PyRabbitMQ_recv.cleanup payload channel propdict view >>= fun _ => pure m) s =
      (.ret n, s')) : Later s s' ∧ n = m ∧ Owes L s' := by
  obtain ⟨u, s1, hcleanup, hrun⟩ := Run.ret_of_bind hrun
  obtain ⟨hlater, hs'⟩ := owns_cleanup payload channel propdict view hs hcleanup
  cases hrun
  refine ⟨hlater, rfl, hs'.congr ?_⟩
  show L + (owned payload + owned channel + owned propdict + owned view - owned payload -
    owned channel - owned propdict - owned view) = L
  abel

/-- What the receive machine leaves behind: the references to `None` that its closes dropped, and
those that the body loop has lost. The content is `received` when nothing is lost and it does not
fail. -/
def LeavesBehind (st : Statics) (L : Nat → Int) (s s' : Memory) (closes : Nat) (n : Int)
    (received : Bool) : Prop :=
  Later s s' ∧ ∃ E, Lost s.heap.next E ∧ Owes (L + (closes • one st.Py_None + E)) s' ∧
    (0 ≤ n ∧ E = 0 ↔ received = true)

/-- The exits before a header, which own `propdict` only. -/
theorem early_leaves {s1 s2 : Memory} {propdict k : Nat} {m n : Int} {received : Bool}
    (hlater : Later s s1) (hlater' : Later s1 s2)
    (hs : Owes (L + one propdict + k • one st.Py_None) s2)
    (hrun : (PyRabbitMQ_recv.cleanup none none (some propdict) none >>= fun _ => pure m) s2 =
      (.ret n, s')) (hm : 0 ≤ m ↔ received = true) : LeavesBehind st L s s' k n received := by
  have hempty : owned none = 0 := rfl
  have hs2 : Owes (L + (k • one st.Py_None + 0) +
      (owned none + owned none + owned (some propdict) + owned none)) s2 := by
    refine hs.congr ?_
    rw [hempty]
    simp only [owned]
    abel
  obtain ⟨hlater'', rfl, hs'⟩ := cleanup_leaves hs2 hrun
  refine ⟨hlater.trans (hlater'.trans hlater''), 0, .zero _, hs', ?_⟩
  rw [hm, eq_self_iff_true, and_true]

section

variable {rest : BodyEnd → Run Memory Int} {p channel propdict : Nat} {body_target : BitVec 64}
  {n : Int} (hdone : ∀ v, rest (.done v) = PyRabbitMQ_recv.finish p body_target channel propdict v)
  (haltframe : ∀ m v, rest (.altframe m v) =
    PyRabbitMQ_SetErr_ReceivedFrame (PyRabbitMQ_Connection_close st) revivals m >>= fun _ =>
      PyRabbitMQ_recv.cleanup v.payload (some channel) (some propdict) v.view >>= fun _ =>
        pure (-1))
  (hfinally : ∀ v, rest (.goto_finally v) =
    PyRabbitMQ_recv.cleanup v.payload (some channel) (some propdict) v.view >>= fun _ => pure 0)

include hdone haltframe hfinally

/-- What follows the body loop gives back what the variables own. -/
theorem ended_leaves {e : BodyEnd} {E : Nat → Int}
    (hs : Owes (L + E + e.vars.holds + one channel + one propdict) s)
    (hrun : rest e s = (.ret n, s')) :
    Later s s' ∧ (0 ≤ n ↔ e.good body_target = true) ∧
      Owes (L + (cutCloses revivals e.cut • one st.Py_None + E)) s' := by
  have hvars : ∀ {k : Nat} {s1 : Memory} {v : BodyVars},
      Owes (L + E + v.holds + one channel + one propdict + k • one st.Py_None) s1 →
      Owes (L + (k • one st.Py_None + E) + (owned v.payload + owned (some channel) +
        owned (some propdict) + owned v.view)) s1 := by
    intro k s1 v hs1
    refine hs1.congr ?_
    simp only [BodyVars.holds, owned]
    abel
  cases e with
  | done v =>
    rw [hdone] at hrun
    have hs1 : Owes (L + E + (v.holds + one channel + one propdict)) s :=
      hs.congr (by simp only [BodyEnd.vars, add_assoc])
    obtain ⟨hlater, hs'⟩ := owns_finish p body_target channel propdict v hs1 hrun
    refine ⟨hlater, finish_good hrun, hs'.congr ?_⟩
    show L + E + (v.holds + one channel + one propdict - v.holds - one channel - one propdict) =
      L + (0 • one st.Py_None + E)
    rw [zero_nsmul, zero_add]
    abel
  | altframe m v =>
    rw [haltframe] at hrun
    obtain ⟨u, s1, herror, hrun⟩ := Run.ret_of_bind hrun
    obtain ⟨hlater, hdropped⟩ := received_drops herror
    obtain ⟨hlater', rfl, hs'⟩ := cleanup_leaves (hvars (hdropped _ hs)) hrun
    exact ⟨hlater.trans hlater', iff_of_false (by decide) (by simp [BodyEnd.good]), hs'⟩
  | goto_finally v =>
    rw [hfinally] at hrun
    have hs1 : Owes (L + E + v.holds + one channel + one propdict + 0 • one st.Py_None) s :=
      hs.congr (by rw [zero_nsmul, add_zero]; rfl)
    obtain ⟨hlater, rfl, hs'⟩ := cleanup_leaves (hvars hs1) hrun
    exact ⟨hlater, iff_of_true le_rfl rfl, hs'⟩

/-- The body loop and what follows it. -/
theorem body_leaves {start : Nat} {reads : List ReadResult} (hstart : start ≤ s.heap.next)
    (hs : Owes (L + one propdict + one channel) s)
    (hrun : (PyRabbitMQ_recv.loop bytesAvailable body_target reads .init >>= rest) s =
      (.ret n, s')) :
    Later s s' ∧ ∃ E, Lost start E ∧
      Owes (L + (cutCloses revivals (bodyCut bytesAvailable body_target reads 0 0) •
        one st.Py_None + E)) s' ∧
      (0 ≤ n ∧ E = 0 ↔ bodyTaken bytesAvailable body_target reads 0 0 false = true) := by
  obtain ⟨e, s1, hloop, hrun⟩ := Run.ret_of_bind hrun
  have hheld : Owes (L + one propdict + one channel + BodyVars.init.holds) s := by
    have hinit : BodyVars.init.holds = 0 := rfl
    exact hs.congr (by rw [hinit, add_zero])
  obtain ⟨hlater, E, hE, hs1, hiff, hcut⟩ := loop_leaves start reads .init hstart
    (by simp [BodyVars.init]) (by simp [BodyVars.init]) (fun _ => rfl) hheld hloop
  have hended : Owes (L + E + e.vars.holds + one channel + one propdict) s1 :=
    hs1.congr (by abel)
  obtain ⟨hlater', hgood, hs'⟩ := ended_leaves hdone haltframe hfinally hended hrun
  rw [hcut] at hs'
  refine ⟨hlater.trans hlater', E, hE, hs', ?_⟩
  rw [hgood, and_comm]
  exact hiff

end

theorem recv_leaves {p : Nat} {reads : List ReadResult} {n : Int} (hs : Owes L s)
    (hrun : PyRabbitMQ_recv st bytesAvailable revivals p reads s = (.ret n, s')) :
    LeavesBehind st L s s' (cutCloses revivals (contentCut bytesAvailable reads)) n
      (receives bytesAvailable reads) := by
  obtain ⟨propdict, s1, hnew, hrun⟩ := Run.ret_of_bind hrun
  have hzero : Owes (L + 0) s := hs.congr (add_zero L).symm
  obtain ⟨hlater1, hs1⟩ := owns_dict hzero hnew
  have hs1 : Owes (L + one propdict) s1 := hs1.congr (congrArg (L + ·) (zero_add _))
  have hstill : Owes (L + one propdict + 0 • one st.Py_None) s1 :=
    hs1.congr (by rw [zero_nsmul, add_zero])
  cases reads with
  | nil => cases hrun
  | cons read reads =>
    cases read with
    | blocked => cases hrun
    | failed status h =>
      exact early_leaves hlater1 (.refl s1) hstill hrun (by simp [receives]; omega)
    | ok frame =>
      unfold contentCut
      dsimp only at hrun ⊢
      cases hpayload : frame.payload with
      | method m =>
        rw [hpayload] at hrun
        obtain ⟨u, s2, herror, hrun⟩ := Run.ret_of_bind hrun
        obtain ⟨hlater2, hdropped⟩ := received_drops herror
        exact early_leaves hlater1 hlater2 (hdropped _ hs1) hrun
          (iff_of_false (by decide) (by simp [receives, hpayload]))
      | body_fragment b =>
        rw [hpayload] at hrun
        exact early_leaves hlater1 (.refl s1) hstill hrun
          (iff_of_true le_rfl (by simp [receives, hpayload]))
      | other t h =>
        rw [hpayload] at hrun
        exact early_leaves hlater1 (.refl s1) hstill hrun
          (iff_of_true le_rfl (by simp [receives, hpayload]))
      | header body_target props =>
        rw [hpayload] at hrun
        obtain ⟨channel, s2, hchannel, hrun⟩ := Run.ret_of_bind hrun
        obtain ⟨u, s3, hprops, hrun⟩ := Run.ret_of_bind hrun
        obtain ⟨hlater2, hs2⟩ := (owns_int (P := one propdict) _) hs1 hchannel
        obtain ⟨hlater3, hs3⟩ := (owns_properties st props propdict) hs2 hprops
        have hlater13 := hlater1.trans (hlater2.trans hlater3)
        obtain ⟨hlater4, E, hE, hs', htaken⟩ := body_leaves (fun _ => rfl) (fun _ _ => rfl)
          (fun _ => rfl) hlater13.next_le (hs3.congr (add_assoc _ _ _).symm) hrun
        refine ⟨hlater13.trans hlater4, E, hE, hs', ?_⟩
        rw [htaken]
        simp [receives, hpayload]

end

/-! ## The call -/

/-- A name that `PyObjectArray_Maybe_Unicode` takes, and that can be read. -/
def isText : PyRef → Bool
  | .str _ s => (asciiEncode s).isSome
  | .bytes _ _ => true
  | _ => false

/-- The call asks for a message and gets one, but what is read behind the get-ok is not
received. -/
structure FailsBehindGetOk (bytesAvailable : Nat → Bool) (answers : GetAnswers) (connected : Bool)
    (queue : Option PyRef) : Prop where
  connected : connected = true
  asks : ∃ name, queue = some name ∧ isText name = true
  answered : ∃ ok, answers.reply = .normal (.basic_get_ok ok)
  buffered : answers.data_in_buffer = true
  missed : receives bytesAvailable answers.reads = false

section

variable {st : Statics} {bytesAvailable : Nat → Bool} {answers : GetAnswers} {L : Nat → Int}
  {s s' : Memory}

/-- With an empty array there is nothing to release. -/
theorem bail_run (harray : s.array = .zero) {r : Option Nat} (hrun : bail s = (.ret r, s')) :
    r = none ∧ s' = s := by
  have hbail : bail s = (.ret none, s) := by
    unfold bail PyObjectArray_XDECREF
    obtain ⟨heap, array⟩ := s
    cases harray
    rfl
  rw [hbail] at hrun
  cases hrun
  exact ⟨rfl, rfl⟩

/-- The name of the queue is read, and what was made for it is released. -/
theorem name_owes {name obj : PyRef} {s1 : Memory} {u : Unit} (hs : Owes L s)
    (harray : s.array = .zero)
    (hname : PyObjectArray_Maybe_Unicode name s = (.ret obj, s1))
    (hrun : (PyString_AS_AMQBYTES obj >>= fun _ => PyObjectArray_XDECREF) s1 = (.ret u, s')) :
    isText name = true ∧ Later s s' ∧ Owes L s' := by
  obtain ⟨u1, s2, hread, hrun⟩ := Run.ret_of_bind hrun
  cases name with
  | str self text =>
    unfold PyObjectArray_Maybe_Unicode at hname
    dsimp only at hname
    cases hascii : asciiEncode text with
    | none =>
      rw [hascii] at hname
      cases hname
      cases hread
    | some b =>
      rw [hascii] at hname
      cases hname
      cases hread
      have hzero : Owes (L + 0) s := hs.congr (add_zero L).symm
      have hnew : PyObject_New (.plain (.bytes b)) s =
        (.ret s.heap.next, { s with heap := s.heap.alloc (.plain (.bytes b)) }) := rfl
      obtain ⟨hlater1, hs1⟩ := (owns_new rfl) hzero hnew
      obtain ⟨heap, array⟩ := s
      cases harray
      have hdecref : (Py_DECREF heap.next >>= fun _ => pure ())
          { heap := heap.alloc (.plain (.bytes b)), array := .zero } = (.ret u, s') := hrun
      obtain ⟨u2, s2, hdecref, hpure⟩ := Run.ret_of_bind hdecref
      cases hpure
      obtain ⟨hlater2, hs2⟩ := owns_decref heap.next hs1 hdecref
      refine ⟨by rw [isText, hascii]; rfl, hlater1.trans hlater2, hs2.congr ?_⟩
      show L + (0 + one heap.next - one heap.next) = L
      rw [add_sub_cancel_right, add_zero]
  | bytes self b =>
    cases hname
    cases hread
    obtain ⟨heap, array⟩ := s
    cases harray
    cases hrun
    exact ⟨rfl, .refl _, hs⟩
  | _ =>
    cases hname
    cases hread

theorem balanced_of_owes {E : Nat → Int} {r : Option Nat} (hsound : Sound Obj.refs s.heap)
    (hE : ∀ x, 0 ≤ E x) (hnew : ∀ x, s.heap.next ≤ x → E x = owned r x)
    (hs : Owes (loose Obj.refs s.heap + E) s') : Balanced Obj.refs s.heap s'.heap r := by
  refine ⟨fun x hx => ?_, fun x => ?_⟩
  · rw [hs.loose x, Pi.add_apply, hsound.sealed.loose_beyond hx, hnew x hx, zero_add]
    cases r with
    | none => rfl
    | some a =>
      simp only [owned, one, Option.some.injEq, eq_comm]
  · have hloose := hs.loose x
    have hsum := hE x
    have hcounted := hsound.counted x
    rw [Pi.add_apply] at hloose
    unfold loose at hloose
    omega

/-- A call that leaves a new object with other references than that of the result. -/
theorem not_balanced {E : Nat → Int} {r : Option Nat} (hsound : Sound Obj.refs s.heap)
    (hs : Owes (loose Obj.refs s.heap + E) s') {x : Nat} (hx : s.heap.next ≤ x)
    (hne : E x ≠ owned r x) : ¬ Balanced Obj.refs s.heap s'.heap r := by
  intro hbalanced
  have hsettled := hbalanced.settled x hx
  rw [hs.loose x, Pi.add_apply, hsound.sealed.loose_beyond hx, zero_add] at hsettled
  apply hne
  rw [hsettled]
  cases r with
  | none => rfl
  | some a => simp only [owned, one, Option.some.injEq, eq_comm]

theorem new_run {k : Obj} {a : Nat} (hrun : PyObject_New k s = (.ret a, s')) :
    a = s.heap.next ∧ s'.heap.next = s.heap.next + 1 := by
  cases hrun
  exact ⟨rfl, rfl⟩

/-- The dict of the get-ok owns `delivery_info`, and the call owns the dict. -/
theorem got_dict {ok : amqp_basic_get_ok_t} {r : Option Nat} (hs : Owes L s)
    (hrun : PyRabbitMQ_Connection_basic_get.got st bytesAvailable answers ok s = (.ret r, s')) :
    ∃ p delivery_info s1, Later s s1 ∧ Owes (L + one p) s1 ∧ s.heap.next ≤ delivery_info ∧
      delivery_info < s1.heap.next ∧
      (if answers.data_in_buffer then do
          let retval ← PyRabbitMQ_recv st bytesAvailable answers.revivals p answers.reads
          if retval < 0 then
            Py_DECREF p
            Py_DECREF delivery_info
            PyRabbitMQ_Connection_close st
            bail
          else return some p
        else return some p) s1 = (.ret r, s') := by
  obtain ⟨p, s1, h1, hrun⟩ := Run.ret_of_bind hrun
  obtain ⟨delivery_info, s2, h2, hrun⟩ := Run.ret_of_bind hrun
  obtain ⟨u3, s3, h3, hrun⟩ := Run.ret_of_bind hrun
  obtain ⟨u4, s4, h4, hrun⟩ := Run.ret_of_bind hrun
  obtain ⟨message_count, s5, h5, hrun⟩ := Run.ret_of_bind hrun
  obtain ⟨u6, s6, h6, hrun⟩ := Run.ret_of_bind hrun
  obtain ⟨u7, s7, h7, hrun⟩ := Run.ret_of_bind hrun
  have hzero : Owes (L + 0) s := hs.congr (add_zero L).symm
  obtain ⟨hlater1, hs1⟩ := owns_dict hzero h1
  obtain ⟨hlater2, hs2⟩ := owns_dict hs1 h2
  obtain ⟨hlater3, hs3⟩ := owns_setStr p _ _ hs2 h3
  obtain ⟨hlater4, hs4⟩ := owns_deliver st delivery_info _ _ _ _ hs3 h4
  obtain ⟨hlater5, hs5⟩ := owns_int _ hs4 h5
  obtain ⟨hlater6, hs6⟩ := owns_setItemString delivery_info _ _ hs5 h6
  obtain ⟨hlater7, hs7⟩ := owns_decref message_count hs6 h7
  obtain ⟨hself, hnext⟩ := new_run h2
  have hlater27 := hlater3.trans (hlater4.trans (hlater5.trans (hlater6.trans hlater7)))
  have hle1 := hlater1.next_le
  have hle27 := hlater27.next_le
  refine ⟨p, delivery_info, s7, hlater1.trans (hlater2.trans hlater27), hs7.congr ?_, by omega,
    by omega, hrun⟩
  show L + (0 + one p + one delivery_info - one delivery_info + one message_count -
    one message_count) = L + one p
  abel

/-- The exit behind a get-ok: `delivery_info` went with the dict, and is released once more. -/
theorem exit_unbalances {p delivery_info : Nat} {E : Nat → Int} {r : Option Nat} {s0 : Memory}
    (hsound : Sound Obj.refs s0.heap) (harray : s.array = .zero)
    (hnone : st.Py_None < delivery_info) (hnew : s0.heap.next ≤ delivery_info)
    (hold : E delivery_info = 0) (hs : Owes (loose Obj.refs s0.heap + E + one p) s)
    (hrun : (do
      Py_DECREF p
      Py_DECREF delivery_info
      PyRabbitMQ_Connection_close st
      bail : Run Memory (Option Nat)) s = (.ret r, s')) :
    ¬ Balanced Obj.refs s0.heap s'.heap r := by
  obtain ⟨u1, s1, h1, hrun⟩ := Run.ret_of_bind hrun
  obtain ⟨u2, s2, h2, hrun⟩ := Run.ret_of_bind hrun
  obtain ⟨u3, s3, h3, hrun⟩ := Run.ret_of_bind hrun
  obtain ⟨hlater1, hs1⟩ := owns_decref p hs h1
  obtain ⟨hlater2, hs2⟩ := owns_decref delivery_info hs1 h2
  obtain ⟨hlater3, hdropped⟩ := close_drops h3
  have hs3 := hdropped _ hs2
  have harray3 := (hlater1.trans (hlater2.trans hlater3)).array
  obtain ⟨rfl, rfl⟩ := bail_run (harray3.trans harray) hrun
  have hs' : Owes (loose Obj.refs s0.heap + (1 • one st.Py_None + (E - one delivery_info))) s' := by
    refine hs3.congr ?_
    show loose Obj.refs s0.heap + E + (one p - one p - one delivery_info) + 1 • one st.Py_None =
      loose Obj.refs s0.heap + (1 • one st.Py_None + (E - one delivery_info))
    abel
  refine not_balanced hsound hs' hnew ?_
  have hself : one delivery_info delivery_info = 1 := if_pos rfl
  rw [dropped_apply _ _ (by omega), Pi.sub_apply, hold, hself]
  exact (by decide : (0 : Int) - 1 ≠ 0)

/-- Behind a get-ok the references balance unless what is read is not received. -/
theorem got_balanced {ok : amqp_basic_get_ok_t} {r : Option Nat} {s0 : Memory}
    (hsound : Sound Obj.refs s0.heap) (hle : s0.heap.next ≤ s.heap.next)
    (harray : s.array = .zero) (hnone : st.Py_None < s0.heap.next)
    (hs : Owes (loose Obj.refs s0.heap) s)
    (hrun : PyRabbitMQ_Connection_basic_get.got st bytesAvailable answers ok s = (.ret r, s')) :
    Balanced Obj.refs s0.heap s'.heap r ↔
      ¬ (answers.data_in_buffer = true ∧ receives bytesAvailable answers.reads = false) := by
  obtain ⟨p, delivery_info, s1, hlater1, hs1, hge, hlt, hrun⟩ := got_dict hs hrun
  have hle1 := hlater1.next_le
  cases hbuffer : answers.data_in_buffer with
  | false =>
    rw [hbuffer] at hrun
    cases hrun
    exact iff_of_true (balanced_of_owes hsound (one_nonneg p) (fun _ _ => rfl) hs1) (by simp)
  | true =>
    rw [hbuffer, if_pos rfl] at hrun
    obtain ⟨retval, s2, hrecv, hrun⟩ := Run.ret_of_bind hrun
    obtain ⟨hlater2, E, hE, hs2, hiff⟩ := recv_leaves hs1 hrecv
    split at hrun
    · rename_i hnegative
      refine iff_of_false (exit_unbalances hsound ((hlater1.trans hlater2).array.trans harray)
        (by omega) (by omega) ?_ (hs2.congr (add_right_comm _ _ _)) hrun) ?_
      · rw [dropped_apply _ _ (by omega)]
        exact hE.old delivery_info hlt
      · rw [not_not]
        refine ⟨rfl, Bool.eq_false_iff.mpr fun hreceives => ?_⟩
        have := (hiff.mpr hreceives).1
        omega
    · rename_i hnonneg
      cases hrun
      have hs' := hs2.congr (add_assoc _ _ _)
      cases hreceives : receives bytesAvailable answers.reads with
      | true =>
        refine iff_of_true (balanced_of_owes hsound (fun x => ?_) (fun x hx => ?_) hs') (by simp)
        · exact add_nonneg (one_nonneg p x) (dropped_nonneg hE.nonneg _ x)
        · rw [Pi.add_apply, dropped_apply _ _ (by omega), (hiff.mpr hreceives).2]
          exact add_zero _
      | false =>
        refine iff_of_false ?_ (by simp)
        have hlost : ¬ ∀ x, E x = 0 := fun hzero => by
          have := hiff.mp ⟨by omega, funext hzero⟩
          rw [hreceives] at this
          cases this
        obtain ⟨x, hlost⟩ := not_forall.mp hlost
        have hx : s1.heap.next ≤ x := not_lt.mp fun hold => hlost (hE.old x hold)
        refine not_balanced hsound hs' (x := x) (by omega) fun heq => hlost ?_
        rw [Pi.add_apply, dropped_apply _ _ (by omega)] at heq
        exact left_eq_add.mp heq.symm

/-- A call that leaves before a get-ok returns no new object. -/
theorem plain_balanced {r : Option Nat} {k : Nat} (hsound : Sound Obj.refs s.heap)
    (hnone : st.Py_None < s.heap.next) (hr : ∀ x, s.heap.next ≤ x → r ≠ some x)
    (hs : Owes (loose Obj.refs s.heap + k • one st.Py_None) s') :
    Balanced Obj.refs s.heap s'.heap r := by
  refine balanced_of_owes (E := k • one st.Py_None + 0) hsound
    (dropped_nonneg (fun _ => le_rfl) k) (fun x hx => ?_) (hs.congr (by rw [add_zero]))
  rw [dropped_apply _ _ (by omega)]
  cases r with
  | none => rfl
  | some a => exact (if_neg fun hx' => hr x hx (congrArg some hx'.symm)).symm

theorem name_refused {name : PyRef} {s1 : Memory}
    (hname : PyObjectArray_Maybe_Unicode name s = (.ret .null, s1)) :
    isText name = false ∧ s1 = s := by
  cases name with
  | str self text =>
    unfold PyObjectArray_Maybe_Unicode at hname
    dsimp only at hname
    cases hascii : asciiEncode text with
    | none =>
      rw [hascii] at hname
      cases hname
      exact ⟨by rw [isText, hascii]; rfl, rfl⟩
    | some b =>
      rw [hascii] at hname
      cases hname
  | null =>
    cases hname
    exact ⟨rfl, rfl⟩
  | _ => cases hname

theorem answered_balanced {r : Option Nat} {s0 : Memory} (hsound : Sound Obj.refs s0.heap)
    (hle : s0.heap.next ≤ s.heap.next) (harray : s.array = .zero)
    (hnone : st.Py_None < s0.heap.next) (hs : Owes (loose Obj.refs s0.heap) s)
    (hrun : PyRabbitMQ_Connection_basic_get.answered st bytesAvailable answers s = (.ret r, s')) :
    Balanced Obj.refs s0.heap s'.heap r ↔
      ¬ ((∃ ok, answers.reply = .normal (.basic_get_ok ok)) ∧ answers.data_in_buffer = true ∧
        receives bytesAvailable answers.reads = false) := by
  obtain ⟨status, s1, hstatus, hrest⟩ := Run.ret_of_bind hrun
  rcases handle_zero hstatus with ⟨rfl, rfl, m, hreply⟩ | ⟨hne, herror⟩
  · rw [if_neg (by decide), hreply] at hrest
    have hempty : (Py_INCREF st.Py_None >>= fun _ => pure (some st.Py_None)) s1 = (.ret r, s') →
        Balanced Obj.refs s0.heap s'.heap r := by
      intro h
      obtain ⟨u, s2, hincref, h⟩ := Run.ret_of_bind h
      cases h
      have hzero : Owes (loose Obj.refs s0.heap + 0) s1 := hs.congr (add_zero _).symm
      obtain ⟨-, hs2⟩ := owns_incref st.Py_None hzero hincref
      refine plain_balanced (k := 1) hsound hnone (fun x hx heq => ?_) (hs2.congr ?_)
      · cases heq
        omega
      · rw [one_nsmul]
        exact congrArg (loose Obj.refs s0.heap + ·) (zero_add _)
    rw [hreply]
    cases m with
    | basic_get_ok ok =>
      rw [got_balanced hsound hle harray hnone hs hrest, not_iff_not]
      exact ⟨fun h => ⟨⟨ok, rfl⟩, h⟩, fun h => h.2⟩
    | _ => exact iff_of_true (hempty hrest) (by simp)
  · rw [if_pos hne] at hrest
    obtain ⟨hlater, hdropped⟩ := handle_closes (R := Dropped st) dropped_none close_drops
      (revive_closes (R := Dropped st) dropped_none close_drops) hstatus
    obtain ⟨rfl, rfl⟩ := bail_run (hlater.array.trans harray) hrest
    refine iff_of_true (plain_balanced hsound hnone (by simp) (hdropped _ hs)) fun h => ?_
    obtain ⟨ok, hok⟩ := h.1
    exact herror _ hok

/-- The references of `_basic_get` balance unless it fails behind a get-ok. -/
theorem get_balanced {connected : Bool} {queue : Option PyRef} {r : Option Nat}
    (hsound : Sound Obj.refs s.heap) (hnone : st.Py_None < s.heap.next)
    (hrun : PyRabbitMQ_Connection_basic_get st bytesAvailable answers connected queue s =
      (.ret r, s')) :
    Balanced Obj.refs s.heap s'.heap r ↔
      ¬ FailsBehindGetOk bytesAvailable answers connected queue := by
  have hs : Owes (loose Obj.refs s.heap) { s with array := .zero } := ⟨hsound.sealed, fun _ => rfl⟩
  have hstill : Owes (loose Obj.refs s.heap + 0 • one st.Py_None) { s with array := .zero } :=
    hs.congr (by rw [zero_nsmul, add_zero])
  have hbail : bail { s with array := .zero } = (.ret r, s') →
      Balanced Obj.refs s.heap s'.heap r := by
    intro h
    obtain ⟨rfl, rfl⟩ := bail_run rfl h
    exact plain_balanced hsound hnone (by simp) hstill
  cases connected with
  | false =>
    refine iff_of_true (hbail hrun) fun h => ?_
    cases h.connected
  | true =>
    cases queue with
    | none =>
      refine iff_of_true (hbail hrun) fun h => ?_
      obtain ⟨name, hname, _⟩ := h.asks
      cases hname
    | some name =>
      obtain ⟨u, s0, hmodify, hrest⟩ := Run.ret_of_bind hrun
      cases hmodify
      obtain ⟨obj, s1, hname, hrest⟩ := Run.ret_of_bind hrest
      have hread : PyObjectArray_Maybe_Unicode name { s with array := .zero } = (.ret obj, s1) →
          (PyString_AS_AMQBYTES obj >>= fun _ => PyObjectArray_XDECREF >>= fun _ =>
            PyRabbitMQ_Connection_basic_get.answered st bytesAvailable answers) s1 =
              (.ret r, s') →
          (Balanced Obj.refs s.heap s'.heap r ↔
            ¬ FailsBehindGetOk bytesAvailable answers true (some name)) := by
        intro hname h
        rw [← Run.bind_assoc] at h
        obtain ⟨u, s2, hrelease, h⟩ := Run.ret_of_bind h
        obtain ⟨htext, hlater, hs2⟩ := name_owes hs rfl hname hrelease
        rw [answered_balanced hsound hlater.next_le hlater.array hnone hs2 h, not_iff_not]
        constructor
        · rintro ⟨hok, hbuffer, hmissed⟩
          exact ⟨rfl, ⟨name, rfl, htext⟩, hok, hbuffer, hmissed⟩
        · exact fun h => ⟨h.answered, h.buffered, h.missed⟩
      cases obj with
      | null =>
        obtain ⟨htext, rfl⟩ := name_refused hname
        refine iff_of_true (hbail hrest) fun h => ?_
        obtain ⟨name', heq, htext'⟩ := h.asks
        cases heq
        rw [htext] at htext'
        cases htext'
      | _ => exact hread hname hrest

end

end librabbitmq.memory
