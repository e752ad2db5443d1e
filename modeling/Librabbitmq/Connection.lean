-- The connection object and the error handlers of `connection.c`. A server
-- error on a channel makes the handler revive the channel, and the open of the
-- revived channel goes through the handler again.
import Librabbitmq.Amqp

namespace librabbitmq

/-! ## Python objects -/

/-- A `Channel` of the Python layer. -/
structure Channel where
  channel_id : Int
  is_open : Bool
  no_ack_consumers : List PyStr

/-- The body of a `Message`: a memoryview, or an object. In the view `none` is an
octet of a new `bytes` that nothing has written. -/
inductive MessageBody where
  | view (cells : List (Option UInt8))
  | obj (o : PyObj)

/-- A `Message`. Its channel is the address of a `Channel`. -/
structure Message where
  channel : Nat
  properties : PyObj
  delivery_info : PyObj
  body : MessageBody

/-- A `Connection`, over the connection states `σ` of rabbitmq-c and the
callbacks `κ` of the application. -/
structure Connection (σ κ : Type) where
  conn : σ
  connected : Bool
  sockfd : Int
  callbacks : Dict Int (Dict PyStr κ)
  channels : Dict Int Nat
  /-- The `Channel` at each address. -/
  objects : Nat → Channel
  _used_channel_ids : List Int
  /-- The address of the next `Channel`. -/
  next_object : Nat := 0
  channel_max : Int := 0xffff
  frame_max : Int := 131072
  heartbeat : Int := 0
  server_properties : Option PyMembers := none

/-- One call of a consumer's callback. -/
structure Call (κ : Type) where
  channel : Int
  consumer_tag : PyStr
  callback : κ
  message : Message

/-- One `*buf++ = *bufp++`: the size of the payload, if there is one, and the
index that is written. -/
structure Store where
  size : Option Nat
  index : Nat

/-- What the extension works on. The frames read, the calls and the stores are
kept in their order; the program itself never looks at them. -/
structure World (σ κ : Type) where
  self : Connection σ κ
  err : Option PyErr
  reads : List amqp_frame_t
  calls : List (Call κ)
  stores : List Store

/-- What is outside of the extension. -/
structure Env (σ κ : Type) where
  lib : RabbitMQC σ
  python : Interpreter
  /-- `PyBytes_FromStringAndSize(NULL, n)` finds the memory. -/
  bytesAvailable : Nat → Bool
  /-- What the memory of a new `bytes` holds at an index. -/
  fresh : Nat → UInt8
  /-- A call of a callback, which may do anything to the connection, and the
  exception that it raises. -/
  invoke : κ → Message → Connection σ κ → Connection σ κ × Option PyErr

variable {σ κ : Type}

namespace World

def setConn (w : World σ κ) (s : σ) : World σ κ := { w with self := { w.self with conn := s } }

def setErr (w : World σ κ) (err : Option PyErr) : World σ κ := { w with err := err }

@[simp] theorem setConn_conn (w : World σ κ) (s : σ) : (w.setConn s).self.conn = s := rfl

@[simp] theorem setErr_self (w : World σ κ) (err : Option PyErr) : (w.setErr err).self = w.self :=
  rfl

end World

/-! ## The pending exception -/

/-- A function of the C API that may set the exception. -/
def withErr {α : Type} (f : Option PyErr → Outcome (α × Option PyErr)) : Run (World σ κ) α :=
  fun w => match f w.err with
    | .ret (a, err) => (.ret a, w.setErr err)
    | .crash => (.crash, w)
    | .hang => (.hang, w)

/-- A function of the C API in a thread that has given up its thread state. It finds no
exception there, and to raise one is to dereference NULL. What raises nothing may need the
thread state all the same. -/
def withoutThreadState {α : Type} (survives : Bool)
    (f : Option PyErr → Outcome (α × Option PyErr)) : Run (World σ κ) α :=
  fun w => match f none with
    | .ret (a, none) => if survives then (.ret a, w) else (.crash, w)
    | .ret (_, some _) => (.crash, w)
    | .crash => (.crash, w)
    | .hang => (.hang, w)

def PyErr_SetString (e : PyErr) : Run (World σ κ) Unit :=
  Run.modify fun w => w.setErr (some e)

/-- A call of rabbitmq-c on the connection state. -/
def onConn {α : Type} (f : σ → α × σ) : Run (World σ κ) α :=
  fun w => (.ret (f w.self.conn).1, w.setConn (f w.self.conn).2)

theorem withoutThreadState_ret {α : Type} {f : Option PyErr → Outcome (α × Option PyErr)}
    {w : World σ κ} {a : α} (h : f none = .ret (a, none)) :
    withoutThreadState true f w = (.ret a, w) := by
  unfold withoutThreadState
  rw [h]
  rfl

/-- What raises, and what needs the thread state, ends the process. -/
theorem withoutThreadState_crash {α : Type} {f : Option PyErr → Outcome (α × Option PyErr)}
    {w : World σ κ} {a : α} {err : Option PyErr} {survives : Bool} (h : f none = .ret (a, err))
    (hcrash : err.isSome = true ∨ survives = false) :
    withoutThreadState survives f w = (.crash, w) := by
  unfold withoutThreadState
  rw [h]
  cases err with
  | some e => rfl
  | none =>
    rcases hcrash with h | h
    · cases h
    · exact if_neg (by simp [h])

theorem withErr_ret {α : Type} {f : Option PyErr → Outcome (α × Option PyErr)} {w : World σ κ}
    {a : α} {err : Option PyErr} (h : f w.err = .ret (a, err)) :
    withErr f w = (.ret a, w.setErr err) := by
  simp [withErr, h]

theorem onConn_ret {α : Type} {f : σ → α × σ} {w : World σ κ} {a : α} {s : σ}
    (h : f w.self.conn = (a, s)) : onConn f w = (.ret a, w.setConn s) := by
  simp [onConn, h]

@[simp] theorem PyErr_SetString_bind {β : Type} (e : PyErr) (f : Unit → Run (World σ κ) β)
    (w : World σ κ) : (PyErr_SetString e >>= f) w = f () (w.setErr (some e)) := rfl

/-! ## Error handlers -/

def PYRABBITMQ_CONNECTION_ERROR : Int := 0x10

def PYRABBITMQ_CHANNEL_ERROR : Int := 0x20

/-- `PyRabbitMQ_Not_Connected`. -/
def PyRabbitMQ_Not_Connected : Run (World σ κ) Bool := do
  let w ← Run.get
  if !w.self.connected then
    PyErr_SetString ⟨.ConnectionError, "Operation on closed connection", []⟩
    return true
  return false

/-- The world after `Connection._close`. -/
def World.closed (env : Env σ κ) (w : World σ κ) : World σ κ :=
  if w.self.connected then
    { w with self := { w.self with
      connected := false
      conn := env.lib.amqp_connection_close w.self.conn
      sockfd := 0 } }
  else w

theorem World.closed_connected (env : Env σ κ) (w : World σ κ) :
    (w.closed env).self.connected = false := by
  unfold World.closed
  split
  · rfl
  · rename_i h
    simpa using h

theorem World.closed_err (env : Env σ κ) (w : World σ κ) : (w.closed env).err = w.err := by
  unfold World.closed
  split <;> rfl

/-- `Connection._close`. -/
def PyRabbitMQ_Connection_close (env : Env σ κ) : Run (World σ κ) Unit :=
  Run.modify (World.closed env)

/-- `PyRabbitMQ_HandlePollError`. -/
def PyRabbitMQ_HandlePollError (ready : Int) : Run (World σ κ) Int := do
  let w ← Run.get
  if ready < 0 ∧ w.err.isNone then
    PyErr_SetString (.raised .OSError)
  let w ← Run.get
  if ready = 0 ∧ w.err.isNone then
    PyErr_SetString ⟨.socket_timeout, "timed out", []⟩
  return ready

mutual

/-- `PyRabbitMQ_HandleAMQError`. -/
def PyRabbitMQ_HandleAMQError (env : Env σ κ) : Nat → UInt32 → amqp_rpc_reply_t → String →
    Run (World σ κ) Int
  | 0, _, _, _ => Run.hang
  | fuel + 1, channel, reply, context =>
    let connerror (e : PyErr) : Run (World σ κ) Int := do
      PyErr_SetString e
      PyRabbitMQ_Connection_close env
      return PYRABBITMQ_CONNECTION_ERROR
    match reply with
    | .normal _ => return 0
    | .none =>
      connerror ⟨.ConnectionError, "%s: missing RPC reply type!", [.str (pyStr context)]⟩
    | .library_exception library_error =>
      connerror ⟨.ConnectionError, "%s: %s", [.str (pyStr context),
        if library_error = 0 then .str (pyStr "(end-of-stream)")
        else .bytes (env.lib.amqp_error_string2 library_error)]⟩
    | .server_exception (.connection_close m) =>
      connerror ⟨.ConnectionError, "%s: server connection error %d, message: %.*s",
        [.str (pyStr context), .int m.reply_code.toNat, .bytes m.reply_text]⟩
    | .server_exception (.channel_close m) => do
      PyErr_SetString ⟨.ChannelError, "%s: server channel error %d, message: %.*s",
        [.str (pyStr context), .int m.reply_code.toNat, .bytes m.reply_text]⟩
      let _ ← PyRabbitMQ_revive_channel env fuel channel
      return PYRABBITMQ_CHANNEL_ERROR
    | .server_exception m =>
      connerror ⟨.ConnectionError, "%s: unknown server error, method id 0x%08X",
        [.str (pyStr context), .int m.id.toNat]⟩

/-- `PyRabbitMQ_revive_channel`. -/
def PyRabbitMQ_revive_channel (env : Env σ κ) : Nat → UInt32 → Run (World σ κ) Int
  | 0, _ => Run.hang
  | fuel + 1, channel => do
    let status ← onConn fun s => env.lib.amqp_send_close_ok s channel.toUInt16
    if status < 0 then
      PyErr_SetString ⟨.ConnectionError, "Couldn't revive channel", []⟩
      PyRabbitMQ_Connection_close env
      return 1
    PyRabbitMQ_Connection_create_channel env fuel channel

/-- `PyRabbitMQ_Connection_create_channel`. It reports an error on channel 0. -/
def PyRabbitMQ_Connection_create_channel (env : Env σ κ) : Nat → UInt32 → Run (World σ κ) Int
  | 0, _ => Run.hang
  | fuel + 1, channel => do
    let reply ← onConn fun s => env.lib.amqp_channel_open s channel.toUInt16
    PyRabbitMQ_HandleAMQError env fuel 0 reply "Couldn't create channel"

end

/-- A normal reply is no error. -/
theorem handleAMQError_normal (env : Env σ κ) (fuel : Nat) (channel : UInt32) (m : amqp_method_t)
    (context : String) (w : World σ κ) :
    PyRabbitMQ_HandleAMQError env (fuel + 1) channel (.normal m) context w = (.ret 0, w) := by
  unfold PyRabbitMQ_HandleAMQError
  rfl

/-- `PyRabbitMQ_SetErr_UnexpectedHeader`. -/
def PyRabbitMQ_SetErr_UnexpectedHeader (frame : amqp_frame_t) : Run (World σ κ) Unit :=
  PyErr_SetString ⟨.ChannelError, "Unexpected header %d", [.int frame.payload.frame_type.toNat]⟩

/-- `PyRabbitMQ_SetErr_ReceivedFrame` of a method frame. -/
def PyRabbitMQ_SetErr_ReceivedFrame (env : Env σ κ) (fuel : Nat) (channel : amqp_channel_t)
    (m : amqp_method_t) : Run (World σ κ) Unit :=
  match m with
  | .channel_close m => do
    PyErr_SetString ⟨.ChannelError, "channel error %d, message: %.*s",
      [.int m.reply_code.toNat, .bytes m.reply_text]⟩
    let _ ← PyRabbitMQ_revive_channel env fuel channel.toUInt32
  | .connection_close m => do
    PyErr_SetString ⟨.ConnectionError, "server connection error %d message: %.*s",
      [.int m.reply_code.toNat, .bytes m.reply_text]⟩
    PyRabbitMQ_Connection_close env
  | _ => PyErr_SetString ⟨.ConnectionError, "Bad frame read", []⟩

/-- An unsigned `I` of `PyArg_ParseTuple` keeps the low 32 bits. -/
def parseUnsigned (n : Int) : UInt32 := UInt32.ofBitVec (BitVec.ofInt 32 n)

/-! ## What the handlers leave alone -/

/-- The two worlds have the same callbacks, channels and logs. -/
structure SameBooks (w w' : World σ κ) : Prop where
  callbacks : w'.self.callbacks = w.self.callbacks
  channels : w'.self.channels = w.self.channels
  reads : w'.reads = w.reads
  calls : w'.calls = w.calls
  stores : w'.stores = w.stores

theorem SameBooks.rfl {w : World σ κ} : SameBooks w w := by
  constructor <;> simp

theorem SameBooks.trans {w w' w'' : World σ κ} (h : SameBooks w w') (h' : SameBooks w' w'') :
    SameBooks w w'' := by
  constructor
  · rw [h'.callbacks, h.callbacks]
  · rw [h'.channels, h.channels]
  · rw [h'.reads, h.reads]
  · rw [h'.calls, h.calls]
  · rw [h'.stores, h.stores]

theorem sameBooks_setErr (w : World σ κ) (err : Option PyErr) : SameBooks w (w.setErr err) := by
  constructor <;> rfl

theorem sameBooks_setConn (w : World σ κ) (s : σ) : SameBooks w (w.setConn s) := by
  constructor <;> rfl

theorem sameBooks_closed (env : Env σ κ) (w : World σ κ) : SameBooks w (w.closed env) := by
  unfold World.closed
  split
  · constructor <;> rfl
  · exact SameBooks.rfl

/-- A call keeps the books, however it ends. -/
def KeepsBooks {α : Type} (x : Run (World σ κ) α) : Prop := ∀ w, SameBooks w (x w).2

theorem KeepsBooks.bind {α β : Type} {x : Run (World σ κ) α} {f : α → Run (World σ κ) β}
    (hx : KeepsBooks x) (hf : ∀ a, KeepsBooks (f a)) : KeepsBooks (x >>= f) := by
  intro w
  have h := hx w
  rw [Run.bind_apply]
  rcases hw : x w with ⟨o, w'⟩
  rw [hw] at h
  cases o with
  | ret a => exact h.trans (hf a w')
  | crash => exact h
  | hang => exact h

theorem KeepsBooks.pure {α : Type} (a : α) : KeepsBooks (pure a : Run (World σ κ) α) :=
  fun _ => SameBooks.rfl

theorem KeepsBooks.hang {α : Type} : KeepsBooks (Run.hang : Run (World σ κ) α) :=
  fun _ => SameBooks.rfl

theorem keepsBooks_setString (e : PyErr) : KeepsBooks (PyErr_SetString e : Run (World σ κ) Unit) :=
  fun w => sameBooks_setErr w (some e)

theorem keepsBooks_close (env : Env σ κ) : KeepsBooks (PyRabbitMQ_Connection_close env) :=
  sameBooks_closed env

theorem keepsBooks_onConn {α : Type} (f : σ → α × σ) :
    KeepsBooks (onConn f : Run (World σ κ) α) := fun w => sameBooks_setConn w _

/-- The handler, the revival and the open that call each other keep the books,
at every depth of the recursion. -/
theorem handlers_keep_books (env : Env σ κ) (fuel : Nat) :
    (∀ channel reply context,
      KeepsBooks (PyRabbitMQ_HandleAMQError env fuel channel reply context)) ∧
    (∀ channel, KeepsBooks (PyRabbitMQ_revive_channel env fuel channel)) ∧
    (∀ channel, KeepsBooks (PyRabbitMQ_Connection_create_channel env fuel channel)) := by
  induction fuel with
  | zero =>
    refine ⟨fun _ _ _ => ?_, fun _ => ?_, fun _ => ?_⟩
    · unfold PyRabbitMQ_HandleAMQError
      exact KeepsBooks.hang
    · unfold PyRabbitMQ_revive_channel
      exact KeepsBooks.hang
    · unfold PyRabbitMQ_Connection_create_channel
      exact KeepsBooks.hang
  | succ fuel ih =>
    obtain ⟨hhandle, hrevive, hcreate⟩ := ih
    have hconnerror : ∀ e, KeepsBooks (do
        PyErr_SetString e
        PyRabbitMQ_Connection_close env
        return PYRABBITMQ_CONNECTION_ERROR : Run (World σ κ) Int) := fun e =>
      (keepsBooks_setString e).bind fun _ => (keepsBooks_close env).bind fun _ => KeepsBooks.pure _
    refine ⟨fun channel reply context => ?_, fun channel => ?_, fun channel => ?_⟩
    · unfold PyRabbitMQ_HandleAMQError
      cases reply with
      | normal m => exact KeepsBooks.pure 0
      | none => exact hconnerror _
      | library_exception e => exact hconnerror _
      | server_exception m =>
        cases m with
        | channel_close m =>
          exact (keepsBooks_setString _).bind fun _ =>
            (hrevive channel).bind fun _ => KeepsBooks.pure _
        | connection_close m => exact hconnerror _
        | basic_deliver m => exact hconnerror _
        | basic_get_ok m => exact hconnerror _
        | other id => exact hconnerror _
    · unfold PyRabbitMQ_revive_channel
      apply (keepsBooks_onConn _).bind
      intro status
      split
      · exact (keepsBooks_setString _).bind fun _ =>
          (keepsBooks_close env).bind fun _ => KeepsBooks.pure _
      · exact hcreate channel
    · unfold PyRabbitMQ_Connection_create_channel
      apply (keepsBooks_onConn _).bind
      intro reply
      exact hhandle 0 reply _

/-- A method frame in the place of content sets an exception and keeps the
books. -/
theorem receivedFrame_keeps_books (env : Env σ κ) (fuel : Nat) (channel : amqp_channel_t)
    (m : amqp_method_t) : KeepsBooks (PyRabbitMQ_SetErr_ReceivedFrame env fuel channel m) := by
  unfold PyRabbitMQ_SetErr_ReceivedFrame
  cases m with
  | channel_close m =>
    exact (keepsBooks_setString _).bind fun _ =>
      ((handlers_keep_books env fuel).2.1 _).bind fun _ => KeepsBooks.pure _
  | connection_close m =>
    exact (keepsBooks_setString _).bind fun _ => keepsBooks_close env
  | basic_deliver m => exact keepsBooks_setString _
  | basic_get_ok m => exact keepsBooks_setString _
  | other id => exact keepsBooks_setString _

end librabbitmq
