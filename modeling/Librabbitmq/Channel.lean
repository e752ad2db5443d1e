-- The Python layer: the methods of `Channel` and `Connection` that the laws are
-- about, over the functions of the extension type that they call. An object of
-- the layer is its address.
import Librabbitmq.Recv

namespace librabbitmq

variable {σ κ : Type}

/-! ## The extension type -/

/-- `Connection._basic_cancel`. It succeeds on a closed connection, with an
exception set. -/
def PyRabbitMQ_Connection_basic_cancel (env : Env σ κ) (fuel : Nat) (channel : Int)
    (consumer_tag : PyObj) : Run (World σ κ) (Option Unit) := do
  if ← PyRabbitMQ_Not_Connected then return some ()
  match ← withErr fun err => .ret (PyObjectArray_Maybe_Unicode consumer_tag err) with
  | .null => return none
  | consumer_tag =>
    let consumer_tag ← Run.lift (PyString_AS_AMQBYTES consumer_tag)
    let reply ← onConn fun s =>
      env.lib.amqp_basic_cancel s (parseUnsigned channel).toUInt16 consumer_tag
    if (← PyRabbitMQ_HandleAMQError env fuel (parseUnsigned channel) reply "basic.cancel") ≠ 0 then
      return none
    return some ()

/-- `PyRabbitMQ_Connection_destroy_channel`. -/
def PyRabbitMQ_Connection_destroy_channel (env : Env σ κ) (fuel : Nat) (channel : UInt32) :
    Run (World σ κ) Int := do
  let reply ← onConn fun s => env.lib.amqp_channel_close s channel.toUInt16
  PyRabbitMQ_HandleAMQError env fuel channel reply "Couldn't close channel"

/-- `Connection._channel_close`. -/
def PyRabbitMQ_Connection_channel_close (env : Env σ κ) (fuel : Nat) (channel : Int) :
    Run (World σ κ) (Option Unit) := do
  if ← PyRabbitMQ_Not_Connected then return none
  if (← PyRabbitMQ_Connection_destroy_channel env fuel (parseUnsigned channel)) ≠ 0 then
    return none
  return some ()

/-! ## `Channel` and `Connection` -/

/-- The world with another `Channel` at an address. -/
def World.setChannel (w : World σ κ) (self : Nat) (channel : Channel) : World σ κ :=
  { w with self := { w.self with
    objects := fun a => if a = self then channel else w.self.objects a } }

/-- `Channel.basic_get`: `None`, or a `Message` of the members of the dict. -/
def Channel.basic_get (env : Env σ κ) (fuel : Nat) (self : Nat) (queue : PyObj) (no_ack : Bool) :
    Run (World σ κ) (Except PyErr (Option Message)) := do
  let w ← Run.get
  match ← fromPython (PyRabbitMQ_Connection_basic_get env fuel (w.self.objects self).channel_id
      queue no_ack) with
  | .error e => return .error e
  | .ok .none => return .ok none
  | .ok (.dict frame) =>
    match frame.lookup (.str (pyStr "properties")), frame.lookup (.str (pyStr "delivery_info")),
        frame.lookup (.str (pyStr "body")) with
    | some properties, some delivery_info, some body =>
      return .ok (some ⟨self, properties, delivery_info, .obj body⟩)
    | _, _, _ => return .error (.raised .KeyError)
  | .ok _ => return .error (.raised .TypeError)

/-- `Channel.basic_cancel`. The callback is gone before the broker is asked. -/
def Channel.basic_cancel (env : Env σ κ) (fuel : Nat) (self : Nat) (consumer_tag : PyStr) :
    Run (World σ κ) (Except PyErr Unit) := do
  Run.modify fun w =>
    let channel := w.self.objects self
    w.setChannel self { channel with
      no_ack_consumers := channel.no_ack_consumers.filter fun tag => tag ≠ consumer_tag }
  let w ← Run.get
  let channel_id := (w.self.objects self).channel_id
  match w.self.callbacks.lookup channel_id with
  | none => pure ()
  | some callbacks => Run.modify fun w => { w with self := { w.self with
      callbacks := w.self.callbacks.set channel_id (callbacks.pop consumer_tag) } }
  fromPython (PyRabbitMQ_Connection_basic_cancel env fuel channel_id (.str consumer_tag))

/-- `Connection._remove_channel`. A `ChannelError` of the close is passed over. -/
def Connection._remove_channel (env : Env σ κ) (fuel : Nat) (channel : Nat) :
    Run (World σ κ) (Except PyErr Unit) := do
  Run.modify fun w => w.setChannel channel { w.self.objects channel with is_open := false }
  let w ← Run.get
  let channel_id := (w.self.objects channel).channel_id
  let forget : Run (World σ κ) (Except PyErr Unit) := do
    Run.modify fun w => { w with self := { w.self with
      channels := w.self.channels.pop channel_id
      callbacks := w.self.callbacks.pop channel_id
      _used_channel_ids := w.self._used_channel_ids.erase channel_id } }
    return .ok ()
  match ← fromPython (PyRabbitMQ_Connection_channel_close env fuel channel_id) with
  | .ok _ => forget
  | .error e => if e.cls = .ChannelError then forget else return .error e

/-- `Channel.close`. -/
def Channel.close (env : Env σ κ) (fuel : Nat) (self : Nat) :
    Run (World σ κ) (Except PyErr Unit) := Connection._remove_channel env fuel self

/-- `Connection.drain_events`. Without a timeout the call does not poll. -/
def Connection.drain_events (env : Env σ κ) (fuel : Nat) (timeout : Option Rat) :
    Run (World σ κ) (Except PyErr Unit) :=
  let timeout : Rat := match timeout with
    | some timeout => if timeout = 0 then -1 else timeout
    | none => 0
  fromPython (PyRabbitMQ_Connection_basic_recv env fuel timeout)

end librabbitmq
