-- The Python layer around the channels of a connection: how a channel gets its
-- number and is registered, and how a connection is closed and made again.
import Librabbitmq.Channel
import Librabbitmq.Operations

namespace librabbitmq

variable {σ κ : Type}

/-! ## Channel numbers -/

/-- `range(1, channel_max + 1)`. -/
def channelIds (channel_max : Int) : List Int :=
  (List.range channel_max.toNat).map fun (i : Nat) => (i : Int) + 1

/-- The first number of the range that is not used. -/
def freeChannelId (channel_max : Int) (used_channel_ids : List Int) : Option Int :=
  (channelIds channel_max).find? fun channel_id => channel_id ∉ used_channel_ids

/-- `Connection._get_free_channel_id`. The numbers are kept in an `array('H')`. -/
def Connection._get_free_channel_id : Run (World σ κ) (Except PyErr Int) := do
  let w ← Run.get
  match freeChannelId w.self.channel_max w.self._used_channel_ids with
  | some channel_id =>
    if channel_id < 2 ^ 16 then
      Run.modify fun w => { w with self := { w.self with
        _used_channel_ids := w.self._used_channel_ids ++ [channel_id] } }
      return .ok channel_id
    else return .error (.raised .OverflowError)
  | none =>
    return .error ⟨.ConnectionError, "No free channel ids, current=%d, channel_max=%d",
      [.int w.self.channels.length, .int w.self.channel_max]⟩

/-! ## Channels -/

/-- The world with a new `Channel` registered under a number. -/
def World.register (w : World σ κ) (channel_id : Int) : World σ κ :=
  { w.setChannel w.self.next_object ⟨channel_id, true, []⟩ with
    self := { (w.setChannel w.self.next_object ⟨channel_id, true, []⟩).self with
      callbacks := w.self.callbacks.set channel_id []
      channels := w.self.channels.set channel_id w.self.next_object
      next_object := w.self.next_object + 1 } }

/-- The part of `Connection.channel` that opens a channel under its number. -/
def Connection.channel.open_ (env : Env σ κ) (fuel : Nat) (channel_id : Int) :
    Run (World σ κ) (Except PyErr Nat) := do
  match ← fromPython (PyRabbitMQ_Connection_channel_open env fuel channel_id) with
  | .error e => return .error e
  | .ok _ =>
    let w ← Run.get
    Run.modify fun w => w.register channel_id
    return .ok w.self.next_object

/-- `Connection.channel`. It gives the address of a `Channel`. -/
def Connection.channel (env : Env σ κ) (fuel : Nat) (channel_id : Option Int) :
    Run (World σ κ) (Except PyErr Nat) := do
  match channel_id with
  | none =>
    match ← Connection._get_free_channel_id with
    | .error e => return .error e
    | .ok channel_id => Connection.channel.open_ env fuel channel_id
  | some channel_id =>
    let w ← Run.get
    match w.self.channels.lookup channel_id with
    | some channel => return .ok channel
    | none => Connection.channel.open_ env fuel channel_id

/-- `Channel.basic_consume`. The tag is its argument, or the next number of the
channel's counter, as a `str`. -/
def Channel.basic_consume (env : Env σ κ) (api : RabbitMQApi σ) (fuel : Nat) (self : Nat)
    (queue : PyObj) (consumer_tag : PyStr) (no_local no_ack exclusive : Bool) (callback : κ)
    (arguments : PyMembers) : Run (World σ κ) (Except PyErr PyStr) := do
  let w ← Run.get
  let channel_id := (w.self.objects self).channel_id
  match ← fromPython (PyRabbitMQ_Connection_basic_consume env api fuel channel_id queue
      (.str consumer_tag) no_local no_ack exclusive arguments) with
  | .error e => return .error e
  | .ok (.str consumer_tag) =>
    let w ← Run.get
    match w.self.callbacks.lookup channel_id with
    | none => return .error (.raised .KeyError)
    | some callbacks =>
      Run.modify fun w => { w with self := { w.self with
        callbacks := w.self.callbacks.set channel_id (callbacks.set consumer_tag callback) } }
      if no_ack then
        Run.modify fun w =>
          let channel := w.self.objects self
          w.setChannel self { channel with
            no_ack_consumers := channel.no_ack_consumers.insert consumer_tag }
      return .ok consumer_tag
  | .ok _ => return .error (.raised .TypeError)

/-! ## The life of a connection -/

/-- `Connection.connect`. -/
def Connection.connect (env : Env σ κ) (api : RabbitMQApi σ) (init : ConnectionInit)
    (fuel : Nat) : Run (World σ κ) (Except PyErr Unit) :=
  fromPython (PyRabbitMQ_Connection_connect env api init fuel)

/-- `Connection.close`. -/
def Connection.close (env : Env σ κ) : Run (World σ κ) (Except PyErr Unit) := do
  let _close : Run (World σ κ) (Option Unit) := do
    PyRabbitMQ_Connection_close env
    return some ()
  match ← fromPython _close with
  | .ok _ => return .ok ()
  | .error e => if e.cls = .ConnectionError then return .ok () else return .error e

/-- `Connection.reconnect`. -/
def Connection.reconnect (env : Env σ κ) (api : RabbitMQApi σ) (init : ConnectionInit)
    (fuel : Nat) : Run (World σ κ) (Except PyErr Unit) := do
  match ← Connection.close env with
  | .ok _ => Connection.connect env api init fuel
  | .error e => return .error e

end librabbitmq
