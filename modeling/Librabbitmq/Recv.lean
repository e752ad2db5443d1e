-- `PyRabbitMQ_recv`, the receive machine, with the two functions of the
-- extension type that run it. `p` is the dict of `_basic_get`; without it the
-- content goes to the callback of a consumer.
import Librabbitmq.Connection

namespace librabbitmq

variable {σ κ : Type}

/-! ## Reads -/

/-- The world after reads that give the frames `fs`. -/
def World.afterReads (w : World σ κ) (fs : List amqp_frame_t) (s : σ) : World σ κ :=
  { w.setConn s with reads := w.reads ++ fs }

abbrev World.afterRead (w : World σ κ) (f : amqp_frame_t) (s : σ) : World σ κ :=
  w.afterReads [f] s

@[simp] theorem World.afterReads_nil (w : World σ κ) : w.afterReads [] w.self.conn = w := by
  simp [World.afterReads, World.setConn]

@[simp] theorem World.afterReads_afterReads (w : World σ κ) (fs gs : List amqp_frame_t) (s t : σ) :
    (w.afterReads fs s).afterReads gs t = w.afterReads (fs ++ gs) t := by
  simp [World.afterReads, World.setConn]

@[simp] theorem World.afterReads_conn (w : World σ κ) (fs : List amqp_frame_t) (s : σ) :
    (w.afterReads fs s).self.conn = s := rfl

@[simp] theorem World.afterReads_err (w : World σ κ) (fs : List amqp_frame_t) (s : σ) :
    (w.afterReads fs s).err = w.err := rfl

/-- The wait for a frame: the status, or the frame. -/
def readFrame (wait : σ → ReadResult × σ) : Run (World σ κ) (Except Int amqp_frame_t) := fun w =>
  match wait w.self.conn with
  | (.ok f, s) => (.ret (.ok f), w.afterRead f s)
  | (.failed status _, s) => (.ret (.error status), w.setConn s)
  | (.blocked, s) => (.hang, w.setConn s)

def amqp_simple_wait_frame (env : Env σ κ) : Run (World σ κ) (Except Int amqp_frame_t) :=
  readFrame env.lib.amqp_simple_wait_frame

def amqp_simple_wait_frame_on_channel (env : Env σ κ) (c : amqp_channel_t) :
    Run (World σ κ) (Except Int amqp_frame_t) :=
  readFrame fun s => env.lib.amqp_simple_wait_frame_on_channel s c

theorem readFrame_ok {wait : σ → ReadResult × σ} {w : World σ κ} {f : amqp_frame_t} {s : σ}
    (h : wait w.self.conn = (.ok f, s)) : readFrame wait w = (.ret (.ok f), w.afterRead f s) := by
  simp [readFrame, h]

theorem readFrame_failed {wait : σ → ReadResult × σ} {w : World σ κ} {status : Int}
    {hs : status < 0} {s : σ} (h : wait w.self.conn = (.failed status hs, s)) :
    readFrame wait w = (.ret (.error status), w.setConn s) := by
  simp [readFrame, h]

theorem readFrame_blocked {wait : σ → ReadResult × σ} {w : World σ κ} {s : σ}
    (h : wait w.self.conn = (.blocked, s)) : readFrame wait w = (.hang, w.setConn s) := by
  simp [readFrame, h]

/-! ## The callback -/

/-- `self.callbacks[channel][consumer_tag]`. -/
def Connection.callback_for_tag (self : Connection σ κ) (channel : Int) (consumer_tag : PyStr) :
    Option κ := do
  let channel_callbacks ← self.callbacks.lookup channel
  channel_callbacks.lookup consumer_tag

/-- The callback of a consumer, and `self.channels[channel]`. -/
def Connection.consumer (self : Connection σ κ) (channel : Int) (consumer_tag : PyStr) :
    Option (κ × Nat) := do
  let callback_for_tag ← self.callback_for_tag channel consumer_tag
  let channelobj ← self.channels.lookup channel
  return (callback_for_tag, channelobj)

/-- `PyObject_GetAttrString(self, "channels")`, an attribute of the instance. -/
def PyObject_GetAttrString_channels (env : Env σ κ) : Run (World σ κ) (Dict Int Nat) := fun w =>
  (.ret w.self.channels, w.setErr (env.python.afterGetAttr w.err))

/-- `PyRabbitMQ_ApplyCallback`. A call of `Message` with an exception pending
gives NULL. The result of the callback is not looked at. -/
def PyRabbitMQ_ApplyCallback (env : Env σ κ) (consumer_tag : PyStr) (channel : Int)
    (propdict delivery_info : PyMembers) (view : List (Option UInt8)) : Run (World σ κ) Int := do
  let w ← Run.get
  match w.self.callback_for_tag channel consumer_tag with
  | none => return -1
  | some callback =>
    let channels ← PyObject_GetAttrString_channels env
    match channels.lookup channel with
    | none => return -1
    | some channelobj =>
      let w ← Run.get
      if w.err.isSome then
        PyErr_SetString (.raised .SystemError)
        return -1
      let message := ⟨channelobj, .dict propdict, .dict delivery_info, .view view⟩
      Run.modify fun w =>
        let (self, err) := env.invoke callback message w.self
        { w with self, err, calls := w.calls ++ [⟨channel, consumer_tag, callback, message⟩] }
      return 0

/-! ## The body loop -/

/-- The object `payload`: a `bytes` that is filled octet by octet, or the `str`
of a single frame. -/
inductive Payload where
  | bytes (cells : List (Option UInt8))
  | str (o : PyObj)

/-- The object `view`: a memoryview of the payload, or of the memory of a frame. -/
inductive View where
  | payload
  | fragment (b : Octets)

/-- The variables of the body loop, and `none` for NULL. `buf` is the index in
the payload that it points to. -/
structure BodyVars where
  i : BitVec 32
  body_received : BitVec 64
  payload : Option Payload
  buf : Option Nat
  view : Option View

def BodyVars.init : BodyVars := ⟨0, 0, none, none, none⟩

/-- How the body loop is left. -/
inductive BodyEnd where
  | done (v : BodyVars)
  | altframe (channel : amqp_channel_t) (m : amqp_method_t)
  | goto_finally

/-- The size of the `bytes` that `buf` points into. -/
def BodyVars.size (v : BodyVars) : Option Nat :=
  match v.payload with
  | some (.bytes cells) => some cells.length
  | _ => none

/-- `*buf++ = x`. A store out of the payload does not change the payload. -/
def BodyVars.put (v : BodyVars) (at_ : Nat) (x : UInt8) : BodyVars :=
  { v with
    buf := some (at_ + 1)
    payload := match v.payload with
      | some (.bytes cells) => some (.bytes (cells.set at_ (some x)))
      | payload => payload }

/-- The inner loop, which copies a fragment to `buf`. A fragment has less than
`2 ^ 32` octets, so `j` does not wrap. -/
def PyRabbitMQ_recv.copy : Octets → BodyVars → Run (World σ κ) BodyVars
  | [], v => pure v
  | x :: xs, v =>
    match v.buf with
    | none => do
      Run.modify fun w => { w with stores := w.stores ++ [⟨none, 0⟩] }
      Run.crash
    | some at_ => do
      Run.modify fun w => { w with stores := w.stores ++ [⟨v.size, at_⟩] }
      PyRabbitMQ_recv.copy xs (v.put at_ x)

/-- The end of a turn: the copy, and `i++`. -/
def PyRabbitMQ_recv.copyFragment (b : Octets) (v : BodyVars) :
    Run (World σ κ) (BodyVars ⊕ BodyEnd) := do
  let v ← PyRabbitMQ_recv.copy b v
  return .inl { v with i := v.i + 1 }

/-- A body frame. -/
def PyRabbitMQ_recv.fragment (env : Env σ κ) (p : Bool) (body_target : BitVec 64) (v : BodyVars)
    (b : Octets) : Run (World σ κ) (BodyVars ⊕ BodyEnd) := do
  let v := { v with body_received := v.body_received + BitVec.ofNat 64 b.length }
  if v.i = 0 then
    if v.body_received.toInt < body_target.toInt then
      if env.bytesAvailable body_target.toNat then
        PyRabbitMQ_recv.copyFragment b { v with
          payload := some (.bytes (List.replicate body_target.toNat none))
          buf := some 0
          view := some .payload }
      else
        PyErr_SetString (.raised .MemoryError)
        return .inr .goto_finally
    else if p then
      match ← withErr fun err => .ret (PySTRING_FROM_AMQBYTES b err) with
      | .null => return .inr (.done { v with payload := none })
      | payload => return .inr (.done { v with payload := some (.str payload) })
    else return .inr (.done { v with view := some (.fragment b) })
  else PyRabbitMQ_recv.copyFragment b v

/-- One turn of the body loop. -/
def PyRabbitMQ_recv.turn (env : Env σ κ) (p : Bool) (cur_channel : amqp_channel_t)
    (body_target : BitVec 64) (v : BodyVars) : Run (World σ κ) (BodyVars ⊕ BodyEnd) := do
  if v.body_received.toInt < body_target.toInt then
    match ← amqp_simple_wait_frame_on_channel env cur_channel with
    | .error _ => return .inr (.done v)
    | .ok frame =>
      match frame.payload with
      | .method m => return .inr (.altframe frame.channel m)
      | .body_fragment b => PyRabbitMQ_recv.fragment env p body_target v b.bytes
      | _ =>
        PyErr_SetString ⟨.ChannelError, "Expected body, got unexpected frame", []⟩
        return .inr .goto_finally
  else return .inr (.done v)

/-! ## The receive machine -/

/-- How the loop that waits for a `basic.deliver` is left. -/
inductive FirstEnd where
  | failed (status : Int)
  | altframe (channel : amqp_channel_t) (m : amqp_method_t)
  | deliver (channel : amqp_channel_t) (m : amqp_basic_deliver_t)

/-- One turn of that loop. It passes over every frame that is no method. -/
def PyRabbitMQ_recv.first (env : Env σ κ) (_ : Unit) : Run (World σ κ) (Unit ⊕ FirstEnd) := do
  match ← amqp_simple_wait_frame env with
  | .error status => return .inr (.failed status)
  | .ok frame =>
    match frame.payload with
    | .method (.basic_deliver m) => return .inr (.deliver frame.channel m)
    | .method m => return .inr (.altframe frame.channel m)
    | _ => return .inl ()

/-- The delivery of a `basic.deliver`: the consumer tag and `delivery_info`. -/
def PyRabbitMQ_recv.delivery (m : amqp_basic_deliver_t) :
    Run (World σ κ) (PyStr × PyMembers) := do
  let delivery_info ← withErr fun err =>
    amqp_basic_deliver_to_PyDict [] m.delivery_tag m.exchange m.routing_key m.redelivered err
  let consumer_tag ← withErr fun err => .ret (PySTRING_FROM_AMQBYTES m.consumer_tag err)
  match consumer_tag with
  | .str tag => do
    let delivery_info ← Run.lift
      (PyDict_SetItemString delivery_info "consumer_tag" consumer_tag)
    return (tag, delivery_info)
  | _ => Run.crash

/-- `altframe:` -/
def PyRabbitMQ_recv.altframe (env : Env σ κ) (fuel : Nat) (p : Option PyMembers)
    (channel : amqp_channel_t) (m : amqp_method_t) : Run (World σ κ) (Int × Option PyMembers) := do
  PyRabbitMQ_SetErr_ReceivedFrame env fuel channel m
  return (-1, p)

/-- The octets of a `bytes`, as they are in memory. -/
def readBytes (env : Env σ κ) (cells : List (Option UInt8)) : Octets :=
  cells.mapIdx fun i c => c.getD (env.fresh i)

/-- The `payload` as a Python object. -/
def payloadObj (env : Env σ κ) : Payload → PyObj
  | .bytes cells => .bytes (readBytes env cells)
  | .str o => o

/-- What the memoryview shows. -/
def BodyVars.cells (v : BodyVars) : View → List (Option UInt8)
  | .fragment b => b.map some
  | .payload => match v.payload with
    | some (.bytes cells) => cells
    | _ => []

/-- What comes after the body loop: `p` is filled, or the callback is called.
`delivery` is what `basic.deliver` told, if there was one. -/
def PyRabbitMQ_recv.finish (env : Env σ κ) (p : Option PyMembers)
    (delivery : Option (PyStr × PyMembers)) (channel : amqp_channel_t) (body_target : BitVec 64)
    (propdict : PyMembers) (v : BodyVars) : Run (World σ κ) (Int × Option PyMembers) :=
  match p with
  | some dict =>
    -- expected content, got none
    if v.payload.isNone ∧ body_target ≠ 0 then pure (-1, p)
    else do
      let body := (v.payload.map (payloadObj env)).getD (.bytes [])
      let dict ← Run.lift (PyDict_SetItemString dict "properties" (.dict propdict))
      let dict ← Run.lift (PyDict_SetItemString dict "body" body)
      let dict ← Run.lift (PyDict_SetItemString dict "channel" (.int channel.toNat))
      return (0, some dict)
  | none =>
    match v.view, delivery with
    | none, _ => return (-1, none)
    -- `consumer_tag` is NULL without a `basic.deliver`
    | some _, none => Run.crash
    | some view, some (consumer_tag, delivery_info) => do
      let retval ← PyRabbitMQ_ApplyCallback env consumer_tag channel.toNat propdict delivery_info
        (v.cells view)
      return (retval, none)

/-- The body of a content whose header announces `body_target` octets. `retval`
is 0 after every read that gave a frame. -/
def PyRabbitMQ_recv.body (env : Env σ κ) (fuel : Nat) (p : Option PyMembers)
    (delivery : Option (PyStr × PyMembers)) (channel : amqp_channel_t) (body_target : BitVec 64)
    (propdict : PyMembers) : Run (World σ κ) (Int × Option PyMembers) := do
  match ← Run.loop (PyRabbitMQ_recv.turn env p.isSome channel body_target) fuel
      BodyVars.init with
  | .altframe channel m => PyRabbitMQ_recv.altframe env fuel p channel m
  | .goto_finally => return (0, p)
  | .done v => PyRabbitMQ_recv.finish env p delivery channel body_target propdict v

/-- The wait for a header: on any channel while `cur_channel` is 0. -/
def PyRabbitMQ_recv.waitHeader (lib : RabbitMQC σ) (cur_channel : amqp_channel_t) :
    σ → ReadResult × σ := fun s =>
  if cur_channel = 0 then lib.amqp_simple_wait_frame s
  else lib.amqp_simple_wait_frame_on_channel s cur_channel

/-- The content: its header, and then its body. -/
def PyRabbitMQ_recv.content (env : Env σ κ) (fuel : Nat) (p : Option PyMembers)
    (delivery : Option (PyStr × PyMembers)) (cur_channel : amqp_channel_t) :
    Run (World σ κ) (Int × Option PyMembers) := do
  match ← readFrame (PyRabbitMQ_recv.waitHeader env.lib cur_channel) with
  | .error status => return (status, p)
  | .ok frame =>
    match frame.payload with
    | .method m => PyRabbitMQ_recv.altframe env fuel p frame.channel m
    | .header body_target props =>
      let propdict ← withErr (basic_properties_to_PyDict props [])
      PyRabbitMQ_recv.body env fuel p delivery frame.channel body_target propdict
    | _ =>
      PyRabbitMQ_SetErr_UnexpectedHeader frame
      return (0, p)

/-- `PyRabbitMQ_recv`: the result, and `p` as it is left. -/
def PyRabbitMQ_recv (env : Env σ κ) (fuel : Nat) (p : Option PyMembers) (piggyback : Bool) :
    Run (World σ κ) (Int × Option PyMembers) := do
  if piggyback then PyRabbitMQ_recv.content env fuel p none 0
  else
    match ← Run.loop (PyRabbitMQ_recv.first env) fuel () with
    | .failed status => return (status, p)
    | .altframe channel m => PyRabbitMQ_recv.altframe env fuel p channel m
    | .deliver channel m =>
      let delivery ← PyRabbitMQ_recv.delivery m
      PyRabbitMQ_recv.content env fuel p (some delivery) channel

/-! ## The extension type -/

/-- A call from Python, which turns a pending exception into a raised one. -/
def fromPython {α : Type} (x : Run (World σ κ) (Option α)) : Run (World σ κ) (Except PyErr α) := do
  let r ← x
  let w ← Run.get
  Run.modify fun w => w.setErr none
  return checkResult r w.err

/-- A call from Python returns when the function behind it does. -/
theorem ret_of_fromPython {α : Type} {x : Run (World σ κ) (Option α)} {w w' : World σ κ}
    {r : Except PyErr α} (h : fromPython x w = (.ret r, w')) :
    ∃ a w1, x w = (.ret a, w1) ∧ r = checkResult a w1.err ∧ w' = w1.setErr none := by
  unfold fromPython at h
  obtain ⟨a, w1, hx, hrest⟩ := Run.ret_of_bind h
  rw [Run.get_bind_apply, Run.modify_bind_apply] at hrest
  cases hrest
  exact ⟨a, w1, hx, rfl, rfl⟩

/-- `RabbitMQ_wait_nb`. -/
def RabbitMQ_wait_nb (env : Env σ κ) : Run (World σ κ) Int := do
  let r ← onConn fun s => env.lib.select s 0
  if r.result ≤ 0 then return r.result
  if r.isset then return 1
  return 0

/-- One turn of the loop of `RabbitMQ_wait_timeout`, over `result` and `timeout`. -/
def RabbitMQ_wait_timeout.turn (env : Env σ κ) (v : Int × Rat) :
    Run (World σ κ) ((Int × Rat) ⊕ Int) := do
  let (result, timeout) := v
  if timeout > 0 then
    let r ← onConn fun s => env.lib.select s timeout
    if r.result ≤ 0 then return .inr r.result
    if r.isset then return .inr 1
    return .inl (r.result, timeout - r.elapsed)
  else return .inr result

/-- `RabbitMQ_wait_timeout`. -/
def RabbitMQ_wait_timeout (env : Env σ κ) (fuel : Nat) (timeout : Rat) : Run (World σ κ) Int :=
  Run.loop (RabbitMQ_wait_timeout.turn env) fuel (0, timeout)

/-- `RabbitMQ_WAIT`. -/
def RabbitMQ_WAIT (env : Env σ κ) (fuel : Nat) (timeout : Rat) : Run (World σ κ) Int :=
  if timeout > 0 then RabbitMQ_wait_timeout env fuel timeout else RabbitMQ_wait_nb env

/-- `PYRMQ_SHOULD_POLL`. -/
def PYRMQ_SHOULD_POLL (timeout : Rat) : Bool := timeout > 0 || timeout = -1

/-- `Connection._basic_recv`. -/
def PyRabbitMQ_Connection_basic_recv (env : Env σ κ) (fuel : Nat) (timeout : Rat) :
    Run (World σ κ) (Option Unit) := do
  if ← PyRabbitMQ_Not_Connected then return none
  let w ← Run.get
  if PYRMQ_SHOULD_POLL timeout && !env.lib.AMQP_ACTIVE_BUFFERS w.self.conn then
    let ready ← RabbitMQ_WAIT env fuel timeout
    if (← PyRabbitMQ_HandlePollError ready) ≤ 0 then return none
  let (retval, _) ← PyRabbitMQ_recv env fuel none false
  if retval < 0 then
    let w ← Run.get
    if w.err.isNone then
      PyErr_SetString ⟨.ConnectionError, "Bad frame read", []⟩
    PyRabbitMQ_Connection_close env
    return none
  return some ()

/-- `Connection._basic_get`. -/
def PyRabbitMQ_Connection_basic_get (env : Env σ κ) (fuel : Nat) (channel : Int) (queue : PyObj)
    (no_ack : Bool) : Run (World σ κ) (Option PyObj) := do
  if ← PyRabbitMQ_Not_Connected then return none
  match ← withErr fun err => .ret (PyObjectArray_Maybe_Unicode queue err) with
  | .null => return none
  | queue =>
    let queue ← Run.lift (PyString_AS_AMQBYTES queue)
    let reply ← onConn fun s =>
      env.lib.amqp_basic_get s (parseUnsigned channel).toUInt16 queue no_ack
    if (← PyRabbitMQ_HandleAMQError env fuel (parseUnsigned channel) reply "basic.get") ≠ 0 then
      return none
    match reply with
    | .normal (.basic_get_ok ok) =>
      let delivery_info ← withErr fun err =>
        amqp_basic_deliver_to_PyDict [] ok.delivery_tag ok.exchange ok.routing_key ok.redelivered
          err
      let delivery_info ← Run.lift
        (PyDict_SetItemString delivery_info "message_count" (.int ok.message_count.toNat))
      let p ← Run.lift (PyDict_SetItemString [] "delivery_info" (.dict delivery_info))
      let w ← Run.get
      if env.lib.amqp_data_in_buffer w.self.conn then
        let (retval, p) ← PyRabbitMQ_recv env fuel (some p) true
        if retval < 0 then
          let w ← Run.get
          if w.err.isNone then
            PyErr_SetString ⟨.ConnectionError, "Bad frame read", []⟩
          PyRabbitMQ_Connection_close env
          return none
        return p.map .dict
      return some (.dict p)
    | _ => return some .none

end librabbitmq
