-- The other methods of the extension type: those that send a request and wait
-- for its reply, those that only send, and the ones that make a connection.
import Librabbitmq.Recv

namespace librabbitmq

/-! ## The library -/

structure amqp_queue_declare_ok_t where
  queue : Octets
  message_count : BitVec 32
  consumer_count : BitVec 32

/-- The functions of rabbitmq-c behind these methods, over the connection states.
A method that gives a structure gives none for NULL. -/
structure RabbitMQApi (σ : Type) where
  amqp_new_connection : σ → σ
  /-- Whether there is a socket object. -/
  amqp_tcp_socket_new : σ → Bool × σ
  amqp_socket_open : σ → Octets → Int → Int × σ
  amqp_socket_open_noblock : σ → Octets → Int → Int → Int × σ
  amqp_socket_get_sockfd : σ → Int × σ
  amqp_login : σ → Octets → Int → Int → Int → Octets → Octets → amqp_rpc_reply_t × σ
  amqp_login_with_properties : σ → Octets → Int → Int → Int → amqp_table_t → Octets → Octets →
    amqp_rpc_reply_t × σ
  /-- `channel_max` of the connection state, and the two fields after it. -/
  channel_max : σ → Int
  frame_max : σ → Int
  heartbeat : σ → Int
  amqp_get_server_properties : σ → amqp_table_t × σ
  /-- Whether there is a pool. -/
  amqp_get_or_create_channel_pool : σ → amqp_channel_t → Bool × σ
  amqp_queue_bind : σ → amqp_channel_t → Octets → Octets → Octets → amqp_table_t →
    amqp_rpc_reply_t × σ
  amqp_queue_unbind : σ → amqp_channel_t → Octets → Octets → Octets → amqp_table_t →
    amqp_rpc_reply_t × σ
  amqp_queue_delete : σ → amqp_channel_t → Octets → Bool → Bool →
    (Option (BitVec 32) × amqp_rpc_reply_t) × σ
  amqp_queue_declare : σ → amqp_channel_t → Octets → Bool → Bool → Bool → Bool → amqp_table_t →
    (Option amqp_queue_declare_ok_t × amqp_rpc_reply_t) × σ
  amqp_queue_purge : σ → amqp_channel_t → Octets → (Option (BitVec 32) × amqp_rpc_reply_t) × σ
  amqp_exchange_declare : σ → amqp_channel_t → Octets → Octets → Bool → Bool → amqp_table_t →
    amqp_rpc_reply_t × σ
  amqp_exchange_delete : σ → amqp_channel_t → Octets → Bool → amqp_rpc_reply_t × σ
  amqp_basic_publish : σ → amqp_channel_t → Octets → Octets → Bool → Bool →
    amqp_basic_properties_t → Octets → Int × σ
  amqp_basic_ack : σ → amqp_channel_t → BitVec 64 → Bool → Int × σ
  amqp_basic_reject : σ → amqp_channel_t → BitVec 64 → Bool → Int × σ
  amqp_basic_consume : σ → amqp_channel_t → Octets → Octets → Bool → Bool → Bool → amqp_table_t →
    (Option Octets × amqp_rpc_reply_t) × σ
  amqp_basic_qos : σ → amqp_channel_t → BitVec 32 → BitVec 16 → Bool → amqp_rpc_reply_t × σ
  amqp_channel_flow : σ → amqp_channel_t → Bool → amqp_rpc_reply_t × σ
  amqp_basic_recover : σ → amqp_channel_t → Bool → amqp_rpc_reply_t × σ
  strerror : Int → Octets

variable {σ κ : Type}

/-! ## The properties of a publish -/

/-- The `int` that a `double` is cut to, and the class of the error where there
is none. -/
def truncDouble (bits : BitVec 64) : Except ExcClass Int :=
  let e := bits.toNat / 2 ^ 52 % 2 ^ 11
  let m := bits.toNat % 2 ^ 52
  let sign : Int := if bits.toNat < 2 ^ 63 then 1 else -1
  if e = 2047 then .error (if m = 0 then .OverflowError else .ValueError)
  else
    let mant := if e = 0 then m else 2 ^ 52 + m
    let magnitude : Nat := if 1075 ≤ e then mant * 2 ^ (e - 1075) else mant / 2 ^ (1075 - max e 1)
    .ok (sign * magnitude)

example : (truncDouble 0xC00C000000000000).toOption = some (-3) := by decide

/-- `PyInt_AS_LONG`, which is `PyLong_AsLong`: a `float` goes through `__int__`. -/
def PyInt_AS_LONG (o : PyObj) (err : Option PyErr) : Int × Option PyErr :=
  match o with
  | .int n => PyLong_AsLong n err
  | .bool b => (b.toInt, err)
  | .float bits =>
    match truncDouble bits with
    | .ok n => PyLong_AsLong n err
    | .error c => (-1, some (.raised c))
  | _ => (-1, some (.raised .TypeError))

/-- A string property under its key, unless a property before made the function
return. -/
def setString (p : PyMembers) (name : String) (flag : BasicFlag)
    (store : amqp_basic_properties_t → Octets → amqp_basic_properties_t) :
    Option amqp_basic_properties_t × Option PyErr →
      Outcome (Option amqp_basic_properties_t × Option PyErr)
  | (none, err) => .ret (none, err)
  | (some props, err) =>
    match p.lookup (.str (pyStr name)) with
    | none => .ret (some props, err)
    | some value =>
      match PyObjectArray_Maybe_Unicode value err with
      | (.null, err) => .ret (none, err)
      | (value, err) => do
        let b ← PyString_AS_AMQBYTES value
        let props := store props b
        return (some { props with _flags := fun f => f = flag || props._flags f }, err)

/-- An integer property under its key. An error of the conversion stays pending. -/
def setInt (p : PyMembers) (name : String) (flag : BasicFlag)
    (store : amqp_basic_properties_t → Int → amqp_basic_properties_t) :
    Option amqp_basic_properties_t × Option PyErr → Option amqp_basic_properties_t × Option PyErr
  | (none, err) => (none, err)
  | (some props, err) =>
    match p.lookup (.str (pyStr name)) with
    | none => (some props, err)
    | some value =>
      let (n, err) := PyInt_AS_LONG value err
      let props := store props n
      (some { props with _flags := fun f => f = flag || props._flags f }, err)

/-- The headers, after which a pending exception makes the function return. -/
def setHeaders (p : PyMembers) : Option amqp_basic_properties_t × Option PyErr →
    Outcome (Option amqp_basic_properties_t × Option PyErr)
  | (none, err) => .ret (none, err)
  | (some props, err) =>
    match p.lookup (.str (pyStr "headers")) with
    | none => .ret (some props, err)
    | some (.dict value) => do
      let (headers, err) ← PyDict_ToAMQTable value err
      if err.isSome then return (none, err)
      return (some { props with headers := headers }, err)
    -- `PyDict_Size` of what is no dict
    | some _ => .ret (none, some (.raised .SystemError))

/-- `PyDict_to_basic_properties`: none for -1. -/
def PyDict_to_basic_properties (p : PyMembers) (err : Option PyErr) :
    Outcome (Option amqp_basic_properties_t × Option PyErr) := do
  let r := (some { amqp_basic_properties_t.empty with _flags := fun f => f = .headers }, err)
  let r ← setString p "content_type" .content_type (fun props b => { props with content_type := b }) r
  let r ← setString p "content_encoding" .content_encoding
    (fun props b => { props with content_encoding := b }) r
  let r ← setString p "correlation_id" .correlation_id
    (fun props b => { props with correlation_id := b }) r
  let r ← setString p "reply_to" .reply_to (fun props b => { props with reply_to := b }) r
  let r ← setString p "expiration" .expiration (fun props b => { props with expiration := b }) r
  let r ← setString p "message_id" .message_id (fun props b => { props with message_id := b }) r
  let r ← setString p "type" .type (fun props b => { props with type := b }) r
  let r ← setString p "user_id" .user_id (fun props b => { props with user_id := b }) r
  let r ← setString p "app_id" .app_id (fun props b => { props with app_id := b }) r
  let r := setInt p "delivery_mode" .delivery_mode
    (fun props n => { props with delivery_mode := BitVec.ofInt 8 n }) r
  let r := setInt p "priority" .priority
    (fun props n => { props with priority := BitVec.ofInt 8 n }) r
  let r := setInt p "timestamp" .timestamp
    (fun props n => { props with timestamp := BitVec.ofInt 64 n }) r
  setHeaders p r

/-! ## Arguments -/

/-- The string arguments of a method, each through `PyObjectArray_Maybe_Unicode`. -/
def maybeUnicodes : List PyObj → Run (World σ κ) (Option (List PyObj))
  | [] => return some []
  | s :: rest => do
    match ← withErr fun err => .ret (PyObjectArray_Maybe_Unicode s err) with
    | .null => return none
    | s =>
      let some rest ← maybeUnicodes rest | return none
      return some (s :: rest)

/-- The `arguments` of a method as a table, from the pool of its channel. -/
def argumentsTable (api : RabbitMQApi σ) (channel : amqp_channel_t) :
    Option PyMembers → Run (World σ κ) (Option amqp_table_t)
  | none => return some amqp_empty_table
  | some arguments => do
    if !(← onConn fun s => api.amqp_get_or_create_channel_pool s channel) then
      PyErr_SetString (.raised .MemoryError)
      return none
    let table ← withErr (PyDict_ToAMQTable arguments)
    let w ← Run.get
    if w.err.isSome then return none
    return some table

/-- The channel number that a request carries. -/
def channelNumber (channel : Int) : amqp_channel_t := (parseUnsigned channel).toUInt16

/-- A signed `n` of `PyArg_ParseTuple`. -/
def parseSsize (n : Int) : Run (World σ κ) (Option (BitVec 64)) :=
  if FitsLong n then return some (BitVec.ofInt 64 n)
  else do
    PyErr_SetString (.raised .OverflowError)
    return none

/-! ## Methods that wait for a reply -/

/-- A method that converts its strings, and its dict if there is one, sends a
request and waits for the reply. The strings are told apart by their position. -/
def rpcMethod {ρ : Type} (env : Env σ κ) (api : RabbitMQApi σ) (fuel : Nat) (channel : Int)
    (strings : List PyObj) (arguments : Option PyMembers) (context : String)
    (send : σ → amqp_channel_t → (Nat → Octets) → amqp_table_t → (ρ × amqp_rpc_reply_t) × σ)
    (result : ρ → Run (World σ κ) (Option PyObj)) : Run (World σ κ) (Option PyObj) := do
  if ← PyRabbitMQ_Not_Connected then return none
  let some strings ← maybeUnicodes strings | return none
  let some table ← argumentsTable api (channelNumber channel) arguments | return none
  let strings ← Run.lift (strings.mapM PyString_AS_AMQBYTES)
  let (ok, reply) ← onConn fun s =>
    send s (channelNumber channel) (fun i => strings.getD i []) table
  if (← PyRabbitMQ_HandleAMQError env fuel (parseUnsigned channel) reply context) ≠ 0 then
    return none
  result ok

/-- A function that gives only a reply. -/
def onlyReply (r : amqp_rpc_reply_t × σ) : (Unit × amqp_rpc_reply_t) × σ := (((), r.1), r.2)

/-- `Py_RETURN_NONE`. -/
def returnNone {ρ : Type} (_ : ρ) : Run (World σ κ) (Option PyObj) := return some .none

/-- A member of the structure `ok`, which is followed also where it is NULL. -/
def followOk {ρ : Type} (f : ρ → Run (World σ κ) (Option PyObj)) :
    Option ρ → Run (World σ κ) (Option PyObj)
  | some ok => f ok
  | none => Run.crash

/-- `ok->message_count`. -/
def messageCount : Option (BitVec 32) → Run (World σ κ) (Option PyObj) :=
  followOk fun n => return some (.int n.toNat)

section

variable (env : Env σ κ) (api : RabbitMQApi σ) (fuel : Nat) (channel : Int)

def PyRabbitMQ_Connection_queue_bind (queue exchange routing_key : PyObj)
    (arguments : PyMembers) : Run (World σ κ) (Option PyObj) :=
  rpcMethod env api fuel channel [queue, exchange, routing_key] (some arguments) "queue.bind"
    (fun s c b t => onlyReply (api.amqp_queue_bind s c (b 0) (b 1) (b 2) t)) returnNone

def PyRabbitMQ_Connection_queue_unbind (queue exchange routing_key : PyObj)
    (arguments : PyMembers) : Run (World σ κ) (Option PyObj) :=
  rpcMethod env api fuel channel [queue, exchange, routing_key] (some arguments) "queue.unbind"
    (fun s c b t => onlyReply (api.amqp_queue_unbind s c (b 0) (b 1) (b 2) t)) returnNone

/-- `Connection._queue_delete`, which asks for the reply only after a NULL. -/
def PyRabbitMQ_Connection_queue_delete (queue : PyObj) (if_unused if_empty : Bool) :
    Run (World σ κ) (Option PyObj) := do
  if ← PyRabbitMQ_Not_Connected then return none
  let some strings ← maybeUnicodes [queue] | return none
  let strings ← Run.lift (strings.mapM PyString_AS_AMQBYTES)
  let (ok, reply) ← onConn fun s =>
    api.amqp_queue_delete s (channelNumber channel) (strings.getD 0 []) if_unused if_empty
  if ok.isNone then
    if (← PyRabbitMQ_HandleAMQError env fuel (parseUnsigned channel) reply "queue.delete") ≠ 0 then
      return none
  messageCount ok

def PyRabbitMQ_Connection_queue_declare (queue : PyObj)
    (passive durable exclusive auto_delete : Bool) (arguments : PyMembers) :
    Run (World σ κ) (Option PyObj) :=
  rpcMethod env api fuel channel [queue] (some arguments) "queue.declare"
    (fun s c b t => api.amqp_queue_declare s c (b 0) passive durable exclusive auto_delete t)
    (followOk fun ok => do
      let queue ← withErr fun err => .ret (PySTRING_FROM_AMQBYTES ok.queue err)
      return some (.tuple [queue, .int ok.message_count.toNat, .int ok.consumer_count.toNat]))

def PyRabbitMQ_Connection_queue_purge (queue : PyObj) : Run (World σ κ) (Option PyObj) :=
  rpcMethod env api fuel channel [queue] none "queue.purge"
    (fun s c b _ => api.amqp_queue_purge s c (b 0)) messageCount

/-- `Connection._exchange_declare`, which ignores `auto_delete`. -/
def PyRabbitMQ_Connection_exchange_declare (exchange type : PyObj) (passive durable : Bool)
    (arguments : PyMembers) : Run (World σ κ) (Option PyObj) :=
  rpcMethod env api fuel channel [exchange, type] (some arguments) "exchange.declare"
    (fun s c b t => onlyReply (api.amqp_exchange_declare s c (b 0) (b 1) passive durable t))
    returnNone

def PyRabbitMQ_Connection_exchange_delete (exchange : PyObj) (if_unused : Bool) :
    Run (World σ κ) (Option PyObj) :=
  rpcMethod env api fuel channel [exchange] none "exchange.delete"
    (fun s c b _ => onlyReply (api.amqp_exchange_delete s c (b 0) if_unused)) returnNone

def PyRabbitMQ_Connection_basic_consume (queue consumer_tag : PyObj)
    (no_local no_ack exclusive : Bool) (arguments : PyMembers) : Run (World σ κ) (Option PyObj) :=
  rpcMethod env api fuel channel [queue, consumer_tag] (some arguments) "basic.consume"
    (fun s c b t => api.amqp_basic_consume s c (b 0) (b 1) no_local no_ack exclusive t)
    (followOk fun consumer_tag => do
      match ← withErr fun err => .ret (PySTRING_FROM_AMQBYTES consumer_tag err) with
      | .null => return none
      | consumer_tag => return some consumer_tag)

def PyRabbitMQ_Connection_flow (active : Bool) : Run (World σ κ) (Option PyObj) :=
  rpcMethod env api fuel channel [] none "channel.flow"
    (fun s c _ _ => onlyReply (api.amqp_channel_flow s c active)) returnNone

def PyRabbitMQ_Connection_basic_recover (requeue : Bool) : Run (World σ κ) (Option PyObj) :=
  rpcMethod env api fuel channel [] none "basic.recover"
    (fun s c _ _ => onlyReply (api.amqp_basic_recover s c requeue)) returnNone

/-- `Connection._basic_qos`, which does not look at the reply. -/
def PyRabbitMQ_Connection_basic_qos (prefetch_size prefetch_count : Int) (_global : Bool) :
    Run (World σ κ) (Option PyObj) := do
  if ← PyRabbitMQ_Not_Connected then return none
  let some prefetch_size ← parseSsize prefetch_size | return none
  let _ ← onConn fun s => api.amqp_basic_qos s (channelNumber channel)
    (prefetch_size.setWidth 32) ((parseUnsigned prefetch_count).toBitVec.setWidth 16) _global
  return some .none

/-! ## Methods that only send -/

/-- `PyRabbitMQ_HandleError`. -/
def PyRabbitMQ_HandleError (ret : Int) (context : String) : Run (World σ κ) Bool := do
  if ret < 0 then
    PyErr_SetString ⟨.ConnectionError, "%s: %s",
      [.str (pyStr context), .bytes (api.strerror (-ret))]⟩
    return false
  return true

/-- A send, after which a failure revives the channel. -/
def sendMethod (context : String) (send : σ → amqp_channel_t → Int × σ) :
    Run (World σ κ) (Option PyObj) := do
  let ret ← onConn fun s => send s (channelNumber channel)
  if !(← PyRabbitMQ_HandleError api ret context) then
    let _ ← PyRabbitMQ_revive_channel env fuel (parseUnsigned channel)
    return none
  return some .none

/-- `Connection._basic_publish`. The pool of the channel is not looked at. -/
def PyRabbitMQ_Connection_basic_publish (body : Octets) (exchange routing_key : PyObj)
    (propdict : PyMembers) (mandatory immediate : Bool) : Run (World σ κ) (Option PyObj) := do
  if ← PyRabbitMQ_Not_Connected then return none
  let some strings ← maybeUnicodes [exchange, routing_key] | return none
  let _ ← onConn fun s => api.amqp_get_or_create_channel_pool s (channelNumber channel)
  let some props ← withErr (PyDict_to_basic_properties propdict) | return none
  let strings ← Run.lift (strings.mapM PyString_AS_AMQBYTES)
  sendMethod env api fuel channel "basic.publish" fun s c =>
    api.amqp_basic_publish s c (strings.getD 0 []) (strings.getD 1 []) mandatory immediate props body

/-- The two methods that send a delivery tag and a flag. -/
def tagMethod (delivery_tag : Int) (context : String)
    (send : σ → amqp_channel_t → BitVec 64 → Int × σ) : Run (World σ κ) (Option PyObj) := do
  if ← PyRabbitMQ_Not_Connected then return none
  let some delivery_tag ← parseSsize delivery_tag | return none
  sendMethod env api fuel channel context fun s c => send s c delivery_tag

def PyRabbitMQ_Connection_basic_ack (delivery_tag : Int) (multiple : Bool) :
    Run (World σ κ) (Option PyObj) :=
  tagMethod env api fuel channel delivery_tag "basic.ack" fun s c tag =>
    api.amqp_basic_ack s c tag multiple

def PyRabbitMQ_Connection_basic_reject (delivery_tag : Int) (multiple : Bool) :
    Run (World σ κ) (Option PyObj) :=
  tagMethod env api fuel channel delivery_tag "basic.reject" fun s c tag =>
    api.amqp_basic_reject s c tag multiple

end

/-! ## The life of a connection -/

/-- What `Connection.__init__` stores and no method changes. The client properties
are none where they are NULL or no dict. -/
structure ConnectionInit where
  hostname : Octets
  port : Int
  userid : Octets
  password : Octets
  virtual_host : Octets
  client_properties : Option PyMembers
  connect_timeout : Int

/-- `PyRabbitMQ_HandleAMQStatus`. -/
def PyRabbitMQ_HandleAMQStatus (env : Env σ κ) (status : Int) (context : String) :
    Run (World σ κ) Int := do
  if status ≠ 0 then
    PyErr_SetString ⟨.ConnectionError, "%s: %s",
      [.str (pyStr context), .bytes (env.lib.amqp_error_string2 status)]⟩
  return status

/-- The login of `Connection.connect`, between `Py_BEGIN_ALLOW_THREADS` and
`Py_END_ALLOW_THREADS`. -/
def login (env : Env σ κ) (api : RabbitMQApi σ) (init : ConnectionInit) :
    Run (World σ κ) amqp_rpc_reply_t := do
  let w ← Run.get
  match init.client_properties with
  | some client_properties =>
    let properties ← withoutThreadState (env.python.convertsDetached client_properties)
      (PyDict_ToAMQTable client_properties)
    onConn fun s => api.amqp_login_with_properties s init.virtual_host w.self.channel_max
      w.self.frame_max w.self.heartbeat properties init.userid init.password
  | none =>
    onConn fun s => api.amqp_login s init.virtual_host w.self.channel_max w.self.frame_max
      w.self.heartbeat init.userid init.password

/-- The open of the socket, with a timeout if there is one. -/
def openSocket (api : RabbitMQApi σ) (init : ConnectionInit) : Run (World σ κ) Int :=
  onConn fun s =>
    if init.connect_timeout ≤ 0 then api.amqp_socket_open s init.hostname init.port
    else api.amqp_socket_open_noblock s init.hostname init.port init.connect_timeout

/-- `Connection.connect`. Its `error:` closes the connection, which does nothing
while it is not connected. -/
def PyRabbitMQ_Connection_connect (env : Env σ κ) (api : RabbitMQApi σ) (init : ConnectionInit)
    (fuel : Nat) : Run (World σ κ) (Option Unit) := do
  let w ← Run.get
  if w.self.connected then
    PyErr_SetString ⟨.ConnectionError, "Already connected", []⟩
    return none
  Run.modify fun w => w.setConn (api.amqp_new_connection w.self.conn)
  if !(← onConn api.amqp_tcp_socket_new) then
    PyErr_SetString (.raised .MemoryError)
    PyRabbitMQ_Connection_close env
    return none
  let status ← openSocket api init
  if (← PyRabbitMQ_HandleAMQStatus env status "Error opening socket") ≠ 0 then
    PyRabbitMQ_Connection_close env
    return none
  let sockfd ← onConn api.amqp_socket_get_sockfd
  Run.modify fun w => { w with self := { w.self with sockfd := sockfd } }
  let reply ← login env api init
  if (← PyRabbitMQ_HandleAMQError env fuel 0 reply "Couldn't log in") ≠ 0 then return none
  Run.modify fun w => { w with self := { w.self with
    connected := true
    channel_max := api.channel_max w.self.conn
    frame_max := api.frame_max w.self.conn
    heartbeat := api.heartbeat w.self.conn } }
  let table ← onConn api.amqp_get_server_properties
  let server_properties ← withErr (AMQTable_toPyDict table)
  Run.modify fun w => { w with self := { w.self with
    server_properties := some server_properties } }
  return some ()

/-- `Connection.fileno`. -/
def PyRabbitMQ_Connection_fileno : Run (World σ κ) (Option Int) := do
  let w ← Run.get
  if w.self.sockfd > 0 then return some w.self.sockfd
  PyErr_SetString ⟨.ValueError, "Socket not connected", []⟩
  return none

/-- `Connection._channel_open`. -/
def PyRabbitMQ_Connection_channel_open (env : Env σ κ) (fuel : Nat) (channel : Int) :
    Run (World σ κ) (Option Unit) := do
  if ← PyRabbitMQ_Not_Connected then return none
  if (← PyRabbitMQ_Connection_create_channel env fuel (parseUnsigned channel)) ≠ 0 then return none
  return some ()

end librabbitmq
