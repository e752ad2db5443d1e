-- The library beside the arguments that go out: each login with its table, and each of the
-- methods that carry an integer of the application.
import Librabbitmq.Sending

namespace librabbitmq

/-! ## What goes out -/

/-- A request, with the arguments of it that the laws are about. -/
inductive Outgoing where
  /-- A login, with the client properties of `amqp_login_with_properties`. -/
  | login (client_properties : Option amqp_table_t)
  | channel_open (channel : amqp_channel_t)
  | basic_qos (prefetch_size : BitVec 32) (prefetch_count : BitVec 16)
  | basic_publish (properties : amqp_basic_properties_t)
  | basic_ack (delivery_tag : BitVec 64)
  | basic_reject (delivery_tag : BitVec 64)

/-- The state of the library, and what has gone out, in its order. -/
structure Wire (σ : Type) where
  state : σ
  sent : List Outgoing

variable {σ κ α : Type}

namespace Wire

/-- A function of which nothing is written down. -/
def pass (f : σ → α × σ) (s : Wire σ) : α × Wire σ :=
  ((f s.state).1, { s with state := (f s.state).2 })

/-- A request that is written down. -/
def send (o : Outgoing) (f : σ → α × σ) (s : Wire σ) : α × Wire σ :=
  ((f s.state).1, ⟨(f s.state).2, s.sent ++ [o]⟩)

@[simp] theorem pass_sent (f : σ → α × σ) (s : Wire σ) : (s.pass f).2.sent = s.sent := rfl

@[simp] theorem send_sent (o : Outgoing) (f : σ → α × σ) (s : Wire σ) :
    (s.send o f).2.sent = s.sent ++ [o] := rfl

end Wire

/-- The library, with the opens of channels written down. -/
def RabbitMQC.wired (lib : RabbitMQC σ) : RabbitMQC (Wire σ) where
  amqp_simple_wait_frame := Wire.pass lib.amqp_simple_wait_frame
  amqp_simple_wait_frame_on_channel s c :=
    s.pass fun st => lib.amqp_simple_wait_frame_on_channel st c
  amqp_data_in_buffer s := lib.amqp_data_in_buffer s.state
  amqp_frames_enqueued s := lib.amqp_frames_enqueued s.state
  select s timeout := s.pass fun st => lib.select st timeout
  amqp_send_close_ok s c := s.pass fun st => lib.amqp_send_close_ok st c
  amqp_channel_open s c := s.send (.channel_open c) fun st => lib.amqp_channel_open st c
  amqp_channel_close s c := s.pass fun st => lib.amqp_channel_close st c
  amqp_basic_cancel s c tag := s.pass fun st => lib.amqp_basic_cancel st c tag
  amqp_basic_get s c queue no_ack := s.pass fun st => lib.amqp_basic_get st c queue no_ack
  amqp_connection_close s := { s with state := lib.amqp_connection_close s.state }
  amqp_error_string2 := lib.amqp_error_string2

/-- The functions of the other methods, with the requests of the laws written down. -/
def RabbitMQApi.wired (api : RabbitMQApi σ) : RabbitMQApi (Wire σ) where
  amqp_new_connection s := { s with state := api.amqp_new_connection s.state }
  amqp_tcp_socket_new := Wire.pass api.amqp_tcp_socket_new
  amqp_socket_open s host port := s.pass fun st => api.amqp_socket_open st host port
  amqp_socket_open_noblock s host port timeout :=
    s.pass fun st => api.amqp_socket_open_noblock st host port timeout
  amqp_socket_get_sockfd := Wire.pass api.amqp_socket_get_sockfd
  amqp_login s vhost channel_max frame_max heartbeat user password :=
    s.send (.login none) fun st =>
      api.amqp_login st vhost channel_max frame_max heartbeat user password
  amqp_login_with_properties s vhost channel_max frame_max heartbeat properties user password :=
    s.send (.login (some properties)) fun st =>
      api.amqp_login_with_properties st vhost channel_max frame_max heartbeat properties user
        password
  channel_max s := api.channel_max s.state
  frame_max s := api.frame_max s.state
  heartbeat s := api.heartbeat s.state
  amqp_get_server_properties := Wire.pass api.amqp_get_server_properties
  amqp_get_or_create_channel_pool s c :=
    s.pass fun st => api.amqp_get_or_create_channel_pool st c
  amqp_queue_bind s c queue exchange key table :=
    s.pass fun st => api.amqp_queue_bind st c queue exchange key table
  amqp_queue_unbind s c queue exchange key table :=
    s.pass fun st => api.amqp_queue_unbind st c queue exchange key table
  amqp_queue_delete s c queue if_unused if_empty :=
    s.pass fun st => api.amqp_queue_delete st c queue if_unused if_empty
  amqp_queue_declare s c queue passive durable exclusive auto_delete table :=
    s.pass fun st =>
      api.amqp_queue_declare st c queue passive durable exclusive auto_delete table
  amqp_queue_purge s c queue := s.pass fun st => api.amqp_queue_purge st c queue
  amqp_exchange_declare s c exchange type passive durable table :=
    s.pass fun st => api.amqp_exchange_declare st c exchange type passive durable table
  amqp_exchange_delete s c exchange if_unused :=
    s.pass fun st => api.amqp_exchange_delete st c exchange if_unused
  amqp_basic_publish s c exchange key mandatory immediate props body :=
    s.send (.basic_publish props) fun st =>
      api.amqp_basic_publish st c exchange key mandatory immediate props body
  amqp_basic_ack s c tag multiple :=
    s.send (.basic_ack tag) fun st => api.amqp_basic_ack st c tag multiple
  amqp_basic_reject s c tag multiple :=
    s.send (.basic_reject tag) fun st => api.amqp_basic_reject st c tag multiple
  amqp_basic_consume s c queue tag no_local no_ack exclusive table :=
    s.pass fun st => api.amqp_basic_consume st c queue tag no_local no_ack exclusive table
  amqp_basic_qos s c size count global :=
    s.send (.basic_qos size count) fun st => api.amqp_basic_qos st c size count global
  amqp_channel_flow s c active := s.pass fun st => api.amqp_channel_flow st c active
  amqp_basic_recover s c requeue := s.pass fun st => api.amqp_basic_recover st c requeue
  strerror := api.strerror

/-- What is outside of the extension, over a library whose requests are written down. -/
structure Outside (σ κ : Type) where
  lib : RabbitMQC σ
  api : RabbitMQApi σ
  python : Interpreter
  bytesAvailable : Nat → Bool
  fresh : Nat → UInt8
  invoke : κ → Message → Connection (Wire σ) κ → Connection (Wire σ) κ × Option PyErr

def Outside.env (x : Outside σ κ) : Env (Wire σ) κ :=
  ⟨x.lib.wired, x.python, x.bytesAvailable, x.fresh, x.invoke⟩

/-- A library that always answers alike, with callbacks that do nothing. -/
def Answers.outside (a : Answers) : Outside Unit Unit :=
  ⟨a.lib, a.api, .lenient, fun _ => true, fun _ => 0, fun _ _ self => (self, none)⟩

/-- The world of a `Connection` that has never been connected. -/
def World.unconnected (st : σ) : World (Wire σ) κ where
  self :=
    { conn := ⟨st, []⟩
      connected := false
      sockfd := 0
      callbacks := []
      channels := []
      objects := fun _ => ⟨0, false, []⟩
      _used_channel_ids := [] }
  err := none
  reads := []
  calls := []
  stores := []

end librabbitmq
