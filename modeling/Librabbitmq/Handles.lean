-- The handles of rabbitmq-c. Every call of the library is kept, in its order,
-- with the handle that it was given and with how it ended, so that laws about
-- what the extension asks of the library are laws about this log.
import Librabbitmq.Operations

namespace librabbitmq

/-! ## The log -/

/-- A call of the library. A request and the functions that go with it (the one
that reads its reply, the release of its buffers) are one call. -/
inductive Event where
  | amqp_new_connection
  | amqp_socket_get_sockfd (sockfd : Int)
  | amqp_login (reply : amqp_rpc_reply_t)
  | amqp_channel_open (channel : amqp_channel_t) (reply : amqp_rpc_reply_t)
  | amqp_channel_close (channel : amqp_channel_t) (reply : amqp_rpc_reply_t)
  /-- Any other request. -/
  | request (channel : amqp_channel_t) (reply : amqp_rpc_reply_t)
  /-- `amqp_basic_publish`, `amqp_basic_ack` or `amqp_basic_reject`. -/
  | send (channel : amqp_channel_t) (status : Int)
  /-- `amqp_send_method` of a `channel.close-ok`. -/
  | amqp_send_close_ok (channel : amqp_channel_t) (status : Int)
  /-- A wait for a frame. -/
  | wait (result : ReadResult)
  | amqp_connection_close
  | amqp_destroy_connection
  /-- Any function that sends and reads nothing on a channel. -/
  | other

/-- The call destroys its handle. -/
def Event.IsDestroy : Event → Bool
  | .amqp_destroy_connection => true
  | _ => false

structure LibCall where
  handle : Nat
  event : Event

/-- The pointer of the connection, and the library with all that is behind it.
The handles are numbered from 1 in the order they are made; 0 is NULL. -/
structure Handles (σ : Type) where
  current : Nat
  made : Nat
  state : σ
  log : List LibCall

variable {σ κ : Type}

namespace Handles

/-- The calls on the current handle, after which the library is in a state. -/
def note (s : Handles σ) (events : List Event) (st : σ) : Handles σ :=
  { s with state := st, log := s.log ++ events.map fun e => ⟨s.current, e⟩ }

/-- A function of the library, with its call noted. -/
def tracked {α : Type} (f : σ → α × σ) (event : α → Event) (s : Handles σ) : α × Handles σ :=
  ((f s.state).1, s.note [event (f s.state).1] (f s.state).2)

/-- A new handle, and the pointer to it. -/
def renew (s : Handles σ) (st : σ) : Handles σ :=
  { s with
    current := s.made + 1
    made := s.made + 1
    state := st
    log := s.log ++ [⟨s.made + 1, .amqp_new_connection⟩] }

@[simp] theorem note_current (s : Handles σ) (events : List Event) (st : σ) :
    (s.note events st).current = s.current := rfl

@[simp] theorem note_made (s : Handles σ) (events : List Event) (st : σ) :
    (s.note events st).made = s.made := rfl

theorem note_log (s : Handles σ) (events : List Event) (st : σ) :
    (s.note events st).log = s.log ++ events.map fun e => ⟨s.current, e⟩ := rfl

@[simp] theorem note_note (s : Handles σ) (es es' : List Event) (st st' : σ) :
    (s.note es st).note es' st' = s.note (es ++ es') st' := by
  simp [note]

@[simp] theorem note_nil (s : Handles σ) : s.note [] s.state = s := by
  simp [note]

end Handles

/-- The library, with its calls noted. `select` is a function of the system. -/
def RabbitMQC.tracked (lib : RabbitMQC σ) : RabbitMQC (Handles σ) where
  amqp_simple_wait_frame := Handles.tracked lib.amqp_simple_wait_frame .wait
  amqp_simple_wait_frame_on_channel s c :=
    s.tracked (fun st => lib.amqp_simple_wait_frame_on_channel st c) .wait
  amqp_data_in_buffer s := lib.amqp_data_in_buffer s.state
  amqp_frames_enqueued s := lib.amqp_frames_enqueued s.state
  select s timeout := ((lib.select s.state timeout).1, s.note [] (lib.select s.state timeout).2)
  amqp_send_close_ok s c := s.tracked (fun st => lib.amqp_send_close_ok st c) (.amqp_send_close_ok c)
  amqp_channel_open s c := s.tracked (fun st => lib.amqp_channel_open st c) (.amqp_channel_open c)
  amqp_channel_close s c := s.tracked (fun st => lib.amqp_channel_close st c) (.amqp_channel_close c)
  amqp_basic_cancel s c tag := s.tracked (fun st => lib.amqp_basic_cancel st c tag) (.request c)
  amqp_basic_get s c queue no_ack :=
    s.tracked (fun st => lib.amqp_basic_get st c queue no_ack) (.request c)
  amqp_connection_close s :=
    s.note [.amqp_connection_close, .amqp_destroy_connection] (lib.amqp_connection_close s.state)
  amqp_error_string2 := lib.amqp_error_string2

/-- The functions of the other methods, with their calls noted. -/
def RabbitMQApi.tracked (api : RabbitMQApi σ) : RabbitMQApi (Handles σ) where
  amqp_new_connection s := s.renew (api.amqp_new_connection s.state)
  amqp_tcp_socket_new := Handles.tracked api.amqp_tcp_socket_new fun _ => .other
  amqp_socket_open s host port := s.tracked (fun st => api.amqp_socket_open st host port) fun _ => .other
  amqp_socket_open_noblock s host port timeout :=
    s.tracked (fun st => api.amqp_socket_open_noblock st host port timeout) fun _ => .other
  amqp_socket_get_sockfd := Handles.tracked api.amqp_socket_get_sockfd .amqp_socket_get_sockfd
  amqp_login s vhost channel_max frame_max heartbeat user password :=
    s.tracked (fun st => api.amqp_login st vhost channel_max frame_max heartbeat user password)
      .amqp_login
  amqp_login_with_properties s vhost channel_max frame_max heartbeat properties user password :=
    s.tracked (fun st => api.amqp_login_with_properties st vhost channel_max frame_max heartbeat
      properties user password) .amqp_login
  channel_max s := api.channel_max s.state
  frame_max s := api.frame_max s.state
  heartbeat s := api.heartbeat s.state
  amqp_get_server_properties := Handles.tracked api.amqp_get_server_properties fun _ => .other
  amqp_get_or_create_channel_pool s c :=
    s.tracked (fun st => api.amqp_get_or_create_channel_pool st c) fun _ => .other
  amqp_queue_bind s c queue exchange key table :=
    s.tracked (fun st => api.amqp_queue_bind st c queue exchange key table) (.request c)
  amqp_queue_unbind s c queue exchange key table :=
    s.tracked (fun st => api.amqp_queue_unbind st c queue exchange key table) (.request c)
  amqp_queue_delete s c queue if_unused if_empty :=
    s.tracked (fun st => api.amqp_queue_delete st c queue if_unused if_empty)
      fun r => .request c r.2
  amqp_queue_declare s c queue passive durable exclusive auto_delete table :=
    s.tracked (fun st => api.amqp_queue_declare st c queue passive durable exclusive auto_delete
      table) fun r => .request c r.2
  amqp_queue_purge s c queue :=
    s.tracked (fun st => api.amqp_queue_purge st c queue) fun r => .request c r.2
  amqp_exchange_declare s c exchange type passive durable table :=
    s.tracked (fun st => api.amqp_exchange_declare st c exchange type passive durable table)
      (.request c)
  amqp_exchange_delete s c exchange if_unused :=
    s.tracked (fun st => api.amqp_exchange_delete st c exchange if_unused) (.request c)
  amqp_basic_publish s c exchange key mandatory immediate props body :=
    s.tracked (fun st => api.amqp_basic_publish st c exchange key mandatory immediate props body)
      (.send c)
  amqp_basic_ack s c tag multiple :=
    s.tracked (fun st => api.amqp_basic_ack st c tag multiple) (.send c)
  amqp_basic_reject s c tag multiple :=
    s.tracked (fun st => api.amqp_basic_reject st c tag multiple) (.send c)
  amqp_basic_consume s c queue tag no_local no_ack exclusive table :=
    s.tracked (fun st => api.amqp_basic_consume st c queue tag no_local no_ack exclusive table)
      fun r => .request c r.2
  amqp_basic_qos s c size count global :=
    s.tracked (fun st => api.amqp_basic_qos st c size count global) (.request c)
  amqp_channel_flow s c active :=
    s.tracked (fun st => api.amqp_channel_flow st c active) (.request c)
  amqp_basic_recover s c requeue :=
    s.tracked (fun st => api.amqp_basic_recover st c requeue) (.request c)
  strerror := api.strerror

/-- What a program that uses the extension runs with. -/
structure Client (σ κ : Type) where
  lib : RabbitMQC σ
  api : RabbitMQApi σ
  init : ConnectionInit
  python : Interpreter
  bytesAvailable : Nat → Bool
  fresh : Nat → UInt8
  invoke : κ → Message → Connection (Handles σ) κ → Connection (Handles σ) κ × Option PyErr

/-- The extension runs on the library with its calls noted. -/
def Client.env (x : Client σ κ) : Env (Handles σ) κ :=
  ⟨x.lib.tracked, x.python, x.bytesAvailable, x.fresh, x.invoke⟩

/-! ## What the error handlers call

A handler that meets a `channel.close` answers it and opens the channel again,
and the reply to the open goes to the handler, as one on channel 0. -/

/-- How a handler ends: nothing to do, a `ChannelError` on a connection that stays,
a `ConnectionError` on a connection that is closed, or not at all. -/
inductive Ending where
  | normal
  | channelError
  | closed
  | hung
  deriving DecidableEq

/-- The ending of a handler around one that reopened the channel. -/
def Ending.raised : Ending → Ending
  | .normal => .channelError
  | ending => ending

/-- The reply is neither normal nor a `channel.close`. -/
def amqp_rpc_reply_t.IsFailure : amqp_rpc_reply_t → Prop
  | .normal _ => False
  | .server_exception (.channel_close _) => False
  | _ => True

/-- The calls of `Connection._close`. -/
def closing (connected : Bool) : List Event :=
  if connected then [.amqp_connection_close, .amqp_destroy_connection] else []

/-- The calls of `PyRabbitMQ_HandleAMQError` for a reply on a channel. -/
inductive Handled (connected : Bool) : amqp_channel_t → amqp_rpc_reply_t → List Event → Ending → Prop
  | cut {c : amqp_channel_t} {reply : amqp_rpc_reply_t} : Handled connected c reply [] .hung
  | normal {c : amqp_channel_t} {m : amqp_method_t} : Handled connected c (.normal m) [] .normal
  | failed {c : amqp_channel_t} {reply : amqp_rpc_reply_t} : reply.IsFailure →
      Handled connected c reply (closing connected) .closed
  | unsent {c : amqp_channel_t} {m : amqp_close_t} {status : Int} : status < 0 →
      Handled connected c (.server_exception (.channel_close m))
        (.amqp_send_close_ok c status :: closing connected) .closed
  | sent {c : amqp_channel_t} {m : amqp_close_t} {status : Int} : 0 ≤ status →
      Handled connected c (.server_exception (.channel_close m)) [.amqp_send_close_ok c status] .hung
  | reopened {c : amqp_channel_t} {m : amqp_close_t} {status : Int} {reply : amqp_rpc_reply_t}
      {events : List Event} {ending : Ending} : 0 ≤ status →
      Handled connected 0 reply events ending →
      Handled connected c (.server_exception (.channel_close m))
        (.amqp_send_close_ok c status :: .amqp_channel_open c reply :: events) ending.raised

/-- The calls of `PyRabbitMQ_revive_channel`. -/
inductive Revived (connected : Bool) (c : amqp_channel_t) : List Event → Ending → Prop
  | cut : Revived connected c [] .hung
  | unsent {status : Int} : status < 0 →
      Revived connected c (.amqp_send_close_ok c status :: closing connected) .closed
  | sent {status : Int} : 0 ≤ status → Revived connected c [.amqp_send_close_ok c status] .hung
  | reopened {status : Int} {reply : amqp_rpc_reply_t} {events : List Event} {ending : Ending} :
      0 ≤ status → Handled connected 0 reply events ending →
      Revived connected c
        (.amqp_send_close_ok c status :: .amqp_channel_open c reply :: events) ending

/-- The calls of `PyRabbitMQ_Connection_create_channel`. -/
inductive Created (connected : Bool) (c : amqp_channel_t) : List Event → Ending → Prop
  | cut : Created connected c [] .hung
  | opened {reply : amqp_rpc_reply_t} {events : List Event} {ending : Ending} :
      Handled connected 0 reply events ending →
      Created connected c (.amqp_channel_open c reply :: events) ending

theorem Revived.of_created {connected : Bool} {c : amqp_channel_t} {status : Int}
    {events : List Event} {ending : Ending} (hs : 0 ≤ status)
    (h : Created connected c events ending) :
    Revived connected c (.amqp_send_close_ok c status :: events) ending := by
  cases h with
  | cut => exact .sent hs
  | opened hh => exact .reopened hs hh

theorem Revived.handled {connected : Bool} {c : amqp_channel_t} {events : List Event}
    {ending : Ending} (h : Revived connected c events ending) (m : amqp_close_t) :
    Handled connected c (.server_exception (.channel_close m)) events ending.raised := by
  cases h with
  | cut => exact .cut
  | unsent hs => exact .unsent hs
  | sent hs => exact .sent hs
  | reopened hs hh => exact .reopened hs hh

/-- A handler of a `channel.close` revives the channel. -/
theorem Handled.revived {connected : Bool} {c : amqp_channel_t} {m : amqp_close_t}
    {events : List Event} {ending : Ending}
    (h : Handled connected c (.server_exception (.channel_close m)) events ending) :
    ∃ inner, Revived connected c events inner ∧ ending = inner.raised := by
  cases h with
  | cut => exact ⟨.hung, .cut, rfl⟩
  | failed hf => exact hf.elim
  | unsent hs => exact ⟨.closed, .unsent hs, rfl⟩
  | sent hs => exact ⟨.hung, .sent hs, rfl⟩
  | reopened hs hh => exact ⟨_, .reopened hs hh, rfl⟩

/-- Only a normal reply is no error. -/
theorem handled_normal {connected : Bool} {c : amqp_channel_t} {reply : amqp_rpc_reply_t}
    {events : List Event} (h : Handled connected c reply events .normal) :
    ∃ m, reply = .normal m := by
  generalize he : Ending.normal = ending at h
  cases h with
  | normal => exact ⟨_, rfl⟩
  | @reopened c m status reply events ending hs hh => cases ending <;> cases he
  | _ => cases he

/-- The connection after calls on its handle that end a handler. -/
def Connection.after (self : Connection (Handles σ) κ) (events : List Event) (ending : Ending)
    (st : σ) : Connection (Handles σ) κ :=
  { self with
    conn := self.conn.note events st
    connected := self.connected && !decide (ending = .closed)
    sockfd := if self.connected && decide (ending = .closed) then 0 else self.sockfd }

/-- The exception of a class is pending. -/
def World.Raises (w : World σ κ) (c : ExcClass) : Prop := ∃ e, w.err = some e ∧ e.cls = c

/-- What a handler returns. -/
def Ending.Returns : Ending → Outcome Int → Prop
  | .normal, o => o = .ret 0
  | .hung, o => o = .hang
  | _, o => ∃ n, n ≠ 0 ∧ o = .ret n

/-- The exception behind a handler that started in the world `w`. -/
def Ending.Leaves (w w' : World σ κ) : Ending → Prop
  | .normal => w'.err = w.err
  | .channelError => w'.Raises .ChannelError
  | .closed => w'.Raises .ConnectionError
  | .hung => True

/-- A handler's run: the calls, the ending, and the pending exception. -/
structure Ran (w : World (Handles σ) κ) (r : Outcome Int × World (Handles σ) κ)
    (events : List Event) (ending : Ending) : Prop where
  after : ∃ st, r.2.self = w.self.after events ending st
  returns : ending.Returns r.1
  leaves : ending.Leaves w r.2

/-- A handler that returns 0 had nothing to do. -/
theorem Ran.normal {w w' : World (Handles σ) κ} {events : List Event} {ending : Ending}
    (h : Ran w (.ret 0, w') events ending) : ending = .normal := by
  have hreturns := h.returns
  cases ending with
  | normal => rfl
  | channelError =>
    obtain ⟨n, hn, he⟩ := hreturns
    cases he
    exact absurd rfl hn
  | closed =>
    obtain ⟨n, hn, he⟩ := hreturns
    cases he
    exact absurd rfl hn
  | hung => cases hreturns

/-! ## The runs of the error handlers -/

@[simp] theorem after_nil (self : Connection (Handles σ) κ) :
    self.after [] .normal self.conn.state = self := by
  simp [Connection.after]

/-- The calls of a handler go on where a first row of calls ended. -/
theorem after_note (self : Connection (Handles σ) κ) (es events : List Event) (ending : Ending)
    (st st' : σ) : Connection.after { self with conn := self.conn.note es st' } events ending st =
      self.after (es ++ events) ending st := by
  simp [Connection.after]

/-- A handler that stays out of its fuel. -/
theorem ran_cut {w : World (Handles σ) κ} : Ran w (.hang, w) [] .hung :=
  ⟨⟨w.self.conn.state, by simp [Connection.after]⟩, rfl, trivial⟩

theorem ran_normal {w : World (Handles σ) κ} : Ran w (.ret 0, w) [] .normal :=
  ⟨⟨w.self.conn.state, (after_nil w.self).symm⟩, rfl, rfl⟩

/-- A handler after a first row of calls. -/
theorem Ran.prepend {w : World (Handles σ) κ} {r : Outcome Int × World (Handles σ) κ}
    {es events : List Event} {ending : Ending} {st : σ}
    (h : Ran (w.setConn (w.self.conn.note es st)) r events ending) :
    Ran w r (es ++ events) ending := by
  obtain ⟨⟨st', hself⟩, hresult, herr⟩ := h
  refine ⟨⟨st', ?_⟩, hresult, ?_⟩
  · rw [hself, ← after_note w.self es events ending st' st]
    rfl
  · cases ending with
    | normal => exact herr
    | channelError => exact herr
    | closed => exact herr
    | hung => exact herr

theorem closed_self (x : Client σ κ) (w : World (Handles σ) κ) :
    ∃ st, (w.closed x.env).self = w.self.after (closing w.self.connected) .closed st := by
  cases hc : w.self.connected with
  | true =>
    refine ⟨x.lib.amqp_connection_close w.self.conn.state, ?_⟩
    unfold World.closed
    rw [if_pos hc]
    simp [Connection.after, closing, hc, Client.env, RabbitMQC.tracked]
  | false =>
    refine ⟨w.self.conn.state, ?_⟩
    unfold World.closed
    rw [if_neg (by simp [hc])]
    unfold Connection.after closing
    rw [hc, if_neg Bool.false_ne_true, Handles.note_nil, Bool.false_and,
      if_neg (by simp), ← hc]

/-- A handler that sets a `ConnectionError` and closes the connection. -/
theorem ran_closed (x : Client σ κ) (w : World (Handles σ) κ) (e : PyErr)
    (he : e.cls = .ConnectionError) {n : Int} (hn : n ≠ 0) :
    Ran w (.ret n, (w.setErr (some e)).closed x.env) (closing w.self.connected) .closed := by
  exact ⟨closed_self x (w.setErr (some e)), ⟨n, hn, rfl⟩, e, World.closed_err x.env _, he⟩

/-- How `PyRabbitMQ_HandleAMQError` ends when it has set a `ChannelError` and
revived the channel. -/
theorem Ran.raised {w : World (Handles σ) κ} {e : PyErr} (he : e.cls = .ChannelError)
    {revive : Run (World (Handles σ) κ) Int} {events : List Event} {ending : Ending}
    (h : Ran (w.setErr (some e)) (revive (w.setErr (some e))) events ending) :
    Ran w ((do
      PyErr_SetString e
      let _ ← revive
      return PYRABBITMQ_CHANNEL_ERROR) w) events ending.raised := by
  obtain ⟨⟨st, hself⟩, hresult, herr⟩ := h
  rw [PyErr_SetString_bind]
  rcases hr : revive (w.setErr (some e)) with ⟨o, w1⟩
  rw [hr] at hself hresult herr
  cases ending with
  | normal =>
    cases hresult
    rw [Run.bind_ret hr]
    exact ⟨⟨st, hself⟩, ⟨PYRABBITMQ_CHANNEL_ERROR, by decide, rfl⟩, e, herr, he⟩
  | channelError =>
    obtain ⟨n, _, rfl⟩ := hresult
    rw [Run.bind_ret hr]
    exact ⟨⟨st, hself⟩, ⟨PYRABBITMQ_CHANNEL_ERROR, by decide, rfl⟩, herr⟩
  | closed =>
    obtain ⟨n, _, rfl⟩ := hresult
    rw [Run.bind_ret hr]
    exact ⟨⟨st, hself⟩, ⟨PYRABBITMQ_CHANNEL_ERROR, by decide, rfl⟩, herr⟩
  | hung =>
    cases hresult
    rw [Run.bind_hang hr]
    exact ⟨⟨st, hself⟩, rfl, trivial⟩

/-- A call of the library is noted. -/
theorem onConn_tracked {α : Type} {f : σ → α × σ} {event : α → Event} {w : World (Handles σ) κ}
    {a : α} {st : σ} (h : f w.self.conn.state = (a, st)) :
    onConn (fun s => s.tracked f event) w =
      (.ret a, w.setConn (w.self.conn.note [event a] st)) := by
  simp [onConn, Handles.tracked, h]

/-- The runs of the three functions that call each other, at every depth of the
recursion. -/
theorem handlers_ran (x : Client σ κ) (fuel : Nat) :
    (∀ channel reply context (w : World (Handles σ) κ), ∃ events ending,
      Handled w.self.connected channel.toUInt16 reply events ending ∧
        Ran w (PyRabbitMQ_HandleAMQError x.env fuel channel reply context w) events ending) ∧
    (∀ channel (w : World (Handles σ) κ), ∃ events ending,
      Revived w.self.connected channel.toUInt16 events ending ∧
        Ran w (PyRabbitMQ_revive_channel x.env fuel channel w) events ending) ∧
    (∀ channel (w : World (Handles σ) κ), ∃ events ending,
      Created w.self.connected channel.toUInt16 events ending ∧
        Ran w (PyRabbitMQ_Connection_create_channel x.env fuel channel w) events ending) := by
  induction fuel with
  | zero =>
    refine ⟨fun _ _ _ w => ⟨[], .hung, .cut, ?_⟩, fun _ w => ⟨[], .hung, .cut, ?_⟩,
      fun _ w => ⟨[], .hung, .cut, ?_⟩⟩
    · unfold PyRabbitMQ_HandleAMQError
      exact ran_cut
    · unfold PyRabbitMQ_revive_channel
      exact ran_cut
    · unfold PyRabbitMQ_Connection_create_channel
      exact ran_cut
  | succ fuel ih =>
    obtain ⟨hhandle, hrevive, hcreate⟩ := ih
    refine ⟨fun channel reply context w => ?_, fun channel w => ?_, fun channel w => ?_⟩
    · unfold PyRabbitMQ_HandleAMQError
      have hconnerror : ∀ e : PyErr, e.cls = .ConnectionError → reply.IsFailure →
          ∃ events ending, Handled w.self.connected channel.toUInt16 reply events ending ∧
            Ran w ((do
              PyErr_SetString e
              PyRabbitMQ_Connection_close x.env
              return PYRABBITMQ_CONNECTION_ERROR : Run (World (Handles σ) κ) Int) w)
              events ending := fun e he hf =>
        ⟨_, .closed, .failed hf, ran_closed x w e he (by decide)⟩
      cases reply with
      | normal m => exact ⟨[], .normal, .normal, ran_normal⟩
      | none => exact hconnerror _ rfl trivial
      | library_exception n => exact hconnerror _ rfl trivial
      | server_exception m =>
        cases m with
        | channel_close m =>
          obtain ⟨events, ending, hr, hran⟩ := hrevive channel (w.setErr (some _))
          exact ⟨events, ending.raised, hr.handled m, hran.raised rfl⟩
        | connection_close m => exact hconnerror _ rfl trivial
        | basic_deliver m => exact hconnerror _ rfl trivial
        | basic_get_ok m => exact hconnerror _ rfl trivial
        | other id => exact hconnerror _ rfl trivial
    · unfold PyRabbitMQ_revive_channel
      rcases hs : x.lib.amqp_send_close_ok w.self.conn.state channel.toUInt16 with ⟨status, st⟩
      have hsend : onConn (fun s => x.env.lib.amqp_send_close_ok s channel.toUInt16) w =
          (.ret status, w.setConn (w.self.conn.note [.amqp_send_close_ok channel.toUInt16 status] st)) :=
        onConn_tracked hs
      rw [Run.bind_ret hsend]
      split
      · rename_i hneg
        exact ⟨_, .closed, .unsent hneg,
          (ran_closed x (w.setConn (w.self.conn.note [_] st)) _ rfl (by decide)).prepend⟩
      · rename_i hneg
        obtain ⟨events, ending, hc, hran⟩ := hcreate channel (w.setConn (w.self.conn.note [_] st))
        exact ⟨_, ending, .of_created (Int.not_lt.mp hneg) hc, hran.prepend⟩
    · unfold PyRabbitMQ_Connection_create_channel
      rcases hs : x.lib.amqp_channel_open w.self.conn.state channel.toUInt16 with ⟨reply, st⟩
      have hopen : onConn (fun s => x.env.lib.amqp_channel_open s channel.toUInt16) w =
          (.ret reply, w.setConn (w.self.conn.note [.amqp_channel_open channel.toUInt16 reply] st)) :=
        onConn_tracked hs
      rw [Run.bind_ret hopen]
      obtain ⟨events, ending, hh, hran⟩ :=
        hhandle 0 reply "Couldn't create channel" (w.setConn (w.self.conn.note [_] st))
      exact ⟨_, ending, .opened hh, hran.prepend⟩

/-! ## A library that always answers alike -/

/-- What each function answers. -/
structure Answers where
  wait : ReadResult := .blocked
  send_close_ok : Int := 0
  /-- `channel.open-ok`. -/
  channel_open : amqp_rpc_reply_t := .normal (.other 0x0014000B)
  /-- `channel.close-ok`. -/
  channel_close : amqp_rpc_reply_t := .normal (.other 0x00140029)
  request : amqp_rpc_reply_t := .normal (.other 0)
  send : Int := 0
  socket : Bool := true
  socket_open : Int := 0
  sockfd : Int := 3
  login : amqp_rpc_reply_t := .normal (.other 0)
  channel_max : Int := 0xffff

namespace Answers

def lib (a : Answers) : RabbitMQC Unit where
  amqp_simple_wait_frame _ := (a.wait, ())
  amqp_simple_wait_frame_on_channel _ _ := (a.wait, ())
  amqp_data_in_buffer _ := false
  amqp_frames_enqueued _ := false
  select _ _ := (⟨1, true, 0⟩, ())
  amqp_send_close_ok _ _ := (a.send_close_ok, ())
  amqp_channel_open _ _ := (a.channel_open, ())
  amqp_channel_close _ _ := (a.channel_close, ())
  amqp_basic_cancel _ _ _ := (a.request, ())
  amqp_basic_get _ _ _ _ := (a.request, ())
  amqp_connection_close _ := ()
  amqp_error_string2 _ := []

def api (a : Answers) : RabbitMQApi Unit where
  amqp_new_connection _ := ()
  amqp_tcp_socket_new _ := (a.socket, ())
  amqp_socket_open _ _ _ := (a.socket_open, ())
  amqp_socket_open_noblock _ _ _ _ := (a.socket_open, ())
  amqp_socket_get_sockfd _ := (a.sockfd, ())
  amqp_login _ _ _ _ _ _ _ := (a.login, ())
  amqp_login_with_properties _ _ _ _ _ _ _ _ := (a.login, ())
  channel_max _ := a.channel_max
  frame_max _ := 131072
  heartbeat _ := 0
  amqp_get_server_properties _ := (amqp_empty_table, ())
  amqp_get_or_create_channel_pool _ _ := (true, ())
  amqp_queue_bind _ _ _ _ _ _ := (a.request, ())
  amqp_queue_unbind _ _ _ _ _ _ := (a.request, ())
  amqp_queue_delete _ _ _ _ _ := ((none, a.request), ())
  amqp_queue_declare _ _ _ _ _ _ _ _ := ((none, a.request), ())
  amqp_queue_purge _ _ _ := ((none, a.request), ())
  amqp_exchange_declare _ _ _ _ _ _ _ := (a.request, ())
  amqp_exchange_delete _ _ _ _ := (a.request, ())
  amqp_basic_publish _ _ _ _ _ _ _ _ := (a.send, ())
  amqp_basic_ack _ _ _ _ := (a.send, ())
  amqp_basic_reject _ _ _ _ := (a.send, ())
  amqp_basic_consume _ _ _ _ _ _ _ _ := ((none, a.request), ())
  amqp_basic_qos _ _ _ _ _ := (a.request, ())
  amqp_channel_flow _ _ _ := (a.request, ())
  amqp_basic_recover _ _ _ := (a.request, ())
  strerror _ := []

/-- A program with no client properties whose callbacks do nothing. -/
def client (a : Answers) : Client Unit Unit :=
  ⟨a.lib, a.api, ⟨[], 5672, [], [], [], none, 0⟩, .lenient, fun _ => true, fun _ => 0,
    fun _ _ self => (self, none)⟩

end Answers

/-- The world of a `Connection` that has never been connected. -/
def World.new (st : σ) (channel_max : Int := 0xffff) (frame_max : Int := 131072)
    (heartbeat : Int := 0) : World (Handles σ) κ where
  self :=
    { conn := ⟨0, 0, st, []⟩
      connected := false
      sockfd := 0
      callbacks := []
      channels := []
      objects := fun _ => ⟨0, false, []⟩
      _used_channel_ids := []
      channel_max := channel_max
      frame_max := frame_max
      heartbeat := heartbeat }
  err := none
  reads := []
  calls := []
  stores := []

/-- The world behind a `connect` of it. -/
def World.online (st : σ) : World (Handles σ) κ :=
  { World.new st with self := { (World.new st : World (Handles σ) κ).self with
    conn := ⟨1, 1, st, [⟨1, .amqp_new_connection⟩]⟩
    connected := true
    sockfd := 3 } }

end librabbitmq
