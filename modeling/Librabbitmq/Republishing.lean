-- `Channel.basic_publish`, and a message that was got and is published again: if it goes out, its
-- octets do as they came, and its properties do if they are carried.
import Librabbitmq.Forwarding
import Librabbitmq.IntegerArguments
import Librabbitmq.Isolation

namespace librabbitmq

variable {σ κ : Type}

/-! ## `Channel.basic_publish` -/

/-- `s#` of `PyArg_ParseTuple`: the octets of a `bytes`, or of a `str` in UTF-8. A memoryview has
a `bf_releasebuffer`, and is refused like an object without octets. -/
def parseBuffer : MessageBody → Except PyErr Octets
  | .obj (.str s) => match utf8Encode s with
    | some b => .ok b
    | none => .error (.raised .UnicodeEncodeError)
  | .obj (.bytes b) => .ok b
  | _ => .error (.raised .TypeError)

/-- `PyDict_GetItemString` finds nothing in an object that is no dict. -/
def PyObj.members : PyObj → PyMembers
  | .dict p => p
  | _ => []

/-- The first argument of `Channel.basic_publish`. -/
inductive PublishBody where
  | body (b : MessageBody)
  | message (m : Message)

/-- The body and the properties that are published. A tuple is unpacked. -/
def publishArgs (body : PublishBody) (properties : PyMembers) :
    Except PyErr (MessageBody × PyObj) :=
  match body with
  | .body (.obj (.tuple [body, properties])) => .ok (.obj body, properties)
  | .body (.obj (.tuple _)) => .error (.raised .ValueError)
  | .body body => .ok (body, .dict properties)
  | .message m => .ok (m.body, m.properties)

/-- `Connection._basic_publish`, with the body that Python gives it. -/
def PyRabbitMQ_Connection_basic_publish.parsed (env : Env σ κ) (api : RabbitMQApi σ) (fuel : Nat)
    (channel : Int) (body : MessageBody) (exchange routing_key propdict : PyObj)
    (mandatory immediate : Bool) : Run (World σ κ) (Option PyObj) := do
  if ← PyRabbitMQ_Not_Connected then return none
  match parseBuffer body with
  | .error e =>
    PyErr_SetString e
    return none
  | .ok body =>
    PyRabbitMQ_Connection_basic_publish env api fuel channel body exchange routing_key
      propdict.members mandatory immediate

def Channel.basic_publish (env : Env σ κ) (api : RabbitMQApi σ) (fuel : Nat) (self : Nat)
    (body : PublishBody) (exchange routing_key : PyObj) (mandatory immediate : Bool)
    (properties : PyMembers) : Run (World σ κ) (Except PyErr PyObj) := do
  let w ← Run.get
  match publishArgs body properties with
  | .error e => return .error e
  | .ok (body, properties) =>
    fromPython (PyRabbitMQ_Connection_basic_publish.parsed env api fuel
      (w.self.objects self).channel_id body exchange routing_key properties mandatory immediate)

namespace republishing

open basic_get consume_and_get recv_run delivery drain sending forwarding integer_arguments
open string_arguments

/-! ## What is published -/

/-- A `basic.publish`, with its properties and its body. -/
structure Publication where
  channel : amqp_channel_t
  exchange : Octets
  routing_key : Octets
  mandatory : Bool
  immediate : Bool
  properties : amqp_basic_properties_t
  body : Octets

/-- What is assumed of rabbitmq-c: it takes every `basic.publish`, and `published` are those that
it took. A pool is none of them. -/
structure Publishes (api : RabbitMQApi σ) (published : σ → List Publication) : Prop where
  taken : ∀ s c exchange routing_key mandatory immediate props body,
    0 ≤ (api.amqp_basic_publish s c exchange routing_key mandatory immediate props body).1
  appended : ∀ s c exchange routing_key mandatory immediate props body,
    published (api.amqp_basic_publish s c exchange routing_key mandatory immediate props body).2 =
      published s ++ [⟨c, exchange, routing_key, mandatory, immediate, props, body⟩]
  pool : ∀ s c, published (api.amqp_get_or_create_channel_pool s c).2 = published s

/-- A `Channel` of a connection that is up, from which an application publishes. -/
structure Publisher (σ κ : Type) where
  env : Env σ κ
  api : RabbitMQApi σ
  published : σ → List Publication
  world : World σ κ
  self : Nat
  publishes : Publishes api published
  connected : world.self.connected = true
  noError : world.err = none

namespace Publisher

variable (p : Publisher σ κ)

/-- The number under which the `Channel` publishes. -/
def channel : amqp_channel_t := channelNumber (p.world.self.objects p.self).channel_id

/-- `Channel.basic_publish` with a `Message`, whose own properties go before those of the call. -/
def publish (fuel : Nat) (m : Message) (exchange routing_key : PyObj) (mandatory immediate : Bool)
    (properties : PyMembers) : Outcome (Except PyErr PyObj) × World σ κ :=
  Channel.basic_publish p.env p.api fuel p.self (.message m) exchange routing_key mandatory
    immediate properties p.world

/-- The message goes out with these octets, and with properties that are on the wire what `props`
were there. -/
def Republishes (m : Message) (props : amqp_basic_properties_t) (octets : Octets) (fuel : Nat)
    (exchange routing_key : PyObj) (exchange_name key : Octets) (mandatory immediate : Bool)
    (properties : PyMembers) : Prop :=
  ∃ w' sent,
    p.publish fuel m exchange routing_key mandatory immediate properties =
      (.ret (.ok .none), w') ∧
    p.published w'.self.conn = p.published p.world.self.conn ++
      [⟨p.channel, exchange_name, key, mandatory, immediate, sent, octets⟩] ∧
    SameOnWire props sent

/-- The message goes out with these octets, under some properties, or the call does not return
and nothing goes out. -/
def SendsOctetsOrNothing (m : Message) (octets : Octets) (fuel : Nat)
    (exchange routing_key : PyObj) (exchange_name key : Octets) (mandatory immediate : Bool)
    (properties : PyMembers) : Prop :=
  (∃ w' sent,
    p.publish fuel m exchange routing_key mandatory immediate properties =
      (.ret (.ok .none), w') ∧
    p.published w'.self.conn = p.published p.world.self.conn ++
      [⟨p.channel, exchange_name, key, mandatory, immediate, sent, octets⟩]) ∨
  ∃ o w', p.publish fuel m exchange routing_key mandatory immediate properties = (o, w') ∧
    (∀ v, o ≠ .ret (.ok v)) ∧ p.published w'.self.conn = p.published p.world.self.conn

end Publisher

/-! ## A message with octets -/

section

variable {p : Publisher σ κ} {m : Message} {pd : PyMembers} {body : PyObj} {octets : Octets}
  {fuel : Nat} {exchange routing_key : PyObj} {exchange_name key : Octets}
  {mandatory immediate : Bool} {properties : PyMembers}

theorem parseBuffer_of_octets (h : octetsOf body = some octets) :
    parseBuffer (.obj body) = .ok octets := by
  cases body with
  | str s =>
    have hs : utf8Encode s = some octets := h
    unfold parseBuffer
    dsimp only
    rw [hs]
  | bytes b =>
    cases h
    rfl
  | _ => cases h

/-- The extension gets the octets and the properties of the message. -/
theorem publish_of_octets (hprops : m.properties = .dict pd) (hbody : m.body = .obj body)
    (hoctets : octetsOf body = some octets) :
    p.publish fuel m exchange routing_key mandatory immediate properties =
      fromPython (PyRabbitMQ_Connection_basic_publish p.env p.api fuel
        (p.world.self.objects p.self).channel_id octets exchange routing_key pd mandatory
        immediate) p.world := by
  have hparsed : PyRabbitMQ_Connection_basic_publish.parsed p.env p.api fuel
      (p.world.self.objects p.self).channel_id m.body exchange routing_key m.properties mandatory
      immediate p.world = PyRabbitMQ_Connection_basic_publish p.env p.api fuel
      (p.world.self.objects p.self).channel_id octets exchange routing_key pd mandatory immediate
      p.world := by
    unfold PyRabbitMQ_Connection_basic_publish.parsed
    rw [connected_bind p.connected, hbody, parseBuffer_of_octets hoctets, hprops]
    rfl
  unfold Publisher.publish Channel.basic_publish
  rw [Run.get_bind_apply]
  unfold publishArgs
  dsimp only
  unfold fromPython
  rw [Run.bind_apply, Run.bind_apply, hparsed]

/-- Properties that convert go out, with the octets. -/
theorem publish_sends (hprops : m.properties = .dict pd) (hbody : m.body = .obj body)
    (hoctets : octetsOf body = some octets) (hexchange : IsName exchange exchange_name)
    (hkey : IsName routing_key key) {sent : amqp_basic_properties_t}
    (hsent : PyDict_to_basic_properties pd none = .ret (some sent, none)) : ∃ w',
      p.publish fuel m exchange routing_key mandatory immediate properties =
        (.ret (.ok .none), w') ∧
      p.published w'.self.conn = p.published p.world.self.conn ++
        [⟨p.channel, exchange_name, key, mandatory, immediate, sent, octets⟩] := by
  rw [publish_of_octets hprops hbody hoctets]
  have hpool := p.publishes.pool p.world.self.conn p.channel
  rcases hconn : p.api.amqp_get_or_create_channel_pool p.world.self.conn p.channel with
    ⟨found, s⟩
  rw [hconn] at hpool
  have htaken := p.publishes.taken s p.channel exchange_name key mandatory immediate sent octets
  have hposted :=
    p.publishes.appended s p.channel exchange_name key mandatory immediate sent octets
  rcases hs : p.api.amqp_basic_publish s p.channel exchange_name key mandatory immediate sent
    octets with ⟨status, s'⟩
  rw [hs] at htaken hposted
  have hrun : PyRabbitMQ_Connection_basic_publish p.env p.api fuel
      (p.world.self.objects p.self).channel_id octets exchange routing_key pd mandatory immediate
      p.world = (.ret (some .none), ((p.world.setConn s).setErr none).setConn s') := by
    rw [publish_of_names p.connected p.noError hexchange hkey hsent, ← Publisher.channel, hconn]
    exact sendMethod_sent hs (Int.not_lt.mpr htaken)
  refine ⟨_, from_python_ok hrun rfl, ?_⟩
  rw [← hpool]
  exact hposted

/-- The message goes out with its octets, and with what its properties are encoded to. -/
theorem republishes_iff (hprops : m.properties = .dict pd) (hbody : m.body = .obj body)
    (hoctets : octetsOf body = some octets) (hexchange : IsName exchange exchange_name)
    (hkey : IsName routing_key key) (props : amqp_basic_properties_t) :
    p.Republishes m props octets fuel exchange routing_key exchange_name key mandatory immediate
        properties ↔
      ∃ sent, PyDict_to_basic_properties pd none = .ret (some sent, none) ∧
        SameOnWire props sent := by
  constructor
  · rintro ⟨w', sent, hrun, hpublished, hsame⟩
    rw [publish_of_octets hprops hbody hoctets] at hrun
    obtain ⟨props', name', key', hsent, hconn⟩ := publish_returns p.connected p.noError hrun
    rw [hconn, p.publishes.appended, p.publishes.pool] at hpublished
    have hlast := List.append_cancel_left hpublished
    cases hlast
    exact ⟨sent, hsent, hsame⟩
  · rintro ⟨sent, hsent, hsame⟩
    obtain ⟨w', hrun, hpublished⟩ := publish_sends hprops hbody hoctets hexchange hkey hsent
    exact ⟨w', sent, hrun, hpublished, hsame⟩

/-- Behind the names and the pool the properties are converted, and nothing more is done where
that gives NULL. -/
theorem publish_converts (hexchange : IsName exchange exchange_name)
    (hkey : IsName routing_key key) {found : Bool} {s : σ}
    (hconn : p.api.amqp_get_or_create_channel_pool p.world.self.conn p.channel = (found, s)) :
    ∃ send : Option amqp_basic_properties_t → Run (World σ κ) (Option PyObj),
      (∀ w, send none w = (.ret none, w)) ∧
      PyRabbitMQ_Connection_basic_publish p.env p.api fuel
          (p.world.self.objects p.self).channel_id octets exchange routing_key pd mandatory
          immediate p.world =
        (withErr (PyDict_to_basic_properties pd) >>= send) (p.world.setConn s) := by
  have hnames := maybeUnicodes_of_names (.cons hexchange (.cons hkey .nil)) p.noError
  have hcall : onConn (fun s => p.api.amqp_get_or_create_channel_pool s
      (channelNumber (p.world.self.objects p.self).channel_id)) p.world =
        (.ret found, p.world.setConn s) := onConn_ret hconn
  unfold PyRabbitMQ_Connection_basic_publish
  rw [connected_bind p.connected, Run.bind_ret hnames]
  exact ⟨_, fun _ => rfl, Run.bind_ret hcall⟩

/-- Properties that do not convert do not go out. -/
theorem publish_refused (hprops : m.properties = .dict pd) (hbody : m.body = .obj body)
    (hoctets : octetsOf body = some octets) (hexchange : IsName exchange exchange_name)
    (hkey : IsName routing_key key)
    (hrefused : ∀ sent err, PyDict_to_basic_properties pd none ≠ .ret (some sent, err)) :
    ∃ o w', p.publish fuel m exchange routing_key mandatory immediate properties = (o, w') ∧
      (∀ v, o ≠ .ret (.ok v)) ∧ p.published w'.self.conn = p.published p.world.self.conn := by
  rw [publish_of_octets hprops hbody hoctets]
  have hpool := p.publishes.pool p.world.self.conn p.channel
  rcases hconn : p.api.amqp_get_or_create_channel_pool p.world.self.conn p.channel with
    ⟨found, s⟩
  rw [hconn] at hpool
  have herr : (p.world.setConn s).err = none := p.noError
  obtain ⟨send, hnull, hconverts⟩ := publish_converts hexchange hkey hconn
  rcases properties_end pd with ⟨_, hcrash⟩ | ⟨_, _, err, hnone⟩ | ⟨_, _, props, err, hsome⟩
  · have hconverted : withErr (PyDict_to_basic_properties pd) (p.world.setConn s) =
        (.crash, p.world.setConn s) := by simp [withErr, herr, hcrash]
    refine ⟨.crash, p.world.setConn s, ?_, fun v h => (by cases h), hpool⟩
    unfold fromPython
    rw [Run.bind_crash]
    rw [hconverts, Run.bind_crash hconverted]
  · have hconverted : withErr (PyDict_to_basic_properties pd) (p.world.setConn s) =
        (.ret none, (p.world.setConn s).setErr err) := withErr_ret (by rw [herr, hnone])
    have hrun := hconverts.trans ((Run.bind_ret hconverted).trans (hnull _))
    refine ⟨_, _, from_python_ret hrun, fun v h => ?_, hpool⟩
    obtain ⟨hret, _⟩ := checkResult_ok (Outcome.ret.inj h)
    cases hret
  · exact absurd hsome (hrefused props err)

end

/-! ## A message that was got -/

theorem republished_eq {props : amqp_basic_properties_t} {pd : PyMembers}
    (h : basic_properties_to_PyDict props [] none = .ret (pd, none)) :
    republished props = PyDict_to_basic_properties pd none := by
  unfold republished
  rw [h]
  rfl

/-- A message that `Channel.basic_get` returns in time and that is published again, from any
`Channel` of any connection, goes out with the octets that came, or the call does not return and
nothing goes out. It goes out with the properties that came exactly when they are carried. -/
theorem a_message_that_was_got_is_republished_exactly_when_it_is_carried (env : Env σ κ)
    (rows : σ → Rows) (c : amqp_channel_t) (ok : amqp_basic_get_ok_t) (x : Content)
    (queues : amqp_channel_t → List Delivery) (met later : List amqp_frame_t) (self : Nat)
    (queue : PyObj) (name : Octets) (no_ack : Bool) (w : World σ κ)
    (hlib : GetOrder env.lib rows) (hmem : ∀ n, env.bytesAvailable n = true)
    (h : Asking rows c ok x queues met later self w) (hname : IsName queue name)
    (hin : InTime rows x c ((rows w.self.conn).queued ++ met)
      (env.lib.amqp_basic_get w.self.conn c name no_ack).2) :
    ∃ k, ∀ fuel, k < fuel → ∃ w' m,
      Channel.basic_get env fuel self queue no_ack w = (.ret (.ok (some m)), w') ∧
      ∀ {τ ι : Type} (p : Publisher τ ι) fuel' exchange routing_key exchange_name key mandatory
        immediate properties, IsName exchange exchange_name → IsName routing_key key →
        p.SendsOctetsOrNothing m x.octets fuel' exchange routing_key exchange_name key mandatory
          immediate properties ∧
        (p.Republishes m x.properties x.octets fuel' exchange routing_key exchange_name key
          mandatory immediate properties ↔ PropertiesCarried x.properties) := by
  obtain ⟨k, hk⟩ := gets_of_inTime hlib hmem h hname hin env.fresh
  refine ⟨k, fun fuel hf => ?_⟩
  obtain ⟨w', m, pd, body, hrun, _, hpd, hprops, hbody, hoctets, _⟩ := hk fuel hf
  refine ⟨w', m, hrun, ?_⟩
  intro τ ι p fuel' exchange routing_key exchange_name key mandatory immediate properties hexchange
    hkey
  constructor
  · by_cases hsends : ∃ sent err, PyDict_to_basic_properties pd none = .ret (some sent, err)
    · obtain ⟨sent, err, hsent⟩ := hsends
      obtain rfl := decoded_quiet hpd hsent
      obtain ⟨w'', hpublish, hpublished⟩ := publish_sends hprops hbody hoctets hexchange hkey hsent
      exact Or.inl ⟨w'', sent, hpublish, hpublished⟩
    · exact Or.inr (publish_refused hprops hbody hoctets hexchange hkey
        fun sent err hsent => hsends ⟨sent, err, hsent⟩)
  · rw [republishes_iff hprops hbody hoctets hexchange hkey, ← republished_eq hpd]
    constructor
    · rintro ⟨sent, hsent, hsame⟩
      exact carried_of_sent hsent hsame
    · exact sent_of_carried

/-! ## A message of a callback -/

/-- A memoryview is not parsed. -/
theorem publish_of_view {p : Publisher σ κ} {m : Message} {cells : List (Option UInt8)}
    (h : m.body = .view cells) (fuel : Nat) (exchange routing_key : PyObj)
    (mandatory immediate : Bool) (properties : PyMembers) :
    p.publish fuel m exchange routing_key mandatory immediate properties =
      (.ret (.error (.raised .TypeError)), p.world) := by
  have hparsed : PyRabbitMQ_Connection_basic_publish.parsed p.env p.api fuel
      (p.world.self.objects p.self).channel_id m.body exchange routing_key m.properties mandatory
      immediate p.world = (.ret none, p.world.setErr (some (.raised .TypeError))) := by
    unfold PyRabbitMQ_Connection_basic_publish.parsed
    rw [connected_bind p.connected, h]
    rfl
  have hsame : (p.world.setErr (some (.raised .TypeError))).setErr none = p.world := by
    rw [← p.noError]
    rfl
  unfold Publisher.publish Channel.basic_publish
  rw [Run.get_bind_apply]
  unfold publishArgs
  dsimp only
  rw [from_python_ret hparsed, hsame]
  rfl

/-- A drain calls no callback, or one, with a memoryview. -/
theorem basic_recv_calls (env : Env σ κ) (fuel : Nat) (timeout : Rat) (w : World σ κ) :
    (PyRabbitMQ_Connection_basic_recv env fuel timeout w).2.calls = w.calls ∨
      ∃ call cells, call.message.body = .view cells ∧
        (PyRabbitMQ_Connection_basic_recv env fuel timeout w).2.calls = w.calls ++ [call] := by
  rcases basic_recv_log env fuel timeout w with ⟨s, _, _, hcalls⟩ | ⟨_, hcalls⟩
  · rw [hcalls]
    rcases consume_cases env fuel (w.setConn s) with
      ⟨tag, info, c, t, pd, w1, fs, cells, s1, w2, callback, obj, he, _, hafter, _, _, hrun⟩ |
      ⟨_, _, _, _, _, _, _, _, _, _, _, hkeep, _, hrun⟩ | ⟨w1, hu, hrun⟩ | hf
    · refine Or.inr ⟨⟨c.toNat, tag, callback, ⟨obj, .dict pd, .dict info, .view cells⟩⟩, cells, rfl,
        ?_⟩
      rw [hrun]
      unfold delivery.called
      rw [hafter.calls, (enters_books he).1]
      rfl
    · rw [hrun]
      exact Or.inl hkeep
    · rw [hrun]
      exact Or.inl (unexpected_books hu).1
    · exact Or.inl hf.calls
  · exact Or.inl hcalls

theorem fromPython_calls {α : Type} (x : Run (World σ κ) (Option α)) (w : World σ κ) :
    (fromPython x w).2.calls = (x w).2.calls := by
  unfold fromPython
  rw [Run.bind_apply]
  rcases x w with ⟨o, w'⟩
  cases o <;> rfl

/-- A drain hands over at most one message, and that is not published as it is: its body is a
memoryview, and `Channel.basic_publish` raises a `TypeError` with nothing sent. -/
theorem a_message_of_a_callback_is_refused (env : Env σ κ) (fuel : Nat) (timeout : Option Rat)
    (w : World σ κ) :
    (Connection.drain_events env fuel timeout w).2.calls = w.calls ∨
      ∃ call cells, call.message.body = .view cells ∧
        (Connection.drain_events env fuel timeout w).2.calls = w.calls ++ [call] ∧
        ∀ {τ ι : Type} (p : Publisher τ ι) fuel' exchange routing_key mandatory immediate
          properties,
          p.publish fuel' call.message exchange routing_key mandatory immediate properties =
            (.ret (.error (.raised .TypeError)), p.world) := by
  obtain ⟨t, hdrain⟩ : ∃ t, Connection.drain_events env fuel timeout =
      fromPython (PyRabbitMQ_Connection_basic_recv env fuel t) := ⟨_, rfl⟩
  rw [hdrain, fromPython_calls]
  rcases basic_recv_calls env fuel t w with hsame | ⟨call, cells, hbody, hone⟩
  · exact Or.inl hsame
  · refine Or.inr ⟨call, cells, hbody, hone, ?_⟩
    intro τ ι p fuel' exchange routing_key mandatory immediate properties
    exact publish_of_view hbody fuel' exchange routing_key mandatory immediate properties

/-! ## A library that takes every publish -/

/-- A library, and what it has taken. -/
structure Taking (σ : Type) where
  state : σ
  taken : List Publication

/-- A function that takes nothing. -/
def Taking.pass {α : Type} (f : σ → α × σ) (s : Taking σ) : α × Taking σ :=
  ((f s.state).1, { s with state := (f s.state).2 })

/-- The library with a `basic.publish` that goes out. -/
def takingApi (api : RabbitMQApi σ) : RabbitMQApi (Taking σ) where
  amqp_new_connection s := { s with state := api.amqp_new_connection s.state }
  amqp_tcp_socket_new := Taking.pass api.amqp_tcp_socket_new
  amqp_socket_open s host port := s.pass fun st => api.amqp_socket_open st host port
  amqp_socket_open_noblock s host port timeout :=
    s.pass fun st => api.amqp_socket_open_noblock st host port timeout
  amqp_socket_get_sockfd := Taking.pass api.amqp_socket_get_sockfd
  amqp_login s vhost channel_max frame_max heartbeat user password :=
    s.pass fun st => api.amqp_login st vhost channel_max frame_max heartbeat user password
  amqp_login_with_properties s vhost channel_max frame_max heartbeat properties user password :=
    s.pass fun st => api.amqp_login_with_properties st vhost channel_max frame_max heartbeat
      properties user password
  channel_max s := api.channel_max s.state
  frame_max s := api.frame_max s.state
  heartbeat s := api.heartbeat s.state
  amqp_get_server_properties := Taking.pass api.amqp_get_server_properties
  amqp_get_or_create_channel_pool s c :=
    s.pass fun st => api.amqp_get_or_create_channel_pool st c
  amqp_queue_bind s c queue exchange key table :=
    s.pass fun st => api.amqp_queue_bind st c queue exchange key table
  amqp_queue_unbind s c queue exchange key table :=
    s.pass fun st => api.amqp_queue_unbind st c queue exchange key table
  amqp_queue_delete s c queue if_unused if_empty :=
    s.pass fun st => api.amqp_queue_delete st c queue if_unused if_empty
  amqp_queue_declare s c queue passive durable exclusive auto_delete table :=
    s.pass fun st =>
      api.amqp_queue_declare st c queue passive durable exclusive auto_delete table
  amqp_queue_purge s c queue := s.pass fun st => api.amqp_queue_purge st c queue
  amqp_exchange_declare s c exchange type passive durable table :=
    s.pass fun st => api.amqp_exchange_declare st c exchange type passive durable table
  amqp_exchange_delete s c exchange if_unused :=
    s.pass fun st => api.amqp_exchange_delete st c exchange if_unused
  amqp_basic_publish s c exchange key mandatory immediate props body :=
    (0, ⟨(api.amqp_basic_publish s.state c exchange key mandatory immediate props body).2,
      s.taken ++ [⟨c, exchange, key, mandatory, immediate, props, body⟩]⟩)
  amqp_basic_ack s c tag multiple := s.pass fun st => api.amqp_basic_ack st c tag multiple
  amqp_basic_reject s c tag multiple := s.pass fun st => api.amqp_basic_reject st c tag multiple
  amqp_basic_consume s c queue tag no_local no_ack exclusive table :=
    s.pass fun st => api.amqp_basic_consume st c queue tag no_local no_ack exclusive table
  amqp_basic_qos s c size count global := s.pass fun st => api.amqp_basic_qos st c size count global
  amqp_channel_flow s c active := s.pass fun st => api.amqp_channel_flow st c active
  amqp_basic_recover s c requeue := s.pass fun st => api.amqp_basic_recover st c requeue
  strerror := api.strerror

def takingLib (lib : RabbitMQC σ) : RabbitMQC (Taking σ) where
  amqp_simple_wait_frame := Taking.pass lib.amqp_simple_wait_frame
  amqp_simple_wait_frame_on_channel s c :=
    s.pass fun st => lib.amqp_simple_wait_frame_on_channel st c
  amqp_data_in_buffer s := lib.amqp_data_in_buffer s.state
  amqp_frames_enqueued s := lib.amqp_frames_enqueued s.state
  select s timeout := s.pass fun st => lib.select st timeout
  amqp_send_close_ok s c := s.pass fun st => lib.amqp_send_close_ok st c
  amqp_channel_open s c := s.pass fun st => lib.amqp_channel_open st c
  amqp_channel_close s c := s.pass fun st => lib.amqp_channel_close st c
  amqp_basic_cancel s c tag := s.pass fun st => lib.amqp_basic_cancel st c tag
  amqp_basic_get s c queue no_ack := s.pass fun st => lib.amqp_basic_get st c queue no_ack
  amqp_connection_close s := { s with state := lib.amqp_connection_close s.state }
  amqp_error_string2 := lib.amqp_error_string2

theorem taking_publishes (api : RabbitMQApi σ) : Publishes (takingApi api) Taking.taken :=
  ⟨fun _ _ _ _ _ _ _ _ => le_refl _, fun _ _ _ _ _ _ _ _ => rfl, fun _ _ => rfl⟩

/-- A `Channel` of number 1. -/
def publisher : Publisher (Taking Unit) Unit where
  env := ⟨takingLib (Answers.lib {}), .lenient, fun _ => true, fun _ => 0,
    fun _ _ self => (self, none)⟩
  api := takingApi (Answers.api {})
  published := Taking.taken
  world :=
    { self :=
        { conn := ⟨(), []⟩
          connected := true
          sockfd := 3
          callbacks := [(1, [])]
          channels := [(1, 0)]
          objects := fun _ => ⟨1, true, []⟩
          _used_channel_ids := [1] }
      err := none
      reads := []
      calls := []
      stores := [] }
  self := 0
  publishes := taking_publishes _
  connected := rfl
  noError := rfl

theorem card_carried : PropertiesCarried card.properties := by
  have hkey : AreAscii [120] := List.forall_mem_singleton.mpr (by decide)
  have htype : AreAscii card.properties.content_type := by
    have hall : (card.properties.content_type.all fun x => x < 128) = true := by decide +kernel
    exact fun x hx => of_decide_eq_true (List.all_eq_true.mp hall x hx)
  have hvalue : MemberCarried (.i32 4) := by
    unfold MemberCarried
    decide
  refine ⟨rfl, fun f b hflag hb => ?_, fun _ => ⟨by decide, hkey, hvalue, trivial⟩⟩
  cases f with
  | content_type =>
    cases hb
    exact htype
  | headers => cases hb
  | _ => cases hflag

/-- A card with a content type and headers is got from among two deliveries, and published on
another connection. -/
theorem a_card_is_republished : ∃ m fuel w',
    Channel.basic_get Socket.env fuel 0 (.str []) false
      (Socket.world (answering (mixed.take 2) (mixed.drop 2)) none) =
        (.ret (.ok (some m)), w') ∧
    publisher.Republishes m card.properties [97, 98] fuel (.str []) (.str []) [] [] false false
      [] := by
  obtain ⟨k, hk⟩ := a_message_that_was_got_is_republished_exactly_when_it_is_carried Socket.env
    socketRows 1 getOk card posts [] mixed 0 (.str []) [] false _ socket_getOrder (fun _ => rfl)
    asking_card isName_empty ⟨rfl, ⟨mixed.tail.take 1, rfl⟩, by decide, by decide⟩
  obtain ⟨w', m, hrun, hgoes⟩ := hk (k + 1) (Nat.lt_succ_self k)
  exact ⟨m, k + 1, w', hrun,
    (hgoes publisher (k + 1) _ _ _ _ false false [] isName_empty isName_empty).2.mpr
      card_carried⟩

end republishing

end librabbitmq
