-- The laws of cancellation. The broker sends deliveries, their frames come in at
-- the socket, and the client cancels consumers, closes channels and drains
-- events, in any order. The callback goes before the broker is asked, so a
-- delivery that is still in flight then finds none.
import Librabbitmq.ChannelNumbers
import Librabbitmq.Demux
import Mathlib.Logic.Function.Basic
import Mathlib.Logic.Relation

namespace librabbitmq.cancellation

open mailbox body_loop recv_run delivery drain demux channel_numbers

variable {σ κ : Type} {env : Env σ κ} {pending : σ → List amqp_frame_t}
  {arrive : σ → amqp_frame_t → σ}

/-! ## The parties -/

/-- The client, and the broker: the consumers that it delivers to, and the frames
that it has sent on each channel and that have not come to the client. -/
structure Parties (σ κ : Type) where
  world : World σ κ
  consumers : List (amqp_channel_t × PyStr)
  outgoing : amqp_channel_t → List amqp_frame_t

/-- What happens: the broker sends a delivery, the next frame of a channel comes,
or a call of the client returns. -/
inductive Event where
  | deliver (c : amqp_channel_t) (d : Delivery)
  | arrive (c : amqp_channel_t)
  | basic_cancel (channelobj : Nat) (consumer_tag : PyStr)
  | close (channelobj : Nat)
  | drain_events (timeout : Option Rat) (result : Except PyErr Unit)

/-- A call returns, whenever it has enough fuel. -/
def Returns {ω α : Type} (x : Nat → Run ω α) (w : ω) (a : α) (w' : ω) : Prop :=
  ∃ k, ∀ fuel, k < fuel → x fuel w = (.ret a, w')

/-- The channel with this id has no frame on its way. -/
def Parties.Settled (p : Parties σ κ) (channel_id : Int) : Prop :=
  ∀ c : amqp_channel_t, c.toNat = channel_id → p.outgoing c = []

/-- The consumers that are left when a request was granted. -/
def granted (r : Except PyErr Unit) (stays : amqp_channel_t × PyStr → Bool)
    (consumers : List (amqp_channel_t × PyStr)) : List (amqp_channel_t × PyStr) :=
  match r with
  | .ok _ => consumers.filter stays
  | .error _ => consumers

/-- One event. The reply to a request comes behind all that the broker has sent on
its channel. A frame that comes while a call waits comes before that call. -/
inductive Step (env : Env σ κ) (arrive : σ → amqp_frame_t → σ) (p : Parties σ κ) :
    Event → Parties σ κ → Prop
  | deliver {c : amqp_channel_t} {d : Delivery} {tag : PyStr} : c ≠ 0 →
      utf8Decode d.method.consumer_tag = some tag → (c, tag) ∈ p.consumers →
      Step env arrive p (.deliver c d)
        { p with outgoing := Function.update p.outgoing c (p.outgoing c ++ d.frames c) }
  | arrive {c : amqp_channel_t} {f : amqp_frame_t} {fs : List amqp_frame_t} :
      p.outgoing c = f :: fs →
      Step env arrive p (.arrive c)
        { p with
          world := p.world.setConn (arrive p.world.self.conn f)
          outgoing := Function.update p.outgoing c fs }
  | basic_cancel {channelobj : Nat} {tag : PyStr} {r : Except PyErr Unit} {w' : World σ κ} :
      Returns (fun fuel => Channel.basic_cancel env fuel channelobj tag) p.world r w' →
      (r = .ok () → p.Settled (p.world.self.objects channelobj).channel_id) →
      Step env arrive p (.basic_cancel channelobj tag)
        { p with
          world := w'
          consumers := granted r (fun e =>
            !decide ((e.1.toNat : Int) = (p.world.self.objects channelobj).channel_id ∧ e.2 = tag))
            p.consumers }
  | close {channelobj : Nat} {r : Except PyErr Unit} {w' : World σ κ} :
      Returns (fun fuel => Channel.close env fuel channelobj) p.world r w' →
      (r = .ok () → p.Settled (p.world.self.objects channelobj).channel_id) →
      Step env arrive p (.close channelobj)
        { p with
          world := w'
          consumers := granted r (fun e =>
            !decide ((e.1.toNat : Int) = (p.world.self.objects channelobj).channel_id))
            p.consumers }
  | drain_events {timeout : Option Rat} {r : Except PyErr Unit} {w' : World σ κ} :
      Returns (fun fuel => Connection.drain_events env fuel timeout) p.world r w' →
      Step env arrive p (.drain_events timeout r) { p with world := w' }

/-! ## The law -/

/-- What is assumed of rabbitmq-c: it hands out frames in the order in which they
come, and blocks when there is none. A poll consumes no frame, and neither does a
request, which queues what it reads before its reply. -/
structure KeepsOrder (lib : RabbitMQC σ) (pending : σ → List amqp_frame_t)
    (arrive : σ → amqp_frame_t → σ) : Prop where
  order : FrameOrder lib pending
  arrive : ∀ s f, pending (arrive s f) = pending s ++ [f]
  idle : ∀ s, pending s = [] → ∃ s', lib.amqp_simple_wait_frame s = (.blocked, s')
  idleOn : ∀ s c, receive amqp_frame_t.channel c (pending s) = none →
    ∃ s', lib.amqp_simple_wait_frame_on_channel s c = (.blocked, s')
  poll : PollReady lib pending
  select : ∀ s timeout, pending (lib.select s timeout).2 = pending s
  cancel : ∀ s c tag, ∃ m s', lib.amqp_basic_cancel s c tag = (.normal m, s') ∧
    pending s' = pending s
  close : ∀ s c, ∃ m s', lib.amqp_channel_close s c = (.normal m, s') ∧ pending s' = pending s

/-- A callback may raise, and may cancel consumers and close channels. It neither
closes the connection nor takes frames. -/
def Quiet (env : Env σ κ) (pending : σ → List amqp_frame_t) : Prop :=
  ∀ callback m self, (env.invoke callback m self).1.connected = self.connected ∧
    pending (env.invoke callback m self).1.conn = pending self.conn

/-- The parties before any event: an open connection, and consumers that are
registered with the client. -/
structure Initial (pending : σ → List amqp_frame_t) (p : Parties σ κ) : Prop where
  connected : p.world.self.connected = true
  noError : p.world.err = none
  nothing : pending p.world.self.conn = []
  sent : ∀ c, p.outgoing c = []
  registered : ∀ c tag, (c, tag) ∈ p.consumers → (p.world.self.consumer c.toNat tag).isSome = true

/-- The client has a callback for the delivery. -/
def HasConsumer (self : Connection σ κ) (c : amqp_channel_t) (m : amqp_basic_deliver_t) : Prop :=
  ∃ tag callback channelobj, utf8Decode m.consumer_tag = some tag ∧
    self.consumer c.toNat tag = some (callback, channelobj)

/-- A call of `drain_events` does no harm: it raises no `ConnectionError`, the
connection stays open, and a delivery for a registered consumer that is the
oldest is handed to its callback. All other frames stay. -/
structure Drained (pending : σ → List amqp_frame_t) (p : Parties σ κ) (r : Except PyErr Unit)
    (p' : Parties σ κ) : Prop where
  noConnectionError : ∀ e, r = .error e → e.cls ≠ .ConnectionError
  connected : p'.world.self.connected = true
  dispatched : ∀ c d rest more, pending p.world.self.conn = Delivery.deliver d c :: rest →
    ofKey amqp_frame_t.channel c (pending p.world.self.conn) ++ p.outgoing c =
      d.frames c ++ more →
    HasConsumer p.world.self c d.method →
    ∃ call, p'.world.calls = p.world.calls ++ [call] ∧
      Hands p.world c d d.method.delivery_tag.toInt (d.content.seen c) call ∧
      ofKey amqp_frame_t.channel c (pending p'.world.self.conn) ++ p'.outgoing c = more ∧
      ∀ j, j ≠ c → ofKey amqp_frame_t.channel j (pending p'.world.self.conn) =
        ofKey amqp_frame_t.channel j (pending p.world.self.conn)

/-- The states that events which meet a condition lead to. -/
def Reaches (env : Env σ κ) (arrive : σ → amqp_frame_t → σ)
    (meets : Parties σ κ → Event → Prop) : Parties σ κ → Parties σ κ → Prop :=
  Relation.ReflTransGen fun p p' => ∃ e, meets p e ∧ Step env arrive p e p'

/-- Deliveries in flight survive: in every state that is reached the connection is
open, every call of `drain_events` does no harm, and it returns if all frames of a
delivery for a registered consumer have come and its `basic.deliver` is the
oldest. -/
def Survive (env : Env σ κ) (pending : σ → List amqp_frame_t) (arrive : σ → amqp_frame_t → σ)
    (meets : Parties σ κ → Event → Prop) (p0 : Parties σ κ) : Prop :=
  ∀ p, Reaches env arrive meets p0 p →
    p.world.self.connected = true ∧
    (∀ timeout r p', meets p (.drain_events timeout r) →
      Step env arrive p (.drain_events timeout r) p' → Drained pending p r p') ∧
    ∀ timeout c d rest more, pending p.world.self.conn = Delivery.deliver d c :: rest →
      ofKey amqp_frame_t.channel c rest = d.content.header c :: d.content.bodies c ++ more →
      HasConsumer p.world.self c d.method →
      ∃ r p', Step env arrive p (.drain_events timeout r) p'

/-- Every call of `drain_events` finds the consumer of the oldest delivery, if
there is one, registered. -/
def Due (pending : σ → List amqp_frame_t) (p : Parties σ κ) : Event → Prop
  | .drain_events _ _ => ∀ c m rest,
    pending p.world.self.conn = ⟨c, .method (.basic_deliver m)⟩ :: rest →
    HasConsumer p.world.self c m
  | _ => True

/-! ## Calls -/

theorem Returns.unique {ω α : Type} {x : Nat → Run ω α} {w w1 w2 : ω} {a b : α}
    (h1 : Returns x w a w1) (h2 : Returns x w b w2) : a = b ∧ w1 = w2 := by
  obtain ⟨k1, h1⟩ := h1
  obtain ⟨k2, h2⟩ := h2
  have h := (h1 (k1 + k2 + 1) (by omega)).symm.trans (h2 (k1 + k2 + 1) (by omega))
  cases h
  exact ⟨rfl, rfl⟩

/-- A call that never ends does not return. -/
theorem not_returns {ω α : Type} {x : Nat → Run ω α} {w w' : ω} {a : α}
    (h : ∃ k, ∀ fuel, k < fuel → ∃ w1, x fuel w = (.hang, w1)) : ¬ Returns x w a w' := by
  obtain ⟨k1, h1⟩ := h
  rintro ⟨k2, h2⟩
  obtain ⟨w1, h1⟩ := h1 (k1 + k2 + 1) (by omega)
  rw [h2 (k1 + k2 + 1) (by omega)] at h1
  cases h1

/-- The two worlds have the same frames and both are open, without an exception. -/
structure SameFrames (pending : σ → List amqp_frame_t) (w w' : World σ κ) : Prop where
  connected : w'.self.connected = w.self.connected
  noError : w'.err = none
  frames : pending w'.self.conn = pending w.self.conn

/-- A cancel asks the broker, or fails before with a tag that is not ASCII. -/
theorem basic_cancel_cases (hlib : KeepsOrder env.lib pending arrive) {w : World σ κ}
    (hconn : w.self.connected = true) (fuel : Nat) (channel : Int) (tag : PyStr) :
    (∃ err, PyRabbitMQ_Connection_basic_cancel env (fuel + 1) channel (.str tag) w =
      (.ret none, w.setErr err)) ∨
    ∃ s, pending s = pending w.self.conn ∧
      PyRabbitMQ_Connection_basic_cancel env (fuel + 1) channel (.str tag) w =
        (.ret (some ()), w.setConn s) := by
  unfold PyRabbitMQ_Connection_basic_cancel
  rw [connected_bind hconn]
  cases hascii : asciiEncode tag with
  | none =>
    have hnull : Outcome.ret (PyObjectArray_Maybe_Unicode (.str tag) w.err) =
        .ret (.null, some (.raised .UnicodeEncodeError)) := by
      simp [PyObjectArray_Maybe_Unicode, PyUnicode_AsASCIIString, hascii]
    refine Or.inl ⟨some (.raised .UnicodeEncodeError), ?_⟩
    rw [Run.bind_ret (withErr_ret
      (f := fun err => .ret (PyObjectArray_Maybe_Unicode (.str tag) err)) hnull)]
    rfl
  | some name =>
    have hname : Outcome.ret (PyObjectArray_Maybe_Unicode (.str tag) w.err) =
        .ret (.bytes name, w.err) := by
      simp [PyObjectArray_Maybe_Unicode, PyUnicode_AsASCIIString, hascii]
    obtain ⟨m, s, hcancel, hs⟩ := hlib.cancel w.self.conn (parseUnsigned channel).toUInt16 name
    refine Or.inr ⟨s, hs, ?_⟩
    rw [Run.bind_ret (withErr_ret
      (f := fun err => .ret (PyObjectArray_Maybe_Unicode (.str tag) err)) hname)]
    dsimp only [PyString_AS_AMQBYTES]
    rw [Run.lift_ret_bind_apply, Run.bind_ret (onConn_ret (w := w.setErr w.err) hcancel),
      Run.bind_ret (handleAMQError_normal env fuel _ _ _ _), if_neg (by decide)]
    rfl

theorem channel_close_eq (hlib : KeepsOrder env.lib pending arrive) {w : World σ κ}
    (hconn : w.self.connected = true) (fuel : Nat) (channel : Int) :
    ∃ s, pending s = pending w.self.conn ∧
      PyRabbitMQ_Connection_channel_close env (fuel + 1) channel w =
        (.ret (some ()), w.setConn s) := by
  obtain ⟨m, s, hclose, hs⟩ := hlib.close w.self.conn (parseUnsigned channel).toUInt16
  have hdestroy : PyRabbitMQ_Connection_destroy_channel env (fuel + 1) (parseUnsigned channel) w =
      (.ret 0, w.setConn s) := by
    unfold PyRabbitMQ_Connection_destroy_channel
    rw [Run.bind_ret (onConn_ret hclose)]
    exact handleAMQError_normal env fuel _ _ _ _
  refine ⟨s, hs, ?_⟩
  unfold PyRabbitMQ_Connection_channel_close
  rw [connected_bind hconn, Run.bind_ret hdestroy, if_neg (by decide)]
  rfl

/-- A cancel of the Python layer is one of the extension, behind the change of the
callbacks. -/
theorem channel_cancel_eq (env : Env σ κ) (fuel : Nat) (channelobj : Nat) (tag : PyStr)
    (w : World σ κ) : ∃ w1 : World σ κ, w1.self.conn = w.self.conn ∧
      w1.self.connected = w.self.connected ∧
      Channel.basic_cancel env fuel channelobj tag w =
        fromPython (PyRabbitMQ_Connection_basic_cancel env fuel
          (w.self.objects channelobj).channel_id (.str tag)) w1 := by
  unfold Channel.basic_cancel
  rw [Run.modify_bind_apply, Run.get_bind_apply]
  have hid : ((w.setChannel channelobj { w.self.objects channelobj with
      no_ack_consumers := (w.self.objects channelobj).no_ack_consumers.filter fun t =>
        t ≠ tag }).self.objects channelobj).channel_id = (w.self.objects channelobj).channel_id := by
    simp [World.setChannel]
  rw [hid]
  cases (w.setChannel channelobj { w.self.objects channelobj with
      no_ack_consumers := (w.self.objects channelobj).no_ack_consumers.filter fun t =>
        t ≠ tag }).self.callbacks.lookup (w.self.objects channelobj).channel_id with
  | none => refine ⟨_, ?_, ?_, rfl⟩ <;> rfl
  | some callbacks => refine ⟨_, ?_, ?_, rfl⟩ <;> rfl

/-- A cancel keeps the frames. -/
theorem basic_cancel_keeps (hlib : KeepsOrder env.lib pending arrive) {w w' : World σ κ}
    (hconn : w.self.connected = true) {channelobj : Nat} {tag : PyStr} {r : Except PyErr Unit}
    (h : Returns (fun fuel => Channel.basic_cancel env fuel channelobj tag) w r w') :
    SameFrames pending w w' := by
  obtain ⟨k, hk⟩ := h
  have hrun := hk (k + 1) (by omega)
  obtain ⟨w1, hsame, hopen, heq⟩ := channel_cancel_eq env (k + 1) channelobj tag w
  dsimp only at hrun
  rw [heq] at hrun
  rcases basic_cancel_cases hlib (hopen.trans hconn) k (w.self.objects channelobj).channel_id tag
    with ⟨err, hx⟩ | ⟨s, hs, hx⟩
  · rw [from_python_ret hx] at hrun
    cases hrun
    exact ⟨hopen, rfl, congrArg pending hsame⟩
  · rw [from_python_ret hx] at hrun
    cases hrun
    exact ⟨hopen, rfl, hs.trans (congrArg pending hsame)⟩

/-- A close keeps the frames, and is never refused. -/
theorem close_keeps (hlib : KeepsOrder env.lib pending arrive) {w w' : World σ κ}
    (hconn : w.self.connected = true) {channelobj : Nat} {r : Except PyErr Unit}
    (h : Returns (fun fuel => Channel.close env fuel channelobj) w r w') (herr : w.err = none) :
    SameFrames pending w w' := by
  obtain ⟨k, hk⟩ := h
  have hrun := hk (k + 1) (by omega)
  dsimp only at hrun
  unfold Channel.close Connection._remove_channel at hrun
  rw [Run.modify_bind_apply, Run.get_bind_apply] at hrun
  obtain ⟨s, hs, hx⟩ := channel_close_eq hlib (w := w.setChannel channelobj
    { w.self.objects channelobj with is_open := false }) hconn k
    ((w.setChannel channelobj { w.self.objects channelobj with is_open := false }).self.objects
      channelobj).channel_id
  rw [Run.bind_ret (from_python_ok hx herr)] at hrun
  dsimp only at hrun
  rw [Run.modify_bind_apply] at hrun
  cases hrun
  exact ⟨rfl, herr, hs⟩

/-! ## What is in flight -/

/-- The frames of a channel that no call has taken, come or on their way, are whole
deliveries. -/
structure InFlight (pending : σ → List amqp_frame_t) (p : Parties σ κ) : Prop where
  connected : p.world.self.connected = true
  noError : p.world.err = none
  deliveries : ∃ queues : amqp_channel_t → List Delivery, queues 0 = [] ∧
    ∀ c, ofKey amqp_frame_t.channel c (pending p.world.self.conn) ++ p.outgoing c =
      (queues c).flatMap fun d => d.frames c

theorem inFlight_initial {p : Parties σ κ} (h : Initial pending p) : InFlight pending p := by
  refine ⟨h.connected, h.noError, fun _ => [], rfl, fun c => ?_⟩
  rw [h.nothing, h.sent]
  rfl

theorem frames_channel (d : Delivery) (c : amqp_channel_t) : ∀ f ∈ d.frames c, f.channel = c := by
  intro f hf
  unfold Delivery.frames at hf
  rcases List.mem_cons.mp hf with rfl | hf
  · rfl
  · rcases List.mem_cons.mp hf with rfl | hf
    · rfl
    · exact d.content.bodies_channel c f hf

theorem inFlight_deliver {p : Parties σ κ} (h : InFlight pending p) {c : amqp_channel_t}
    (hc : c ≠ 0) (d : Delivery) : InFlight pending
      { p with outgoing := Function.update p.outgoing c (p.outgoing c ++ d.frames c) } := by
  obtain ⟨queues, h0, hqueues⟩ := h.deliveries
  refine ⟨h.connected, h.noError, Function.update queues c (queues c ++ [d]), ?_, fun j => ?_⟩
  · rw [Function.update_of_ne hc.symm]
    exact h0
  · by_cases hj : j = c
    · subst hj
      dsimp only
      rw [Function.update_self, Function.update_self, List.flatMap_append, ← hqueues j]
      simp
    · dsimp only
      rw [Function.update_of_ne hj, Function.update_of_ne hj]
      exact hqueues j

theorem inFlight_arrive (hlib : KeepsOrder env.lib pending arrive) {p : Parties σ κ}
    (h : InFlight pending p) {c : amqp_channel_t} {f : amqp_frame_t} {fs : List amqp_frame_t}
    (hf : p.outgoing c = f :: fs) : InFlight pending
      { p with
        world := p.world.setConn (arrive p.world.self.conn f)
        outgoing := Function.update p.outgoing c fs } := by
  obtain ⟨queues, h0, hqueues⟩ := h.deliveries
  -- the frame is of the channel on which it was sent
  have hmem : f ∈ (queues c).flatMap fun d => d.frames c := by
    rw [← hqueues c, hf]
    simp
  obtain ⟨d, _, hd⟩ := List.mem_flatMap.mp hmem
  have hchannel := frames_channel d c f hd
  refine ⟨h.connected, h.noError, queues, h0, fun j => ?_⟩
  rw [World.setConn_conn, hlib.arrive, ofKey_append, ofKey_cons, hchannel]
  by_cases hj : j = c
  · subst hj
    dsimp only
    rw [if_pos rfl, Function.update_self, ← hqueues j, hf]
    simp
  · dsimp only
    rw [if_neg (Ne.symm hj), Function.update_of_ne hj, ← hqueues j]
    simp

/-- Calls that keep the frames keep what is in flight. -/
theorem inFlight_of_sameFrames {p : Parties σ κ} (h : InFlight pending p) {w' : World σ κ}
    (hsame : SameFrames pending p.world w') (consumers : List (amqp_channel_t × PyStr)) :
    InFlight pending { p with world := w', consumers := consumers } := by
  obtain ⟨queues, h0, hqueues⟩ := h.deliveries
  refine ⟨hsame.connected.trans h.connected, hsame.noError, queues, h0, fun c => ?_⟩
  dsimp only
  rw [hsame.frames]
  exact hqueues c

/-- The oldest frame is a `basic.deliver`, and the rest of its delivery follows on
its channel. On the other channels there are whole deliveries. -/
theorem InFlight.oldest {p : Parties σ κ} (h : InFlight pending p) {f : amqp_frame_t}
    {rest : List amqp_frame_t} (hpend : pending p.world.self.conn = f :: rest) :
    ∃ (c : amqp_channel_t) (d : Delivery) (ds : List Delivery), c ≠ 0 ∧ f = d.deliver c ∧
      ofKey amqp_frame_t.channel c rest ++ p.outgoing c =
        (d.content.header c :: d.content.bodies c ++ ds.flatMap fun d => d.frames c) ∧
      ∃ queues : amqp_channel_t → List Delivery, queues 0 = [] ∧ ∀ j, j ≠ c →
        ofKey amqp_frame_t.channel j (pending p.world.self.conn) ++ p.outgoing j =
          (queues j).flatMap fun d => d.frames j := by
  obtain ⟨queues, h0, hqueues⟩ := h.deliveries
  have hkey := hqueues f.channel
  rw [hpend, ofKey_head, List.cons_append] at hkey
  cases hq : queues f.channel with
  | nil =>
    rw [hq] at hkey
    cases hkey
  | cons d ds =>
    rw [hq, List.flatMap_cons, Delivery.frames, List.cons_append] at hkey
    injection hkey with hf htail
    refine ⟨f.channel, d, ds, fun hzero => ?_, hf, htail, queues, h0, fun j _ => hqueues j⟩
    rw [hzero, h0] at hq
    cases hq

/-! ## One call of `drain_events` -/

section

variable {w w' : World σ κ} {timeout : Rat} {r : Except PyErr Unit}

/-- A call that comes to a machine that waits does not return. -/
theorem not_returns_of_waits {s : σ} (hstart : Starts env timeout w s)
    (h : Waits env .consume (w.setConn s)) :
    ¬ Returns (fun fuel => fromPython (PyRabbitMQ_Connection_basic_recv env fuel timeout)) w r w' := by
  obtain ⟨k1, h1⟩ := basic_recv_of_starts hstart
  obtain ⟨k2, h2⟩ := h
  apply not_returns
  refine ⟨k1 + k2, fun fuel hf => ?_⟩
  obtain ⟨w1, hhang⟩ := h2 fuel (by omega)
  refine ⟨w1, ?_⟩
  have hx : PyRabbitMQ_Connection_basic_recv env fuel timeout w = (.hang, w1) := by
    rw [h1 fuel (by omega), afterPoll_hang hhang]
  exact from_python_hang hx

/-- Without a frame a call that returns has not been ready. -/
theorem drain_idle (hlib : KeepsOrder env.lib pending arrive) (hconn : w.self.connected = true)
    (herr : w.err = none) (hpend : pending w.self.conn = [])
    (h : Returns (fun fuel => fromPython (PyRabbitMQ_Connection_basic_recv env fuel timeout)) w r
      w') : (∃ e, r = .error e ∧ e.cls ≠ .ConnectionError) ∧ SameFrames pending w w' := by
  have hidle : ∀ s, pending s = pending w.self.conn → Waits env .consume (w.setConn s) := by
    intro s hs
    obtain ⟨s', hblocked⟩ := hlib.idle s (hs.trans hpend)
    exact waits_of_first (w := w.setConn s) hblocked
  by_cases hp : Polls env timeout w.self.conn
  · obtain ⟨k, hk⟩ := h
    have hrun := hk (k + 1) (by omega)
    obtain ⟨s, hs, hview⟩ := wait_keeps hlib.select (k + 1) timeout w
    rcases hwait : RabbitMQ_WAIT env (k + 1) timeout w with ⟨o, w0⟩
    rw [hwait] at hs
    dsimp only at hs hrun
    subst hs
    cases o with
    | ret ready =>
      by_cases hready : 0 < ready
      · exact absurd ⟨k, hk⟩ (not_returns_of_waits (.polled hconn hp hwait hready) (hidle s hview))
      · obtain ⟨err, hx, herr'⟩ := basic_recv_unready hconn hp hwait hready
        obtain ⟨e, rfl, he⟩ := herr' herr
        have hcls : e.cls ≠ .ConnectionError := by
          rcases he with he | he <;> simp [he]
        rw [from_python_ret hx] at hrun
        cases hrun
        exact ⟨⟨e, rfl, hcls⟩, rfl, rfl, hview⟩
    | crash =>
      have hx := basic_recv_polls (k + 1) hconn hp
      rw [Run.bind_crash hwait] at hx
      unfold fromPython at hrun
      rw [Run.bind_crash hx] at hrun
      cases hrun
    | hang =>
      have hx := basic_recv_polls (k + 1) hconn hp
      rw [Run.bind_hang hwait] at hx
      rw [from_python_hang hx] at hrun
      cases hrun
  · exact absurd h (not_returns_of_waits (.unpolled hconn hp) (hidle _ rfl))

/-- The machine waits for the frames of the oldest delivery that have not come. -/
theorem machine_waits (hlib : KeepsOrder env.lib pending arrive)
    (hmem : ∀ n, env.bytesAvailable n = true) (herr : w.err = none) {c : amqp_channel_t}
    (hc : c ≠ 0) {d : Delivery} {rest more : List amqp_frame_t}
    (hpend : pending w.self.conn = d.deliver c :: rest)
    (hshort : d.content.header c :: d.content.bodies c = ofKey amqp_frame_t.channel c rest ++ more)
    (hne : more ≠ []) {tag : PyStr} (htag : utf8Decode d.method.consumer_tag = some tag) :
    Waits env .consume w := by
  obtain ⟨info, s1, hrest, _, hat⟩ := atHeader_of_oldest hlib.order hpend htag
  rw [← hrest] at hshort
  cases hkey : ofKey amqp_frame_t.channel c (pending s1) with
  | nil =>
    -- the header has not come
    obtain ⟨s2, hblocked⟩ := hlib.idleOn s1 c (receive_of_empty hkey)
    exact waits_of_header .consume hat ((waitHeader_on hc _ _).trans hblocked)
  | cons f fs =>
    rw [hkey, List.cons_append] at hshort
    injection hshort with hf hbodies
    rw [← hf, ← List.append_nil (d.content.header c :: fs)] at hkey
    obtain ⟨s3, ⟨s2, hheader, hgives⟩, hown, _⟩ := hlib.order.givesOn c _ s1 hkey
    obtain ⟨s4, hblocked⟩ := hlib.idleOn s3 c (receive_of_empty hown)
    obtain ⟨pd, hpd⟩ := properties_decode d.properties none
    have hpd' : basic_properties_to_PyDict d.content.properties []
        (w.afterReads [d.deliver c] s1).err = .ret (pd, none) := by
      rw [World.afterReads_err, herr]
      exact hpd
    have henters := Enters.mk hat ((waitHeader_on hc _ _).trans hheader) rfl hpd'
    -- octets are missing
    have hmissing := d.content.octets_missing c hbodies hne
    have hsize := toNat_of_pos d.size_pos
    have hsigned := d.signed
    have hreads : Reads env c d.content.body_size s2 fs s3 := by
      refine ⟨hgives, fun g hg => ?_, goesOver_of_short (by omega), fun _ => hmem _⟩
      exact d.content.bodies_isBody c g (by rw [hbodies]; exact List.mem_append_left _ hg)
    have hlt : (received fs).toInt < d.content.body_size.toInt := by
      rw [toInt_received (by omega)]
      omega
    exact waits_of_body .consume henters hreads hlt hblocked

/-- A delivery whose frames have all come is handed to its callback. -/
theorem drain_dispatches (hlib : KeepsOrder env.lib pending arrive)
    (hmem : ∀ n, env.bytesAvailable n = true) (hquiet : Quiet env pending)
    (hconn : w.self.connected = true) (herr : w.err = none) {c : amqp_channel_t} (hc : c ≠ 0)
    {d : Delivery} {rest more : List amqp_frame_t}
    (hpend : pending w.self.conn = d.deliver c :: rest)
    (hkey : ofKey amqp_frame_t.channel c rest = d.content.header c :: d.content.bodies c ++ more)
    (hcons : HasConsumer w.self c d.method) (timeout : Rat) : ∃ r w' call,
      Returns (fun fuel => fromPython (PyRabbitMQ_Connection_basic_recv env fuel timeout)) w r w' ∧
      (∀ e, r = .error e → e.cls ≠ .ConnectionError) ∧ w'.self.connected = true ∧ w'.err = none ∧
      w'.calls = w.calls ++ [call] ∧
      Hands w c d d.method.delivery_tag.toInt (d.content.seen c) call ∧
      ofKey amqp_frame_t.channel c (pending w'.self.conn) = more ∧
      ∀ j, j ≠ c → ofKey amqp_frame_t.channel j (pending w'.self.conn) =
        ofKey amqp_frame_t.channel j (pending w.self.conn) := by
  obtain ⟨tag, callback, obj, htag, hcallback⟩ := hcons
  obtain ⟨s, hstart, hs⟩ := starts_of_ready (w := w) hconn (fun _ => hlib.poll)
    (by rw [hpend]; exact List.cons_ne_nil _ _)
  obtain ⟨k1, h1⟩ := basic_recv_of_starts hstart
  obtain ⟨info, pd, w1, s', h⟩ := machine_reads (w := w.setConn s) hlib.order hmem herr hc
    (hs.trans hpend) hkey htag
  obtain ⟨k2, w2, hafter, h2⟩ := recv_of_delivers h.enters h.delivers
    ((enters_consumer h.enters c.toNat tag).trans hcallback) (by simp [h.noError])
  obtain ⟨hopen, hframes⟩ := hquiet callback
    ⟨obj, .dict pd, .dict info, .view (d.content.seen c)⟩ w2.self
  have hconn2 : w2.self.connected = true := by
    rw [hafter.self, h.connection]
    exact hconn
  have hs2 : w2.self.conn = s' := by rw [hafter.self]
  -- the world after the callback, and what Python sees of it
  obtain ⟨w3, hw3⟩ : ∃ w3, w3 = delivery.called env tag c.toNat callback
    ⟨obj, .dict pd, .dict info, .view (d.content.seen c)⟩ w2 := ⟨_, rfl⟩
  rw [← hw3] at h2
  have hrun : Returns (fun fuel => fromPython (PyRabbitMQ_Connection_basic_recv env fuel timeout)) w
      (checkResult (some ()) w3.err) (w3.setErr none) := by
    refine ⟨k1 + k2, fun fuel hf => ?_⟩
    have hx : PyRabbitMQ_Connection_basic_recv env fuel timeout w = (.ret (some ()), w3) :=
      (h1 fuel (by omega)).trans (afterPoll_ret (h2 fuel (by omega)))
    exact from_python_ret hx
  have hconn3 : pending w3.self.conn = pending s' := by
    rw [hw3, ← hs2]
    exact hframes
  refine ⟨_, _, ⟨c.toNat, tag, callback, ⟨obj, .dict pd, .dict info, .view (d.content.seen c)⟩⟩,
    hrun, ?_, ?_, rfl, ?_,
    ⟨rfl, htag, hcallback, ⟨info, rfl, h.delivery_tag⟩, ⟨pd, h.properties, rfl⟩, rfl⟩, ?_, ?_⟩
  · -- an exception of the callback is a `SystemError`
    intro e he
    cases herr3 : w3.err with
    | none =>
      rw [herr3] at he
      cases he
    | some e3 =>
      rw [herr3] at he
      cases he
      decide
  · rw [World.setErr_self, hw3]
    exact hopen.trans hconn2
  · rw [hw3]
    change w2.calls ++ _ = _
    rw [hafter.calls, h.calls]
    rfl
  · rw [World.setErr_self, hconn3]
    exact h.own
  · intro j hj
    rw [World.setErr_self, hconn3, h.others j hj]
    exact congrArg _ hs

/-- A delivery whose frames have all come finds no callback: the call raises a
`ConnectionError` and closes the connection. -/
theorem drain_lost (hlib : KeepsOrder env.lib pending arrive)
    (hmem : ∀ n, env.bytesAvailable n = true) (hconn : w.self.connected = true)
    (herr : w.err = none) {c : amqp_channel_t} (hc : c ≠ 0) {d : Delivery}
    {rest more : List amqp_frame_t} (hpend : pending w.self.conn = d.deliver c :: rest)
    (hkey : ofKey amqp_frame_t.channel c rest = d.content.header c :: d.content.bodies c ++ more)
    {tag : PyStr} (htag : utf8Decode d.method.consumer_tag = some tag)
    (hnone : w.self.consumer c.toNat tag = none) (timeout : Rat) : ∃ w',
      Returns (fun fuel => fromPython (PyRabbitMQ_Connection_basic_recv env fuel timeout)) w
        (.error badFrame) w' ∧ w'.self.connected = false := by
  obtain ⟨s, hstart, hs⟩ := starts_of_ready (w := w) hconn (fun _ => hlib.poll)
    (by rw [hpend]; exact List.cons_ne_nil _ _)
  obtain ⟨k1, h1⟩ := basic_recv_of_starts hstart
  obtain ⟨info, pd, w1, s', h⟩ := machine_reads (w := w.setConn s) hlib.order hmem herr hc
    (hs.trans hpend) hkey htag
  obtain ⟨k2, w2, hafter, herr2, h2⟩ := recv_of_missing h.enters h.delivers
    ((enters_consumer h.enters c.toNat tag).trans hnone)
  have hconn2 : w2.self.connected = true := by
    rw [hafter.self, h.connection]
    exact hconn
  have hclosed : wrapUp env (-1) w2 = (.ret none, (w2.setErr (some badFrame)).closed env) := by
    unfold wrapUp
    rw [if_pos (by decide), herr2 h.noError]
    rfl
  have herr3 : ((w2.setErr (some badFrame)).closed env).err = some badFrame :=
    World.closed_err env _
  refine ⟨((w2.setErr (some badFrame)).closed env).setErr none, ⟨k1 + k2, fun fuel hf => ?_⟩, ?_⟩
  · have hx : PyRabbitMQ_Connection_basic_recv env fuel timeout w =
        (.ret none, (w2.setErr (some badFrame)).closed env) := by
      rw [h1 fuel (by omega), afterPoll_ret (h2 fuel (by omega)), hclosed]
    have hret := from_python_ret hx
    rw [herr3] at hret
    exact hret
  · unfold World.closed
    rw [World.setErr_self, World.setErr_self, if_pos hconn2]

end

section

variable {p p' p0 : Parties σ κ} {timeout : Option Rat} {r : Except PyErr Unit} {w' : World σ κ}

theorem drain_events_eq (env : Env σ κ) (timeout : Option Rat) : ∃ t, ∀ fuel,
    Connection.drain_events env fuel timeout =
      fromPython (PyRabbitMQ_Connection_basic_recv env fuel t) := ⟨_, fun _ => rfl⟩

/-- A call that returns has handed over the oldest delivery, if its consumer is
registered: the frames of it that have not come would make the call wait. -/
theorem drain_delivery (hlib : KeepsOrder env.lib pending arrive)
    (hmem : ∀ n, env.bytesAvailable n = true) (hquiet : Quiet env pending)
    (h : InFlight pending p) {c : amqp_channel_t} (hc : c ≠ 0) {d : Delivery}
    {rest more : List amqp_frame_t} (hpend : pending p.world.self.conn = d.deliver c :: rest)
    (hkey : ofKey amqp_frame_t.channel c rest ++ p.outgoing c =
      d.content.header c :: d.content.bodies c ++ more)
    (hcons : HasConsumer p.world.self c d.method)
    (hret : Returns (fun fuel => Connection.drain_events env fuel timeout) p.world r w') :
    ∃ call, (∀ e, r = .error e → e.cls ≠ .ConnectionError) ∧ w'.self.connected = true ∧
      w'.err = none ∧ w'.calls = p.world.calls ++ [call] ∧
      Hands p.world c d d.method.delivery_tag.toInt (d.content.seen c) call ∧
      ofKey amqp_frame_t.channel c (pending w'.self.conn) ++ p.outgoing c = more ∧
      ∀ j, j ≠ c → ofKey amqp_frame_t.channel j (pending w'.self.conn) =
        ofKey amqp_frame_t.channel j (pending p.world.self.conn) := by
  obtain ⟨t, ht⟩ := drain_events_eq env timeout
  simp only [ht] at hret
  -- all frames of the delivery have come, or some are missing
  have hcases : (∃ come, ofKey amqp_frame_t.channel c rest =
        d.content.header c :: d.content.bodies c ++ come ∧ more = come ++ p.outgoing c) ∨
      ∃ missing, missing ≠ [] ∧ d.content.header c :: d.content.bodies c =
        ofKey amqp_frame_t.channel c rest ++ missing := by
    rcases List.append_eq_append_iff.mp hkey with ⟨missing, hshort, hout⟩ | hcome
    · by_cases hne : missing = []
      · rw [hne, List.append_nil] at hshort
        rw [hne, List.nil_append] at hout
        exact Or.inl ⟨[], by rw [← hshort, List.append_nil], hout.symm⟩
      · exact Or.inr ⟨missing, hne, hshort⟩
    · exact Or.inl hcome
  rcases hcases with ⟨come, hcome, rfl⟩ | ⟨missing, hne, hshort⟩
  · obtain ⟨r1, w1, call, hret1, hnoerr, hopen, herr, hcalls, hhands, hown, hothers⟩ :=
      drain_dispatches hlib hmem hquiet h.connected h.noError hc hpend hcome hcons t
    obtain ⟨rfl, rfl⟩ := hret1.unique hret
    exact ⟨call, hnoerr, hopen, herr, hcalls, hhands, by rw [hown], hothers⟩
  · obtain ⟨tag, _, _, htag, _⟩ := hcons
    obtain ⟨s, hstart, hs⟩ := starts_of_ready (w := p.world) h.connected (fun _ => hlib.poll)
      (by rw [hpend]; exact List.cons_ne_nil _ _)
    exact absurd hret (not_returns_of_waits hstart (machine_waits (w := p.world.setConn s) hlib hmem
      h.noError hc (hs.trans hpend) hshort hne htag))

/-- A call of `drain_events` whose delivery is due does no harm, and leaves whole
deliveries. -/
theorem drain_step (hlib : KeepsOrder env.lib pending arrive)
    (hmem : ∀ n, env.bytesAvailable n = true) (hquiet : Quiet env pending)
    (h : InFlight pending p) (hdue : Due pending p (.drain_events timeout r))
    (hret : Returns (fun fuel => Connection.drain_events env fuel timeout) p.world r w') :
    Drained pending p r { p with world := w' } ∧ InFlight pending { p with world := w' } := by
  cases hpend : pending p.world.self.conn with
  | nil =>
    obtain ⟨t, ht⟩ := drain_events_eq env timeout
    simp only [ht] at hret
    obtain ⟨⟨e, rfl, he⟩, hsame⟩ := drain_idle hlib h.connected h.noError hpend hret
    refine ⟨⟨?_, hsame.connected.trans h.connected, ?_⟩, inFlight_of_sameFrames h hsame _⟩
    · intro e' he'
      cases he'
      exact he
    · intro c d rest more hne
      rw [hpend] at hne
      cases hne
  | cons f rest =>
    obtain ⟨c, d, ds, hc, rfl, hkey, queues, h0, hqueues⟩ := h.oldest hpend
    have hcons := hdue c d.method rest hpend
    obtain ⟨call, hnoerr, hopen, herr, _, _, hown, hothers⟩ :=
      drain_delivery hlib hmem hquiet h hc hpend hkey hcons hret
    refine ⟨⟨hnoerr, hopen, ?_⟩, hopen, herr, Function.update queues c ds, ?_, fun j => ?_⟩
    · intro c' d' rest' more' hpend' hkey' hcons'
      have hsame := hpend.symm.trans hpend'
      injection hsame with hdeliver _
      have hc' : c = c' := congrArg amqp_frame_t.channel hdeliver
      subst hc'
      have hhead : ofKey amqp_frame_t.channel c (d'.deliver c :: rest') =
        d'.deliver c :: ofKey amqp_frame_t.channel c rest' := ofKey_head
      rw [hpend', hhead] at hkey'
      injection hkey' with _ htail
      obtain ⟨call', _, _, _, hcalls, hhands, hown', hothers'⟩ :=
        drain_delivery hlib hmem hquiet h hc hpend' htail hcons' hret
      exact ⟨call', hcalls, hhands, hown', hothers'⟩
    · rw [Function.update_of_ne hc.symm]
      exact h0
    · by_cases hj : j = c
      · subst hj
        rw [Function.update_self]
        exact hown
      · rw [Function.update_of_ne hj]
        dsimp only
        rw [hothers j hj]
        exact hqueues j hj

/-- Every event that meets the condition leaves whole deliveries. -/
theorem step_inFlight (hlib : KeepsOrder env.lib pending arrive)
    (hmem : ∀ n, env.bytesAvailable n = true) (hquiet : Quiet env pending)
    (h : InFlight pending p) {e : Event} (hdue : Due pending p e) (hstep : Step env arrive p e p') :
    InFlight pending p' := by
  cases hstep with
  | @deliver c d tag hc htag hmem => exact inFlight_deliver h hc d
  | arrive hf => exact inFlight_arrive hlib h hf
  | basic_cancel hret hsettled =>
    exact inFlight_of_sameFrames h (basic_cancel_keeps hlib h.connected hret) _
  | close hret hsettled =>
    exact inFlight_of_sameFrames h (close_keeps hlib h.connected hret h.noError) _
  | drain_events hret => exact (drain_step hlib hmem hquiet h hdue hret).2

theorem reaches_inFlight (hlib : KeepsOrder env.lib pending arrive)
    (hmem : ∀ n, env.bytesAvailable n = true) (hquiet : Quiet env pending)
    (h0 : InFlight pending p0) (hrun : Reaches env arrive (Due pending) p0 p) :
    InFlight pending p := by
  induction hrun with
  | refl => exact h0
  | tail _ hstep ih =>
    obtain ⟨e, hdue, hstep⟩ := hstep
    exact step_inFlight hlib hmem hquiet ih hdue hstep

end

/-! ## What the calls take out

Whatever the library answers, a cancel and a close leave the registrations of all
other consumers alone. -/

section

variable {channel : Int} {tag : PyStr} {p p' p0 : Parties σ κ}

/-- The consumer is registered as before. -/
def SameConsumer (channel : Int) (tag : PyStr) (before after : Connection σ κ) : Prop :=
  after.consumer channel tag = before.consumer channel tag

theorem SameConsumer.of_same {before after : Connection σ κ}
    (hcallbacks : after.callbacks = before.callbacks) (hchannels : after.channels = before.channels) :
    SameConsumer channel tag before after := by
  unfold SameConsumer Connection.consumer Connection.callback_for_tag
  rw [hcallbacks, hchannels]

theorem tabular_sameConsumer : Tabular (SameConsumer (σ := σ) (κ := κ) channel tag) where
  same h := .of_same h.callbacks h.channels
  trans h h' := Eq.trans h' h

/-- The callback of a consumer is popped. -/
theorem sameConsumer_popped {self object : Connection σ κ} {channel_id : Int} {consumer_tag : PyStr}
    {callbacks : Dict PyStr κ} (hlookup : self.callbacks.lookup channel_id = some callbacks)
    (hcallbacks : object.callbacks = self.callbacks.set channel_id (callbacks.pop consumer_tag))
    (hchannels : object.channels = self.channels)
    (hother : ¬ (channel_id = channel ∧ consumer_tag = tag)) :
    SameConsumer channel tag self object := by
  unfold SameConsumer Connection.consumer Connection.callback_for_tag
  rw [hcallbacks, hchannels]
  by_cases hn : channel = channel_id
  · subst hn
    have ht : tag ≠ consumer_tag := fun h => hother ⟨rfl, h.symm⟩
    rw [Dict.lookup_set_self, hlookup]
    simp only [Option.bind_eq_bind, Option.bind_some, Dict.lookup_pop_ne _ ht]
  · rw [Dict.lookup_set_ne _ _ hn]

/-- A channel is forgotten. -/
theorem sameConsumer_forgotten {self : Connection σ κ} (object : Connection σ κ)
    {channel_id : Int}
    (hcallbacks : object.callbacks = self.callbacks.pop channel_id)
    (hchannels : object.channels = self.channels.pop channel_id) (hother : channel_id ≠ channel) :
    SameConsumer channel tag self object := by
  unfold SameConsumer Connection.consumer Connection.callback_for_tag
  rw [hcallbacks, hchannels, Dict.lookup_pop_ne _ hother.symm, Dict.lookup_pop_ne _ hother.symm]

/-- `Channel.basic_cancel` takes out no other consumer. -/
theorem basic_cancel_others (fuel : Nat) (channelobj : Nat) (consumer_tag : PyStr) (w : World σ κ)
    (hother : ¬ ((w.self.objects channelobj).channel_id = channel ∧ consumer_tag = tag)) :
    SameConsumer channel tag w.self
      (Channel.basic_cancel env fuel channelobj consumer_tag w).2.self := by
  have hcancel : ∀ n, Along (SameConsumer channel tag) (fromPython
      (PyRabbitMQ_Connection_basic_cancel env fuel n (.str consumer_tag))) := fun n =>
    fromPython_along tabular_sameConsumer (basic_cancel_along tabular_sameConsumer fuel n _)
  -- the world in which the callback is looked for
  obtain ⟨w1, hw1⟩ : ∃ w1, w1 = w.setChannel channelobj { w.self.objects channelobj with
      no_ack_consumers := (w.self.objects channelobj).no_ack_consumers.filter fun t =>
        t ≠ consumer_tag } := ⟨_, rfl⟩
  have hid : (w1.self.objects channelobj).channel_id = (w.self.objects channelobj).channel_id := by
    rw [hw1]
    simp [World.setChannel]
  have hsame : SameConsumer channel tag w.self w1.self := by
    rw [hw1]
    exact .of_same rfl rfl
  unfold Channel.basic_cancel
  rw [Run.modify_bind_apply, Run.get_bind_apply, ← hw1, hid]
  refine tabular_sameConsumer.trans hsame ?_
  cases hlookup : w1.self.callbacks.lookup (w.self.objects channelobj).channel_id with
  | none => exact hcancel _ _
  | some callbacks =>
    dsimp only
    rw [Run.modify_bind_apply]
    refine tabular_sameConsumer.trans ?_ (hcancel _ _)
    exact sameConsumer_popped hlookup rfl rfl hother

/-- `Channel.close` takes out no consumer of another channel. -/
theorem close_others (fuel : Nat) (channelobj : Nat) (w : World σ κ)
    (hother : (w.self.objects channelobj).channel_id ≠ channel) :
    SameConsumer channel tag w.self (Channel.close env fuel channelobj w).2.self := by
  have hforget : ∀ n, n ≠ channel → Along (SameConsumer channel tag) (do
      Run.modify fun w => { w with self := { w.self with
        channels := w.self.channels.pop n
        callbacks := w.self.callbacks.pop n
        _used_channel_ids := w.self._used_channel_ids.erase n } }
      return .ok () : Run (World σ κ) (Except PyErr Unit)) := fun n hn w =>
    sameConsumer_forgotten { w.self with
      channels := w.self.channels.pop n
      callbacks := w.self.callbacks.pop n
      _used_channel_ids := w.self._used_channel_ids.erase n } rfl rfl hn
  have hid : ((w.setChannel channelobj { w.self.objects channelobj with
      is_open := false }).self.objects channelobj).channel_id =
        (w.self.objects channelobj).channel_id := by
    simp [World.setChannel]
  unfold Channel.close Connection._remove_channel
  rw [Run.modify_bind_apply, Run.get_bind_apply, hid]
  refine tabular_sameConsumer.trans (.of_same rfl rfl) (Along.bind tabular_sameConsumer
    (fromPython_along tabular_sameConsumer
      (channel_close_along tabular_sameConsumer fuel _)) (fun r => ?_) _)
  cases r with
  | ok _ => exact hforget _ hother
  | error e =>
    dsimp only
    split
    · exact hforget _ hother
    · exact along_pure tabular_sameConsumer _

theorem drain_events_along (hinvoke : InvokesAlong (SameConsumer channel tag) env) (fuel : Nat)
    (timeout : Option Rat) :
    Along (SameConsumer channel tag) (Connection.drain_events env fuel timeout) := by
  obtain ⟨t, ht⟩ := drain_events_eq env timeout
  rw [ht, ← basic_recv_noting_nothing]
  exact fromPython_along tabular_sameConsumer
    (basic_recv_along tabular_sameConsumer hinvoke (along_pure tabular_sameConsumer ()) fuel t)

theorem Returns.leaves {α : Type} {x : Nat → Run (World σ κ) α} {w w' : World σ κ} {a : α}
    (h : Returns x w a w') (hx : ∀ fuel, SameConsumer channel tag w.self (x fuel w).2.self) :
    SameConsumer channel tag w.self w'.self := by
  obtain ⟨k, hk⟩ := h
  have hrun := hx (k + 1)
  rwa [hk (k + 1) (by omega)] at hrun

/-- The call takes the consumer out. -/
def Event.Removes (self : Connection σ κ) (channel : Int) (tag : PyStr) : Event → Prop
  | .basic_cancel channelobj consumer_tag =>
    (self.objects channelobj).channel_id = channel ∧ consumer_tag = tag
  | .close channelobj => (self.objects channelobj).channel_id = channel
  | _ => False

theorem step_others (hinvoke : InvokesAlong (SameConsumer channel tag) env) {e : Event}
    (hother : ¬ e.Removes p.world.self channel tag) (hstep : Step env arrive p e p') :
    SameConsumer channel tag p.world.self p'.world.self := by
  cases hstep with
  | deliver => exact rfl
  | arrive => exact .of_same rfl rfl
  | basic_cancel hret =>
    exact hret.leaves fun fuel => basic_cancel_others fuel _ _ p.world hother
  | close hret => exact hret.leaves fun fuel => close_others fuel _ p.world hother
  | drain_events hret =>
    exact hret.leaves fun fuel => drain_events_along hinvoke fuel _ p.world

/-- A consumer stays registered until a call takes it out, if the callbacks leave it alone: what
is due at a drain can be read off the calls before it. -/
theorem a_consumer_stays_until_a_call_takes_it_out
    (hinvoke : InvokesAlong (SameConsumer channel tag) env)
    (hrun : Reaches env arrive (fun p e => ¬ e.Removes p.world.self channel tag) p0 p) :
    SameConsumer channel tag p0.world.self p.world.self := by
  induction hrun with
  | refl => exact rfl
  | tail _ hstep ih =>
    obtain ⟨e, hother, hstep⟩ := hstep
    exact tabular_sameConsumer.trans ih (step_others hinvoke hother hstep)

end

/-! ## A queue in memory

A connection state that is the list of its frames. Every request is granted. -/

/-- The waits of a list: the oldest frame, and the oldest of a channel. -/
def memory : RabbitMQC (List amqp_frame_t) where
  amqp_simple_wait_frame
    | [] => (.blocked, [])
    | f :: fs => (.ok f, fs)
  amqp_simple_wait_frame_on_channel s c :=
    match receive amqp_frame_t.channel c s with
    | some (f, s) => (.ok f, s)
    | none => (.blocked, s)
  amqp_data_in_buffer s := !s.isEmpty
  amqp_frames_enqueued _ := false
  select s _ := (⟨0, false, 0⟩, s)
  amqp_send_close_ok s _ := (0, s)
  amqp_channel_open s _ := (.normal (.other 0x0014000B), s)
  amqp_channel_close s _ := (.normal (.other 0x00140029), s)
  amqp_basic_cancel s _ _ := (.normal (.other 0x003C001F), s)
  amqp_basic_get s _ _ _ := (.normal (.other 0x003C0048), s)
  amqp_connection_close s := s
  amqp_error_string2 _ := []

/-- A frame that comes is the newest. -/
def memoryArrive (s : List amqp_frame_t) (f : amqp_frame_t) : List amqp_frame_t := s ++ [f]

theorem memory_keepsOrder : KeepsOrder memory id memoryArrive where
  order := by
    refine ⟨?_, ?_⟩
    · rintro s f rest rfl
      exact ⟨rest, rfl, rfl⟩
    · intro s c f rest h
      have h' : receive amqp_frame_t.channel c s = some (f, rest) := h
      refine ⟨rest, ?_, rfl⟩
      unfold memory
      dsimp only
      rw [h']
  arrive _ _ := rfl
  idle := by
    rintro s rfl
    exact ⟨[], rfl⟩
  idleOn := by
    intro s c h
    have h' : receive amqp_frame_t.channel c s = none := h
    refine ⟨s, ?_⟩
    unfold memory
    dsimp only
    rw [h']
  poll := by
    intro s timeout hne hactive
    cases s with
    | nil => exact absurd rfl hne
    | cons f fs => cases hactive
  select _ _ := rfl
  cancel s _ _ := ⟨_, s, rfl, rfl⟩
  close s _ := ⟨_, s, rfl, rfl⟩

/-- A callback returns, or raises the exception that it is. -/
def memoryEnv : Env (List amqp_frame_t) (Option PyErr) where
  lib := memory
  python := .lenient
  bytesAvailable _ := true
  fresh _ := 0
  invoke callback _ self := (self, callback)

theorem memory_quiet : Quiet memoryEnv id := fun _ _ _ => ⟨rfl, rfl⟩

/-- A connection with channel 1 open, and the consumer "tag" on it. -/
def opened : Parties (List amqp_frame_t) (Option PyErr) where
  world :=
    { self :=
        { conn := []
          connected := true
          sockfd := 3
          callbacks := [(1, [(pyStr "tag", none)])]
          channels := [(1, 0)]
          objects := fun _ => ⟨1, true, []⟩
          _used_channel_ids := [1] }
      err := none
      reads := []
      calls := []
      stores := [] }
  consumers := [(1, pyStr "tag")]
  outgoing _ := []

theorem initial_opened : Initial id opened := by
  refine ⟨rfl, rfl, rfl, fun _ => rfl, fun c tag h => ?_⟩
  cases List.mem_singleton.mp h
  rfl

/-- All frames that the broker has sent on a channel can come. -/
theorem arrives_all (env : Env σ κ) (arrive : σ → amqp_frame_t → σ) (c : amqp_channel_t) :
    ∀ (fs : List amqp_frame_t) (p : Parties σ κ), p.outgoing c = fs → ∃ p',
      Reaches env arrive (fun _ _ => True) p p' ∧ p'.outgoing c = [] ∧
      p'.world = p.world.setConn (fs.foldl arrive p.world.self.conn) := by
  intro fs
  induction fs with
  | nil => exact fun p h => ⟨p, .refl, h, rfl⟩
  | cons f fs ih =>
    intro p h
    obtain ⟨p', hrun, hout, hworld⟩ := ih
      { p with
        world := p.world.setConn (arrive p.world.self.conn f)
        outgoing := Function.update p.outgoing c fs } (Function.update_self ..)
    exact ⟨p', .head ⟨.arrive c, True.intro, .arrive h⟩ hrun, hout, hworld⟩

/-- A delivery comes, and its consumer is cancelled before any call takes it. -/
theorem cancelled_in_flight (d : Delivery)
    (htag : utf8Decode d.method.consumer_tag = some (pyStr "tag")) : ∃ p,
      Reaches memoryEnv memoryArrive (fun _ _ => True) opened p ∧
      p.world.self.conn = d.frames 1 ∧ p.world.self.connected = true ∧ p.world.err = none ∧
      p.world.self.consumer 1 (pyStr "tag") = none := by
  have hsent : Step memoryEnv memoryArrive opened (.deliver 1 d) { opened with
      outgoing := Function.update opened.outgoing 1 (opened.outgoing 1 ++ d.frames 1) } :=
    .deliver (by decide) htag (List.mem_singleton.mpr rfl)
  obtain ⟨p, hrun, hout, hworld⟩ := arrives_all memoryEnv memoryArrive 1 (d.frames 1)
    { opened with
      outgoing := Function.update opened.outgoing 1 (opened.outgoing 1 ++ d.frames 1) }
    (Function.update_self 1 (opened.outgoing 1 ++ d.frames 1) opened.outgoing)
  have hcome : ∀ (fs s : List amqp_frame_t), fs.foldl memoryArrive s = s ++ fs := by
    intro fs
    induction fs with
    | nil => simp
    | cons f fs ih =>
      intro s
      rw [List.foldl_cons, ih, memoryArrive, List.append_assoc, List.singleton_append]
  rw [hcome] at hworld
  have hcancel : Returns (fun fuel => Channel.basic_cancel memoryEnv fuel 0 (pyStr "tag")) p.world
      (.ok ()) (Channel.basic_cancel memoryEnv 1 0 (pyStr "tag") p.world).2 := by
    refine ⟨0, fun fuel hf => ?_⟩
    obtain ⟨fuel, rfl⟩ := Nat.exists_eq_succ_of_ne_zero (Nat.ne_of_gt hf)
    rw [hworld]
    rfl
  refine ⟨_, (Relation.ReflTransGen.head ⟨_, True.intro, hsent⟩ hrun).tail
    ⟨_, True.intro, .basic_cancel hcancel fun _ c hc => ?_⟩, ?_⟩
  · have hone : c = 1 := by
      rw [hworld] at hc
      exact UInt16.toNat_inj.mp (Int.ofNat_inj.mp hc)
    rw [hone]
    exact hout
  · dsimp only
    rw [hworld]
    exact ⟨rfl, rfl, rfl, rfl⟩

/-! ## The law -/

/-- In every run, deliveries in flight survive as long as each call of
`drain_events` finds the consumer of the oldest one registered. -/
theorem deliveries_in_flight_survive_while_their_consumers_are_registered (env : Env σ κ)
    (pending : σ → List amqp_frame_t) (arrive : σ → amqp_frame_t → σ) (p0 : Parties σ κ)
    (hlib : KeepsOrder env.lib pending arrive) (hmem : ∀ n, env.bytesAvailable n = true)
    (hquiet : Quiet env pending) (h0 : Initial pending p0) :
    Survive env pending arrive (Due pending) p0 := by
  intro p hrun
  have h := reaches_inFlight hlib hmem hquiet (inFlight_initial h0) hrun
  refine ⟨h.connected, fun timeout r p' hdue hstep => ?_,
    fun timeout c d rest more hpend hkey hcons => ?_⟩
  · cases hstep with
    | drain_events hret => exact (drain_step hlib hmem hquiet h hdue hret).1
  · obtain ⟨c', d', _, hc, hdeliver, _⟩ := h.oldest hpend
    have hsame : c = c' := congrArg amqp_frame_t.channel hdeliver
    rw [← hsame] at hc
    obtain ⟨t, ht⟩ := drain_events_eq env timeout
    obtain ⟨r, w', _, hret, _⟩ :=
      drain_dispatches hlib hmem hquiet h.connected h.noError hc hpend hkey hcons t
    have hreturns : Returns (fun fuel => Connection.drain_events env fuel timeout) p.world r w' := by
      simp only [ht]
      exact hret
    exact ⟨r, _, .drain_events hreturns⟩

/-- So they do in a run of the queue in memory. -/
theorem deliveries_in_memory_survive_while_their_consumers_are_registered :
    Survive memoryEnv id memoryArrive (Due id) opened :=
  deliveries_in_flight_survive_while_their_consumers_are_registered memoryEnv id memoryArrive opened
    memory_keepsOrder (fun _ => rfl) memory_quiet initial_opened

/-- A delivery that is in flight when its consumer is cancelled costs the
connection. -/
theorem a_delivery_in_flight_at_its_cancel_closes_the_connection :
    KeepsOrder memoryEnv.lib id memoryArrive ∧ Quiet memoryEnv id ∧ Initial id opened ∧
    ¬ Survive memoryEnv id memoryArrive (fun _ _ => True) opened := by
  refine ⟨memory_keepsOrder, memory_quiet, initial_opened, fun hsurvive => ?_⟩
  have htag : utf8Decode (octetwise 1 (by decide) (by decide)).method.consumer_tag =
    some (pyStr "tag") := rfl
  obtain ⟨p, hrun, hframes, hconn, herr, hnone⟩ :=
    cancelled_in_flight (octetwise 1 (by decide) (by decide)) htag
  obtain ⟨t, ht⟩ := drain_events_eq memoryEnv none
  have hkey : ofKey amqp_frame_t.channel 1
      ((octetwise 1 (by decide) (by decide)).content.header 1 ::
        (octetwise 1 (by decide) (by decide)).content.bodies 1) =
      (octetwise 1 (by decide) (by decide)).content.header 1 ::
        (octetwise 1 (by decide) (by decide)).content.bodies 1 ++ [] := rfl
  have hlib : KeepsOrder memoryEnv.lib id memoryArrive := memory_keepsOrder
  obtain ⟨w', hret, hclosed⟩ := drain_lost hlib (fun _ => rfl) hconn herr (by decide) hframes hkey
    htag hnone t
  have hdrained := (hsurvive p hrun).2.1 none (.error badFrame) { p with world := w' } True.intro
    (.drain_events (by simp only [ht]; exact hret))
  have hopen := hdrained.connected
  dsimp only at hopen
  rw [hclosed] at hopen
  cases hopen

end librabbitmq.cancellation
