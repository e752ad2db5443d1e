-- What the methods do to a connection, as rows of acts. A law about the handles
-- of a program is a law about these acts, whatever method makes them.
import Librabbitmq.Session
import Librabbitmq.Handles
import Librabbitmq.Triples

namespace librabbitmq

open Relation

variable {σ κ : Type}

/-! ## Acts -/

/-- A call that a method makes on its own. The open of a channel whose number the
application chose is one only where that is `explicit`. -/
def Event.Plain (explicit : Prop) : Event → Prop
  | .wait _ | .send _ _ | .request _ _ | .other | .amqp_channel_close _ _ => True
  | .amqp_channel_open _ _ => explicit
  | _ => False

/-- The calls that a method makes because of how a call ended. -/
inductive Follows : Event → List Event → Ending → Prop
  | request {c : amqp_channel_t} {reply : amqp_rpc_reply_t} {events : List Event} {ending : Ending} :
      Handled true c reply events ending → Follows (.request c reply) events ending
  | opened {c : amqp_channel_t} {reply : amqp_rpc_reply_t} {events : List Event} {ending : Ending} :
      Handled true 0 reply events ending → Follows (.amqp_channel_open c reply) events ending
  | closed {c : amqp_channel_t} {reply : amqp_rpc_reply_t} {events : List Event} {ending : Ending} :
      Handled true c reply events ending → Follows (.amqp_channel_close c reply) events ending
  | unsent {c : amqp_channel_t} {status : Int} {events : List Event} {ending : Ending} :
      status < 0 → Revived true c events ending → Follows (.send c status) events ending
  | met {c : amqp_channel_t} {m : amqp_close_t} {events : List Event} {ending : Ending} :
      Revived true c events ending →
      Follows (.wait (.ok ⟨c, .method (.channel_close m)⟩)) events ending

/-- The calls of `Connection.connect` on its new handle, over the descriptor that
was there before; then the descriptor, and whether it is connected. -/
inductive Dials (before : Int) : List Event → Int → Bool → Prop
  | begun {n : Nat} : n ≤ 2 → Dials before (List.replicate n .other) before false
  | socket {sockfd : Int} :
      Dials before [.other, .other, .amqp_socket_get_sockfd sockfd] sockfd false
  | refused {sockfd : Int} {reply : amqp_rpc_reply_t} {events : List Event} {ending : Ending} :
      (∀ m, reply ≠ .normal m) → Handled false 0 reply events ending →
      Dials before ([.other, .other, .amqp_socket_get_sockfd sockfd, .amqp_login reply] ++ events)
        sockfd false
  | loggedIn {sockfd : Int} {m : amqp_method_t} :
      Dials before [.other, .other, .amqp_socket_get_sockfd sockfd, .amqp_login (.normal m)]
        sockfd true

/-- The last call of the library was this one, on the current handle. -/
def Connection.Last (self : Connection (Handles σ) κ) (e : Event) : Prop :=
  self.conn.log.getLast? = some ⟨self.conn.current, e⟩

/-- The two connections have the same handle, and the same numbers in use. -/
structure Connection.SameHandle (before after : Connection (Handles σ) κ) : Prop where
  conn : after.conn = before.conn
  connected : after.connected = before.connected
  sockfd : after.sockfd = before.sockfd
  used : after._used_channel_ids = before._used_channel_ids

/-- The connection with its calls noted. -/
def Connection.noted (self : Connection (Handles σ) κ) (events : List Event) (st : σ) :
    Connection (Handles σ) κ :=
  { self with conn := self.conn.note events st }

/-- One act of a method. The application chooses channel numbers only where that is
`explicit`. -/
inductive Act (explicit : Prop) : Connection (Handles σ) κ → Connection (Handles σ) κ → Prop
  /-- A call of the library. -/
  | noted {self : Connection (Handles σ) κ} {e : Event} {st : σ} : self.connected = true →
      e.Plain explicit → Act explicit self (self.noted [e] st)
  /-- A call of the system. -/
  | moved {self : Connection (Handles σ) κ} {st : σ} : Act explicit self (self.noted [] st)
  /-- What follows on the last call. -/
  | handled {self : Connection (Handles σ) κ} {e : Event} {events : List Event} {ending : Ending}
      {st : σ} : self.connected = true → self.Last e → Follows e events ending →
      Act explicit self (self.after events ending st)
  | closed {self : Connection (Handles σ) κ} {st : σ} : self.connected = true →
      Act explicit self (self.after (closing true) .closed st)
  | dialed {self : Connection (Handles σ) κ} {events : List Event} {sockfd : Int}
      {connected : Bool} {st st' : σ} : self.connected = false →
      Dials self.sockfd events sockfd connected →
      Act explicit self { self with
        conn := (self.conn.renew st).note events st'
        sockfd := sockfd
        connected := connected }
  /-- A number is taken for a channel, -/
  | taken {self : Connection (Handles σ) κ} {channel_id : Int} :
      freeChannelId self.channel_max self._used_channel_ids = some channel_id →
      channel_id < 2 ^ 16 →
      Act explicit self { self with _used_channel_ids := self._used_channel_ids ++ [channel_id] }
  /-- and the channel is opened. -/
  | opened {self : Connection (Handles σ) κ} {channel_id : Int} {reply : amqp_rpc_reply_t}
      {st : σ} : self.connected = true →
      freeChannelId self.channel_max self._used_channel_ids = some channel_id →
      channel_id < 2 ^ 16 →
      Act explicit self
        { self.noted [.amqp_channel_open (channelNumber channel_id) reply] st with
          _used_channel_ids := self._used_channel_ids ++ [channel_id] }
  /-- A channel is closed, and its number given back. -/
  | removed {self : Connection (Handles σ) κ} {channel_id : Int} {reply : amqp_rpc_reply_t}
      {events : List Event} {ending : Ending} {st : σ} : self.connected = true →
      Handled true (channelNumber channel_id) reply events ending →
      ending = .normal ∨ ending = .channelError →
      Act explicit self
        { self.after (.amqp_channel_close (channelNumber channel_id) reply :: events) ending st with
          _used_channel_ids := self._used_channel_ids.erase channel_id }
  /-- The tables of the Python layer. -/
  | books {self self' : Connection (Handles σ) κ} : self.SameHandle self' → Act explicit self self'

abbrev Acts (explicit : Prop) : Connection (Handles σ) κ → Connection (Handles σ) κ → Prop :=
  ReflTransGen (Act explicit)

/-- The triple of a method. -/
abbrev Does {α : Type} (explicit : Prop) (P : World (Handles σ) κ → Prop)
    (x : Run (World (Handles σ) κ) α) (Q : α → World (Handles σ) κ → Prop) : Prop :=
  Moves World.self (Act explicit) P x Q

/-- The connection is there. -/
def Online (w : World (Handles σ) κ) : Prop := w.self.connected = true

def Anywhere (_ : World (Handles σ) κ) : Prop := True

def Anyhow {α : Type} (_ : α) (_ : World (Handles σ) κ) : Prop := True

variable {explicit : Prop} {α β : Type} {x : Client σ κ}

/-! ## What keeps the connection -/

/-- A run that keeps the connection object. -/
def KeepsSelf (y : Run (World σ κ) α) : Prop := ∀ w, (y w).2.self = w.self

theorem KeepsSelf.does {y : Run (World (Handles σ) κ) α} (h : KeepsSelf y)
    {P : Connection (Handles σ) κ → Prop} :
    Does explicit (fun w => P w.self) y fun _ w => P w.self := by
  refine Moves.still (fun w _ => h w) fun w a w' hw ha => ?_
  have hself := h w
  rw [ha] at hself
  dsimp only at hself
  rw [hself]
  exact hw

theorem KeepsSelf.bind {y : Run (World σ κ) α} {f : α → Run (World σ κ) β} (hy : KeepsSelf y)
    (hf : ∀ a, KeepsSelf (f a)) : KeepsSelf (y >>= f) := by
  intro w
  have h := hy w
  rw [Run.bind_apply]
  rcases hrun : y w with ⟨o, w1⟩
  rw [hrun] at h
  cases o with
  | ret a => exact (hf a w1).trans h
  | crash => exact h
  | hang => exact h

/-- The connection behind a run that only keeps it in the end. -/
theorem self_bind {y : Run (World σ κ) α} {f : α → Run (World σ κ) β} (hf : ∀ a, KeepsSelf (f a))
    (w : World σ κ) : ((y >>= f) w).2.self = (y w).2.self := by
  rw [Run.bind_apply]
  rcases y w with ⟨o, w1⟩
  cases o with
  | ret a => exact hf a w1
  | crash => rfl
  | hang => rfl

theorem keepsSelf_pure (a : α) : KeepsSelf (pure a : Run (World σ κ) α) := fun _ => rfl

theorem keepsSelf_crash : KeepsSelf (Run.crash : Run (World σ κ) α) := fun _ => rfl

theorem keepsSelf_lift (o : Outcome α) : KeepsSelf (Run.lift o : Run (World σ κ) α) := fun _ => rfl

theorem keepsSelf_get : KeepsSelf (Run.get : Run (World σ κ) (World σ κ)) := fun _ => rfl

theorem keepsSelf_setString (e : PyErr) :
    KeepsSelf (PyErr_SetString e : Run (World σ κ) Unit) := fun _ => rfl

theorem keepsSelf_getAttr_channels (env : Env σ κ) :
    KeepsSelf (PyObject_GetAttrString_channels env : Run (World σ κ) (Dict Int Nat)) := fun _ => rfl

theorem keepsSelf_withErr (f : Option PyErr → Outcome (α × Option PyErr)) :
    KeepsSelf (withErr f : Run (World σ κ) α) := by
  intro w
  unfold withErr
  split <;> rfl

theorem keepsSelf_withoutThreadState (survives : Bool)
    (f : Option PyErr → Outcome (α × Option PyErr)) :
    KeepsSelf (withoutThreadState survives f : Run (World σ κ) α) := by
  intro w
  unfold withoutThreadState
  split
  · split <;> rfl
  · rfl
  · rfl
  · rfl

theorem keepsSelf_maybeUnicodes (strings : List PyObj) :
    KeepsSelf (maybeUnicodes strings : Run (World σ κ) _) := by
  induction strings with
  | nil => exact keepsSelf_pure _
  | cons s rest ih =>
    unfold maybeUnicodes
    refine (keepsSelf_withErr _).bind fun s => ?_
    cases s
    case null => exact keepsSelf_pure _
    all_goals
      refine ih.bind fun rest => ?_
      cases rest <;> exact keepsSelf_pure _

theorem keepsSelf_parseSsize (n : Int) : KeepsSelf (parseSsize n : Run (World σ κ) _) := by
  unfold parseSsize
  split
  · exact keepsSelf_pure _
  · exact (keepsSelf_setString _).bind fun _ => keepsSelf_pure _

/-! ## Calls of the library -/

/-- A function of the library that notes itself. -/
def Notes (f : Handles σ → α × Handles σ) (event : α → Event) : Prop :=
  ∀ s, ∃ st, (f s).2 = s.note [event (f s).1] st

theorem notes_tracked (f : σ → α × σ) (event : α → Event) :
    Notes (fun s => s.tracked f event) event := fun _ => ⟨_, rfl⟩

theorem last_noted (self : Connection (Handles σ) κ) (e : Event) (st : σ) :
    (self.noted [e] st).Last e := by
  simp [Connection.Last, Connection.noted, Handles.note_log]

/-- What follows on a call, right behind it. -/
theorem act_follows {self : Connection (Handles σ) κ} {e : Event} {events : List Event}
    {ending : Ending} {st st' : σ} (hc : self.connected = true) (h : Follows e events ending) :
    Act explicit (self.noted [e] st) (self.after (e :: events) ending st') := by
  have hact : Act explicit (self.noted [e] st) ((self.noted [e] st).after events ending st') :=
    .handled hc (last_noted self e st) h
  rwa [show (self.noted [e] st).after events ending st' = self.after (e :: events) ending st' from
    after_note self [e] events ending st' st] at hact

/-- A call that a method makes. -/
theorem does_call {f : Handles σ → α × Handles σ} (event : α → Event) (hf : Notes f event)
    (hplain : ∀ a, (event a).Plain explicit) :
    Does (κ := κ) explicit Online (onConn f) fun a w => Online w ∧ w.self.Last (event a) := by
  intro w hw
  obtain ⟨st, hst⟩ := hf w.self.conn
  have hself : (onConn f w).2.self = w.self.noted [event (f w.self.conn).1] st := by
    change { w.self with conn := (f w.self.conn).2 } = _
    rw [hst]
    rfl
  refine ⟨?_, fun a w' ha => ?_⟩
  · rw [hself]
    exact .single (.noted hw (hplain _))
  · cases ha
    constructor
    · exact hw
    · change (onConn f w).2.self.Last _
      rw [hself]
      apply last_noted

/-- What a handler does behind a call. -/
theorem handler_acts {w w' : World (Handles σ) κ} {o : Outcome Int} {e : Event}
    {events : List Event} {ending : Ending} (hw : Online w) (hlast : w.self.Last e)
    (hfollows : Follows e events ending) (h : Ran w (o, w') events ending) :
    Acts explicit w.self w'.self ∧ (o = .ret 0 → Online w') := by
  obtain ⟨st, hafter⟩ := h.after
  dsimp only at hafter
  refine ⟨?_, fun ho => ?_⟩
  · rw [hafter]
    exact .single (.handled hw hlast hfollows)
  · subst ho
    unfold Online at hw ⊢
    rw [hafter, h.normal]
    simp [Connection.after, hw]

/-- The handler behind the reply to a request. -/
theorem does_handle (fuel : Nat) (channel : UInt32) (reply : amqp_rpc_reply_t) (context : String)
    {e : Event} (hfollows : ∀ {events ending}, Handled true channel.toUInt16 reply events ending →
      Follows e events ending) :
    Does (κ := κ) explicit (fun w => Online w ∧ w.self.Last e)
      (PyRabbitMQ_HandleAMQError x.env fuel channel reply context) fun r w => r = 0 → Online w := by
  rintro w ⟨hw, hlast⟩
  obtain ⟨events, ending, hh, hran⟩ := (handlers_ran x fuel).1 channel reply context w
  rw [show w.self.connected = true from hw] at hh
  obtain ⟨hacts, honline⟩ := @handler_acts _ _ explicit _ _ _ _ _ _ hw hlast (hfollows hh) hran
  refine ⟨hacts, fun r w' hr hzero => ?_⟩
  rw [hr, hzero] at honline
  exact honline rfl

/-- The revival behind a send that failed, or behind a `channel.close`. -/
theorem does_revive (fuel : Nat) (channel : UInt32) {e : Event}
    (hfollows : ∀ {events ending}, Revived true channel.toUInt16 events ending →
      Follows e events ending) :
    Does (κ := κ) explicit (fun w => Online w ∧ w.self.Last e)
      (PyRabbitMQ_revive_channel x.env fuel channel) Anyhow := by
  rintro w ⟨hw, hlast⟩
  obtain ⟨events, ending, hr, hran⟩ := (handlers_ran x fuel).2.1 channel w
  rw [show w.self.connected = true from hw] at hr
  exact ⟨(handler_acts hw hlast (hfollows hr) hran).1, fun _ _ _ => trivial⟩

theorem does_close {P : World (Handles σ) κ → Prop} :
    Does explicit P (PyRabbitMQ_Connection_close x.env) Anyhow := by
  intro w _
  refine ⟨?_, fun _ _ _ => trivial⟩
  obtain ⟨st, hst⟩ := closed_self x w
  change Acts explicit w.self (w.closed x.env).self
  cases hc : w.self.connected with
  | true =>
    rw [hst, hc]
    exact .single (.closed hc)
  | false =>
    unfold World.closed
    rw [hc]
    exact .refl

/-- `PyRabbitMQ_Not_Connected`, on a connection that is there and on one that is not. -/
theorem notConnected_cases (w : World σ κ) :
    w.self.connected = true ∧ PyRabbitMQ_Not_Connected w = (.ret false, w) ∨
    w.self.connected = false ∧ PyRabbitMQ_Not_Connected w = (.ret true,
      w.setErr (some ⟨.ConnectionError, "Operation on closed connection", []⟩)) := by
  unfold PyRabbitMQ_Not_Connected
  rw [Run.get_bind_apply]
  cases hc : w.self.connected with
  | true => exact Or.inl ⟨rfl, rfl⟩
  | false => exact Or.inr ⟨rfl, rfl⟩

/-- A method that does nothing on a closed connection. -/
theorem does_guarded {a : α} {rest : Run (World (Handles σ) κ) α}
    (h : Does explicit Online rest Anyhow) :
    Does explicit Anywhere
      (PyRabbitMQ_Not_Connected >>= fun b => if b = true then pure a else rest) Anyhow := by
  intro w _
  rcases notConnected_cases w with ⟨hc, hrun⟩ | ⟨_, hrun⟩
  · rw [Run.bind_ret hrun, if_neg Bool.false_ne_true]
    exact h w hc
  · rw [Run.bind_ret hrun, if_pos rfl]
    exact ⟨.refl, fun _ _ _ => trivial⟩

end librabbitmq
