-- The methods that read frames as rows of acts. The receive machine revives a
-- channel and calls a callback in its midst.
import Librabbitmq.BasicGet
import Librabbitmq.Methods

namespace librabbitmq

open Relation

variable {σ κ : Type} {explicit : Prop} {α β : Type} {x : Client σ κ}

/-! ## The receive machine -/

/-- The callbacks of a program do nothing to a connection but acts. -/
def Client.Behaves (x : Client σ κ) (explicit : Prop) : Prop :=
  ∀ callback message self, Acts explicit self (x.invoke callback message self).1

/-- A method frame that the machine has just read. -/
def Met (c : amqp_channel_t) (m : amqp_method_t) (w : World (Handles σ) κ) : Prop :=
  Online w ∧ w.self.Last (.wait (.ok ⟨c, .method m⟩))

/-- What is known behind a read. -/
def BehindRead (r : Except Int amqp_frame_t) (w : World (Handles σ) κ) : Prop :=
  Online w ∧ ∀ f, r = .ok f → w.self.Last (.wait (.ok f))

theorem BehindRead.met {f : amqp_frame_t} {m : amqp_method_t} {w : World (Handles σ) κ}
    (h : BehindRead (.ok f) w) (hf : f.payload = .method m) : Met f.channel m w := by
  refine ⟨h.1, ?_⟩
  rw [← hf]
  exact h.2 f rfl

theorem does_readFrame {wait : Handles σ → ReadResult × Handles σ} (hwait : Notes wait .wait) :
    Does (κ := κ) explicit Online (readFrame wait) BehindRead := by
  intro w hw
  obtain ⟨st, hst⟩ := hwait w.self.conn
  rcases hr : wait w.self.conn with ⟨r, s⟩
  rw [hr] at hst
  dsimp only at hst
  subst hst
  have hact : Acts explicit w.self (w.self.noted [.wait r] st) := .single (.noted hw trivial)
  cases r with
  | ok f =>
    rw [readFrame_ok hr]
    refine ⟨hact, fun r w' h => ?_⟩
    cases h
    refine ⟨hw, fun g hg => ?_⟩
    cases hg
    apply last_noted
  | failed status hs =>
    rw [readFrame_failed hr]
    refine ⟨hact, fun r w' h => ?_⟩
    cases h
    exact ⟨hw, fun g hg => by cases hg⟩
  | blocked =>
    rw [readFrame_blocked hr]
    exact ⟨hact, fun r w' h => by cases h⟩

theorem notes_waitHeader (c : amqp_channel_t) :
    Notes (PyRabbitMQ_recv.waitHeader x.env.lib c) .wait := by
  intro s
  unfold PyRabbitMQ_recv.waitHeader
  split <;> exact ⟨_, rfl⟩

/-- The loop that waits for a `basic.deliver`. -/
theorem does_first (fuel : Nat) : Does explicit Online
    (Run.loop (PyRabbitMQ_recv.first x.env) fuel ()) fun r w => Online w ∧
      ∀ c m, r = .altframe c m → Met c m w := by
  refine Moves.loop (fun _ => Online) (fun _ => ?_) fuel ()
  unfold PyRabbitMQ_recv.first
  refine (does_readFrame (notes_tracked _ _)).bind fun r => ?_
  cases r with
  | error status => exact Moves.pure fun w h => ⟨h.1, fun _ _ he => by cases he⟩
  | ok f =>
    dsimp only
    cases hf : f.payload with
    | method m =>
      have hmet : ∀ w : World (Handles σ) κ, BehindRead (.ok f) w → Online w ∧
          ∀ c n, FirstEnd.altframe f.channel m = .altframe c n → Met c n w := by
        intro w h
        refine ⟨h.1, fun c n he => ?_⟩
        cases he
        exact h.met hf
      cases m with
      | basic_deliver m => exact Moves.pure fun w h => ⟨h.1, fun _ _ he => by cases he⟩
      | basic_get_ok m => exact Moves.pure hmet
      | channel_close m => exact Moves.pure hmet
      | connection_close m => exact Moves.pure hmet
      | other id => exact Moves.pure hmet
    | header size props => exact Moves.pure fun w h => h.1
    | body_fragment b => exact Moves.pure fun w h => h.1
    | other t h => exact Moves.pure fun w h => h.1

theorem does_receivedFrame (fuel : Nat) (c : amqp_channel_t) (m : amqp_method_t) :
    Does (κ := κ) explicit (Met c m) (PyRabbitMQ_SetErr_ReceivedFrame x.env fuel c m) Anyhow := by
  unfold PyRabbitMQ_SetErr_ReceivedFrame
  cases m with
  | channel_close m =>
    have hc : c.toUInt32.toUInt16 = c := by simp
    refine ((keepsSelf_setString _).does (P := fun self => self.connected = true ∧
      self.Last (.wait (.ok ⟨c, .method (.channel_close m)⟩)))).bind fun _ => ?_
    refine (does_revive fuel c.toUInt32 fun h => ?_).bind fun _ => (keepsSelf_pure _).anyhow
    rw [hc] at h
    exact Follows.met h
  | connection_close m => exact (keepsSelf_setString _).anyhow.bind fun _ => does_close
  | basic_deliver m => exact (keepsSelf_setString _).anyhow
  | basic_get_ok m => exact (keepsSelf_setString _).anyhow
  | other id => exact (keepsSelf_setString _).anyhow

theorem does_altframe (fuel : Nat) (p : Option PyMembers) (c : amqp_channel_t)
    (m : amqp_method_t) :
    Does (κ := κ) explicit (Met c m) (PyRabbitMQ_recv.altframe x.env fuel p c m) Anyhow :=
  (does_receivedFrame fuel c m).bind fun _ => (keepsSelf_pure _).anyhow

theorem keepsSelf_copy (b : Octets) : ∀ v : BodyVars,
    KeepsSelf (PyRabbitMQ_recv.copy b v : Run (World σ κ) _) := by
  induction b with
  | nil => exact fun v => keepsSelf_pure v
  | cons o b ih =>
    intro v
    unfold PyRabbitMQ_recv.copy
    split
    · exact fun _ => rfl
    · exact KeepsSelf.bind (fun _ => rfl) fun _ => ih _

/-- What is known behind a turn of the body loop. -/
def BehindTurn (r : BodyVars ⊕ BodyEnd) (w : World (Handles σ) κ) : Prop :=
  Online w ∧ ∀ c m, r = .inr (.altframe c m) → Met c m w

theorem does_behind_turn {r : BodyVars ⊕ BodyEnd} (h : ∀ c m, r ≠ .inr (.altframe c m)) :
    Does (κ := κ) (σ := σ) explicit Online (pure r) BehindTurn :=
  Moves.pure fun _ hw => ⟨hw, fun c m he => absurd he (h c m)⟩

theorem does_copyFragment (b : Octets) (v : BodyVars) :
    Does (κ := κ) (σ := σ) explicit Online (PyRabbitMQ_recv.copyFragment b v) BehindTurn :=
  (keepsSelf_copy b v).online.bind fun _ => does_behind_turn (by simp)

theorem does_fragment (p : Bool) (body_target : BitVec 64) (v : BodyVars) (b : Octets) :
    Does explicit Online (PyRabbitMQ_recv.fragment x.env p body_target v b) BehindTurn := by
  unfold PyRabbitMQ_recv.fragment
  dsimp only
  split
  · split
    · split
      · exact does_copyFragment _ _
      · exact (keepsSelf_setString _).online.bind fun _ => does_behind_turn (by simp)
    · split
      · refine (keepsSelf_withErr _).online.bind fun payload => ?_
        cases payload <;> exact does_behind_turn (by simp)
      · exact does_behind_turn (by simp)
  · exact does_copyFragment _ _

theorem does_turn (p : Bool) (c : amqp_channel_t) (body_target : BitVec 64) (v : BodyVars) :
    Does explicit Online (PyRabbitMQ_recv.turn x.env p c body_target v) BehindTurn := by
  have hread : Does explicit Online (amqp_simple_wait_frame_on_channel x.env c) BehindRead :=
    does_readFrame (notes_tracked _ _)
  unfold PyRabbitMQ_recv.turn
  split
  · refine hread.bind fun r => ?_
    cases r with
    | error status => exact (does_behind_turn (by simp)).pre fun w h => h.1
    | ok f =>
      dsimp only
      cases hf : f.payload with
      | method m =>
        refine Moves.pure fun w h => ⟨h.1, fun c n he => ?_⟩
        cases he
        exact h.met hf
      | body_fragment b => exact (does_fragment p body_target v b.bytes).pre fun w h => h.1
      | header size props =>
        exact ((keepsSelf_setString _).online.bind fun _ => does_behind_turn (by simp)).pre
          fun w h => h.1
      | other t h =>
        exact ((keepsSelf_setString _).online.bind fun _ => does_behind_turn (by simp)).pre
          fun w h => h.1
  · exact does_behind_turn (by simp)

/-- The callback of a consumer may do any acts. -/
theorem does_applyCallback (hx : x.Behaves explicit) {P : World (Handles σ) κ → Prop}
    (consumer_tag : PyStr) (channel : Int) (propdict delivery_info : PyMembers)
    (view : List (Option UInt8)) :
    Does explicit P (PyRabbitMQ_ApplyCallback x.env consumer_tag channel propdict delivery_info
      view) Anyhow := by
  unfold PyRabbitMQ_ApplyCallback
  refine Moves.get_bind fun v _ => ?_
  cases v.self.callback_for_tag channel consumer_tag with
  | none => exact (keepsSelf_pure _).anyhow
  | some callback =>
    have hcall : ∀ channelobj : Nat, Does explicit Anywhere (do
        let message := ⟨channelobj, .dict propdict, .dict delivery_info, .view view⟩
        Run.modify fun w : World (Handles σ) κ =>
          let (self, err) := x.env.invoke callback message w.self
          { w with self, err, calls := w.calls ++ [⟨channel, consumer_tag, callback, message⟩] }
        return (0 : Int)) Anyhow := fun channelobj =>
      (Moves.modify (Q := Anyhow) (fun w _ => hx callback _ w.self) fun _ _ => trivial).bind fun _ =>
        (keepsSelf_pure _).anyhow
    refine (keepsSelf_getAttr_channels x.env).anyhow.bind fun channels => ?_
    cases channels.lookup channel with
    | none => exact (keepsSelf_pure _).anyhow
    | some channelobj =>
      refine Moves.get_bind fun u _ => ?_
      split
      · exact (keepsSelf_setString _).anyhow.bind fun _ => (keepsSelf_pure _).anyhow
      · exact (hcall channelobj).pre fun _ _ => trivial

theorem does_finish (hx : x.Behaves explicit) {P : World (Handles σ) κ → Prop}
    (p : Option PyMembers) (delivery : Option (PyStr × PyMembers)) (c : amqp_channel_t)
    (body_target : BitVec 64) (propdict : PyMembers) (v : BodyVars) :
    Does explicit P (PyRabbitMQ_recv.finish x.env p delivery c body_target propdict v)
      Anyhow := by
  unfold PyRabbitMQ_recv.finish
  cases p with
  | some dict =>
    dsimp only
    split
    · exact (keepsSelf_pure _).anyhow
    · apply KeepsSelf.anyhow
      exact (keepsSelf_lift _).bind fun _ => (keepsSelf_lift _).bind fun _ =>
        (keepsSelf_lift _).bind fun _ => keepsSelf_pure _
  | none =>
    cases v.view with
    | none => exact (keepsSelf_pure _).anyhow
    | some view =>
      cases delivery with
      | none => exact Moves.crash
      | some d =>
        obtain ⟨consumer_tag, delivery_info⟩ := d
        exact (does_applyCallback hx _ _ _ _ _).bind fun _ => (keepsSelf_pure _).anyhow

theorem does_body (hx : x.Behaves explicit) (fuel : Nat) (p : Option PyMembers)
    (delivery : Option (PyStr × PyMembers)) (c : amqp_channel_t) (body_target : BitVec 64)
    (propdict : PyMembers) :
    Does explicit Online (PyRabbitMQ_recv.body x.env fuel p delivery c body_target propdict)
      Anyhow := by
  unfold PyRabbitMQ_recv.body
  have hloop : Does explicit Online
      (Run.loop (PyRabbitMQ_recv.turn x.env p.isSome c body_target) fuel BodyVars.init)
      fun r w => Online w ∧ ∀ c m, r = .altframe c m → Met c m w := by
    refine Moves.loop (fun _ => Online) (fun v => ?_) fuel BodyVars.init
    apply (does_turn p.isSome c body_target v).post
    rintro (v | r) w ⟨hw, hmet⟩
    · exact hw
    · exact ⟨hw, fun c m he => hmet c m (by rw [he])⟩
  refine hloop.bind fun r => ?_
  cases r with
  | altframe c m => exact (does_altframe fuel p c m).pre fun w h => h.2 c m rfl
  | goto_finally => exact (keepsSelf_pure _).anyhow
  | done v => exact does_finish hx p delivery c body_target propdict v

theorem does_content (hx : x.Behaves explicit) (fuel : Nat) (p : Option PyMembers)
    (delivery : Option (PyStr × PyMembers)) (c : amqp_channel_t) :
    Does explicit Online (PyRabbitMQ_recv.content x.env fuel p delivery c) Anyhow := by
  unfold PyRabbitMQ_recv.content
  refine (does_readFrame (notes_waitHeader c)).bind fun r => ?_
  cases r with
  | error status => exact (keepsSelf_pure _).anyhow
  | ok f =>
    dsimp only
    cases hf : f.payload with
    | method m => exact (does_altframe fuel p f.channel m).pre fun w h => h.met hf
    | header size props =>
      apply Moves.pre _ fun w h => h.1
      exact (keepsSelf_withErr _).online.bind fun propdict =>
        does_body hx fuel p delivery f.channel size propdict
    | body_fragment b =>
      exact (keepsSelf_setString _).anyhow.bind fun _ => (keepsSelf_pure _).anyhow
    | other t h => exact (keepsSelf_setString _).anyhow.bind fun _ => (keepsSelf_pure _).anyhow

theorem keepsSelf_delivery (m : amqp_basic_deliver_t) :
    KeepsSelf (PyRabbitMQ_recv.delivery m : Run (World σ κ) _) := by
  unfold PyRabbitMQ_recv.delivery
  refine (keepsSelf_withErr _).bind fun delivery_info => (keepsSelf_withErr _).bind fun tag => ?_
  cases tag
  case str tag => exact (keepsSelf_lift _).bind fun _ => keepsSelf_pure _
  all_goals exact keepsSelf_crash

/-- A run of the receive machine is a row of acts, the callback among them. -/
theorem does_recv (hx : x.Behaves explicit) (fuel : Nat) (p : Option PyMembers)
    (piggyback : Bool) :
    Does explicit Online (PyRabbitMQ_recv x.env fuel p piggyback) Anyhow := by
  unfold PyRabbitMQ_recv
  split
  · exact does_content hx fuel p none 0
  · refine (does_first fuel).bind fun r => ?_
    cases r with
    | failed status => exact (keepsSelf_pure _).anyhow
    | altframe c m => exact (does_altframe fuel p c m).pre fun w h => h.2 c m rfl
    | deliver c m =>
      apply Moves.pre _ fun w h => h.1
      exact (keepsSelf_delivery m).online.bind fun delivery =>
        does_content hx fuel p (some delivery) c

/-! ## The reads of the extension type

The functions that only look into the buffers of the library are not among its
noted calls, so the methods that ask them are here with a note before. -/

section

variable (env : Env σ κ) (note : Run (World σ κ) Unit) (fuel : Nat)

/-- `Connection._basic_recv`, with a note before it asks for the buffers. -/
def PyRabbitMQ_Connection_basic_recv.noting (timeout : Rat) : Run (World σ κ) (Option Unit) := do
  if ← PyRabbitMQ_Not_Connected then return none
  if PYRMQ_SHOULD_POLL timeout then note
  let w ← Run.get
  if PYRMQ_SHOULD_POLL timeout && !env.lib.AMQP_ACTIVE_BUFFERS w.self.conn then
    let ready ← RabbitMQ_WAIT env fuel timeout
    if (← PyRabbitMQ_HandlePollError ready) ≤ 0 then return none
  let (retval, _) ← PyRabbitMQ_recv env fuel none false
  if retval < 0 then
    let w ← Run.get
    if w.err.isNone then
      PyErr_SetString ⟨.ConnectionError, "Bad frame read", []⟩
    PyRabbitMQ_Connection_close env
    return none
  return some ()

/-- `Connection._basic_get`, with a note before it asks for the buffers. -/
def PyRabbitMQ_Connection_basic_get.noting (channel : Int) (queue : PyObj) (no_ack : Bool) :
    Run (World σ κ) (Option PyObj) := do
  if ← PyRabbitMQ_Not_Connected then return none
  match ← withErr fun err => .ret (PyObjectArray_Maybe_Unicode queue err) with
  | .null => return none
  | queue =>
    let queue ← Run.lift (PyString_AS_AMQBYTES queue)
    let reply ← onConn fun s =>
      env.lib.amqp_basic_get s (parseUnsigned channel).toUInt16 queue no_ack
    if (← PyRabbitMQ_HandleAMQError env fuel (parseUnsigned channel) reply "basic.get") ≠ 0 then
      return none
    match reply with
    | .normal (.basic_get_ok ok) =>
      let delivery_info ← withErr fun err =>
        amqp_basic_deliver_to_PyDict [] ok.delivery_tag ok.exchange ok.routing_key ok.redelivered
          err
      let delivery_info ← Run.lift
        (PyDict_SetItemString delivery_info "message_count" (.int ok.message_count.toNat))
      let p ← Run.lift (PyDict_SetItemString [] "delivery_info" (.dict delivery_info))
      note
      let w ← Run.get
      if env.lib.amqp_data_in_buffer w.self.conn then
        let (retval, p) ← PyRabbitMQ_recv env fuel (some p) true
        if retval < 0 then
          let w ← Run.get
          if w.err.isNone then
            PyErr_SetString ⟨.ConnectionError, "Bad frame read", []⟩
          PyRabbitMQ_Connection_close env
          return none
        return p.map .dict
      return some (.dict p)
    | _ => return some .none

/-- A note that does nothing leaves the method as it is. -/
theorem basic_recv_noting_nothing (timeout : Rat) :
    PyRabbitMQ_Connection_basic_recv.noting env (pure ()) fuel timeout =
      PyRabbitMQ_Connection_basic_recv env fuel timeout := by
  unfold PyRabbitMQ_Connection_basic_recv.noting PyRabbitMQ_Connection_basic_recv
  split <;> rfl

theorem basic_get_noting_nothing (channel : Int) (queue : PyObj) (no_ack : Bool) :
    PyRabbitMQ_Connection_basic_get.noting env (pure ()) fuel channel queue no_ack =
      PyRabbitMQ_Connection_basic_get env fuel channel queue no_ack := rfl

end

/-- The note of a read. -/
def noteRead : Run (World (Handles σ) κ) Unit :=
  onConn fun s => s.tracked (fun st => ((), st)) fun _ => .other

theorem does_noteRead : Does (κ := κ) (σ := σ) explicit Online noteRead fun _ => Online :=
  (does_call (fun _ => .other) (notes_tracked _ _) fun _ => trivial).post fun _ _ h => h.1

theorem does_select (timeout : Rat) : Does (κ := κ) explicit Online
    (onConn fun s => x.env.lib.select s timeout) fun _ => Online := by
  intro w hw
  refine ⟨.single .moved, fun a w' ha => ?_⟩
  cases ha
  exact hw

theorem does_wait (fuel : Nat) (timeout : Rat) : Does (κ := κ) explicit Online
    (RabbitMQ_WAIT x.env fuel timeout) fun _ => Online := by
  unfold RabbitMQ_WAIT
  split
  · refine Moves.loop (fun _ => Online) (fun v => ?_) fuel (0, timeout)
    unfold RabbitMQ_wait_timeout.turn
    dsimp only
    split
    · refine (does_select _).bind fun r => ?_
      split
      · exact Moves.pure fun _ h => h
      · split <;> exact Moves.pure fun _ h => h
    · exact Moves.pure fun _ h => h
  · unfold RabbitMQ_wait_nb
    refine (does_select _).bind fun r => ?_
    split
    · exact (keepsSelf_pure _).online
    · split <;> exact (keepsSelf_pure _).online

theorem keepsSelf_handlePollError (ready : Int) :
    KeepsSelf (PyRabbitMQ_HandlePollError ready : Run (World σ κ) Int) := by
  have h : KeepsSelf (do
      let w ← Run.get
      if ready = 0 ∧ w.err.isNone then
        PyErr_SetString ⟨.socket_timeout, "timed out", []⟩
      return ready : Run (World σ κ) Int) := by
    refine keepsSelf_get.bind fun w => ?_
    split
    · exact (keepsSelf_setString _).bind fun _ => keepsSelf_pure _
    · exact keepsSelf_pure _
  unfold PyRabbitMQ_HandlePollError
  refine keepsSelf_get.bind fun w => ?_
  split
  · exact (keepsSelf_setString _).bind fun _ => h
  · exact h

/-- What a method does behind a receive machine that failed. -/
theorem does_wrapUp {P : World (Handles σ) κ → Prop} (a : α) : Does explicit P (do
    let w ← Run.get
    if w.err.isNone then
      PyErr_SetString ⟨.ConnectionError, "Bad frame read", []⟩
    PyRabbitMQ_Connection_close x.env
    return a) Anyhow := by
  refine Moves.get_bind fun w _ => ?_
  split
  · exact (keepsSelf_setString _).anyhow.bind fun _ => does_close.bind fun _ =>
      (keepsSelf_pure _).anyhow
  · exact does_close.bind fun _ => (keepsSelf_pure _).anyhow

theorem does_afterPoll (hx : x.Behaves explicit) (fuel : Nat) :
    Does explicit Online (drain.afterPoll x.env fuel) Anyhow := by
  unfold drain.afterPoll
  refine (does_recv hx fuel none false).bind ?_
  rintro ⟨retval, _⟩
  apply Moves.ite
  · exact fun _ => does_wrapUp none
  · exact fun _ => (keepsSelf_pure _).anyhow

theorem does_afterReply (hx : x.Behaves explicit) (fuel : Nat) (p : PyMembers) :
    Does explicit Online (basic_get.afterReply x.env fuel p) Anyhow := by
  unfold basic_get.afterReply
  refine (does_recv hx fuel (some p) true).bind ?_
  rintro ⟨retval, p⟩
  apply Moves.ite
  · exact fun _ => does_wrapUp none
  · exact fun _ => (keepsSelf_pure _).anyhow

theorem does_basic_recv (hx : x.Behaves explicit) (fuel : Nat) (timeout : Rat) :
    Does explicit Anywhere
      (PyRabbitMQ_Connection_basic_recv.noting x.env noteRead fuel timeout) Anyhow := by
  have hpoll : Does explicit Online (do
      let w ← Run.get
      if PYRMQ_SHOULD_POLL timeout && !x.env.lib.AMQP_ACTIVE_BUFFERS w.self.conn then
        let ready ← RabbitMQ_WAIT x.env fuel timeout
        if (← PyRabbitMQ_HandlePollError ready) ≤ 0 then return none
      drain.afterPoll x.env fuel : Run (World (Handles σ) κ) (Option Unit)) Anyhow := by
    refine Moves.get_bind fun v hv => ?_
    apply Moves.pre (P := Online) _ fun w h => h ▸ hv
    apply Moves.ite
    · intro _
      refine (does_wait fuel timeout).bind fun ready => ?_
      refine (keepsSelf_handlePollError ready).online.bind fun ready => ?_
      apply Moves.ite
      · exact fun _ => (keepsSelf_pure _).anyhow
      · exact fun _ => does_afterPoll hx fuel
    · exact fun _ => does_afterPoll hx fuel
  unfold PyRabbitMQ_Connection_basic_recv.noting
  apply does_guarded
  apply Moves.ite
  · exact fun _ => does_noteRead.bind fun _ => hpoll
  · exact fun _ => hpoll

theorem does_basic_get (hx : x.Behaves explicit) (fuel : Nat) (channel : Int) (queue : PyObj)
    (no_ack : Bool) :
    Does explicit Anywhere
      (PyRabbitMQ_Connection_basic_get.noting x.env noteRead fuel channel queue no_ack)
      Anyhow := by
  have hcontent : ∀ p, Does explicit Online (do
      let w ← Run.get
      if x.env.lib.amqp_data_in_buffer w.self.conn then basic_get.afterReply x.env fuel p
      else return some (.dict p) : Run (World (Handles σ) κ) (Option PyObj)) Anyhow := by
    intro p
    refine Moves.get_bind fun v hv => ?_
    apply Moves.pre (P := Online) _ fun w h => h ▸ hv
    apply Moves.ite
    · exact fun _ => does_afterReply hx fuel p
    · exact fun _ => (keepsSelf_pure _).anyhow
  unfold PyRabbitMQ_Connection_basic_get.noting
  apply does_guarded
  refine (keepsSelf_withErr _).online.bind fun queue => ?_
  cases queue
  case null => exact (keepsSelf_pure _).anyhow
  all_goals
    refine (keepsSelf_lift _).online.bind fun queue => ?_
    apply Moves.bind (does_call (.request (parseUnsigned channel).toUInt16) (notes_tracked _ _)
      fun _ => trivial)
    intro reply
    refine (does_handle fuel (parseUnsigned channel) reply _ Follows.request).bind fun r => ?_
    apply Moves.ite
    · exact fun _ => (keepsSelf_pure _).anyhow
    · intro hr
      apply Moves.pre (P := Online) _ fun w h => h (by simpa using hr)
      split
      · refine (keepsSelf_withErr _).online.bind fun _ => ?_
        refine (keepsSelf_lift _).online.bind fun _ => ?_
        refine (keepsSelf_lift _).online.bind fun p => ?_
        exact does_noteRead.bind fun _ => hcontent p
      · exact (keepsSelf_pure _).anyhow

end librabbitmq
