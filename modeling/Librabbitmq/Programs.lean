-- Programs over a `Connection`, in one thread. A callback is a program, too: it may
-- call whatever the program around it calls, the receive machine included.
import Librabbitmq.Receiving
import Librabbitmq.Dialing
import Librabbitmq.Registry

namespace librabbitmq

open Relation

variable {σ κ : Type}

/-! ## Calls -/

/-- A call that a program makes: a method of the Python layer, or one of the extension
type on any channel number. A `Channel` is its address. -/
inductive Op (κ : Type) where
  | connect
  | close
  | reconnect
  | fileno
  | channel (channel_id : Option Int)
  | Channel_close (self : Nat)
  | Channel_basic_consume (self : Nat) (queue : PyObj) (consumer_tag : PyStr)
      (no_local no_ack exclusive : Bool) (callback : κ) (arguments : PyMembers)
  | Channel_basic_cancel (self : Nat) (consumer_tag : PyStr)
  | channel_open (channel : Int)
  | channel_close (channel : Int)
  | queue_bind (channel : Int) (queue exchange routing_key : PyObj) (arguments : PyMembers)
  | queue_unbind (channel : Int) (queue exchange routing_key : PyObj) (arguments : PyMembers)
  | queue_delete (channel : Int) (queue : PyObj) (if_unused if_empty : Bool)
  | queue_declare (channel : Int) (queue : PyObj) (passive durable exclusive auto_delete : Bool)
      (arguments : PyMembers)
  | queue_purge (channel : Int) (queue : PyObj)
  | exchange_declare (channel : Int) (exchange type : PyObj) (passive durable : Bool)
      (arguments : PyMembers)
  | exchange_delete (channel : Int) (exchange : PyObj) (if_unused : Bool)
  | basic_publish (channel : Int) (body : Octets) (exchange routing_key : PyObj)
      (propdict : PyMembers) (mandatory immediate : Bool)
  | basic_ack (channel : Int) (delivery_tag : Int) (multiple : Bool)
  | basic_reject (channel : Int) (delivery_tag : Int) (multiple : Bool)
  | basic_cancel (channel : Int) (consumer_tag : PyObj)
  | basic_consume (channel : Int) (queue consumer_tag : PyObj) (no_local no_ack exclusive : Bool)
      (arguments : PyMembers)
  | basic_qos (channel : Int) (prefetch_size prefetch_count : Int) (_global : Bool)
  | flow (channel : Int) (active : Bool)
  | basic_recover (channel : Int) (requeue : Bool)
  | basic_recv (timeout : Rat)
  | basic_get (channel : Int) (queue : PyObj) (no_ack : Bool)

/-- The call opens a channel whose number the program chose. -/
def Op.Explicit : Op κ → Prop
  | .channel (some _) | .channel_open _ => True
  | _ => False

/-- A call whose result the program may drop. -/
def called {α : Type} (y : Run (World (Handles σ) κ) α) : Run (World (Handles σ) κ) Unit := do
  let _ ← y
  return ()

/-- A call, as the library sees it. -/
def Client.exec (x : Client σ κ) (fuel : Nat) : Op κ → Run (World (Handles σ) κ) Unit
  | .connect => called (Connection.connect x.env x.api.tracked x.init fuel)
  | .close => called (Connection.close x.env)
  | .reconnect => called (Connection.reconnect x.env x.api.tracked x.init fuel)
  | .fileno => called (fromPython PyRabbitMQ_Connection_fileno)
  | .channel channel_id => called (Connection.channel x.env fuel channel_id)
  | .Channel_close self => called (Channel.close x.env fuel self)
  | .Channel_basic_consume self queue consumer_tag no_local no_ack exclusive callback arguments =>
    called (Channel.basic_consume x.env x.api.tracked fuel self queue consumer_tag no_local no_ack
      exclusive callback arguments)
  | .Channel_basic_cancel self consumer_tag =>
    called (Channel.basic_cancel x.env fuel self consumer_tag)
  | .channel_open channel =>
    called (fromPython (PyRabbitMQ_Connection_channel_open x.env fuel channel))
  | .channel_close channel =>
    called (fromPython (PyRabbitMQ_Connection_channel_close x.env fuel channel))
  | .queue_bind channel queue exchange routing_key arguments =>
    called (fromPython (PyRabbitMQ_Connection_queue_bind x.env x.api.tracked fuel channel queue
      exchange routing_key arguments))
  | .queue_unbind channel queue exchange routing_key arguments =>
    called (fromPython (PyRabbitMQ_Connection_queue_unbind x.env x.api.tracked fuel channel queue
      exchange routing_key arguments))
  | .queue_delete channel queue if_unused if_empty =>
    called (fromPython (PyRabbitMQ_Connection_queue_delete x.env x.api.tracked fuel channel queue
      if_unused if_empty))
  | .queue_declare channel queue passive durable exclusive auto_delete arguments =>
    called (fromPython (PyRabbitMQ_Connection_queue_declare x.env x.api.tracked fuel channel queue
      passive durable exclusive auto_delete arguments))
  | .queue_purge channel queue =>
    called (fromPython (PyRabbitMQ_Connection_queue_purge x.env x.api.tracked fuel channel queue))
  | .exchange_declare channel exchange type passive durable arguments =>
    called (fromPython (PyRabbitMQ_Connection_exchange_declare x.env x.api.tracked fuel channel
      exchange type passive durable arguments))
  | .exchange_delete channel exchange if_unused =>
    called (fromPython (PyRabbitMQ_Connection_exchange_delete x.env x.api.tracked fuel channel
      exchange if_unused))
  | .basic_publish channel body exchange routing_key propdict mandatory immediate =>
    called (fromPython (PyRabbitMQ_Connection_basic_publish x.env x.api.tracked fuel channel body
      exchange routing_key propdict mandatory immediate))
  | .basic_ack channel delivery_tag multiple =>
    called (fromPython (PyRabbitMQ_Connection_basic_ack x.env x.api.tracked fuel channel
      delivery_tag multiple))
  | .basic_reject channel delivery_tag multiple =>
    called (fromPython (PyRabbitMQ_Connection_basic_reject x.env x.api.tracked fuel channel
      delivery_tag multiple))
  | .basic_cancel channel consumer_tag =>
    called (fromPython (PyRabbitMQ_Connection_basic_cancel x.env fuel channel consumer_tag))
  | .basic_consume channel queue consumer_tag no_local no_ack exclusive arguments =>
    called (fromPython (PyRabbitMQ_Connection_basic_consume x.env x.api.tracked fuel channel queue
      consumer_tag no_local no_ack exclusive arguments))
  | .basic_qos channel prefetch_size prefetch_count _global =>
    called (fromPython (PyRabbitMQ_Connection_basic_qos x.api.tracked channel prefetch_size
      prefetch_count _global))
  | .flow channel active =>
    called (fromPython (PyRabbitMQ_Connection_flow x.env x.api.tracked fuel channel active))
  | .basic_recover channel requeue =>
    called (fromPython (PyRabbitMQ_Connection_basic_recover x.env x.api.tracked fuel channel
      requeue))
  | .basic_recv timeout =>
    called (fromPython (PyRabbitMQ_Connection_basic_recv.noting x.env noteRead fuel timeout))
  | .basic_get channel queue no_ack =>
    called (fromPython (PyRabbitMQ_Connection_basic_get.noting x.env noteRead fuel channel queue
      no_ack))

/-- Calls, one after another. What a call raises, the program may catch. -/
def Client.execAll (x : Client σ κ) (fuel : Nat) : List (Op κ) → Run (World (Handles σ) κ) Unit
  | [] => return ()
  | op :: ops => do
    x.exec fuel op
    x.execAll fuel ops

/-! ## Callbacks -/

/-- What the callbacks of an application call, and what they raise in the end. Nothing
but the state decides it, so the calls are as good as chosen one by one. -/
structure Application (σ κ : Type) where
  calls : κ → Message → Connection (Handles σ) κ → List (Op κ)
  raises : κ → Message → Connection (Handles σ) κ → Option PyErr

/-- An application whose callbacks do nothing. -/
def Application.idle : Application σ κ := ⟨fun _ _ _ => [], fun _ _ _ => none⟩

/-- The world that a callback starts in. -/
def World.inside (self : Connection (Handles σ) κ) : World (Handles σ) κ := ⟨self, none, [], [], []⟩

/-- The client whose callbacks are those of an application, nested up to `depth`. -/
def Client.running (x : Client σ κ) (app : Application σ κ) (fuel : Nat) : Nat → Client σ κ
  | 0 => { x with invoke := fun _ _ self => (self, none) }
  | depth + 1 => { x with invoke := fun callback message self =>
      (((x.running app fuel depth).execAll fuel (app.calls callback message self)
        (.inside self)).2.self, app.raises callback message self) }

/-! ## The Python layer as acts -/

variable {explicit : Prop} {α : Type} {x : Client σ κ}

theorem does_fromPython {P : World (Handles σ) κ → Prop}
    {y : Run (World (Handles σ) κ) (Option α)} (h : Does explicit P y Anyhow) :
    Does explicit P (fromPython y) Anyhow := by
  unfold fromPython
  exact h.bind fun r => (keepsSelf_checked r).anyhow

theorem does_called {P : World (Handles σ) κ → Prop} {y : Run (World (Handles σ) κ) α}
    (h : Does explicit P y Anyhow) : Does explicit P (called y) Anyhow :=
  h.bind fun _ => (keepsSelf_pure _).anyhow

/-- A change of the tables. -/
theorem does_books {P : World (Handles σ) κ → Prop} {g : World (Handles σ) κ → World (Handles σ) κ}
    (hg : ∀ w : World (Handles σ) κ, w.self.SameHandle (g w).self) :
    Does explicit P (Run.modify g) Anyhow :=
  Moves.modify (fun w _ => .single (.books (hg w))) fun _ _ => trivial

theorem does_Channel_basic_consume (fuel : Nat) (self : Nat) (queue : PyObj)
    (consumer_tag : PyStr) (no_local no_ack exclusive : Bool) (callback : κ)
    (arguments : PyMembers) :
    Does explicit Anywhere (Channel.basic_consume x.env x.api.tracked fuel self queue consumer_tag
      no_local no_ack exclusive callback arguments) Anyhow := by
  unfold Channel.basic_consume
  refine Moves.get_bind fun w _ => ?_
  refine Moves.bind ((does_fromPython (does_basic_consume fuel _ _ _ _ _ _ _)).pre
    fun _ _ => trivial) fun r => ?_
  cases r with
  | error e => exact (keepsSelf_pure _).anyhow
  | ok consumer_tag =>
    cases consumer_tag
    case str consumer_tag =>
      refine Moves.get_bind fun w _ => ?_
      split
      · exact (keepsSelf_pure _).anyhow
      · apply Moves.bind (Q := Anyhow)
        · exact does_books fun w => ⟨rfl, rfl, rfl, rfl⟩
        intro _
        apply Moves.ite
        · intro _
          apply Moves.bind (Q := Anyhow)
          · exact does_books fun w => ⟨rfl, rfl, rfl, rfl⟩
          · exact fun _ => (keepsSelf_pure _).anyhow
        · exact fun _ => (keepsSelf_pure _).anyhow
    all_goals exact (keepsSelf_pure _).anyhow

theorem does_Channel_basic_cancel (fuel : Nat) (self : Nat) (consumer_tag : PyStr) :
    Does explicit Anywhere (Channel.basic_cancel x.env fuel self consumer_tag) Anyhow := by
  have hcancel : ∀ channel_id, Does explicit Anywhere (fromPython
      (PyRabbitMQ_Connection_basic_cancel x.env fuel channel_id (.str consumer_tag))) Anyhow :=
    fun channel_id => does_fromPython (does_basic_cancel fuel channel_id _)
  unfold Channel.basic_cancel
  apply Moves.bind (Q := Anyhow)
  · exact does_books fun w => ⟨rfl, rfl, rfl, rfl⟩
  refine fun _ => Moves.get_bind fun w _ => ?_
  dsimp only
  split
  · exact (hcancel _).pre fun _ _ => trivial
  · apply Moves.bind (Q := Anyhow)
    · exact does_books fun w => ⟨rfl, rfl, rfl, rfl⟩
    · exact fun _ => hcancel _

theorem does_Connection_close :
    Does explicit Anywhere (Connection.close x.env) Anyhow := by
  unfold Connection.close
  refine Moves.bind (does_fromPython (does_close.bind fun _ => (keepsSelf_pure _).anyhow))
    fun r => ?_
  cases r with
  | ok _ => exact (keepsSelf_pure _).anyhow
  | error e =>
    dsimp only
    split <;> exact (keepsSelf_pure _).anyhow

theorem does_Connection_connect (fuel : Nat) (init : ConnectionInit) :
    Does explicit Anywhere (Connection.connect x.env x.api.tracked init (fuel + 1)) Anyhow :=
  does_fromPython (does_connect init fuel)

theorem does_reconnect (fuel : Nat) (init : ConnectionInit) :
    Does explicit Anywhere (Connection.reconnect x.env x.api.tracked init (fuel + 1)) Anyhow := by
  unfold Connection.reconnect
  refine does_Connection_close.bind fun r => ?_
  cases r with
  | ok _ => exact does_Connection_connect fuel init
  | error e => exact (keepsSelf_pure _).anyhow

theorem keepsSelf_fileno : KeepsSelf (PyRabbitMQ_Connection_fileno : Run (World σ κ) _) := by
  unfold PyRabbitMQ_Connection_fileno
  refine keepsSelf_get.bind fun w => ?_
  split
  · exact keepsSelf_pure _
  · exact (keepsSelf_setString _).bind fun _ => keepsSelf_pure _

/-! ## Channels -/

/-- The acts of an open, behind the open itself. -/
theorem Opens.acts {w : World (Handles σ) κ} {self' start : Connection (Handles σ) κ}
    {channel_id : Int} {o : Outcome (Except PyErr Nat)} (h : Opens x w channel_id o self')
    (hidle : Acts explicit start w.self)
    (hopen : w.self.connected = true → ∀ st, Acts explicit start (w.self.noted
      [.amqp_channel_open (channelNumber channel_id)
        (x.lib.amqp_channel_open w.self.conn.state (channelNumber channel_id)).1] st)) :
    Acts explicit start self' := by
  cases h with
  | offline => exact hidle
  | @raised events ending st e hc hh => exact (hopen hc st).tail (act_follows hc (.opened hh))
  | @opened m st hc hm =>
    have hacts := hopen hc st
    rw [hm] at hacts
    exact hacts.tail (.books ⟨rfl, rfl, rfl, rfl⟩)
  | @hung events st hc hh => exact (hopen hc st).tail (act_follows hc (.opened hh))

/-- A channel under a number that the program chose. -/
theorem does_channel_some (fuel : Nat) (channel_id : Int) (hexplicit : explicit) :
    Does explicit Anywhere (Connection.channel (κ := κ) x.env (fuel + 1) (some channel_id))
      Anyhow := by
  intro w _
  refine ⟨?_, fun _ _ _ => trivial⟩
  rcases channel_some_cases x.env (fuel + 1) channel_id w with ⟨channel, _, hrun⟩ | ⟨_, hrun⟩
  · rw [hrun]
  · rw [hrun]
    exact (open_opens x fuel channel_id w).acts .refl fun hc st => .single (.noted hc hexplicit)

theorem does_channel_none (fuel : Nat) :
    Does explicit Anywhere (Connection.channel (κ := κ) x.env (fuel + 1) none) Anyhow := by
  intro w _
  refine ⟨?_, fun _ _ _ => trivial⟩
  rcases channel_none_cases x.env (fuel + 1) w with ⟨e, _, hrun⟩ | ⟨channel_id, hfree, hlt, hrun⟩
  · rw [hrun]
  · rw [hrun]
    exact (open_opens x fuel channel_id _).acts (.single (.taken hfree hlt))
      fun hc st => .single (.opened hc hfree hlt)

theorem does_Channel_close (fuel : Nat) (self : Nat) :
    Does explicit Anywhere (Channel.close (κ := κ) x.env fuel self) Anyhow := by
  intro w _
  refine ⟨?_, fun _ _ _ => trivial⟩
  have hmarked : Acts explicit w.self (w.self.marked self) := .single (.books ⟨rfl, rfl, rfl, rfl⟩)
  have hcalled : ∀ {reply events ending st}, w.self.connected = true →
      Handled true (channelNumber (w.self.objects self).channel_id) reply events ending →
      Acts explicit w.self (w.self.shut self reply events ending st) := by
    intro reply events ending st hc hh
    have hcall : Act explicit (w.self.marked self) ((w.self.marked self).noted
        [.amqp_channel_close (channelNumber (w.self.objects self).channel_id) reply] st) :=
      .noted hc trivial
    exact (hmarked.tail hcall).tail (act_follows hc (.closed hh))
  have hshuts := close_shuts x fuel self w
  generalize (Channel.close x.env fuel self w).1 = o at hshuts
  generalize (Channel.close x.env fuel self w).2.self = self' at hshuts
  cases hshuts with
  | offline => exact hmarked
  | raised hc hh => exact hcalled hc hh
  | @forgotten events ending st hc hh hending =>
    have hremoved : Act explicit (w.self.marked self)
        { w.self.shut self (x.closeReply w.self self) events ending st with
          _used_channel_ids :=
            w.self._used_channel_ids.erase (w.self.objects self).channel_id } :=
      .removed hc hh hending
    exact (hmarked.tail hremoved).tail (.books ⟨rfl, rfl, rfl, rfl⟩)
  | hung hc hh => exact hcalled hc hh

/-! ## Programs as acts -/

/-- Every call of a program is a row of acts. -/
theorem does_exec (hx : x.Behaves explicit) (fuel : Nat) (op : Op κ) (hop : op.Explicit → explicit) :
    Does explicit Anywhere (x.exec (fuel + 1) op) Anyhow := by
  unfold Client.exec
  cases op <;> apply does_called
  case connect => exact does_Connection_connect fuel _
  case close => exact does_Connection_close
  case reconnect => exact does_reconnect fuel _
  case channel channel_id =>
    cases channel_id with
    | none => exact does_channel_none fuel
    | some channel_id => exact does_channel_some fuel channel_id (hop trivial)
  case Channel_close => apply does_Channel_close
  case Channel_basic_consume => apply does_Channel_basic_consume
  case Channel_basic_cancel => apply does_Channel_basic_cancel
  all_goals apply does_fromPython
  case fileno => exact keepsSelf_fileno.anyhow
  case channel_open => exact does_channel_open _ _ (hop trivial)
  case channel_close => apply does_channel_close
  case queue_bind => apply does_queue_bind
  case queue_unbind => apply does_queue_unbind
  case queue_delete => apply does_queue_delete
  case queue_declare => apply does_queue_declare
  case queue_purge => apply does_queue_purge
  case exchange_declare => apply does_exchange_declare
  case exchange_delete => apply does_exchange_delete
  case basic_publish => apply does_basic_publish
  case basic_ack => apply does_basic_ack
  case basic_reject => apply does_basic_reject
  case basic_cancel => apply does_basic_cancel
  case basic_consume => apply does_basic_consume
  case basic_qos => apply does_basic_qos
  case flow => apply does_flow
  case basic_recover => apply does_basic_recover
  case basic_recv => exact does_basic_recv hx _ _
  case basic_get => exact does_basic_get hx _ _ _ _

theorem does_execAll (hx : x.Behaves explicit) (fuel : Nat) {ops : List (Op κ)}
    (hops : ∀ op ∈ ops, op.Explicit → explicit) :
    Does explicit Anywhere (x.execAll (fuel + 1) ops) Anyhow := by
  induction ops with
  | nil => exact (keepsSelf_pure _).anyhow
  | cons op ops ih =>
    unfold Client.execAll
    refine (does_exec hx fuel op (hops op (by simp))).bind fun _ => ?_
    exact (ih fun op hop => hops op (by simp [hop])).pre fun _ _ => trivial

/-- The callbacks of the application choose channel numbers only where that is
`explicit`. -/
def Application.Chooses (app : Application σ κ) (explicit : Prop) : Prop :=
  ∀ callback message self, ∀ op ∈ app.calls callback message self, op.Explicit → explicit

/-- The callbacks of a program do nothing but acts, at every depth of nesting. -/
theorem running_behaves (x : Client σ κ) {app : Application σ κ} (happ : app.Chooses explicit)
    (fuel depth : Nat) : (x.running app (fuel + 1) depth).Behaves explicit := by
  induction depth with
  | zero => exact fun _ _ _ => .refl
  | succ depth ih =>
    intro callback message self
    exact (does_execAll ih fuel (happ callback message self) (.inside self) trivial).1

/-- A run of a program, with the callbacks of an application. -/
def Client.runs (x : Client σ κ) (app : Application σ κ) (fuel depth : Nat) (ops : List (Op κ)) :
    Run (World (Handles σ) κ) Unit := (x.running app fuel depth).execAll fuel ops

theorem runs_acts (x : Client σ κ) {app : Application σ κ} (happ : app.Chooses explicit)
    (fuel depth : Nat) {ops : List (Op κ)} (hops : ∀ op ∈ ops, op.Explicit → explicit)
    (w : World (Handles σ) κ) :
    Acts explicit w.self (x.runs app (fuel + 1) depth ops w).2.self :=
  (does_execAll (running_behaves x happ fuel depth) fuel hops).path w

/-- Without a restriction on the channel numbers. -/
theorem runs_acts_any (x : Client σ κ) (app : Application σ κ) (fuel depth : Nat)
    (ops : List (Op κ)) (w : World (Handles σ) κ) :
    Acts True w.self (x.runs app (fuel + 1) depth ops w).2.self :=
  runs_acts x (fun _ _ _ _ _ _ => trivial) fuel depth (fun _ _ _ => trivial) w

/-! ## Programs call by call -/

/-- No exception is pending behind a run that starts without one. -/
def LeavesNone (y : Run (World σ κ) α) : Prop :=
  ∀ w a w', w.err = none → y w = (.ret a, w') → w'.err = none

theorem LeavesNone.bind {β : Type} {y : Run (World σ κ) α} {f : α → Run (World σ κ) β}
    (hy : LeavesNone y) (hf : ∀ a, LeavesNone (f a)) : LeavesNone (y >>= f) := by
  intro w b w' herr hrun
  rw [Run.bind_apply] at hrun
  rcases hyw : y w with ⟨o, w1⟩
  rw [hyw] at hrun
  cases o with
  | ret a => exact hf a w1 b w' (hy w a w1 herr hyw) hrun
  | crash => cases hrun
  | hang => cases hrun

theorem leavesNone_pure (a : α) : LeavesNone (pure a : Run (World σ κ) α) := by
  intro w b w' herr hrun
  cases hrun
  exact herr

theorem leavesNone_get : LeavesNone (Run.get : Run (World σ κ) (World σ κ)) := by
  intro w b w' herr hrun
  cases hrun
  exact herr

theorem leavesNone_modify {β : Type} {g : World σ κ → World σ κ} {f : Unit → Run (World σ κ) β}
    (hg : ∀ w, (g w).err = w.err) (hf : LeavesNone (f ())) : LeavesNone (Run.modify g >>= f) := by
  intro w b w' herr hrun
  rw [Run.modify_bind_apply] at hrun
  exact hf (g w) b w' ((hg w).trans herr) hrun

theorem leavesNone_fromPython (y : Run (World σ κ) (Option α)) : LeavesNone (fromPython y) :=
  fun _ _ _ _ hrun => fromPython_err hrun

theorem leavesNone_open (env : Env σ κ) (fuel : Nat) (channel_id : Int) :
    LeavesNone (Connection.channel.open_ env fuel channel_id) := by
  unfold Connection.channel.open_
  refine (leavesNone_fromPython _).bind fun r => ?_
  cases r with
  | error e => exact leavesNone_pure _
  | ok _ =>
    refine leavesNone_get.bind fun w => ?_
    exact leavesNone_modify (by intro; rfl) (leavesNone_pure _)

theorem leavesNone_channel (env : Env σ κ) (fuel : Nat) (channel_id : Option Int) :
    LeavesNone (Connection.channel env fuel channel_id) := by
  unfold Connection.channel
  cases channel_id with
  | none =>
    refine LeavesNone.bind ?_ fun r => ?_
    · unfold Connection._get_free_channel_id
      refine leavesNone_get.bind fun w => ?_
      split
      · split
        · exact leavesNone_modify (by intro; rfl) (leavesNone_pure _)
        · exact leavesNone_pure _
      · exact leavesNone_pure _
    · cases r with
      | error e => exact leavesNone_pure _
      | ok channel_id => exact leavesNone_open env fuel channel_id
  | some channel_id =>
    refine leavesNone_get.bind fun w => ?_
    cases w.self.channels.lookup channel_id with
    | some channel => exact leavesNone_pure _
    | none => exact leavesNone_open env fuel channel_id

theorem leavesNone_close (env : Env σ κ) : LeavesNone (Connection.close env) := by
  unfold Connection.close
  refine (leavesNone_fromPython _).bind fun r => ?_
  cases r with
  | ok _ => exact leavesNone_pure _
  | error e =>
    dsimp only
    split <;> exact leavesNone_pure _

theorem leavesNone_Channel_close (env : Env σ κ) (fuel : Nat) (self : Nat) :
    LeavesNone (Channel.close env fuel self) := by
  unfold Channel.close Connection._remove_channel
  refine leavesNone_modify (by intro; rfl) (leavesNone_get.bind fun w => ?_)
  have hforget : ∀ channel_id, LeavesNone (do
      Run.modify fun w : World σ κ => { w with self := { w.self with
        channels := w.self.channels.pop channel_id
        callbacks := w.self.callbacks.pop channel_id
        _used_channel_ids := w.self._used_channel_ids.erase channel_id } }
      return .ok () : Run (World σ κ) (Except PyErr Unit)) := fun channel_id =>
    leavesNone_modify (by intro; rfl) (leavesNone_pure _)
  refine (leavesNone_fromPython _).bind fun r => ?_
  cases r with
  | ok _ => exact hforget _
  | error e =>
    dsimp only
    split
    · exact hforget _
    · exact leavesNone_pure _

theorem leavesNone_Channel_basic_consume (env : Env σ κ) (api : RabbitMQApi σ) (fuel : Nat)
    (self : Nat) (queue : PyObj) (consumer_tag : PyStr) (no_local no_ack exclusive : Bool)
    (callback : κ) (arguments : PyMembers) :
    LeavesNone (Channel.basic_consume env api fuel self queue consumer_tag no_local no_ack
      exclusive callback arguments) := by
  unfold Channel.basic_consume
  refine leavesNone_get.bind fun w => (leavesNone_fromPython _).bind fun r => ?_
  cases r with
  | error e => exact leavesNone_pure _
  | ok consumer_tag =>
    cases consumer_tag
    case str consumer_tag =>
      refine leavesNone_get.bind fun w => ?_
      split
      · exact leavesNone_pure _
      · refine leavesNone_modify (by intro; rfl) ?_
        split
        · exact leavesNone_modify (by intro; rfl) (leavesNone_pure _)
        · exact leavesNone_pure _
    all_goals exact leavesNone_pure _

theorem leavesNone_Channel_basic_cancel (env : Env σ κ) (fuel : Nat) (self : Nat)
    (consumer_tag : PyStr) : LeavesNone (Channel.basic_cancel env fuel self consumer_tag) := by
  unfold Channel.basic_cancel
  refine leavesNone_modify (by intro; rfl) (leavesNone_get.bind fun w => ?_)
  dsimp only
  split
  · exact leavesNone_fromPython _
  · exact leavesNone_modify (by intro; rfl) (leavesNone_fromPython _)

/-- No exception is pending between two calls of a program. -/
theorem exec_err (x : Client σ κ) (fuel : Nat) (op : Op κ) : LeavesNone (x.exec fuel op) := by
  have hcalled : ∀ {α : Type} {y : Run (World (Handles σ) κ) α}, LeavesNone y →
      LeavesNone (called y) := fun hy => hy.bind fun _ => leavesNone_pure _
  unfold Client.exec
  cases op <;> apply hcalled
  case connect => exact leavesNone_fromPython _
  case close => exact leavesNone_close _
  case reconnect =>
    unfold Connection.reconnect
    refine (leavesNone_close _).bind fun r => ?_
    cases r with
    | ok _ => exact leavesNone_fromPython _
    | error e => exact leavesNone_pure _
  case channel => apply leavesNone_channel
  case Channel_close => apply leavesNone_Channel_close
  case Channel_basic_consume => apply leavesNone_Channel_basic_consume
  case Channel_basic_cancel => apply leavesNone_Channel_basic_cancel
  all_goals apply leavesNone_fromPython

/-- A call leaves what its method leaves. -/
theorem called_snd (y : Run (World (Handles σ) κ) α) (w : World (Handles σ) κ) :
    (called y w).2 = (y w).2 := by
  unfold called
  rw [Run.bind_apply]
  rcases y w with ⟨o, w'⟩
  cases o <;> rfl

/-- What holds of each call of a program, and of the world before it. -/
def Client.EachCall (x : Client σ κ) (fuel : Nat) (P : World (Handles σ) κ → Op κ → Prop) :
    List (Op κ) → World (Handles σ) κ → Prop
  | [], _ => True
  | op :: ops, w => P w op ∧ ∀ w', x.exec fuel op w = (.ret (), w') → x.EachCall fuel P ops w'

theorem eachCall_of_forall {fuel : Nat} {P : World (Handles σ) κ → Op κ → Prop}
    (h : ∀ w op, P w op) (ops : List (Op κ)) :
    ∀ w : World (Handles σ) κ, x.EachCall fuel P ops w := by
  induction ops with
  | nil => exact fun _ => trivial
  | cons op ops ih => exact fun w => ⟨h w op, fun w' _ => ih w'⟩

theorem eachCall_cons {fuel : Nat} {P : World (Handles σ) κ → Op κ → Prop} {op : Op κ}
    {ops : List (Op κ)} {w w' : World (Handles σ) κ} (hop : P w op)
    (hrun : x.exec fuel op w = (.ret (), w')) (hops : x.EachCall fuel P ops w') :
    x.EachCall fuel P (op :: ops) w := by
  refine ⟨hop, fun w'' hrun' => ?_⟩
  rw [hrun] at hrun'
  cases hrun'
  exact hops

theorem Client.EachCall.and {fuel : Nat} {P Q : World (Handles σ) κ → Op κ → Prop}
    {ops : List (Op κ)} : ∀ {w : World (Handles σ) κ}, x.EachCall fuel P ops w →
      x.EachCall fuel Q ops w → x.EachCall fuel (fun w op => P w op ∧ Q w op) ops w := by
  induction ops with
  | nil => exact fun _ _ => trivial
  | cons op ops ih =>
    intro w hp hq
    exact ⟨⟨hp.1, hq.1⟩, fun w' hrun => ih (hp.2 w' hrun) (hq.2 w' hrun)⟩

/-- An invariant of the worlds between the calls. What the calls meet may help to
keep it. -/
theorem eachCall_of_invariant {fuel : Nat} {I : World (Handles σ) κ → Prop}
    {P Q : World (Handles σ) κ → Op κ → Prop}
    (hstep : ∀ w op w', I w → P w op → x.exec fuel op w = (.ret (), w') → I w')
    (hcall : ∀ w op, I w → P w op → Q w op) {ops : List (Op κ)} :
    ∀ {w : World (Handles σ) κ}, I w → x.EachCall fuel P ops w → x.EachCall fuel Q ops w := by
  induction ops with
  | nil => exact fun _ _ => trivial
  | cons op ops ih =>
    intro w hw hp
    exact ⟨hcall w op hw hp.1, fun w' hrun => ih (hstep w op w' hw hp.1 hrun) (hp.2 w' hrun)⟩

end librabbitmq
