-- The numbers of the `Channel` objects. Whatever a program calls, its callbacks included, a
-- `Channel` keeps the number that it was made with, and is registered under no other.
import Librabbitmq.Programs

namespace librabbitmq.channel_numbers

variable {σ κ α β : Type}

/-! ## What the extension type leaves alone -/

/-- The tables of the Python layer. -/
structure SameTables (before after : Connection σ κ) : Prop where
  callbacks : after.callbacks = before.callbacks
  channels : after.channels = before.channels
  objects : after.objects = before.objects
  next_object : after.next_object = before.next_object

/-- A preorder of connections that looks at the tables only. -/
structure Tabular (R : Connection σ κ → Connection σ κ → Prop) : Prop where
  same : ∀ {self self' : Connection σ κ}, SameTables self self' → R self self'
  trans : ∀ {a b c : Connection σ κ}, R a b → R b c → R a c

/-- A run goes along `R`, however it ends. -/
def Along (R : Connection σ κ → Connection σ κ → Prop) (y : Run (World σ κ) α) : Prop :=
  ∀ w, R w.self (y w).2.self

section

variable {R : Connection σ κ → Connection σ κ → Prop} {y : Run (World σ κ) α}
  {f : α → Run (World σ κ) β} {env : Env σ κ} {api : RabbitMQApi σ}

theorem Along.bind (hR : Tabular R) (hy : Along R y) (hf : ∀ a, Along R (f a)) :
    Along R (y >>= f) := by
  intro w
  have h := hy w
  rw [Run.bind_apply]
  rcases hrun : y w with ⟨o, w1⟩
  rw [hrun] at h
  cases o with
  | ret a => exact hR.trans h (hf a w1)
  | crash => exact h
  | hang => exact h

theorem along_modify (hR : Tabular R) {g : World σ κ → World σ κ}
    (hg : ∀ w, SameTables w.self (g w).self) : Along R (Run.modify g) := fun w => hR.same (hg w)

theorem along_modify_bind (hR : Tabular R) {g : World σ κ → World σ κ}
    {rest : Unit → Run (World σ κ) β} (hg : ∀ w, SameTables w.self (g w).self)
    (hrest : Along R (rest ())) : Along R (Run.modify g >>= rest) :=
  Along.bind hR (along_modify hR hg) fun _ => hrest

theorem along_self (hR : Tabular R) (hy : KeepsSelf y) : Along R y := by
  intro w
  rw [hy w]
  exact hR.same ⟨rfl, rfl, rfl, rfl⟩

theorem along_pure (hR : Tabular R) (a : α) : Along R (pure a : Run (World σ κ) α) :=
  along_self hR (keepsSelf_pure a)

theorem along_setString (hR : Tabular R) (e : PyErr) :
    Along R (PyErr_SetString e : Run (World σ κ) Unit) := along_self hR (keepsSelf_setString e)

theorem along_onConn (hR : Tabular R) (call : σ → α × σ) :
    Along R (onConn call : Run (World σ κ) α) := fun _ => hR.same ⟨rfl, rfl, rfl, rfl⟩

theorem along_get (hR : Tabular R) {g : World σ κ → Run (World σ κ) β} (hg : ∀ v, Along R (g v)) :
    Along R (Run.get >>= g) := (along_self hR keepsSelf_get).bind hR hg

theorem along_loop (hR : Tabular R) {turn : β → Run (World σ κ) (β ⊕ α)}
    (hturn : ∀ b, Along R (turn b)) (fuel : Nat) : ∀ b, Along R (Run.loop turn fuel b) := by
  induction fuel with
  | zero => exact fun _ _ => hR.same ⟨rfl, rfl, rfl, rfl⟩
  | succ fuel ih =>
    intro b
    unfold Run.loop
    refine (hturn b).bind hR fun r => ?_
    cases r with
    | inl b => exact ih b
    | inr a => exact along_pure hR a

theorem along_close (hR : Tabular R) : Along R (PyRabbitMQ_Connection_close env) := by
  refine along_modify hR fun w => ?_
  unfold World.closed
  split <;> exact ⟨rfl, rfl, rfl, rfl⟩

theorem along_notConnected (hR : Tabular R) :
    Along R (PyRabbitMQ_Not_Connected : Run (World σ κ) Bool) := by
  unfold PyRabbitMQ_Not_Connected
  refine along_get hR fun w => ?_
  split
  · exact (along_setString hR _).bind hR fun _ => along_pure hR _
  · exact along_pure hR _

/-- A method that does nothing on a closed connection. -/
theorem along_guarded (hR : Tabular R) {a : α} {rest : Run (World σ κ) α} (hrest : Along R rest) :
    Along R (PyRabbitMQ_Not_Connected >>= fun b => if b = true then pure a else rest) := by
  refine (along_notConnected hR).bind hR fun b => ?_
  split
  · exact along_pure hR a
  · exact hrest

/-! ### The handlers -/

theorem handlers_along (hR : Tabular R) (env : Env σ κ) (fuel : Nat) :
    (∀ channel reply context, Along R (PyRabbitMQ_HandleAMQError env fuel channel reply context)) ∧
    (∀ channel, Along R (PyRabbitMQ_revive_channel env fuel channel)) ∧
    (∀ channel, Along R (PyRabbitMQ_Connection_create_channel env fuel channel)) := by
  induction fuel with
  | zero =>
    refine ⟨fun _ _ _ => ?_, fun _ => ?_, fun _ => ?_⟩
    · unfold PyRabbitMQ_HandleAMQError
      exact fun _ => hR.same ⟨rfl, rfl, rfl, rfl⟩
    · unfold PyRabbitMQ_revive_channel
      exact fun _ => hR.same ⟨rfl, rfl, rfl, rfl⟩
    · unfold PyRabbitMQ_Connection_create_channel
      exact fun _ => hR.same ⟨rfl, rfl, rfl, rfl⟩
  | succ fuel ih =>
    obtain ⟨hhandle, hrevive, hcreate⟩ := ih
    have hconnerror : ∀ e, Along R (do
        PyErr_SetString e
        PyRabbitMQ_Connection_close env
        return PYRABBITMQ_CONNECTION_ERROR : Run (World σ κ) Int) := fun e =>
      (along_setString hR e).bind hR fun _ => (along_close hR).bind hR fun _ => along_pure hR _
    refine ⟨fun channel reply context => ?_, fun channel => ?_, fun channel => ?_⟩
    · unfold PyRabbitMQ_HandleAMQError
      cases reply with
      | normal m => exact along_pure hR 0
      | none => exact hconnerror _
      | library_exception e => exact hconnerror _
      | server_exception m =>
        cases m with
        | channel_close m =>
          exact (along_setString hR _).bind hR fun _ =>
            (hrevive channel).bind hR fun _ => along_pure hR _
        | _ => exact hconnerror _
    · unfold PyRabbitMQ_revive_channel
      refine (along_onConn hR _).bind hR fun status => ?_
      split
      · exact (along_setString hR _).bind hR fun _ =>
          (along_close hR).bind hR fun _ => along_pure hR _
      · exact hcreate channel
    · unfold PyRabbitMQ_Connection_create_channel
      exact (along_onConn hR _).bind hR fun reply => hhandle 0 reply _

theorem handle_along (hR : Tabular R) (fuel : Nat) (channel : UInt32) (reply : amqp_rpc_reply_t)
    (context : String) : Along R (PyRabbitMQ_HandleAMQError env fuel channel reply context) :=
  (handlers_along hR env fuel).1 channel reply context

theorem revive_along (hR : Tabular R) (fuel : Nat) (channel : UInt32) :
    Along R (PyRabbitMQ_revive_channel env fuel channel) := (handlers_along hR env fuel).2.1 channel

theorem receivedFrame_along (hR : Tabular R) (fuel : Nat) (c : amqp_channel_t)
    (m : amqp_method_t) : Along R (PyRabbitMQ_SetErr_ReceivedFrame env fuel c m) := by
  unfold PyRabbitMQ_SetErr_ReceivedFrame
  cases m with
  | channel_close m =>
    exact (along_setString hR _).bind hR fun _ =>
      (revive_along hR fuel _).bind hR fun _ => along_pure hR _
  | connection_close m => exact (along_setString hR _).bind hR fun _ => along_close hR
  | _ => exact along_setString hR _

/-! ### The methods -/

theorem argumentsTable_along (hR : Tabular R) (channel : amqp_channel_t)
    (arguments : Option PyMembers) :
    Along R (argumentsTable api channel arguments : Run (World σ κ) _) := by
  cases arguments with
  | none => exact along_pure hR _
  | some arguments =>
    unfold argumentsTable
    refine (along_onConn hR _).bind hR fun pool => ?_
    split
    · exact (along_setString hR _).bind hR fun _ => along_pure hR _
    · refine (along_self hR (keepsSelf_withErr _)).bind hR fun table => along_get hR fun w => ?_
      split <;> exact along_pure hR _

theorem rpcMethod_along {ρ : Type} (hR : Tabular R) (fuel : Nat) (channel : Int)
    (strings : List PyObj) (arguments : Option PyMembers) (context : String)
    (send : σ → amqp_channel_t → (Nat → Octets) → amqp_table_t → (ρ × amqp_rpc_reply_t) × σ)
    {result : ρ → Run (World σ κ) (Option PyObj)} (hresult : ∀ ok, KeepsSelf (result ok)) :
    Along R (rpcMethod env api fuel channel strings arguments context send result) := by
  unfold rpcMethod
  refine along_guarded hR ((along_self hR (keepsSelf_maybeUnicodes _)).bind hR fun strings => ?_)
  cases strings with
  | none => exact along_pure hR _
  | some strings =>
    refine (argumentsTable_along hR _ _).bind hR fun table => ?_
    cases table with
    | none => exact along_pure hR _
    | some table =>
      refine (along_self hR (keepsSelf_lift _)).bind hR fun strings => ?_
      refine (along_onConn hR _).bind hR ?_
      rintro ⟨ok, reply⟩
      refine (handle_along hR fuel _ reply context).bind hR fun r => ?_
      split
      · exact along_pure hR _
      · exact along_self hR (hresult ok)

theorem sendMethod_along (hR : Tabular R) (fuel : Nat) (channel : Int) (context : String)
    (send : σ → amqp_channel_t → Int × σ) :
    Along R (sendMethod env api fuel channel context send) := by
  have hsent : ∀ ok : Bool, Along R (if !ok then do
      let _ ← PyRabbitMQ_revive_channel env fuel (parseUnsigned channel)
      return none
    else return some .none : Run (World σ κ) (Option PyObj)) := by
    intro ok
    split
    · exact (revive_along hR fuel _).bind hR fun _ => along_pure hR _
    · exact along_pure hR _
  unfold sendMethod
  refine (along_onConn hR _).bind hR fun ret => Along.bind hR ?_ hsent
  unfold PyRabbitMQ_HandleError
  split
  · exact (along_setString hR _).bind hR fun _ => along_pure hR _
  · exact along_pure hR _

theorem tagMethod_along (hR : Tabular R) (fuel : Nat) (channel delivery_tag : Int)
    (context : String) (send : σ → amqp_channel_t → BitVec 64 → Int × σ) :
    Along R (tagMethod env api fuel channel delivery_tag context send) := by
  unfold tagMethod
  refine along_guarded hR ((along_self hR (keepsSelf_parseSsize _)).bind hR fun tag => ?_)
  cases tag with
  | none => exact along_pure hR _
  | some tag => exact sendMethod_along hR fuel channel context _

theorem publish_along (hR : Tabular R) (fuel : Nat) (channel : Int) (body : Octets)
    (exchange routing_key : PyObj) (propdict : PyMembers) (mandatory immediate : Bool) :
    Along R (PyRabbitMQ_Connection_basic_publish env api fuel channel body exchange routing_key
      propdict mandatory immediate) := by
  unfold PyRabbitMQ_Connection_basic_publish
  refine along_guarded hR ((along_self hR (keepsSelf_maybeUnicodes _)).bind hR fun strings => ?_)
  cases strings with
  | none => exact along_pure hR _
  | some strings =>
    refine (along_onConn hR _).bind hR fun pool => ?_
    refine (along_self hR (keepsSelf_withErr _)).bind hR fun props => ?_
    cases props with
    | none => exact along_pure hR _
    | some props =>
      refine (along_self hR (keepsSelf_lift _)).bind hR fun strings => ?_
      exact sendMethod_along hR fuel channel _ _

theorem queue_delete_along (hR : Tabular R) (fuel : Nat) (channel : Int) (queue : PyObj)
    (if_unused if_empty : Bool) :
    Along R (PyRabbitMQ_Connection_queue_delete env api fuel channel queue if_unused if_empty) := by
  unfold PyRabbitMQ_Connection_queue_delete
  refine along_guarded hR ((along_self hR (keepsSelf_maybeUnicodes _)).bind hR fun strings => ?_)
  cases strings with
  | none => exact along_pure hR _
  | some strings =>
    refine (along_self hR (keepsSelf_lift _)).bind hR fun strings => ?_
    refine (along_onConn hR _).bind hR ?_
    rintro ⟨ok, reply⟩
    have hcount : Along R (messageCount ok : Run (World σ κ) (Option PyObj)) :=
      along_self hR (keepsSelf_messageCount ok)
    dsimp only
    split
    · refine (handle_along hR fuel _ reply _).bind hR fun r => ?_
      split
      · exact along_pure hR _
      · exact hcount
    · exact hcount

theorem qos_along (hR : Tabular R) (channel prefetch_size prefetch_count : Int) (_global : Bool) :
    Along R (PyRabbitMQ_Connection_basic_qos api channel prefetch_size prefetch_count _global :
      Run (World σ κ) _) := by
  unfold PyRabbitMQ_Connection_basic_qos
  refine along_guarded hR ((along_self hR (keepsSelf_parseSsize _)).bind hR fun size => ?_)
  cases size with
  | none => exact along_pure hR _
  | some size => exact (along_onConn hR _).bind hR fun _ => along_pure hR _

theorem basic_cancel_along (hR : Tabular R) (fuel : Nat) (channel : Int) (consumer_tag : PyObj) :
    Along R (PyRabbitMQ_Connection_basic_cancel env fuel channel consumer_tag) := by
  unfold PyRabbitMQ_Connection_basic_cancel
  refine along_guarded hR ((along_self hR (keepsSelf_withErr _)).bind hR fun tag => ?_)
  cases tag
  case null => exact along_pure hR _
  all_goals
    refine (along_self hR (keepsSelf_lift _)).bind hR fun tag => ?_
    refine (along_onConn hR _).bind hR fun reply => ?_
    refine (handle_along hR fuel _ reply _).bind hR fun r => ?_
    split <;> exact along_pure hR _

theorem channel_open_along (hR : Tabular R) (fuel : Nat) (channel : Int) :
    Along R (PyRabbitMQ_Connection_channel_open env fuel channel) := by
  unfold PyRabbitMQ_Connection_channel_open
  refine along_guarded hR (((handlers_along hR env fuel).2.2 _).bind hR fun r => ?_)
  split <;> exact along_pure hR _

theorem channel_close_along (hR : Tabular R) (fuel : Nat) (channel : Int) :
    Along R (PyRabbitMQ_Connection_channel_close env fuel channel) := by
  have hdestroy : Along R
      (PyRabbitMQ_Connection_destroy_channel env fuel (parseUnsigned channel)) :=
    (along_onConn hR _).bind hR fun reply => handle_along hR fuel _ reply _
  unfold PyRabbitMQ_Connection_channel_close
  refine along_guarded hR (hdestroy.bind hR fun r => ?_)
  split <;> exact along_pure hR _

theorem connect_along (hR : Tabular R) (init : ConnectionInit) (fuel : Nat) :
    Along R (PyRabbitMQ_Connection_connect env api init fuel) := by
  have hlogin : Along R (login env api init : Run (World σ κ) amqp_rpc_reply_t) := by
    unfold login
    refine along_get hR fun w => ?_
    split
    · exact (along_self hR (keepsSelf_withoutThreadState _ _)).bind hR fun _ =>
        along_onConn hR _
    · exact along_onConn hR _
  unfold PyRabbitMQ_Connection_connect
  refine along_get hR fun w => ?_
  split
  · exact (along_setString hR _).bind hR fun _ => along_pure hR _
  refine along_modify_bind hR (fun _ => ⟨rfl, rfl, rfl, rfl⟩) ?_
  refine (along_onConn hR _).bind hR fun socket => ?_
  split
  · exact (along_setString hR _).bind hR fun _ => (along_close hR).bind hR fun _ => along_pure hR _
  refine (along_onConn hR _).bind hR fun status => ?_
  refine (along_self hR (keepsSelf_handleAMQStatus env status _)).bind hR fun r => ?_
  split
  · exact (along_close hR).bind hR fun _ => along_pure hR _
  refine (along_onConn hR _).bind hR fun sockfd => ?_
  refine along_modify_bind hR (fun _ => ⟨rfl, rfl, rfl, rfl⟩) ?_
  refine hlogin.bind hR fun reply => (handle_along hR fuel _ reply _).bind hR fun r => ?_
  split
  · exact along_pure hR _
  refine along_modify_bind hR (fun _ => ⟨rfl, rfl, rfl, rfl⟩) ?_
  refine (along_onConn hR _).bind hR fun table => ?_
  refine (along_self hR (keepsSelf_withErr _)).bind hR fun properties => ?_
  exact along_modify_bind hR (fun _ => ⟨rfl, rfl, rfl, rfl⟩) (along_pure hR _)

/-! ### The receive machine -/

theorem readFrame_along (hR : Tabular R) (wait : σ → ReadResult × σ) :
    Along R (readFrame wait : Run (World σ κ) _) := by
  intro w
  unfold readFrame
  split <;> exact hR.same ⟨rfl, rfl, rfl, rfl⟩

theorem first_along (hR : Tabular R) (fuel : Nat) :
    Along R (Run.loop (PyRabbitMQ_recv.first env) fuel ()) := by
  refine along_loop hR (fun _ => ?_) fuel ()
  unfold PyRabbitMQ_recv.first
  refine (readFrame_along hR _).bind hR fun r => ?_
  cases r with
  | error status => exact along_pure hR _
  | ok f =>
    dsimp only
    split <;> exact along_pure hR _

theorem altframe_along (hR : Tabular R) (fuel : Nat) (p : Option PyMembers) (c : amqp_channel_t)
    (m : amqp_method_t) : Along R (PyRabbitMQ_recv.altframe env fuel p c m) :=
  (receivedFrame_along hR fuel c m).bind hR fun _ => along_pure hR _

theorem fragment_along (hR : Tabular R) (p : Bool) (body_target : BitVec 64) (v : BodyVars)
    (b : Octets) : Along R (PyRabbitMQ_recv.fragment env p body_target v b) := by
  have hcopy : ∀ v, Along R (PyRabbitMQ_recv.copyFragment b v : Run (World σ κ) _) := fun v =>
    (along_self hR (keepsSelf_copy b v)).bind hR fun _ => along_pure hR _
  unfold PyRabbitMQ_recv.fragment
  dsimp only
  split
  · split
    · split
      · exact hcopy _
      · exact (along_setString hR _).bind hR fun _ => along_pure hR _
    · split
      · refine (along_self hR (keepsSelf_withErr _)).bind hR fun payload => ?_
        cases payload <;> exact along_pure hR _
      · exact along_pure hR _
  · exact hcopy _

theorem turn_along (hR : Tabular R) (p : Bool) (c : amqp_channel_t) (body_target : BitVec 64)
    (v : BodyVars) : Along R (PyRabbitMQ_recv.turn env p c body_target v) := by
  unfold PyRabbitMQ_recv.turn
  split
  · refine (readFrame_along hR _).bind hR fun r => ?_
    cases r with
    | error status => exact along_pure hR _
    | ok f =>
      dsimp only
      split
      · exact along_pure hR _
      · exact fragment_along hR p body_target v _
      · exact (along_setString hR _).bind hR fun _ => along_pure hR _
  · exact along_pure hR _

/-- The callbacks of the application go along `R`. -/
def InvokesAlong (R : Connection σ κ → Connection σ κ → Prop) (env : Env σ κ) : Prop :=
  ∀ callback message self, R self (env.invoke callback message self).1

theorem applyCallback_along (hR : Tabular R) (hinvoke : InvokesAlong R env) (tag : PyStr)
    (channel : Int) (propdict delivery_info : PyMembers) (view : List (Option UInt8)) :
    Along R (PyRabbitMQ_ApplyCallback env tag channel propdict delivery_info view) := by
  unfold PyRabbitMQ_ApplyCallback
  refine along_get hR fun w => ?_
  split
  · exact along_pure hR _
  · refine (along_self hR (keepsSelf_getAttr_channels env)).bind hR fun channels => ?_
    split
    · exact along_pure hR _
    · refine along_get hR fun w => ?_
      split
      · exact (along_setString hR _).bind hR fun _ => along_pure hR _
      · exact Along.bind hR (fun w => hinvoke _ _ w.self) fun _ => along_pure hR _

theorem finish_along (hR : Tabular R) (hinvoke : InvokesAlong R env) (p : Option PyMembers)
    (delivery : Option (PyStr × PyMembers)) (c : amqp_channel_t) (body_target : BitVec 64)
    (propdict : PyMembers) (v : BodyVars) :
    Along R (PyRabbitMQ_recv.finish env p delivery c body_target propdict v) := by
  unfold PyRabbitMQ_recv.finish
  cases p with
  | some dict =>
    dsimp only
    split
    · exact along_pure hR _
    · apply along_self hR
      exact (keepsSelf_lift _).bind fun _ => (keepsSelf_lift _).bind fun _ =>
        (keepsSelf_lift _).bind fun _ => keepsSelf_pure _
  | none =>
    cases v.view with
    | none => exact along_pure hR _
    | some view =>
      cases delivery with
      | none => exact along_self hR keepsSelf_crash
      | some d =>
        exact (applyCallback_along hR hinvoke _ _ _ _ _).bind hR fun _ => along_pure hR _

theorem content_along (hR : Tabular R) (hinvoke : InvokesAlong R env) (fuel : Nat)
    (p : Option PyMembers) (delivery : Option (PyStr × PyMembers)) (c : amqp_channel_t) :
    Along R (PyRabbitMQ_recv.content env fuel p delivery c) := by
  have hbody : ∀ c t pd, Along R (PyRabbitMQ_recv.body env fuel p delivery c t pd) := by
    intro c t pd
    unfold PyRabbitMQ_recv.body
    refine (along_loop hR (turn_along hR _ c t) fuel _).bind hR fun r => ?_
    cases r with
    | altframe c m => exact altframe_along hR fuel p c m
    | goto_finally => exact along_pure hR _
    | done v => exact finish_along hR hinvoke p delivery c t pd v
  unfold PyRabbitMQ_recv.content
  refine (readFrame_along hR _).bind hR fun r => ?_
  cases r with
  | error status => exact along_pure hR _
  | ok f =>
    dsimp only
    split
    · exact altframe_along hR fuel p _ _
    · exact (along_self hR (keepsSelf_withErr _)).bind hR fun pd => hbody _ _ pd
    · exact (along_setString hR _).bind hR fun _ => along_pure hR _

theorem recv_along (hR : Tabular R) (hinvoke : InvokesAlong R env) (fuel : Nat)
    (p : Option PyMembers) (piggyback : Bool) :
    Along R (PyRabbitMQ_recv env fuel p piggyback) := by
  unfold PyRabbitMQ_recv
  split
  · exact content_along hR hinvoke fuel p none 0
  · refine (first_along hR fuel).bind hR fun r => ?_
    cases r with
    | failed status => exact along_pure hR _
    | altframe c m => exact altframe_along hR fuel p c m
    | deliver c m =>
      exact (along_self hR (keepsSelf_delivery m)).bind hR fun delivery =>
        content_along hR hinvoke fuel p (some delivery) c

theorem wait_along (hR : Tabular R) (fuel : Nat) (timeout : Rat) :
    Along R (RabbitMQ_WAIT env fuel timeout) := by
  unfold RabbitMQ_WAIT
  split
  · refine along_loop hR (fun v => ?_) fuel (0, timeout)
    unfold RabbitMQ_wait_timeout.turn
    dsimp only
    split
    · refine (along_onConn hR _).bind hR fun r => ?_
      split
      · exact along_pure hR _
      · split <;> exact along_pure hR _
    · exact along_pure hR _
  · unfold RabbitMQ_wait_nb
    refine (along_onConn hR _).bind hR fun r => ?_
    split
    · exact along_pure hR _
    · split <;> exact along_pure hR _

theorem wrapUp_along (hR : Tabular R) (a : α) : Along R (do
    let w ← Run.get
    if w.err.isNone then
      PyErr_SetString ⟨.ConnectionError, "Bad frame read", []⟩
    PyRabbitMQ_Connection_close env
    return a) := by
  refine along_get hR fun w => ?_
  split
  · exact (along_setString hR _).bind hR fun _ => (along_close hR).bind hR fun _ => along_pure hR a
  · exact (along_close hR).bind hR fun _ => along_pure hR a

theorem afterPoll_along (hR : Tabular R) (hinvoke : InvokesAlong R env) (fuel : Nat) :
    Along R (drain.afterPoll env fuel) := by
  unfold drain.afterPoll
  refine (recv_along hR hinvoke fuel none false).bind hR ?_
  rintro ⟨retval, _⟩
  dsimp only
  split
  · exact wrapUp_along hR none
  · exact along_pure hR _

theorem basic_recv_along (hR : Tabular R) (hinvoke : InvokesAlong R env)
    {note : Run (World σ κ) Unit} (hnote : Along R note) (fuel : Nat) (timeout : Rat) :
    Along R (PyRabbitMQ_Connection_basic_recv.noting env note fuel timeout) := by
  have hpoll : Along R (do
      let w ← Run.get
      if PYRMQ_SHOULD_POLL timeout && !env.lib.AMQP_ACTIVE_BUFFERS w.self.conn then
        let ready ← RabbitMQ_WAIT env fuel timeout
        if (← PyRabbitMQ_HandlePollError ready) ≤ 0 then return none
      drain.afterPoll env fuel : Run (World σ κ) (Option Unit)) := by
    refine along_get hR fun w => ?_
    split
    · refine (wait_along hR fuel timeout).bind hR fun ready => ?_
      refine (along_self hR (keepsSelf_handlePollError ready)).bind hR fun ready => ?_
      split
      · exact along_pure hR _
      · exact afterPoll_along hR hinvoke fuel
    · exact afterPoll_along hR hinvoke fuel
  unfold PyRabbitMQ_Connection_basic_recv.noting
  apply along_guarded hR
  split
  · exact hnote.bind hR fun _ => hpoll
  · exact hpoll

theorem basic_get_along (hR : Tabular R) (hinvoke : InvokesAlong R env)
    {note : Run (World σ κ) Unit} (hnote : Along R note) (fuel : Nat) (channel : Int)
    (queue : PyObj) (no_ack : Bool) :
    Along R (PyRabbitMQ_Connection_basic_get.noting env note fuel channel queue no_ack) := by
  have hcontent : ∀ p, Along R (do
      let w ← Run.get
      if env.lib.amqp_data_in_buffer w.self.conn then basic_get.afterReply env fuel p
      else return some (.dict p) : Run (World σ κ) (Option PyObj)) := by
    intro p
    refine along_get hR fun w => ?_
    split
    · unfold basic_get.afterReply
      refine (recv_along hR hinvoke fuel (some p) true).bind hR ?_
      rintro ⟨retval, p⟩
      dsimp only
      split
      · exact wrapUp_along hR none
      · exact along_pure hR _
    · exact along_pure hR _
  unfold PyRabbitMQ_Connection_basic_get.noting
  refine along_guarded hR ((along_self hR (keepsSelf_withErr _)).bind hR fun queue => ?_)
  cases queue
  case null => exact along_pure hR _
  all_goals
    refine (along_self hR (keepsSelf_lift _)).bind hR fun queue => ?_
    refine (along_onConn hR _).bind hR fun reply => ?_
    refine (handle_along hR fuel _ reply _).bind hR fun r => ?_
    split
    · exact along_pure hR _
    · split
      · refine (along_self hR (keepsSelf_withErr _)).bind hR fun _ => ?_
        refine (along_self hR (keepsSelf_lift _)).bind hR fun _ => ?_
        refine (along_self hR (keepsSelf_lift _)).bind hR fun p => ?_
        exact hnote.bind hR fun _ => hcontent p
      · exact along_pure hR _

end

/-! ## The Python layer -/

/-- Every `Channel` that is registered is registered under its own number. -/
def Filed (self : Connection σ κ) : Prop :=
  ∀ k a, self.channels.lookup k = some a → a < self.next_object ∧ (self.objects a).channel_id = k

/-- No `Channel` is lost, and none gets another number. -/
structure Kept (before after : Connection σ κ) : Prop where
  next_le : before.next_object ≤ after.next_object
  channel_id : ∀ a < before.next_object,
    (after.objects a).channel_id = (before.objects a).channel_id
  filed : Filed before → Filed after

theorem Kept.of_same {self self' : Connection σ κ} (hchannels : self'.channels = self.channels)
    (hobjects : self'.objects = self.objects) (hnext : self'.next_object = self.next_object) :
    Kept self self' := by
  refine ⟨hnext.ge, fun a _ => by rw [hobjects], fun h k a hk => ?_⟩
  rw [hchannels] at hk
  rw [hnext, hobjects]
  exact h k a hk

theorem tabular_kept : Tabular (Kept (σ := σ) (κ := κ)) where
  same h := .of_same h.channels h.objects h.next_object
  trans := by
    intro a b c h h'
    refine ⟨h.next_le.trans h'.next_le, fun k hk => ?_, fun hfiled => h'.filed (h.filed hfiled)⟩
    rw [h'.channel_id k (hk.trans_le h.next_le), h.channel_id k hk]

section

variable {y : Run (World σ κ) α} {env : Env σ κ} {api : RabbitMQApi σ}

theorem kept_registered (w : World σ κ) (n : Int) : Kept w.self (w.register n).self := by
  have hold : ∀ a < w.self.next_object, (w.register n).self.objects a = w.self.objects a :=
    fun a ha => if_neg ha.ne
  refine ⟨Nat.le_succ _, fun a ha => by rw [hold a ha], fun h k a hk => ?_⟩
  change (w.self.channels.set n w.self.next_object).lookup k = some a at hk
  by_cases hkn : k = n
  · subst hkn
    rw [Dict.lookup_set_self] at hk
    obtain rfl := Option.some.inj hk
    have hnew : (w.register k).self.objects w.self.next_object = ⟨k, true, []⟩ := if_pos rfl
    exact ⟨Nat.lt_succ_self _, by rw [hnew]⟩
  · rw [Dict.lookup_set_ne _ _ hkn] at hk
    obtain ⟨ha, hid⟩ := h k a hk
    exact ⟨Nat.lt_succ_of_lt ha, by rw [hold a ha, hid]⟩

/-- Other things of a `Channel` are changed. -/
theorem kept_setChannel (w : World σ κ) (a : Nat) {channel : Channel}
    (hid : channel.channel_id = (w.self.objects a).channel_id) :
    Kept w.self (w.setChannel a channel).self := by
  have hsame : ∀ b, ((w.setChannel a channel).self.objects b).channel_id =
      (w.self.objects b).channel_id := by
    intro b
    by_cases hb : b = a
    · rw [show (w.setChannel a channel).self.objects b = channel from if_pos hb, hid, hb]
    · rw [show (w.setChannel a channel).self.objects b = w.self.objects b from if_neg hb]
  refine ⟨le_rfl, fun b _ => hsame b, fun h k b hk => ?_⟩
  rw [hsame]
  exact h k b hk

theorem kept_forgotten (self : Connection σ κ) (n : Int) (callbacks : Dict Int (Dict PyStr κ))
    (used : List Int) : Kept self { self with
      channels := self.channels.pop n
      callbacks := callbacks
      _used_channel_ids := used } := by
  refine ⟨le_rfl, fun _ _ => rfl, fun h k a hk => h k a ?_⟩
  by_cases hkn : k = n
  · subst hkn
    rw [Dict.lookup_pop_self] at hk
    cases hk
  · rwa [Dict.lookup_pop_ne _ hkn] at hk

theorem fromPython_along {R : Connection σ κ → Connection σ κ → Prop} (hR : Tabular R)
    {y : Run (World σ κ) (Option α)} (hy : Along R y) : Along R (fromPython y) :=
  hy.bind hR fun r => along_self hR (keepsSelf_checked r)

theorem open_keeps (fuel : Nat) (n : Int) :
    Along Kept (Connection.channel.open_ env fuel n) := by
  unfold Connection.channel.open_
  refine (fromPython_along tabular_kept (channel_open_along tabular_kept fuel n)).bind
    tabular_kept fun r => ?_
  cases r with
  | error e => exact along_pure tabular_kept _
  | ok _ =>
    refine along_get tabular_kept fun w => ?_
    exact Along.bind tabular_kept (fun w => kept_registered w n) fun _ => along_pure tabular_kept _

theorem channel_keeps (fuel : Nat) (channel_id : Option Int) :
    Along Kept (Connection.channel env fuel channel_id) := by
  unfold Connection.channel
  cases channel_id with
  | none =>
    have hfree : Along Kept (Connection._get_free_channel_id : Run (World σ κ) _) := by
      unfold Connection._get_free_channel_id
      refine along_get tabular_kept fun w => ?_
      split
      · split
        · exact along_modify_bind tabular_kept (fun _ => ⟨rfl, rfl, rfl, rfl⟩)
            (along_pure tabular_kept _)
        · exact along_pure tabular_kept _
      · exact along_pure tabular_kept _
    refine hfree.bind tabular_kept fun r => ?_
    cases r with
    | error e => exact along_pure tabular_kept _
    | ok n => exact open_keeps fuel n
  | some n =>
    refine along_get tabular_kept fun w => ?_
    split
    · exact along_pure tabular_kept _
    · exact open_keeps fuel n

theorem Channel_close_keeps (fuel : Nat) (self : Nat) :
    Along Kept (Channel.close env fuel self) := by
  have hforget : ∀ n, Along Kept (do
      Run.modify fun w => { w with self := { w.self with
        channels := w.self.channels.pop n
        callbacks := w.self.callbacks.pop n
        _used_channel_ids := w.self._used_channel_ids.erase n } }
      return .ok () : Run (World σ κ) (Except PyErr Unit)) := fun n =>
    Along.bind tabular_kept (fun w => kept_forgotten w.self n _ _)
      fun _ => along_pure tabular_kept _
  unfold Channel.close Connection._remove_channel
  refine Along.bind tabular_kept (fun w => kept_setChannel w self rfl) fun _ => ?_
  refine along_get tabular_kept fun w => ?_
  refine (fromPython_along tabular_kept (channel_close_along tabular_kept fuel _)).bind
    tabular_kept fun r => ?_
  cases r with
  | ok _ => exact hforget _
  | error e =>
    dsimp only
    split
    · exact hforget _
    · exact along_pure tabular_kept _

theorem basic_consume_along {R : Connection σ κ → Connection σ κ → Prop} (hR : Tabular R)
    (fuel : Nat) (channel : Int) (queue consumer_tag : PyObj) (no_local no_ack exclusive : Bool)
    (arguments : PyMembers) :
    Along R (PyRabbitMQ_Connection_basic_consume env api fuel channel queue consumer_tag no_local
      no_ack exclusive arguments) := by
  refine rpcMethod_along hR _ _ _ _ _ _ fun ok => keepsSelf_followOk (fun tag => ?_) ok
  refine (keepsSelf_withErr _).bind fun tag => ?_
  cases tag <;> exact keepsSelf_pure _

theorem Channel_basic_consume_keeps (fuel : Nat) (self : Nat) (queue : PyObj)
    (consumer_tag : PyStr) (no_local no_ack exclusive : Bool) (callback : κ)
    (arguments : PyMembers) :
    Along Kept (Channel.basic_consume env api fuel self queue consumer_tag no_local no_ack exclusive
      callback arguments) := by
  unfold Channel.basic_consume
  refine along_get tabular_kept fun w => ?_
  refine (fromPython_along tabular_kept (basic_consume_along tabular_kept fuel _ _ _ _ _ _ _)).bind
    tabular_kept fun r => ?_
  cases r with
  | error e => exact along_pure tabular_kept _
  | ok tag =>
    cases tag
    case str tag =>
      refine along_get tabular_kept fun w => ?_
      split
      · exact along_pure tabular_kept _
      · refine Along.bind tabular_kept (fun _ => .of_same rfl rfl rfl) fun _ => ?_
        split
        · exact Along.bind tabular_kept (fun w => kept_setChannel w self rfl)
            fun _ => along_pure tabular_kept _
        · exact along_pure tabular_kept _
    all_goals exact along_pure tabular_kept _

theorem Channel_basic_cancel_keeps (fuel : Nat) (self : Nat) (consumer_tag : PyStr) :
    Along Kept (Channel.basic_cancel env fuel self consumer_tag) := by
  have hcancel : ∀ n, Along Kept (fromPython
      (PyRabbitMQ_Connection_basic_cancel env fuel n (.str consumer_tag))) := fun n =>
    fromPython_along tabular_kept (basic_cancel_along tabular_kept fuel n _)
  unfold Channel.basic_cancel
  refine Along.bind tabular_kept (fun w => kept_setChannel w self rfl) fun _ => ?_
  refine along_get tabular_kept fun w => ?_
  dsimp only
  split
  · exact hcancel _
  · exact Along.bind tabular_kept (fun _ => .of_same rfl rfl rfl) fun _ => hcancel _

theorem Connection_close_along {R : Connection σ κ → Connection σ κ → Prop} (hR : Tabular R) :
    Along R (Connection.close env) := by
  unfold Connection.close
  refine (fromPython_along hR ((along_close hR).bind hR fun _ => along_pure hR _)).bind hR
    fun r => ?_
  cases r with
  | ok _ => exact along_pure hR _
  | error e =>
    dsimp only
    split <;> exact along_pure hR _

theorem reconnect_along {R : Connection σ κ → Connection σ κ → Prop} (hR : Tabular R)
    (init : ConnectionInit) (fuel : Nat) : Along R (Connection.reconnect env api init fuel) := by
  unfold Connection.reconnect
  refine (Connection_close_along hR).bind hR fun r => ?_
  cases r with
  | ok _ => exact fromPython_along hR (connect_along hR init fuel)
  | error e => exact along_pure hR _

end

/-! ## Programs -/

theorem exec_keeps {x : Client σ κ} (hinvoke : InvokesAlong Kept x.env) (fuel : Nat) (op : Op κ) :
    Along Kept (x.exec fuel op) := by
  have hnote : Along Kept (noteRead : Run (World (Handles σ) κ) Unit) :=
    along_onConn tabular_kept _
  have hcalled : ∀ {γ : Type} {y : Run (World (Handles σ) κ) γ}, Along Kept y →
      Along Kept (called y) := fun hy => hy.bind tabular_kept fun _ => along_pure tabular_kept _
  unfold Client.exec
  cases op <;> apply hcalled
  case close => exact Connection_close_along tabular_kept
  case reconnect => exact reconnect_along tabular_kept _ fuel
  case channel channel_id => exact channel_keeps fuel channel_id
  case Channel_close => apply Channel_close_keeps
  case Channel_basic_consume => apply Channel_basic_consume_keeps
  case Channel_basic_cancel => apply Channel_basic_cancel_keeps
  all_goals apply fromPython_along tabular_kept
  case connect => exact connect_along tabular_kept _ fuel
  case fileno => exact along_self tabular_kept keepsSelf_fileno
  case channel_open => exact channel_open_along tabular_kept fuel _
  case channel_close => exact channel_close_along tabular_kept fuel _
  case queue_delete => apply queue_delete_along tabular_kept
  case queue_declare =>
    exact rpcMethod_along tabular_kept _ _ _ _ _ _ fun ok => keepsSelf_followOk
      (fun _ => (keepsSelf_withErr _).bind fun _ => keepsSelf_pure _) ok
  case queue_purge => exact rpcMethod_along tabular_kept _ _ _ _ _ _ keepsSelf_messageCount
  case basic_publish => apply publish_along tabular_kept
  case basic_ack => apply tagMethod_along tabular_kept
  case basic_reject => apply tagMethod_along tabular_kept
  case basic_cancel => exact basic_cancel_along tabular_kept fuel _ _
  case basic_consume => apply basic_consume_along tabular_kept
  case basic_qos => apply qos_along tabular_kept
  case basic_recv => exact basic_recv_along tabular_kept hinvoke hnote fuel _
  case basic_get => exact basic_get_along tabular_kept hinvoke hnote fuel _ _ _
  all_goals exact rpcMethod_along tabular_kept _ _ _ _ _ _ keepsSelf_returnNone

theorem execAll_keeps {x : Client σ κ} (hinvoke : InvokesAlong Kept x.env) (fuel : Nat)
    (ops : List (Op κ)) : Along Kept (x.execAll fuel ops) := by
  induction ops with
  | nil => exact along_pure tabular_kept _
  | cons op ops ih =>
    unfold Client.execAll
    exact (exec_keeps hinvoke fuel op).bind tabular_kept fun _ => ih

/-- The callbacks of a program, at every depth of nesting. -/
theorem running_keeps (x : Client σ κ) (app : Application σ κ) (fuel depth : Nat) :
    InvokesAlong Kept (x.running app fuel depth).env := by
  induction depth with
  | zero => exact fun _ _ _ => tabular_kept.same ⟨rfl, rfl, rfl, rfl⟩
  | succ depth ih =>
    intro callback message self
    exact execAll_keeps ih fuel (app.calls callback message self) (.inside self)

end librabbitmq.channel_numbers
