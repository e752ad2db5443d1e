-- The methods of the extension type as rows of acts: those that wait for a reply,
-- those that only send, and the two that open and close a channel.
import Librabbitmq.Acts

namespace librabbitmq

open Relation

variable {σ κ : Type} {explicit : Prop} {α β : Type} {x : Client σ κ}

/-! ## The methods -/

/-- Any run that keeps the connection object, in the place of a method's rest. -/
theorem KeepsSelf.anyhow {y : Run (World (Handles σ) κ) α} (h : KeepsSelf y)
    {P : World (Handles σ) κ → Prop} : Does explicit P y Anyhow :=
  Moves.still (fun w _ => h w) fun _ _ _ _ _ => trivial

theorem KeepsSelf.online {y : Run (World (Handles σ) κ) α} (h : KeepsSelf y) :
    Does explicit Online y fun _ => Online := h.does (P := fun self => self.connected = true)

theorem does_argumentsTable (channel : amqp_channel_t) (arguments : Option PyMembers) :
    Does (κ := κ) explicit Online (argumentsTable x.api.tracked channel arguments)
      fun _ => Online := by
  cases arguments with
  | none => exact (keepsSelf_pure _).online
  | some arguments =>
    unfold argumentsTable
    apply Moves.bind (does_call (fun _ => .other) (notes_tracked _ _) fun _ => trivial)
    intro pool
    apply Moves.pre _ fun w h => h.1
    apply Moves.ite
    · intro _
      exact (keepsSelf_setString _).online.bind fun _ => (keepsSelf_pure _).online
    · intro _
      refine (keepsSelf_withErr _).online.bind fun table => ?_
      apply KeepsSelf.online
      refine keepsSelf_get.bind fun w => ?_
      split <;> exact keepsSelf_pure _

/-- The handler behind the reply to a request, and what a method then makes of the
reply. -/
theorem does_reply (fuel : Nat) (channel : UInt32) (reply : amqp_rpc_reply_t) (context : String)
    {rest : Int → Run (World (Handles σ) κ) α} (hrest : ∀ r, KeepsSelf (rest r)) :
    Does explicit (fun w => Online w ∧ w.self.Last (.request channel.toUInt16 reply))
      (PyRabbitMQ_HandleAMQError x.env fuel channel reply context >>= rest) Anyhow :=
  (does_handle fuel channel reply context Follows.request).bind fun r => (hrest r).anyhow

theorem does_rpcMethod {ρ : Type} (fuel : Nat) (channel : Int) (strings : List PyObj)
    (arguments : Option PyMembers) (context : String)
    {send : Handles σ → amqp_channel_t → (Nat → Octets) → amqp_table_t →
      (ρ × amqp_rpc_reply_t) × Handles σ}
    (hsend : ∀ c b t, Notes (fun s => send s c b t) fun r => .request c r.2)
    {result : ρ → Run (World (Handles σ) κ) (Option PyObj)}
    (hresult : ∀ ok, KeepsSelf (result ok)) :
    Does explicit Anywhere (rpcMethod x.env x.api.tracked fuel channel strings arguments context
      send result) Anyhow := by
  unfold rpcMethod
  apply does_guarded
  refine (keepsSelf_maybeUnicodes _).online.bind fun strings => ?_
  cases strings with
  | none => exact (keepsSelf_pure _).anyhow
  | some strings =>
    refine (does_argumentsTable _ _).bind fun table => ?_
    cases table with
    | none => exact (keepsSelf_pure _).anyhow
    | some table =>
      refine (keepsSelf_lift _).online.bind fun strings => ?_
      apply Moves.bind (does_call _ (hsend _ _ _) fun _ => trivial)
      rintro ⟨ok, reply⟩
      refine does_reply fuel (parseUnsigned channel) reply context fun r => ?_
      split
      · exact keepsSelf_pure _
      · exact hresult ok

theorem keepsSelf_returnNone {ρ : Type} (ok : ρ) :
    KeepsSelf (returnNone ok : Run (World σ κ) _) := keepsSelf_pure _

theorem keepsSelf_followOk {ρ : Type} {f : ρ → Run (World σ κ) (Option PyObj)}
    (hf : ∀ ok, KeepsSelf (f ok)) (ok : Option ρ) : KeepsSelf (followOk f ok) := by
  cases ok with
  | none => exact keepsSelf_crash
  | some ok => exact hf ok

theorem keepsSelf_messageCount (ok : Option (BitVec 32)) :
    KeepsSelf (messageCount ok : Run (World σ κ) _) :=
  keepsSelf_followOk (fun _ => keepsSelf_pure _) ok

section

variable (fuel : Nat) (channel : Int)

theorem does_queue_bind (queue exchange routing_key : PyObj) (arguments : PyMembers) :
    Does explicit Anywhere (PyRabbitMQ_Connection_queue_bind x.env x.api.tracked fuel channel queue
      exchange routing_key arguments) Anyhow :=
  does_rpcMethod _ _ _ _ _ (fun _ _ _ _ => ⟨_, rfl⟩) keepsSelf_returnNone

theorem does_queue_unbind (queue exchange routing_key : PyObj) (arguments : PyMembers) :
    Does explicit Anywhere (PyRabbitMQ_Connection_queue_unbind x.env x.api.tracked fuel channel
      queue exchange routing_key arguments) Anyhow :=
  does_rpcMethod _ _ _ _ _ (fun _ _ _ _ => ⟨_, rfl⟩) keepsSelf_returnNone

theorem does_queue_declare (queue : PyObj) (passive durable exclusive auto_delete : Bool)
    (arguments : PyMembers) :
    Does explicit Anywhere (PyRabbitMQ_Connection_queue_declare x.env x.api.tracked fuel channel
      queue passive durable exclusive auto_delete arguments) Anyhow :=
  does_rpcMethod _ _ _ _ _ (fun _ _ _ _ => ⟨_, rfl⟩)
    (keepsSelf_followOk fun _ => (keepsSelf_withErr _).bind fun _ => keepsSelf_pure _)

theorem does_queue_purge (queue : PyObj) :
    Does explicit Anywhere
      (PyRabbitMQ_Connection_queue_purge x.env x.api.tracked fuel channel queue) Anyhow :=
  does_rpcMethod _ _ _ _ _ (fun _ _ _ _ => ⟨_, rfl⟩) keepsSelf_messageCount

theorem does_exchange_declare (exchange type : PyObj) (passive durable : Bool)
    (arguments : PyMembers) :
    Does explicit Anywhere (PyRabbitMQ_Connection_exchange_declare x.env x.api.tracked fuel channel
      exchange type passive durable arguments) Anyhow :=
  does_rpcMethod _ _ _ _ _ (fun _ _ _ _ => ⟨_, rfl⟩) keepsSelf_returnNone

theorem does_exchange_delete (exchange : PyObj) (if_unused : Bool) :
    Does explicit Anywhere (PyRabbitMQ_Connection_exchange_delete x.env x.api.tracked fuel channel
      exchange if_unused) Anyhow :=
  does_rpcMethod _ _ _ _ _ (fun _ _ _ _ => ⟨_, rfl⟩) keepsSelf_returnNone

theorem does_basic_consume (queue consumer_tag : PyObj) (no_local no_ack exclusive : Bool)
    (arguments : PyMembers) :
    Does explicit Anywhere (PyRabbitMQ_Connection_basic_consume x.env x.api.tracked fuel channel
      queue consumer_tag no_local no_ack exclusive arguments) Anyhow := by
  refine does_rpcMethod _ _ _ _ _ (fun _ _ _ _ => ⟨_, rfl⟩) (keepsSelf_followOk fun _ => ?_)
  refine (keepsSelf_withErr _).bind fun consumer_tag => ?_
  cases consumer_tag <;> exact keepsSelf_pure _

theorem does_flow (active : Bool) :
    Does explicit Anywhere (PyRabbitMQ_Connection_flow x.env x.api.tracked fuel channel active)
      Anyhow :=
  does_rpcMethod _ _ _ _ _ (fun _ _ _ _ => ⟨_, rfl⟩) keepsSelf_returnNone

theorem does_basic_recover (requeue : Bool) :
    Does explicit Anywhere
      (PyRabbitMQ_Connection_basic_recover x.env x.api.tracked fuel channel requeue) Anyhow :=
  does_rpcMethod _ _ _ _ _ (fun _ _ _ _ => ⟨_, rfl⟩) keepsSelf_returnNone

theorem does_queue_delete (queue : PyObj) (if_unused if_empty : Bool) :
    Does explicit Anywhere (PyRabbitMQ_Connection_queue_delete x.env x.api.tracked fuel channel
      queue if_unused if_empty) Anyhow := by
  unfold PyRabbitMQ_Connection_queue_delete
  apply does_guarded
  refine (keepsSelf_maybeUnicodes _).online.bind fun strings => ?_
  cases strings with
  | none => exact (keepsSelf_pure _).anyhow
  | some strings =>
    refine (keepsSelf_lift _).online.bind fun strings => ?_
    apply Moves.bind (does_call (fun r => .request (channelNumber channel) r.2)
      (fun _ => ⟨_, rfl⟩) fun _ => trivial)
    rintro ⟨ok, reply⟩
    apply Moves.ite
    · intro _
      refine does_reply fuel (parseUnsigned channel) reply _ fun r => ?_
      split
      · exact keepsSelf_pure _
      · exact keepsSelf_messageCount ok
    · intro _
      exact (keepsSelf_messageCount ok).anyhow

theorem does_basic_qos (prefetch_size prefetch_count : Int) (_global : Bool) :
    Does (κ := κ) explicit Anywhere (PyRabbitMQ_Connection_basic_qos x.api.tracked channel
      prefetch_size prefetch_count _global) Anyhow := by
  unfold PyRabbitMQ_Connection_basic_qos
  apply does_guarded
  refine (keepsSelf_parseSsize _).online.bind fun prefetch_size => ?_
  cases prefetch_size with
  | none => exact (keepsSelf_pure _).anyhow
  | some prefetch_size =>
    apply Moves.bind (does_call (.request (channelNumber channel)) (notes_tracked _ _)
      fun _ => trivial)
    intro reply
    exact (keepsSelf_pure _).anyhow

/-- A send, and the revival behind a failure. -/
theorem does_sendMethod (context : String) {send : Handles σ → amqp_channel_t → Int × Handles σ}
    (hsend : ∀ c, Notes (fun s => send s c) (.send c)) :
    Does explicit Online (sendMethod x.env x.api.tracked fuel channel context send) Anyhow := by
  unfold sendMethod PyRabbitMQ_HandleError
  apply Moves.bind (does_call _ (hsend _) fun _ => trivial)
  intro ret
  by_cases hret : ret < 0
  · rw [if_pos hret]
    refine Moves.bind (Q := fun ok w => ok = false ∧ Online w ∧
      w.self.Last (.send (channelNumber channel) ret)) ?_ fun ok => ?_
    · refine Moves.still (fun _ _ => rfl) fun w ok w' hw hok => ?_
      cases hok
      exact ⟨rfl, hw⟩
    · cases ok with
      | true => exact fun w hw => absurd hw.1 (by simp)
      | false =>
        rw [if_pos (by simp)]
        refine ((does_revive fuel (parseUnsigned channel) (Follows.unsent hret)).pre
          fun w hw => hw.2).bind fun _ => ?_
        exact (keepsSelf_pure _).anyhow
  · rw [if_neg hret]
    apply KeepsSelf.anyhow
    exact fun _ => rfl

theorem does_basic_publish (body : Octets) (exchange routing_key : PyObj) (propdict : PyMembers)
    (mandatory immediate : Bool) :
    Does explicit Anywhere (PyRabbitMQ_Connection_basic_publish x.env x.api.tracked fuel channel
      body exchange routing_key propdict mandatory immediate) Anyhow := by
  unfold PyRabbitMQ_Connection_basic_publish
  apply does_guarded
  refine (keepsSelf_maybeUnicodes _).online.bind fun strings => ?_
  cases strings with
  | none => exact (keepsSelf_pure _).anyhow
  | some strings =>
    apply Moves.bind (does_call (fun _ => .other) (notes_tracked _ _) fun _ => trivial)
    intro pool
    apply Moves.pre _ fun w h => h.1
    refine (keepsSelf_withErr _).online.bind fun props => ?_
    cases props with
    | none => exact (keepsSelf_pure _).anyhow
    | some props =>
      refine (keepsSelf_lift _).online.bind fun strings => ?_
      exact does_sendMethod fuel channel _ fun _ => notes_tracked _ _

theorem does_tagMethod (delivery_tag : Int) (context : String)
    {send : Handles σ → amqp_channel_t → BitVec 64 → Int × Handles σ}
    (hsend : ∀ c tag, Notes (fun s => send s c tag) (.send c)) :
    Does explicit Anywhere
      (tagMethod x.env x.api.tracked fuel channel delivery_tag context send) Anyhow := by
  unfold tagMethod
  apply does_guarded
  refine (keepsSelf_parseSsize _).online.bind fun delivery_tag => ?_
  cases delivery_tag with
  | none => exact (keepsSelf_pure _).anyhow
  | some delivery_tag => exact does_sendMethod fuel channel _ fun _ => hsend _ _

theorem does_basic_ack (delivery_tag : Int) (multiple : Bool) :
    Does explicit Anywhere (PyRabbitMQ_Connection_basic_ack x.env x.api.tracked fuel channel
      delivery_tag multiple) Anyhow :=
  does_tagMethod _ _ _ _ fun _ _ => notes_tracked _ _

theorem does_basic_reject (delivery_tag : Int) (multiple : Bool) :
    Does explicit Anywhere (PyRabbitMQ_Connection_basic_reject x.env x.api.tracked fuel channel
      delivery_tag multiple) Anyhow :=
  does_tagMethod _ _ _ _ fun _ _ => notes_tracked _ _

theorem does_basic_cancel (consumer_tag : PyObj) :
    Does explicit Anywhere (PyRabbitMQ_Connection_basic_cancel x.env fuel channel consumer_tag)
      Anyhow := by
  unfold PyRabbitMQ_Connection_basic_cancel
  apply does_guarded
  refine (keepsSelf_withErr _).online.bind fun consumer_tag => ?_
  cases consumer_tag
  case null => exact (keepsSelf_pure _).anyhow
  all_goals
    refine (keepsSelf_lift _).online.bind fun consumer_tag => ?_
    apply Moves.bind (does_call (.request (parseUnsigned channel).toUInt16) (notes_tracked _ _)
      fun _ => trivial)
    intro reply
    refine does_reply fuel (parseUnsigned channel) reply _ fun r => ?_
    split <;> exact keepsSelf_pure _

/-- The open of a channel whose number the application chose. -/
theorem does_channel_open (hexplicit : explicit) :
    Does explicit Anywhere (PyRabbitMQ_Connection_channel_open (κ := κ) x.env fuel channel)
      Anyhow := by
  unfold PyRabbitMQ_Connection_channel_open
  apply does_guarded
  refine Moves.bind (Q := Anyhow) ?_ fun r => ?_
  · cases fuel with
    | zero =>
      unfold PyRabbitMQ_Connection_create_channel
      exact Moves.hang
    | succ fuel =>
      unfold PyRabbitMQ_Connection_create_channel
      apply Moves.bind (does_call (.amqp_channel_open (parseUnsigned channel).toUInt16)
        (notes_tracked _ _) fun _ => hexplicit)
      intro reply
      exact (does_handle fuel 0 reply _ Follows.opened).post fun _ _ _ => trivial
  · apply KeepsSelf.anyhow
    split <;> exact keepsSelf_pure _

theorem does_channel_close :
    Does explicit Anywhere (PyRabbitMQ_Connection_channel_close (κ := κ) x.env fuel channel)
      Anyhow := by
  unfold PyRabbitMQ_Connection_channel_close PyRabbitMQ_Connection_destroy_channel
  apply does_guarded
  refine Moves.bind (Q := Anyhow) ?_ fun r => ?_
  · apply Moves.bind (does_call (.amqp_channel_close (parseUnsigned channel).toUInt16)
      (notes_tracked _ _) fun _ => trivial)
    intro reply
    exact (does_handle fuel (parseUnsigned channel) reply _ Follows.closed).post
      fun _ _ _ => trivial
  · apply KeepsSelf.anyhow
    split <;> exact keepsSelf_pure _

end

end librabbitmq
