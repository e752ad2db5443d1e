-- The law of `no_ack_consumers`: the set of a channel against the consumers that the broker has on
-- it. Consumers also end by the errors of the channel, and the recovery leaves the set alone.
import Librabbitmq.Cancellation
import Librabbitmq.Registry
import Librabbitmq.SyncReplies

namespace librabbitmq.no_ack_consumers

open drain basic_get sending publish_errors sync_replies cancellation

variable {σ κ : Type}

/-! ## The broker -/

/-- The consumers of each channel: the tag, and whether it was created with `no_ack`. -/
abbrev Consumers (σ : Type) := σ → amqp_channel_t → Octets → Option Bool

/-- Nothing is added to the consumers. -/
def AddsNone (consumers : Consumers σ) (s s' : σ) : Prop :=
  ∀ c name, consumers s c name = none → consumers s' c name = none

/-- The channel has no consumer. -/
def Empty (consumers : Consumers σ) (s : σ) (c : amqp_channel_t) : Prop :=
  ∀ name, consumers s c name = none

/-- What the broker makes of a `basic.consume`. It echoes the tag, or makes one where there is
none, and rejects a tag that is live. An error of the channel ends its consumers. -/
inductive Consumes (consumers : Consumers σ) (s : σ) (c : amqp_channel_t) (name : Octets)
    (no_ack : Bool) : (Option Octets × amqp_rpc_reply_t) × σ → Prop
  | granted {tag : Octets} {m : amqp_method_t} {s' : σ} :
      (name ≠ [] → tag = name) → (∃ text, asciiEncode text = some tag) →
      consumers s c tag = none →
      (∀ n, consumers s' c n = if n = tag then some no_ack else consumers s c n) →
      Consumes consumers s c name no_ack ((some tag, .normal m), s')
  | refused {reply : amqp_rpc_reply_t} {s' : σ} : ¬ IsNormal reply →
      (IsClose reply → Empty consumers s' c) →
      Consumes consumers s c name no_ack ((none, reply), s')

/-- What the broker makes of a `basic.cancel`. -/
inductive Cancels (consumers : Consumers σ) (s : σ) (c : amqp_channel_t) (name : Octets) :
    amqp_rpc_reply_t × σ → Prop
  | granted {m : amqp_method_t} {s' : σ} :
      (∀ n, consumers s' c n = if n = name then none else consumers s c n) →
      Cancels consumers s c name (.normal m, s')
  | refused {reply : amqp_rpc_reply_t} {s' : σ} : ¬ IsNormal reply →
      (IsClose reply → Empty consumers s' c) → Cancels consumers s c name (reply, s')

/-- What is assumed of rabbitmq-c and of the broker behind it. -/
structure Broker (lib : RabbitMQC σ) (api : RabbitMQApi σ) (consumers : Consumers σ) : Prop where
  consume : ∀ s c queue name no_local no_ack exclusive table, Consumes consumers s c name no_ack
    (api.amqp_basic_consume s c queue name no_local no_ack exclusive table)
  cancel : ∀ s c name, Cancels consumers s c name (lib.amqp_basic_cancel s c name)
  close_ok : ∀ s c, AddsNone consumers s (lib.amqp_send_close_ok s c).2
  opens : ∀ s c, AddsNone consumers s (lib.amqp_channel_open s c).2
  pool : ∀ s c, consumers (api.amqp_get_or_create_channel_pool s c).2 = consumers s

/-! ## Runs -/

/-- A consumer tag, as the application gives it to `basic_cancel`. -/
inductive Tag where
  | str (s : PyStr)
  | bytes (b : Octets)

def Tag.obj : Tag → PyObj
  | str s => .str s
  | bytes b => .bytes b

/-- `Channel.basic_cancel` of any tag. No `bytes` is in the set or among the callbacks, whose tags
are all `str`. -/
def Channel.basic_cancel_tag (env : Env σ κ) (fuel : Nat) (channelobj : Nat) :
    Tag → Run (World σ κ) (Except PyErr Unit)
  | .str consumer_tag => Channel.basic_cancel env fuel channelobj consumer_tag
  | .bytes consumer_tag => do
    let w ← Run.get
    fromPython (PyRabbitMQ_Connection_basic_cancel env fuel (w.self.objects channelobj).channel_id
      (.bytes consumer_tag))

/-- How the client comes to know of an error of a channel: from the reply to a request, from a
frame that a receive meets, or because a send fails. -/
inductive Notice where
  | reply (m : amqp_close_t) (context : String)
  | frame (m : amqp_close_t)
  | unsent (e : PyErr)

/-- What the client does about it. -/
def Notice.handle (env : Env σ κ) (fuel : Nat) (channel : Int) : Notice → Run (World σ κ) Unit
  | reply m context => do
    let _ ← PyRabbitMQ_HandleAMQError env fuel (parseUnsigned channel)
      (.server_exception (.channel_close m)) context
  | frame m =>
    PyRabbitMQ_SetErr_ReceivedFrame env fuel (channelNumber channel) (.channel_close m)
  | unsent e => do
    PyErr_SetString e
    let _ ← PyRabbitMQ_revive_channel env fuel (parseUnsigned channel)

/-- The call that comes to know of the error, from there on: it gives NULL. -/
def Notice.call (env : Env σ κ) (fuel : Nat) (channel : Int) (notice : Notice) :
    Run (World σ κ) (Except PyErr Unit) :=
  fromPython do
    notice.handle env fuel channel
    return none

/-- What happens on the channel. -/
inductive Event (κ : Type) where
  | basic_consume (queue : PyObj) (consumer_tag : PyStr) (no_local no_ack exclusive : Bool)
      (callback : κ) (arguments : PyMembers) (result : Except PyErr PyStr)
  | basic_cancel (consumer_tag : Tag)
  | channel_error (notice : Notice)

/-- The number that the requests of the channel carry. -/
def number (channelobj : Nat) (w : World σ κ) : amqp_channel_t :=
  channelNumber (w.self.objects channelobj).channel_id

/-- One event: a call of the channel that returns, or an error of the channel, which ends its
consumers at the broker, and what the client does about it. -/
inductive Step (env : Env σ κ) (api : RabbitMQApi σ) (consumers : Consumers σ) (channelobj : Nat)
    (w : World σ κ) : Event κ → World σ κ → Prop
  | basic_consume {queue : PyObj} {consumer_tag : PyStr} {no_local no_ack exclusive : Bool}
      {callback : κ} {arguments : PyMembers} {r : Except PyErr PyStr} {w' : World σ κ} :
      Returns (fun fuel => Channel.basic_consume env api fuel channelobj queue consumer_tag no_local
        no_ack exclusive callback arguments) w r w' →
      Step env api consumers channelobj w
        (.basic_consume queue consumer_tag no_local no_ack exclusive callback arguments r) w'
  | basic_cancel {tag : Tag} {r : Except PyErr Unit} {w' : World σ κ} :
      Returns (fun fuel => Channel.basic_cancel_tag env fuel channelobj tag) w r w' →
      Step env api consumers channelobj w (.basic_cancel tag) w'
  | channel_error {notice : Notice} {s : σ} {r : Except PyErr Unit} {w' : World σ κ} :
      w.self.connected = true → Empty consumers s (number channelobj w) →
      Returns (fun fuel => notice.call env fuel (w.self.objects channelobj).channel_id)
        (w.setConn s) r w' →
      Step env api consumers channelobj w (.channel_error notice) w'

/-! ## The law -/

/-- The broker's current consumer of the tag on the channel; a connection that is closed has
none. -/
def current (consumers : Consumers σ) (channelobj : Nat) (w : World σ κ) (tag : PyStr) :
    Option Bool :=
  if w.self.connected then (asciiEncode tag).bind (consumers w.self.conn (number channelobj w))
  else none

/-- The set holds the tags of the consumers that were created with `no_ack`. -/
def Describes (consumers : Consumers σ) (channelobj : Nat) (w : World σ κ) : Prop :=
  ∀ tag, tag ∈ (w.self.objects channelobj).no_ack_consumers ↔
    current consumers channelobj w tag = some true

/-- A consume without `no_ack` that succeeds leaves its tag out of the set. -/
def LeavesOut (channelobj : Nat) (w' : World σ κ) : Event κ → Prop
  | .basic_consume _ _ _ no_ack _ _ _ r => no_ack = false → ∀ tag, r = .ok tag →
    tag ∉ (w'.self.objects channelobj).no_ack_consumers
  | _ => True

/-- The channel before any event: registered, with no consumers. -/
structure Initial (consumers : Consumers σ) (channelobj : Nat) (w : World σ κ) : Prop where
  connected : w.self.connected = true
  noError : w.err = none
  registered : (w.self.callbacks.lookup (w.self.objects channelobj).channel_id).isSome = true
  nothing : (w.self.objects channelobj).no_ack_consumers = []
  idle : Empty consumers w.self.conn (number channelobj w)

/-- The reply to the request of the event, and the connection state behind it. -/
def answer (env : Env σ κ) (api : RabbitMQApi σ) (channelobj : Nat) (w : World σ κ) :
    Event κ → Option (amqp_rpc_reply_t × σ)
  | .basic_consume queue consumer_tag no_local no_ack exclusive _ arguments _ =>
    (SyncOp.basic_consume queue (.str consumer_tag) no_local no_ack exclusive arguments).recorded
      env.lib api (w.self.objects channelobj).channel_id w.self.conn
  | .basic_cancel tag => (SyncOp.basic_cancel tag.obj).recorded env.lib api
    (w.self.objects channelobj).channel_id w.self.conn
  | .channel_error _ => none

/-- The event takes the tags of the consumers that end with it out of the set: an error comes
while no tag is in it but the one that is cancelled, and a tag in the set is cancelled as
`str`. -/
def TakesOut (env : Env σ κ) (api : RabbitMQApi σ) (channelobj : Nat) (w : World σ κ)
    (e : Event κ) : Prop :=
  ∀ tag ∈ (w.self.objects channelobj).no_ack_consumers, match e with
    | .basic_consume _ _ _ _ _ _ _ _ => ∀ reply s, answer env api channelobj w e = some (reply, s) →
      IsNormal reply
    | .basic_cancel cancelled => cancelled = .str tag ∨
      ∀ reply s, answer env api channelobj w e = some (reply, s) →
        IsNormal reply ∧ asciiEncode tag ≠ name? cancelled.obj
    | .channel_error _ => False

/-- The states that events which meet a condition lead to. -/
def Reaches (env : Env σ κ) (api : RabbitMQApi σ) (consumers : Consumers σ) (channelobj : Nat)
    (meets : World σ κ → Event κ → Prop) : World σ κ → World σ κ → Prop :=
  Relation.ReflTransGen fun w w' => ∃ e, meets w e ∧ Step env api consumers channelobj w e w'

/-! ## What the recovery leaves alone -/

/-- A call keeps the `Channel` objects, however it ends. -/
def KeepsObjects {α : Type} (x : Run (World σ κ) α) : Prop :=
  ∀ w, (x w).2.self.objects = w.self.objects

section

variable {α β : Type} {env : Env σ κ} {api : RabbitMQApi σ}

theorem KeepsObjects.bind {x : Run (World σ κ) α} {f : α → Run (World σ κ) β}
    (hx : KeepsObjects x) (hf : ∀ a, KeepsObjects (f a)) : KeepsObjects (x >>= f) := by
  intro w
  have h := hx w
  rw [Run.bind_apply]
  rcases hw : x w with ⟨o, w'⟩
  rw [hw] at h
  cases o with
  | ret a => exact (hf a w').trans h
  | crash => exact h
  | hang => exact h

theorem KeepsObjects.pure (a : α) : KeepsObjects (pure a : Run (World σ κ) α) := fun _ => rfl

theorem KeepsObjects.hang : KeepsObjects (Run.hang : Run (World σ κ) α) := fun _ => rfl

theorem keepsObjects_setString (e : PyErr) :
    KeepsObjects (PyErr_SetString e : Run (World σ κ) Unit) := fun _ => rfl

theorem keepsObjects_onConn (f : σ → α × σ) : KeepsObjects (onConn f : Run (World σ κ) α) :=
  fun _ => rfl

theorem keepsObjects_close (env : Env σ κ) : KeepsObjects (PyRabbitMQ_Connection_close env) := by
  intro w
  change (w.closed env).self.objects = w.self.objects
  unfold World.closed
  split <;> rfl

/-- The handler, the revival and the open keep the objects, at every depth. -/
theorem handlers_keep_objects (env : Env σ κ) (fuel : Nat) :
    (∀ channel reply context,
      KeepsObjects (PyRabbitMQ_HandleAMQError env fuel channel reply context)) ∧
    (∀ channel, KeepsObjects (PyRabbitMQ_revive_channel env fuel channel)) ∧
    (∀ channel, KeepsObjects (PyRabbitMQ_Connection_create_channel env fuel channel)) := by
  induction fuel with
  | zero =>
    refine ⟨fun _ _ _ => ?_, fun _ => ?_, fun _ => ?_⟩
    · unfold PyRabbitMQ_HandleAMQError
      exact KeepsObjects.hang
    · unfold PyRabbitMQ_revive_channel
      exact KeepsObjects.hang
    · unfold PyRabbitMQ_Connection_create_channel
      exact KeepsObjects.hang
  | succ fuel ih =>
    obtain ⟨hhandle, hrevive, hcreate⟩ := ih
    have hconnerror : ∀ e, KeepsObjects (do
        PyErr_SetString e
        PyRabbitMQ_Connection_close env
        return PYRABBITMQ_CONNECTION_ERROR : Run (World σ κ) Int) := fun e =>
      (keepsObjects_setString e).bind fun _ =>
        (keepsObjects_close env).bind fun _ => KeepsObjects.pure _
    refine ⟨fun channel reply context => ?_, fun channel => ?_, fun channel => ?_⟩
    · unfold PyRabbitMQ_HandleAMQError
      cases reply with
      | normal m => exact KeepsObjects.pure 0
      | none => exact hconnerror _
      | library_exception e => exact hconnerror _
      | server_exception m =>
        cases m with
        | channel_close m =>
          exact (keepsObjects_setString _).bind fun _ =>
            (hrevive channel).bind fun _ => KeepsObjects.pure _
        | _ => exact hconnerror _
    · unfold PyRabbitMQ_revive_channel
      apply (keepsObjects_onConn _).bind
      intro status
      split
      · exact (keepsObjects_setString _).bind fun _ =>
          (keepsObjects_close env).bind fun _ => KeepsObjects.pure _
      · exact hcreate channel
    · unfold PyRabbitMQ_Connection_create_channel
      apply (keepsObjects_onConn _).bind
      intro reply
      exact hhandle 0 reply _

end

/-! ## What the recovery leaves at the broker -/

section

variable {env : Env σ κ} {api : RabbitMQApi σ} {consumers : Consumers σ} {c d : amqp_channel_t}
  {s s' s'' : σ} {w w' : World σ κ} {fuel : Nat} {channel : UInt32}

theorem AddsNone.trans (h : AddsNone consumers s s') (h' : AddsNone consumers s' s'') :
    AddsNone consumers s s'' := fun c name hnone => h' c name (h c name hnone)

theorem AddsNone.empty (h : AddsNone consumers s s') (hempty : Empty consumers s c) :
    Empty consumers s' c := fun name => h c name (hempty name)

theorem granted_addsNone (hb : Broker env.lib api consumers) (h : Granted env.lib c s s') :
    AddsNone consumers s s' := by
  cases h with
  | @mk status s1 _ m hs _ ho =>
    have hsent := hb.close_ok s c
    have hopen := hb.opens s1 c
    rw [hs] at hsent
    rw [ho] at hopen
    exact hsent.trans hopen

theorem refused_addsNone (hb : Broker env.lib api consumers) (h : Refused env.lib c s s') :
    AddsNone consumers s s' := by
  cases h with
  | @mk status s1 _ m hs _ ho =>
    have hsent := hb.close_ok s c
    have hopen := hb.opens s1 c
    rw [hs] at hsent
    rw [ho] at hopen
    exact hsent.trans hopen

theorem revives_addsNone (hb : Broker env.lib api consumers) (h : Revives env.lib c s s') :
    AddsNone consumers s s' := by
  induction h with
  | granted h => exact granted_addsNone hb h
  | again h _ ih => exact (refused_addsNone hb h).trans ih

/-- The broker has no consumer on the channel, or the connection is closed. -/
def Bare (consumers : Consumers σ) (c : amqp_channel_t) (w : World σ κ) : Prop :=
  w.self.connected = false ∨ Empty consumers w.self.conn c

/-- A revival adds no consumer. -/
theorem revive_bare (hb : Broker env.lib api consumers) {r : Int}
    (h : PyRabbitMQ_revive_channel env fuel channel w = (.ret r, w'))
    (hempty : Empty consumers w.self.conn c) : Bare consumers c w' := by
  cases revive_ends env fuel h with
  | lost hlost => exact Or.inl hlost.connected
  | granted hgranted => exact Or.inr ((granted_addsNone hb hgranted).empty hempty)
  | chained hchained _ =>
    exact Or.inr ((revives_addsNone hb (revives_iff.mpr (Or.inr hchained))).empty hempty)

/-- Behind a reply that is not normal the channel is bare. -/
theorem handle_bare (hb : Broker env.lib api consumers) {reply : amqp_rpc_reply_t}
    {context : String} {r : Int} (hfails : ¬ IsNormal reply)
    (h : PyRabbitMQ_HandleAMQError env fuel channel reply context w = (.ret r, w'))
    (hempty : IsClose reply → Empty consumers w.self.conn c) : r ≠ 0 ∧ Bare consumers c w' := by
  rcases handle_cases h with ⟨m, rfl, _⟩ | ⟨hr, hlost⟩ | ⟨hr, m, e, r', k, rfl, _, _, hrevive⟩
  · exact absurd ⟨m, rfl⟩ hfails
  · exact ⟨hr, Or.inl hlost.connected⟩
  · exact ⟨hr, revive_bare hb hrevive (hempty ⟨m, rfl⟩)⟩

/-- A bare channel has no current consumer. -/
theorem Bare.current {channelobj : Nat} (h : Bare consumers (number channelobj w) w) (tag : PyStr) :
    current consumers channelobj w tag = none := by
  unfold no_ack_consumers.current
  rcases h with hdown | hempty
  · rw [hdown, if_neg Bool.false_ne_true]
  · split
    · cases asciiEncode tag with
      | none => rfl
      | some name => exact hempty name
    · rfl

end

/-! ## Requests -/

/-- Nothing that the law looks at has changed. -/
structure Still (consumers : Consumers σ) (w w' : World σ κ) : Prop where
  objects : w'.self.objects = w.self.objects
  callbacks : w'.self.callbacks = w.self.callbacks
  connected : w'.self.connected = w.self.connected
  consumers : consumers w'.self.conn = consumers w.self.conn

section

variable {env : Env σ κ} {api : RabbitMQApi σ} {consumers : Consumers σ} {c : amqp_channel_t}
  {w w' w'' : World σ κ} {strings : List PyObj} {arguments : Option PyMembers}
  {table : amqp_table_t} {s : σ}

theorem Still.trans (h : Still consumers w w') (h' : Still consumers w' w'') :
    Still consumers w w'' :=
  ⟨h'.objects.trans h.objects, h'.callbacks.trans h.callbacks, h'.connected.trans h.connected,
    h'.consumers.trans h.consumers⟩

theorem still_of_self (h : w'.self = w.self) : Still consumers w w' := by
  constructor <;> rw [h]

theorem still_setConn (h : consumers s = consumers w.self.conn) :
    Still consumers w (w.setConn s) := ⟨rfl, rfl, rfl, h⟩

theorem argumentsTable_still (hb : Broker env.lib api consumers) (c : amqp_channel_t)
    (arguments : Option PyMembers) (w : World σ κ) :
    Still consumers w (argumentsTable api c arguments w).2 := by
  cases arguments with
  | none => exact still_of_self rfl
  | some members =>
    have hpool := hb.pool w.self.conn c
    rcases hcall : api.amqp_get_or_create_channel_pool w.self.conn c with ⟨found, s⟩
    rw [hcall] at hpool
    have hgot : onConn (fun s => api.amqp_get_or_create_channel_pool s c) w =
        (.ret found, w.setConn s) := onConn_ret hcall
    have hstill : Still consumers w (w.setConn s) := still_setConn hpool
    rw [argumentsTable, Run.bind_ret hgot]
    cases found with
    | false => exact hstill.trans (still_of_self rfl)
    | true =>
      rw [if_neg (by simp)]
      have hkeeps : KeepsSelf (do
          let table ← withErr (PyDict_ToAMQTable members)
          let w ← Run.get
          if w.err.isSome then return none
          return some table : Run (World σ κ) (Option amqp_table_t)) := by
        refine (keepsSelf_withErr _).bind fun _ => keepsSelf_get.bind fun w => ?_
        split
        · exact keepsSelf_pure _
        · exact keepsSelf_pure _
      exact hstill.trans (still_of_self (hkeeps _))

theorem table_still (hb : Broker env.lib api consumers)
    (h : table? api c w.self.conn arguments = some (table, s)) (herr : w.err = none) :
    Still consumers w (w.setConn s) := by
  have hstill := argumentsTable_still hb c arguments w
  rw [argumentsTable_of_table herr h] at hstill
  exact hstill

/-- A method that waits for a reply does not come to its request, or hands its reply to the
handler. -/
theorem rpcMethod_cases {ρ : Type} {fuel : Nat} {channel : Int} {context : String}
    {send : σ → amqp_channel_t → (Nat → Octets) → amqp_table_t → (ρ × amqp_rpc_reply_t) × σ}
    {result : ρ → Run (World σ κ) (Option PyObj)} {r : Option PyObj}
    (hb : Broker env.lib api consumers) (hconn : w.self.connected = true) (herr : w.err = none)
    (h : rpcMethod env api fuel channel strings arguments context send result w = (.ret r, w')) :
    ((strings.mapM name? = none ∨ table? api (channelNumber channel) w.self.conn arguments = none) ∧
      r = none ∧ Still consumers w w') ∨
    ∃ names table s0, strings.mapM name? = some names ∧
      table? api (channelNumber channel) w.self.conn arguments = some (table, s0) ∧
      behind env fuel (parseUnsigned channel)
        (send s0 (channelNumber channel) (fun i => names.getD i []) table).1.2 context
        (result (send s0 (channelNumber channel) (fun i => names.getD i []) table).1.1)
        (w.setConn (send s0 (channelNumber channel) (fun i => names.getD i []) table).2) =
        (.ret r, w') := by
  unfold rpcMethod at h
  rw [connected_bind hconn] at h
  cases hnames : strings.mapM name? with
  | none =>
    refine Or.inl ⟨Or.inl rfl, ?_⟩
    obtain ⟨objs, w1, hobjs, h⟩ := Run.ret_of_bind h
    have hstill : Still consumers w w1 := by
      have hself := keepsSelf_maybeUnicodes strings w
      rw [hobjs] at hself
      exact still_of_self hself
    cases objs with
    | none =>
      cases h
      exact ⟨rfl, hstill⟩
    | some objs =>
      obtain ⟨table, w2, htable, h⟩ := Run.ret_of_bind h
      have hstill2 := argumentsTable_still hb (channelNumber channel) arguments w1
      rw [htable] at hstill2
      cases table with
      | none =>
        cases h
        exact ⟨rfl, hstill.trans hstill2⟩
      | some table =>
        obtain ⟨names, w3, hbytes, _⟩ := Run.ret_of_bind h
        exact absurd (Prod.mk.inj hbytes).1 (strings_none herr hnames objs w1 hobjs names)
  | some names =>
    rw [Run.bind_ret (maybeUnicodes_of_names (names_iff.mp hnames) herr)] at h
    dsimp only at h
    cases htable : table? api (channelNumber channel) w.self.conn arguments with
    | none =>
      refine Or.inl ⟨Or.inr rfl, ?_⟩
      obtain ⟨table, w2, hmade, h⟩ := Run.ret_of_bind h
      have hstill := argumentsTable_still hb (channelNumber channel) arguments w
      rw [hmade] at hstill
      rw [(argumentsTable_none herr htable).1 table w2 hmade] at h
      cases h
      exact ⟨rfl, hstill⟩
    | some ts =>
      obtain ⟨table, s0⟩ := ts
      refine Or.inr ⟨names, table, s0, rfl, rfl, ?_⟩
      rw [Run.bind_ret (argumentsTable_of_table herr htable)] at h
      dsimp only at h
      rw [mapM_asBytes, Run.lift_ret_bind_apply] at h
      exact h

end

/-! ## Calls of the extension -/

/-- The `Channel` objects and the callbacks are the same. -/
structure SameTables (w w' : World σ κ) : Prop where
  objects : w'.self.objects = w.self.objects
  callbacks : w'.self.callbacks = w.self.callbacks

/-- How a request of a channel ends: it is not made, or its reply is not normal, or the broker
grants it and the consumers become `after`. -/
inductive Ends {α : Type} (consumers : Consumers σ) (c : amqp_channel_t)
    (answer : Option (amqp_rpc_reply_t × σ)) (granted : α → (Octets → Option Bool) → Prop)
    (w : World σ κ) : Except PyErr α → World σ κ → Prop
  | unsent {e : PyErr} {w' : World σ κ} : answer = none → Still consumers w w' →
      w'.err = none → Ends consumers c answer granted w (.error e) w'
  | refused {reply : amqp_rpc_reply_t} {s : σ} {e : PyErr} {w' : World σ κ} :
      answer = some (reply, s) → ¬ IsNormal reply → SameTables w w' → Bare consumers c w' →
      w'.err = none → Ends consumers c answer granted w (.error e) w'
  | granted {m : amqp_method_t} {s : σ} {a : α} : answer = some (.normal m, s) →
      granted a (consumers s c) → Ends consumers c answer granted w (.ok a) (w.setConn s)

section

variable {env : Env σ κ} {api : RabbitMQApi σ} {consumers : Consumers σ} {c : amqp_channel_t}
  {w w' : World σ κ} {fuel : Nat} {channel : Int}

theorem recorded_none {op : SyncOp} {s : σ} (h : op.strings.mapM name? = none ∨
    table? api (channelNumber channel) s op.arguments = none) :
    op.recorded env.lib api channel s = none := by
  unfold SyncOp.recorded
  split
  · rcases h with hnames | htable
    · rw [hnames]
      rfl
    · cases op.strings.mapM name? with
      | none => rfl
      | some names => rw [htable]; rfl
  · rfl

theorem recorded_some {op : SyncOp} {s s0 : σ} (names : List Octets) {table : amqp_table_t}
    (hparses : op.parses = true) (hnames : op.strings.mapM name? = some names)
    (htable : table? api (channelNumber channel) s op.arguments = some (table, s0)) :
    op.recorded env.lib api channel s = some (op.request env.lib api (channelNumber channel) s0
      (fun i => names.getD i []) table) := by
  unfold SyncOp.recorded
  rw [if_pos hparses, hnames]
  change (table? api (channelNumber channel) s op.arguments).bind _ = _
  rw [htable]
  rfl

theorem error_of_null {α : Type} {x : Run (World σ κ) (Option α)} {r : Except PyErr α}
    (hx : x w = (.ret none, w')) {w'' : World σ κ} (h : fromPython x w = (.ret r, w'')) :
    ∃ e, r = .error e ∧ w'' = w'.setErr none := by
  rw [from_python_ret hx] at h
  cases herr : w'.err with
  | none =>
    rw [herr] at h
    cases h
    exact ⟨_, rfl, rfl⟩
  | some e =>
    rw [herr] at h
    cases h
    exact ⟨_, rfl, rfl⟩

/-- A reply is normal and goes by, or the handler leaves a bare channel. -/
theorem handled_cases {reply : amqp_rpc_reply_t} {context : String} {n : Int} {number : UInt32}
    (hb : Broker env.lib api consumers) (hempty : IsClose reply → Empty consumers w.self.conn c)
    (h : PyRabbitMQ_HandleAMQError env fuel number reply context w = (.ret n, w')) :
    (¬ IsNormal reply ∧ n ≠ 0 ∧ SameTables w w' ∧ Bare consumers c w') ∨
      ((∃ m, reply = .normal m) ∧ n = 0 ∧ w' = w) := by
  by_cases hnormal : IsNormal reply
  · obtain ⟨m, rfl⟩ := hnormal
    cases fuel with
    | zero =>
      unfold PyRabbitMQ_HandleAMQError at h
      cases h
    | succ fuel =>
      rw [handleAMQError_normal] at h
      cases h
      exact Or.inr ⟨⟨m, rfl⟩, rfl, rfl⟩
  · obtain ⟨hn, hbare⟩ := handle_bare hb hnormal h hempty
    have hobjects := (handlers_keep_objects env fuel).1 number reply context w
    have hbooks := (handlers_keep_books env fuel).1 number reply context w
    rw [h] at hobjects hbooks
    exact Or.inl ⟨hnormal, hn, ⟨hobjects, hbooks.callbacks⟩, hbare⟩

theorem behind_cases {reply : amqp_rpc_reply_t} {context : String}
    {rest : Run (World σ κ) (Option PyObj)} {r : Option PyObj} {number : UInt32}
    (hb : Broker env.lib api consumers) (hempty : IsClose reply → Empty consumers w.self.conn c)
    (h : behind env fuel number reply context rest w = (.ret r, w')) :
    (¬ IsNormal reply ∧ r = none ∧ SameTables w w' ∧ Bare consumers c w') ∨
      (∃ m, reply = .normal m) ∧ rest w = (.ret r, w') := by
  obtain ⟨n, w1, hhandle, hrest⟩ := Run.ret_of_bind h
  rcases handled_cases hb hempty hhandle with ⟨hfails, hn, htables, hbare⟩ | ⟨hnormal, rfl, rfl⟩
  · rw [if_pos hn] at hrest
    cases hrest
    exact Or.inl ⟨hfails, rfl, htables, hbare⟩
  · exact Or.inr ⟨hnormal, hrest⟩

theorem decoded_tag {text : PyStr} {name : Octets} (h : asciiEncode text = some name) :
    withErr (fun err => .ret (PySTRING_FROM_AMQBYTES name err)) w = (.ret (.str text), w) := by
  have hdecoded : utf8Decode name = some text := utf8Decode_utf8Encode (utf8Encode_of_ascii h)
  have hmade : PySTRING_FROM_AMQBYTES name w.err = (.str text, w.err) := by
    simp [PySTRING_FROM_AMQBYTES, PyUnicode_FromStringAndSize, hdecoded]
  exact withErr_ret (congrArg Outcome.ret hmade)

/-- The consume is granted under this tag. -/
def Subscribed (before : Octets → Option Bool) (no_ack : Bool) (o : PyObj)
    (after : Octets → Option Bool) : Prop :=
  ∃ text name, o = .str text ∧ asciiEncode text = some name ∧ before name = none ∧
    ∀ n, after n = if n = name then some no_ack else before n

theorem consume_ends {queue : PyObj} {tag : PyStr} {no_local no_ack exclusive : Bool}
    {arguments : PyMembers} {r : Except PyErr PyObj} (hb : Broker env.lib api consumers)
    (hconn : w.self.connected = true) (herr : w.err = none)
    (h : fromPython (PyRabbitMQ_Connection_basic_consume env api fuel channel queue (.str tag)
      no_local no_ack exclusive arguments) w = (.ret r, w')) :
    Ends consumers (channelNumber channel)
      ((SyncOp.basic_consume queue (.str tag) no_local no_ack exclusive arguments).recorded env.lib
        api channel w.self.conn)
      (Subscribed (consumers w.self.conn (channelNumber channel)) no_ack) w r w' := by
  obtain ⟨o, w1, hrun, _⟩ := ret_of_fromPython h
  rcases rpcMethod_cases hb hconn herr hrun with ⟨hnone, rfl, hstill⟩ |
    ⟨names, table, s0, hnames, htable, hbehind⟩
  · obtain ⟨e, rfl, rfl⟩ := error_of_null hrun h
    exact .unsent (recorded_none hnone) (hstill.trans (still_of_self rfl)) rfl
  · have hanswer := hb.consume s0 (channelNumber channel) (names.getD 0 []) (names.getD 1 [])
      no_local no_ack exclusive table
    have hrecorded : (SyncOp.basic_consume queue (.str tag) no_local no_ack exclusive
        arguments).recorded env.lib api channel w.self.conn = some (replyOf
          (api.amqp_basic_consume s0 (channelNumber channel) (names.getD 0 []) (names.getD 1 [])
            no_local no_ack exclusive table)) := recorded_some names rfl hnames htable
    have hbefore := (table_still hb htable herr).consumers
    generalize api.amqp_basic_consume s0 (channelNumber channel) (names.getD 0 [])
      (names.getD 1 []) no_local no_ack exclusive table = called at hanswer hrecorded hbehind
    cases hanswer with
    | refused hfails hempty =>
      rcases behind_cases hb hempty hbehind with ⟨_, rfl, htables, hbare⟩ | ⟨hnormal, _⟩
      · obtain ⟨e, rfl, rfl⟩ := error_of_null hrun h
        exact .refused hrecorded hfails ⟨htables.objects, htables.callbacks⟩ hbare rfl
      · exact absurd hnormal hfails
    | @granted name m s _ hascii hfree hafter =>
      obtain ⟨text, htext⟩ := hascii
      have hclose : IsClose (.normal m) → Empty consumers s (channelNumber channel) := by
        rintro ⟨_, hclose⟩
        cases hclose
      rcases behind_cases (w := w.setConn s) hb hclose hbehind with ⟨hfails, _⟩ | ⟨_, hresult⟩
      · exact absurd ⟨m, rfl⟩ hfails
      · have htaken : withErr (fun err => .ret (PySTRING_FROM_AMQBYTES name err)) (w.setConn s) =
            (.ret (.str text), w.setConn s) := decoded_tag htext
        dsimp only [followOk] at hresult
        rw [Run.bind_ret htaken] at hresult
        cases hresult
        rw [from_python_ret hrun, show (w.setConn s).err = none from herr] at h
        cases h
        rw [setErr_none (w := w.setConn s) herr]
        refine .granted hrecorded ⟨text, name, rfl, htext, ?_, ?_⟩
        · rw [← hbefore]
          exact hfree
        · rw [← hbefore]
          exact hafter

/-- The cancel of the tag is granted. -/
def Unsubscribed (before : Octets → Option Bool) (tag : Tag) (_ : Unit)
    (after : Octets → Option Bool) : Prop :=
  ∀ n, after n = if name? tag.obj = some n then none else before n

theorem cancel_ends {tag : Tag} {r : Except PyErr Unit} (hb : Broker env.lib api consumers)
    (hconn : w.self.connected = true) (herr : w.err = none)
    (h : fromPython (PyRabbitMQ_Connection_basic_cancel env fuel channel tag.obj) w =
      (.ret r, w')) :
    Ends consumers (channelNumber channel)
      ((SyncOp.basic_cancel tag.obj).recorded env.lib api channel w.self.conn)
      (Unsubscribed (consumers w.self.conn (channelNumber channel)) tag) w r w' := by
  obtain ⟨u, w1, hrun, _⟩ := ret_of_fromPython h
  have hstart := hrun
  unfold PyRabbitMQ_Connection_basic_cancel at hstart
  rw [connected_bind hconn] at hstart
  cases hname : name? tag.obj with
  | none =>
    have htyped : IsStringValue tag.obj := by
      cases tag with
      | str s => exact Or.inl ⟨s, rfl⟩
      | bytes b => exact Or.inr ⟨b, rfl⟩
    obtain ⟨e, hnull⟩ := noName_raises herr hname htyped
    rw [Run.bind_ret hnull] at hstart
    cases hstart
    obtain ⟨e', rfl, rfl⟩ := error_of_null hrun h
    exact .unsent (recorded_none (Or.inl (by simp [SyncOp.strings, hname]))) (still_of_self rfl) rfl
  | some name =>
    have hrecorded : (SyncOp.basic_cancel tag.obj).recorded env.lib api channel w.self.conn =
        some (env.lib.amqp_basic_cancel w.self.conn (channelNumber channel) name) :=
      recorded_some [name] rfl (by simp [SyncOp.strings, hname]) rfl
    rcases hcancel : env.lib.amqp_basic_cancel w.self.conn (channelNumber channel) name with
      ⟨reply, s⟩
    have hcall : onConn (fun s => env.lib.amqp_basic_cancel s (parseUnsigned channel).toUInt16 name)
        w = (.ret reply, w.setConn s) := onConn_ret hcancel
    have hanswer := hb.cancel w.self.conn (channelNumber channel) name
    rw [hcancel] at hanswer hrecorded
    rw [Run.bind_ret (withErr_name (name?_iff.mp hname) herr)] at hstart
    dsimp only [PyString_AS_AMQBYTES] at hstart
    rw [Run.lift_ret_bind_apply, Run.bind_ret hcall] at hstart
    obtain ⟨n, w2, hhandle, hrest⟩ := Run.ret_of_bind hstart
    cases hanswer with
    | refused hfails hempty =>
      rcases handled_cases (w := w.setConn s) hb hempty hhandle with
        ⟨_, hn, htables, hbare⟩ | ⟨hnormal, _⟩
      · rw [if_pos hn] at hrest
        cases hrest
        obtain ⟨e, rfl, rfl⟩ := error_of_null hrun h
        exact .refused hrecorded hfails ⟨htables.objects, htables.callbacks⟩ hbare rfl
      · exact absurd hnormal hfails
    | @granted m _ hafter =>
      have hclose : IsClose (.normal m) → Empty consumers s (channelNumber channel) := by
        rintro ⟨_, hclose⟩
        cases hclose
      rcases handled_cases (w := w.setConn s) hb hclose hhandle with ⟨hfails, _⟩ | ⟨_, rfl, rfl⟩
      · exact absurd ⟨m, rfl⟩ hfails
      · cases hrest
        rw [from_python_ret hrun, show (w.setConn s).err = none from herr] at h
        cases h
        rw [setErr_none (w := w.setConn s) herr]
        refine .granted hrecorded fun n => ?_
        rw [hafter n, hname]
        by_cases hn : n = name
        · rw [if_pos hn, if_pos (congrArg some hn.symm)]
        · rw [if_neg hn, if_neg fun h => hn (Option.some.inj h).symm]

end

/-! ## Events -/

/-- What every event keeps beside the law. -/
structure Ready (channelobj : Nat) (w : World σ κ) : Prop where
  noError : w.err = none
  registered : (w.self.callbacks.lookup (w.self.objects channelobj).channel_id).isSome = true

section

variable {env : Env σ κ} {api : RabbitMQApi σ} {consumers : Consumers σ} {channelobj : Nat}
  {w w' : World σ κ}

theorem asciiEncode_injective {s t : PyStr} {name : Octets} (hs : asciiEncode s = some name)
    (ht : asciiEncode t = some name) : s = t := by
  have hdecoded := utf8Decode_utf8Encode (utf8Encode_of_ascii hs)
  rw [utf8Decode_utf8Encode (utf8Encode_of_ascii ht)] at hdecoded
  exact (Option.some.inj hdecoded).symm

theorem Describes.closed (h : Describes consumers channelobj w) (hdown : w.self.connected = false) :
    (w.self.objects channelobj).no_ack_consumers = [] := by
  apply List.eq_nil_iff_forall_not_mem.mpr
  intro tag hmem
  have hlive := (h tag).mp hmem
  unfold current at hlive
  rw [hdown, if_neg Bool.false_ne_true] at hlive
  cases hlive

theorem Still.describes (h : Still consumers w w') (hw : Describes consumers channelobj w) :
    Describes consumers channelobj w' := by
  intro tag
  have hcurrent : current consumers channelobj w' tag = current consumers channelobj w tag := by
    unfold current number
    rw [h.connected, h.objects, h.consumers]
  rw [h.objects, hcurrent]
  exact hw tag

/-- A bare channel is described by the empty set only. -/
theorem describes_bare (h : Bare consumers (number channelobj w) w) :
    Describes consumers channelobj w ↔
      ∀ tag, tag ∉ (w.self.objects channelobj).no_ack_consumers := by
  unfold Describes
  refine forall_congr' fun tag => ?_
  rw [h.current tag]
  exact iff_false_right fun h => nomatch h

theorem SameTables.ready (h : SameTables w w') (hw : Ready channelobj w) (herr : w'.err = none) :
    Ready channelobj w' := by
  refine ⟨herr, ?_⟩
  rw [h.objects, h.callbacks]
  exact hw.registered

theorem Still.tables (h : Still consumers w w') : SameTables w w' := ⟨h.objects, h.callbacks⟩

/-- The consumers of the channel behind a consume that is granted, against the set. -/
theorem describes_granted {no_ack : Bool} {text : PyStr} {name : Octets}
    (hw : Describes consumers channelobj w) (hconn : w.self.connected = true)
    (htext : asciiEncode text = some name)
    (hfree : consumers w.self.conn (number channelobj w) name = none)
    (hup : w'.self.connected = true)
    (hafter : ∀ n, consumers w'.self.conn (number channelobj w') n =
      if n = name then some no_ack else consumers w.self.conn (number channelobj w) n)
    (hset : ∀ tag, tag ∈ (w'.self.objects channelobj).no_ack_consumers ↔
      tag ∈ (w.self.objects channelobj).no_ack_consumers ∨ (no_ack = true ∧ tag = text)) :
    Describes consumers channelobj w' := by
  intro tag
  have hbefore := hw tag
  unfold current at hbefore ⊢
  rw [hconn, if_pos rfl] at hbefore
  rw [hup, if_pos rfl, hset tag, hbefore]
  by_cases htag : tag = text
  · subst htag
    rw [htext, Option.bind_some, Option.bind_some, hafter, if_pos rfl, hfree]
    simp
  · cases hcode : asciiEncode tag with
    | none => simp [htag]
    | some n =>
      have hne : n ≠ name := fun h => htag (asciiEncode_injective hcode (h ▸ htext))
      rw [Option.bind_some, Option.bind_some, hafter, if_neg hne]
      simp [htag]

end

/-! ## Consumes -/

section

variable {env : Env σ κ} {api : RabbitMQApi σ} {consumers : Consumers σ} {channelobj : Nat}
  {w w' : World σ κ}

/-- The world behind a consume that succeeded under this tag. -/
def consumed (channelobj : Nat) (no_ack : Bool) (text : PyStr) (callback : κ)
    (callbacks : Dict PyStr κ) (w : World σ κ) : World σ κ :=
  let w := { w with self := { w.self with
    callbacks := w.self.callbacks.set (w.self.objects channelobj).channel_id
      (callbacks.set text callback) } }
  if no_ack then
    w.setChannel channelobj { w.self.objects channelobj with
      no_ack_consumers := (w.self.objects channelobj).no_ack_consumers.insert text }
  else w

theorem consumed_run {fuel : Nat} {queue : PyObj} {tag text : PyStr}
    {no_local no_ack exclusive : Bool} {callback : κ} {arguments : PyMembers}
    {callbacks : Dict PyStr κ}
    (h : fromPython (PyRabbitMQ_Connection_basic_consume env api fuel
      (w.self.objects channelobj).channel_id queue (.str tag) no_local no_ack exclusive arguments)
      w = (.ret (.ok (.str text)), w'))
    (hsame : w'.self.objects = w.self.objects)
    (hcallbacks : w'.self.callbacks.lookup (w.self.objects channelobj).channel_id =
      some callbacks) :
    Channel.basic_consume env api fuel channelobj queue tag no_local no_ack exclusive callback
      arguments w = (.ret (.ok text), consumed channelobj no_ack text callback callbacks w') := by
  unfold Channel.basic_consume
  rw [Run.get_bind_apply]
  dsimp only
  rw [Run.bind_ret h]
  dsimp only
  rw [Run.get_bind_apply, hcallbacks]
  dsimp only
  rw [Run.modify_bind_apply]
  cases no_ack with
  | false =>
    unfold consumed
    rw [← hsame]
    rfl
  | true =>
    unfold consumed
    rw [← hsame]
    rfl

theorem consumed_objects (channelobj : Nat) (no_ack : Bool) (text : PyStr) (callback : κ)
    (callbacks : Dict PyStr κ) (w : World σ κ) :
    ((consumed channelobj no_ack text callback callbacks w).self.objects channelobj).channel_id =
        (w.self.objects channelobj).channel_id ∧
      ∀ tag, tag ∈ ((consumed channelobj no_ack text callback callbacks w).self.objects
          channelobj).no_ack_consumers ↔
        tag ∈ (w.self.objects channelobj).no_ack_consumers ∨ (no_ack = true ∧ tag = text) := by
  unfold consumed World.setChannel
  cases no_ack with
  | false => simp
  | true => simp [or_comm]

theorem consumed_self (channelobj : Nat) (no_ack : Bool) (text : PyStr) (callback : κ)
    (callbacks : Dict PyStr κ) (w : World σ κ) :
    (consumed channelobj no_ack text callback callbacks w).self.conn = w.self.conn ∧
      (consumed channelobj no_ack text callback callbacks w).self.connected = w.self.connected ∧
      (consumed channelobj no_ack text callback callbacks w).self.callbacks =
        w.self.callbacks.set (w.self.objects channelobj).channel_id
          (callbacks.set text callback) ∧
      (consumed channelobj no_ack text callback callbacks w).err = w.err := by
  unfold consumed World.setChannel
  cases no_ack <;> exact ⟨rfl, rfl, rfl, rfl⟩

/-- A consume that fails gives the world of the call. -/
theorem consume_failed {fuel : Nat} {queue : PyObj} {tag : PyStr}
    {no_local no_ack exclusive : Bool} {callback : κ} {arguments : PyMembers} {e : PyErr}
    (h : fromPython (PyRabbitMQ_Connection_basic_consume env api fuel
      (w.self.objects channelobj).channel_id queue (.str tag) no_local no_ack exclusive arguments)
      w = (.ret (.error e), w')) :
    Channel.basic_consume env api fuel channelobj queue tag no_local no_ack exclusive callback
      arguments w = (.ret (.error e), w') := by
  unfold Channel.basic_consume
  rw [Run.get_bind_apply]
  dsimp only
  rw [Run.bind_ret h]
  rfl

/-- What a call on the channel does to the law: it is described behind the call exactly when the
condition is met. -/
structure Follows (env : Env σ κ) (api : RabbitMQApi σ) (consumers : Consumers σ)
    (channelobj : Nat) (w w' : World σ κ) (e : Event κ) : Prop where
  ready : Ready channelobj w'
  describes : Describes consumers channelobj w' ↔ TakesOut env api channelobj w e
  leavesOut : LeavesOut channelobj w' e

/-- The condition is met where nothing is asked, and where the set is empty. -/
theorem takesOut_of_empty {e : Event κ} (h : (w.self.objects channelobj).no_ack_consumers = []) :
    TakesOut env api channelobj w e := by
  intro tag hmem
  rw [h] at hmem
  cases hmem

theorem lookup_set_isSome {d : Dict Int (Dict PyStr κ)} {n : Int} {v : Dict PyStr κ} :
    ((d.set n v).lookup n).isSome = true := by
  rw [Dict.lookup_set_self]
  rfl

theorem basic_consume_follows (hb : Broker env.lib api consumers) (hready : Ready channelobj w)
    (hw : Describes consumers channelobj w) {queue : PyObj} {tag : PyStr}
    {no_local no_ack exclusive : Bool} {callback : κ} {arguments : PyMembers}
    {r : Except PyErr PyStr}
    (h : Returns (fun fuel => Channel.basic_consume env api fuel channelobj queue tag no_local
      no_ack exclusive callback arguments) w r w') :
    Follows env api consumers channelobj w w'
      (.basic_consume queue tag no_local no_ack exclusive callback arguments r) := by
  obtain ⟨k, hk⟩ := h
  have hrun : Channel.basic_consume env api (k + 1) channelobj queue tag no_local no_ack exclusive
      callback arguments w = (.ret r, w') := hk (k + 1) (by omega)
  have hcalls := hrun
  unfold Channel.basic_consume at hcalls
  rw [Run.get_bind_apply] at hcalls
  obtain ⟨r1, w1, hcall, _⟩ := Run.ret_of_bind hcalls
  cases hconn : w.self.connected with
  | false =>
    have hoffline := hcall
    unfold PyRabbitMQ_Connection_basic_consume rpcMethod at hoffline
    rw [fromPython_offline hconn] at hoffline
    cases hoffline
    rw [consume_failed hcall] at hrun
    cases hrun
    exact ⟨⟨rfl, hready.registered⟩, iff_of_true hw (takesOut_of_empty (hw.closed hconn)),
      fun _ _ h => nomatch h⟩
  | true =>
    have hends := consume_ends hb hconn hready.noError hcall
    cases hends with
    | unsent hnone hstill herr =>
      rw [consume_failed hcall] at hrun
      cases hrun
      refine ⟨hstill.tables.ready hready herr, iff_of_true (hstill.describes hw) ?_,
        fun _ _ h => nomatch h⟩
      intro t _ reply s hanswer
      rw [answer, hnone] at hanswer
      cases hanswer
    | @refused reply s e _ hanswer hfails htables hbare herr =>
      rw [consume_failed hcall] at hrun
      cases hrun
      have hnumber : number channelobj w' = number channelobj w := by
        unfold number
        rw [htables.objects]
      refine ⟨htables.ready hready herr, ?_, fun _ _ h => nomatch h⟩
      rw [describes_bare (by rw [hnumber]; exact hbare), htables.objects]
      refine forall_congr' fun t => imp_congr_right fun _ => ?_
      rw [false_iff]
      intro hnormal
      exact hfails (hnormal reply s hanswer)
    | @granted m s o hanswer hsub =>
      obtain ⟨text, name, rfl, htext, hfree, hafter⟩ := hsub
      obtain ⟨callbacks, hcallbacks⟩ := Option.isSome_iff_exists.mp hready.registered
      rw [consumed_run hcall rfl hcallbacks] at hrun
      cases hrun
      obtain ⟨hid, hset⟩ := consumed_objects channelobj no_ack text callback callbacks (w.setConn s)
      obtain ⟨hconn', hup, hbooks, herr⟩ :=
        consumed_self channelobj no_ack text callback callbacks (w.setConn s)
      refine ⟨⟨herr.trans hready.noError, ?_⟩, iff_of_true ?_ ?_, ?_⟩
      · rw [hbooks, hid]
        exact lookup_set_isSome
      · refine describes_granted hw hconn htext hfree (hup.trans hconn) (fun n => ?_) hset
        have hnumber : number channelobj (consumed channelobj no_ack text callback callbacks
            (w.setConn s)) = number channelobj w := congrArg channelNumber hid
        rw [hnumber, hconn']
        exact hafter n
      · intro t _ reply s' hreply
        cases hanswer.symm.trans hreply
        exact ⟨m, rfl⟩
      · intro hplain t ht
        cases ht
        rw [hset, hplain]
        rintro (hmem | ⟨hfalse, _⟩)
        · have hlive := (hw text).mp hmem
          unfold current at hlive
          rw [hconn, if_pos rfl, htext, Option.bind_some] at hlive
          exact nomatch hfree.symm.trans hlive
        · cases hfalse

end

/-! ## Cancels -/

section

variable {env : Env σ κ} {api : RabbitMQApi σ} {consumers : Consumers σ} {channelobj : Nat}
  {w w' w1 : World σ κ} {tag : Tag}

/-- The world in which a cancel asks the broker. -/
structure Discarded (channelobj : Nat) (tag : Tag) (w w1 : World σ κ) : Prop where
  conn : w1.self.conn = w.self.conn
  connected : w1.self.connected = w.self.connected
  noError : w1.err = w.err
  channel_id : (w1.self.objects channelobj).channel_id = (w.self.objects channelobj).channel_id
  registered : (w.self.callbacks.lookup (w.self.objects channelobj).channel_id).isSome = true →
    (w1.self.callbacks.lookup (w.self.objects channelobj).channel_id).isSome = true
  consumers : ∀ t, t ∈ (w1.self.objects channelobj).no_ack_consumers ↔
    t ∈ (w.self.objects channelobj).no_ack_consumers ∧ tag ≠ .str t

theorem basic_cancel_discards (env : Env σ κ) (channelobj : Nat) (tag : Tag) (w : World σ κ) :
    ∃ w1, Discarded channelobj tag w w1 ∧ ∀ fuel,
      Channel.basic_cancel_tag env fuel channelobj tag w =
        fromPython (PyRabbitMQ_Connection_basic_cancel env fuel
          (w.self.objects channelobj).channel_id tag.obj) w1 := by
  cases tag with
  | bytes b =>
    refine ⟨w, ⟨rfl, rfl, rfl, rfl, fun h => h, fun t => ?_⟩, fun _ => rfl⟩
    simp
  | str s =>
    generalize hw0 : w.setChannel channelobj { w.self.objects channelobj with
      no_ack_consumers := (w.self.objects channelobj).no_ack_consumers.filter fun t => t ≠ s } = w0
    have hobjects : w0.self.objects channelobj = { w.self.objects channelobj with
        no_ack_consumers := (w.self.objects channelobj).no_ack_consumers.filter fun t =>
          t ≠ s } := by
      rw [← hw0]
      simp [World.setChannel]
    have hbooks : w0.self.callbacks = w.self.callbacks := by
      rw [← hw0]
      rfl
    have hid : (w0.self.objects channelobj).channel_id =
        (w.self.objects channelobj).channel_id := by rw [hobjects]
    have hset : ∀ t, t ∈ (w0.self.objects channelobj).no_ack_consumers ↔
        t ∈ (w.self.objects channelobj).no_ack_consumers ∧ Tag.str s ≠ .str t := by
      intro t
      rw [hobjects]
      simp only [List.mem_filter, decide_eq_true_eq]
      exact and_congr_right fun _ =>
        not_congr ⟨fun h => congrArg Tag.str h.symm, fun h => (Tag.str.inj h).symm⟩
    have hrun : ∀ {rest : World σ κ → Run (World σ κ) (Except PyErr Unit)} fuel,
        Channel.basic_cancel_tag env fuel channelobj (.str s) = Run.modify (fun w =>
          w.setChannel channelobj { w.self.objects channelobj with
            no_ack_consumers := (w.self.objects channelobj).no_ack_consumers.filter fun t =>
              t ≠ s }) >>= (fun _ => Run.get >>= rest) →
        Channel.basic_cancel_tag env fuel channelobj (.str s) w = rest w0 w0 := by
      intro rest fuel h
      rw [h, Run.modify_bind_apply, Run.get_bind_apply, hw0]
    cases hcallbacks : w.self.callbacks.lookup (w.self.objects channelobj).channel_id with
    | none =>
      refine ⟨w0, ⟨?_, ?_, ?_, hid, fun h => ?_, hset⟩, fun fuel => ?_⟩
      · rw [← hw0]; rfl
      · rw [← hw0]; rfl
      · rw [← hw0]; rfl
      · rw [hcallbacks] at h
        cases h
      · rw [hrun fuel rfl, hid, hbooks]
        dsimp only
        rw [hcallbacks]
        rfl
    | some callbacks =>
      refine ⟨{ w0 with self := { w0.self with
        callbacks := w0.self.callbacks.set (w.self.objects channelobj).channel_id
          (callbacks.pop s) } }, ⟨?_, ?_, ?_, hid, fun _ => ?_, hset⟩, fun fuel => ?_⟩
      · rw [← hw0]; rfl
      · rw [← hw0]; rfl
      · rw [← hw0]; rfl
      · exact lookup_set_isSome
      · rw [hrun fuel rfl, hid, hbooks]
        dsimp only
        rw [hcallbacks, ← hbooks]
        rfl

theorem Discarded.number (h : Discarded channelobj tag w w1) :
    number channelobj w1 = number channelobj w := congrArg channelNumber h.channel_id

theorem Discarded.current (h : Discarded channelobj tag w w1) (t : PyStr) :
    current consumers channelobj w1 t = current consumers channelobj w t := by
  unfold no_ack_consumers.current
  rw [h.connected, h.number, h.conn]

/-- The tables behind a request of the cancel. -/
theorem SameTables.discarded (h : SameTables w1 w') (hdiscarded : Discarded channelobj tag w w1)
    (hready : Ready channelobj w) (herr : w'.err = none) :
    Ready channelobj w' ∧ number channelobj w' = no_ack_consumers.number channelobj w ∧
      ∀ t, t ∈ (w'.self.objects channelobj).no_ack_consumers ↔
        t ∈ (w.self.objects channelobj).no_ack_consumers ∧ tag ≠ .str t := by
  have hid : (w'.self.objects channelobj).channel_id = (w.self.objects channelobj).channel_id := by
    rw [h.objects, hdiscarded.channel_id]
  refine ⟨⟨herr, ?_⟩, congrArg channelNumber hid, fun t => ?_⟩
  · rw [hid, h.callbacks]
    exact hdiscarded.registered hready.registered
  · rw [h.objects]
    exact hdiscarded.consumers t

theorem cancel_offline {fuel : Nat} {channel : Int} {o : PyObj} {r : Except PyErr Unit}
    (hdown : w.self.connected = false)
    (h : fromPython (PyRabbitMQ_Connection_basic_cancel env fuel channel o) w = (.ret r, w')) :
    w'.self = w.self ∧ w'.err = none := by
  rcases notConnected_cases w with ⟨hn, _⟩ | ⟨_, hclosed⟩
  · rw [hdown] at hn
    cases hn
  · have hrun : PyRabbitMQ_Connection_basic_cancel env fuel channel o w = (.ret (some ()),
        w.setErr (some ⟨.ConnectionError, "Operation on closed connection", []⟩)) := by
      unfold PyRabbitMQ_Connection_basic_cancel
      rw [Run.bind_ret hclosed, if_pos rfl]
      rfl
    rw [from_python_ret hrun] at h
    cases h
    exact ⟨rfl, rfl⟩

/-- The consumers of the channel behind a cancel that is granted, against the set. -/
theorem describes_cancelled (hw : Describes consumers channelobj w)
    (hconn : w.self.connected = true) (hup : w'.self.connected = true)
    (hafter : ∀ n, consumers w'.self.conn (number channelobj w') n =
      if name? tag.obj = some n then none else consumers w.self.conn (number channelobj w) n)
    (hset : ∀ t, t ∈ (w'.self.objects channelobj).no_ack_consumers ↔
      t ∈ (w.self.objects channelobj).no_ack_consumers ∧ tag ≠ .str t) :
    Describes consumers channelobj w' ↔ ∀ t ∈ (w.self.objects channelobj).no_ack_consumers,
      tag = .str t ∨ asciiEncode t ≠ name? tag.obj := by
  have hlive : ∀ t, current consumers channelobj w' t = some true ↔
      t ∈ (w.self.objects channelobj).no_ack_consumers ∧ asciiEncode t ≠ name? tag.obj := by
    intro t
    rw [hw t]
    unfold no_ack_consumers.current
    rw [hup, hconn, if_pos rfl, if_pos rfl]
    cases hcode : asciiEncode t with
    | none => simp
    | some n =>
      rw [Option.bind_some, Option.bind_some, hafter]
      by_cases hn : name? tag.obj = some n
      · simp [hn]
      · rw [if_neg hn]
        exact (and_iff_left fun h => hn h.symm).symm
  have hnamed : ∀ t, asciiEncode t ≠ name? tag.obj → tag ≠ .str t := by
    rintro t hne rfl
    exact hne rfl
  unfold Describes
  constructor
  · intro hlaw t hmem
    by_cases htag : tag = .str t
    · exact Or.inl htag
    · exact Or.inr ((hlive t).mp ((hlaw t).mp ((hset t).mpr ⟨hmem, htag⟩))).2
  · intro htakes t
    rw [hset, hlive]
    refine and_congr_right fun hmem => ⟨fun htag => ?_, hnamed t⟩
    exact (htakes t hmem).resolve_left htag

theorem basic_cancel_follows (hb : Broker env.lib api consumers) (hready : Ready channelobj w)
    (hw : Describes consumers channelobj w) {r : Except PyErr Unit}
    (h : Returns (fun fuel => Channel.basic_cancel_tag env fuel channelobj tag) w r w') :
    Follows env api consumers channelobj w w' (.basic_cancel tag) := by
  obtain ⟨k, hk⟩ := h
  obtain ⟨w1, hdiscarded, heq⟩ := basic_cancel_discards env channelobj tag w
  have hcall := (heq (k + 1)).symm.trans (hk (k + 1) (by omega))
  cases hconn : w.self.connected with
  | false =>
    obtain ⟨hself, herr⟩ := cancel_offline (hdiscarded.connected.trans hconn) hcall
    have hempty := hw.closed hconn
    have htables : SameTables w1 w' := ⟨by rw [hself], by rw [hself]⟩
    obtain ⟨hready', _, hset⟩ := htables.discarded hdiscarded hready herr
    refine ⟨hready', iff_of_true (fun t => ?_) (takesOut_of_empty hempty), trivial⟩
    rw [hset, hempty]
    unfold no_ack_consumers.current
    rw [hself, hdiscarded.connected, hconn]
    simp
  | true =>
    have hends := cancel_ends hb (hdiscarded.connected.trans hconn)
      (hdiscarded.noError.trans hready.noError) hcall
    rw [hdiscarded.conn] at hends
    cases hends with
    | @unsent e _ hnone hstill herr =>
      obtain ⟨hready', _, hset⟩ := hstill.tables.discarded hdiscarded hready herr
      have hname : name? tag.obj = none := by
        cases hname : name? tag.obj with
        | none => rfl
        | some name =>
          have hsome : (SyncOp.basic_cancel tag.obj).recorded env.lib api
              (w.self.objects channelobj).channel_id w.self.conn = some _ :=
            recorded_some [name] rfl (by simp [SyncOp.strings, hname]) rfl
          cases hnone.symm.trans hsome
      refine ⟨hready', iff_of_true (fun t => ?_) (fun t _ => Or.inr fun reply s h => ?_), trivial⟩
      · have hcurrent : current consumers channelobj w' t = current consumers channelobj w t := by
          rw [← hdiscarded.current]
          unfold no_ack_consumers.current no_ack_consumers.number
          rw [hstill.connected, hstill.objects, hstill.consumers]
        rw [hset, hcurrent, hw t]
        refine and_iff_left_of_imp fun hlive htag => ?_
        subst htag
        unfold no_ack_consumers.current at hlive
        rw [show asciiEncode t = none from hname] at hlive
        split at hlive <;> cases hlive
      · cases hnone.symm.trans h
    | @refused reply s e _ hanswer hfails htables hbare herr =>
      obtain ⟨hready', hnumber, hset⟩ := htables.discarded hdiscarded hready herr
      refine ⟨hready', ?_, trivial⟩
      rw [describes_bare (by rw [hnumber]; exact hbare)]
      refine forall_congr' fun t => ?_
      rw [hset, not_and, not_ne_iff]
      refine imp_congr_right fun _ => ⟨Or.inl, fun h => h.resolve_right fun hnormal => ?_⟩
      exact hfails (hnormal reply s hanswer).1
    | @granted m s u hanswer hafter =>
      have htables : SameTables w1 (w1.setConn s) := ⟨rfl, rfl⟩
      obtain ⟨hready', hnumber, hset⟩ := htables.discarded hdiscarded hready
        (hdiscarded.noError.trans hready.noError)
      have hafter' : ∀ n, consumers (w1.setConn s).self.conn (number channelobj (w1.setConn s)) n =
          if name? tag.obj = some n then none
          else consumers w.self.conn (no_ack_consumers.number channelobj w) n := by
        rw [hnumber]
        exact hafter
      have hup : (w1.setConn s).self.connected = true := hdiscarded.connected.trans hconn
      refine ⟨hready', ?_, trivial⟩
      rw [describes_cancelled hw hconn hup hafter' hset]
      refine forall_congr' fun t => imp_congr_right fun _ => or_congr_right ?_
      constructor
      · intro hne reply s' hreply
        cases hanswer.symm.trans hreply
        exact ⟨⟨m, rfl⟩, hne⟩
      · intro h
        exact (h _ s hanswer).2

end

/-! ## Errors of the channel -/

section

variable {env : Env σ κ} {api : RabbitMQApi σ} {consumers : Consumers σ} {channelobj : Nat}
  {w w' : World σ κ}

/-- A revival behind an exception keeps the tables and leaves a bare channel. -/
theorem revived_bare (hb : Broker env.lib api consumers) {e : PyErr} {fuel : Nat}
    {channel : UInt32} {c : amqp_channel_t} (hempty : Empty consumers w.self.conn c)
    (h : (do
      PyErr_SetString e
      let _ ← PyRabbitMQ_revive_channel env fuel channel
      return () : Run (World σ κ) Unit) w = (.ret (), w')) :
    SameTables w w' ∧ Bare consumers c w' := by
  rw [PyErr_SetString_bind] at h
  obtain ⟨n, w1, hrevive, hrest⟩ := Run.ret_of_bind h
  cases hrest
  have hobjects := (handlers_keep_objects env fuel).2.1 channel (w.setErr (some e))
  have hbooks := (handlers_keep_books env fuel).2.1 channel (w.setErr (some e))
  rw [hrevive] at hobjects hbooks
  exact ⟨⟨hobjects, hbooks.callbacks⟩, revive_bare hb hrevive hempty⟩

/-- Whatever tells the client of the error, it keeps the tables and leaves a bare channel. -/
theorem notice_bare (hb : Broker env.lib api consumers) {notice : Notice} {fuel : Nat}
    {channel : Int} {c : amqp_channel_t} (hempty : Empty consumers w.self.conn c)
    (h : notice.handle env fuel channel w = (.ret (), w')) :
    SameTables w w' ∧ Bare consumers c w' := by
  cases notice with
  | reply m context =>
    obtain ⟨n, w1, hhandle, hrest⟩ := Run.ret_of_bind h
    cases hrest
    rcases handled_cases hb (fun _ => hempty) hhandle with ⟨_, _, htables, hbare⟩ | ⟨⟨m', hm⟩, _⟩
    · exact ⟨htables, hbare⟩
    · cases hm
  | frame m => exact revived_bare hb hempty h
  | unsent e => exact revived_bare hb hempty h

theorem channel_error_follows (hb : Broker env.lib api consumers) (hready : Ready channelobj w)
    {notice : Notice} {s : σ} {r : Except PyErr Unit}
    (hempty : Empty consumers s (number channelobj w))
    (h : Returns (fun fuel => notice.call env fuel (w.self.objects channelobj).channel_id)
      (w.setConn s) r w') :
    Follows env api consumers channelobj w w' (.channel_error notice) := by
  obtain ⟨k, hk⟩ := h
  have hcall := hk (k + 1) (by omega)
  obtain ⟨u, w1, hrun, _⟩ := ret_of_fromPython hcall
  have hhandled := hrun
  obtain ⟨u', w2, hhandle, hrest⟩ := Run.ret_of_bind hhandled
  cases hrest
  obtain ⟨htables, hbare⟩ := notice_bare hb hempty hhandle
  obtain ⟨e, rfl, rfl⟩ := error_of_null hrun hcall
  have hobjects : w1.self.objects = w.self.objects := htables.objects
  have hsame : SameTables w (w1.setErr none) := ⟨hobjects, htables.callbacks⟩
  have hnumber : number channelobj (w1.setErr none) = number channelobj w := by
    unfold number
    rw [hsame.objects]
  refine ⟨hsame.ready hready rfl, ?_, trivial⟩
  rw [describes_bare (by rw [hnumber]; exact hbare), hsame.objects]
  rfl

end

/-! ## Runs -/

section

variable {env : Env σ κ} {api : RabbitMQApi σ} {consumers : Consumers σ} {channelobj : Nat}
  {w w' w0 : World σ κ} {e : Event κ}

theorem step_follows (hb : Broker env.lib api consumers) (hready : Ready channelobj w)
    (hw : Describes consumers channelobj w) (h : Step env api consumers channelobj w e w') :
    Follows env api consumers channelobj w w' e := by
  cases h with
  | basic_consume h => exact basic_consume_follows hb hready hw h
  | basic_cancel h => exact basic_cancel_follows hb hready hw h
  | channel_error _ hempty h => exact channel_error_follows hb hready hempty h

theorem initial_describes (h : Initial consumers channelobj w) :
    Ready channelobj w ∧ Describes consumers channelobj w := by
  refine ⟨⟨h.noError, h.registered⟩, ?_⟩
  rw [describes_bare (Or.inr h.idle), h.nothing]
  exact fun _ => List.not_mem_nil

/-- A run whose events all meet the condition keeps the law. -/
theorem reaches_describes (hb : Broker env.lib api consumers) (h0 : Initial consumers channelobj w0)
    (h : Reaches env api consumers channelobj (TakesOut env api channelobj) w0 w) :
    Ready channelobj w ∧ Describes consumers channelobj w := by
  induction h with
  | refl => exact initial_describes h0
  | tail _ hstep ih =>
    obtain ⟨e, hmeets, hstep⟩ := hstep
    have hfollows := step_follows hb ih.1 ih.2 hstep
    exact ⟨hfollows.ready, hfollows.describes.mpr hmeets⟩

end

/-! ## A broker in memory

A connection state that is the table of the consumers. -/

abbrev Table := amqp_channel_t → Octets → Option Bool

/-- The table without the consumers of a channel. -/
def Table.dropped (s : Table) (c : amqp_channel_t) : Table :=
  fun d n => if d = c then none else s d n

/-- The table with another entry. -/
def Table.put (s : Table) (c : amqp_channel_t) (name : Octets) (v : Option Bool) : Table :=
  fun d n => if d = c ∧ n = name then v else s d n

/-- A `channel.close` for a tag that is not to be had. -/
def notAllowed : amqp_rpc_reply_t := .server_exception (.channel_close ⟨530, []⟩)

/-- A tag is granted that is ASCII and not live. -/
def Table.consume (s : Table) (c : amqp_channel_t) (name : Octets) (no_ack : Bool) :
    (Option Octets × amqp_rpc_reply_t) × Table :=
  if s c name = none ∧ (utf8Decode name).bind asciiEncode = some name then
    ((some name, .normal (.other 0x003C0015)), s.put c name (some no_ack))
  else ((none, notAllowed), s.dropped c)

def tableLib : RabbitMQC Table where
  amqp_simple_wait_frame s := (.blocked, s)
  amqp_simple_wait_frame_on_channel s _ := (.blocked, s)
  amqp_data_in_buffer _ := false
  amqp_frames_enqueued _ := false
  select s _ := (⟨0, false, 0⟩, s)
  amqp_send_close_ok s _ := (0, s)
  amqp_channel_open s _ := (.normal (.other 0x0014000B), s)
  amqp_channel_close s c := (.normal (.other 0x00140029), s.dropped c)
  amqp_basic_cancel s c name := (.normal (.other 0x003C001F), s.put c name none)
  amqp_basic_get s _ _ _ := (.normal (.other 0x003C0048), s)
  amqp_connection_close s := s
  amqp_error_string2 _ := []

def tableApi : RabbitMQApi Table where
  amqp_new_connection s := s
  amqp_tcp_socket_new s := (true, s)
  amqp_socket_open s _ _ := (0, s)
  amqp_socket_open_noblock s _ _ _ := (0, s)
  amqp_socket_get_sockfd s := (3, s)
  amqp_login s _ _ _ _ _ _ := (.normal (.other 0), s)
  amqp_login_with_properties s _ _ _ _ _ _ _ := (.normal (.other 0), s)
  channel_max _ := 0xffff
  frame_max _ := 131072
  heartbeat _ := 0
  amqp_get_server_properties s := (amqp_empty_table, s)
  amqp_get_or_create_channel_pool s _ := (true, s)
  amqp_queue_bind s _ _ _ _ _ := (.normal (.other 0), s)
  amqp_queue_unbind s _ _ _ _ _ := (.normal (.other 0), s)
  amqp_queue_delete s _ _ _ _ := ((some 0, .normal (.other 0)), s)
  amqp_queue_declare s _ _ _ _ _ _ _ := ((some ⟨[], 0, 0⟩, .normal (.other 0)), s)
  amqp_queue_purge s _ _ := ((some 0, .normal (.other 0)), s)
  amqp_exchange_declare s _ _ _ _ _ _ := (.normal (.other 0), s)
  amqp_exchange_delete s _ _ _ := (.normal (.other 0), s)
  amqp_basic_publish s _ _ _ _ _ _ _ := (0, s)
  amqp_basic_ack s _ _ _ := (0, s)
  amqp_basic_reject s _ _ _ := (0, s)
  amqp_basic_consume s c _ name _ no_ack _ _ := s.consume c name no_ack
  amqp_basic_qos s _ _ _ _ := (.normal (.other 0), s)
  amqp_channel_flow s _ _ := (.normal (.other 0), s)
  amqp_basic_recover s _ _ := (.normal (.other 0), s)
  strerror _ := []

def tableEnv : Env Table Unit :=
  ⟨tableLib, .lenient, fun _ => true, fun _ => 0, fun _ _ self => (self, none)⟩

theorem table_broker : Broker tableEnv.lib tableApi (fun s : Table => s) where
  consume s c _ name _ no_ack _ _ := by
    change Consumes _ s c name no_ack (s.consume c name no_ack)
    unfold Table.consume
    split
    · rename_i h
      obtain ⟨text, _, htext⟩ := Option.bind_eq_some_iff.mp h.2
      refine .granted (fun _ => rfl) ⟨text, htext⟩ h.1 fun n => ?_
      simp [Table.put]
    · refine .refused ?_ fun _ n => ?_
      · rintro ⟨m, hm⟩
        cases hm
      · simp [Table.dropped]
  cancel s c name := by
    refine .granted fun n => ?_
    simp [Table.put]
  close_ok _ _ _ _ h := h
  opens _ _ _ _ h := h
  pool _ _ := rfl

/-- A connection with the first channel open. -/
def opening : World Table Unit where
  self :=
    { conn := fun _ _ => none
      connected := true
      sockfd := 3
      callbacks := [(1, [])]
      channels := [(1, 0)]
      objects := fun _ => ⟨1, true, []⟩
      _used_channel_ids := [1] }
  err := none
  reads := []
  calls := []
  stores := []

theorem opening_initial : Initial (fun s : Table => s) 0 opening :=
  ⟨rfl, rfl, rfl, rfl, fun _ => rfl⟩

/-- The world behind a consume of the tag "t". -/
def consuming (no_ack : Bool) (w : World Table Unit) : World Table Unit :=
  (Channel.basic_consume tableEnv tableApi 1 0 (.str (pyStr "q")) (pyStr "t") false no_ack false ()
    [] w).2

/-- The world behind a `channel.close` of the channel. -/
def recovering (w : World Table Unit) : World Table Unit :=
  ((Notice.reply ⟨404, []⟩ "queue.declare").call tableEnv 4 1
    (w.setConn (w.self.conn.dropped 1))).2

theorem first_consume : Step tableEnv tableApi (fun s : Table => s) 0 opening
    (.basic_consume (.str (pyStr "q")) (pyStr "t") false true false () [] (.ok (pyStr "t")))
    (consuming true opening) := by
  refine .basic_consume ⟨0, fun fuel hf => ?_⟩
  obtain ⟨n, rfl⟩ : ∃ n, fuel = n + 1 := ⟨fuel - 1, by omega⟩
  rfl

theorem then_error : Step tableEnv tableApi (fun s : Table => s) 0 (consuming true opening)
    (.channel_error (.reply ⟨404, []⟩ "queue.declare")) (recovering (consuming true opening)) := by
  refine .channel_error (s := (consuming true opening).self.conn.dropped 1)
    (r := .error ⟨.ChannelError, "%s: server channel error %d, message: %.*s",
      [.str (pyStr "queue.declare"), .int 404, .bytes []]⟩)
    rfl (fun name => ?_) ⟨3, fun fuel hf => ?_⟩
  · exact if_pos rfl
  · obtain ⟨n, rfl⟩ : ∃ n, fuel = n + 4 := ⟨fuel - 4, by omega⟩
    rfl

theorem then_consume : Step tableEnv tableApi (fun s : Table => s) 0
    (recovering (consuming true opening))
    (.basic_consume (.str (pyStr "q")) (pyStr "t") false false false () [] (.ok (pyStr "t")))
    (consuming false (recovering (consuming true opening))) := by
  refine .basic_consume ⟨0, fun fuel hf => ?_⟩
  obtain ⟨n, rfl⟩ : ∃ n, fuel = n + 1 := ⟨fuel - 1, by omega⟩
  rfl

/-- In every run whose events all take out of the set what ends with them, the set describes the
consumers, and a consume without `no_ack` leaves its tag out of it; an event that does not leaves a
set that does not describe them. -/
theorem the_set_describes_the_consumers_while_they_are_taken_out (env : Env σ κ)
    (api : RabbitMQApi σ) (consumers : Consumers σ) (channelobj : Nat) (w0 : World σ κ)
    (hb : Broker env.lib api consumers) (h0 : Initial consumers channelobj w0) :
    ∀ w, Reaches env api consumers channelobj (TakesOut env api channelobj) w0 w →
      Describes consumers channelobj w ∧
      ∀ e w', Step env api consumers channelobj w e w' → LeavesOut channelobj w' e ∧
        (Describes consumers channelobj w' ↔ TakesOut env api channelobj w e) := by
  intro w hrun
  obtain ⟨hready, hw⟩ := reaches_describes hb h0 hrun
  refine ⟨hw, fun e w' hstep => ?_⟩
  have hfollows := step_follows hb hready hw hstep
  exact ⟨hfollows.leavesOut, hfollows.describes⟩

/-- So it does in a run of a broker in memory, up to the error that loses a consumer. -/
theorem the_set_describes_the_consumers_in_memory :
    Describes (fun s : Table => s) 0 (consuming true opening) ∧
      LeavesOut (κ := Unit) 0 (recovering (consuming true opening))
        (.channel_error (.reply ⟨404, []⟩ "queue.declare")) ∧
      (Describes (fun s : Table => s) 0 (recovering (consuming true opening)) ↔
        TakesOut tableEnv tableApi 0 (consuming true opening)
          (.channel_error (.reply ⟨404, []⟩ "queue.declare"))) := by
  have hrun : Reaches tableEnv tableApi (fun s : Table => s) 0 (TakesOut tableEnv tableApi 0)
      opening (consuming true opening) :=
    .single ⟨_, fun _ htag => (List.not_mem_nil htag).elim, first_consume⟩
  have h := the_set_describes_the_consumers_while_they_are_taken_out tableEnv tableApi
    (fun s : Table => s) 0 opening table_broker opening_initial (consuming true opening) hrun
  exact ⟨h.1, h.2 _ _ then_error⟩

/-- A consumer with `no_ack` is lost in an error of its channel, and its tag stays in the set; a
consume without `no_ack` that takes the tag again succeeds and leaves it there. -/
theorem a_lost_consumer_stays_in_the_set :
    Broker tableEnv.lib tableApi (fun s : Table => s) ∧
    Initial (fun s : Table => s) 0 opening ∧
    ∃ w w' e, Reaches tableEnv tableApi (fun s : Table => s) 0 (fun _ _ => True) opening w ∧
      ¬ Describes (fun s : Table => s) 0 w ∧ Step tableEnv tableApi (fun s : Table => s) 0 w e w' ∧
      ¬ LeavesOut 0 w' e := by
  have hrun : Reaches tableEnv tableApi (fun s : Table => s) 0 (fun _ _ => True) opening
      (recovering (consuming true opening)) :=
    .tail (.single ⟨_, trivial, first_consume⟩) ⟨_, trivial, then_error⟩
  refine ⟨table_broker, opening_initial, _, _, _, hrun, fun hlaw => ?_, then_consume,
    fun hleaves => ?_⟩
  · have hlive := (hlaw (pyStr "t")).mp (List.mem_singleton.mpr rfl)
    cases hlive
  · exact hleaves rfl (pyStr "t") rfl (List.mem_singleton.mpr rfl)

end librabbitmq.no_ack_consumers
