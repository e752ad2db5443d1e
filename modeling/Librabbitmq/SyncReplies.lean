-- The law of a reply that is not normal. Of the fifteen methods that wait for a reply fourteen
-- hand it to the handler, which raises where the revival of a channel comes to an end, and
-- `_basic_qos` does not ask for it.
import Librabbitmq.PublishErrors

namespace librabbitmq.sync_replies

open drain basic_get sending table_errors publish_errors

variable {σ κ : Type}

/-! ## The law -/

def IsNormal (reply : amqp_rpc_reply_t) : Prop := ∃ m, reply = .normal m

/-- The broker closes the channel. -/
def IsClose (reply : amqp_rpc_reply_t) : Prop := ∃ m, reply = .server_exception (.channel_close m)

/-- A method that sends a request and waits for the reply, and its arguments. -/
inductive SyncOp where
  | channel_open
  | channel_close
  | queue_bind (queue exchange routing_key : PyObj) (arguments : PyMembers)
  | queue_unbind (queue exchange routing_key : PyObj) (arguments : PyMembers)
  | queue_delete (queue : PyObj) (if_unused if_empty : Bool)
  | queue_declare (queue : PyObj) (passive durable exclusive auto_delete : Bool)
      (arguments : PyMembers)
  | queue_purge (queue : PyObj)
  | exchange_declare (exchange type : PyObj) (passive durable : Bool) (arguments : PyMembers)
  | exchange_delete (exchange : PyObj) (if_unused : Bool)
  | basic_cancel (consumer_tag : PyObj)
  | basic_consume (queue consumer_tag : PyObj) (no_local no_ack exclusive : Bool)
      (arguments : PyMembers)
  | basic_qos (prefetch_size prefetch_count : Int) (_global : Bool)
  | flow (active : Bool)
  | basic_recover (requeue : Bool)
  | basic_get (queue : PyObj) (no_ack : Bool)

/-- `Py_RETURN_NONE`, for the methods whose model returns nothing else. -/
def noneOf (x : Run (World σ κ) (Option Unit)) : Run (World σ κ) (Option PyObj) := do
  let r ← x
  return r.map fun _ => .none

/-- The call of the method. -/
def SyncOp.run (env : Env σ κ) (api : RabbitMQApi σ) (fuel : Nat) (channel : Int) :
    SyncOp → Run (World σ κ) (Option PyObj)
  | .channel_open => noneOf (PyRabbitMQ_Connection_channel_open env fuel channel)
  | .channel_close => noneOf (PyRabbitMQ_Connection_channel_close env fuel channel)
  | .queue_bind queue exchange routing_key arguments =>
    PyRabbitMQ_Connection_queue_bind env api fuel channel queue exchange routing_key arguments
  | .queue_unbind queue exchange routing_key arguments =>
    PyRabbitMQ_Connection_queue_unbind env api fuel channel queue exchange routing_key arguments
  | .queue_delete queue if_unused if_empty =>
    PyRabbitMQ_Connection_queue_delete env api fuel channel queue if_unused if_empty
  | .queue_declare queue passive durable exclusive auto_delete arguments =>
    PyRabbitMQ_Connection_queue_declare env api fuel channel queue passive durable exclusive
      auto_delete arguments
  | .queue_purge queue => PyRabbitMQ_Connection_queue_purge env api fuel channel queue
  | .exchange_declare exchange type passive durable arguments =>
    PyRabbitMQ_Connection_exchange_declare env api fuel channel exchange type passive durable
      arguments
  | .exchange_delete exchange if_unused =>
    PyRabbitMQ_Connection_exchange_delete env api fuel channel exchange if_unused
  | .basic_cancel consumer_tag =>
    noneOf (PyRabbitMQ_Connection_basic_cancel env fuel channel consumer_tag)
  | .basic_consume queue consumer_tag no_local no_ack exclusive arguments =>
    PyRabbitMQ_Connection_basic_consume env api fuel channel queue consumer_tag no_local no_ack
      exclusive arguments
  | .basic_qos prefetch_size prefetch_count _global =>
    PyRabbitMQ_Connection_basic_qos api channel prefetch_size prefetch_count _global
  | .flow active => PyRabbitMQ_Connection_flow env api fuel channel active
  | .basic_recover requeue => PyRabbitMQ_Connection_basic_recover env api fuel channel requeue
  | .basic_get queue no_ack => PyRabbitMQ_Connection_basic_get env fuel channel queue no_ack

/-- The string arguments, in their order. -/
def SyncOp.strings : SyncOp → List PyObj
  | .queue_bind queue exchange routing_key _ => [queue, exchange, routing_key]
  | .queue_unbind queue exchange routing_key _ => [queue, exchange, routing_key]
  | .queue_delete queue _ _ => [queue]
  | .queue_declare queue _ _ _ _ _ => [queue]
  | .queue_purge queue => [queue]
  | .exchange_declare exchange type _ _ _ => [exchange, type]
  | .exchange_delete exchange _ => [exchange]
  | .basic_cancel consumer_tag => [consumer_tag]
  | .basic_consume queue consumer_tag _ _ _ _ => [queue, consumer_tag]
  | .basic_get queue _ => [queue]
  | _ => []

/-- The dict of arguments, for the methods with one. -/
def SyncOp.arguments : SyncOp → Option PyMembers
  | .queue_bind _ _ _ arguments => some arguments
  | .queue_unbind _ _ _ arguments => some arguments
  | .queue_declare _ _ _ _ _ arguments => some arguments
  | .exchange_declare _ _ _ _ arguments => some arguments
  | .basic_consume _ _ _ _ _ arguments => some arguments
  | _ => none

/-- The integers pass `PyArg_ParseTuple`. -/
def SyncOp.parses : SyncOp → Bool
  | .basic_qos prefetch_size _ _ => decide (FitsLong prefetch_size)
  | _ => true

/-- The method hands the reply to the handler. -/
def SyncOp.asksForReply : SyncOp → Bool
  | .basic_qos _ _ _ => false
  | _ => true

/-- The channel that the handler is told. -/
def SyncOp.told (channel : Int) : SyncOp → UInt32
  | .channel_open => 0
  | _ => parseUnsigned channel

/-- The reply beside a structure. -/
def replyOf {ρ : Type} (r : (ρ × amqp_rpc_reply_t) × σ) : amqp_rpc_reply_t × σ := (r.1.2, r.2)

/-- The request of the method, for the octets of its strings and for its table. -/
def SyncOp.request (lib : RabbitMQC σ) (api : RabbitMQApi σ) (c : amqp_channel_t) (s : σ)
    (b : Nat → Octets) (t : amqp_table_t) : SyncOp → amqp_rpc_reply_t × σ
  | .channel_open => lib.amqp_channel_open s c
  | .channel_close => lib.amqp_channel_close s c
  | .queue_bind _ _ _ _ => api.amqp_queue_bind s c (b 0) (b 1) (b 2) t
  | .queue_unbind _ _ _ _ => api.amqp_queue_unbind s c (b 0) (b 1) (b 2) t
  | .queue_delete _ if_unused if_empty =>
    replyOf (api.amqp_queue_delete s c (b 0) if_unused if_empty)
  | .queue_declare _ passive durable exclusive auto_delete _ =>
    replyOf (api.amqp_queue_declare s c (b 0) passive durable exclusive auto_delete t)
  | .queue_purge _ => replyOf (api.amqp_queue_purge s c (b 0))
  | .exchange_declare _ _ passive durable _ =>
    api.amqp_exchange_declare s c (b 0) (b 1) passive durable t
  | .exchange_delete _ if_unused => api.amqp_exchange_delete s c (b 0) if_unused
  | .basic_cancel _ => lib.amqp_basic_cancel s c (b 0)
  | .basic_consume _ _ no_local no_ack exclusive _ =>
    replyOf (api.amqp_basic_consume s c (b 0) (b 1) no_local no_ack exclusive t)
  | .basic_qos prefetch_size prefetch_count _global =>
    api.amqp_basic_qos s c ((BitVec.ofInt 64 prefetch_size).setWidth 32)
      ((parseUnsigned prefetch_count).toBitVec.setWidth 16) _global
  | .flow active => api.amqp_channel_flow s c active
  | .basic_recover requeue => api.amqp_basic_recover s c requeue
  | .basic_get _ no_ack => lib.amqp_basic_get s c (b 0) no_ack

/-- The octets of a string argument. -/
def name? : PyObj → Option Octets
  | .str s => asciiEncode s
  | .bytes b => some b
  | _ => none

/-- The table of the arguments, and the state behind the call for their pool. -/
def table? (api : RabbitMQApi σ) (c : amqp_channel_t) (s : σ) :
    Option PyMembers → Option (amqp_table_t × σ)
  | none => some (amqp_empty_table, s)
  | some arguments =>
    match api.amqp_get_or_create_channel_pool s c with
    | (false, _) => none
    | (true, s) =>
      match PyDict_ToAMQTable arguments none with
      | .ret (table, none) => some (table, s)
      | _ => none

/-- The reply that is recorded for the request, and the state that it leaves; none where the
arguments do not come to a request. -/
def SyncOp.recorded (lib : RabbitMQC σ) (api : RabbitMQApi σ) (channel : Int) (s : σ)
    (op : SyncOp) : Option (amqp_rpc_reply_t × σ) :=
  if op.parses then do
    let names ← op.strings.mapM name?
    let (table, s) ← table? api (channelNumber channel) s op.arguments
    return op.request lib api (channelNumber channel) s (fun i => names.getD i []) table
  else none

/-- The strings are of the string types, and the arguments a dict tree with ASCII keys. -/
structure SyncOp.WellTyped (op : SyncOp) : Prop where
  strings : ∀ o ∈ op.strings, IsStringValue o
  arguments : ∀ members, op.arguments = some members → TreeMembers members

/-- A call returns normally only if the recorded reply is a normal one, and raises otherwise:
behind any other reply, and where good arguments do not come to a request. -/
structure ReportsTruly (run : Nat → Run (World σ κ) (Option PyObj)) (w : World σ κ)
    (typed : Prop) (recorded : Option (amqp_rpc_reply_t × σ)) : Prop where
  success : ∀ fuel v w', fromPython (run fuel) w = (.ret (.ok v), w') →
    ∃ reply s, recorded = some (reply, s) ∧ IsNormal reply
  failure : ∀ reply s, recorded = some (reply, s) → ¬ IsNormal reply →
    ∃ k, ∀ fuel, k < fuel → ∃ e w', fromPython (run fuel) w = (.ret (.error e), w')
  refusal : typed → recorded = none →
    ∃ k, ∀ fuel, k < fuel → ∃ e w', fromPython (run fuel) w = (.ret (.error e), w')

/-- The revival of a channel comes to an end: the close-ok does not go out, or the open is
answered by anything but a `channel.close`, or the revival of channel 0 behind it does. -/
inductive Settles (lib : RabbitMQC σ) : amqp_channel_t → σ → Prop
  | unsent {c : amqp_channel_t} {status : Int} {s s1 : σ} :
      lib.amqp_send_close_ok s c = (status, s1) → status < 0 → Settles lib c s
  | answered {c : amqp_channel_t} {status : Int} {reply : amqp_rpc_reply_t} {s s1 s2 : σ} :
      lib.amqp_send_close_ok s c = (status, s1) → 0 ≤ status →
      lib.amqp_channel_open s1 c = (reply, s2) → ¬ IsClose reply → Settles lib c s
  | refused {c : amqp_channel_t} {s s1 : σ} : Refused lib c s s1 → Settles lib 0 s1 →
      Settles lib c s

/-- A reply that is not normal is asked for, and a `channel.close` can be recovered from. -/
def Noticed (lib : RabbitMQC σ) (told : UInt32) (asks : Bool)
    (recorded : Option (amqp_rpc_reply_t × σ)) : Prop :=
  ∀ reply s, recorded = some (reply, s) → ¬ IsNormal reply →
    asks = true ∧ (IsClose reply → Settles lib told.toUInt16 s)

/-- A method that gives a structure gives none exactly when its reply is not normal. -/
structure NullMeansFailed (api : RabbitMQApi σ) : Prop where
  queue_delete : ∀ s c queue if_unused if_empty,
    (api.amqp_queue_delete s c queue if_unused if_empty).1.1 = none ↔
      ¬ IsNormal (api.amqp_queue_delete s c queue if_unused if_empty).1.2
  queue_declare : ∀ s c queue passive durable exclusive auto_delete table,
    (api.amqp_queue_declare s c queue passive durable exclusive auto_delete table).1.1 = none ↔
      ¬ IsNormal (api.amqp_queue_declare s c queue passive durable exclusive auto_delete table).1.2
  queue_purge : ∀ s c queue, (api.amqp_queue_purge s c queue).1.1 = none ↔
    ¬ IsNormal (api.amqp_queue_purge s c queue).1.2
  basic_consume : ∀ s c queue tag no_local no_ack exclusive table,
    (api.amqp_basic_consume s c queue tag no_local no_ack exclusive table).1.1 = none ↔
      ¬ IsNormal (api.amqp_basic_consume s c queue tag no_local no_ack exclusive table).1.2

/-! ## The handler -/

section

variable {env : Env σ κ} {w w' : World σ κ} {fuel : Nat} {channel : UInt32}
  {reply : amqp_rpc_reply_t} {context : String} {r : Int}

/-- A reply that is no `channel.close` is handled at once. -/
theorem handle_at_once (h : ¬ IsClose reply) (env : Env σ κ) (fuel : Nat) (channel : UInt32)
    (context : String) (w : World σ κ) : ∃ r w',
      PyRabbitMQ_HandleAMQError env (fuel + 1) channel reply context w = (.ret r, w') := by
  unfold PyRabbitMQ_HandleAMQError
  cases reply with
  | server_exception m =>
    cases m with
    | channel_close m => exact absurd ⟨m, rfl⟩ h
    | _ => exact ⟨_, _, rfl⟩
  | _ => exact ⟨_, _, rfl⟩

/-- A handler of a `channel.close` that returns has revived the channel. -/
theorem revived_of_handled {m : amqp_close_t}
    (h : PyRabbitMQ_HandleAMQError env fuel channel (.server_exception (.channel_close m)) context
      w = (.ret r, w')) :
    r ≠ 0 ∧ ∃ k e r', k < fuel ∧
      PyRabbitMQ_revive_channel env k channel (w.setErr (some e)) = (.ret r', w') := by
  cases fuel with
  | zero =>
    unfold PyRabbitMQ_HandleAMQError at h
    cases h
  | succ fuel =>
    unfold PyRabbitMQ_HandleAMQError at h
    dsimp only at h
    rw [PyErr_SetString_bind] at h
    obtain ⟨r', w1, hrevive, hrest⟩ := Run.ret_of_bind h
    cases hrest
    exact ⟨by decide, fuel, _, r', Nat.lt_succ_self _, hrevive⟩

/-- With the fuel to get there a revival that settles returns. -/
theorem revive_of_settles {c : amqp_channel_t} {s : σ} (h : Settles env.lib c s) :
    ∃ k, ∀ fuel, k < fuel → ∀ (channel : UInt32) (w : World σ κ), channel.toUInt16 = c →
      w.self.conn = s → ∃ r w', PyRabbitMQ_revive_channel env fuel channel w = (.ret r, w') := by
  induction h with
  | @unsent c status s s1 hs hneg =>
    refine ⟨0, fun fuel hf channel w hc hconn => ?_⟩
    obtain ⟨n, rfl⟩ : ∃ n, fuel = n + 1 := ⟨fuel - 1, by omega⟩
    subst hc hconn
    unfold PyRabbitMQ_revive_channel
    rw [Run.bind_ret (onConn_ret hs), if_pos hneg]
    exact ⟨_, _, rfl⟩
  | @answered c status reply s s1 s2 hs hsent ho hclose =>
    refine ⟨2, fun fuel hf channel w hc hconn => ?_⟩
    obtain ⟨n, rfl⟩ : ∃ n, fuel = n + 3 := ⟨fuel - 3, by omega⟩
    subst hconn
    rw [revive_opens hc hs hsent ho]
    exact handle_at_once hclose env n 0 _ _
  | @refused c s s1 hrefused _ ih =>
    obtain ⟨k, hk⟩ := ih
    refine ⟨k + 3, fun fuel hf channel w hc hconn => ?_⟩
    obtain ⟨n, rfl⟩ : ∃ n, fuel = n + 3 := ⟨fuel - 3, by omega⟩
    subst hconn
    obtain ⟨e, _, hrevive⟩ := revive_refused (w := w) hc hrefused
    obtain ⟨r, w', hrun⟩ := hk n (by omega) 0 ((w.setConn s1).setErr (some e)) rfl rfl
    exact ⟨_, w', hrevive hrun⟩

/-- A revival that returns settles, by induction on its depth. -/
theorem settles_of_revive (env : Env σ κ) (fuel : Nat) :
    ∀ {channel : UInt32} {w w' : World σ κ} {r : Int},
      PyRabbitMQ_revive_channel env fuel channel w = (.ret r, w') →
        Settles env.lib channel.toUInt16 w.self.conn := by
  induction fuel using Nat.strongRecOn with
  | ind fuel ih =>
    intro channel w w' r h
    cases fuel with
    | zero =>
      unfold PyRabbitMQ_revive_channel at h
      cases h
    | succ fuel =>
      rcases hs : env.lib.amqp_send_close_ok w.self.conn channel.toUInt16 with ⟨status, s1⟩
      by_cases hneg : status < 0
      · exact .unsent hs hneg
      · have hsent : 0 ≤ status := Int.not_lt.mp hneg
        rcases ho : env.lib.amqp_channel_open s1 channel.toUInt16 with ⟨reply, s2⟩
        cases fuel with
        | zero =>
          unfold PyRabbitMQ_revive_channel at h
          rw [Run.bind_ret (onConn_ret hs), if_neg hneg] at h
          unfold PyRabbitMQ_Connection_create_channel at h
          cases h
        | succ fuel =>
          rw [revive_opens rfl hs hsent ho] at h
          by_cases hclose : IsClose reply
          · obtain ⟨m, rfl⟩ := hclose
            obtain ⟨_, k, e, r', hk, hrevive⟩ := revived_of_handled h
            exact .refused ⟨hs, hsent, ho⟩ (ih k (by omega) hrevive)
          · exact .answered hs hsent ho hclose

/-- The handler returns where the revival behind a `channel.close` settles. -/
theorem handle_returns (reply : amqp_rpc_reply_t) (context : String)
    (h : IsClose reply → Settles env.lib channel.toUInt16 w.self.conn) :
    ∃ k, ∀ fuel, k < fuel → ∃ r w',
      PyRabbitMQ_HandleAMQError env fuel channel reply context w = (.ret r, w') := by
  by_cases hclose : IsClose reply
  · obtain ⟨k, hk⟩ := revive_of_settles (h hclose)
    obtain ⟨m, rfl⟩ := hclose
    obtain ⟨e, _, hhandle⟩ := handle_close env m context
    refine ⟨k + 1, fun fuel hf => ?_⟩
    obtain ⟨n, rfl⟩ : ∃ n, fuel = n + 1 := ⟨fuel - 1, by omega⟩
    obtain ⟨r, w', hrevive⟩ := hk n (by omega) channel (w.setErr (some e)) rfl rfl
    exact ⟨_, w', hhandle n channel hrevive⟩
  · refine ⟨0, fun fuel hf => ?_⟩
    obtain ⟨n, rfl⟩ : ∃ n, fuel = n + 1 := ⟨fuel - 1, by omega⟩
    exact handle_at_once hclose env n channel context w

/-- A revival behind an exception leaves one. -/
theorem revive_pending (herr : w.err.isSome)
    (h : PyRabbitMQ_revive_channel env fuel channel w = (.ret r, w')) : w'.err.isSome := by
  cases revive_ends env fuel h with
  | lost hlost =>
    obtain ⟨e, he, _⟩ := hlost.raises
    rw [he]
    rfl
  | granted _ => exact herr
  | chained _ _ => rfl

/-- The handler of a reply that is not normal, where it returns: with a code, behind an
exception, and the revival has settled. -/
theorem handle_fails (hfails : ¬ IsNormal reply)
    (h : PyRabbitMQ_HandleAMQError env fuel channel reply context w = (.ret r, w')) :
    r ≠ 0 ∧ w'.err.isSome ∧ (IsClose reply → Settles env.lib channel.toUInt16 w.self.conn) := by
  by_cases hclose : IsClose reply
  · obtain ⟨m, rfl⟩ := hclose
    obtain ⟨hr, k, e, r', _, hrevive⟩ := revived_of_handled h
    have hsettles := settles_of_revive env k hrevive
    exact ⟨hr, revive_pending rfl hrevive, fun _ => hsettles⟩
  · rcases handle_cases h with ⟨m, rfl, _⟩ | ⟨hr, hlost⟩ | ⟨_, m, _, _, _, rfl, _⟩
    · exact absurd ⟨m, rfl⟩ hfails
    · obtain ⟨e, he, _⟩ := hlost.raises
      exact ⟨hr, by rw [he]; rfl, fun h => absurd h hclose⟩
    · exact absurd ⟨m, rfl⟩ hclose

end

/-! ## Behind a request -/

/-- What stands behind a request: the handler of its reply, and the result of the method. -/
def behind (env : Env σ κ) (fuel : Nat) (channel : UInt32) (reply : amqp_rpc_reply_t)
    (context : String) (rest : Run (World σ κ) (Option PyObj)) :
    Run (World σ κ) (Option PyObj) := do
  if (← PyRabbitMQ_HandleAMQError env fuel channel reply context) ≠ 0 then return none
  rest

/-- How a method goes: its arguments do not come to a request, or the reply is a normal one,
or it is handed to the handler. The first `d` of the fuel may go before that. -/
inductive Behaves (env : Env σ κ) (w : World σ κ) (channel : UInt32)
    (run : Nat → Run (World σ κ) (Option PyObj)) (typed : Prop) :
    Option (amqp_rpc_reply_t × σ) → Prop
  | refuses : (∀ fuel r w', run fuel w = (.ret r, w') → r = none) →
      (typed → ∃ e w', ∀ fuel, run fuel w = (.ret none, w') ∧ w'.err = some e) →
      Behaves env w channel run typed none
  | succeeds {m : amqp_method_t} {s : σ} : Behaves env w channel run typed (some (.normal m, s))
  | handles {reply : amqp_rpc_reply_t} {s : σ} (context : String) (d : Nat)
      (rest : Nat → Run (World σ κ) (Option PyObj)) :
      (∀ fuel, run (fuel + d) w = behind env fuel channel reply context (rest fuel) (w.setConn s)) →
      (∀ fuel r w', fuel < d → run fuel w ≠ (.ret r, w')) →
      Behaves env w channel run typed (some (reply, s))

section

variable {env : Env σ κ} {w w' : World σ κ} {fuel : Nat} {channel : UInt32}
  {reply : amqp_rpc_reply_t} {context : String} {rest : Run (World σ κ) (Option PyObj)}

theorem behind_fails {r : Option PyObj} (hfails : ¬ IsNormal reply)
    (h : behind env fuel channel reply context rest w = (.ret r, w')) :
    r = none ∧ w'.err.isSome ∧ (IsClose reply → Settles env.lib channel.toUInt16 w.self.conn) := by
  unfold behind at h
  obtain ⟨n, w1, hhandle, h⟩ := Run.ret_of_bind h
  obtain ⟨hn, herr, hsettles⟩ := handle_fails hfails hhandle
  rw [if_pos hn] at h
  cases h
  exact ⟨rfl, herr, hsettles⟩

/-- Behind a reply that is not normal the method raises, if the revival settles. -/
theorem behind_raises (context : String) (hfails : ¬ IsNormal reply)
    (h : IsClose reply → Settles env.lib channel.toUInt16 w.self.conn) :
    ∃ k, ∀ fuel, k < fuel → ∀ rest, ∃ w', w'.err.isSome ∧
      behind env fuel channel reply context rest w = (.ret none, w') := by
  obtain ⟨k, hk⟩ := handle_returns (w := w) reply context h
  refine ⟨k, fun fuel hf rest => ?_⟩
  obtain ⟨r, w', hhandle⟩ := hk fuel hf
  obtain ⟨hr, herr, _⟩ := handle_fails hfails hhandle
  refine ⟨w', herr, ?_⟩
  unfold behind
  rw [Run.bind_ret hhandle, if_pos hr]
  rfl

theorem raises_of_null {run : Run (World σ κ) (Option PyObj)} (h : run w = (.ret none, w')) :
    ∃ e w', fromPython run w = (.ret (.error e), w') := by
  rw [from_python_ret h]
  cases w'.err <;> exact ⟨_, _, rfl⟩

/-- The law of one method that hands its reply to the handler. -/
theorem reports_iff {run : Nat → Run (World σ κ) (Option PyObj)} {typed : Prop}
    {recorded : Option (amqp_rpc_reply_t × σ)} (h : Behaves env w channel run typed recorded) :
    ReportsTruly run w typed recorded ↔ Noticed env.lib channel true recorded := by
  cases h with
  | refuses hnull htyped =>
    refine iff_of_true ⟨fun fuel v w' h => ?_, fun _ _ h => (nomatch h),
      fun ht _ => ?_⟩ fun _ _ h => (nomatch h)
    · obtain ⟨o, w1, hrun, hv, _⟩ := ret_of_fromPython h
      rw [hnull fuel o w1 hrun] at hv
      obtain ⟨hv, _⟩ := checkResult_ok hv.symm
      cases hv
    · obtain ⟨e, w', hraise⟩ := htyped ht
      exact ⟨0, fun fuel _ => raises_of_null (hraise fuel).1⟩
  | @succeeds m s =>
    refine iff_of_true ⟨fun _ _ _ _ => ⟨_, s, rfl, m, rfl⟩, fun _ _ h hfails => ?_,
      fun _ h => (nomatch h)⟩ fun _ _ h hfails => ?_
    · cases h
      exact absurd ⟨m, rfl⟩ hfails
    · cases h
      exact absurd ⟨m, rfl⟩ hfails
  | @handles reply s context d rest hrun hearly =>
    constructor
    · intro htruly reply' s' hrecorded hfails
      cases hrecorded
      obtain ⟨k, hk⟩ := htruly.failure reply s rfl hfails
      obtain ⟨e, w', hraise⟩ := hk (k + 1 + d) (by omega)
      obtain ⟨o, w1, hret, _⟩ := ret_of_fromPython hraise
      rw [hrun (k + 1)] at hret
      exact ⟨rfl, (behind_fails hfails hret).2.2⟩
    · intro hnoticed
      refine ⟨fun fuel v w' h => ⟨reply, s, rfl, ?_⟩, fun reply' s' hrecorded hfails => ?_,
        fun _ h => (nomatch h)⟩
      · obtain ⟨o, w1, hret, hv, _⟩ := ret_of_fromPython h
        obtain ⟨rfl, _⟩ := checkResult_ok hv.symm
        by_contra hfails
        by_cases hd : fuel < d
        · exact hearly fuel _ w1 hd hret
        · obtain ⟨n, rfl⟩ : ∃ n, fuel = n + d := ⟨fuel - d, by omega⟩
          rw [hrun n] at hret
          cases (behind_fails hfails hret).1
      · cases hrecorded
        obtain ⟨k, hk⟩ := behind_raises (w := w.setConn s) context hfails
          (hnoticed reply s rfl hfails).2
        refine ⟨k + d, fun fuel hf => ?_⟩
        obtain ⟨n, rfl⟩ : ∃ n, fuel = n + d := ⟨fuel - d, by omega⟩
        obtain ⟨w', _, hret⟩ := hk n (by omega) (rest n)
        rw [← hrun n] at hret
        exact raises_of_null hret

end

/-! ## Arguments -/

theorem name?_iff {o : PyObj} {b : Octets} : name? o = some b ↔ IsName o b := by
  unfold name? IsName PyObjectArray_Maybe_Unicode PyUnicode_AsASCIIString
  cases o with
  | str s =>
    dsimp only
    cases asciiEncode s <;> simp
  | _ => simp

theorem names_iff {strings : List PyObj} {names : List Octets} :
    strings.mapM name? = some names ↔ List.Forall₂ IsName strings names := by
  induction strings generalizing names with
  | nil =>
    rw [List.mapM_nil, List.forall₂_nil_left_iff]
    exact ⟨fun h => (Option.some.inj h).symm, fun h => congrArg some h.symm⟩
  | cons o rest ih =>
    rw [List.mapM_cons, List.forall₂_cons_left_iff]
    constructor
    · intro h
      obtain ⟨b, hb, h⟩ := Option.bind_eq_some_iff.mp h
      obtain ⟨bs, hbs, h⟩ := Option.bind_eq_some_iff.mp h
      exact ⟨b, bs, name?_iff.mp hb, ih.mp hbs, (Option.some.inj h).symm⟩
    · rintro ⟨b, bs, hb, hbs, rfl⟩
      rw [name?_iff.mpr hb, ih.mpr hbs]
      rfl

/-- Good strings are names, or the first that is none raises. -/
theorem strings_typed {w : World σ κ} (herr : w.err = none) : ∀ {strings : List PyObj},
    (∀ o ∈ strings, IsStringValue o) → (∃ names, List.Forall₂ IsName strings names) ∨
      ∃ e, maybeUnicodes strings w = (.ret none, w.setErr (some e)) := by
  intro strings
  induction strings with
  | nil => exact fun _ => .inl ⟨[], .nil⟩
  | cons o rest ih =>
    intro htyped
    rcases maybe_unicode_cases (htyped o (by simp)) with ⟨b, hb⟩ | ⟨e, he⟩
    · rcases ih fun o ho => htyped o (List.mem_cons_of_mem _ ho) with ⟨names, hnames⟩ | ⟨e, he⟩
      · exact .inl ⟨b :: names, .cons hb hnames⟩
      · refine .inr ⟨e, ?_⟩
        unfold maybeUnicodes
        rw [Run.bind_ret (withErr_name hb herr)]
        dsimp only
        rw [Run.bind_ret he]
        rfl
    · refine .inr ⟨e, ?_⟩
      have hconverted : withErr (fun err => .ret (PyObjectArray_Maybe_Unicode o err)) w =
          (.ret .null, w.setErr (some e)) := by
        apply withErr_ret
        rw [herr, he]
      unfold maybeUnicodes
      rw [Run.bind_ret hconverted]
      rfl

section

variable {api : RabbitMQApi σ} {c : amqp_channel_t} {w w' : World σ κ}
  {arguments : Option PyMembers}

theorem setErr_none (h : w.err = none) : w.setErr none = w := by
  unfold World.setErr
  rw [← h]

theorem argumentsTable_of_table {table : amqp_table_t} {s : σ} (herr : w.err = none)
    (h : table? api c w.self.conn arguments = some (table, s)) :
    argumentsTable api c arguments w = (.ret (some table), w.setConn s) := by
  unfold table? at h
  cases arguments with
  | none =>
    cases h
    rfl
  | some arguments =>
    dsimp only at h
    rcases hpool : api.amqp_get_or_create_channel_pool w.self.conn c with ⟨pool, s0⟩
    rw [hpool] at h
    cases pool with
    | false => cases h
    | true =>
      dsimp only at h
      split at h
      · rename_i table' hconv
        cases h
        have hconverted : withErr (PyDict_ToAMQTable arguments) (w.setConn s) =
            (.ret table, (w.setConn s).setErr none) := by
          apply withErr_ret
          rw [show (w.setConn s).err = none from herr, hconv]
        rw [setErr_none (w := w.setConn s) herr] at hconverted
        have hcall : onConn (fun s => api.amqp_get_or_create_channel_pool s c) w =
            (.ret true, w.setConn s) := onConn_ret hpool
        unfold argumentsTable
        dsimp only
        rw [Run.bind_ret hcall, if_neg (by simp), Run.bind_ret hconverted,
          Run.get_bind_apply, show (w.setConn s).err = none from herr]
        rfl
      · cases h

/-- Arguments that come to no table end the method, with an exception where they are a dict
tree. -/
theorem argumentsTable_none (herr : w.err = none)
    (h : table? api c w.self.conn arguments = none) :
    (∀ r w', argumentsTable api c arguments w = (.ret r, w') → r = none) ∧
    ((∀ members, arguments = some members → TreeMembers members) →
      ∃ e w', argumentsTable api c arguments w = (.ret none, w') ∧ w'.err = some e) := by
  unfold table? at h
  cases arguments with
  | none => cases h
  | some arguments =>
    dsimp only at h
    rcases hpool : api.amqp_get_or_create_channel_pool w.self.conn c with ⟨pool, s⟩
    rw [hpool] at h
    have hcall : onConn (fun s => api.amqp_get_or_create_channel_pool s c) w =
        (.ret pool, w.setConn s) := onConn_ret hpool
    unfold argumentsTable
    dsimp only
    rw [Run.bind_ret hcall]
    cases pool with
    | false =>
      refine ⟨fun r w' hrun => ?_, fun _ => ⟨_, _, rfl, rfl⟩⟩
      cases hrun
      rfl
    | true =>
      rw [if_neg (by simp)]
      dsimp only at h
      have hpending : ∀ {table err}, PyDict_ToAMQTable arguments none = .ret (table, err) →
          ∃ e, err = some e := by
        intro table err hconv
        rw [hconv] at h
        cases err with
        | none => cases h
        | some e => exact ⟨e, rfl⟩
      refine ⟨fun r w' hrun => ?_, fun htyped => ?_⟩
      · obtain ⟨table, w1, hconverted, hrest⟩ := Run.ret_of_bind hrun
        rw [Run.get_bind_apply] at hrest
        unfold withErr at hconverted
        rw [show (w.setConn s).err = none from herr] at hconverted
        rcases hconv : PyDict_ToAMQTable arguments none with ⟨table', err⟩ | _ | _
        · obtain ⟨e, rfl⟩ := hpending hconv
          rw [hconv] at hconverted
          cases hconverted
          cases hrest
          rfl
        · rw [hconv] at hconverted
          cases hconverted
        · rw [hconv] at hconverted
          cases hconverted
      · obtain ⟨table, err, hconv, _⟩ := members_run arguments (htyped arguments rfl) [] none
        have hconv' : PyDict_ToAMQTable arguments none = .ret (table, err) := hconv
        obtain ⟨e, rfl⟩ := hpending hconv'
        have hconverted : withErr (PyDict_ToAMQTable arguments) (w.setConn s) =
            (.ret table, (w.setConn s).setErr (some e)) := by
          apply withErr_ret
          rw [show (w.setConn s).err = none from herr, hconv']
        rw [Run.bind_ret hconverted]
        exact ⟨e, _, rfl, rfl⟩

end

/-! ## The methods -/

section

variable {env : Env σ κ} {api : RabbitMQApi σ} {w : World σ κ} {channel : Int}
  {strings : List PyObj} {typed : Prop}

/-- Strings of which one is no name: where the method goes on it reads no octets. -/
theorem strings_none (herr : w.err = none) (h : strings.mapM name? = none) :
    ∀ objs w', maybeUnicodes strings w = (.ret (some objs), w') →
      ∀ names, objs.mapM PyString_AS_AMQBYTES ≠ .ret names := by
  intro objs w' hstrings names hbytes
  rw [bytes_of_mapM hbytes] at hstrings
  obtain ⟨_, hnames⟩ := names_of_maybeUnicodes herr hstrings
  rw [names_iff.mpr hnames] at h
  cases h

/-- A method that converts its strings first refuses them if one is no name. -/
theorem strings_refuse {run : Nat → Run (World σ κ) (Option PyObj)}
    {rest : Nat → Option (List PyObj) → Run (World σ κ) (Option PyObj)} {c : UInt32}
    (hrun : ∀ fuel, run fuel w = (maybeUnicodes strings >>= rest fuel) w)
    (hnull : ∀ fuel w1, rest fuel none w1 = (.ret none, w1))
    (hreads : ∀ fuel objs w1 r w', rest fuel (some objs) w1 = (.ret r, w') →
      r = none ∨ ∃ names, objs.mapM PyString_AS_AMQBYTES = .ret names)
    (herr : w.err = none) (hnames : strings.mapM name? = none)
    (hstrings : typed → ∀ o ∈ strings, IsStringValue o) : Behaves env w c run typed none := by
  refine .refuses (fun fuel r w' h => ?_) fun htyped => ?_
  · rw [hrun] at h
    obtain ⟨objs, w1, hobjs, h⟩ := Run.ret_of_bind h
    cases objs with
    | none =>
      rw [hnull] at h
      cases h
      rfl
    | some objs =>
      rcases hreads fuel objs w1 r w' h with hnone | ⟨names, hbytes⟩
      · exact hnone
      · exact absurd hbytes (strings_none herr hnames objs w1 hobjs names)
  · rcases strings_typed herr (hstrings htyped) with ⟨names, hall⟩ | ⟨e, he⟩
    · rw [names_iff.mpr hall] at hnames
      cases hnames
    · refine ⟨e, w.setErr (some e), fun fuel => ⟨?_, rfl⟩⟩
      rw [hrun, Run.bind_ret he, hnull]

/-- The methods that differ in what they send and in what they make of the structure. -/
theorem rpcMethod_behaves {ρ : Type} (hconn : w.self.connected = true) (herr : w.err = none)
    (channel : Int) {op : SyncOp} (hparses : op.parses = true) {arguments : Option PyMembers}
    (hstrings : op.strings = strings) (harguments : op.arguments = arguments) {context : String}
    {send : σ → amqp_channel_t → (Nat → Octets) → amqp_table_t → (ρ × amqp_rpc_reply_t) × σ}
    {result : ρ → Run (World σ κ) (Option PyObj)}
    (hrequest : ∀ s b t, op.request env.lib api (channelNumber channel) s b t =
      replyOf (send s (channelNumber channel) b t)) :
    Behaves env w (parseUnsigned channel)
      (fun fuel => rpcMethod env api fuel channel strings arguments context send result)
      op.WellTyped (op.recorded env.lib api channel w.self.conn) := by
  subst hstrings harguments
  unfold SyncOp.recorded
  rw [if_pos hparses]
  cases hnames : op.strings.mapM name? with
  | none =>
    apply strings_refuse
    case herr => exact herr
    case hnames => exact hnames
    case hstrings => exact fun htyped => htyped.strings
    case hrun =>
      intro fuel
      unfold rpcMethod
      rw [connected_bind hconn]
    case hnull => exact fun _ _ => rfl
    case hreads =>
      intro fuel objs w1 r w' h
      obtain ⟨table, w2, _, h⟩ := Run.ret_of_bind h
      cases table with
      | none =>
        cases h
        exact .inl rfl
      | some table =>
        obtain ⟨names, w3, hbytes, _⟩ := Run.ret_of_bind h
        exact .inr ⟨names, (Prod.mk.inj hbytes).1⟩
  | some names =>
    have hobjs := maybeUnicodes_of_names (names_iff.mp hnames) herr
    cases htable : table? api (channelNumber channel) w.self.conn op.arguments with
    | none =>
      obtain ⟨hnull, hraises⟩ := argumentsTable_none herr htable
      refine .refuses (fun fuel r w' h => ?_) fun htyped => ?_
      · unfold rpcMethod at h
        rw [connected_bind hconn, Run.bind_ret hobjs] at h
        obtain ⟨table, w1, hconverted, h⟩ := Run.ret_of_bind h
        rw [hnull table w1 hconverted] at h
        cases h
        rfl
      · obtain ⟨e, w', hraise, he⟩ := hraises htyped.arguments
        refine ⟨e, w', fun fuel => ⟨?_, he⟩⟩
        unfold rpcMethod
        rw [connected_bind hconn, Run.bind_ret hobjs]
        dsimp only
        rw [Run.bind_ret hraise]
        rfl
    | some ts =>
      obtain ⟨table, s0⟩ := ts
      rcases hsend : send s0 (channelNumber channel) (fun i => names.getD i []) table with
        ⟨⟨ok, reply⟩, s⟩
      have hcall : onConn (fun s => send s (channelNumber channel) (fun i => names.getD i []) table)
          (w.setConn s0) = (.ret (ok, reply), w.setConn s) := onConn_ret hsend
      have hreply : op.request env.lib api (channelNumber channel) s0 (fun i => names.getD i [])
          table = (reply, s) := by
        rw [hrequest, hsend]
        rfl
      change Behaves env w _ _ _ (some (op.request env.lib api (channelNumber channel) s0
        (fun i => names.getD i []) table))
      rw [hreply]
      refine .handles context 0 (fun _ => result ok) (fun fuel => ?_) fun _ _ _ h => by omega
      unfold rpcMethod
      rw [connected_bind hconn, Run.bind_ret hobjs]
      dsimp only
      rw [Run.bind_ret (argumentsTable_of_table herr htable)]
      dsimp only
      rw [mapM_asBytes, Run.lift_ret_bind_apply, Run.bind_ret hcall]
      rfl

theorem noneOf_ret {x : Run (World σ κ) (Option Unit)} {w w' : World σ κ} {r : Option PyObj}
    (h : noneOf x w = (.ret r, w')) : ∃ u, x w = (.ret u, w') ∧ r = u.map fun _ => PyObj.none := by
  obtain ⟨u, w1, hx, hr⟩ := Run.ret_of_bind h
  cases hr
  exact ⟨u, hx, rfl⟩

/-- A method that comes to the handler of its reply, and then gives nothing. -/
theorem noneOf_behind {x : Run (World σ κ) (Option Unit)} {w w' : World σ κ} {fuel : Nat}
    {channel : UInt32} {reply : amqp_rpc_reply_t} {context : String}
    (h : x w = (do
      if (← PyRabbitMQ_HandleAMQError env fuel channel reply context) ≠ 0 then return none
      return some () : Run (World σ κ) (Option Unit)) w') :
    noneOf x w = behind env fuel channel reply context (return some .none) w' := by
  unfold noneOf behind
  rw [Run.bind_apply, h, ← Run.bind_apply, Run.bind_assoc, Run.bind_apply, Run.bind_apply]
  rcases PyRabbitMQ_HandleAMQError env fuel channel reply context w' with ⟨n | _ | _, w1⟩
  · by_cases hn : n ≠ 0 <;> simp [hn, Run.bind_apply, Run.pure_apply]
  · rfl
  · rfl

theorem channel_open_behaves (hconn : w.self.connected = true) :
    Behaves env w 0 (fun fuel => noneOf (PyRabbitMQ_Connection_channel_open env fuel channel)) typed
      (some (env.lib.amqp_channel_open w.self.conn (channelNumber channel))) := by
  rcases hopen : env.lib.amqp_channel_open w.self.conn (channelNumber channel) with ⟨reply, s⟩
  have hcall : onConn (fun s => env.lib.amqp_channel_open s (parseUnsigned channel).toUInt16) w =
      (.ret reply, w.setConn s) := onConn_ret hopen
  refine .handles "Couldn't create channel" 1 (fun _ => return some .none) (fun fuel => ?_)
    fun fuel r w' hd h => ?_
  · apply noneOf_behind
    unfold PyRabbitMQ_Connection_channel_open PyRabbitMQ_Connection_create_channel
    rw [connected_bind hconn, Run.bind_assoc, Run.bind_ret hcall]
  · obtain rfl : fuel = 0 := by omega
    obtain ⟨u, h, _⟩ := noneOf_ret h
    unfold PyRabbitMQ_Connection_channel_open at h
    rw [connected_bind hconn] at h
    obtain ⟨n, w1, h, _⟩ := Run.ret_of_bind h
    unfold PyRabbitMQ_Connection_create_channel at h
    cases h

theorem channel_close_behaves (hconn : w.self.connected = true) :
    Behaves env w (parseUnsigned channel)
      (fun fuel => noneOf (PyRabbitMQ_Connection_channel_close env fuel channel)) typed
      (some (env.lib.amqp_channel_close w.self.conn (channelNumber channel))) := by
  rcases hclose : env.lib.amqp_channel_close w.self.conn (channelNumber channel) with ⟨reply, s⟩
  have hcall : onConn (fun s => env.lib.amqp_channel_close s (parseUnsigned channel).toUInt16) w =
      (.ret reply, w.setConn s) := onConn_ret hclose
  refine .handles "Couldn't close channel" 0 (fun _ => return some .none) (fun fuel => ?_)
    fun _ _ _ h => by omega
  apply noneOf_behind
  unfold PyRabbitMQ_Connection_channel_close PyRabbitMQ_Connection_destroy_channel
  rw [connected_bind hconn, Run.bind_assoc, Run.bind_ret hcall]
  rfl

variable {o : PyObj}

theorem single_none (h : [o].mapM name? = none) : name? o = none := by
  rw [List.mapM_cons] at h
  cases hname : name? o with
  | none => rfl
  | some b =>
    rw [hname] at h
    cases h

theorem single_some {names : List Octets} (h : [o].mapM name? = some names) :
    ∃ b, names = [b] ∧ IsName o b := by
  cases names_iff.mp h with
  | cons hname hnil =>
    cases hnil
    exact ⟨_, rfl, hname⟩

/-- What is no name is not converted to octets. -/
theorem not_bytes_of_noName {o' : PyObj} {w1 : World σ κ} (herr : w.err = none)
    (hname : name? o = none)
    (h : withErr (fun err => .ret (PyObjectArray_Maybe_Unicode o err)) w = (.ret o', w1))
    (b : Octets) : o' ≠ .bytes b := by
  rintro rfl
  unfold withErr at h
  dsimp only at h
  rcases hret : PyObjectArray_Maybe_Unicode o w.err with ⟨o1, err⟩
  rw [hret] at h
  cases h
  have hnone := maybeUnicode_err hret
  rw [hnone, herr] at hret
  rw [name?_iff.mpr hret] at hname
  cases hname

theorem noName_raises (herr : w.err = none) (hname : name? o = none) (htyped : IsStringValue o) :
    ∃ e, withErr (fun err => .ret (PyObjectArray_Maybe_Unicode o err)) w =
      (.ret .null, w.setErr (some e)) := by
  rcases maybe_unicode_cases htyped with ⟨b, hb⟩ | ⟨e, he⟩
  · rw [name?_iff.mpr hb] at hname
    cases hname
  · refine ⟨e, withErr_ret ?_⟩
    rw [herr, he]

/-- A method that converts its one name first refuses what is none. -/
theorem name_refuses {run : Nat → Run (World σ κ) (Option PyObj)}
    {rest : Nat → PyObj → Run (World σ κ) (Option PyObj)} {c : UInt32}
    (hrun : ∀ fuel, run fuel w =
      (withErr (fun err => .ret (PyObjectArray_Maybe_Unicode o err)) >>= rest fuel) w)
    (hnull : ∀ fuel w1, rest fuel .null w1 = (.ret none, w1))
    (hreads : ∀ fuel o' w1 r w', o' ≠ .null → rest fuel o' w1 = (.ret r, w') → ∃ b, o' = .bytes b)
    (herr : w.err = none) (hname : name? o = none) (hstrings : typed → IsStringValue o) :
    Behaves env w c run typed none := by
  refine .refuses (fun fuel r w' h => ?_) fun htyped => ?_
  · rw [hrun] at h
    obtain ⟨o', w1, hconverted, h⟩ := Run.ret_of_bind h
    by_cases hnone : o' = .null
    · rw [hnone, hnull] at h
      cases h
      rfl
    · obtain ⟨b, hb⟩ := hreads fuel o' w1 r w' hnone h
      exact absurd hb (not_bytes_of_noName herr hname hconverted b)
  · obtain ⟨e, he⟩ := noName_raises herr hname (hstrings htyped)
    refine ⟨e, w.setErr (some e), fun fuel => ⟨?_, rfl⟩⟩
    rw [hrun, Run.bind_ret he, hnull]

theorem basic_cancel_behaves (hconn : w.self.connected = true) (herr : w.err = none)
    (hstrings : typed → IsStringValue o) :
    Behaves env w (parseUnsigned channel)
      (fun fuel => noneOf (PyRabbitMQ_Connection_basic_cancel env fuel channel o)) typed (do
        let names ← [o].mapM name?
        return env.lib.amqp_basic_cancel w.self.conn (channelNumber channel) (names.getD 0 [])) := by
  cases hnames : [o].mapM name? with
  | none =>
    apply name_refuses
    case herr => exact herr
    case hname => exact single_none hnames
    case hstrings => exact hstrings
    case hrun =>
      intro fuel
      unfold noneOf PyRabbitMQ_Connection_basic_cancel
      rw [Run.bind_assoc, Run.bind_ret (not_connected_false hconn), if_neg Bool.false_ne_true,
        Run.bind_assoc]
    case hnull => exact fun _ _ => rfl
    case hreads =>
      intro fuel o' w1 r w' hnone h
      obtain ⟨u, h, _⟩ := noneOf_ret h
      cases o'
      case null => exact absurd rfl hnone
      case bytes => exact ⟨_, rfl⟩
      all_goals
        obtain ⟨_, _, hcrash, _⟩ := Run.ret_of_bind h
        cases hcrash
  | some names =>
    obtain ⟨b, rfl, hname⟩ := single_some hnames
    rcases hcancel : env.lib.amqp_basic_cancel w.self.conn (channelNumber channel) b with ⟨reply, s⟩
    have hcall : onConn (fun s => env.lib.amqp_basic_cancel s (parseUnsigned channel).toUInt16 b) w =
        (.ret reply, w.setConn s) := onConn_ret hcancel
    change Behaves env w _ _ typed
      (some (env.lib.amqp_basic_cancel w.self.conn (channelNumber channel) b))
    rw [hcancel]
    refine .handles "basic.cancel" 0 (fun _ => return some .none) (fun fuel => ?_)
      fun _ _ _ h => by omega
    apply noneOf_behind
    unfold PyRabbitMQ_Connection_basic_cancel
    rw [connected_bind hconn, Run.bind_ret (withErr_name hname herr)]
    dsimp only [PyString_AS_AMQBYTES]
    rw [Run.lift_ret_bind_apply, Run.bind_ret hcall]
    rfl

theorem basic_get_behaves (hconn : w.self.connected = true) (herr : w.err = none)
    (hstrings : typed → IsStringValue o) (no_ack : Bool) :
    Behaves env w (parseUnsigned channel)
      (fun fuel => PyRabbitMQ_Connection_basic_get env fuel channel o no_ack) typed (do
        let names ← [o].mapM name?
        return env.lib.amqp_basic_get w.self.conn (channelNumber channel) (names.getD 0 [])
          no_ack) := by
  cases hnames : [o].mapM name? with
  | none =>
    apply name_refuses
    case herr => exact herr
    case hname => exact single_none hnames
    case hstrings => exact hstrings
    case hrun =>
      intro fuel
      unfold PyRabbitMQ_Connection_basic_get
      rw [connected_bind hconn]
    case hnull => exact fun _ _ => rfl
    case hreads =>
      intro fuel o' w1 r w' hnone h
      cases o'
      case null => exact absurd rfl hnone
      case bytes => exact ⟨_, rfl⟩
      all_goals
        obtain ⟨_, _, hcrash, _⟩ := Run.ret_of_bind h
        cases hcrash
  | some names =>
    obtain ⟨b, rfl, hname⟩ := single_some hnames
    rcases hget : env.lib.amqp_basic_get w.self.conn (channelNumber channel) b no_ack with
      ⟨reply, s⟩
    change Behaves env w _ _ typed
      (some (env.lib.amqp_basic_get w.self.conn (channelNumber channel) b no_ack))
    rw [hget]
    cases reply with
    | normal m => exact .succeeds
    | _ =>
      refine .handles "basic.get" 0 (fun _ => return some .none) (fun fuel => ?_)
        fun _ _ _ h => by omega
      exact basic_get_of_name hconn herr hname hget fuel

/-- The delete does not look at the reply behind a structure. -/
theorem queue_delete_behaves (hconn : w.self.connected = true) (herr : w.err = none)
    (hnull : NullMeansFailed api) (hstrings : typed → IsStringValue o) (if_unused if_empty : Bool) :
    Behaves env w (parseUnsigned channel)
      (fun fuel => PyRabbitMQ_Connection_queue_delete env api fuel channel o if_unused if_empty)
      typed (do
        let names ← [o].mapM name?
        return replyOf (api.amqp_queue_delete w.self.conn (channelNumber channel) (names.getD 0 [])
          if_unused if_empty)) := by
  cases hnames : [o].mapM name? with
  | none =>
    apply strings_refuse
    case herr => exact herr
    case hnames => exact hnames
    case hstrings => simpa using hstrings
    case hrun =>
      intro fuel
      unfold PyRabbitMQ_Connection_queue_delete
      rw [connected_bind hconn]
    case hnull => exact fun _ _ => rfl
    case hreads =>
      intro fuel objs w1 r w' h
      obtain ⟨names, w2, hbytes, _⟩ := Run.ret_of_bind h
      exact .inr ⟨names, (Prod.mk.inj hbytes).1⟩
  | some names =>
    obtain ⟨b, rfl, hname⟩ := single_some hnames
    have hobjs := maybeUnicodes_of_names (.cons hname .nil) herr
    have hfailed := hnull.queue_delete w.self.conn (channelNumber channel) b if_unused if_empty
    change Behaves env w _ _ typed
      (some (replyOf
        (api.amqp_queue_delete w.self.conn (channelNumber channel) b if_unused if_empty)))
    rcases hdelete : api.amqp_queue_delete w.self.conn (channelNumber channel) b if_unused if_empty
      with ⟨⟨ok, reply⟩, s⟩
    rw [hdelete] at hfailed
    have hcall : onConn (fun s => api.amqp_queue_delete s (channelNumber channel) ([b].getD 0 [])
        if_unused if_empty) w = (.ret (ok, reply), w.setConn s) := onConn_ret hdelete
    cases ok with
    | some n =>
      obtain ⟨m, rfl⟩ : IsNormal reply := by simpa using hfailed
      exact .succeeds
    | none =>
      refine .handles "queue.delete" 0 (fun _ => messageCount none) (fun fuel => ?_)
        fun _ _ _ h => by omega
      unfold PyRabbitMQ_Connection_queue_delete
      rw [connected_bind hconn, Run.bind_ret hobjs]
      dsimp only
      rw [mapM_asBytes, Run.lift_ret_bind_apply, Run.bind_ret hcall]
      rfl

/-- Every method that asks for its reply hands it to the handler. -/
theorem behaves (hconn : w.self.connected = true) (herr : w.err = none)
    (hnull : NullMeansFailed api) (op : SyncOp) (hop : op.asksForReply = true) :
    Behaves env w (op.told channel) (fun fuel => op.run env api fuel channel) op.WellTyped
      (op.recorded env.lib api channel w.self.conn) := by
  cases op with
  | channel_open => exact channel_open_behaves hconn
  | channel_close => exact channel_close_behaves hconn
  | queue_delete queue if_unused if_empty =>
    exact queue_delete_behaves hconn herr hnull (fun h => h.strings queue (by simp [SyncOp.strings]))
      if_unused if_empty
  | basic_cancel tag =>
    exact basic_cancel_behaves hconn herr fun h => h.strings tag (by simp [SyncOp.strings])
  | basic_get queue no_ack =>
    exact basic_get_behaves hconn herr (fun h => h.strings queue (by simp [SyncOp.strings])) no_ack
  | basic_qos => cases hop
  | _ =>
    dsimp only [SyncOp.run, SyncOp.told, PyRabbitMQ_Connection_queue_bind,
      PyRabbitMQ_Connection_queue_unbind, PyRabbitMQ_Connection_queue_declare,
      PyRabbitMQ_Connection_queue_purge, PyRabbitMQ_Connection_exchange_declare,
      PyRabbitMQ_Connection_exchange_delete, PyRabbitMQ_Connection_basic_consume,
      PyRabbitMQ_Connection_flow, PyRabbitMQ_Connection_basic_recover]
    apply rpcMethod_behaves hconn herr channel
    case hrequest => exact fun _ _ _ => rfl
    all_goals rfl

end

/-! ## The method that does not ask -/

section

variable {env : Env σ κ} {api : RabbitMQApi σ} {w : World σ κ} {channel prefetch_size
  prefetch_count : Int} {_global : Bool}

/-- `_basic_qos` returns behind any reply. -/
theorem basic_qos_answered (hconn : w.self.connected = true) {reply : amqp_rpc_reply_t} {s : σ}
    (h : (SyncOp.basic_qos prefetch_size prefetch_count _global).recorded env.lib api channel
      w.self.conn = some (reply, s)) :
    PyRabbitMQ_Connection_basic_qos api channel prefetch_size prefetch_count _global w =
      (.ret (some .none), w.setConn s) := by
  unfold SyncOp.recorded SyncOp.parses at h
  by_cases hfits : FitsLong prefetch_size
  · rw [if_pos (decide_eq_true hfits)] at h
    have hreply : api.amqp_basic_qos w.self.conn (channelNumber channel)
        ((BitVec.ofInt 64 prefetch_size).setWidth 32)
        ((parseUnsigned prefetch_count).toBitVec.setWidth 16) _global = (reply, s) :=
      Option.some.inj h
    rw [basic_qos_fits hconn hfits, hreply]
  · rw [if_neg (by simp [hfits])] at h
    cases h

theorem basic_qos_refuses (hconn : w.self.connected = true)
    (h : (SyncOp.basic_qos prefetch_size prefetch_count _global).recorded env.lib api channel
      w.self.conn = none) :
    PyRabbitMQ_Connection_basic_qos api channel prefetch_size prefetch_count _global w =
      (.ret none, w.setErr (some (.raised .OverflowError))) := by
  unfold SyncOp.recorded SyncOp.parses at h
  by_cases hfits : FitsLong prefetch_size
  · rw [if_pos (decide_eq_true hfits)] at h
    cases h
  · exact basic_qos_unfit hconn hfits

theorem basic_qos_reports_iff (hconn : w.self.connected = true) (herr : w.err = none)
    (op : SyncOp) (hop : op = .basic_qos prefetch_size prefetch_count _global) :
    ReportsTruly (fun fuel => op.run env api fuel channel) w op.WellTyped
        (op.recorded env.lib api channel w.self.conn) ↔
      Noticed env.lib (op.told channel) op.asksForReply
        (op.recorded env.lib api channel w.self.conn) := by
  subst hop
  cases hrecorded : (SyncOp.basic_qos prefetch_size prefetch_count _global).recorded env.lib api
      channel w.self.conn with
  | none =>
    have hrun := basic_qos_refuses hconn hrecorded
    refine iff_of_true ⟨fun fuel v w' h => ?_, fun _ _ h => (nomatch h),
      fun _ _ => ⟨0, fun _ _ => raises_of_null hrun⟩⟩ fun _ _ h => (nomatch h)
    obtain ⟨o, w1, hret, hv, _⟩ := ret_of_fromPython h
    cases hrun.symm.trans hret
    cases hv
  | some recorded =>
    obtain ⟨reply, s⟩ := recorded
    have hrun := basic_qos_answered hconn hrecorded
    have hok : fromPython (PyRabbitMQ_Connection_basic_qos api channel prefetch_size prefetch_count
        _global) w = (.ret (.ok .none), (w.setConn s).setErr none) := by
      rw [from_python_ret hrun, show (w.setConn s).err = none from herr]
      rfl
    constructor
    · intro htruly reply' s' hr hfails
      obtain ⟨reply1, s1, hr1, hnormal⟩ := htruly.success 0 _ _ hok
      cases hr
      cases hr1
      exact absurd hnormal hfails
    · intro hnoticed
      have hnormal : IsNormal reply := by
        by_contra hfails
        cases (hnoticed reply s rfl hfails).1
      refine ⟨fun _ _ _ _ => ⟨reply, s, rfl, hnormal⟩, fun _ _ hr hfails => ?_,
        fun _ h => (nomatch h)⟩
      cases hr
      exact absurd hnormal hfails

end

/-- A method reports the truth about its reply exactly when a reply that is not normal is asked
for, and the recovery from a `channel.close` comes to an end. -/
theorem a_method_reports_its_reply_exactly_when_it_is_noticed (env : Env σ κ) (api : RabbitMQApi σ)
    (channel : Int) (op : SyncOp) (w : World σ κ) (hconn : w.self.connected = true)
    (herr : w.err = none) (hnull : NullMeansFailed api) :
    ReportsTruly (fun fuel => op.run env api fuel channel) w op.WellTyped
        (op.recorded env.lib api channel w.self.conn) ↔
      Noticed env.lib (op.told channel) op.asksForReply
        (op.recorded env.lib api channel w.self.conn) := by
  cases hop : op.asksForReply with
  | true => exact reports_iff (behaves hconn herr hnull op hop)
  | false =>
    rw [← hop]
    cases op
    case basic_qos => exact basic_qos_reports_iff hconn herr _ rfl
    all_goals cases hop

/-- A broker whose replies to requests are not normal. -/
def refusing : Answers := { request := .library_exception (-1) }

theorem refusing_null : NullMeansFailed refusing.client.api.tracked := by
  have hfails : ¬ IsNormal refusing.request := by
    rintro ⟨m, h⟩
    cases h
  constructor <;> intros <;> exact iff_of_true rfl hfails

theorem a_declare_that_fails_raises :
    ReportsTruly (fun fuel =>
        (SyncOp.queue_declare (.str (pyStr "q")) false false false false []).run
          refusing.client.env refusing.client.api.tracked fuel 1)
      (World.online () : World (Handles Unit) Unit)
      (SyncOp.queue_declare (.str (pyStr "q")) false false false false []).WellTyped
      ((SyncOp.queue_declare (.str (pyStr "q")) false false false false []).recorded
        refusing.client.lib.tracked refusing.client.api.tracked 1
        (World.online () : World (Handles Unit) Unit).self.conn) := by
  refine (a_method_reports_its_reply_exactly_when_it_is_noticed refusing.client.env
    refusing.client.api.tracked 1 _ _ rfl rfl refusing_null).mpr ?_
  intro reply s hrecorded _
  cases hrecorded
  refine ⟨rfl, ?_⟩
  rintro ⟨m, h⟩
  cases h

/-- A qos that the library could not send is reported as done. -/
theorem a_qos_that_fails_returns :
    ¬ ReportsTruly (fun fuel => (SyncOp.basic_qos 0 10 false).run refusing.client.env
        refusing.client.api.tracked fuel 1)
      (World.online () : World (Handles Unit) Unit) (SyncOp.basic_qos 0 10 false).WellTyped
      ((SyncOp.basic_qos 0 10 false).recorded refusing.client.lib.tracked
        refusing.client.api.tracked 1 (World.online () : World (Handles Unit) Unit).self.conn) := by
  intro h
  obtain ⟨reply, s, hrecorded, m, hm⟩ := h.success 0 _ _ rfl
  cases hrecorded
  cases hm

end librabbitmq.sync_replies
