-- The tables of the channels: what an open and a close of a `Channel` do to them,
-- for every reply of the broker and every recovery behind it.
import Librabbitmq.Acts
import Librabbitmq.Session

namespace librabbitmq

variable {σ κ : Type}

/-! ## From Python -/

/-- What Python sees of a method that ends as its handler does. -/
def Ending.Seen (err : Option PyErr) : Ending → Outcome (Except PyErr Unit) → Prop
  | .normal, o => o = .ret (checkResult (some ()) err)
  | .channelError, o => ∃ e, e.cls = .ChannelError ∧ o = .ret (.error e)
  | .closed, o => ∃ e, e.cls = .ConnectionError ∧ o = .ret (.error e)
  | .hung, o => o = .hang

/-- The exception that such a method raises. Behind a normal ending it is one about an
exception that was pending before. -/
def Ending.Gives : Ending → PyErr → Prop
  | .normal, e => e.cls = .SystemError
  | .channelError, e => e.cls = .ChannelError
  | .closed, e => e.cls = .ConnectionError
  | .hung, _ => False

theorem Ending.Seen.cases {err : Option PyErr} {ending : Ending}
    {o : Outcome (Except PyErr Unit)} (h : ending.Seen err o) :
    (ending = .normal ∧ o = .ret (.ok ())) ∨
      (∃ e, ending.Gives e ∧ (ending = .normal → err ≠ none) ∧ o = .ret (.error e)) ∨
      (ending = .hung ∧ o = .hang) := by
  cases ending with
  | normal =>
    cases h
    cases err with
    | none => exact Or.inl ⟨rfl, rfl⟩
    | some e =>
      refine Or.inr (Or.inl ⟨_, ?_, by simp, rfl⟩)
      rfl
  | channelError =>
    obtain ⟨e, he, ho⟩ := h
    exact Or.inr (Or.inl ⟨e, he, by simp, ho⟩)
  | closed =>
    obtain ⟨e, he, ho⟩ := h
    exact Or.inr (Or.inl ⟨e, he, by simp, ho⟩)
  | hung => exact Or.inr (Or.inr ⟨rfl, h⟩)

theorem keepsSelf_checked {α : Type} (r : Option α) : KeepsSelf (do
    let w ← Run.get
    Run.modify fun w => w.setErr none
    return checkResult r w.err : Run (World σ κ) (Except PyErr α)) :=
  keepsSelf_get.bind fun _ => KeepsSelf.bind (fun _ => rfl) fun _ => keepsSelf_pure _

theorem keepsSelf_unless (r : Int) :
    KeepsSelf (if r ≠ 0 then return none else return some () : Run (World σ κ) (Option Unit)) := by
  split <;> exact keepsSelf_pure _

/-- No exception is pending behind a call from Python. -/
theorem fromPython_err {α : Type} {y : Run (World σ κ) (Option α)} {w w' : World σ κ}
    {r : Except PyErr α} (h : fromPython y w = (.ret r, w')) : w'.err = none := by
  obtain ⟨a, w1, _, _, hw'⟩ := ret_of_fromPython h
  rw [hw']
  rfl

theorem fromPython_handler {w : World (Handles σ) κ} {handler : Run (World (Handles σ) κ) Int}
    {events : List Event} {ending : Ending} (h : Ran w (handler w) events ending) :
    ending.Seen w.err (fromPython (handler >>= fun r =>
        if r ≠ 0 then return none else return some ()) w).1 ∧
      (fromPython (handler >>= fun r =>
        if r ≠ 0 then return none else return some ()) w).2.self = (handler w).2.self := by
  constructor
  · obtain ⟨_, hreturns, hleaves⟩ := h
    unfold fromPython
    rw [Run.bind_assoc]
    rcases hrun : handler w with ⟨o, w1⟩
    rw [hrun] at hreturns hleaves
    cases ending with
    | normal =>
      cases hreturns
      rw [Run.bind_ret hrun]
      exact congrArg (fun err => Outcome.ret (checkResult (some ()) err)) hleaves
    | channelError =>
      obtain ⟨n, hn, rfl⟩ := hreturns
      obtain ⟨e, he, hcls⟩ := hleaves
      rw [Run.bind_ret hrun, if_pos hn]
      exact ⟨e, hcls, congrArg (fun err => Outcome.ret (checkResult none err)) he⟩
    | closed =>
      obtain ⟨n, hn, rfl⟩ := hreturns
      obtain ⟨e, he, hcls⟩ := hleaves
      rw [Run.bind_ret hrun, if_pos hn]
      exact ⟨e, hcls, congrArg (fun err => Outcome.ret (checkResult none err)) he⟩
    | hung =>
      cases hreturns
      rw [Run.bind_hang hrun]
      rfl
  · unfold fromPython
    rw [self_bind fun r => keepsSelf_checked r, self_bind keepsSelf_unless]

/-- A method that does nothing but run a handler, on a connection that is there. -/
theorem fromPython_guarded {w : World (Handles σ) κ} {handler : Run (World (Handles σ) κ) Int}
    {events : List Event} {ending : Ending} (hc : w.self.connected = true)
    (h : Ran w (handler w) events ending) :
    ending.Seen w.err (fromPython (PyRabbitMQ_Not_Connected >>= fun b =>
        if b = true then return none else handler >>= fun r =>
          if r ≠ 0 then return none else return some ()) w).1 ∧
      ∃ st, (fromPython (PyRabbitMQ_Not_Connected >>= fun b =>
        if b = true then return none else handler >>= fun r =>
          if r ≠ 0 then return none else return some ()) w).2.self =
            w.self.after events ending st := by
  rcases notConnected_cases w with ⟨_, hrun⟩ | ⟨hn, _⟩
  · obtain ⟨hseen, hself⟩ := fromPython_handler h
    obtain ⟨st, hafter⟩ := h.after
    have heq : fromPython (PyRabbitMQ_Not_Connected >>= fun b =>
        if b = true then return none else handler >>= fun r =>
          if r ≠ 0 then return none else return some ()) w =
        fromPython (handler >>= fun r => if r ≠ 0 then return none else return some ()) w := by
      unfold fromPython
      rw [Run.bind_assoc, Run.bind_ret hrun]
      rfl
    rw [heq]
    exact ⟨hseen, st, hself.trans hafter⟩
  · rw [hc] at hn
    cases hn

/-- A method on a connection that is not there. -/
theorem fromPython_offline {α : Type} {w : World σ κ} {rest : Run (World σ κ) (Option α)}
    (hc : w.self.connected = false) :
    fromPython (PyRabbitMQ_Not_Connected >>= fun b => if b = true then return none else rest) w =
      (.ret (.error ⟨.ConnectionError, "Operation on closed connection", []⟩), w.setErr none) := by
  rcases notConnected_cases w with ⟨hn, _⟩ | ⟨_, hrun⟩
  · rw [hc] at hn
    cases hn
  · unfold fromPython
    rw [Run.bind_assoc, Run.bind_ret hrun]
    rfl

/-- `Connection._channel_open` for Python. -/
theorem channel_open_seen (x : Client σ κ) (fuel : Nat) (channel_id : Int)
    {w : World (Handles σ) κ} (hc : w.self.connected = true) :
    ∃ events ending st, Handled true 0
        (x.lib.amqp_channel_open w.self.conn.state (channelNumber channel_id)).1 events ending ∧
      ending.Seen w.err
        (fromPython (PyRabbitMQ_Connection_channel_open x.env (fuel + 1) channel_id) w).1 ∧
      (fromPython (PyRabbitMQ_Connection_channel_open x.env (fuel + 1) channel_id) w).2.self =
        w.self.after (.amqp_channel_open (channelNumber channel_id)
          (x.lib.amqp_channel_open w.self.conn.state (channelNumber channel_id)).1 :: events)
          ending st := by
  rcases hs : x.lib.amqp_channel_open w.self.conn.state (channelNumber channel_id)
    with ⟨reply, st⟩
  have hcall : onConn (fun s => x.env.lib.amqp_channel_open s
      (parseUnsigned channel_id).toUInt16) w = (.ret reply, w.setConn
        (w.self.conn.note [.amqp_channel_open (channelNumber channel_id) reply] st)) :=
    onConn_tracked hs
  obtain ⟨events, ending, hh, hran⟩ := (handlers_ran x fuel).1 0 reply "Couldn't create channel"
    (w.setConn (w.self.conn.note [.amqp_channel_open (channelNumber channel_id) reply] st))
  have hcreate : Ran w (PyRabbitMQ_Connection_create_channel x.env (fuel + 1)
      (parseUnsigned channel_id) w) (.amqp_channel_open (channelNumber channel_id) reply :: events)
      ending := by
    unfold PyRabbitMQ_Connection_create_channel
    rw [Run.bind_ret hcall]
    exact hran.prepend
  obtain ⟨hseen, st', hself⟩ := fromPython_guarded hc hcreate
  refine ⟨events, ending, st', ?_, hseen, hself⟩
  rw [← hc]
  exact hh

/-- `Connection._channel_close` for Python. -/
theorem channel_close_seen (x : Client σ κ) (fuel : Nat) (channel_id : Int)
    {w : World (Handles σ) κ} (hc : w.self.connected = true) :
    ∃ events ending st, Handled true (channelNumber channel_id)
        (x.lib.amqp_channel_close w.self.conn.state (channelNumber channel_id)).1 events ending ∧
      ending.Seen w.err
        (fromPython (PyRabbitMQ_Connection_channel_close x.env fuel channel_id) w).1 ∧
      (fromPython (PyRabbitMQ_Connection_channel_close x.env fuel channel_id) w).2.self =
        w.self.after (.amqp_channel_close (channelNumber channel_id)
          (x.lib.amqp_channel_close w.self.conn.state (channelNumber channel_id)).1 :: events)
          ending st := by
  rcases hs : x.lib.amqp_channel_close w.self.conn.state (channelNumber channel_id)
    with ⟨reply, st⟩
  have hcall : onConn (fun s => x.env.lib.amqp_channel_close s
      (parseUnsigned channel_id).toUInt16) w = (.ret reply, w.setConn
        (w.self.conn.note [.amqp_channel_close (channelNumber channel_id) reply] st)) :=
    onConn_tracked hs
  obtain ⟨events, ending, hh, hran⟩ := (handlers_ran x fuel).1 (parseUnsigned channel_id) reply
    "Couldn't close channel" (w.setConn
      (w.self.conn.note [.amqp_channel_close (channelNumber channel_id) reply] st))
  have hdestroy : Ran w (PyRabbitMQ_Connection_destroy_channel x.env fuel
      (parseUnsigned channel_id) w) (.amqp_channel_close (channelNumber channel_id) reply :: events)
      ending := by
    unfold PyRabbitMQ_Connection_destroy_channel
    rw [Run.bind_ret hcall]
    exact hran.prepend
  obtain ⟨hseen, st', hself⟩ := fromPython_guarded hc hdestroy
  refine ⟨events, ending, st', ?_, hseen, hself⟩
  rw [← hc]
  exact hh

/-! ## Free numbers -/

theorem mem_channelIds {channel_max n : Int} :
    n ∈ channelIds channel_max ↔ 1 ≤ n ∧ n ≤ channel_max := by
  unfold channelIds
  simp only [List.mem_map, List.mem_range]
  constructor
  · rintro ⟨i, hi, rfl⟩
    omega
  · intro h
    exact ⟨(n - 1).toNat, by omega, by omega⟩

theorem channelIds_sorted (channel_max : Int) : (channelIds channel_max).Pairwise (· < ·) := by
  unfold channelIds
  rw [List.pairwise_map]
  exact List.pairwise_lt_range.imp fun h => by omega

/-- A number that is found free is in the range and not used, -/
theorem freeChannelId_some {channel_max n : Int} {used : List Int}
    (h : freeChannelId channel_max used = some n) : (1 ≤ n ∧ n ≤ channel_max) ∧ n ∉ used := by
  unfold freeChannelId at h
  refine ⟨mem_channelIds.mp (List.mem_of_find?_eq_some h), ?_⟩
  simpa using List.find?_some h

/-- and every smaller one is used. -/
theorem freeChannelId_least {channel_max n : Int} {used : List Int}
    (h : freeChannelId channel_max used = some n) {m : Int} (hm : 1 ≤ m) (hlt : m < n) :
    m ∈ used := by
  obtain ⟨⟨_, hmax⟩, _⟩ := freeChannelId_some h
  unfold freeChannelId at h
  obtain ⟨_, front, back, hlist, hfront⟩ := List.find?_eq_some_iff_append.mp h
  have hmem : m ∈ channelIds channel_max := mem_channelIds.mpr ⟨hm, by omega⟩
  have hsorted := channelIds_sorted channel_max
  rw [hlist] at hmem hsorted
  rcases List.mem_append.mp hmem with hmem | hmem
  · simpa using hfront m hmem
  · have hback := (List.pairwise_cons.mp (List.pairwise_append.mp hsorted).2.1).1
    rcases List.mem_cons.mp hmem with rfl | hmem
    · omega
    · have := hback m hmem
      omega

theorem freeChannelId_none {channel_max : Int} {used : List Int}
    (h : freeChannelId channel_max used = none) {m : Int} (hm : 1 ≤ m) (hmax : m ≤ channel_max) :
    m ∈ used := by
  unfold freeChannelId at h
  simpa using List.find?_eq_none.mp h m (mem_channelIds.mpr ⟨hm, hmax⟩)

/-! ## The tables -/

/-- The connection with a new `Channel` registered under a number. -/
def Connection.registered (self : Connection (Handles σ) κ) (channel_id : Int) :
    Connection (Handles σ) κ :=
  { self with
    objects := fun a => if a = self.next_object then ⟨channel_id, true, []⟩ else self.objects a
    callbacks := self.callbacks.set channel_id []
    channels := self.channels.set channel_id self.next_object
    next_object := self.next_object + 1 }

/-- The connection with the `Channel` at an address marked as closed. -/
def Connection.marked (self : Connection (Handles σ) κ) (a : Nat) : Connection (Handles σ) κ :=
  { self with
    objects := fun b => if b = a then { self.objects a with is_open := false } else self.objects b }

/-- The connection without a channel in its tables. -/
def Connection.forgotten (self : Connection (Handles σ) κ) (channel_id : Int) :
    Connection (Handles σ) κ :=
  { self with
    channels := self.channels.pop channel_id
    callbacks := self.callbacks.pop channel_id
    _used_channel_ids := self._used_channel_ids.erase channel_id }

/-- The `Channel` at the address is the one registered under its number. -/
def Registered (self : Connection (Handles σ) κ) (a : Nat) : Prop :=
  self.channels.lookup (self.objects a).channel_id = some a

/-- How the open of a channel ends, and the connection behind it. -/
inductive Opens (x : Client σ κ) (w : World (Handles σ) κ) (channel_id : Int) :
    Outcome (Except PyErr Nat) → Connection (Handles σ) κ → Prop
  | offline {e : PyErr} : w.self.connected = false → e.cls = .ConnectionError →
      Opens x w channel_id (.ret (.error e)) w.self
  | raised {events : List Event} {ending : Ending} {st : σ} {e : PyErr} :
      w.self.connected = true → Handled true 0
        (x.lib.amqp_channel_open w.self.conn.state (channelNumber channel_id)).1 events ending →
      ending.Gives e → (ending = .normal → w.err ≠ none) → Opens x w channel_id (.ret (.error e))
        (w.self.after (.amqp_channel_open (channelNumber channel_id)
          (x.lib.amqp_channel_open w.self.conn.state (channelNumber channel_id)).1 :: events)
          ending st)
  | opened {m : amqp_method_t} {st : σ} : w.self.connected = true →
      (x.lib.amqp_channel_open w.self.conn.state (channelNumber channel_id)).1 = .normal m →
      Opens x w channel_id (.ret (.ok w.self.next_object))
        ((w.self.noted [.amqp_channel_open (channelNumber channel_id) (.normal m)] st).registered
          channel_id)
  | hung {events : List Event} {st : σ} : w.self.connected = true → Handled true 0
        (x.lib.amqp_channel_open w.self.conn.state (channelNumber channel_id)).1 events .hung →
      Opens x w channel_id .hang
        (w.self.after (.amqp_channel_open (channelNumber channel_id)
          (x.lib.amqp_channel_open w.self.conn.state (channelNumber channel_id)).1 :: events)
          .hung st)

theorem after_normal (self : Connection (Handles σ) κ) (events : List Event) (st : σ) :
    self.after events .normal st = self.noted events st := by
  simp [Connection.after, Connection.noted]

theorem handled_of_normal {connected : Bool} {c : amqp_channel_t} {m : amqp_method_t}
    {events : List Event} {ending : Ending} (h : Handled connected c (.normal m) events ending) :
    events = [] ∧ (ending = .normal ∨ ending = .hung) := by
  cases h with
  | cut => exact ⟨rfl, Or.inr rfl⟩
  | normal => exact ⟨rfl, Or.inl rfl⟩
  | failed hf => exact hf.elim

/-- A handler that ends normally made no calls. -/
theorem handled_normal_nil {connected : Bool} {c : amqp_channel_t} {reply : amqp_rpc_reply_t}
    {events : List Event} (h : Handled connected c reply events .normal) : events = [] := by
  obtain ⟨m, rfl⟩ := handled_normal h
  exact (handled_of_normal h).1

theorem handled_of_failure {connected : Bool} {c : amqp_channel_t} {reply : amqp_rpc_reply_t}
    {events : List Event} {ending : Ending} (h : Handled connected c reply events ending)
    (hf : reply.IsFailure) : ending = .closed ∨ ending = .hung := by
  cases h with
  | cut => exact Or.inr rfl
  | failed _ => exact Or.inl rfl
  | _ => exact hf.elim

/-- The part of `Connection.channel` that opens the channel. -/
theorem open_opens (x : Client σ κ) (fuel : Nat) (channel_id : Int) (w : World (Handles σ) κ) :
    Opens x w channel_id (Connection.channel.open_ x.env (fuel + 1) channel_id w).1
      (Connection.channel.open_ x.env (fuel + 1) channel_id w).2.self := by
  unfold Connection.channel.open_
  cases hc : w.self.connected with
  | false =>
    have hrun : fromPython (PyRabbitMQ_Connection_channel_open x.env (fuel + 1) channel_id) w = _ :=
      fromPython_offline hc
    rw [Run.bind_ret hrun]
    exact .offline hc rfl
  | true =>
    obtain ⟨events, ending, st, hh, hseen, hself⟩ := channel_open_seen x fuel channel_id hc
    rcases hrun : fromPython (PyRabbitMQ_Connection_channel_open x.env (fuel + 1) channel_id) w
      with ⟨o, w1⟩
    rw [hrun] at hseen hself
    dsimp only at hseen hself
    rcases hseen.cases with ⟨rfl, rfl⟩ | ⟨e, he, herr, rfl⟩ | ⟨rfl, rfl⟩
    · rw [Run.bind_ret hrun]
      obtain ⟨m, hm⟩ := handled_normal hh
      rw [handled_normal_nil hh, after_normal, hm] at hself
      change Opens x w channel_id (.ret (.ok w1.self.next_object))
        (w1.self.registered channel_id)
      rw [hself]
      exact .opened hc hm
    · rw [Run.bind_ret hrun]
      change Opens x w channel_id (.ret (.error e)) w1.self
      rw [hself]
      exact .raised hc hh he herr
    · rw [Run.bind_hang hrun]
      change Opens x w channel_id .hang w1.self
      rw [hself]
      exact .hung hc hh

/-- The connection with one more number in use. -/
def Connection.taken (self : Connection (Handles σ) κ) (channel_id : Int) :
    Connection (Handles σ) κ :=
  { self with _used_channel_ids := self._used_channel_ids ++ [channel_id] }

/-- `Connection.channel` without a number: no number is free, or it does not fit, or it
is in use from then on and the channel is opened. -/
theorem channel_none_cases (env : Env (Handles σ) κ) (fuel : Nat) (w : World (Handles σ) κ) :
    (∃ e, (freeChannelId w.self.channel_max w.self._used_channel_ids = none ∧
        e.cls = .ConnectionError ∨
      ∃ channel_id, freeChannelId w.self.channel_max w.self._used_channel_ids = some channel_id ∧
        2 ^ 16 ≤ channel_id) ∧ Connection.channel env fuel none w = (.ret (.error e), w)) ∨
    ∃ channel_id, freeChannelId w.self.channel_max w.self._used_channel_ids = some channel_id ∧
      channel_id < 2 ^ 16 ∧ Connection.channel env fuel none w =
        Connection.channel.open_ env fuel channel_id
          { w with self := w.self.taken channel_id } := by
  unfold Connection.channel Connection._get_free_channel_id
  dsimp only
  rw [Run.bind_assoc, Run.get_bind_apply]
  cases hfree : freeChannelId w.self.channel_max w.self._used_channel_ids with
  | none => exact Or.inl ⟨_, Or.inl ⟨rfl, rfl⟩, rfl⟩
  | some channel_id =>
    dsimp only
    by_cases hlt : channel_id < 2 ^ 16
    · rw [if_pos hlt]
      exact Or.inr ⟨channel_id, rfl, hlt, rfl⟩
    · rw [if_neg hlt]
      exact Or.inl ⟨_, Or.inr ⟨channel_id, rfl, Int.not_lt.mp hlt⟩, rfl⟩

/-- `Connection.channel` with a number. -/
theorem channel_some_cases (env : Env (Handles σ) κ) (fuel : Nat) (channel_id : Int)
    (w : World (Handles σ) κ) :
    (∃ channel, w.self.channels.lookup channel_id = some channel ∧
      Connection.channel env fuel (some channel_id) w = (.ret (.ok channel), w)) ∨
    w.self.channels.lookup channel_id = none ∧ Connection.channel env fuel (some channel_id) w =
      Connection.channel.open_ env fuel channel_id w := by
  unfold Connection.channel
  dsimp only
  rw [Run.get_bind_apply]
  cases hlookup : w.self.channels.lookup channel_id with
  | some channel => exact Or.inl ⟨channel, rfl, rfl⟩
  | none => exact Or.inr ⟨rfl, rfl⟩

/-- The reply to the close of the `Channel` at an address. -/
def Client.closeReply (x : Client σ κ) (self : Connection (Handles σ) κ) (a : Nat) :
    amqp_rpc_reply_t :=
  (x.lib.amqp_channel_close self.conn.state (channelNumber (self.objects a).channel_id)).1

/-- The connection behind the close, before the tables are changed. -/
def Connection.shut (self : Connection (Handles σ) κ) (a : Nat) (reply : amqp_rpc_reply_t)
    (events : List Event) (ending : Ending) (st : σ) : Connection (Handles σ) κ :=
  (self.marked a).after
    (.amqp_channel_close (channelNumber (self.objects a).channel_id) reply :: events) ending st

/-- How `Channel.close` ends, and the connection behind it. -/
inductive Shuts (x : Client σ κ) (w : World (Handles σ) κ) (a : Nat) :
    Outcome (Except PyErr Unit) → Connection (Handles σ) κ → Prop
  | offline {e : PyErr} : w.self.connected = false → e.cls = .ConnectionError →
      Shuts x w a (.ret (.error e)) (w.self.marked a)
  | raised {events : List Event} {ending : Ending} {st : σ} {e : PyErr} :
      w.self.connected = true →
      Handled true (channelNumber (w.self.objects a).channel_id) (x.closeReply w.self a) events
        ending →
      ending.Gives e → (ending = .normal → w.err ≠ none) → ending ≠ .channelError →
      Shuts x w a (.ret (.error e)) (w.self.shut a (x.closeReply w.self a) events ending st)
  | forgotten {events : List Event} {ending : Ending} {st : σ} : w.self.connected = true →
      Handled true (channelNumber (w.self.objects a).channel_id) (x.closeReply w.self a) events
        ending →
      ending = .normal ∨ ending = .channelError →
      Shuts x w a (.ret (.ok ()))
        ((w.self.shut a (x.closeReply w.self a) events ending st).forgotten
          (w.self.objects a).channel_id)
  | hung {events : List Event} {st : σ} : w.self.connected = true →
      Handled true (channelNumber (w.self.objects a).channel_id) (x.closeReply w.self a) events
        .hung →
      Shuts x w a .hang (w.self.shut a (x.closeReply w.self a) events .hung st)

/-- The channel is forgotten. -/
def forgetting (channel_id : Int) : Run (World (Handles σ) κ) (Except PyErr Unit) := do
  Run.modify fun w => { w with self := w.self.forgotten channel_id }
  return .ok ()

/-- What `Connection._remove_channel` makes of the close. -/
def removal (channel_id : Int) : Except PyErr Unit → Run (World (Handles σ) κ) (Except PyErr Unit)
  | .ok _ => forgetting channel_id
  | .error e => if e.cls = .ChannelError then forgetting channel_id else return .error e

theorem removal_channelError {e : PyErr} (he : e.cls = .ChannelError) (channel_id : Int) :
    removal (σ := σ) (κ := κ) channel_id (.error e) = forgetting channel_id :=
  if_pos he

theorem removal_other {e : PyErr} (he : e.cls ≠ .ChannelError) (channel_id : Int) :
    removal (σ := σ) (κ := κ) channel_id (.error e) = pure (.error e) :=
  if_neg he

/-- `Connection._remove_channel`, behind its first step. -/
theorem remove_channel_eq (env : Env (Handles σ) κ) (fuel : Nat) (a : Nat)
    (w : World (Handles σ) κ) :
    Connection._remove_channel env fuel a w =
      (fromPython (PyRabbitMQ_Connection_channel_close env fuel (w.self.objects a).channel_id) >>=
        removal (w.self.objects a).channel_id) { w with self := w.self.marked a } := by
  unfold Connection._remove_channel
  rw [Run.modify_bind_apply, Run.get_bind_apply]
  have hid : ((w.setChannel a { w.self.objects a with is_open := false }).self.objects
      a).channel_id = (w.self.objects a).channel_id := by
    simp [World.setChannel]
  dsimp only
  rw [hid]
  rfl

theorem close_shuts (x : Client σ κ) (fuel : Nat) (a : Nat) (w : World (Handles σ) κ) :
    Shuts x w a (Channel.close x.env fuel a w).1 (Channel.close x.env fuel a w).2.self := by
  unfold Channel.close
  rw [remove_channel_eq]
  generalize hw1 : ({ w with self := w.self.marked a } : World (Handles σ) κ) = w1
  have hself1 : w1.self = w.self.marked a := by rw [← hw1]
  have hconn1 : w1.self.conn = w.self.conn := by rw [hself1]; rfl
  have herr1 : w1.err = w.err := by rw [← hw1]
  cases hc : w.self.connected with
  | false =>
    have hc1 : w1.self.connected = false := by rw [hself1]; exact hc
    have hrun : fromPython (PyRabbitMQ_Connection_channel_close x.env fuel
        (w.self.objects a).channel_id) w1 = _ := fromPython_offline hc1
    rw [Run.bind_ret hrun]
    change Shuts x w a (.ret (.error _)) w1.self
    rw [hself1]
    exact .offline hc rfl
  | true =>
    have hc1 : w1.self.connected = true := by rw [hself1]; exact hc
    obtain ⟨events, ending, st, hh, hseen, hself⟩ :=
      channel_close_seen x fuel (w.self.objects a).channel_id hc1
    rw [hconn1] at hh hself
    rcases hrun : fromPython (PyRabbitMQ_Connection_channel_close x.env fuel
        (w.self.objects a).channel_id) w1 with ⟨o, w2⟩
    rw [hrun] at hseen hself
    dsimp only at hseen hself
    rw [herr1] at hseen
    rcases hseen.cases with ⟨rfl, rfl⟩ | ⟨e, he, herr, rfl⟩ | ⟨rfl, rfl⟩
    · rw [Run.bind_ret hrun]
      change Shuts x w a (.ret (.ok ())) (w2.self.forgotten _)
      rw [hself, hself1]
      exact .forgotten hc hh (Or.inl rfl)
    · rw [Run.bind_ret hrun]
      by_cases hending : ending = .channelError
      · subst hending
        rw [removal_channelError he]
        change Shuts x w a (.ret (.ok ())) (w2.self.forgotten _)
        rw [hself, hself1]
        exact .forgotten hc hh (Or.inr rfl)
      · have hcls : e.cls ≠ .ChannelError := by
          cases ending with
          | normal => rw [show e.cls = _ from he]; decide
          | channelError => exact absurd rfl hending
          | closed => rw [show e.cls = _ from he]; decide
          | hung => exact he.elim
        rw [removal_other hcls]
        change Shuts x w a (.ret (.error e)) w2.self
        rw [hself, hself1]
        exact .raised hc hh he herr hending
    · rw [Run.bind_hang hrun]
      change Shuts x w a .hang w2.self
      rw [hself, hself1]
      exact .hung hc hh

end librabbitmq
