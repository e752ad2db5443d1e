-- The numbers of the channels against a broker that accepts every open and every
-- close. The numbers that the connection chose itself are those of a pool.
import Librabbitmq.Pool
import Librabbitmq.Programs

namespace librabbitmq.allocation

open pool

variable {σ κ : Type} {x : Client σ κ} {w : World (Handles σ) κ}

/-! ## An accepting broker -/

/-- The broker accepts every open and every close. -/
structure Accepts (lib : RabbitMQC σ) : Prop where
  opens : ∀ s c, ∃ m, (lib.amqp_channel_open s c).1 = .normal m
  closes : ∀ s c, ∃ m, (lib.amqp_channel_close s c).1 = .normal m

/-- Between two calls from Python, on a connection that is there. -/
structure Ready (w : World (Handles σ) κ) : Prop where
  connected : w.self.connected = true
  err : w.err = none

/-- The method of the extension type behind a handler that finds nothing to do. -/
theorem fromPython_ready (hw : Ready w) {handler : Run (World (Handles σ) κ) Int}
    {s : Handles σ} (h : handler w = (.ret 0, w.setConn s)) :
    fromPython (PyRabbitMQ_Not_Connected >>= fun b =>
      if b = true then return none else handler >>= fun r =>
        if r ≠ 0 then return none else return some ()) w = (.ret (.ok ()), w.setConn s) := by
  rcases notConnected_cases w with ⟨_, hrun⟩ | ⟨hoff, _⟩
  · unfold fromPython
    rw [Run.bind_assoc, Run.bind_ret hrun, if_neg Bool.false_ne_true, Run.bind_assoc,
      Run.bind_ret h]
    have herr : (w.setConn s).setErr none = w.setConn s := by
      unfold World.setErr World.setConn
      rw [hw.err]
    change (Outcome.ret (checkResult (some ()) w.err), (w.setConn s).setErr none) = _
    rw [hw.err, herr]
    rfl
  · rw [hw.connected] at hoff
    cases hoff

theorem open_accepted (h : Accepts x.lib) (hw : Ready w) (fuel : Nat) (channel_id : Int) :
    ∃ w' s, Connection.channel.open_ x.env (fuel + 2) channel_id w =
        (.ret (.ok w.self.next_object), w') ∧
      Ready w' ∧ w'.self = (w.setConn s).self.registered channel_id := by
  rcases hs : x.lib.amqp_channel_open w.self.conn.state (channelNumber channel_id)
    with ⟨reply, st⟩
  obtain ⟨m, hm⟩ := h.opens w.self.conn.state (channelNumber channel_id)
  rw [hs] at hm
  dsimp only at hm
  subst hm
  have hcall : onConn (fun s => x.env.lib.amqp_channel_open s
      (parseUnsigned channel_id).toUInt16) w = (.ret (.normal m), w.setConn
        (w.self.conn.note [.amqp_channel_open (channelNumber channel_id) (.normal m)] st)) :=
    onConn_tracked hs
  have hcreate : PyRabbitMQ_Connection_create_channel x.env (fuel + 2) (parseUnsigned channel_id) w =
      (.ret 0, w.setConn
        (w.self.conn.note [.amqp_channel_open (channelNumber channel_id) (.normal m)] st)) := by
    unfold PyRabbitMQ_Connection_create_channel
    rw [Run.bind_ret hcall]
    exact handleAMQError_normal x.env fuel 0 m _ _
  have hopen : fromPython (PyRabbitMQ_Connection_channel_open x.env (fuel + 2) channel_id) w = _ :=
    fromPython_ready hw hcreate
  unfold Connection.channel.open_
  rw [Run.bind_ret hopen]
  exact ⟨_, _, rfl, ⟨hw.connected, hw.err⟩, rfl⟩

theorem close_accepted (h : Accepts x.lib) (hw : Ready w) (fuel : Nat) (a : Nat) :
    ∃ w' s, Channel.close x.env (fuel + 1) a w = (.ret (.ok ()), w') ∧
      Ready w' ∧ w'.self =
        ((w.setConn s).self.marked a).forgotten (w.self.objects a).channel_id := by
  unfold Channel.close
  rw [remove_channel_eq]
  generalize (w.self.objects a).channel_id = channel_id
  rcases hs : x.lib.amqp_channel_close w.self.conn.state (channelNumber channel_id)
    with ⟨reply, st⟩
  obtain ⟨m, hm⟩ := h.closes w.self.conn.state (channelNumber channel_id)
  rw [hs] at hm
  dsimp only at hm
  subst hm
  have hmarked : Ready ({ w with self := w.self.marked a } : World (Handles σ) κ) :=
    ⟨hw.connected, hw.err⟩
  have hcall : onConn (fun s => x.env.lib.amqp_channel_close s
      (parseUnsigned channel_id).toUInt16) { w with self := w.self.marked a } = (.ret (.normal m),
        World.setConn { w with self := w.self.marked a }
          (w.self.conn.note [.amqp_channel_close (channelNumber channel_id) (.normal m)] st)) :=
    onConn_tracked hs
  have hdestroy : PyRabbitMQ_Connection_destroy_channel x.env (fuel + 1) (parseUnsigned channel_id)
      { w with self := w.self.marked a } = (.ret 0, World.setConn { w with self := w.self.marked a }
        (w.self.conn.note [.amqp_channel_close (channelNumber channel_id) (.normal m)] st)) := by
    unfold PyRabbitMQ_Connection_destroy_channel
    rw [Run.bind_ret hcall]
    exact handleAMQError_normal x.env fuel _ m _ _
  have hclose : fromPython (PyRabbitMQ_Connection_channel_close x.env (fuel + 1) channel_id)
      { w with self := w.self.marked a } = _ := fromPython_ready hmarked hdestroy
  rw [Run.bind_ret hclose]
  exact ⟨_, _, rfl, ⟨hw.connected, hw.err⟩, rfl⟩

/-- `Connection.channel` without a number. -/
theorem channel_none_accepted (h : Accepts x.lib) (hw : Ready w) (fuel : Nat) :
    (∃ e, (freeChannelId w.self.channel_max w.self._used_channel_ids = none ∧
        e.cls = .ConnectionError ∨
      ∃ n, freeChannelId w.self.channel_max w.self._used_channel_ids = some n ∧ 2 ^ 16 ≤ n) ∧
      Connection.channel x.env (fuel + 2) none w = (.ret (.error e), w)) ∨
    ∃ n w' s, freeChannelId w.self.channel_max w.self._used_channel_ids = some n ∧ n < 2 ^ 16 ∧
      Connection.channel x.env (fuel + 2) none w = (.ret (.ok w.self.next_object), w') ∧
      Ready w' ∧ w'.self = ((w.setConn s).self.taken n).registered n := by
  rcases channel_none_cases x.env (fuel + 2) w with hfull | ⟨n, hfree, hlt, hrun⟩
  · exact Or.inl hfull
  · right
    have hw' : Ready ({ w with self := w.self.taken n } : World (Handles σ) κ) :=
      ⟨hw.connected, hw.err⟩
    obtain ⟨w', s, hopen, hready, hself⟩ := open_accepted h hw' fuel n
    exact ⟨n, w', s, hfree, hlt, hrun.trans hopen, hready, hself⟩

/-! ## The registered channels -/

/-- The open `Channel`s are those that are registered, each under its number. -/
structure Filed (object : Connection (Handles σ) κ) : Prop where
  keys : (object.channels.map Prod.fst).Nodup
  registered : ∀ a, (object.objects a).is_open = true → Registered object a
  number : ∀ e ∈ object.channels, (object.objects e.2).channel_id = e.1
  standing : ∀ e ∈ object.channels, (object.objects e.2).is_open = true
  old : ∀ e ∈ object.channels, e.2 < object.next_object

variable {self : Connection (Handles σ) κ}

theorem not_mem_of_lookup {ν : Type} {d : Dict Int ν} {n : Int} (h : d.lookup n = none) :
    n ∉ d.map Prod.fst := by
  intro hn
  obtain ⟨e, he, rfl⟩ := List.mem_map.mp hn
  have hne := List.lookup_eq_none_iff.mp h e he
  simp at hne

theorem mem_of_lookup_int {ν : Type} {d : Dict Int ν} {n : Int} {v : ν}
    (h : d.lookup n = some v) : (n, v) ∈ d := by
  obtain ⟨front, back, rfl, _⟩ := List.lookup_eq_some_iff.mp h
  simp

theorem lookup_fresh {ν : Type} {d : Dict Int ν} {n k : Int} {v : ν} (hn : n ∉ d.map Prod.fst)
    (hk : d.lookup k = some v) : k ≠ n := by
  rintro rfl
  exact hn (List.mem_map_of_mem (mem_of_lookup_int hk))

theorem lookup_set {ν : Type} (d : Dict Int ν) (n m : Int) (v : ν) :
    (d.set n v).lookup m = if m = n then some v else d.lookup m := by
  by_cases hm : m = n
  · rw [if_pos hm, hm, Dict.lookup_set_self]
  · rw [if_neg hm, Dict.lookup_set_ne _ _ hm]

theorem lookup_pop {ν : Type} (d : Dict Int ν) (n m : Int) :
    List.lookup m (d.pop n) = if m = n then none else d.lookup m := by
  by_cases hm : m = n
  · rw [if_pos hm, hm, Dict.lookup_pop_self]
  · rw [if_neg hm, Dict.lookup_pop_ne _ hm]

/-- A new `Channel` under a fresh number. -/
theorem Filed.opened (h : Filed self) {n : Int} (hn : n ∉ self.channels.map Prod.fst) :
    Filed (self.registered n) := by
  have hchannels : (self.registered n).channels = self.channels ++ [(n, self.next_object)] :=
    Dict.set_fresh _ _ _ hn
  have hnew : (self.registered n).objects self.next_object = ⟨n, true, []⟩ := by
    simp [Connection.registered]
  have hold : ∀ b, b ≠ self.next_object → (self.registered n).objects b = self.objects b :=
    fun b hb => by simp [Connection.registered, hb]
  have hentries : ∀ e ∈ (self.registered n).channels,
      e ∈ self.channels ∧ (self.registered n).objects e.2 = self.objects e.2 ∨
        e = (n, self.next_object) := by
    intro e he
    rw [hchannels, List.mem_append, List.mem_singleton] at he
    rcases he with he | rfl
    · exact Or.inl ⟨he, hold _ (Nat.ne_of_lt (h.old e he))⟩
    · exact Or.inr rfl
  refine ⟨?_, fun a ha => ?_, fun e he => ?_, fun e he => ?_, fun e he => ?_⟩
  · rw [hchannels, List.map_append, List.nodup_append]
    refine ⟨h.keys, List.nodup_singleton n, fun a ha b hb => ?_⟩
    rintro rfl
    simp only [List.map_cons, List.map_nil, List.mem_singleton] at hb
    subst hb
    exact hn ha
  · unfold Registered
    by_cases hnext : a = self.next_object
    · subst hnext
      rw [hnew]
      exact Dict.lookup_set_self _ _ _
    · rw [hold a hnext] at ha ⊢
      have hlookup := h.registered a ha
      exact (Dict.lookup_set_ne _ _ (lookup_fresh hn hlookup)).trans hlookup
  · rcases hentries e he with ⟨he, hobject⟩ | rfl
    · rw [hobject]
      exact h.number e he
    · rw [hnew]
  · rcases hentries e he with ⟨he, hobject⟩ | rfl
    · rw [hobject]
      exact h.standing e he
    · rw [hnew]
  · rcases hentries e he with ⟨he, _⟩ | rfl
    · exact Nat.lt_succ_of_lt (h.old e he)
    · exact Nat.lt_succ_self _

/-- A registered `Channel` that is taken out. -/
theorem Filed.closed (h : Filed self) {a : Nat} (ha : Registered self a) :
    Filed ((self.marked a).forgotten (self.objects a).channel_id) := by
  have hold : ∀ b, b ≠ a →
      ((self.marked a).forgotten (self.objects a).channel_id).objects b = self.objects b :=
    fun b hb => by simp [Connection.marked, Connection.forgotten, hb]
  have hentries : ∀ e ∈ ((self.marked a).forgotten (self.objects a).channel_id).channels,
      e ∈ self.channels ∧ e.2 ≠ a := by
    intro e he
    obtain ⟨he, hne⟩ := List.mem_filter.mp he
    refine ⟨he, fun hea => ?_⟩
    have hnumber := h.number e he
    rw [hea] at hnumber
    simp [hnumber] at hne
  refine ⟨h.keys.sublist (List.filter_sublist.map Prod.fst), fun b hb => ?_, fun e he => ?_,
    fun e he => ?_, fun e he => h.old e (hentries e he).1⟩
  · have hne : b ≠ a := by
      rintro rfl
      simp [Connection.marked, Connection.forgotten] at hb
    rw [hold b hne] at hb
    have hlookup := h.registered b hb
    unfold Registered at hlookup ha ⊢
    rw [hold b hne]
    have hid : (self.objects b).channel_id ≠ (self.objects a).channel_id := by
      intro hid
      rw [hid, ha] at hlookup
      cases hlookup
      exact hne rfl
    exact (Dict.lookup_pop_ne _ hid).trans hlookup
  · obtain ⟨he, hne⟩ := hentries e he
    rw [hold _ hne]
    exact h.number e he
  · obtain ⟨he, hne⟩ := hentries e he
    rw [hold _ hne]
    exact h.standing e he

/-- The open `Channel`s, as a set of addresses. -/
def OpenChannels (self : Connection (Handles σ) κ) (addresses : Finset Nat) : Prop :=
  ∀ a, a ∈ addresses ↔ (self.objects a).is_open = true

/-- As many are open as are registered. -/
theorem Filed.count (h : Filed self) :
    OpenChannels self (self.channels.map Prod.snd).toFinset ∧
      (self.channels.map Prod.snd).toFinset.card = self.channels.length := by
  constructor
  · intro a
    rw [List.mem_toFinset, List.mem_map]
    constructor
    · rintro ⟨e, he, rfl⟩
      exact h.standing e he
    · intro ha
      exact ⟨_, mem_of_lookup_int (h.registered a ha), rfl⟩
  · have hnumbers : (self.channels.map Prod.snd).map (fun a => (self.objects a).channel_id) =
        self.channels.map Prod.fst := by
      rw [List.map_map]
      exact List.map_congr_left h.number
    have hnodup : (self.channels.map Prod.snd).Nodup := by
      refine List.Nodup.of_map (fun a => (self.objects a).channel_id) ?_
      rw [hnumbers]
      exact h.keys
    rw [List.toFinset_card_of_nodup hnodup, List.length_map]

theorem OpenChannels.card_eq {s t : Finset Nat} (hs : OpenChannels self s)
    (ht : OpenChannels self t) : s.card = t.card := by
  have heq : s = t := by
    ext a
    rw [hs a, ht a]
  rw [heq]

/-! ## The tables, as a pool -/

/-- The connection as a pool of the numbers that it chose. -/
structure Represents (object : Connection (Handles σ) κ) {bound : Int} (p : Pool bound) : Prop
    extends Filed object where
  channel_max : object.channel_max = bound
  nodup : object._used_channel_ids.Nodup
  used : ∀ n, n ∈ object._used_channel_ids ↔ n ∈ p.used
  channels : ∀ n, n ∈ object.channels.map Prod.fst ↔ n ∈ p.used
  callbacks : ∀ n, n ∈ object.callbacks.map Prod.fst ↔ n ∈ p.used

variable {bound : Int} {p : Pool bound}

theorem mem_set {ν : Type} {d : Dict Int ν} {n : Int} {v : ν} (h : n ∉ d.map Prod.fst) (m : Int) :
    m ∈ (d.set n v).map Prod.fst ↔ m = n ∨ m ∈ d.map Prod.fst := by
  rw [Dict.set_fresh d n v h]
  simp [or_comm]

theorem mem_pop {ν : Type} {d : Dict Int ν} {n : Int} (m : Int) :
    m ∈ (d.pop n).map Prod.fst ↔ m ≠ n ∧ m ∈ d.map Prod.fst := by
  unfold Dict.pop
  simp only [List.mem_map, List.mem_filter]
  constructor
  · rintro ⟨e, ⟨he, hne⟩, rfl⟩
    exact ⟨by simpa using hne, e, he, rfl⟩
  · rintro ⟨hne, e, he, rfl⟩
    exact ⟨e, ⟨he, by simpa using hne⟩, rfl⟩

/-- The number that is found free is the next of the pool. -/
theorem Represents.next {n : Int} (h : Represents self p)
    (hfree : freeChannelId self.channel_max self._used_channel_ids = some n) : p.Next n := by
  obtain ⟨hrange, hn⟩ := freeChannelId_some hfree
  rw [h.channel_max] at hrange
  refine ⟨mem_numbers.mpr hrange, ?_, fun m hm hlt => ?_⟩
  · rwa [h.used] at hn
  · exact (h.used m).mp (freeChannelId_least hfree hm hlt)

theorem Represents.full (h : Represents self p)
    (hfree : freeChannelId self.channel_max self._used_channel_ids = none) : p.Full := by
  intro m hm
  rw [mem_numbers, ← h.channel_max] at hm
  exact (h.used m).mp (freeChannelId_none hfree hm.1 hm.2)

/-- As many `Channel`s are open as numbers are in use. -/
theorem Represents.card (h : Represents self p) {addresses : Finset Nat}
    (hopen : OpenChannels self addresses) : addresses.card = p.used.card := by
  have hset : (self.channels.map Prod.fst).toFinset = p.used := by
    ext n
    rw [List.mem_toFinset]
    exact h.channels n
  obtain ⟨hcount, hlength⟩ := h.toFiled.count
  rw [hopen.card_eq hcount, hlength, ← hset, List.toFinset_card_of_nodup h.keys, List.length_map]

/-- An open that is accepted takes the number. -/
theorem Represents.taken (h : Represents self p) {n : Int} (hnext : p.Next n) :
    Represents ((self.taken n).registered n) (p.take n hnext.mem) := by
  have hused : n ∉ self._used_channel_ids := fun hn => hnext.free ((h.used n).mp hn)
  have hchannels : n ∉ self.channels.map Prod.fst := fun hn => hnext.free ((h.channels n).mp hn)
  have hcallbacks : n ∉ self.callbacks.map Prod.fst :=
    fun hn => hnext.free ((h.callbacks n).mp hn)
  have hfiled : Filed (self.taken n) := ⟨h.keys, h.registered, h.number, h.standing, h.old⟩
  refine ⟨hfiled.opened hchannels, h.channel_max, ?_, fun m => ?_, fun m => ?_, fun m => ?_⟩
  · change (self._used_channel_ids ++ [n]).Nodup
    rw [List.nodup_append]
    refine ⟨h.nodup, List.nodup_singleton n, fun a ha b hb => ?_⟩
    rw [List.mem_singleton] at hb
    subst hb
    rintro rfl
    exact hused ha
  · change m ∈ self._used_channel_ids ++ [n] ↔ _
    rw [List.mem_append, List.mem_singleton, Pool.mem_take, h.used]
    exact or_comm
  · rw [Pool.mem_take, ← h.channels]
    exact mem_set hchannels m
  · rw [Pool.mem_take, ← h.callbacks]
    exact mem_set hcallbacks m

/-- A close that is accepted gives it back. -/
theorem Represents.forgotten (h : Represents self p) {a : Nat} (ha : Registered self a) :
    Represents ((self.marked a).forgotten (self.objects a).channel_id)
      (p.giveBack (self.objects a).channel_id) := by
  refine ⟨h.toFiled.closed ha, h.channel_max, h.nodup.erase _, fun m => ?_, fun m => ?_,
    fun m => ?_⟩
  · rw [Pool.mem_giveBack, ← h.used]
    exact h.nodup.mem_erase_iff
  · rw [Pool.mem_giveBack, ← h.channels]
    exact mem_pop m
  · rw [Pool.mem_giveBack, ← h.callbacks]
    exact mem_pop m

/-! ## Numbers that the connection chooses -/

/-- A connection without channels, between two calls. -/
structure Starts (w : World (Handles σ) κ) : Prop extends Ready w where
  channels : w.self.channels = []
  callbacks : w.self.callbacks = []
  used : w.self._used_channel_ids = []
  closed : ∀ a, (w.self.objects a).is_open = false

/-- A `Connection.channel()`, or the close of a registered `Channel`. -/
def OpensOrCloses (w : World (Handles σ) κ) (op : Op κ) : Prop :=
  op = .channel none ∨ ∃ a, op = .Channel_close a ∧ Registered w.self a

/-- The numbers in use are distinct numbers of the range and the keys of both tables, and
the open `Channel`s are the registered ones. -/
structure Allocated (object : Connection (Handles σ) κ) : Prop where
  nodup : object._used_channel_ids.Nodup
  range : ∀ n ∈ object._used_channel_ids, 1 ≤ n ∧ n ≤ object.channel_max
  channels : ∀ n, n ∈ object.channels.map Prod.fst ↔ n ∈ object._used_channel_ids
  callbacks : ∀ n, n ∈ object.callbacks.map Prod.fst ↔ n ∈ object._used_channel_ids
  registered : ∀ n a, object.channels.lookup n = some a ↔
    (object.objects a).is_open = true ∧ (object.objects a).channel_id = n

/-- The least number of the range that is not in use. -/
def IsLeastFree (self : Connection (Handles σ) κ) (n : Int) : Prop :=
  1 ≤ n ∧ n ≤ self.channel_max ∧ n ∉ self._used_channel_ids ∧
    ∀ m, 1 ≤ m → m < n → m ∈ self._used_channel_ids

/-- A new `Channel` at an address, under a number that is now in use in all three
containers. -/
structure Opened (before object : Connection (Handles σ) κ) (a : Nat) (n : Int) : Prop where
  new : (before.objects a).is_open = false
  channel : object.objects a = ⟨n, true, []⟩
  others : ∀ b, b ≠ a → object.objects b = before.objects b
  used : ∀ m, m ∈ object._used_channel_ids ↔ m = n ∨ m ∈ before._used_channel_ids
  channels : ∀ m, object.channels.lookup m = if m = n then some a else before.channels.lookup m
  callbacks : ∀ m, object.callbacks.lookup m = if m = n then some [] else before.callbacks.lookup m

/-- The `Channel` at an address is closed, and its number out of all three containers. -/
structure Closed (before object : Connection (Handles σ) κ) (a : Nat) : Prop where
  channel : object.objects a = { before.objects a with is_open := false }
  others : ∀ b, b ≠ a → object.objects b = before.objects b
  used : ∀ m, m ∈ object._used_channel_ids ↔
    m ≠ (before.objects a).channel_id ∧ m ∈ before._used_channel_ids
  channels : ∀ m, object.channels.lookup m =
    if m = (before.objects a).channel_id then none else before.channels.lookup m
  callbacks : ∀ m, object.callbacks.lookup m =
    if m = (before.objects a).channel_id then none else before.callbacks.lookup m

/-- What `Connection.channel()` makes of a world. -/
structure Allocates (x : Client σ κ) (fuel : Nat) (w : World (Handles σ) κ) : Prop where
  returns : ∃ r w', Connection.channel x.env fuel none w = (.ret r, w')
  opens : ∀ a w', Connection.channel x.env fuel none w = (.ret (.ok a), w') →
    ∃ n, IsLeastFree w.self n ∧ Opened w.self w'.self a n
  raises : (∃ e w', Connection.channel x.env fuel none w = (.ret (.error e), w') ∧
    e.cls = .ConnectionError) ↔
      ∃ addresses, OpenChannels w.self addresses ∧ (addresses.card : Int) = w.self.channel_max
  unchanged : ∀ e w', Connection.channel x.env fuel none w = (.ret (.error e), w') →
    w'.self.channels = w.self.channels ∧ w'.self.callbacks = w.self.callbacks ∧
      w'.self._used_channel_ids = w.self._used_channel_ids

/-- A call that returns and leaves the tables in step. A `channel()` allocates and a
close gives its number back. -/
structure InStep (x : Client σ κ) (fuel : Nat) (w : World (Handles σ) κ) (op : Op κ) :
    Prop where
  tables : ∃ w', x.exec fuel op w = (.ret (), w') ∧ Allocated w'.self
  allocates : op = .channel none → Allocates x fuel w
  frees : ∀ a, op = .Channel_close a →
    ∃ w', Channel.close x.env fuel a w = (.ret (.ok ()), w') ∧ Closed w.self w'.self a

theorem called_ret {α : Type} {y : Run (World (Handles σ) κ) α} {a : α}
    {w' : World (Handles σ) κ} (h : y w = (.ret a, w')) : called y w = (.ret (), w') := by
  unfold called
  rw [Run.bind_ret h]
  rfl

/-- Between two calls, with the tables of a pool. -/
structure Pooled (bound : Int) (w : World (Handles σ) κ) : Prop extends Ready w where
  pool : ∃ p : Pool bound, Represents w.self p

theorem Represents.allocated (h : Represents self p) : Allocated self := by
  refine ⟨h.nodup, fun n hn => ?_, fun n => ?_, fun n => ?_, fun n a => ⟨fun hn => ?_, ?_⟩⟩
  · rw [h.channel_max]
    exact mem_numbers.mp (p.within ((h.used n).mp hn))
  · rw [h.channels, h.used]
  · rw [h.callbacks, h.used]
  · have he := mem_of_lookup_int hn
    exact ⟨h.standing _ he, h.number _ he⟩
  · rintro ⟨hopen, rfl⟩
    exact h.registered a hopen

theorem represents_setConn (s : Handles σ) (h : Represents w.self p) :
    Represents (w.setConn s).self p :=
  ⟨⟨h.keys, h.registered, h.number, h.standing, h.old⟩, h.channel_max, h.nodup, h.used,
    h.channels, h.callbacks⟩

theorem Starts.files (h : Starts w) : Filed w.self := by
  refine ⟨?_, fun a ha => ?_, ?_, ?_, ?_⟩
  · simp [h.channels]
  · rw [h.closed a] at ha
    cases ha
  · simp [h.channels]
  · simp [h.channels]
  · simp [h.channels]

theorem Starts.pooled (h : Starts w) : Pooled w.self.channel_max w := by
  refine ⟨⟨h.connected, h.err⟩, Pool.empty _, h.files, rfl, ?_, ?_, ?_, ?_⟩
  · simp [h.used]
  · simp [h.used, Pool.empty]
  · simp [h.channels, Pool.empty]
  · simp [h.callbacks, Pool.empty]

/-- A `Channel` is new at the next address. -/
theorem Filed.fresh (h : Filed self) : (self.objects self.next_object).is_open = false := by
  cases hopen : (self.objects self.next_object).is_open with
  | false => rfl
  | true => exact absurd (h.old _ (mem_of_lookup_int (h.registered _ hopen))) (Nat.lt_irrefl _)

theorem opened_registered (h : Filed w.self) (s : Handles σ) (n : Int) :
    Opened w.self (((w.setConn s).self.taken n).registered n) w.self.next_object n := by
  refine ⟨h.fresh, ?_, fun b hb => ?_, fun m => ?_, fun m => ?_, fun m => ?_⟩
  · simp [Connection.registered, Connection.taken, World.setConn]
  · simp [Connection.registered, Connection.taken, World.setConn, hb]
  · change m ∈ w.self._used_channel_ids ++ [n] ↔ _
    rw [List.mem_append, List.mem_singleton]
    exact or_comm
  · exact lookup_set _ _ _ _
  · exact lookup_set _ _ _ _

theorem closed_forgotten (hused : w.self._used_channel_ids.Nodup) (s : Handles σ) (a : Nat) :
    Closed w.self (((w.setConn s).self.marked a).forgotten (w.self.objects a).channel_id) a := by
  refine ⟨?_, fun b hb => ?_, fun m => ?_, fun m => ?_, fun m => ?_⟩
  · simp [Connection.marked, Connection.forgotten, World.setConn]
  · simp [Connection.marked, Connection.forgotten, World.setConn, hb]
  · exact hused.mem_erase_iff
  · exact lookup_pop _ _ _
  · exact lookup_pop _ _ _

/-- Every call of `channel()` allocates the next number of the pool, or the pool is full. -/
theorem Pooled.allocates (hx : Accepts x.lib) (fuel : Nat) (hmax : 1 ≤ bound ∧ bound ≤ 65535)
    (h : Pooled bound w) : Allocates x (fuel + 2) w ∧
      ∃ w', x.exec (fuel + 2) (.channel none) w = (.ret (), w') ∧ Pooled bound w' := by
  obtain ⟨hready, p, hp⟩ := h
  have hmax' := hp.channel_max
  rcases channel_none_accepted hx hready fuel with ⟨e, hfull, hrun⟩ |
    ⟨n, w', s, hfree, _, hrun, hready', hself⟩
  · rcases hfull with ⟨hnone, he⟩ | ⟨n, hfree, hlt⟩
    · have hcard := Pool.full_iff_card.mp (hp.full hnone)
      obtain ⟨hopen, _⟩ := hp.toFiled.count
      have hcount := hp.card hopen
      refine ⟨⟨⟨_, _, hrun⟩, fun a w' hok => ?_, ?_, fun e' w' herr => ?_⟩, w, called_ret hrun,
        hready, p, hp⟩
      · rw [hrun] at hok
        cases hok
      · constructor
        · exact fun _ => ⟨_, hopen, by omega⟩
        · exact fun _ => ⟨e, w, hrun, he⟩
      · rw [hrun] at herr
        cases herr
        exact ⟨rfl, rfl, rfl⟩
    · obtain ⟨hrange, _⟩ := freeChannelId_some hfree
      omega
  · have hnext := hp.next hfree
    have hrepresents := (represents_setConn s hp).taken hnext
    rw [← hself] at hrepresents
    obtain ⟨hrange, hn⟩ := freeChannelId_some hfree
    refine ⟨⟨⟨_, _, hrun⟩, fun a w'' hok => ?_, ?_, fun e' w'' herr => ?_⟩, w', called_ret hrun,
      hready', _, hrepresents⟩
    · rw [hrun] at hok
      cases hok
      refine ⟨n, ⟨hrange.1, hrange.2, hn, fun m hm hlt => freeChannelId_least hfree hm hlt⟩, ?_⟩
      rw [hself]
      exact opened_registered hp.toFiled s n
    · constructor
      · rintro ⟨e, w'', herr, _⟩
        rw [hrun] at herr
        cases herr
      · rintro ⟨addresses, hopen, hcount⟩
        have hcard := hp.card hopen
        have hfull : p.Full := Pool.full_iff_card.mpr (by omega)
        exact absurd hnext (hfull.no_next n)
    · rw [hrun] at herr
      cases herr

/-- Every close of a registered `Channel` gives its number back to the pool. -/
theorem Pooled.closes (hx : Accepts x.lib) (fuel : Nat) (h : Pooled bound w) {a : Nat}
    (ha : Registered w.self a) :
    ∃ w', Channel.close x.env (fuel + 2) a w = (.ret (.ok ()), w') ∧ Closed w.self w'.self a ∧
      Pooled bound w' := by
  obtain ⟨hready, p, hp⟩ := h
  obtain ⟨w', s, hrun, hready', hself⟩ := close_accepted hx hready (fuel + 1) a
  refine ⟨w', hrun, ?_, hready', p.giveBack (w.self.objects a).channel_id, ?_⟩
  · rw [hself]
    exact closed_forgotten hp.nodup s a
  · rw [hself]
    exact (represents_setConn s hp).forgotten ha

theorem Pooled.step (hx : Accepts x.lib) (fuel : Nat) (hmax : 1 ≤ bound ∧ bound ≤ 65535)
    (h : Pooled bound w) {op : Op κ} (hop : OpensOrCloses w op) :
    (∃ w', x.exec (fuel + 2) op w = (.ret (), w') ∧ Pooled bound w') ∧
      InStep x (fuel + 2) w op := by
  rcases hop with rfl | ⟨a, rfl, ha⟩
  · obtain ⟨hallocates, w', hrun, hpooled⟩ := h.allocates hx fuel hmax
    obtain ⟨p, hp⟩ := hpooled.pool
    refine ⟨⟨w', hrun, hpooled⟩, ⟨w', hrun, hp.allocated⟩, fun _ => hallocates, fun a ha => ?_⟩
    cases ha
  · obtain ⟨w', hrun, hclosed, hpooled⟩ := h.closes hx fuel ha
    obtain ⟨p, hp⟩ := hpooled.pool
    refine ⟨⟨w', called_ret hrun, hpooled⟩, ⟨w', called_ret hrun, hp.allocated⟩, fun hop => ?_,
      fun b hb => ?_⟩
    · cases hop
    · cases hb
      exact ⟨w', hrun, hclosed⟩

/-- For every row of `Connection.channel()` and of closes of registered channels against
a broker that accepts them: after each call the tables have the same distinct numbers of
the range. Each `channel()` opens a `Channel` under the least number that is free, in all
three containers, or raises when as many are open as there are numbers, and each close
takes its number out of them. -/
theorem channel_numbers_are_allocated_least_first (x : Client σ κ) (hx : Accepts x.lib)
    (fuel : Nat) (w : World (Handles σ) κ) (hstart : Starts w)
    (hmax : 1 ≤ w.self.channel_max ∧ w.self.channel_max ≤ 65535) (ops : List (Op κ))
    (hops : x.EachCall (fuel + 2) OpensOrCloses ops w) :
    x.EachCall (fuel + 2) (InStep x (fuel + 2)) ops w := by
  refine eachCall_of_invariant (I := Pooled w.self.channel_max) ?_ ?_ hstart.pooled hops
  · intro w1 op w' h hop hrun
    obtain ⟨w'', hrun', hpooled⟩ := (h.step hx fuel hmax hop).1
    rw [hrun] at hrun'
    cases hrun'
    exact hpooled
  · exact fun w1 op h hop => (h.step hx fuel hmax hop).2

theorem accepts_answers (a : Answers) {m m' : amqp_method_t} (ho : a.channel_open = .normal m)
    (hc : a.channel_close = .normal m') : Accepts a.lib :=
  ⟨fun _ _ => ⟨m, ho⟩, fun _ _ => ⟨m', hc⟩⟩

/-- Two channels, both of the two numbers there are, and a close. -/
theorem two_channels_are_allocated :
    (Answers.client { channel_max := 2 }).EachCall 2 (InStep (Answers.client { channel_max := 2 }) 2)
      [.channel none, .channel none, .channel none, .Channel_close 0, .channel none]
      ((Answers.client { channel_max := 2 }).exec 2 .connect (World.new ())).2 := by
  refine channel_numbers_are_allocated_least_first _ (accepts_answers _ rfl rfl) 0 _
    ⟨⟨rfl, rfl⟩, rfl, rfl, rfl, fun _ => rfl⟩ (by decide) _ ?_
  refine eachCall_cons (Or.inl rfl) rfl ?_
  refine eachCall_cons (Or.inl rfl) rfl ?_
  refine eachCall_cons (Or.inl rfl) rfl ?_
  refine eachCall_cons (Or.inr ⟨0, rfl, rfl⟩) rfl ?_
  exact eachCall_cons (Or.inl rfl) rfl trivial

/-! ## Numbers that the application chooses -/

/-- A `Connection.channel` with or without a number, or the close of a registered
`Channel`. -/
def OpensOrClosesAny (w : World (Handles σ) κ) (op : Op κ) : Prop :=
  OpensOrCloses w op ∨ ∃ n, op = .channel (some n) ∧ 1 ≤ n ∧ n ≤ w.self.channel_max

/-- A `Channel` that a call opened: its address, its number, and whether the application
asked for that number. -/
structure Entry where
  address : Nat
  number : Int
  asked : Bool

/-- What a row of calls opened and did not close, from the calls alone, and the address
of the next `Channel`. -/
structure Ledger where
  opened : List Entry
  next : Nat

namespace Ledger

def numbers (l : Ledger) : List Int := l.opened.map Entry.number

/-- The numbers that the connection chose. -/
def chosen (l : Ledger) : List Int := (l.opened.filter fun e => !e.asked).map Entry.number

def add (l : Ledger) (n : Int) (asked : Bool) : Ledger :=
  ⟨l.opened ++ [⟨l.next, n, asked⟩], l.next + 1⟩

def remove (l : Ledger) (a : Nat) : Ledger :=
  { l with opened := l.opened.filter fun e => e.address ≠ a }

/-- One call. Without a number the `Channel` gets the least one that the connection did
not choose before. -/
def call (channel_max : Int) (l : Ledger) : Op κ → Ledger
  | .channel none => match freeChannelId channel_max l.chosen with
    | some n => if n < 2 ^ 16 then l.add n false else l
    | none => l
  | .channel (some n) => if n ∈ l.numbers then l else l.add n true
  | .Channel_close a => l.remove a
  | _ => l

/-- Below every number that the application asked for there is one that the connection
has not chosen. -/
def RoomBelow (l : Ledger) : Prop :=
  ∀ e ∈ l.opened, e.asked = true → ∃ m, 1 ≤ m ∧ m < e.number ∧ m ∉ l.chosen

/-- There is room below at each `channel()` of a row of calls. -/
def Harmless (channel_max : Int) : Ledger → List (Op κ) → Prop
  | _, [] => True
  | l, op :: ops =>
    (op = .channel none → l.RoomBelow) ∧ (l.call channel_max op).Harmless channel_max ops

theorem harmless_cons {channel_max : Int} {l : Ledger} {op : Op κ} {ops : List (Op κ)}
    (hroom : op = .channel none → l.RoomBelow)
    (hops : (l.call channel_max op).Harmless channel_max ops) :
    l.Harmless channel_max (op :: ops) := ⟨hroom, hops⟩

end Ledger

/-- The number that `Connection.channel()` chooses is not registered. -/
def ChoosesFresh (self : Connection (Handles σ) κ) : Prop :=
  ∀ n, freeChannelId self.channel_max self._used_channel_ids = some n →
    n ∉ self.channels.map Prod.fst

/-- No two Channels that are open have one number. -/
def Apart (self : Connection (Handles σ) κ) : Prop :=
  ∀ a b, (self.objects a).is_open = true → (self.objects b).is_open = true →
    (self.objects a).channel_id = (self.objects b).channel_id → a = b

/-- A call that chooses a fresh number, overwrites no registration and leaves the open
Channels apart. -/
structure NoCollision (x : Client σ κ) (fuel : Nat) (w : World (Handles σ) κ) (op : Op κ) :
    Prop where
  fresh : op = .channel none → ChoosesFresh w.self
  kept : ∀ channel_id, op = .channel channel_id → ∀ k b, w.self.channels.lookup k = some b →
    (x.exec fuel op w).2.self.channels.lookup k = some b
  apart : Apart (x.exec fuel op w).2.self

theorem Filed.apart (h : Filed self) : Apart self := by
  intro a b ha hb hid
  have ha' := h.registered a ha
  have hb' := h.registered b hb
  unfold Registered at ha' hb'
  rw [hid, hb'] at ha'
  cases ha'
  rfl

/-- The containers are those that the ledger of the calls accounts for. -/
structure Tracks (bound : Int) (l : Ledger) (object : Connection (Handles σ) κ) : Prop
    extends Filed object where
  channel_max : object.channel_max = bound
  next : object.next_object = l.next
  channels : object.channels = l.opened.map fun e => (e.number, e.address)
  used : object._used_channel_ids = l.chosen
  range : ∀ e ∈ l.opened, e.asked = true → 1 ≤ e.number ∧ e.number ≤ bound

variable {l : Ledger}

theorem Tracks.keys_eq (h : Tracks bound l self) :
    self.channels.map Prod.fst = l.numbers := by
  rw [h.channels, List.map_map]
  rfl

theorem Tracks.nodup (h : Tracks bound l self) : l.numbers.Nodup := by
  rw [← h.keys_eq]
  exact h.keys

theorem mem_chosen {n : Int} :
    n ∈ l.chosen ↔ ∃ e ∈ l.opened, e.asked = false ∧ e.number = n := by
  simp [Ledger.chosen, and_assoc]

/-- No number is one that the connection chose and one that it was asked for. -/
theorem Tracks.asked_not_chosen (h : Tracks bound l self) {e : Entry} (he : e ∈ l.opened)
    (hasked : e.asked = true) : e.number ∉ l.chosen := by
  intro hchosen
  obtain ⟨e', he', hnot, hnumber⟩ := mem_chosen.mp hchosen
  have heq : e' = e := List.inj_on_of_nodup_map h.nodup he' he hnumber
  rw [heq, hasked] at hnot
  cases hnot

/-- The number that is chosen is fresh exactly when there is room below. -/
theorem Tracks.choosesFresh_iff (h : Tracks bound l self) :
    ChoosesFresh self ↔ l.RoomBelow := by
  unfold ChoosesFresh
  rw [h.channel_max, h.used, h.keys_eq]
  constructor
  · intro hfresh e he hasked
    obtain ⟨hmin, hmax⟩ := h.range e he hasked
    have hnot := h.asked_not_chosen he hasked
    cases hfree : freeChannelId bound l.chosen with
    | none => exact absurd (freeChannelId_none hfree hmin hmax) hnot
    | some n =>
      obtain ⟨hrange, hn⟩ := freeChannelId_some hfree
      refine ⟨n, hrange.1, ?_, hn⟩
      have hne : n ≠ e.number := by
        rintro rfl
        exact hfresh _ hfree (List.mem_map_of_mem he)
      have hle : ¬ e.number < n := fun hlt => hnot (freeChannelId_least hfree hmin hlt)
      omega
  · intro hroom n hfree hn
    obtain ⟨_, hchosen⟩ := freeChannelId_some hfree
    obtain ⟨e, he, rfl⟩ := List.mem_map.mp hn
    cases hasked : e.asked with
    | false => exact hchosen (mem_chosen.mpr ⟨e, he, hasked, rfl⟩)
    | true =>
      obtain ⟨m, hm, hlt, hfree'⟩ := hroom e he hasked
      exact hfree' (freeChannelId_least hfree hm hlt)

theorem Tracks.setConn (h : Tracks bound l w.self) (s : Handles σ) :
    Tracks bound l (w.setConn s).self :=
  ⟨⟨h.keys, h.registered, h.number, h.standing, h.old⟩, h.channel_max, h.next, h.channels, h.used,
    h.range⟩

/-- A `Channel` under a fresh number that the connection chose. -/
theorem Tracks.chose (h : Tracks bound l self) {n : Int}
    (hn : n ∉ self.channels.map Prod.fst) :
    Tracks bound (l.add n false) ((self.taken n).registered n) := by
  have hfiled : Filed (self.taken n) := ⟨h.keys, h.registered, h.number, h.standing, h.old⟩
  refine ⟨hfiled.opened hn, h.channel_max, congrArg (· + 1) h.next, ?_, ?_, fun e he hasked => ?_⟩
  · change self.channels.set n self.next_object = _
    rw [Dict.set_fresh _ _ _ hn, h.channels, h.next]
    simp [Ledger.add]
  · change self._used_channel_ids ++ [n] = _
    rw [h.used]
    simp [Ledger.chosen, Ledger.add]
  · rcases List.mem_append.mp he with he | he
    · exact h.range e he hasked
    · rw [List.mem_singleton.mp he] at hasked
      cases hasked

/-- A `Channel` under a fresh number that the application asked for. -/
theorem Tracks.asked (h : Tracks bound l self) {n : Int}
    (hn : n ∉ self.channels.map Prod.fst) (hrange : 1 ≤ n ∧ n ≤ bound) :
    Tracks bound (l.add n true) (self.registered n) := by
  refine ⟨h.toFiled.opened hn, h.channel_max, congrArg (· + 1) h.next, ?_, ?_, fun e he hasked => ?_⟩
  · change self.channels.set n self.next_object = _
    rw [Dict.set_fresh _ _ _ hn, h.channels, h.next]
    simp [Ledger.add]
  · change self._used_channel_ids = _
    rw [h.used]
    simp [Ledger.chosen, Ledger.add]
  · rcases List.mem_append.mp he with he | he
    · exact h.range e he hasked
    · rw [List.mem_singleton.mp he]
      exact hrange

/-- An entry has the number of a registered `Channel` exactly when it has its address. -/
theorem Tracks.number_iff (h : Tracks bound l self) {a : Nat} (ha : Registered self a)
    {e : Entry} (he : e ∈ l.opened) :
    e.number = (self.objects a).channel_id ↔ e.address = a := by
  have hmem : (e.number, e.address) ∈ self.channels := by
    rw [h.channels]
    exact List.mem_map_of_mem he
  constructor
  · intro hnumber
    have heq := List.inj_on_of_nodup_map h.keys hmem (mem_of_lookup_int ha) hnumber
    exact congrArg Prod.snd heq
  · intro haddress
    have hnumber := h.number _ hmem
    dsimp only at hnumber
    rw [← haddress, hnumber]

theorem Tracks.closed (h : Tracks bound l self) {a : Nat} (ha : Registered self a) :
    Tracks bound (l.remove a) ((self.marked a).forgotten (self.objects a).channel_id) := by
  have hdecide : ∀ e ∈ l.opened, (!decide (e.number = (self.objects a).channel_id)) =
      decide (e.address ≠ a) := by
    intro e he
    rw [decide_not, decide_eq_decide.mpr (h.number_iff ha he)]
  refine ⟨h.toFiled.closed ha, h.channel_max, h.next, ?_, ?_, fun e he => ?_⟩
  · change self.channels.pop (self.objects a).channel_id = _
    unfold Dict.pop Ledger.remove
    rw [h.channels, List.filter_map]
    exact congrArg _ (List.filter_congr hdecide)
  · have hnodup : l.chosen.Nodup := h.nodup.sublist (List.filter_sublist.map _)
    change self._used_channel_ids.erase (self.objects a).channel_id = _
    rw [h.used, hnodup.erase_eq_filter]
    unfold Ledger.chosen Ledger.remove
    rw [List.filter_map, List.filter_filter, List.filter_filter]
    refine congrArg _ (List.filter_congr fun e he => ?_)
    have hd := hdecide e he
    simp only [Function.comp, bne, beq_eq_decide] at hd ⊢
    rw [hd, Bool.and_comm]
  · exact h.range e (List.mem_filter.mp he).1

/-- A call that collides with nothing, and whose containers are those of the ledger behind it. -/
def StaysOnTrack (x : Client σ κ) (fuel : Nat) (bound : Int) (l : Ledger)
    (w : World (Handles σ) κ) (op : Op κ) : Prop :=
  NoCollision x fuel w op ∧ ∃ w', x.exec fuel op w = (.ret (), w') ∧ Ready w' ∧
    Tracks bound (l.call bound op) w'.self

theorem staysOnTrack_of_exec {fuel : Nat} {op : Op κ} {w' : World (Handles σ) κ}
    (hfresh : op = .channel none → ChoosesFresh w.self) (hrun : x.exec fuel op w = (.ret (), w'))
    (hready : Ready w') (htracks : Tracks bound (l.call bound op) w'.self)
    (hkept : ∀ channel_id, op = .channel channel_id → ∀ k b, w.self.channels.lookup k = some b →
      w'.self.channels.lookup k = some b) : StaysOnTrack x fuel bound l w op := by
  refine ⟨⟨hfresh, ?_, ?_⟩, w', hrun, hready, htracks⟩
  · rw [hrun]
    exact hkept
  · rw [hrun]
    exact htracks.toFiled.apart

theorem Tracks.step_chosen (hx : Accepts x.lib) (fuel : Nat) (hready : Ready w)
    (h : Tracks bound l w.self) (hroom : l.RoomBelow) :
    StaysOnTrack x (fuel + 2) bound l w (.channel none) := by
  have hfresh := h.choosesFresh_iff.mpr hroom
  have hfree_eq : freeChannelId w.self.channel_max w.self._used_channel_ids =
      freeChannelId bound l.chosen := by rw [h.channel_max, h.used]
  rcases channel_none_accepted hx hready fuel with ⟨e, hfull, hrun⟩ |
    ⟨n, w', s, hfree, hlt, hrun, hready', hself⟩
  · have hcall : l.call bound (.channel none : Op κ) = l := by
      rcases hfull with ⟨hnone, _⟩ | ⟨n, hfree, hle⟩
      · rw [hfree_eq] at hnone
        simp [Ledger.call, hnone]
      · rw [hfree_eq] at hfree
        simp only [Ledger.call, hfree]
        exact if_neg (Int.not_lt.mpr hle)
    refine staysOnTrack_of_exec (fun _ => hfresh) (called_ret hrun) hready ?_ fun _ _ _ _ hk => hk
    rw [hcall]
    exact h
  · have hn := hfresh n hfree
    have hcall : l.call bound (.channel none : Op κ) = l.add n false := by
      rw [hfree_eq] at hfree
      simp only [Ledger.call, hfree]
      exact if_pos hlt
    refine staysOnTrack_of_exec (fun _ => hfresh) (called_ret hrun) hready' ?_ fun _ _ k b hk => ?_
    · rw [hcall, hself]
      exact (h.setConn s).chose hn
    · rw [hself]
      exact (Dict.lookup_set_ne _ _ (lookup_fresh hn hk)).trans hk

theorem Tracks.step_asked (hx : Accepts x.lib) (fuel : Nat) (hready : Ready w)
    (h : Tracks bound l w.self) {n : Int} (hrange : 1 ≤ n ∧ n ≤ bound) :
    StaysOnTrack x (fuel + 2) bound l w (.channel (some n)) := by
  have hfresh : (.channel (some n) : Op κ) = .channel none → ChoosesFresh w.self :=
    fun hop => by cases hop
  rcases channel_some_cases x.env (fuel + 2) n w with ⟨a, hlookup, hrun⟩ | ⟨hlookup, hrun⟩
  · have hmem : n ∈ l.numbers := by
      rw [← h.keys_eq]
      exact List.mem_map_of_mem (mem_of_lookup_int hlookup)
    refine staysOnTrack_of_exec hfresh (called_ret hrun) hready ?_ fun _ _ _ _ hk => hk
    rw [Ledger.call, if_pos hmem]
    exact h
  · have hn := not_mem_of_lookup hlookup
    obtain ⟨w', s, hopen, hready', hself⟩ := open_accepted hx hready fuel n
    refine staysOnTrack_of_exec hfresh (called_ret (hrun.trans hopen)) hready' ?_
      fun _ _ k b hk => ?_
    · have hnot : n ∉ l.numbers := by
        rw [← h.keys_eq]
        exact hn
      rw [Ledger.call, if_neg hnot, hself]
      exact (h.setConn s).asked hn hrange
    · rw [hself]
      exact (Dict.lookup_set_ne _ _ (lookup_fresh hn hk)).trans hk

theorem Tracks.step_closed (hx : Accepts x.lib) (fuel : Nat) (hready : Ready w)
    (h : Tracks bound l w.self) {a : Nat} (ha : Registered w.self a) :
    StaysOnTrack x (fuel + 2) bound l w (.Channel_close a) := by
  obtain ⟨w', s, hrun, hready', hself⟩ := close_accepted hx hready (fuel + 1) a
  refine staysOnTrack_of_exec (fun hop => by cases hop) (called_ret hrun) hready' ?_
    fun _ hop => by cases hop
  rw [hself]
  exact (h.setConn s).closed ha

/-- One call, against the ledger of the calls before it. -/
theorem Tracks.step (hx : Accepts x.lib) (fuel : Nat) (hready : Ready w)
    (h : Tracks bound l w.self) {op : Op κ} (hop : OpensOrClosesAny w op)
    (hroom : op = .channel none → l.RoomBelow) : StaysOnTrack x (fuel + 2) bound l w op := by
  rcases hop with (rfl | ⟨a, rfl, ha⟩) | ⟨n, rfl, hrange⟩
  · exact h.step_chosen hx fuel hready (hroom rfl)
  · exact h.step_closed hx fuel hready ha
  · rw [h.channel_max] at hrange
    exact h.step_asked hx fuel hready hrange

/-- A row of calls, against the ledger of the calls before it. -/
theorem Tracks.run (hx : Accepts x.lib) (fuel : Nat) (ops : List (Op κ)) :
    ∀ {w : World (Handles σ) κ} {l : Ledger}, Ready w → Tracks bound l w.self →
      x.EachCall (fuel + 2) OpensOrClosesAny ops w →
      (x.EachCall (fuel + 2) (NoCollision x (fuel + 2)) ops w ↔ l.Harmless bound ops) := by
  induction ops with
  | nil => exact fun _ _ _ => Iff.rfl
  | cons op ops ih =>
    intro w l hready h hops
    constructor
    · rintro ⟨hcall, hrest⟩
      have hroom : op = .channel none → l.RoomBelow :=
        fun hnone => h.choosesFresh_iff.mp (hcall.fresh hnone)
      obtain ⟨_, w', hrun, hready', htracks⟩ := h.step hx fuel hready hops.1 hroom
      exact ⟨hroom, (ih hready' htracks (hops.2 w' hrun)).mp (hrest w' hrun)⟩
    · rintro ⟨hroom, hrest⟩
      obtain ⟨hcall, w', hrun, hready', htracks⟩ := h.step hx fuel hready hops.1 hroom
      refine ⟨hcall, fun w'' hrun' => ?_⟩
      rw [hrun] at hrun'
      cases hrun'
      exact (ih hready' htracks (hops.2 w' hrun)).mpr hrest

/-- For every row of opens, with and without a number, and of closes against a broker
that accepts them: the calls are free of collisions if and only if at each `channel()` of
the row there is, below every number that the application asked for and did not close, one
that no open `Channel` of `channel()` has. -/
theorem channels_collide_unless_a_smaller_number_is_free (x : Client σ κ) (hx : Accepts x.lib)
    (fuel : Nat) (w : World (Handles σ) κ) (hstart : Starts w) (ops : List (Op κ))
    (hops : x.EachCall (fuel + 2) OpensOrClosesAny ops w) :
    x.EachCall (fuel + 2) (NoCollision x (fuel + 2)) ops w ↔
      Ledger.Harmless w.self.channel_max ⟨[], w.self.next_object⟩ ops := by
  have htracks : Tracks w.self.channel_max ⟨[], w.self.next_object⟩ w.self :=
    ⟨hstart.files, rfl, rfl, hstart.channels, hstart.used, fun _ he => by cases he⟩
  exact htracks.run hx fuel ops hstart.toReady hops

/-- A channel under the number 2 is passed by while the number 1 is free, also behind a
close and another open. -/
theorem a_channel_is_passed_by :
    (Answers.client { channel_max := 3 }).EachCall 2
      (NoCollision (Answers.client { channel_max := 3 }) 2)
      [.channel (some 2), .channel none, .Channel_close 0, .channel none]
      ((Answers.client { channel_max := 3 }).exec 2 .connect (World.new ())).2 := by
  refine (channels_collide_unless_a_smaller_number_is_free _ (accepts_answers _ rfl rfl) 0 _
    ⟨⟨rfl, rfl⟩, rfl, rfl, rfl, fun _ => rfl⟩ _ ?_).mpr ?_
  · refine eachCall_cons (Or.inr ⟨2, rfl, by decide⟩) rfl ?_
    refine eachCall_cons (Or.inl (Or.inl rfl)) rfl ?_
    refine eachCall_cons (Or.inl (Or.inr ⟨0, rfl, rfl⟩)) rfl ?_
    exact eachCall_cons (Or.inl (Or.inl rfl)) rfl trivial
  · refine Ledger.harmless_cons (fun hop => by cases hop) ?_
    refine Ledger.harmless_cons (fun _ e he _ => ?_) ?_
    · cases List.mem_singleton.mp he
      exact ⟨1, by decide, by decide, List.not_mem_nil⟩
    refine Ledger.harmless_cons (fun hop => by cases hop) ?_
    refine Ledger.harmless_cons (fun _ e he hasked => ?_) trivial
    cases List.mem_singleton.mp he
    cases hasked

/-- The number of a channel that the application chose is chosen again. -/
theorem an_explicit_number_is_chosen_again :
    ¬ (Answers.client { channel_max := 3 }).EachCall 2
      (NoCollision (Answers.client { channel_max := 3 }) 2) [.channel (some 1), .channel none]
      ((Answers.client { channel_max := 3 }).exec 2 .connect (World.new ())).2 := by
  intro h
  have hfresh := (h.2 _ rfl).1.fresh rfl
  exact hfresh 1 rfl (List.mem_singleton_self _)

end librabbitmq.allocation
