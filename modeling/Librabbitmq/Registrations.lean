-- The registered channels and the connection that they were opened on. A connection
-- that is made again has none of them open, and keeps them registered all the same.
import Librabbitmq.Handshakes

namespace librabbitmq

/-! ## Calls on other channels -/

/-- The channel that a call is about. -/
def Event.channel : Event → Option amqp_channel_t
  | .amqp_login _ => some 0
  | .amqp_channel_open c _ | .amqp_channel_close c _ | .request c _ | .send c _
  | .amqp_send_close_ok c _ => some c
  | .wait (.ok frame) => some frame.channel
  | _ => none

theorem Event.Opens.channel {c : amqp_channel_t} {e : Event} (h : e.Opens c) :
    e.channel = some c := by
  obtain ⟨m, rfl⟩ := h
  rfl

theorem closes_channel {e : Event} {c : amqp_channel_t} (h : e.Closes = some c) :
    e.channel = some c := by
  have hreply : ∀ {reply : amqp_rpc_reply_t} {k : amqp_channel_t}, reply.Closes k = some c →
      k = c := by
    intro reply k hk
    unfold amqp_rpc_reply_t.Closes at hk
    split at hk
    · exact Option.some.inj hk
    · cases hk
  cases e with
  | amqp_login reply => exact congrArg some (hreply h)
  | amqp_channel_open k reply => exact congrArg some (hreply h)
  | amqp_channel_close k reply => exact congrArg some (hreply h)
  | request k reply => exact congrArg some (hreply h)
  | wait result =>
    cases result with
    | ok frame =>
      obtain ⟨k, payload⟩ := frame
      cases payload with
      | method m =>
        cases m with
        | channel_close m => exact h
        | _ => cases h
      | _ => cases h
    | _ => cases h
  | _ => cases h

theorem hears_elsewhere (s : Channels) {e : Event} {k : amqp_channel_t} (h : e.channel ≠ some k) :
    s.hears e k = s k := by
  cases he : e.Closes with
  | some c =>
    have hne : k ≠ c := by
      rintro rfl
      exact h (closes_channel he)
    rw [hears_closes s he, Channels.set_ne _ _ hne]
  | none =>
    have hset : ∀ {c state}, e.channel = some c → s.set c state k = s k := by
      intro c state hc
      apply Channels.set_ne
      rintro rfl
      exact h hc
    unfold Channels.hears
    rw [he]
    cases e with
    | amqp_channel_open c reply =>
      cases reply with
      | normal m => exact hset rfl
      | _ => rfl
    | amqp_channel_close c reply =>
      cases reply with
      | normal m => exact hset rfl
      | _ => rfl
    | amqp_send_close_ok c status =>
      dsimp only
      split
      · exact hset rfl
      · rfl
    | _ => rfl

/-- Calls on other channels leave a channel alone. -/
theorem heard_elsewhere {events : List Event} {k : amqp_channel_t}
    (h : ∀ e ∈ events, e.channel ≠ some k) : ∀ s, heard s events k = s k := by
  induction events with
  | nil => exact fun _ => rfl
  | cons e events ih =>
    intro s
    rw [heard_cons, ih (fun e he => h e (by simp [he])), hears_elsewhere s (h e (by simp))]

/-- A channel that comes to be open has been granted. -/
theorem opens_of_isOpen {events : List Event} {k : amqp_channel_t} :
    ∀ s, (heard s events k).isOpen = true → (s k).isOpen = true ∨ ∃ e ∈ events, e.Opens k := by
  induction events with
  | nil => exact fun _ h => Or.inl h
  | cons e events ih =>
    intro s h
    rw [heard_cons] at h
    rcases ih _ h with h | ⟨d, hd, hopens⟩
    · rcases isOpen_hears h with h | hopens
      · exact Or.inl h
      · exact Or.inr ⟨e, by simp, hopens⟩
    · exact Or.inr ⟨d, by simp [hd], hopens⟩

theorem closing_channel (connected : Bool) {e : Event} (he : e ∈ closing connected) :
    e.channel = none := by
  cases connected <;> simp [closing] at he
  rcases he with rfl | rfl <;> rfl

/-- The calls of a handler are on its channel and on channel 0. -/
theorem handled_channel {connected : Bool} {c : amqp_channel_t} {reply : amqp_rpc_reply_t}
    {events : List Event} {ending : Ending} (h : Handled connected c reply events ending) :
    ∀ e ∈ events, ∀ k, e.channel = some k → k = c ∨ k = 0 := by
  induction h with
  | cut => simp
  | normal => simp
  | failed _ =>
    intro e he k hk
    rw [closing_channel _ he] at hk
    cases hk
  | unsent _ =>
    refine List.forall_mem_cons.mpr ⟨by simp [Event.channel, eq_comm], fun e he k hk => ?_⟩
    rw [closing_channel _ he] at hk
    cases hk
  | sent _ => simp [Event.channel, eq_comm]
  | reopened _ _ ih =>
    refine List.forall_mem_cons.mpr ⟨by simp [Event.channel, eq_comm], ?_⟩
    refine List.forall_mem_cons.mpr ⟨by simp [Event.channel, eq_comm], fun e he k hk => ?_⟩
    exact Or.inr ((ih e he k hk).elim id id)

namespace registrations

variable {σ κ : Type} {x : Client σ κ} {w w' : World (Handles σ) κ}
  {self self' : Connection (Handles σ) κ}

/-! ## The tables and the channels at the broker -/

/-- The broker has granted an open of the channel on the handle of the connection. -/
def GrantedHere (self : Connection (Handles σ) κ) (c : amqp_channel_t) : Prop :=
  ∃ e ∈ eventsOf self.conn.log self.conn.current, e.Opens c

/-- The channel is open at the broker, and the broker has not asked to close it. -/
def OpenHere (self : Connection (Handles σ) κ) (c : amqp_channel_t) : Prop :=
  self.heard c = ⟨true, false⟩

theorem OpenHere.granted {c : amqp_channel_t} (h : OpenHere self c) : GrantedHere self c := by
  have hopen : (self.heard c).isOpen = true := by rw [h]
  rcases opens_of_isOpen .closed hopen with hclosed | hgranted
  · cases hclosed
  · exact hgranted

/-- The numbers are those of a channel, and every `Channel` is registered under its own. -/
structure Indexed (object : Connection (Handles σ) κ) : Prop where
  range : ∀ a < object.next_object,
    1 ≤ (object.objects a).channel_id ∧ (object.objects a).channel_id < 2 ^ 16
  filed : ∀ k a, object.channels.lookup k = some a →
    a < object.next_object ∧ (object.objects a).channel_id = k

/-- What was granted here and is registered is open. -/
structure Standing (object : Connection (Handles σ) κ) : Prop extends Indexed object where
  stands : object.connected = true → ∀ k a, object.channels.lookup k = some a →
    GrantedHere object (channelNumber k) → OpenHere object (channelNumber k)

theorem Indexed.key (h : Indexed self) {k : Int} {a : Nat}
    (hk : self.channels.lookup k = some a) : 1 ≤ k ∧ k < 2 ^ 16 := by
  obtain ⟨ha, rfl⟩ := h.filed k a hk
  exact h.range a ha

/-- Registered numbers are told apart by what a request carries, and none is 0. -/
theorem Indexed.number_ne (h : Indexed self) {k n : Int} {a : Nat}
    (hk : self.channels.lookup k = some a) (hn : 1 ≤ n ∧ n < 2 ^ 16) (hne : k ≠ n) :
    channelNumber k ≠ channelNumber n :=
  fun heq => hne (channelNumber_inj (h.key hk) hn heq)

theorem Indexed.number_ne_zero (h : Indexed self) {k : Int} {a : Nat}
    (hk : self.channels.lookup k = some a) : channelNumber k ≠ 0 := by
  intro hzero
  have hrange := h.key hk
  have hnat : (channelNumber k).toNat = k.toNat := channelNumber_toNat (by omega) hrange.2
  rw [hzero] at hnat
  have : (0 : amqp_channel_t).toNat = 0 := rfl
  omega

/-- Calls on the handle that leave a channel alone. -/
theorem openHere_note {events : List Event} {st : σ} {c : amqp_channel_t}
    (hconn : self'.conn = self.conn.note events st) (h : ∀ e ∈ events, e.channel ≠ some c) :
    (GrantedHere self' c ↔ GrantedHere self c) ∧ (OpenHere self' c ↔ OpenHere self c) := by
  constructor
  · unfold GrantedHere
    rw [hconn, Handles.note_log, Handles.note_current, eventsOf_note_self]
    simp only [List.mem_append]
    constructor
    · rintro ⟨e, he | he, hopens⟩
      · exact ⟨e, he, hopens⟩
      · exact absurd hopens.channel (h e he)
    · rintro ⟨e, he, hopens⟩
      exact ⟨e, Or.inl he, hopens⟩
  · unfold OpenHere
    rw [heard_note hconn, heard_elsewhere h]

/-- The tables stay, or lose a number, and the calls leave what stays alone. -/
theorem Standing.called {events : List Event} (h : Standing self) (hindexed : Indexed self')
    (hconn : ∃ st, self'.conn = self.conn.note events st)
    (hon : self'.connected = true → self.connected = true ∧
      ∀ k a, self'.channels.lookup k = some a → self.channels.lookup k = some a ∧
        ∀ e ∈ events, e.channel ≠ some (channelNumber k)) : Standing self' := by
  obtain ⟨st, hconn⟩ := hconn
  refine ⟨hindexed, fun hc k a hk hgranted => ?_⟩
  obtain ⟨hc', hkeys⟩ := hon hc
  obtain ⟨hk', helse⟩ := hkeys k a hk
  obtain ⟨hgranted_iff, hopen_iff⟩ := openHere_note hconn helse
  exact hopen_iff.mpr (h.stands hc' k a hk' (hgranted_iff.mp hgranted))

theorem handled_channelError {connected : Bool} {c : amqp_channel_t} {reply : amqp_rpc_reply_t}
    {events : List Event} (h : Handled connected c reply events .channelError) :
    ∃ m, reply = .server_exception (.channel_close m) := by
  generalize he : Ending.channelError = ending at h
  cases h with
  | reopened => exact ⟨_, rfl⟩
  | _ => cases he

theorem registered_lookup {n k : Int} {a : Nat}
    (h : (self.registered n).channels.lookup k = some a) :
    k = n ∧ a = self.next_object ∨ k ≠ n ∧ self.channels.lookup k = some a := by
  change (self.channels.set n self.next_object).lookup k = some a at h
  by_cases hk : k = n
  · subst hk
    rw [Dict.lookup_set_self] at h
    exact Or.inl ⟨rfl, (Option.some.inj h).symm⟩
  · rw [Dict.lookup_set_ne _ _ hk] at h
    exact Or.inr ⟨hk, h⟩

/-- A new `Channel` under a number of a channel. -/
theorem Indexed.registered (h : Indexed self) {n : Int} (hn : 1 ≤ n ∧ n < 2 ^ 16) :
    Indexed (self.registered n) := by
  have hnew : ((self.registered n).objects self.next_object).channel_id = n := by
    simp [Connection.registered]
  have hold : ∀ a < self.next_object, (self.registered n).objects a = self.objects a := by
    intro a ha
    simp [Connection.registered, Nat.ne_of_lt ha]
  refine ⟨fun a ha => ?_, fun k a hk => ?_⟩
  · rcases Nat.lt_succ_iff_lt_or_eq.mp ha with hlt | rfl
    · rw [hold a hlt]
      exact h.range a hlt
    · rw [hnew]
      exact hn
  · rcases registered_lookup hk with ⟨rfl, rfl⟩ | ⟨_, hk⟩
    · exact ⟨Nat.lt_succ_self _, hnew⟩
    · obtain ⟨ha, hid⟩ := h.filed k a hk
      exact ⟨Nat.lt_succ_of_lt ha, by rw [hold a ha, hid]⟩

/-- An open that is granted, and the `Channel` registered for it. -/
theorem Standing.opened (h : Standing self) (hc : self.connected = true) {n : Int}
    (hn : 1 ≤ n ∧ n < 2 ^ 16) {m : amqp_method_t} {st : σ} :
    Standing ((self.noted [.amqp_channel_open (channelNumber n) (.normal m)] st).registered n) := by
  have hconn : ((self.noted [.amqp_channel_open (channelNumber n) (.normal m)] st).registered
      n).conn = self.conn.note [.amqp_channel_open (channelNumber n) (.normal m)] st := rfl
  have hnoted : Indexed (self.noted [.amqp_channel_open (channelNumber n) (.normal m)] st) :=
    ⟨h.range, h.filed⟩
  refine ⟨hnoted.registered hn, fun _ k a hk hgranted => ?_⟩
  rcases registered_lookup hk with ⟨rfl, rfl⟩ | ⟨hne, hk⟩
  · unfold OpenHere
    rw [heard_note hconn]
    simp [Channels.hears, Event.Closes, amqp_rpc_reply_t.Closes]
  · have helse : ∀ e ∈ [Event.amqp_channel_open (channelNumber n) (.normal m)],
        e.channel ≠ some (channelNumber k) := by
      simpa [Event.channel] using (h.number_ne hk hn hne).symm
    obtain ⟨hgranted_iff, hopen_iff⟩ := openHere_note hconn helse
    exact hopen_iff.mpr (h.stands hc k a hk (hgranted_iff.mp hgranted))

/-- The connection behind an open of a number. The reply to the open of a number that is
registered already does not close the channel. -/
theorem Standing.opens (h : Standing w.self) (herr : w.err = none) {n : Int}
    (hn : 1 ≤ n ∧ n < 2 ^ 16)
    (hreply : w.self.connected = true → ∀ a, w.self.channels.lookup n = some a →
      ∀ m, (x.lib.amqp_channel_open w.self.conn.state (channelNumber n)).1 ≠
        .server_exception (.channel_close m))
    {r : Except PyErr Nat} (ho : Opens x w n (.ret r) self') : Standing self' := by
  cases ho with
  | offline => exact h
  | @raised events ending st e hc hh he hpending =>
    refine h.called ⟨h.range, h.filed⟩ ⟨st, rfl⟩ fun hon => ⟨hc, fun k a hk => ⟨hk, ?_⟩⟩
    have hending : ending = .channelError := by
      cases ending with
      | normal => exact absurd herr (hpending rfl)
      | channelError => rfl
      | closed => simp [Connection.after] at hon
      | hung => exact he.elim
    subst hending
    obtain ⟨m, hm⟩ := handled_channelError hh
    have hne : k ≠ n := by
      rintro rfl
      exact hreply hc a hk m hm
    refine List.forall_mem_cons.mpr ⟨?_, fun e he hchannel => ?_⟩
    · simpa [Event.channel] using (h.number_ne hk hn hne).symm
    · have hzero := handled_channel hh e he _ hchannel
      exact h.number_ne_zero hk (hzero.elim id id)
  | opened hc _ => exact h.opened hc hn

theorem Indexed.marked (h : Indexed self) (a : Nat) : Indexed (self.marked a) := by
  have hid : ∀ b, ((self.marked a).objects b).channel_id = (self.objects b).channel_id := by
    intro b
    by_cases hb : b = a
    · simp [Connection.marked, hb]
    · simp [Connection.marked, hb]
  refine ⟨fun b hb => ?_, fun k b hk => ?_⟩
  · rw [hid]
    exact h.range b hb
  · rw [hid]
    exact h.filed k b hk

theorem forgotten_lookup {n k : Int} {a : Nat}
    (h : (self.forgotten n).channels.lookup k = some a) :
    k ≠ n ∧ self.channels.lookup k = some a := by
  change (self.channels.pop n).lookup k = some a at h
  by_cases hk : k = n
  · subst hk
    rw [Dict.lookup_pop_self] at h
    cases h
  · rw [Dict.lookup_pop_ne _ hk] at h
    exact ⟨hk, h⟩

theorem Indexed.forgotten (h : Indexed self) (n : Int) : Indexed (self.forgotten n) :=
  ⟨h.range, fun k a hk => h.filed k a (forgotten_lookup hk).2⟩

/-- On a connection that is not there nothing has to be open. -/
theorem Indexed.offline (h : Indexed self) (hc : self.connected = false) : Standing self := by
  refine ⟨h, fun hon => ?_⟩
  rw [hc] at hon
  cases hon

/-- The connection behind a close of a `Channel`. -/
theorem Standing.shuts (h : Standing w.self) (herr : w.err = none) {a : Nat}
    (ha : a < w.self.next_object) {r : Except PyErr Unit} (hs : Shuts x w a (.ret r) self') :
    Standing self' := by
  have hn := h.range a ha
  have hshut : ∀ {reply events ending st}, Indexed (w.self.shut a reply events ending st) := by
    intro reply events ending st
    have hmarked := h.toIndexed.marked a
    exact ⟨hmarked.range, hmarked.filed⟩
  cases hs with
  | offline hc => exact (h.toIndexed.marked a).offline hc
  | @raised events ending st e hc hh he hpending hne =>
    apply hshut.offline
    cases ending with
    | normal => exact absurd herr (hpending rfl)
    | channelError => exact absurd rfl hne
    | closed => simp [Connection.shut, Connection.after]
    | hung => exact he.elim
  | @forgotten events ending st hc hh hending =>
    refine h.called (hshut.forgotten _) ⟨st, rfl⟩ fun _ => ⟨hc, fun k b hk => ?_⟩
    obtain ⟨hne, hk⟩ := forgotten_lookup hk
    have hk' : w.self.channels.lookup k = some b := hk
    have hnumber := (h.number_ne hk' hn hne).symm
    refine ⟨hk', List.forall_mem_cons.mpr ⟨?_, fun e he hchannel => ?_⟩⟩
    · simpa [Event.channel] using hnumber
    · rcases handled_channel hh e he _ hchannel with heq | hzero
      · exact hnumber heq.symm
      · exact h.number_ne_zero hk' hzero

/-- No open is granted on a handle before its login is. -/
theorem Standing.connects (h : Standing self) (halive : lifetimes.Alive self)
    (hc : self.connected = false) (hconnects : Connects self self') : Standing self' := by
  cases hconnects with
  | dialed => exact Indexed.offline ⟨h.range, h.filed⟩ hc
  | loggedIn =>
    refine ⟨⟨h.range, h.filed⟩, fun _ k a _ hgranted => ?_⟩
    obtain ⟨e, he, m, rfl⟩ := hgranted
    change _ ∈ eventsOf (Handles.note _ _ _).log (self.conn.made + 1) at he
    rw [eventsOf_renew halive] at he
    simp at he

/-- `Connection.close`. -/
theorem Connection_close_self (x : Client σ κ) (w : World (Handles σ) κ) :
    (Connection.close x.env w).2.self = (w.closed x.env).self := by
  unfold Connection.close
  rw [self_bind]
  · unfold fromPython
    rw [self_bind fun r => keepsSelf_checked r]
    rfl
  · intro r
    cases r with
    | ok _ => exact keepsSelf_pure _
    | error e =>
      dsimp only
      split <;> exact keepsSelf_pure _

theorem Standing.closed (h : Standing w.self) : Standing (w.closed x.env).self := by
  have hindexed : Indexed (w.closed x.env).self := by
    obtain ⟨st, hclosed⟩ := closed_self x w
    rw [hclosed]
    exact ⟨h.range, h.filed⟩
  exact hindexed.offline (World.closed_connected x.env w)

theorem Standing.connect (h : Standing w.self) (halive : lifetimes.Alive w.self)
    (init : ConnectionInit) (fuel : Nat) :
    Standing (Connection.connect x.env x.api.tracked init (fuel + 1) w).2.self := by
  have hself : (Connection.connect x.env x.api.tracked init (fuel + 1) w).2.self =
      (PyRabbitMQ_Connection_connect x.env x.api.tracked init (fuel + 1) w).2.self := by
    unfold Connection.connect fromPython
    rw [self_bind fun r => keepsSelf_checked r]
  rw [hself]
  rcases connect_connects x init fuel w with hsame | ⟨hc, hconnects⟩
  · rw [hsame]
    exact h
  · exact h.connects halive hc hconnects

theorem Standing.reconnect (h : Standing w.self) (halive : lifetimes.Alive w.self)
    (init : ConnectionInit) (fuel : Nat) :
    Standing (Connection.reconnect x.env x.api.tracked init (fuel + 1) w).2.self := by
  have hstanding := h.closed (x := x)
  have hacts : Acts True w.self (Connection.close x.env w).2.self := does_Connection_close.path w
  have hlives := halive.acts hacts
  rw [← Connection_close_self] at hstanding
  unfold Connection.reconnect
  rw [Run.bind_apply]
  generalize Connection.close x.env w = r at hstanding hlives
  obtain ⟨o, w1⟩ := r
  cases o with
  | ret r =>
    cases r with
    | ok _ => exact Standing.connect (x := x) hstanding hlives init fuel
    | error e => exact hstanding
  | crash => exact hstanding
  | hang => exact hstanding

/-! ## Programs -/

/-- The call loses the connection, and does nothing to the tables. -/
structure Loses (x : Client σ κ) (fuel : Nat) (w : World (Handles σ) κ) (op : Op κ) : Prop where
  connected : (x.exec fuel op w).2.self.connected = false
  channels : (x.exec fuel op w).2.self.channels = w.self.channels
  next_object : (x.exec fuel op w).2.self.next_object = w.self.next_object
  channel_id : ∀ a, ((x.exec fuel op w).2.self.objects a).channel_id =
    (w.self.objects a).channel_id

/-- The calls of the law: those of the life of a connection and of its channels, and
any other that loses the connection. -/
def InScope (x : Client σ κ) (fuel : Nat) (w : World (Handles σ) κ) : Op κ → Prop
  | .connect | .close | .reconnect | .channel _ => True
  | .Channel_close a => a < w.self.next_object
  | op => Loses x fuel w op

/-- A number that the program chooses is one of a channel; and where the connection
chooses one that is registered, the broker does not close the channel instead. -/
def Plain (x : Client σ κ) (w : World (Handles σ) κ) : Op κ → Prop
  | .channel (some n) => 1 ≤ n ∧ n < 2 ^ 16
  | .channel none => w.self.connected = true → ∀ n a,
      freeChannelId w.self.channel_max w.self._used_channel_ids = some n →
      w.self.channels.lookup n = some a → ∀ m,
        (x.lib.amqp_channel_open w.self.conn.state (channelNumber n)).1 ≠
          .server_exception (.channel_close m)
  | _ => True

/-- A number that is registered is asked for only where it was opened on this handle. -/
def AsksCurrent (w : World (Handles σ) κ) : Op κ → Prop
  | .channel (some n) => w.self.connected = true → ∀ a, w.self.channels.lookup n = some a →
      GrantedHere w.self (channelNumber n)
  | _ => True

/-- A channel that is given is open on this handle. -/
def GivesOpen (x : Client σ κ) (fuel : Nat) (w : World (Handles σ) κ) : Op κ → Prop
  | .channel channel_id => ∀ a w', Connection.channel x.env fuel channel_id w = (.ret (.ok a), w') →
      w'.self.connected = true → OpenHere w'.self (channelNumber (w'.self.objects a).channel_id)
  | _ => True

/-- What is known between two calls. -/
structure Between (w : World (Handles σ) κ) : Prop where
  standing : Standing w.self
  alive : lifetimes.Alive w.self
  err : w.err = none

theorem between_new (st : σ) (channel_max frame_max heartbeat : Int) :
    Between (World.new st channel_max frame_max heartbeat : World (Handles σ) κ) := by
  refine ⟨⟨⟨?_, ?_⟩, ?_⟩, lifetimes.alive_new st channel_max frame_max heartbeat, rfl⟩
  · intro a ha
    cases ha
  · intro k a hk
    cases hk
  · intro hc
    cases hc

theorem called_ret_inv {α : Type} {y : Run (World (Handles σ) κ) α}
    (h : called y w = (.ret (), w')) : ∃ a, y w = (.ret a, w') := by
  obtain ⟨a, w1, hy, hrest⟩ := Run.ret_of_bind h
  cases hrest
  exact ⟨a, hy⟩

theorem Between.channel (h : Between w) (fuel : Nat) {channel_id : Option Int}
    (hplain : Plain x w (.channel channel_id)) {r : Except PyErr Nat}
    (hrun : Connection.channel x.env (fuel + 1) channel_id w = (.ret r, w')) :
    Standing w'.self := by
  cases channel_id with
  | none =>
    rcases channel_none_cases x.env (fuel + 1) w with ⟨e, _, heq⟩ | ⟨n, hfree, hlt, heq⟩
    · rw [heq] at hrun
      cases hrun
      exact h.standing
    · have hopens := open_opens x fuel n { w with self := w.self.taken n }
      rw [← heq, hrun] at hopens
      have htaken : Standing (w.self.taken n) :=
        ⟨⟨h.standing.range, h.standing.filed⟩, h.standing.stands⟩
      exact Standing.opens (w := { w with self := w.self.taken n }) htaken h.err
        ⟨(freeChannelId_some hfree).1.1, hlt⟩ (fun hc a => hplain hc n a hfree) hopens
  | some n =>
    rcases channel_some_cases x.env (fuel + 1) n w with ⟨a, _, heq⟩ | ⟨hfresh, heq⟩
    · rw [heq] at hrun
      cases hrun
      exact h.standing
    · have hopens := open_opens x fuel n w
      rw [← heq, hrun] at hopens
      refine h.standing.opens h.err hplain (fun _ a ha => ?_) hopens
      rw [hfresh] at ha
      cases ha

/-- A call of the law. -/
theorem Between.exec {explicit : Prop} (hx : x.Behaves explicit) {fuel : Nat} {op : Op κ}
    (hexplicit : explicit) (h : Between w) (hscope : InScope x (fuel + 1) w op)
    (hplain : Plain x w op) (hrun : x.exec (fuel + 1) op w = (.ret (), w')) : Between w' := by
  have hself : (x.exec (fuel + 1) op w).2.self = w'.self := by rw [hrun]
  have hacts : Acts explicit w.self w'.self := by
    rw [← hself]
    exact (does_exec hx fuel op fun _ => hexplicit).path w
  refine ⟨?_, h.alive.acts hacts, exec_err x (fuel + 1) op w () w' h.err hrun⟩
  cases op with
  | connect =>
    obtain ⟨r, hr⟩ := called_ret_inv hrun
    have hstanding := h.standing.connect (x := x) h.alive x.init fuel
    rwa [hr] at hstanding
  | close =>
    obtain ⟨r, hr⟩ := called_ret_inv hrun
    have hstanding := h.standing.closed (x := x)
    rwa [← Connection_close_self, hr] at hstanding
  | reconnect =>
    obtain ⟨r, hr⟩ := called_ret_inv hrun
    have hstanding := h.standing.reconnect (x := x) h.alive x.init fuel
    rwa [hr] at hstanding
  | channel channel_id =>
    obtain ⟨r, hr⟩ := called_ret_inv hrun
    exact h.channel fuel hplain hr
  | Channel_close a =>
    obtain ⟨r, hr⟩ := called_ret_inv hrun
    have hshuts := close_shuts x (fuel + 1) a w
    rw [hr] at hshuts
    exact h.standing.shuts h.err hscope hshuts
  | _ =>
    have hloses : Loses x (fuel + 1) w _ := hscope
    obtain ⟨hc, hchannels, hnext, hid⟩ := hloses
    rw [hself] at hc hchannels hnext hid
    have hindexed : Indexed w'.self := by
      constructor
      · rw [hnext]
        intro a ha
        rw [hid]
        exact h.standing.range a ha
      · rw [hchannels, hnext]
        intro k a hk
        rw [hid]
        exact h.standing.filed k a hk
    exact hindexed.offline hc

theorem Opens.gives {n : Int} {a : Nat} (h : Opens x w n (.ret (.ok a)) self') :
    OpenHere self' (channelNumber (self'.objects a).channel_id) := by
  cases h with
  | @opened m st hc hm =>
    have hid : (((w.self.noted [.amqp_channel_open (channelNumber n) (.normal m)] st).registered
        n).objects w.self.next_object).channel_id = n := by
      simp [Connection.registered, Connection.noted]
    have hconn : ((w.self.noted [.amqp_channel_open (channelNumber n) (.normal m)] st).registered
        n).conn = w.self.conn.note [.amqp_channel_open (channelNumber n) (.normal m)] st := rfl
    unfold OpenHere
    rw [hid, heard_note hconn]
    simp [Channels.hears, Event.Closes, amqp_rpc_reply_t.Closes]

theorem Between.gives_iff (h : Between w) (fuel : Nat) (op : Op κ) :
    GivesOpen x (fuel + 1) w op ↔ AsksCurrent w op := by
  cases op with
  | channel channel_id =>
    cases channel_id with
    | none =>
      refine ⟨fun _ => trivial, fun _ a w' hrun _ => ?_⟩
      rcases channel_none_cases x.env (fuel + 1) w with ⟨e, _, heq⟩ | ⟨n, _, _, heq⟩
      · rw [heq] at hrun
        cases hrun
      · have hopens := open_opens x fuel n { w with self := w.self.taken n }
        rw [← heq, hrun] at hopens
        exact Opens.gives hopens
    | some n =>
      rcases channel_some_cases x.env (fuel + 1) n w with ⟨a, hlookup, heq⟩ | ⟨hfresh, heq⟩
      · obtain ⟨_, hid⟩ := h.standing.filed n a hlookup
        constructor
        · intro hgives hc b _
          have hopen := hgives a w heq hc
          rw [hid] at hopen
          exact hopen.granted
        · intro hasks b w' hrun hc
          rw [heq] at hrun
          cases hrun
          rw [hid]
          exact h.standing.stands hc n a hlookup (hasks hc a hlookup)
      · constructor
        · intro _ _ b hb
          rw [hfresh] at hb
          cases hb
        · intro _ b w' hrun _
          have hopens := open_opens x fuel n w
          rw [← heq, hrun] at hopens
          exact Opens.gives hopens
  | _ => exact ⟨fun _ => trivial, fun _ => trivial⟩

/-- In every run of connects, closes, reconnects, channels and losses, where the numbers
are plain: every channel that is given is open on the handle of the connection if and
only if no number is asked for that was registered on an earlier handle. -/
theorem channels_given_are_open_exactly_when_they_are_of_this_handle (x : Client σ κ)
    (app : Application σ κ) (fuel depth : Nat) (ops : List (Op κ)) (st : σ)
    (channel_max frame_max heartbeat : Int)
    (hops : (x.running app (fuel + 1) depth).EachCall (fuel + 1) (fun w op =>
      InScope (x.running app (fuel + 1) depth) (fuel + 1) w op ∧
        Plain (x.running app (fuel + 1) depth) w op) ops
      (World.new st channel_max frame_max heartbeat)) :
    (x.running app (fuel + 1) depth).EachCall (fuel + 1)
        (GivesOpen (x.running app (fuel + 1) depth) (fuel + 1)) ops
        (World.new st channel_max frame_max heartbeat) ↔
      (x.running app (fuel + 1) depth).EachCall (fuel + 1) AsksCurrent ops
        (World.new st channel_max frame_max heartbeat) := by
  have hbehaves : (x.running app (fuel + 1) depth).Behaves True :=
    running_behaves x (fun _ _ _ _ _ _ => trivial) fuel depth
  generalize x.running app (fuel + 1) depth = x' at hops hbehaves
  have hnew : Between (World.new st channel_max frame_max heartbeat : World (Handles σ) κ) :=
    between_new st channel_max frame_max heartbeat
  have hall : x'.EachCall (fuel + 1) (fun w op => GivesOpen x' (fuel + 1) w op ↔ AsksCurrent w op)
      ops (World.new st channel_max frame_max heartbeat) :=
    eachCall_of_invariant (fun _ _ _ h hop hrun => h.exec hbehaves trivial hop.1 hop.2 hrun)
      (fun _ op h _ => h.gives_iff fuel op) hnew hops
  constructor
  · intro hgives
    exact eachCall_of_invariant (I := fun _ => True) (fun _ _ _ _ _ _ => trivial)
      (fun _ _ _ h => h.1.mp h.2) trivial (hall.and hgives)
  · intro hasks
    exact eachCall_of_invariant (I := fun _ => True) (fun _ _ _ _ _ _ => trivial)
      (fun _ _ _ h => h.1.mpr h.2) trivial (hall.and hasks)

/-- A number that is asked for twice on one connection. -/
theorem a_registered_channel_is_given_again :
    ((Answers.client { channel_max := 1 }).running .idle 2 0).EachCall 2
      (GivesOpen ((Answers.client { channel_max := 1 }).running .idle 2 0) 2)
      [.connect, .channel (some 1), .channel (some 1)] (World.new ()) := by
  refine (channels_given_are_open_exactly_when_they_are_of_this_handle _ .idle 1 0 _ () _ _ _
    ?_).mpr ?_
  · refine eachCall_cons ⟨trivial, trivial⟩ rfl ?_
    have hone : (1 : Int) ≤ 1 ∧ (1 : Int) < 2 ^ 16 := by decide
    refine eachCall_cons ⟨trivial, hone⟩ rfl ?_
    exact eachCall_cons ⟨trivial, hone⟩ rfl trivial
  · refine eachCall_cons trivial rfl ?_
    refine eachCall_cons (fun _ a ha => by cases ha) rfl ?_
    refine eachCall_cons (fun _ a ha => ?_) rfl trivial
    exact ⟨_, List.mem_of_getElem? (i := 6) rfl, _, rfl⟩

/-- A connection that is made again gives the channel of the one before. -/
theorem a_channel_of_an_earlier_connection_is_given :
    ¬ ((Answers.client { channel_max := 1 }).running .idle 2 0).EachCall 2
      (GivesOpen ((Answers.client { channel_max := 1 }).running .idle 2 0) 2)
      [.connect, .channel (some 1), .close, .connect, .channel (some 1)] (World.new ()) := by
  intro h
  have hopen := ((((h.2 _ rfl).2 _ rfl).2 _ rfl).2 _ rfl).1 0 _ rfl rfl
  revert hopen
  unfold OpenHere
  decide +kernel

end registrations

end librabbitmq
