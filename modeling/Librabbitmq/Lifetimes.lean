-- The lifetimes of the handles: what is asked of a handle ends with its destruction,
-- and what a closed connection still holds is what a failed `connect` left behind.
import Librabbitmq.Programs

namespace librabbitmq.lifetimes

open Relation

variable {σ κ : Type} {explicit : Prop} {self self' : Connection (Handles σ) κ}

/-! ## One act, on the log -/

/-- Nothing comes behind a destruction. -/
def DestroysLast (events : List Event) : Prop := events.Pairwise fun e _ => e.IsDestroy = false

/-- None of the calls destroys the handle. -/
def Spares (events : List Event) : Prop := ∀ e ∈ events, e.IsDestroy = false

theorem Spares.last {events : List Event} (h : Spares events) : DestroysLast events :=
  List.pairwise_of_forall_mem_list fun e he _ _ => h e he

theorem DestroysLast.cons {e : Event} {events : List Event} (h : DestroysLast events)
    (he : e.IsDestroy = false) : DestroysLast (e :: events) :=
  List.pairwise_cons.mpr ⟨fun _ _ => he, h⟩

theorem Spares.cons {e : Event} {events : List Event} (h : Spares events)
    (he : e.IsDestroy = false) : Spares (e :: events) :=
  List.forall_mem_cons.mpr ⟨he, h⟩

/-- The calls that only `connect` makes. -/
def IsDial : Event → Bool
  | .amqp_new_connection | .amqp_socket_get_sockfd _ | .amqp_login _ => true
  | _ => false

/-- How the calls of a handler treat the handle. -/
structure Treats (connected : Bool) (events : List Event) (ending : Ending) : Prop where
  undialed : ∀ e ∈ events, IsDial e = false
  last : DestroysLast events
  spares : ending ≠ .closed ∨ connected = false → Spares events
  destroys : ending = .closed → connected = true → ∃ e ∈ events, e.IsDestroy = true

theorem treats_closing (connected : Bool) : Treats connected (closing connected) .closed := by
  cases connected with
  | true => exact ⟨by simp [closing, IsDial], by simp [DestroysLast, closing, Event.IsDestroy],
      by simp, fun _ _ => ⟨.amqp_destroy_connection, by simp [closing], rfl⟩⟩
  | false => exact ⟨by simp [closing], by simp [DestroysLast, closing],
      fun _ => by simp [Spares, closing], by simp⟩

theorem treats_nothing {connected : Bool} {ending : Ending} (h : ending ≠ .closed) :
    Treats connected [] ending :=
  ⟨by simp, List.Pairwise.nil, fun _ => by simp [Spares], fun he => absurd he h⟩

theorem Treats.cons {connected : Bool} {e : Event} {events : List Event} {ending : Ending}
    (h : Treats connected events ending) (he : e.IsDestroy = false) (hdial : IsDial e = false) :
    Treats connected (e :: events) ending := by
  refine ⟨List.forall_mem_cons.mpr ⟨hdial, h.undialed⟩, h.last.cons he,
    fun hs => (h.spares hs).cons he, fun hc hon => ?_⟩
  obtain ⟨d, hd, hdestroy⟩ := h.destroys hc hon
  exact ⟨d, by simp [hd], hdestroy⟩

theorem Treats.raised {connected : Bool} {events : List Event} {ending : Ending}
    (h : Treats connected events ending) : Treats connected events ending.raised := by
  cases ending with
  | normal => exact ⟨h.undialed, h.last, fun _ => h.spares (Or.inl (by simp)), fun he => by cases he⟩
  | channelError => exact h
  | closed => exact h
  | hung => exact h

theorem handled_treats {connected : Bool} {c : amqp_channel_t} {reply : amqp_rpc_reply_t}
    {events : List Event} {ending : Ending} (h : Handled connected c reply events ending) :
    Treats connected events ending := by
  induction h with
  | cut => exact treats_nothing (by simp)
  | normal => exact treats_nothing (by simp)
  | failed _ => exact treats_closing connected
  | unsent _ => exact (treats_closing connected).cons rfl rfl
  | sent _ => exact (treats_nothing (by simp)).cons rfl rfl
  | reopened _ _ ih => exact ((ih.cons rfl rfl).cons rfl rfl).raised

theorem revived_treats {connected : Bool} {c : amqp_channel_t} {events : List Event}
    {ending : Ending} (h : Revived connected c events ending) :
    Treats connected events ending := by
  cases h with
  | cut => exact treats_nothing (by simp)
  | unsent _ => exact (treats_closing connected).cons rfl rfl
  | sent _ => exact (treats_nothing (by simp)).cons rfl rfl
  | reopened _ hh => exact ((handled_treats hh).cons rfl rfl).cons rfl rfl

theorem follows_treats {e : Event} {events : List Event} {ending : Ending}
    (h : Follows e events ending) : Treats true events ending := by
  cases h with
  | request hh => exact handled_treats hh
  | opened hh => exact handled_treats hh
  | closed hh => exact handled_treats hh
  | unsent _ hr => exact revived_treats hr
  | met hr => exact revived_treats hr

/-- What an act does that is no `connect`: some calls on the handle, after which the
connection is there, or closed with its handle destroyed. -/
structure Grows (before after : Connection (Handles σ) κ) (events : List Event) : Prop where
  conn : ∃ st, after.conn = before.conn.note events st
  undialed : ∀ e ∈ events, IsDial e = false
  last : DestroysLast events
  online : before.connected = false → events = [] ∧ after.connected = false
  spares : after.connected = true → Spares events
  destroys : before.connected = true → after.connected = false →
    (∃ e ∈ events, e.IsDestroy = true) ∧ after.sockfd = 0
  sockfd : after.connected = before.connected → after.sockfd = before.sockfd

theorem grows_nothing (hconn : ∃ st, self'.conn = self.conn.note [] st)
    (hconnected : self'.connected = self.connected) (hsockfd : self'.sockfd = self.sockfd) :
    Grows self self' [] where
  conn := hconn
  undialed := by simp
  last := List.Pairwise.nil
  online h := ⟨rfl, by rw [hconnected, h]⟩
  spares _ := by simp [Spares]
  destroys h h' := by
    rw [hconnected, h] at h'
    cases h'
  sockfd _ := hsockfd

/-- The calls that end a method one way or the other. -/
theorem grows_after {events : List Event} {ending : Ending} {st : σ}
    (hc : self.connected = true) (h : Treats true events ending)
    (hconn : self'.conn = self.conn.note events st)
    (hconnected : self'.connected = !decide (ending = .closed))
    (hsockfd : self'.sockfd = if ending = .closed then 0 else self.sockfd) :
    Grows self self' events where
  conn := ⟨st, hconn⟩
  undialed := h.undialed
  last := h.last
  online hoff := by
    rw [hc] at hoff
    cases hoff
  spares hon := by
    apply h.spares
    left
    simpa [hconnected] using hon
  destroys _ hoff := by
    have hending : ending = .closed := by simpa [hconnected] using hoff
    exact ⟨h.destroys hending rfl, by rw [hsockfd, if_pos hending]⟩
  sockfd hsame := by
    have hending : ending ≠ .closed := by simpa [hconnected, hc] using hsame
    rw [hsockfd, if_neg hending]

/-- The calls of a `connect` on its handle. -/
theorem dials_spares {before sockfd : Int} {events : List Event} {connected : Bool}
    (h : Dials before events sockfd connected) : Spares events := by
  cases h with
  | begun _ => simp [Spares, List.mem_replicate, Event.IsDestroy]
  | socket => simp [Spares, Event.IsDestroy]
  | refused _ hh =>
    have hspares := (handled_treats hh).spares (Or.inr rfl)
    simpa [Spares, Event.IsDestroy] using hspares
  | loggedIn => simp [Spares, Event.IsDestroy]

/-- Every act, seen from the log. -/
theorem act_cases (h : Act explicit self self') : (∃ events, Grows self self' events) ∨
    ∃ events sockfd st st', self.connected = false ∧
      Dials self.sockfd events sockfd self'.connected ∧ self'.sockfd = sockfd ∧
      self'.conn = (self.conn.renew st).note events st' := by
  cases h with
  | @noted e st hc hplain =>
    left
    refine ⟨[e], ?_⟩
    have htreats : Treats true [e] .normal := by
      apply (treats_nothing (by simp)).cons
      · cases e <;> first | rfl | exact hplain.elim
      · cases e <;> first | rfl | exact hplain.elim
    exact grows_after hc htreats rfl (by simp [Connection.noted, hc]) rfl
  | moved => exact Or.inl ⟨[], grows_nothing ⟨_, rfl⟩ rfl rfl⟩
  | @handled e events ending st hc _ hfollows =>
    left
    refine ⟨events, grows_after hc (follows_treats hfollows) rfl ?_ ?_⟩
    · simp [Connection.after, hc]
    · simp [Connection.after, hc]
  | @closed st hc =>
    left
    refine ⟨_, grows_after hc (treats_closing true) rfl ?_ ?_⟩
    · simp [Connection.after, hc]
    · simp [Connection.after, hc]
  | @dialed events sockfd connected st st' hc hdials =>
    exact Or.inr ⟨events, sockfd, st, st', hc, hdials, rfl, rfl⟩
  | taken _ _ => exact Or.inl ⟨[], grows_nothing ⟨self.conn.state, by simp⟩ rfl rfl⟩
  | @opened channel_id reply st hc _ _ =>
    left
    have htreats : Treats true [] .normal := treats_nothing (by simp)
    refine ⟨[_], grows_after hc (htreats.cons rfl rfl) rfl ?_ rfl⟩
    simp [Connection.noted, hc]
  | @removed channel_id reply events ending st hc hh _ =>
    left
    refine ⟨_, grows_after hc ((handled_treats hh).cons rfl rfl) rfl ?_ ?_⟩
    · simp [Connection.after, hc]
    · simp [Connection.after, hc]
  | books hsame =>
    left
    refine ⟨[], grows_nothing ⟨self.conn.state, ?_⟩ hsame.connected hsame.sockfd⟩
    rw [hsame.conn]
    simp

/-! ## What a log says of a handle -/

/-- The log has such a call on the handle. -/
def Has (p : Event → Prop) (log : List LibCall) (handle : Nat) : Prop :=
  ∃ c ∈ log, c.handle = handle ∧ p c.event

/-- `amqp_new_connection` returned the handle. -/
def Made : List LibCall → Nat → Prop := Has fun e => e = .amqp_new_connection

def Destroyed : List LibCall → Nat → Prop := Has fun e => e.IsDestroy = true

/-- A login on the handle was granted. -/
def LoggedIn : List LibCall → Nat → Prop := Has fun e => ∃ m, e = .amqp_login (.normal m)

/-- The handle has a socket of this descriptor. -/
def HasSocket (sockfd : Int) : List LibCall → Nat → Prop :=
  Has fun e => e = .amqp_socket_get_sockfd sockfd

theorem has_append (p : Event → Prop) (log : List LibCall) (events : List Event) (k h : Nat) :
    Has p (log ++ events.map fun e => ⟨k, e⟩) h ↔ Has p log h ∨ k = h ∧ ∃ e ∈ events, p e := by
  simp only [Has, List.mem_append, List.mem_map]
  constructor
  · rintro ⟨c, hc | ⟨e, he, rfl⟩, hh, hp⟩
    · exact Or.inl ⟨c, hc, hh, hp⟩
    · exact Or.inr ⟨hh, e, he, hp⟩
  · rintro (⟨c, hc, hh, hp⟩ | ⟨hh, e, he, hp⟩)
    · exact ⟨c, Or.inl hc, hh, hp⟩
    · exact ⟨⟨k, e⟩, Or.inr ⟨e, he, rfl⟩, hh, hp⟩

/-- No call of the log has a handle that was destroyed before. -/
def Sound (log : List LibCall) : Prop :=
  log.Pairwise fun c d => c.event.IsDestroy = true → c.handle ≠ d.handle

/-- Calls on a handle that is not destroyed, a destruction at most the last. -/
theorem sound_append {log : List LibCall} {events : List Event} {k : Nat} (hs : Sound log)
    (hk : ¬ Destroyed log k) (hlast : DestroysLast events) :
    Sound (log ++ events.map fun e => ⟨k, e⟩) := by
  unfold Sound
  rw [List.pairwise_append]
  refine ⟨hs, ?_, ?_⟩
  · rw [List.pairwise_map]
    refine hlast.imp fun h hd => ?_
    rw [h] at hd
    cases hd
  · intro c hc d hd hdestroy hh
    simp only [List.mem_map] at hd
    obtain ⟨e, _, rfl⟩ := hd
    exact hk ⟨c, hc, hh, hdestroy⟩

/-- How often a handle is destroyed. -/
def destructions (log : List LibCall) (handle : Nat) : Nat :=
  log.countP fun c => decide (c.handle = handle) && c.event.IsDestroy

theorem Sound.destroyed_once {log : List LibCall} (h : Sound log) (handle : Nat) :
    destructions log handle ≤ 1 := by
  unfold destructions
  induction log with
  | nil => simp
  | cons c log ih =>
    obtain ⟨hc, hlog⟩ := List.pairwise_cons.mp h
    rw [List.countP_cons]
    by_cases hd : (decide (c.handle = handle) && c.event.IsDestroy) = true
    · have hnone : log.countP (fun c => decide (c.handle = handle) && c.event.IsDestroy) = 0 := by
        rw [List.countP_eq_zero]
        intro d hd'
        simp only [Bool.and_eq_true, decide_eq_true_eq] at hd ⊢
        rintro ⟨hh, _⟩
        exact hc d hd' hd.2 (by rw [hd.1, hh])
      rw [if_pos hd, hnone]
    · rw [if_neg hd]
      exact ih hlog

/-! ## Handles that are used -/

/-- The handle of a connection that is there is not destroyed. -/
structure Alive (object : Connection (Handles σ) κ) : Prop where
  sound : Sound object.conn.log
  made : ∀ c ∈ object.conn.log, c.handle ≤ object.conn.made
  current : object.conn.current ≤ object.conn.made
  alive : object.connected = true → ¬ Destroyed object.conn.log object.conn.current

theorem alive_new (st : σ) (channel_max frame_max heartbeat : Int) :
    Alive (World.new st channel_max frame_max heartbeat : World (Handles σ) κ).self := by
  refine ⟨List.Pairwise.nil, ?_, Nat.le_refl 0, ?_⟩
  · intro c hc
    cases hc
  · intro hc
    cases hc

/-- A new handle has no calls yet. -/
theorem Alive.fresh (h : Alive self) (p : Event → Prop) : ¬ Has p self.conn.log (self.conn.made + 1) := by
  rintro ⟨c, hc, hh, _⟩
  have := h.made c hc
  omega

theorem renew_note_log (s : Handles σ) (events : List Event) (st st' : σ) :
    ((s.renew st).note events st').log =
      s.log ++ (.amqp_new_connection :: events).map fun e => ⟨s.made + 1, e⟩ := by
  simp [Handles.note_log, Handles.renew]

theorem Alive.grows {events : List Event} (h : Alive self) (hg : Grows self self' events) :
    Alive self' := by
  obtain ⟨st, hconn⟩ := hg.conn
  have hlog : self'.conn.log = self.conn.log ++ events.map fun e => ⟨self.conn.current, e⟩ := by
    rw [hconn, Handles.note_log]
  have hcurrent : self'.conn.current = self.conn.current := by rw [hconn, Handles.note_current]
  have hmade : self'.conn.made = self.conn.made := by rw [hconn, Handles.note_made]
  constructor
  · rw [hlog]
    cases hc : self.connected with
    | true => exact sound_append h.sound (h.alive hc) hg.last
    | false =>
      rw [(hg.online hc).1]
      simpa using h.sound
  · intro c hmem
    rw [hlog, List.mem_append, List.mem_map] at hmem
    rw [hmade]
    rcases hmem with hmem | ⟨e, _, rfl⟩
    · exact h.made c hmem
    · exact h.current
  · rw [hcurrent, hmade]
    exact h.current
  · intro hc
    have hc' : self.connected = true := by
      by_contra hoff
      rw [(hg.online (by simpa using hoff)).2] at hc
      cases hc
    unfold Destroyed
    rw [hlog, hcurrent, has_append]
    rintro (hd | ⟨_, e, he, hd⟩)
    · exact h.alive hc' hd
    · rw [hg.spares hc e he] at hd
      cases hd

theorem Alive.dials {events : List Event} {before sockfd : Int} {connected : Bool} {st st' : σ}
    (h : Alive self) (hd : Dials before events sockfd connected)
    (hconn : self'.conn = (self.conn.renew st).note events st') : Alive self' := by
  have hspares : Spares (.amqp_new_connection :: events) := (dials_spares hd).cons rfl
  have hmade : self'.conn.made = self.conn.made + 1 := by rw [hconn]; rfl
  have hcurrent : self'.conn.current = self.conn.made + 1 := by rw [hconn]; rfl
  constructor
  · rw [hconn, renew_note_log]
    exact sound_append h.sound (h.fresh _) hspares.last
  · intro c hmem
    rw [hconn, renew_note_log, List.mem_append, List.mem_map] at hmem
    rw [hmade]
    rcases hmem with hmem | ⟨e, _, rfl⟩
    · exact Nat.le_succ_of_le (h.made c hmem)
    · exact Nat.le_refl _
  · rw [hmade, hcurrent]
  · intro _
    unfold Destroyed
    rw [hcurrent, hconn, renew_note_log, has_append]
    rintro (hd | ⟨_, e, he, hd⟩)
    · exact h.fresh _ hd
    · rw [hspares e he] at hd
      cases hd

theorem Alive.act (h : Alive self) (hact : Act explicit self self') : Alive self' := by
  rcases act_cases hact with ⟨events, hg⟩ | ⟨events, sockfd, st, st', _, hd, _, hconn⟩
  · exact h.grows hg
  · exact h.dials hd hconn

theorem Alive.acts (h : Alive self) (hacts : Acts explicit self self') : Alive self' := by
  induction hacts with
  | refl => exact h
  | tail _ hact ih => exact ih.act hact

/-- Whatever a program calls, in whatever order, its callbacks included, and however
the library answers: no call has a handle that was destroyed before, and no handle
is destroyed twice. -/
theorem no_handle_is_used_after_its_destruction (x : Client σ κ) (app : Application σ κ)
    (fuel depth : Nat) (ops : List (Op κ)) (st : σ) (channel_max frame_max heartbeat : Int) :
    Sound (x.runs app (fuel + 1) depth ops
      (World.new st channel_max frame_max heartbeat)).2.self.conn.log ∧
    ∀ handle, destructions (x.runs app (fuel + 1) depth ops
      (World.new st channel_max frame_max heartbeat)).2.self.conn.log handle ≤ 1 := by
  have halive := (alive_new st channel_max frame_max heartbeat).acts
    (runs_acts_any x app fuel depth ops (World.new st channel_max frame_max heartbeat))
  exact ⟨halive.sound, halive.sound.destroyed_once⟩

/-! ## What a closed connection holds -/

/-- Of the handles that were made, a closed connection has destroyed every one, and
its `fileno()` raises; a connection that is there has one that is not destroyed, whose
socket it knows. -/
def HoldsItsOwn (self : Connection (Handles σ) κ) : Prop :=
  (self.connected = false → self.sockfd = 0 ∧
    (PyRabbitMQ_Connection_fileno (World.inside self)).1 = .ret none ∧
    ∀ h, Made self.conn.log h → Destroyed self.conn.log h) ∧
  (self.connected = true → ∃ h, Made self.conn.log h ∧ ¬ Destroyed self.conn.log h ∧
    HasSocket self.sockfd self.conn.log h ∧
    ∀ h', Made self.conn.log h' → ¬ Destroyed self.conn.log h' → h' = h)

/-- Every `connect` that made a handle had its login granted. -/
def AllLoggedIn (log : List LibCall) : Prop := ∀ h, Made log h → LoggedIn log h

theorem fileno_none {w : World σ κ} (h : w.self.sockfd = 0) :
    (PyRabbitMQ_Connection_fileno w).1 = .ret none := by
  unfold PyRabbitMQ_Connection_fileno
  rw [Run.get_bind_apply, h]
  rfl

/-- What is known of the handles of a connection. A handle whose login was not granted
is never destroyed. -/
structure Kept (object : Connection (Handles σ) κ) : Prop where
  alive : Alive object
  released : ∀ h, Made object.conn.log h → LoggedIn object.conn.log h →
    Destroyed object.conn.log h ∨ object.connected = true ∧ h = object.conn.current
  leaked : ∀ h, Destroyed object.conn.log h → LoggedIn object.conn.log h
  online : object.connected = true → Made object.conn.log object.conn.current ∧
    LoggedIn object.conn.log object.conn.current ∧
    HasSocket object.sockfd object.conn.log object.conn.current
  offline : AllLoggedIn object.conn.log → object.connected = false → object.sockfd = 0

theorem Kept.holds_iff (h : Kept self) : HoldsItsOwn self ↔ AllLoggedIn self.conn.log := by
  constructor
  · rintro ⟨hoff, hon⟩ k hk
    cases hc : self.connected with
    | false => exact h.leaked k ((hoff hc).2.2 k hk)
    | true =>
      by_cases hd : Destroyed self.conn.log k
      · exact h.leaked k hd
      · obtain ⟨j, _, _, _, huniq⟩ := hon hc
        obtain ⟨hmade, hlogged, _⟩ := h.online hc
        rw [huniq k hk hd, ← huniq self.conn.current hmade (h.alive.alive hc)]
        exact hlogged
  · intro hall
    refine ⟨fun hc => ?_, fun hc => ?_⟩
    · have hsockfd := h.offline hall hc
      refine ⟨hsockfd, fileno_none hsockfd, fun k hk => ?_⟩
      rcases h.released k hk (hall k hk) with hd | ⟨hon, _⟩
      · exact hd
      · rw [hc] at hon
        cases hon
    · obtain ⟨hmade, _, hsocket⟩ := h.online hc
      refine ⟨self.conn.current, hmade, h.alive.alive hc, hsocket, fun k hk hd => ?_⟩
      rcases h.released k hk (hall k hk) with hd' | ⟨_, he⟩
      · exact absurd hd' hd
      · exact he

theorem kept_new (st : σ) (channel_max frame_max heartbeat : Int) :
    Kept (World.new st channel_max frame_max heartbeat : World (Handles σ) κ).self := by
  refine ⟨alive_new st channel_max frame_max heartbeat, ?_, ?_, ?_, fun _ _ => rfl⟩
  · rintro h ⟨c, hc, _⟩
    cases hc
  · rintro h ⟨c, hc, _⟩
    cases hc
  · intro hc
    cases hc

/-- Calls that are not of a `connect` make no handle, and grant no login. -/
theorem has_grown {p : Event → Prop} {events : List Event} (hg : Grows self self' events)
    (hp : ∀ e, p e → IsDial e = true) (h : Nat) :
    Has p self'.conn.log h ↔ Has p self.conn.log h := by
  obtain ⟨st, hconn⟩ := hg.conn
  rw [hconn, Handles.note_log, has_append]
  constructor
  · rintro (hh | ⟨_, e, he, hpe⟩)
    · exact hh
    · have hdial := hg.undialed e he
      rw [hp e hpe] at hdial
      cases hdial
  · exact Or.inl

theorem made_grown {events : List Event} (hg : Grows self self' events) (h : Nat) :
    Made self'.conn.log h ↔ Made self.conn.log h := by
  apply has_grown hg
  rintro e rfl
  rfl

theorem loggedIn_grown {events : List Event} (hg : Grows self self' events) (h : Nat) :
    LoggedIn self'.conn.log h ↔ LoggedIn self.conn.log h := by
  apply has_grown hg
  rintro e ⟨m, rfl⟩
  rfl

theorem hasSocket_grown {events : List Event} (hg : Grows self self' events) (sockfd : Int)
    (h : Nat) : HasSocket sockfd self'.conn.log h ↔ HasSocket sockfd self.conn.log h := by
  apply has_grown hg
  rintro e rfl
  rfl

theorem destroyed_grown {events : List Event} (hg : Grows self self' events) (h : Nat) :
    Destroyed self'.conn.log h ↔ Destroyed self.conn.log h ∨
      self.conn.current = h ∧ ∃ e ∈ events, e.IsDestroy = true := by
  obtain ⟨st, hconn⟩ := hg.conn
  unfold Destroyed
  rw [hconn, Handles.note_log, has_append]

theorem Kept.grows {events : List Event} (h : Kept self) (hg : Grows self self' events) :
    Kept self' := by
  obtain ⟨st, hconn⟩ := hg.conn
  have hcurrent : self'.conn.current = self.conn.current := by rw [hconn, Handles.note_current]
  have hwas : self'.connected = true → self.connected = true := by
    intro hc
    by_contra hoff
    rw [(hg.online (by simpa using hoff)).2] at hc
    cases hc
  refine ⟨h.alive.grows hg, fun k hk hlogged => ?_, fun k hk => ?_, fun hc => ?_,
    fun hall hc => ?_⟩
  · rw [made_grown hg] at hk
    rw [loggedIn_grown hg] at hlogged
    rw [destroyed_grown hg, hcurrent]
    rcases h.released k hk hlogged with hd | ⟨hon, rfl⟩
    · exact Or.inl (Or.inl hd)
    · cases hc : self'.connected with
      | true => exact Or.inr ⟨rfl, rfl⟩
      | false => exact Or.inl (Or.inr ⟨rfl, (hg.destroys hon hc).1⟩)
  · rw [loggedIn_grown hg]
    rw [destroyed_grown hg] at hk
    rcases hk with hd | ⟨rfl, e, he, _⟩
    · exact h.leaked k hd
    · cases hc : self.connected with
      | true => exact (h.online hc).2.1
      | false =>
        rw [(hg.online hc).1] at he
        cases he
  · have hon := hwas hc
    rw [hcurrent, made_grown hg, loggedIn_grown hg, hasSocket_grown hg,
      hg.sockfd (by rw [hc, hon])]
    exact h.online hon
  · cases hon : self.connected with
    | true => exact (hg.destroys hon hc).2
    | false =>
      rw [hg.sockfd (by rw [hc, hon])]
      refine h.offline (fun k hk => ?_) hon
      rw [← loggedIn_grown hg]
      exact hall k ((made_grown hg k).mpr hk)

/-- The connection is there behind a `connect` exactly when the login was granted. -/
theorem dials_loggedIn_iff {before sockfd : Int} {events : List Event} {connected : Bool}
    (h : Dials before events sockfd connected) :
    (∃ e ∈ events, ∃ m, e = .amqp_login (.normal m)) ↔ connected = true := by
  cases h with
  | begun _ => simp [List.mem_replicate]
  | socket => simp
  | @refused _ reply events ending hne hh =>
    constructor
    · rintro ⟨e, he, m, rfl⟩
      simp only [List.cons_append, List.nil_append, List.mem_cons, reduceCtorEq, false_or,
        Event.amqp_login.injEq] at he
      rcases he with he | he
      · exact absurd he.symm (hne m)
      · have hdial := (handled_treats hh).undialed _ he
        cases hdial
    · intro hc
      cases hc
  | @loggedIn _ m =>
    constructor
    · exact fun _ => rfl
    · exact fun _ => ⟨_, by simp, m, rfl⟩

theorem dials_socket {before sockfd : Int} {events : List Event}
    (h : Dials before events sockfd true) : .amqp_socket_get_sockfd sockfd ∈ events := by
  cases h with
  | loggedIn => simp

theorem Kept.dials {events : List Event} {st st' : σ} (h : Kept self)
    (hc : self.connected = false)
    (hd : Dials self.sockfd events self'.sockfd self'.connected)
    (hconn : self'.conn = (self.conn.renew st).note events st') : Kept self' := by
  have hhas : ∀ (p : Event → Prop) (k : Nat), Has p self'.conn.log k ↔ Has p self.conn.log k ∨
      self.conn.made + 1 = k ∧ ∃ e ∈ Event.amqp_new_connection :: events, p e := by
    intro p k
    rw [hconn, renew_note_log, has_append]
  have hcurrent : self'.conn.current = self.conn.made + 1 := by rw [hconn]; rfl
  have hlogged : ∀ k, LoggedIn self'.conn.log k ↔ LoggedIn self.conn.log k ∨
      self.conn.made + 1 = k ∧ self'.connected = true := by
    intro k
    unfold LoggedIn
    rw [hhas, ← dials_loggedIn_iff hd]
    simp
  have hmade : Made self'.conn.log (self.conn.made + 1) :=
    (hhas _ _).mpr (Or.inr ⟨rfl, .amqp_new_connection, by simp, rfl⟩)
  have hdestroyed : ∀ k, Destroyed self'.conn.log k ↔ Destroyed self.conn.log k := by
    intro k
    unfold Destroyed
    rw [hhas]
    constructor
    · rintro (hk | ⟨_, e, he, hdestroy⟩)
      · exact hk
      · rw [(dials_spares hd).cons rfl e he] at hdestroy
        cases hdestroy
    · exact Or.inl
  refine ⟨h.alive.dials hd hconn, fun k hk hl => ?_, fun k hk => ?_, fun hon => ?_,
    fun hall hoff => ?_⟩
  · rw [hdestroyed, hcurrent]
    rcases (hlogged k).mp hl with hl | ⟨rfl, hon⟩
    · have hold : Made self.conn.log k := by
        rcases (hhas _ k).mp hk with hk | ⟨rfl, _⟩
        · exact hk
        · exact absurd hl (h.alive.fresh _)
      rcases h.released k hold hl with hdk | ⟨hon, _⟩
      · exact Or.inl hdk
      · rw [hc] at hon
        cases hon
    · exact Or.inr ⟨hon, rfl⟩
  · rw [hdestroyed] at hk
    exact (hlogged k).mpr (Or.inl (h.leaked k hk))
  · rw [hcurrent]
    refine ⟨hmade, (hlogged _).mpr (Or.inr ⟨rfl, hon⟩), ?_⟩
    rw [hon] at hd
    exact (hhas _ _).mpr (Or.inr ⟨rfl, _, List.mem_cons_of_mem _ (dials_socket hd), rfl⟩)
  · rcases (hlogged _).mp (hall _ hmade) with hl | ⟨_, hon⟩
    · exact absurd hl (h.alive.fresh _)
    · rw [hoff] at hon
      cases hon

theorem Kept.acts (h : Kept self) (hacts : Acts explicit self self') : Kept self' := by
  induction hacts with
  | refl => exact h
  | tail _ hact ih =>
    rcases act_cases hact with ⟨events, hg⟩ | ⟨events, sockfd, st, st', hc, hd, rfl, hconn⟩
    · exact ih.grows hg
    · exact ih.dials hc hd hconn

/-- Every program leaves a connection that holds its own if and only if each of its
`connect`s that made a handle had the login granted. -/
theorem the_connection_holds_its_own_exactly_when_all_are_logged_in (x : Client σ κ)
    (app : Application σ κ) (fuel depth : Nat) (ops : List (Op κ)) (st : σ)
    (channel_max frame_max heartbeat : Int) :
    HoldsItsOwn (x.runs app (fuel + 1) depth ops
      (World.new st channel_max frame_max heartbeat)).2.self ↔
    AllLoggedIn (x.runs app (fuel + 1) depth ops
      (World.new st channel_max frame_max heartbeat)).2.self.conn.log := by
  exact ((kept_new st channel_max frame_max heartbeat).acts
    (runs_acts_any x app fuel depth ops (World.new st channel_max frame_max heartbeat))).holds_iff

/-- A `connect` whose login is refused: the handle is never destroyed, and the descriptor
of its socket stays. -/
theorem a_refused_login_leaves_its_handle :
    ¬ HoldsItsOwn ((Answers.client { login := .server_exception (.connection_close ⟨403, []⟩) }).runs
      .idle 1 0 [.connect] (World.new ())).2.self := by
  rintro ⟨hoff, _⟩
  obtain ⟨hsockfd, _⟩ := hoff rfl
  cases hsockfd

end librabbitmq.lifetimes
