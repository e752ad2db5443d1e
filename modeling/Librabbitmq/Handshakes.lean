-- The channels at the broker, as the calls of the library tell of them, and the
-- law that the client opens a channel only while it is closed and reports one closed
-- only where the broker asked for it.
import Librabbitmq.Lifetimes

namespace librabbitmq

open Relation

/-! ## Channels at the broker -/

/-- A channel at the broker: open from open-ok until a close handshake in either
direction, and whether a `channel.close` of the broker is not answered yet. -/
structure ChannelState where
  isOpen : Bool
  closing : Bool
  deriving DecidableEq

abbrev Channels := amqp_channel_t → ChannelState

namespace Channels

/-- The channels of a new connection. -/
def closed : Channels := fun _ => ⟨false, false⟩

def set (s : Channels) (c : amqp_channel_t) (state : ChannelState) : Channels :=
  fun k => if k = c then state else s k

@[simp] theorem set_self (s : Channels) (c : amqp_channel_t) (state : ChannelState) :
    s.set c state c = state := by
  simp [set]

theorem set_ne (s : Channels) {c k : amqp_channel_t} (state : ChannelState) (h : k ≠ c) :
    s.set c state k = s k := by
  simp [set, h]

end Channels

/-- The channel on which the broker sends a `channel.close` with this reply. -/
def amqp_rpc_reply_t.Closes (c : amqp_channel_t) : amqp_rpc_reply_t → Option amqp_channel_t
  | .server_exception (.channel_close _) => some c
  | _ => Option.none

/-- The channel on which the broker sends a `channel.close` in this call. -/
def Event.Closes : Event → Option amqp_channel_t
  | .amqp_login reply => reply.Closes 0
  | .amqp_channel_open c reply => reply.Closes c
  | .amqp_channel_close c reply => reply.Closes c
  | .request c reply => reply.Closes c
  | .wait (.ok ⟨c, .method (.channel_close _)⟩) => some c
  | _ => none

/-- The channels behind a call. -/
def Channels.hears (s : Channels) (e : Event) : Channels :=
  match e.Closes with
  | some c => s.set c { s c with closing := true }
  | none =>
    match e with
    | .amqp_channel_open c (.normal _) => s.set c ⟨true, false⟩
    | .amqp_channel_close c (.normal _) => s.set c ⟨false, false⟩
    | .amqp_send_close_ok c status => if 0 ≤ status then s.set c ⟨false, false⟩ else s
    | _ => s

/-- The channels behind a row of calls. -/
def heard (s : Channels) (events : List Event) : Channels := events.foldl Channels.hears s

@[simp] theorem heard_nil (s : Channels) : heard s [] = s := rfl

@[simp] theorem heard_cons (s : Channels) (e : Event) (events : List Event) :
    heard s (e :: events) = heard (s.hears e) events := rfl

@[simp] theorem heard_append (s : Channels) (events events' : List Event) :
    heard s (events ++ events') = heard (heard s events) events' := by
  simp [heard]

/-- The calls of a log on one handle. -/
def eventsOf (log : List LibCall) (handle : Nat) : List Event :=
  (log.filter fun c => decide (c.handle = handle)).map LibCall.event

theorem eventsOf_note_self (log : List LibCall) (events : List Event) (h : Nat) :
    eventsOf (log ++ events.map fun e => ⟨h, e⟩) h = eventsOf log h ++ events := by
  simp [eventsOf, List.filter_map, Function.comp_def]

theorem eventsOf_note_ne (log : List LibCall) (events : List Event) {k h : Nat} (hne : k ≠ h) :
    eventsOf (log ++ events.map fun e => ⟨k, e⟩) h = eventsOf log h := by
  simp [eventsOf, List.filter_map, Function.comp_def, hne]

/-- What holds of each call and of the channels before it. -/
def InOrder (ok : Channels → Event → Prop) : Channels → List Event → Prop
  | _, [] => True
  | s, e :: events => ok s e ∧ InOrder ok (s.hears e) events

theorem inOrder_append (ok : Channels → Event → Prop) (events events' : List Event) :
    ∀ s, InOrder ok s (events ++ events') ↔
      InOrder ok s events ∧ InOrder ok (heard s events) events' := by
  induction events with
  | nil => simp [InOrder]
  | cons e events ih => simp [InOrder, ih, and_assoc]

/-- The client opens a channel only while it is closed, and reports one closed only
behind a `channel.close` of the broker. -/
def Channels.Obeyed (s : Channels) : Event → Prop
  | .amqp_channel_open c _ => (s c).isOpen = false
  | .amqp_send_close_ok c status => 0 ≤ status → (s c).closing = true
  | _ => True

/-- The broker closes a channel only while it is open, or instead of opening it. -/
def Channels.Followed (s : Channels) (e : Event) : Prop :=
  ∀ c, e.Closes = some c → (∃ reply, e = .amqp_channel_open c reply) ∨ (s c).isOpen = true

def ObeysAmqp (log : List LibCall) : Prop :=
  ∀ h, InOrder Channels.Obeyed .closed (eventsOf log h)

def FollowsAmqp (log : List LibCall) : Prop :=
  ∀ h, InOrder Channels.Followed .closed (eventsOf log h)

/-- A `channel.close-ok` goes out for a send that failed or, on whatever channel, for an
open that the broker answered by closing; or a channel that both sides close is opened
again. -/
inductive Slips : List Event → Prop
  | unsent {c : amqp_channel_t} {status status' : Int} : status < 0 → 0 ≤ status' →
      Slips [.send c status, .amqp_send_close_ok c status']
  | refused {c c' : amqp_channel_t} {m : amqp_close_t} {status : Int} : 0 ≤ status →
      Slips [.amqp_channel_open c (.server_exception (.channel_close m)),
        .amqp_send_close_ok c' status]
  | crossed {c : amqp_channel_t} {m : amqp_close_t} {m' : amqp_method_t} {status : Int} :
      0 ≤ status →
      Slips [.amqp_channel_close c (.server_exception (.channel_close m)),
        .amqp_send_close_ok c status, .amqp_channel_open c (.normal m')]

/-- None of this is in a row of calls. -/
def SlipFree (events : List Event) : Prop := ∀ part, part <:+: events → ¬ Slips part

/-- The library answers such that none of this comes about. -/
def Clean (log : List LibCall) : Prop := ∀ h, SlipFree (eventsOf log h)

theorem SlipFree.infix {events part : List Event} (h : SlipFree events) (hp : part <:+: events) :
    SlipFree part :=
  fun _ hpart => h _ (hpart.trans hp)

theorem SlipFree.tail {e : Event} {events : List Event} (h : SlipFree (e :: events)) :
    SlipFree events :=
  h.infix (List.suffix_cons e events).isInfix

/-! ## The handlers at the broker -/

/-- The calls are in order, and where the connection stays they open no channel. -/
structure Tidy (s : Channels) (events : List Event) (ending : Ending) : Prop where
  obeyed : InOrder Channels.Obeyed s events
  opened : ending ≠ .closed → ∀ c, (heard s events c).isOpen = true → (s c).isOpen = true

theorem tidy_nil (s : Channels) (ending : Ending) : Tidy s [] ending := ⟨trivial, fun _ _ h => h⟩

theorem tidy_closing (s : Channels) : Tidy s (closing true) .closed := by
  refine ⟨?_, fun h => absurd rfl h⟩
  simp [closing, InOrder, Channels.Obeyed]

theorem obeyed_unsent (s : Channels) (c : amqp_channel_t) {status : Int} (hs : status < 0) :
    s.Obeyed (.amqp_send_close_ok c status) := by
  intro h
  omega

theorem hears_sent (s : Channels) (c : amqp_channel_t) {status : Int} (hs : 0 ≤ status) :
    s.hears (.amqp_send_close_ok c status) = s.set c ⟨false, false⟩ := by
  simp [Channels.hears, Event.Closes, hs]

theorem tidy_unsent (s : Channels) (c : amqp_channel_t) {status : Int} (hs : status < 0) :
    Tidy s (.amqp_send_close_ok c status :: closing true) .closed := by
  refine ⟨⟨obeyed_unsent s c hs, ?_⟩, fun h => absurd rfl h⟩
  exact (tidy_closing _).obeyed

/-- The handler behind the reply to an open. -/
theorem handled_open_tidy {c : amqp_channel_t} {reply : amqp_rpc_reply_t} {events : List Event}
    {ending : Ending} (s : Channels) (h : Handled true 0 reply events ending)
    (hslip : SlipFree (.amqp_channel_open c reply :: events)) : Tidy s events ending := by
  cases h with
  | cut => exact tidy_nil s _
  | normal => exact tidy_nil s _
  | failed _ => exact tidy_closing s
  | unsent hs => exact tidy_unsent s 0 hs
  | sent hs => exact absurd (.refused hs) (hslip _ (List.infix_refl _))
  | @reopened _ _ status reply rest _ hs _ =>
    exact absurd (.refused hs) (hslip _ (List.prefix_append [_, _] (_ :: rest)).isInfix)

theorem hears_closes (s : Channels) {e : Event} {c : amqp_channel_t} (h : e.Closes = some c) :
    s.hears e = s.set c { s c with closing := true } := by
  simp [Channels.hears, h]

/-- A `channel.close` of the broker leaves the channel open until it is answered. -/
theorem isOpen_closes (s : Channels) {e : Event} {c : amqp_channel_t} (h : e.Closes = some c)
    (k : amqp_channel_t) : (s.hears e k).isOpen = (s k).isOpen := by
  rw [hears_closes s h]
  by_cases hk : k = c
  · simp [hk]
  · rw [Channels.set_ne _ _ hk]

theorem isOpen_of_set_closed {s : Channels} {c k : amqp_channel_t}
    (h : (s.set c ⟨false, false⟩ k).isOpen = true) : (s k).isOpen = true := by
  by_cases hk : k = c
  · rw [hk, Channels.set_self] at h
    cases h
  · rwa [Channels.set_ne _ _ hk] at h

/-- The broker grants an open of the channel. -/
def Event.Opens (c : amqp_channel_t) (e : Event) : Prop := ∃ m, e = .amqp_channel_open c (.normal m)

/-- A channel comes to be open only by an open that is granted. -/
theorem isOpen_hears {s : Channels} {e : Event} {k : amqp_channel_t}
    (h : (s.hears e k).isOpen = true) : (s k).isOpen = true ∨ e.Opens k := by
  cases he : e.Closes with
  | some c =>
    left
    rwa [isOpen_closes s he] at h
  | none =>
    unfold Channels.hears at h
    rw [he] at h
    cases e with
    | amqp_channel_open c reply =>
      cases reply with
      | normal m =>
        by_cases hk : k = c
        · subst hk
          exact Or.inr ⟨m, rfl⟩
        · left
          dsimp only at h
          rwa [Channels.set_ne _ _ hk] at h
      | _ => exact Or.inl h
    | amqp_channel_close c reply =>
      cases reply with
      | normal m => exact Or.inl (isOpen_of_set_closed h)
      | _ => exact Or.inl h
    | amqp_send_close_ok c status =>
      dsimp only at h
      split at h
      · exact Or.inl (isOpen_of_set_closed h)
      · exact Or.inl h
    | _ => exact Or.inl h

theorem isOpen_hears_open {s : Channels} {c k : amqp_channel_t} {reply : amqp_rpc_reply_t}
    (h : (s.hears (.amqp_channel_open c reply) k).isOpen = true) :
    (k = c ∧ ∃ m, reply = .normal m) ∨ (s k).isOpen = true := by
  rcases isOpen_hears h with hk | ⟨m, hm⟩
  · exact Or.inr hk
  · cases hm
    exact Or.inl ⟨rfl, m, rfl⟩

/-- The revival of a channel whose close the broker asked for. -/
theorem revived_tidy {s : Channels} {c : amqp_channel_t} {events : List Event} {ending : Ending}
    (h : Revived true c events ending) (hopen : (s c).isOpen = true)
    (hclosing : (s c).closing = true) (hslip : SlipFree events) : Tidy s events ending := by
  cases h with
  | cut => exact tidy_nil s _
  | unsent hs => exact tidy_unsent s c hs
  | @sent status hs =>
    refine ⟨⟨fun _ => hclosing, trivial⟩, fun _ k hk => ?_⟩
    rw [heard_cons, heard_nil, hears_sent s c hs] at hk
    exact isOpen_of_set_closed hk
  | @reopened status reply rest ending hs hh =>
    have htidy := handled_open_tidy (c := c)
      ((s.set c ⟨false, false⟩).hears (.amqp_channel_open c reply)) hh hslip.tail
    refine ⟨⟨fun _ => hclosing, ?_, ?_⟩, fun hending k hk => ?_⟩
    · rw [hears_sent s c hs]
      simp [Channels.Obeyed]
    · rw [hears_sent s c hs]
      exact htidy.obeyed
    · rw [heard_cons, heard_cons, hears_sent s c hs] at hk
      rcases isOpen_hears_open (htidy.opened hending k hk) with ⟨hkc, _⟩ | hk
      · rw [hkc]
        exact hopen
      · exact isOpen_of_set_closed hk

/-- The handler behind the reply to a request on an open channel. -/
theorem handled_request_tidy {s : Channels} {c : amqp_channel_t} {reply : amqp_rpc_reply_t}
    {events : List Event} {ending : Ending} (h : Handled true c reply events ending)
    (hclosing : reply.Closes c = some c → (s c).isOpen = true ∧ (s c).closing = true)
    (hslip : SlipFree events) : Tidy s events ending := by
  by_cases hm : ∃ m, reply = .server_exception (.channel_close m)
  · obtain ⟨m, rfl⟩ := hm
    obtain ⟨hopen, hclose⟩ := hclosing rfl
    obtain ⟨inner, hr, rfl⟩ := h.revived
    have htidy := revived_tidy hr hopen hclose hslip
    refine ⟨htidy.obeyed, fun hne => htidy.opened ?_⟩
    rintro rfl
    exact hne rfl
  · cases h with
    | cut => exact tidy_nil s _
    | normal => exact tidy_nil s _
    | failed _ => exact tidy_closing s
    | unsent _ => exact absurd ⟨_, rfl⟩ hm
    | sent _ => exact absurd ⟨_, rfl⟩ hm
    | reopened _ _ => exact absurd ⟨_, rfl⟩ hm

/-- Without a slip the handler behind the reply to an open raises no `ChannelError`. -/
theorem handled_open_ending {c : amqp_channel_t} {reply : amqp_rpc_reply_t} {events : List Event}
    {ending : Ending} (h : Handled true 0 reply events ending)
    (hslip : SlipFree (.amqp_channel_open c reply :: events)) : ending ≠ .channelError := by
  cases h with
  | @reopened _ _ status reply rest _ hs _ =>
    exact absurd (.refused hs) (hslip _ (List.prefix_append [_, _] (_ :: rest)).isInfix)
  | _ => simp

/-- Without a slip no channel that the client closes is opened again. -/
theorem reopened_not_normal {c : amqp_channel_t} {m : amqp_close_t} {status : Int}
    {reply : amqp_rpc_reply_t} {events : List Event} (hs : 0 ≤ status)
    (hslip : SlipFree (.amqp_channel_close c (.server_exception (.channel_close m)) ::
      .amqp_send_close_ok c status :: .amqp_channel_open c reply :: events))
    (m' : amqp_method_t) : reply ≠ .normal m' := by
  rintro rfl
  exact hslip _ (List.prefix_append [_, _, _] events).isInfix (.crossed hs)

/-- The handler behind the reply to a close raises no `ChannelError` then. -/
theorem handled_close_ending {c : amqp_channel_t} {reply : amqp_rpc_reply_t} {events : List Event}
    {ending : Ending} (h : Handled true c reply events ending)
    (hslip : SlipFree (.amqp_channel_close c reply :: events)) : ending ≠ .channelError := by
  cases h with
  | @reopened _ _ _ reply rest inner hs hh =>
    cases inner with
    | normal =>
      obtain ⟨m, hm⟩ := handled_normal hh
      exact absurd hm (reopened_not_normal hs hslip m)
    | channelError => exact absurd rfl (handled_open_ending hh hslip.tail.tail)
    | _ => simp [Ending.raised]
  | _ => simp

theorem handled_close_tidy {s : Channels} {c : amqp_channel_t} {reply : amqp_rpc_reply_t}
    {events : List Event} {ending : Ending} (h : Handled true c reply events ending)
    (hclosing : reply.Closes c = some c → (s c).closing = true)
    (hslip : SlipFree (.amqp_channel_close c reply :: events)) : Tidy s events ending := by
  cases h with
  | cut => exact tidy_nil s _
  | normal => exact tidy_nil s _
  | failed _ => exact tidy_closing s
  | unsent hs => exact tidy_unsent s c hs
  | @sent _ _ status hs =>
    refine ⟨⟨fun _ => hclosing rfl, trivial⟩, fun _ k hk => ?_⟩
    rw [heard_cons, heard_nil, hears_sent s c hs] at hk
    exact isOpen_of_set_closed hk
  | @reopened _ _ status reply rest inner hs hh =>
    have htidy := handled_open_tidy ((s.set c ⟨false, false⟩).hears (.amqp_channel_open c reply))
      hh hslip.tail.tail
    refine ⟨⟨fun _ => hclosing rfl, ?_, ?_⟩, fun hne k hk => ?_⟩
    · rw [hears_sent s c hs]
      simp [Channels.Obeyed]
    · rw [hears_sent s c hs]
      exact htidy.obeyed
    · rw [heard_cons, heard_cons, hears_sent s c hs] at hk
      have hinner : inner ≠ .closed := by
        rintro rfl
        exact hne rfl
      rcases isOpen_hears_open (htidy.opened hinner k hk) with ⟨_, m', hm⟩ | hk
      · exact absurd hm (reopened_not_normal hs hslip m')
      · exact isOpen_of_set_closed hk

/-! ## The numbers of the channels -/

theorem channelNumber_toNat {n : Int} (h0 : 0 ≤ n) (h : n < 2 ^ 16) :
    (channelNumber n).toNat = n.toNat := by
  unfold channelNumber parseUnsigned
  simp [BitVec.toNat_ofInt]
  omega

/-- Channel ids that fit are told apart by what a request carries. -/
theorem channelNumber_inj {n m : Int} (hn : 1 ≤ n ∧ n < 2 ^ 16) (hm : 1 ≤ m ∧ m < 2 ^ 16)
    (h : channelNumber n = channelNumber m) : n = m := by
  have hn' : (channelNumber n).toNat = n.toNat := channelNumber_toNat (by omega) hn.2
  have hm' : (channelNumber m).toNat = m.toNat := channelNumber_toNat (by omega) hm.2
  rw [h] at hn'
  omega

/-! ## Logs of one handle -/

theorem eventsOf_one_handle (events : List Event) (k j : Nat) :
    eventsOf (events.map fun e => ⟨k, e⟩) j = if k = j then events else [] := by
  split
  · subst j
    simpa [eventsOf] using eventsOf_note_self [] events k
  · rename_i hj
    simpa [eventsOf] using eventsOf_note_ne [] events hj

theorem inOrder_one_handle {ok : Channels → Event → Prop} {events : List Event} (k : Nat)
    (h : InOrder ok .closed events) (j : Nat) :
    InOrder ok .closed (eventsOf (events.map fun e => ⟨k, e⟩) j) := by
  rw [eventsOf_one_handle]
  split
  · exact h
  · trivial

theorem slipFree_nil : SlipFree [] := by
  intro part hpart hslip
  rw [List.infix_nil.mp hpart] at hslip
  cases hslip

theorem slipFree_cons {e : Event} {events : List Event} (h : SlipFree events)
    (hstart : ∀ rest, rest <+: events → ¬ Slips (e :: rest)) : SlipFree (e :: events) := by
  intro part hpart hslip
  rcases List.infix_cons_iff.mp hpart with hprefix | hinfix
  · cases part with
    | nil => cases hslip
    | cons e' rest =>
      obtain ⟨rfl, hrest⟩ := List.cons_prefix_cons.mp hprefix
      exact hstart rest hrest hslip
  · exact h part hinfix hslip

theorem clean_one_handle {events : List Event} (k : Nat) (h : SlipFree events) :
    Clean (events.map fun e => ⟨k, e⟩) := by
  intro j
  rw [eventsOf_one_handle]
  split
  · exact h
  · exact slipFree_nil

/-! ## Runs -/

section

variable {σ κ : Type} {explicit : Prop} {self self' : Connection (Handles σ) κ}

theorem eventsOf_append (log log' : List LibCall) (h : Nat) :
    eventsOf (log ++ log') h = eventsOf log h ++ eventsOf log' h := by
  simp [eventsOf]

/-- A log only grows. -/
theorem act_log (h : Act explicit self self') :
    ∃ calls, self'.conn.log = self.conn.log ++ calls := by
  rcases lifetimes.act_cases h with ⟨events, hg⟩ | ⟨events, sockfd, st, st', _, _, _, hconn⟩
  · obtain ⟨st, hconn⟩ := hg.conn
    exact ⟨_, by rw [hconn, Handles.note_log]⟩
  · exact ⟨_, by rw [hconn, lifetimes.renew_note_log]⟩

theorem FollowsAmqp.before {log calls : List LibCall} (h : FollowsAmqp (log ++ calls)) :
    FollowsAmqp log := by
  intro handle
  have hall := h handle
  rw [eventsOf_append, inOrder_append] at hall
  exact hall.1

theorem Clean.before {log calls : List LibCall} (h : Clean (log ++ calls)) : Clean log := by
  intro handle
  have hall := h handle
  rw [eventsOf_append] at hall
  exact hall.infix (List.prefix_append _ _).isInfix

/-- The channels of a connection, as far as its handle tells. -/
def Connection.heard (self : Connection (Handles σ) κ) : Channels :=
  librabbitmq.heard .closed (eventsOf self.conn.log self.conn.current)

theorem heard_note {events : List Event} {st : σ} (h : self'.conn = self.conn.note events st) :
    self'.heard = librabbitmq.heard self.heard events := by
  unfold Connection.heard
  rw [h, Handles.note_log, Handles.note_current, eventsOf_note_self, heard_append]

/-- The log is in order, and every channel that is open is one of those in use. -/
structure Orderly (object : Connection (Handles σ) κ) : Prop where
  alive : lifetimes.Alive object
  obeys : ObeysAmqp object.conn.log
  range : ∀ n ∈ object._used_channel_ids, 1 ≤ n ∧ n < 2 ^ 16
  known : object.connected = true → ∀ c, (object.heard c).isOpen = true →
    ∃ n ∈ object._used_channel_ids, channelNumber n = c

theorem orderly_new (st : σ) (channel_max frame_max heartbeat : Int) :
    Orderly (World.new st channel_max frame_max heartbeat : World (Handles σ) κ).self := by
  refine ⟨lifetimes.alive_new st channel_max frame_max heartbeat, fun _ => trivial, ?_, ?_⟩
  · intro n hn
    cases hn
  · intro hc
    cases hc

/-- Calls on the handle that are in order keep it so. -/
theorem Orderly.extend {events : List Event} {st : σ} (h : Orderly self)
    (halive : lifetimes.Alive self') (hconn : self'.conn = self.conn.note events st)
    (hobeyed : InOrder Channels.Obeyed self.heard events)
    (hrange : ∀ n ∈ self'._used_channel_ids, 1 ≤ n ∧ n < 2 ^ 16)
    (hknown : self'.connected = true → ∀ c, (librabbitmq.heard self.heard events c).isOpen = true →
      ∃ n ∈ self'._used_channel_ids, channelNumber n = c) : Orderly self' := by
  refine ⟨halive, fun k => ?_, hrange, fun hc c hopen => hknown hc c ?_⟩
  · rw [hconn, Handles.note_log]
    by_cases hk : self.conn.current = k
    · subst hk
      rw [eventsOf_note_self, inOrder_append]
      exact ⟨h.obeys _, hobeyed⟩
    · rw [eventsOf_note_ne _ _ hk]
      exact h.obeys k
  · rwa [heard_note hconn] at hopen

/-- A change of the tables alone. -/
theorem Orderly.stay (h : Orderly self) (halive : lifetimes.Alive self')
    (hconn : self'.conn = self.conn)
    (hrange : ∀ n ∈ self'._used_channel_ids, 1 ≤ n ∧ n < 2 ^ 16)
    (hknown : self'.connected = true → ∀ c, (self.heard c).isOpen = true →
      ∃ n ∈ self'._used_channel_ids, channelNumber n = c) : Orderly self' := by
  have hnote : self'.conn = self.conn.note [] self.conn.state := by
    rw [hconn, Handles.note_nil]
  exact h.extend halive hnote trivial hrange hknown

/-- A call that a method makes on its own opens no channel that the program did not
choose, and is in order. -/
theorem plain_tidy {e : Event} (s : Channels) (h : e.Plain False) : Tidy s [e] .normal := by
  refine ⟨⟨?_, trivial⟩, fun _ k hk => ?_⟩
  · cases e with
    | amqp_channel_open c reply => exact h.elim
    | amqp_send_close_ok c status => exact h.elim
    | _ => trivial
  · rcases isOpen_hears hk with hk | ⟨m, rfl⟩
    · exact hk
    · exact h.elim

/-- What follows on a call is in order behind it. -/
theorem follows_tidy {s : Channels} {e : Event} {events : List Event} {ending : Ending}
    (h : Follows e events ending) (hfollowed : s.Followed e) (hslip : SlipFree (e :: events)) :
    Tidy (s.hears e) events ending := by
  have hclosed : ∀ c, e.Closes = some c → (∀ reply, e ≠ .amqp_channel_open c reply) →
      (s.hears e c).isOpen = true ∧ (s.hears e c).closing = true := by
    intro c hc hne
    rw [isOpen_closes s hc, hears_closes s hc, Channels.set_self]
    rcases hfollowed c hc with ⟨reply, he⟩ | hopen
    · exact absurd he (hne reply)
    · exact ⟨hopen, rfl⟩
  cases h with
  | request hh => exact handled_request_tidy hh (fun hc => hclosed _ hc (by simp)) hslip.tail
  | opened hh => exact handled_open_tidy _ hh hslip
  | closed hh => exact handled_close_tidy hh (fun hc => (hclosed _ hc (by simp)).2) hslip
  | @unsent c status _ _ hs hr =>
    cases hr with
    | cut => exact tidy_nil _ _
    | unsent hs' => exact tidy_unsent _ c hs'
    | sent hs' => exact absurd (.unsent hs hs') (hslip _ (List.infix_refl _))
    | reopened hs' _ =>
      exact absurd (.unsent hs hs') (hslip _ (List.prefix_append [_, _] (_ :: _)).isInfix)
  | met hr =>
    obtain ⟨hopen, hclosing⟩ := hclosed _ rfl (by simp)
    exact revived_tidy hr hopen hclosing hslip.tail

/-- The calls of a `connect` open no channel. -/
theorem dials_tidy {before sockfd : Int} {events : List Event} {connected : Bool}
    (h : Dials before events sockfd connected) (hfollowed : InOrder Channels.Followed .closed events) :
    InOrder Channels.Obeyed .closed events ∧
      (connected = true → heard .closed events = .closed) := by
  cases h with
  | @begun n hn =>
    refine ⟨?_, fun hc => by cases hc⟩
    generalize Channels.closed = s
    clear hn hfollowed
    induction n generalizing s with
    | zero => trivial
    | succ n ih => exact ⟨trivial, ih _⟩
  | socket => exact ⟨⟨trivial, trivial, trivial, trivial⟩, fun hc => by cases hc⟩
  | @refused sockfd reply events ending hreply hh =>
    refine ⟨?_, fun hc => by cases hc⟩
    cases hh with
    | cut => exact ⟨trivial, trivial, trivial, trivial, trivial⟩
    | normal => exact absurd rfl (hreply _)
    | failed _ => exact ⟨trivial, trivial, trivial, trivial, trivial⟩
    | _ =>
      -- channel 0 is not open, so the broker does not close it
      obtain ⟨_, _, _, hlogin, _⟩ := hfollowed
      rcases hlogin 0 rfl with ⟨_, he⟩ | hopen
      · cases he
      · cases hopen
  | loggedIn => exact ⟨⟨trivial, trivial, trivial, trivial, trivial⟩, fun _ => rfl⟩

theorem eventsOf_fresh (h : lifetimes.Alive self) :
    eventsOf self.conn.log (self.conn.made + 1) = [] := by
  unfold eventsOf
  rw [List.map_eq_nil_iff, List.filter_eq_nil_iff]
  intro c hc
  have := h.made c hc
  simp
  omega

/-- The calls on a new handle. -/
theorem eventsOf_renew (h : lifetimes.Alive self) (events : List Event) (st st' : σ) :
    eventsOf ((self.conn.renew st).note events st').log (self.conn.made + 1) =
      .amqp_new_connection :: events := by
  rw [lifetimes.renew_note_log, eventsOf_note_self, eventsOf_fresh h, List.nil_append]

/-- What the order of the broker's calls says of the last ones on the handle. -/
theorem FollowsAmqp.noted {s : Handles σ} {events : List Event} {st : σ}
    (h : FollowsAmqp (s.note events st).log) :
    InOrder Channels.Followed (heard .closed (eventsOf s.log s.current)) events := by
  have hall := h s.current
  rw [Handles.note_log, eventsOf_note_self, inOrder_append] at hall
  exact hall.2

theorem Clean.noted {s : Handles σ} {events : List Event} {st : σ}
    (h : Clean (s.note events st).log) : SlipFree (eventsOf s.log s.current ++ events) := by
  have hall := h s.current
  rwa [Handles.note_log, eventsOf_note_self] at hall

/-- The numbers in use stay in range with a free one. -/
theorem Orderly.range_append (h : Orderly self) {channel_id : Int} (hpos : 1 ≤ channel_id)
    (hlt : channel_id < 2 ^ 16) :
    ∀ n ∈ self._used_channel_ids ++ [channel_id], 1 ≤ n ∧ n < 2 ^ 16 := by
  intro n hn
  rcases List.mem_append.mp hn with hn | hn
  · exact h.range n hn
  · cases List.mem_singleton.mp hn
    exact ⟨hpos, hlt⟩

section

variable {events : List Event} {ending : Ending} {channel_id : Int} {reply : amqp_rpc_reply_t}
  {st st' : σ}

theorem Orderly.handled {e : Event} (h : Orderly self) (hc : self.connected = true)
    (hlast : self.Last e) (hf : Follows e events ending)
    (halive : lifetimes.Alive (self.after events ending st))
    (hfollows : FollowsAmqp (self.conn.note events st).log)
    (hclean : Clean (self.conn.note events st).log) : Orderly (self.after events ending st) := by
  obtain ⟨front, hfront⟩ := List.getLast?_eq_some_iff.mp hlast
  have hevents : eventsOf self.conn.log self.conn.current =
      eventsOf front self.conn.current ++ [e] := by
    rw [hfront, eventsOf_append]
    simp [eventsOf]
  have hheard : self.heard = (heard .closed (eventsOf front self.conn.current)).hears e := by
    unfold Connection.heard
    rw [hevents, heard_append, heard_cons, heard_nil]
  have hfe : (heard .closed (eventsOf front self.conn.current)).Followed e := by
    rw [Handles.note_log] at hfollows
    have hall := hfollows.before self.conn.current
    rw [hevents, inOrder_append] at hall
    exact hall.2.1
  have hslip : SlipFree (e :: events) := by
    have hall := hclean.noted
    rw [hevents, List.append_assoc] at hall
    exact hall.infix (List.suffix_append _ _).isInfix
  have htidy := follows_tidy hf hfe hslip
  rw [← hheard] at htidy
  refine h.extend halive rfl htidy.obeyed h.range fun hon c hopen => h.known hc c ?_
  exact htidy.opened (by simpa [Connection.after, hc] using hon) c hopen

/-- A connection that has dialed has no channel open, and the handles before it stay in
order. -/
theorem Orderly.dialed {sockfd : Int} {connected : Bool} (h : Orderly self)
    (hd : Dials self.sockfd events sockfd connected)
    (hconn : self'.conn = (self.conn.renew st).note events st')
    (hused : self'._used_channel_ids = self._used_channel_ids)
    (hconnected : self'.connected = connected) (halive : lifetimes.Alive self')
    (hfollows : FollowsAmqp self'.conn.log) : Orderly self' := by
  have hnew := eventsOf_renew h.alive events st st'
  rw [← hconn] at hnew
  have hall := hfollows (self.conn.made + 1)
  rw [hnew] at hall
  obtain ⟨hobeyed, hclosed⟩ := dials_tidy hd hall.2
  refine ⟨halive, fun k => ?_, ?_, fun hon c hopen => ?_⟩
  · by_cases hk : self.conn.made + 1 = k
    · subst hk
      rw [hnew]
      exact ⟨trivial, hobeyed⟩
    · rw [hconn, lifetimes.renew_note_log, eventsOf_note_ne _ _ hk]
      exact h.obeys k
  · rw [hused]
    exact h.range
  · have hheard : self'.heard = heard .closed events := by
      unfold Connection.heard
      rw [show self'.conn.current = self.conn.made + 1 by rw [hconn]; rfl, hnew, heard_cons]
      rfl
    rw [hheard, hclosed (hconnected.symm.trans hon)] at hopen
    cases hopen

theorem Orderly.opened (h : Orderly self) (hc : self.connected = true)
    (hfree : freeChannelId self.channel_max self._used_channel_ids = some channel_id)
    (hlt : channel_id < 2 ^ 16)
    (hconn : self'.conn =
      self.conn.note [.amqp_channel_open (channelNumber channel_id) reply] st)
    (hused : self'._used_channel_ids = self._used_channel_ids ++ [channel_id])
    (halive : lifetimes.Alive self') : Orderly self' := by
  obtain ⟨hrange, hnew⟩ := freeChannelId_some hfree
  refine h.extend halive hconn ⟨?_, trivial⟩ ?_ ?_
  · -- a channel that is open has a number in use, and this one has none
    by_contra hopen
    have hopen' : (self.heard (channelNumber channel_id)).isOpen = true := by
      simpa [Channels.Obeyed] using hopen
    obtain ⟨n, hn, hnumber⟩ := h.known hc _ hopen'
    cases channelNumber_inj (h.range n hn) ⟨hrange.1, hlt⟩ hnumber
    exact hnew hn
  · rw [hused]
    exact h.range_append hrange.1 hlt
  · intro _ c hopen
    rw [hused]
    rcases isOpen_hears_open hopen with ⟨hself, _⟩ | hopen
    · exact ⟨channel_id, by simp, hself.symm⟩
    · obtain ⟨n, hn, hnumber⟩ := h.known hc c hopen
      exact ⟨n, List.mem_append_left _ hn, hnumber⟩

theorem Orderly.removed (h : Orderly self) (hc : self.connected = true)
    (hh : Handled true (channelNumber channel_id) reply events ending)
    (hending : ending = .normal ∨ ending = .channelError)
    (hconn : self'.conn = self.conn.note
      (.amqp_channel_close (channelNumber channel_id) reply :: events) st)
    (hused : self'._used_channel_ids = self._used_channel_ids.erase channel_id)
    (halive : lifetimes.Alive self') (hfollows : FollowsAmqp self'.conn.log)
    (hclean : Clean self'.conn.log) : Orderly self' := by
  rw [hconn] at hfollows hclean
  have hslip := hclean.noted.infix (List.suffix_append _ _).isInfix
  have htidy := follows_tidy (.closed hh) hfollows.noted.1 hslip
  refine h.extend halive hconn ⟨trivial, htidy.obeyed⟩ ?_ ?_
  · rw [hused]
    exact fun n hn => h.range n (List.mem_of_mem_erase hn)
  · intro _ c hopen
    rw [hused]
    rcases hending with rfl | rfl
    · obtain ⟨m, rfl⟩ := handled_normal hh
      have hopen' : (self.heard.set (channelNumber channel_id) ⟨false, false⟩ c).isOpen = true :=
        htidy.opened (by simp) c hopen
      have hne : c ≠ channelNumber channel_id := by
        rintro rfl
        rw [Channels.set_self] at hopen'
        cases hopen'
      rw [Channels.set_ne _ _ hne] at hopen'
      obtain ⟨n, hn, rfl⟩ := h.known hc c hopen'
      refine ⟨n, (List.mem_erase_of_ne ?_).mpr hn, rfl⟩
      rintro rfl
      exact hne rfl
    · exact absurd rfl (handled_close_ending hh hslip)

end

/-- One act, where the broker follows the protocol and nothing slips. -/
theorem Orderly.act (h : Orderly self) (hact : Act False self self')
    (hfollows : FollowsAmqp self'.conn.log) (hclean : Clean self'.conn.log) : Orderly self' := by
  have halive := h.alive.act hact
  cases hact with
  | noted hc hplain =>
    have htidy := plain_tidy self.heard hplain
    exact h.extend halive rfl htidy.obeyed h.range
      fun _ c hopen => h.known hc c (htidy.opened (by simp) c hopen)
  | moved => exact h.extend halive rfl trivial h.range fun hc c hopen => h.known hc c hopen
  | handled hc hlast hf => exact h.handled hc hlast hf halive hfollows hclean
  | closed hc =>
    exact h.extend halive rfl (tidy_closing self.heard).obeyed h.range
      fun hon => by simp [Connection.after] at hon
  | dialed hc hd => exact h.dialed hd rfl rfl rfl halive hfollows
  | @taken channel_id hfree hlt =>
    obtain ⟨hrange, _⟩ := freeChannelId_some hfree
    refine h.stay halive rfl (h.range_append hrange.1 hlt) fun hc c hopen => ?_
    obtain ⟨n, hn, hnumber⟩ := h.known hc c hopen
    exact ⟨n, List.mem_append_left _ hn, hnumber⟩
  | opened hc hfree hlt => exact h.opened hc hfree hlt rfl rfl halive
  | removed hc hh hending => exact h.removed hc hh hending rfl rfl halive hfollows hclean
  | books hsame =>
    refine h.stay halive hsame.conn ?_ ?_
    · rw [hsame.used]
      exact h.range
    · rw [hsame.used, hsame.connected]
      exact h.known

theorem Orderly.acts (h : Orderly self) (hacts : Acts False self self')
    (hfollows : FollowsAmqp self'.conn.log) (hclean : Clean self'.conn.log) : Orderly self' := by
  induction hacts with
  | refl => exact h
  | tail _ hact ih =>
    obtain ⟨calls, hlog⟩ := act_log hact
    have hf := hfollows
    have hc := hclean
    rw [hlog] at hf hc
    exact (ih hf.before hc.before).act hact hfollows hclean

/-- In every run whose program chooses no channel numbers, with any replies and any
sends that fail: where the broker follows the protocol and none of the slips comes
about, every channel is opened only while it is closed, and reported closed only
behind a close of the broker. -/
theorem channels_are_opened_and_reported_closed_in_order (x : Client σ κ)
    (app : Application σ κ) (happ : app.Chooses False) (fuel depth : Nat) (ops : List (Op κ))
    (hops : ∀ op ∈ ops, op.Explicit → False) (st : σ) (channel_max frame_max heartbeat : Int)
    (hfollows : FollowsAmqp (x.runs app (fuel + 1) depth ops
      (World.new st channel_max frame_max heartbeat)).2.self.conn.log)
    (hclean : Clean (x.runs app (fuel + 1) depth ops
      (World.new st channel_max frame_max heartbeat)).2.self.conn.log) :
    ObeysAmqp (x.runs app (fuel + 1) depth ops
      (World.new st channel_max frame_max heartbeat)).2.self.conn.log :=
  ((orderly_new st channel_max frame_max heartbeat).acts
    (runs_acts x happ fuel depth hops (World.new st channel_max frame_max heartbeat))
    hfollows hclean).obeys

/-- A channel that the broker closes is opened again. -/
theorem a_channel_that_the_broker_closes_is_opened_again :
    ObeysAmqp ((Answers.client {
      request := .server_exception (.channel_close ⟨404, []⟩)
      channel_max := 1 }).runs .idle 3 0 [.connect, .channel none, .flow 1 true]
      (World.new ())).2.self.conn.log := by
  have hlog : ((Answers.client {
      request := .server_exception (.channel_close ⟨404, []⟩)
      channel_max := 1 }).runs .idle 3 0 [.connect, .channel none, .flow 1 true]
      (World.new ())).2.self.conn.log = ([.amqp_new_connection, .other, .other,
        .amqp_socket_get_sockfd 3, .amqp_login (.normal (.other 0)), .other,
        .amqp_channel_open 1 (.normal (.other 0x0014000B)),
        .request 1 (.server_exception (.channel_close ⟨404, []⟩)), .amqp_send_close_ok 1 0,
        .amqp_channel_open 1 (.normal (.other 0x0014000B))] : List Event).map fun e => ⟨1, e⟩ := by
    rfl
  apply channels_are_opened_and_reported_closed_in_order _ .idle _ 2
  · simp [Op.Explicit]
  · rw [hlog]
    apply inOrder_one_handle
    simp [InOrder, Channels.Followed, Event.Closes, amqp_rpc_reply_t.Closes, Channels.hears]
  · rw [hlog]
    apply clean_one_handle
    repeat' apply slipFree_cons
    · exact slipFree_nil
    all_goals
      intro rest _ hslip
      cases hslip
  · simp [Application.Chooses, Application.idle]

/-- A send that fails: the channel is reported closed, and opened, while it is open. -/
theorem a_failed_send_opens_a_channel_that_is_open :
    FollowsAmqp ((Answers.client { send := -1, channel_max := 1 }).runs .idle 3 0
      [.connect, .channel none, .basic_ack 1 1 false] (World.new ())).2.self.conn.log ∧
    ¬ ObeysAmqp ((Answers.client { send := -1, channel_max := 1 }).runs .idle 3 0
      [.connect, .channel none, .basic_ack 1 1 false] (World.new ())).2.self.conn.log := by
  have hlog : ((Answers.client { send := -1, channel_max := 1 }).runs .idle 3 0
      [.connect, .channel none, .basic_ack 1 1 false] (World.new ())).2.self.conn.log =
      ([.amqp_new_connection, .other, .other, .amqp_socket_get_sockfd 3,
        .amqp_login (.normal (.other 0)), .other,
        .amqp_channel_open 1 (.normal (.other 0x0014000B)), .send 1 (-1), .amqp_send_close_ok 1 0,
        .amqp_channel_open 1 (.normal (.other 0x0014000B))] : List Event).map fun e => ⟨1, e⟩ := by
    rfl
  rw [hlog]
  constructor
  · apply inOrder_one_handle
    simp [InOrder, Channels.Followed, Event.Closes, amqp_rpc_reply_t.Closes]
  · intro hobeys
    have h := hobeys 1
    rw [eventsOf_one_handle, if_pos rfl] at h
    obtain ⟨_, _, _, _, _, _, _, _, hreported, _⟩ := h
    have hclosing := hreported (by decide)
    cases hclosing

end

end librabbitmq
