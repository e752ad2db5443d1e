-- Calls that fail, and closes that come too late: when the tables of the channels stay
-- as they are.
import Librabbitmq.Handshakes

namespace librabbitmq.bookkeeping

variable {σ κ : Type} {x : Client σ κ} {w w' : World (Handles σ) κ}

/-! ## Calls that raise -/

/-- The tables and the flags of the channels are the same. -/
structure Untouched (before after : Connection (Handles σ) κ) : Prop where
  channels : after.channels = before.channels
  callbacks : after.callbacks = before.callbacks
  used : after._used_channel_ids = before._used_channel_ids
  is_open : ∀ a, (after.objects a).is_open = (before.objects a).is_open

/-- The call is an open or a close of a channel, and raises. -/
def Raises (x : Client σ κ) (fuel : Nat) (w : World (Handles σ) κ) : Op κ → Prop
  | .channel channel_id =>
    ∃ e w', Connection.channel x.env fuel channel_id w = (.ret (.error e), w')
  | .Channel_close a => ∃ e w', Channel.close x.env fuel a w = (.ret (.error e), w')
  | _ => False

/-- A `channel()` finds no free number that fits; a close finds its `Channel` closed. -/
def Idle (w : World (Handles σ) κ) : Op κ → Prop
  | .channel none => ∀ n, freeChannelId w.self.channel_max w.self._used_channel_ids = some n →
      2 ^ 16 ≤ n
  | .Channel_close a => (w.self.objects a).is_open = false
  | _ => True

/-- An open that raises changes no table. -/
theorem Opens.untouched {channel_id : Int} {e : PyErr} {self' : Connection (Handles σ) κ}
    (h : Opens x w channel_id (.ret (.error e)) self') : Untouched w.self self' := by
  cases h with
  | offline => exact ⟨rfl, rfl, rfl, fun _ => rfl⟩
  | raised => exact ⟨rfl, rfl, rfl, fun _ => rfl⟩

theorem channel_none_atomic_iff (fuel : Nat) {e : PyErr}
    (h : Connection.channel x.env (fuel + 1) none w = (.ret (.error e), w')) :
    Untouched w.self w'.self ↔ Idle w (.channel none) := by
  rcases channel_none_cases x.env (fuel + 1) w with ⟨e', hfull, hrun⟩ | ⟨n, hfree, hlt, hrun⟩
  · rw [h] at hrun
    cases hrun
    refine ⟨fun _ n hfree => ?_, fun _ => ⟨rfl, rfl, rfl, fun _ => rfl⟩⟩
    rcases hfull with ⟨hnone, _⟩ | ⟨m, hfree', hm⟩
    · rw [hnone] at hfree
      cases hfree
    · rw [hfree'] at hfree
      cases hfree
      exact hm
  · have hopens := open_opens x fuel n { w with self := w.self.taken n }
    rw [← hrun, h] at hopens
    have huntouched := Opens.untouched hopens
    constructor
    · intro hsame
      have hused : w.self._used_channel_ids ++ [n] = w.self._used_channel_ids :=
        huntouched.used.symm.trans hsame.used
      simp at hused
    · intro hidle
      have := hidle n hfree
      omega

theorem channel_some_atomic (fuel : Nat) {channel_id : Int} {e : PyErr}
    (h : Connection.channel x.env (fuel + 1) (some channel_id) w = (.ret (.error e), w')) :
    Untouched w.self w'.self := by
  rcases channel_some_cases x.env (fuel + 1) channel_id w with ⟨a, _, hrun⟩ | ⟨_, hrun⟩
  · rw [h] at hrun
    cases hrun
  · have hopens := open_opens x fuel channel_id w
    rw [← hrun, h] at hopens
    exact Opens.untouched hopens

theorem untouched_marked_iff {self : Connection (Handles σ) κ} {a : Nat} :
    Untouched self (self.marked a) ↔ (self.objects a).is_open = false := by
  constructor
  · intro h
    rw [← h.is_open a]
    simp [Connection.marked]
  · intro h
    refine ⟨rfl, rfl, rfl, fun b => ?_⟩
    by_cases hb : b = a
    · subst hb
      simp [Connection.marked, h]
    · simp [Connection.marked, hb]

theorem Channel_close_atomic_iff (fuel : Nat) {a : Nat} {e : PyErr}
    (h : Channel.close x.env fuel a w = (.ret (.error e), w')) :
    Untouched w.self w'.self ↔ Idle w (.Channel_close a) := by
  have hshuts := close_shuts x fuel a w
  rw [h] at hshuts
  change Untouched w.self w'.self ↔ (w.self.objects a).is_open = false
  rw [← untouched_marked_iff]
  generalize w'.self = self' at hshuts
  cases hshuts with
  | offline => exact Iff.rfl
  | raised =>
    exact ⟨fun hsame => ⟨rfl, rfl, rfl, hsame.is_open⟩, fun hsame => ⟨rfl, rfl, rfl, hsame.is_open⟩⟩

/-- In every program, at every `Connection.channel` and `Channel.close` that raises: the
tables and the flags stay the same if and only if there was no number to take, or no flag
to clear. -/
theorem a_call_that_raises_changes_nothing_exactly_when_idle (x : Client σ κ) (fuel : Nat)
    (ops : List (Op κ)) (w : World (Handles σ) κ) :
    x.EachCall (fuel + 1) (fun w op => Raises x (fuel + 1) w op →
      (Untouched w.self (x.exec (fuel + 1) op w).2.self ↔ Idle w op)) ops w := by
  refine eachCall_of_forall (fun w op hraises => ?_) ops w
  cases op with
  | channel channel_id =>
    obtain ⟨e, w', hrun⟩ := hraises
    have hexec : (x.exec (fuel + 1) (.channel channel_id) w).2 = w' := by
      unfold Client.exec
      rw [called_snd, hrun]
    rw [hexec]
    cases channel_id with
    | none => exact channel_none_atomic_iff fuel hrun
    | some channel_id => exact ⟨fun _ => trivial, fun _ => channel_some_atomic fuel hrun⟩
  | Channel_close a =>
    obtain ⟨e, w', hrun⟩ := hraises
    have hexec : (x.exec (fuel + 1) (.Channel_close a) w).2 = w' := by
      unfold Client.exec
      rw [called_snd, hrun]
    rw [hexec]
    exact Channel_close_atomic_iff (fuel + 1) hrun
  | _ => exact hraises.elim

/-- A `channel()` of a connection that is not there takes a number all the same. -/
theorem a_channel_that_raises_keeps_its_number :
    ¬ (Answers.client {}).EachCall 1 (fun w op => Raises (Answers.client {}) 1 w op →
      Untouched w.self ((Answers.client {}).exec 1 op w).2.self) [.channel none]
      (World.new () 1) := by
  intro h
  have hused := (h.1 ⟨_, _, rfl⟩).used
  cases hused

/-! ## Closes that come too late -/

/-- The channel is open at the broker. -/
def OpenAt (self : Connection (Handles σ) κ) (c : amqp_channel_t) : Prop :=
  self.connected = true ∧ (self.heard c).isOpen = true

/-- The tables and the channels at the broker are the same. -/
structure Unharmed (before after : Connection (Handles σ) κ) : Prop where
  channels : after.channels = before.channels
  callbacks : after.callbacks = before.callbacks
  used : after._used_channel_ids = before._used_channel_ids
  openAt : ∀ c, OpenAt after c ↔ OpenAt before c

/-- There is no connection; or the number of the `Channel` is in no table and not open,
and the broker answers; or no channel is open, and the close fails. -/
def HitsNothing (x : Client σ κ) (w : World (Handles σ) κ) (a : Nat) : Prop :=
  w.self.connected = false ∨
  ((∃ m, x.closeReply w.self a = .normal m) ∧
    (w.self.objects a).channel_id ∉ w.self.channels.map Prod.fst ∧
    (w.self.objects a).channel_id ∉ w.self.callbacks.map Prod.fst ∧
    (w.self.objects a).channel_id ∉ w.self._used_channel_ids ∧
    ¬ OpenAt w.self (channelNumber (w.self.objects a).channel_id)) ∨
  ((x.closeReply w.self a).IsFailure ∧ ∀ c, ¬ OpenAt w.self c)

theorem pop_of_not_mem {ν : Type} {d : Dict Int ν} {n : Int} (h : n ∉ d.map Prod.fst) :
    d.pop n = d := by
  unfold Dict.pop
  rw [List.filter_eq_self]
  intro e he
  have hne : e.1 ≠ n := by
    rintro rfl
    exact h (List.mem_map_of_mem he)
  simpa using hne

/-- A close that the broker answers, of a channel that is not open there. -/
theorem openAt_shut {a : Nat} {m : amqp_method_t} {st : σ}
    (hclosed : ¬ OpenAt w.self (channelNumber (w.self.objects a).channel_id)) {ending : Ending}
    (hending : ending ≠ .closed) (c : amqp_channel_t) :
    OpenAt (w.self.shut a (.normal m) [] ending st) c ↔ OpenAt w.self c := by
  have hheard : (w.self.shut a (.normal m) [] ending st).heard =
      w.self.heard.set (channelNumber (w.self.objects a).channel_id) ⟨false, false⟩ := by
    have hconn : (w.self.shut a (.normal m) [] ending st).conn = w.self.conn.note
        [.amqp_channel_close (channelNumber (w.self.objects a).channel_id) (.normal m)] st := rfl
    rw [heard_note hconn]
    rfl
  have hconnected : (w.self.shut a (.normal m) [] ending st).connected = w.self.connected := by
    simp [Connection.shut, Connection.after, Connection.marked, hending]
  unfold OpenAt
  rw [hheard, hconnected]
  by_cases hc : c = channelNumber (w.self.objects a).channel_id
  · subst hc
    rw [Channels.set_self]
    constructor
    · rintro ⟨_, h⟩
      cases h
    · exact fun h => absurd h hclosed
  · rw [Channels.set_ne _ _ hc]

theorem close_unharmed {fuel a : Nat} {r : Except PyErr Unit} (h : HitsNothing x w a)
    (hrun : Channel.close x.env fuel a w = (.ret r, w')) : Unharmed w.self w'.self := by
  have hshuts := close_shuts x fuel a w
  rw [hrun] at hshuts
  dsimp only at hshuts
  generalize hr : Outcome.ret r = o at hshuts
  generalize w'.self = self' at hshuts
  cases hshuts with
  | offline => exact ⟨rfl, rfl, rfl, fun _ => Iff.rfl⟩
  | @raised events ending st e hc hh he =>
    rcases h with hoff | ⟨⟨m, hm⟩, _, _, _, hclosed⟩ | ⟨hf, hnone⟩
    · rw [hc] at hoff
      cases hoff
    · rw [hm] at hh ⊢
      obtain ⟨rfl, hending⟩ := handled_of_normal hh
      refine ⟨rfl, rfl, rfl, openAt_shut hclosed ?_⟩
      rcases hending with rfl | rfl <;> simp
    · rcases handled_of_failure hh hf with rfl | rfl
      · refine ⟨rfl, rfl, rfl, fun c => ⟨fun hopen => ?_, fun hopen => absurd hopen (hnone c)⟩⟩
        have hoff := hopen.1
        simp [Connection.shut, Connection.after] at hoff
      · exact he.elim
  | @forgotten events ending st hc hh hending =>
    rcases h with hoff | ⟨⟨m, hm⟩, hchannels, hcallbacks, hused, hclosed⟩ | ⟨hf, _⟩
    · rw [hc] at hoff
      cases hoff
    · rw [hm] at hh ⊢
      obtain ⟨rfl, _⟩ := handled_of_normal hh
      refine ⟨pop_of_not_mem hchannels, pop_of_not_mem hcallbacks, List.erase_of_not_mem hused,
        fun c => openAt_shut hclosed ?_ c⟩
      rcases hending with rfl | rfl <;> simp
    · rcases handled_of_failure hh hf with rfl | rfl <;> simp at hending
  | hung => cases hr

/-- In every program whose closes of stale Channels hit nothing, these closes change
neither the tables nor the channels at the broker. -/
theorem a_stale_close_that_hits_nothing_is_harmless (x : Client σ κ) (fuel : Nat)
    (ops : List (Op κ)) (w : World (Handles σ) κ)
    (hops : x.EachCall fuel (fun w op => ∀ a, op = .Channel_close a → ¬ Registered w.self a →
      HitsNothing x w a) ops w) :
    x.EachCall fuel (fun w op => ∀ a r w', op = .Channel_close a → ¬ Registered w.self a →
      Channel.close x.env fuel a w = (.ret r, w') → Unharmed w.self w'.self) ops w :=
  eachCall_of_invariant (I := fun _ => True) (fun _ _ _ _ _ _ => trivial)
    (fun _ _ _ hcall a _ _ hop hstale hrun => close_unharmed (hcall a hop hstale) hrun) trivial hops

/-- A channel that is closed twice. -/
theorem a_second_close_is_harmless :
    (Answers.client { channel_max := 1 }).EachCall 2 (fun w op => ∀ a r w', op = .Channel_close a →
      ¬ Registered w.self a → Channel.close (Answers.client { channel_max := 1 }).env 2 a w =
        (.ret r, w') → Unharmed w.self w'.self)
      [.channel none, .Channel_close 0, .Channel_close 0]
      ((Answers.client { channel_max := 1 }).exec 2 .connect (World.new ())).2 := by
  apply a_stale_close_that_hits_nothing_is_harmless
  refine eachCall_cons (fun a hop => by cases hop) rfl ?_
  refine eachCall_cons (fun a hop hstale => ?_) rfl ?_
  · cases hop
    exact absurd rfl hstale
  refine eachCall_cons (fun a hop hstale => ?_) rfl trivial
  cases hop
  refine Or.inr (Or.inl ⟨⟨_, rfl⟩, List.not_mem_nil, List.not_mem_nil, List.not_mem_nil, ?_⟩)
  rintro ⟨_, hopen⟩
  cases hopen

/-- The second close of a channel closes the one that has its number now. -/
theorem a_stale_close_closes_another_channel :
    ¬ (Answers.client { channel_max := 1 }).EachCall 2 (fun w op => ∀ a r w',
      op = .Channel_close a → ¬ Registered w.self a →
      Channel.close (Answers.client { channel_max := 1 }).env 2 a w = (.ret r, w') →
      Unharmed w.self w'.self)
      [.channel none, .Channel_close 0, .channel none, .Channel_close 0]
      ((Answers.client { channel_max := 1 }).exec 2 .connect (World.new ())).2 := by
  intro h
  have hchannels := ((((h.2 _ rfl).2 _ rfl).2 _ rfl).1 0 _ _ rfl (by rintro ⟨⟩) rfl).channels
  cases hchannels

end librabbitmq.bookkeeping
