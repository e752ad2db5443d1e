-- The recovery from a reply: however the handler, the revival and the open call
-- each other, where the script of replies ends their recursion they return, and
-- they land in one of three states.
import Librabbitmq.Handles
import Librabbitmq.SyncReplies

namespace librabbitmq.recovery

open sync_replies

variable {σ κ : Type}

/-! ## Rows of calls -/

/-- The request is a `channel.open`. -/
def IsOpen : Event → Bool
  | .amqp_channel_open _ _ => true
  | _ => false

/-- A `channel.close-ok` that went out. -/
def IsSentCloseOk : Event → Bool
  | .amqp_send_close_ok _ status => decide (0 ≤ status)
  | _ => false

/-- As many channels are opened as are reported closed. -/
def Balanced (events : List Event) : Prop :=
  events.countP IsOpen = events.countP IsSentCloseOk

/-- The row ends with the open of a channel that the broker grants. -/
def EndsInOpen (events : List Event) : Prop :=
  ∃ front c m, events = front ++ [.amqp_channel_open c (.normal m)]

/-- The row ends with the one destruction of the handle. -/
def EndsInDestroy (events : List Event) : Prop :=
  ∃ front, events = front ++ [.amqp_connection_close, .amqp_destroy_connection] ∧
    front.countP Event.IsDestroy = 0

theorem EndsInOpen.cons {e : Event} {events : List Event} (h : EndsInOpen events) :
    EndsInOpen (e :: events) := by
  obtain ⟨front, c, m, rfl⟩ := h
  exact ⟨e :: front, c, m, rfl⟩

theorem EndsInDestroy.cons {e : Event} {events : List Event} (h : EndsInDestroy events)
    (he : e.IsDestroy = false) : EndsInDestroy (e :: events) := by
  obtain ⟨front, rfl, hfront⟩ := h
  exact ⟨e :: front, rfl, by rw [List.countP_cons, hfront, he]; rfl⟩

section

variable {x : Client σ κ} {fuel : Nat} {channel : UInt32} {reply : amqp_rpc_reply_t}
  {context : String} {w w' : World (Handles σ) κ} {r : Int}

/-- The replies and the statuses behind `reply` end the recursion: it is no `channel.close`, or
the revival that answers it settles. -/
def EndsRecursion (lib : RabbitMQC σ) (channel : amqp_channel_t) (reply : amqp_rpc_reply_t)
    (s : σ) : Prop := IsClose reply → Settles lib channel s

/-- Only such a script lets the handler return. -/
theorem endsRecursion_iff_returns : EndsRecursion x.env.lib channel.toUInt16 reply w.self.conn ↔
    ∃ fuel r w', PyRabbitMQ_HandleAMQError x.env fuel channel reply context w = (.ret r, w') := by
  constructor
  · intro h
    obtain ⟨k, hk⟩ := handle_returns reply context h
    exact ⟨k + 1, hk (k + 1) (Nat.lt_succ_self k)⟩
  · rintro ⟨fuel, r, w', h⟩ hclose
    refine (handle_fails ?_ h).2.2 hclose
    obtain ⟨m, rfl⟩ := hclose
    rintro ⟨m', hm⟩
    cases hm

end

end librabbitmq.recovery
