-- What the laws assume of the order in which rabbitmq-c hands out frames, and
-- an instance: a queue of frames, frames that are read from the socket but not
-- yet taken, and the chunks that the socket still brings.
import Librabbitmq.Recv
import Librabbitmq.Mailbox
import Mathlib.Data.List.TakeWhile

namespace librabbitmq

open mailbox

/-! ## The assumption -/

/-- The frames of a connection state that are not yet consumed, in the order of
their arrival: a wait takes the oldest, and a wait on a channel the oldest of
that channel. -/
structure FrameOrder {σ : Type} (lib : RabbitMQC σ) (pending : σ → List amqp_frame_t) : Prop where
  wait : ∀ s f rest, pending s = f :: rest →
    ∃ s', lib.amqp_simple_wait_frame s = (.ok f, s') ∧ pending s' = rest
  waitOn : ∀ s c f rest, receive amqp_frame_t.channel c (pending s) = some (f, rest) →
    ∃ s', lib.amqp_simple_wait_frame_on_channel s c = (.ok f, s') ∧ pending s' = rest

/-- A poll finds the socket ready while frames are not yet consumed, and consumes
none. -/
def PollReady {σ : Type} (lib : RabbitMQC σ) (pending : σ → List amqp_frame_t) : Prop :=
  ∀ s timeout, pending s ≠ [] → lib.AMQP_ACTIVE_BUFFERS s = false →
    0 < (lib.select s timeout).1.result ∧ (lib.select s timeout).1.isset = true ∧
      pending (lib.select s timeout).2 = pending s

/-- The frames at the head of a channel's queue are given one after another, and
all other frames stay, in their order. -/
theorem FrameOrder.givesOn {σ : Type} {lib : RabbitMQC σ} {pending : σ → List amqp_frame_t}
    (h : FrameOrder lib pending) (c : amqp_channel_t) {rest : List amqp_frame_t} :
    ∀ (fs : List amqp_frame_t) (s : σ),
      ofKey amqp_frame_t.channel c (pending s) = fs ++ rest →
      ∃ s', lib.GivesOn c s fs s' ∧ ofKey amqp_frame_t.channel c (pending s') = rest ∧
        (∀ j, j ≠ c → ofKey amqp_frame_t.channel j (pending s') =
          ofKey amqp_frame_t.channel j (pending s)) ∧ (pending s').Sublist (pending s) ∧
        (pending s).Perm (fs ++ pending s') := by
  intro fs
  induction fs with
  | nil => exact fun s hs => ⟨s, rfl, hs, fun _ _ => rfl, List.Sublist.refl _, List.Perm.refl _⟩
  | cons f fs ih =>
    intro s hs
    obtain ⟨r, hr, hrest⟩ := receive_of_ofKey hs
    obtain ⟨s1, hw, rfl⟩ := h.waitOn s c f r hr
    obtain ⟨s', hg, hc, hj, hsub, hperm⟩ := ih s1 hrest
    refine ⟨s', ⟨s1, hw, hg⟩, hc, fun j hne => ?_, hsub.trans (receive_sublist hr),
      (receive_perm hr).trans (hperm.cons f)⟩
    rw [hj j hne, (receive_ofKey hr).2 j hne]

/-! ## An instance -/

/-- A connection state. At the end of the wire a read fails if the peer has
closed the socket, and blocks otherwise. -/
structure Socket where
  queued : List amqp_frame_t
  buffered : List amqp_frame_t
  wire : List (List amqp_frame_t)
  closed : Bool

namespace Socket

def pending (s : Socket) : List amqp_frame_t := s.queued ++ s.buffered ++ s.wire.flatten

/-- A read when nothing is left. -/
def atEnd (closed : Bool) : ReadResult := if closed then .failed (-1) (by decide) else .blocked

/-- A wait when the queue is empty: the rest of the buffer, and then chunk after
chunk of the wire. -/
def waitSocket (closed : Bool) : List amqp_frame_t → List (List amqp_frame_t) → ReadResult × Socket
  | f :: buffered, wire => (.ok f, ⟨[], buffered, wire, closed⟩)
  | [], [] => (atEnd closed, ⟨[], [], [], closed⟩)
  | [], chunk :: wire => waitSocket closed chunk wire

def wait (s : Socket) : ReadResult × Socket :=
  match s.queued with
  | f :: queued => (.ok f, { s with queued := queued })
  | [] => waitSocket s.closed s.buffered s.wire

/-- A wait for a frame that fits, when the queue has none. The frames before it
are queued. -/
def waitSocketFor (closed : Bool) (fits : amqp_frame_t → Bool) (queued buffered : List amqp_frame_t)
    (wire : List (List amqp_frame_t)) : ReadResult × Socket :=
  match buffered.dropWhile fun f => !fits f with
  | f :: rest => (.ok f, ⟨queued ++ buffered.takeWhile (fun f => !fits f), rest, wire, closed⟩)
  | [] => match wire with
    | [] => (atEnd closed, ⟨queued ++ buffered, [], [], closed⟩)
    | chunk :: wire => waitSocketFor closed fits (queued ++ buffered) chunk wire

def waitOn (s : Socket) (c : amqp_channel_t) : ReadResult × Socket :=
  match receive amqp_frame_t.channel c s.queued with
  | some (f, queued) => (.ok f, { s with queued := queued })
  | none => waitSocketFor s.closed (fun f => f.channel = c) s.queued s.buffered s.wire

/-- `basic.get-ok`, or `basic.get-empty`, on a channel. -/
def isGetReply (c : amqp_channel_t) (f : amqp_frame_t) : Bool :=
  f.channel = c && match f.payload with
    | .method (.basic_get_ok _) => true
    | .method (.other id) => id = 0x003C0048
    | _ => false

/-- A request that waits for its reply on the socket. -/
def basicGet (s : Socket) (c : amqp_channel_t) : amqp_rpc_reply_t × Socket :=
  match waitSocketFor s.closed (isGetReply c) s.queued s.buffered s.wire with
  | (.ok ⟨_, .method m⟩, s) => (.normal m, s)
  | (_, s) => (.library_exception (-1), s)

/-- Every other request is answered at once. -/
def lib : RabbitMQC Socket where
  amqp_simple_wait_frame := wait
  amqp_simple_wait_frame_on_channel := waitOn
  amqp_data_in_buffer s := !s.buffered.isEmpty
  amqp_frames_enqueued s := !s.queued.isEmpty
  select s _ := (⟨if s.wire.isEmpty then 0 else 1, !s.wire.isEmpty, 0⟩, s)
  amqp_send_close_ok s _ := (0, s)
  amqp_channel_open s _ := (.normal (.other 0x0014000B), s)
  amqp_channel_close s _ := (.normal (.other 0x00140029), s)
  amqp_basic_cancel s _ _ := (.normal (.other 0x003C001F), s)
  amqp_basic_get s c _ _ := basicGet s c
  amqp_connection_close s := s
  amqp_error_string2 _ := []

theorem waitSocket_order (closed : Bool) (f : amqp_frame_t) (rest : List amqp_frame_t) :
    ∀ (wire : List (List amqp_frame_t)) (buffered : List amqp_frame_t),
      buffered ++ wire.flatten = f :: rest →
      ∃ s', waitSocket closed buffered wire = (.ok f, s') ∧ s'.pending = rest := by
  intro wire
  induction wire with
  | nil =>
    intro buffered h
    cases buffered with
    | nil => cases h
    | cons g buffered =>
      rw [List.cons_append] at h
      cases h
      exact ⟨_, by rw [waitSocket], rfl⟩
  | cons chunk wire ih =>
    intro buffered h
    cases buffered with
    | nil =>
      rw [waitSocket]
      exact ih chunk h
    | cons g buffered =>
      rw [List.cons_append] at h
      cases h
      exact ⟨_, by rw [waitSocket], rfl⟩

/-- Where a frame of two rows stands: in the second, or in the first. -/
theorem split_append {pre post buffered more : List amqp_frame_t} {f : amqp_frame_t}
    (h : buffered ++ more = pre ++ f :: post) :
    (∃ pre', pre = buffered ++ pre' ∧ more = pre' ++ f :: post) ∨
      ∃ rest, buffered = pre ++ f :: rest ∧ post = rest ++ more := by
  rcases List.append_eq_append_iff.mp h with ⟨a, ha, hm⟩ | ⟨c, hc, hm⟩
  · exact Or.inl ⟨a, ha, hm⟩
  · cases c with
    | nil => exact Or.inl ⟨[], by simpa using hc.symm, by simpa using hm.symm⟩
    | cons x c =>
      rw [List.cons_append] at hm
      cases hm
      exact Or.inr ⟨c, hc, rfl⟩

/-- The first frame that fits is found in the buffer. -/
theorem waitSocketFor_found (closed : Bool) {fits : amqp_frame_t → Bool} {f : amqp_frame_t}
    (queued : List amqp_frame_t) {pre rest : List amqp_frame_t} (wire : List (List amqp_frame_t))
    (hf : fits f = true) (hpre : ∀ g ∈ pre, fits g = false) :
    waitSocketFor closed fits queued (pre ++ f :: rest) wire =
      (.ok f, ⟨queued ++ pre, rest, wire, closed⟩) := by
  have hpre' : ∀ g ∈ pre, (!fits g) = true := fun g hg => by rw [hpre g hg]; rfl
  have hdrop : (pre ++ f :: rest).dropWhile (fun f => !fits f) = f :: rest := by
    rw [List.dropWhile_append_of_pos hpre', List.dropWhile_cons, hf]
    rfl
  have htake : (pre ++ f :: rest).takeWhile (fun f => !fits f) = pre := by
    rw [List.takeWhile_append_of_pos hpre', List.takeWhile_cons, hf]
    simp
  cases wire <;> rw [waitSocketFor, hdrop, htake]

/-- A buffer without a frame that fits is queued. -/
theorem waitSocketFor_next (closed : Bool) {fits : amqp_frame_t → Bool}
    (queued : List amqp_frame_t) {buffered : List amqp_frame_t} (chunk : List amqp_frame_t)
    (wire : List (List amqp_frame_t)) (h : ∀ g ∈ buffered, fits g = false) :
    waitSocketFor closed fits queued buffered (chunk :: wire) =
      waitSocketFor closed fits (queued ++ buffered) chunk wire := by
  have hdrop : buffered.dropWhile (fun f => !fits f) = [] := by
    rw [List.dropWhile_eq_nil_iff]
    intro g hg
    rw [h g hg]
    rfl
  rw [waitSocketFor, hdrop]

/-- The first frame that fits is taken out of the frames of the socket, and the
frames before it are queued. -/
theorem waitSocketFor_order (closed : Bool) {fits : amqp_frame_t → Bool} {f : amqp_frame_t}
    {post : List amqp_frame_t} (hf : fits f = true) : ∀ (wire : List (List amqp_frame_t))
      (queued buffered pre : List amqp_frame_t),
      buffered ++ wire.flatten = pre ++ f :: post → (∀ g ∈ pre, fits g = false) →
      ∃ s', waitSocketFor closed fits queued buffered wire = (.ok f, s') ∧
        s'.queued = queued ++ pre ∧ s'.buffered ++ s'.wire.flatten = post := by
  intro wire
  induction wire with
  | nil =>
    intro queued buffered pre h hpre
    rcases split_append h with ⟨pre', _, hm⟩ | ⟨rest, rfl, rfl⟩
    · cases pre' <;> cases hm
    · exact ⟨_, waitSocketFor_found closed queued [] hf hpre, rfl, rfl⟩
  | cons chunk wire ih =>
    intro queued buffered pre h hpre
    rcases split_append h with ⟨pre', rfl, hm⟩ | ⟨rest, rfl, rfl⟩
    · have hall : ∀ g ∈ buffered, fits g = false := fun g hg =>
        hpre g (List.mem_append_left _ hg)
      obtain ⟨s', h1, h2, h3⟩ := ih (queued ++ buffered) chunk pre' hm fun g hg =>
        hpre g (List.mem_append_right _ hg)
      refine ⟨s', ?_, by rw [h2, List.append_assoc], h3⟩
      rw [waitSocketFor_next closed queued chunk wire hall]
      exact h1
    · exact ⟨_, waitSocketFor_found closed queued (chunk :: wire) hf hpre, rfl, rfl⟩

/-- What a wait for a frame gives fits. -/
theorem waitSocketFor_fits {closed : Bool} {fits : amqp_frame_t → Bool} {f : amqp_frame_t}
    {s' : Socket} : ∀ (wire : List (List amqp_frame_t)) (queued buffered : List amqp_frame_t),
      waitSocketFor closed fits queued buffered wire = (.ok f, s') → fits f = true := by
  -- the head of what `dropWhile` leaves
  have hhead : ∀ (buffered rest : List amqp_frame_t) (g : amqp_frame_t),
      buffered.dropWhile (fun f => !fits f) = g :: rest → fits g = true := by
    intro buffered rest g h
    have hnot := List.head?_dropWhile_not (fun f => !fits f) buffered
    rw [h] at hnot
    simpa using hnot
  intro wire
  induction wire with
  | nil =>
    intro queued buffered h
    rw [waitSocketFor] at h
    split at h
    · rename_i g rest hdrop
      cases h
      exact hhead _ _ _ hdrop
    · unfold atEnd at h
      split at h <;> cases h
  | cons chunk wire ih =>
    intro queued buffered h
    rw [waitSocketFor] at h
    split at h
    · rename_i g rest hdrop
      cases h
      exact hhead _ _ _ hdrop
    · exact ih _ _ h

theorem waitOn_channel {s s' : Socket} {c : amqp_channel_t} {f : amqp_frame_t}
    (h : waitOn s c = (.ok f, s')) : f.channel = c := by
  unfold waitOn at h
  split at h
  · rename_i hr
    cases h
    exact receive_key hr
  · exact of_decide_eq_true (@waitSocketFor_fits _ (fun f => f.channel = c) _ _ _ _ _ h)

/-- The instance hands out frames in the order that the laws assume. -/
theorem frameOrder : FrameOrder lib pending := by
  refine ⟨?_, ?_⟩
  · intro s f rest h
    obtain ⟨queued, buffered, wire, closed⟩ := s
    cases queued with
    | nil => exact waitSocket_order closed f rest wire buffered (by simpa [pending] using h)
    | cons g queued =>
      have h' : g :: (queued ++ buffered ++ wire.flatten) = f :: rest := by
        simpa [pending] using h
      cases h'
      exact ⟨_, rfl, rfl⟩
  · intro s c f rest h
    obtain ⟨queued, buffered, wire, closed⟩ := s
    unfold pending at h
    rw [List.append_assoc, receive_append] at h
    dsimp only [lib, waitOn]
    cases hq : receive amqp_frame_t.channel c queued with
    | some r =>
      obtain ⟨g, queued'⟩ := r
      rw [hq] at h
      cases h
      exact ⟨_, rfl, by simp [pending]⟩
    | none =>
      rw [hq] at h
      obtain ⟨⟨g, r⟩, hr, he⟩ := Option.map_eq_some_iff.mp h
      cases he
      obtain ⟨pre, post, hsplit, rfl, hkey, hpre⟩ := receive_split hr
      have hfits : decide (g.channel = c) = true := decide_eq_true hkey
      obtain ⟨s', h1, h2, h3⟩ := @waitSocketFor_order closed (fun f => f.channel = c) g post hfits
        wire queued buffered pre hsplit fun g hg => decide_eq_false (hpre g hg)
      refine ⟨s', h1, ?_⟩
      unfold pending
      rw [h2, List.append_assoc, h3, List.append_assoc]

theorem pollReady : PollReady lib pending := by
  rintro ⟨queued, buffered, wire, closed⟩ timeout hne hactive
  cases queued with
  | cons f queued => simp [RabbitMQC.AMQP_ACTIVE_BUFFERS, lib] at hactive
  | nil =>
    cases buffered with
    | cons f buffered => simp [RabbitMQC.AMQP_ACTIVE_BUFFERS, lib] at hactive
    | nil =>
      cases wire with
      | nil => exact absurd rfl hne
      | cons chunk wire => exact ⟨Int.zero_lt_one, rfl, rfl⟩

/-- A wait for a frame at the head of the buffer. -/
theorem waitOn_buffered (closed : Bool) (c : amqp_channel_t) {f : amqp_frame_t}
    (fs : List amqp_frame_t) (hf : f.channel = c) :
    waitOn ⟨[], f :: fs, [], closed⟩ c = (.ok f, ⟨[], fs, [], closed⟩) :=
  @waitSocketFor_found closed (fun f => f.channel = c) f [] [] fs [] (decide_eq_true hf)
    fun _ hg => by cases hg

theorem givesOn_buffered (closed : Bool) (c : amqp_channel_t) (rest : List amqp_frame_t) :
    ∀ fs : List amqp_frame_t, (∀ f ∈ fs, f.channel = c) →
      lib.GivesOn c ⟨[], fs ++ rest, [], closed⟩ fs ⟨[], rest, [], closed⟩ := by
  intro fs
  induction fs with
  | nil => exact fun _ => rfl
  | cons f fs ih =>
    intro h
    exact ⟨_, waitOn_buffered closed c (fs ++ rest) (h f (by simp)),
      ih fun g hg => h g (by simp [hg])⟩

theorem waitSocketFor_closed (closed : Bool) (fits : amqp_frame_t → Bool) :
    ∀ (wire : List (List amqp_frame_t)) (queued buffered : List amqp_frame_t),
      (waitSocketFor closed fits queued buffered wire).2.closed = closed := by
  intro wire
  induction wire with
  | nil =>
    intro queued buffered
    rw [waitSocketFor]
    split <;> rfl
  | cons chunk wire ih =>
    intro queued buffered
    rw [waitSocketFor]
    split
    · rfl
    · exact ih _ _

theorem waitOn_closed (s : Socket) (c : amqp_channel_t) : (waitOn s c).2.closed = s.closed := by
  unfold waitOn
  split
  · rfl
  · exact waitSocketFor_closed _ _ _ _ _

theorem givesOn_closed {c : amqp_channel_t} : ∀ {fs : List amqp_frame_t} {s s' : Socket},
    lib.GivesOn c s fs s' → s'.closed = s.closed := by
  intro fs
  induction fs with
  | nil =>
    rintro s s' rfl
    rfl
  | cons f fs ih =>
    rintro s s' ⟨s1, hr, hg⟩
    have h := waitOn_closed s c
    rw [show waitOn s c = (.ok f, s1) from hr] at h
    rw [ih hg, h]

/-- A read of a socket that is open does not fail. -/
theorem waitSocketFor_ne_failed (fits : amqp_frame_t → Bool) {status : Int} {h : status < 0}
    {s' : Socket} : ∀ (wire : List (List amqp_frame_t)) (queued buffered : List amqp_frame_t),
      waitSocketFor false fits queued buffered wire ≠ (.failed status h, s') := by
  intro wire
  induction wire with
  | nil =>
    intro queued buffered
    rw [waitSocketFor]
    split
    · simp
    · simp [atEnd]
  | cons chunk wire ih =>
    intro queued buffered
    rw [waitSocketFor]
    split
    · simp
    · exact ih _ _

theorem waitOn_ne_failed {s s' : Socket} (hs : s.closed = false) (c : amqp_channel_t)
    {status : Int} {h : status < 0} : waitOn s c ≠ (.failed status h, s') := by
  unfold waitOn
  split
  · simp
  · rw [hs]
    exact waitSocketFor_ne_failed _ _ _ _

/-! ## An application

A callback returns, or raises the exception that it is. -/

def env : Env Socket (Option PyErr) where
  lib := lib
  python := .lenient
  bytesAvailable _ := true
  fresh _ := 0
  invoke callback _ self := (self, callback)

/-- A connection with channel 1 open and the consumer "tag" on it. -/
def world (s : Socket) (callback : Option PyErr) : World Socket (Option PyErr) where
  self :=
    { conn := s
      connected := true
      sockfd := 3
      callbacks := [(1, [(pyStr "tag", callback)])]
      channels := [(1, 0)]
      objects := fun _ => ⟨1, true, []⟩
      _used_channel_ids := [1] }
  err := none
  reads := []
  calls := []
  stores := []

/-- A connection whose socket brings these frames, and then no more. -/
def bringing (fs : List amqp_frame_t) : Socket := ⟨[], fs, [], false⟩

/-- A `basic.deliver` to the consumer "tag", on channel 1. -/
def deliver (delivery_tag : BitVec 64) : amqp_frame_t :=
  ⟨1, .method (.basic_deliver ⟨[116, 97, 103], delivery_tag, false, [], []⟩)⟩

/-- A header, on channel 1, with no properties. -/
def header (body_size : BitVec 64) : amqp_frame_t := ⟨1, .header body_size .empty⟩

/-- A body frame on channel 1. -/
def body (bytes : Octets) (h : bytes.length < 2 ^ 32) : amqp_frame_t :=
  ⟨1, .body_fragment ⟨bytes, h⟩⟩

/-- A body frame of one octet. -/
def octet (b : UInt8) : amqp_frame_t :=
  body [b] (by rw [List.length_singleton]; decide)

/-- A body frame of none. -/
def emptyBody : amqp_frame_t :=
  body [] (by decide)

/-- A connection whose socket brings a delivery to the consumer "tag": its header
and what comes behind it. -/
def content (body_size : BitVec 64) (fs : List amqp_frame_t) : Socket :=
  bringing (deliver 1 :: header body_size :: fs)

end Socket

end librabbitmq
