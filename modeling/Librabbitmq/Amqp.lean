-- The part of rabbitmq-c that the receive path calls: frames, replies and the
-- functions on an `amqp_connection_state_t`. The library is not in the
-- repository, so its functions are the fields of a structure, and each law
-- names what it needs of them.
import Librabbitmq.Tables

namespace librabbitmq

/-! ## Frames -/

abbrev amqp_channel_t := UInt16

/-- The `amqp_basic_deliver_t` of a delivery. -/
structure amqp_basic_deliver_t where
  consumer_tag : Octets
  delivery_tag : BitVec 64
  redelivered : Bool
  exchange : Octets
  routing_key : Octets

structure amqp_basic_get_ok_t where
  delivery_tag : BitVec 64
  redelivered : Bool
  exchange : Octets
  routing_key : Octets
  message_count : BitVec 32

/-- An `amqp_channel_close_t` or an `amqp_connection_close_t`. -/
structure amqp_close_t where
  reply_code : BitVec 16
  reply_text : Octets

/-- A method. `other` is a method that the extension has no case for. -/
inductive amqp_method_t where
  | basic_deliver (m : amqp_basic_deliver_t)
  | basic_get_ok (m : amqp_basic_get_ok_t)
  | channel_close (m : amqp_close_t)
  | connection_close (m : amqp_close_t)
  | other (id : BitVec 32)

/-- The id of a method. -/
def amqp_method_t.id : amqp_method_t → BitVec 32
  | .basic_deliver _ => 0x003C003C
  | .basic_get_ok _ => 0x003C0047
  | .channel_close _ => 0x00140028
  | .connection_close _ => 0x000A0032
  | .other id => id

/-- The `body_fragment` of a body frame. A frame has a 32-bit size. -/
structure body_fragment_t where
  bytes : Octets
  fits : bytes.length < 2 ^ 32

/-- The payload of a frame. `other` is a frame that is neither a method, nor a
header, nor a body. -/
inductive amqp_payload_t where
  | method (m : amqp_method_t)
  | header (body_size : BitVec 64) (properties : amqp_basic_properties_t)
  | body_fragment (b : body_fragment_t)
  | other (frame_type : UInt8) (h : frame_type ∉ [1, 2, 3])

/-- `AMQP_FRAME_METHOD`, `AMQP_FRAME_HEADER`, `AMQP_FRAME_BODY` and the rest. -/
def amqp_payload_t.frame_type : amqp_payload_t → UInt8
  | .method _ => 1
  | .header _ _ => 2
  | .body_fragment _ => 3
  | .other t _ => t

structure amqp_frame_t where
  channel : amqp_channel_t
  payload : amqp_payload_t

/-- The octets that a frame adds to a body. -/
def amqp_frame_t.octets (f : amqp_frame_t) : Octets :=
  match f.payload with
  | .body_fragment b => b.bytes
  | _ => []

def amqp_frame_t.IsBody (f : amqp_frame_t) : Prop := ∃ b, f.payload = .body_fragment b

def amqp_frame_t.IsMethod (f : amqp_frame_t) : Prop := ∃ m, f.payload = .method m

def amqp_frame_t.IsHeader (f : amqp_frame_t) : Prop := ∃ size props, f.payload = .header size props

/-- The octets of a row of body frames, in their order. -/
def bodyOctets (fs : List amqp_frame_t) : Octets := fs.flatMap amqp_frame_t.octets

@[simp] theorem bodyOctets_nil : bodyOctets [] = [] := rfl

@[simp] theorem bodyOctets_cons (f : amqp_frame_t) (fs : List amqp_frame_t) :
    bodyOctets (f :: fs) = f.octets ++ bodyOctets fs := rfl

@[simp] theorem bodyOctets_append (fs gs : List amqp_frame_t) :
    bodyOctets (fs ++ gs) = bodyOctets fs ++ bodyOctets gs := by
  simp [bodyOctets]

theorem amqp_frame_t.octets_lt (f : amqp_frame_t) : f.octets.length < 2 ^ 32 := by
  unfold amqp_frame_t.octets
  split
  · rename_i b _
    exact b.fits
  · simp

/-! ## Replies -/

/-- An `amqp_rpc_reply_t`. -/
inductive amqp_rpc_reply_t where
  | normal (reply : amqp_method_t)
  | none
  | library_exception (library_error : Int)
  | server_exception (reply : amqp_method_t)

/-- How a wait for a frame ends: with a frame and status 0, with a negative
status, or never. -/
inductive ReadResult where
  | ok (frame : amqp_frame_t)
  | failed (status : Int) (h : status < 0)
  | blocked

/-- What `select` says of the one descriptor, and the time that it took. -/
structure select_t where
  result : Int
  isset : Bool
  elapsed : Rat

/-! ## The library -/

/-- The functions of rabbitmq-c, and `select` on its socket, over its connection
states. A function that sends a request gives the reply that
`amqp_get_rpc_reply` reads after it. -/
structure RabbitMQC (σ : Type) where
  amqp_simple_wait_frame : σ → ReadResult × σ
  amqp_simple_wait_frame_on_channel : σ → amqp_channel_t → ReadResult × σ
  amqp_data_in_buffer : σ → Bool
  amqp_frames_enqueued : σ → Bool
  select : σ → Rat → select_t × σ
  /-- `amqp_send_method` of a `channel.close-ok`. -/
  amqp_send_close_ok : σ → amqp_channel_t → Int × σ
  amqp_channel_open : σ → amqp_channel_t → amqp_rpc_reply_t × σ
  amqp_channel_close : σ → amqp_channel_t → amqp_rpc_reply_t × σ
  amqp_basic_cancel : σ → amqp_channel_t → Octets → amqp_rpc_reply_t × σ
  amqp_basic_get : σ → amqp_channel_t → Octets → Bool → amqp_rpc_reply_t × σ
  /-- `amqp_connection_close` and `amqp_destroy_connection`. -/
  amqp_connection_close : σ → σ
  amqp_error_string2 : Int → Octets

namespace RabbitMQC

variable {σ : Type}

/-- `AMQP_ACTIVE_BUFFERS`. -/
def AMQP_ACTIVE_BUFFERS (lib : RabbitMQC σ) (s : σ) : Bool :=
  lib.amqp_data_in_buffer s || lib.amqp_frames_enqueued s

end RabbitMQC

/-! ## Rows of frames -/

section

variable {σ : Type}

/-- Waits, one after another, give these frames. -/
def Gives (wait : σ → ReadResult × σ) : σ → List amqp_frame_t → σ → Prop
  | s, [], s' => s = s'
  | s, f :: fs, s' => ∃ s1, wait s = (.ok f, s1) ∧ Gives wait s1 fs s'

/-- Waits on channel `c`, one after another, give these frames. -/
abbrev RabbitMQC.GivesOn (lib : RabbitMQC σ) (c : amqp_channel_t) :
    σ → List amqp_frame_t → σ → Prop :=
  Gives fun s => lib.amqp_simple_wait_frame_on_channel s c

variable {wait : σ → ReadResult × σ} {fs gs : List amqp_frame_t}

theorem Gives.append : ∀ {s s1 s2 : σ}, Gives wait s fs s1 → Gives wait s1 gs s2 →
    Gives wait s (fs ++ gs) s2 := by
  induction fs with
  | nil =>
    rintro s s1 s2 rfl h2
    exact h2
  | cons f fs ih =>
    rintro s s1 s2 ⟨s0, h0, h1⟩ h2
    exact ⟨s0, h0, ih h1 h2⟩

theorem Gives.snoc {f : amqp_frame_t} {s s1 s2 : σ} (h : Gives wait s fs s1)
    (hr : wait s1 = (.ok f, s2)) : Gives wait s (fs ++ [f]) s2 := h.append ⟨s2, hr, rfl⟩

theorem Gives.split : ∀ {s s2 : σ}, Gives wait s (fs ++ gs) s2 →
    ∃ s1, Gives wait s fs s1 ∧ Gives wait s1 gs s2 := by
  induction fs with
  | nil => exact fun {s _} h => ⟨s, rfl, h⟩
  | cons f fs ih =>
    rintro s s2 ⟨s0, h0, h⟩
    obtain ⟨s1, h1, h2⟩ := ih h
    exact ⟨s1, ⟨s0, h0, h1⟩, h2⟩

/-- The waits give one row of frames only: of two rows, one starts with the
other. -/
theorem Gives.prefix_or : ∀ {gs : List amqp_frame_t} {s s1 s2 : σ}, Gives wait s fs s1 →
    Gives wait s gs s2 → (∃ rest, gs = fs ++ rest ∧ Gives wait s1 rest s2) ∨
      ∃ rest, fs = gs ++ rest ∧ Gives wait s2 rest s1 := by
  induction fs with
  | nil =>
    rintro gs s s1 s2 rfl h2
    exact Or.inl ⟨gs, rfl, h2⟩
  | cons f fs ih =>
    rintro gs s s1 s2 ⟨s0, h0, h1⟩ h2
    cases gs with
    | nil =>
      cases h2
      exact Or.inr ⟨f :: fs, rfl, s0, h0, h1⟩
    | cons g gs =>
      obtain ⟨t0, g0, h2⟩ := h2
      rw [h0] at g0
      cases g0
      rcases ih h1 h2 with ⟨rest, rfl, hr⟩ | ⟨rest, rfl, hr⟩
      · exact Or.inl ⟨rest, rfl, hr⟩
      · exact Or.inr ⟨rest, rfl, hr⟩

/-- The row in front of a wait that failed is the longest one. -/
theorem Gives.longest {gs : List amqp_frame_t} {s s1 s2 s' : σ} {status : Int} {h : status < 0}
    (h1 : Gives wait s fs s1) (hr : wait s1 = (.failed status h, s')) (h2 : Gives wait s gs s2) :
    ∃ rest, fs = gs ++ rest := by
  rcases h1.prefix_or h2 with ⟨rest, rfl, hg⟩ | ⟨rest, he, _⟩
  · cases rest with
    | nil => exact ⟨[], by simp⟩
    | cons x rest =>
      obtain ⟨s3, hx, _⟩ := hg
      cases hr.symm.trans hx
  · exact ⟨rest, he⟩

end

end librabbitmq
