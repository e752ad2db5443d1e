-- The body loop of `PyRabbitMQ_recv`, for every row of body frames that the
-- library gives. One turn takes one frame; a row of turns leaves the variables
-- and the world as the frames of the row determine them.
import Librabbitmq.FrameQueue
import Librabbitmq.Buffer
import Mathlib.Data.List.Induction

namespace librabbitmq.body_loop

open buffer

variable {σ κ : Type}

/-! ## What a row of body frames determines -/

/-- `body_received` after the frames. -/
def received (fs : List amqp_frame_t) : BitVec 64 := BitVec.ofNat 64 (bodyOctets fs).length

/-- The octets since the counter `i` was last zero. -/
def lapOctets (fs : List amqp_frame_t) : Octets := bodyOctets (lap (2 ^ 32) fs)

/-- The loop reads all of the frames and leaves at none of them: octets are
missing before each frame, and after each frame at which `i` is zero. -/
def GoesOver (body_target : BitVec 64) (fs : List amqp_frame_t) : Prop :=
  ∀ pre f rest, fs = pre ++ f :: rest →
    (received pre).toInt < body_target.toInt ∧
    (pre.length % 2 ^ 32 = 0 → (received (pre ++ [f])).toInt < body_target.toInt)

/-- The variables after the frames. -/
def varsAfter (body_target : BitVec 64) (fs : List amqp_frame_t) : BodyVars :=
  if fs = [] then .init
  else
    { i := BitVec.ofNat 32 fs.length
      body_received := received fs
      payload := some (.bytes (overwrite (List.replicate body_target.toNat none) 0 (lapOctets fs)))
      buf := some (lapOctets fs).length
      view := some .payload }

/-- The stores of a copy of `len` octets. -/
def frameStores (size start len : Nat) : List Store :=
  (List.range len).map fun j => ⟨some size, start + j⟩

/-- Where the copy of the next frame starts. -/
def start (fs : List amqp_frame_t) : Nat :=
  if fs.length % 2 ^ 32 = 0 then 0 else (lapOctets fs).length

/-- The stores of the frames of a row, one frame after another. -/
inductive RowStores (size : Nat) : List amqp_frame_t → List Store → Prop
  | nil : RowStores size [] []
  | snoc {fs : List amqp_frame_t} {st : List Store} (f : amqp_frame_t) :
      RowStores size fs st →
      RowStores size (fs ++ [f]) (st ++ frameStores size (start fs) f.octets.length)

/-- The world after the frames. -/
def worldAfter (w : World σ κ) (fs : List amqp_frame_t) (st : List Store) (s : σ) : World σ κ :=
  { w.setConn s with reads := w.reads ++ fs, stores := w.stores ++ st }

/-- The frames that the body loop reads one after another, from a connection state
on, without leaving at one of them. -/
structure Reads (env : Env σ κ) (c : amqp_channel_t) (body_target : BitVec 64) (s : σ)
    (fs : List amqp_frame_t) (s' : σ) : Prop where
  gives : env.lib.GivesOn c s fs s'
  bodies : ∀ f ∈ fs, f.IsBody
  goesOver : GoesOver body_target fs
  available : fs ≠ [] → env.bytesAvailable body_target.toNat = true

/-- The body loop has gone over the frames `fs`. -/
structure Row (env : Env σ κ) (c : amqp_channel_t) (body_target : BitVec 64) (w : World σ κ)
    (fs : List amqp_frame_t) (v : BodyVars) (w' : World σ κ) : Prop where
  reads : Reads env c body_target w.self.conn fs w'.self.conn
  vars : v = varsAfter body_target fs
  world : ∃ st, RowStores body_target.toNat fs st ∧ w' = worldAfter w fs st w'.self.conn

theorem lapOctets_snoc (fs : List amqp_frame_t) (f : amqp_frame_t) :
    lapOctets (fs ++ [f]) =
      if fs.length % 2 ^ 32 = 0 then f.octets else lapOctets fs ++ f.octets := by
  unfold lapOctets
  rw [lap_snoc]
  split
  · simp
  · simp

theorem received_snoc (fs : List amqp_frame_t) (f : amqp_frame_t) :
    received (fs ++ [f]) = received fs + BitVec.ofNat 64 f.octets.length := by
  unfold received
  rw [bodyOctets_append, List.length_append, BitVec.ofNat_add]
  simp

theorem goesOver_snoc {body_target : BitVec 64} {fs : List amqp_frame_t} {f : amqp_frame_t} :
    GoesOver body_target (fs ++ [f]) ↔ GoesOver body_target fs ∧
      (received fs).toInt < body_target.toInt ∧
      (fs.length % 2 ^ 32 = 0 → (received (fs ++ [f])).toInt < body_target.toInt) := by
  constructor
  · intro h
    refine ⟨fun pre g rest he => ?_, h fs f [] rfl⟩
    exact h pre g (rest ++ [f]) (by rw [he]; simp)
  · rintro ⟨h, hlast⟩ pre g rest he
    rcases List.eq_nil_or_concat rest with rfl | ⟨rest, x, rfl⟩
    · obtain ⟨hpre, hfg⟩ := List.append_inj' he rfl
      have hfg : f = g := by simpa using hfg
      rw [← hpre, ← hfg]
      exact hlast
    · have he' : fs ++ [f] = (pre ++ g :: rest) ++ [x] := by rw [he]; simp
      exact h pre g rest (List.append_inj' he' rfl).1

@[simp] theorem varsAfter_received (body_target : BitVec 64) (fs : List amqp_frame_t) :
    (varsAfter body_target fs).body_received = received fs := by
  unfold varsAfter
  split
  · rename_i h
    rw [h]
    rfl
  · rfl

theorem varsAfter_i (body_target : BitVec 64) (fs : List amqp_frame_t) :
    (varsAfter body_target fs).i = 0 ↔ fs.length % 2 ^ 32 = 0 := by
  unfold varsAfter
  split
  · rename_i h
    rw [h]
    simp [BodyVars.init]
  · rw [← BitVec.toNat_inj]
    simp

theorem row_nil (env : Env σ κ) (c : amqp_channel_t) (body_target : BitVec 64) (w : World σ κ) :
    Row env c body_target w [] .init w := by
  refine ⟨⟨rfl, by simp, ?_, by simp⟩, rfl, [], .nil, ?_⟩
  · intro pre f rest h
    simp at h
  · simp [worldAfter, World.setConn]

/-! ## The counter of octets -/

/-- A number of octets below `2 ^ 63` is what the signed counter holds. -/
theorem toInt_received {fs : List amqp_frame_t} (h : (bodyOctets fs).length < 2 ^ 63) :
    (received fs).toInt = (bodyOctets fs).length := by
  unfold received
  rw [BitVec.toInt_ofNat']
  exact Int.bmod_eq_of_le (by omega) (by omega)

/-- A row that brings less than the target is gone over. -/
theorem goesOver_of_short {t : BitVec 64} {fs : List amqp_frame_t}
    (h : ((bodyOctets fs).length : Int) < t.toInt) : GoesOver t fs := by
  have hmax := BitVec.toInt_lt (x := t)
  have hshort : ∀ pre post, fs = pre ++ post → (received pre).toInt < t.toInt := by
    intro pre post he
    rw [he, bodyOctets_append, List.length_append] at h
    rw [toInt_received (by omega)]
    omega
  intro pre f rest he
  exact ⟨hshort pre (f :: rest) he, fun _ => hshort (pre ++ [f]) rest (by rw [he]; simp)⟩

/-- While the counter is short of the target, the target is not negative. -/
theorem toNat_of_pos {t : BitVec 64} (h : 0 < t.toInt) : (t.toNat : Int) = t.toInt := by
  have := BitVec.toInt_eq_toNat_cond t
  split at this <;> omega

/-- The counter wraps only for a target within one frame of the largest. -/
theorem counter_nonneg {t : BitVec 64} {fs : List amqp_frame_t} (h : GoesOver t fs) :
    0 ≤ (received fs).toInt ∨ 2 ^ 63 - 2 ^ 32 < t.toInt := by
  induction fs using List.reverseRecOn with
  | nil =>
    left
    simp [received]
  | append_singleton fs f ih =>
    obtain ⟨hfs, hlt, _⟩ := goesOver_snoc.mp h
    rcases ih hfs with h0 | h0
    · have hlen := f.octets_lt
      have hsum : (received (fs ++ [f])).toInt =
          ((received fs).toInt + f.octets.length).bmod (2 ^ 64) := by
        rw [received_snoc, BitVec.toInt_add, BitVec.toInt_ofNat', Int.add_bmod_bmod]
      by_cases hw : (received fs).toInt + f.octets.length < 2 ^ 63
      · left
        rw [hsum, Int.bmod_eq_of_le (by omega) (by omega)]
        omega
      · right
        omega
    · exact Or.inr h0

/-- The loop goes over a frame only for a target above 0. -/
theorem target_pos {env : Env σ κ} {c : amqp_channel_t} {t : BitVec 64} {s0 s : σ}
    {fs : List amqp_frame_t} (h : Reads env c t s0 fs s) (hne : fs ≠ []) : 0 < t.toInt := by
  cases fs with
  | nil => exact absurd rfl hne
  | cons f rest =>
    have hlt := (h.goesOver [] f rest rfl).1
    have h0 : (received []).toInt = 0 := rfl
    omega

theorem target_pos_of_lt {env : Env σ κ} {c : amqp_channel_t} {t : BitVec 64} {s0 s : σ}
    {fs : List amqp_frame_t} (h : Reads env c t s0 fs s) (hlt : (received fs).toInt < t.toInt) :
    0 < t.toInt := by
  rcases counter_nonneg h.goesOver with h0 | h0 <;> omega

/-- The signed counter is never ahead of the octets. -/
theorem received_le (fs : List amqp_frame_t) : (received fs).toInt ≤ (bodyOctets fs).length := by
  have hle : (received fs).toInt ≤ (received fs).toNat := by
    have := BitVec.toInt_eq_toNat_cond (received fs)
    split at this <;> omega
  have hnat : (received fs).toNat ≤ (bodyOctets fs).length := by
    unfold received
    rw [BitVec.toNat_ofNat]
    exact Nat.mod_le _ _
  omega

/-- A counter that has reached a target above 0 means as many octets. -/
theorem octets_of_full {t : BitVec 64} {fs : List amqp_frame_t} (hpos : 0 < t.toInt)
    (h : t.toInt ≤ (received fs).toInt) : t.toNat ≤ (bodyOctets fs).length := by
  have h1 := received_le fs
  have h2 := toNat_of_pos hpos
  omega

/-- Octets that are missing are missing for the counter, too. -/
theorem received_lt_of_missing {t : BitVec 64} {fs : List amqp_frame_t} (hpos : 0 < t.toInt)
    (h : (bodyOctets fs).length < t.toNat) : (received fs).toInt < t.toInt := by
  have h1 := received_le fs
  have h2 := toNat_of_pos hpos
  omega

/-! ## The copy of one frame -/

theorem frameStores_succ (size start len : Nat) :
    frameStores size start (len + 1) = ⟨some size, start⟩ :: frameStores size (start + 1) len := by
  unfold frameStores
  rw [List.range_succ_eq_map, List.map_cons, List.map_map, Nat.add_zero]
  congr 1
  apply List.map_congr_left
  intro j _
  simp only [Function.comp, Store.mk.injEq, true_and]
  omega

theorem copy_spec (b : Octets) : ∀ (v : BodyVars) (w : World σ κ) (at_ : Nat)
    (cells : List (Option UInt8)), v.buf = some at_ → v.payload = some (.bytes cells) →
    PyRabbitMQ_recv.copy b v w =
      (.ret { v with
        buf := some (at_ + b.length)
        payload := some (.bytes (overwrite cells at_ b)) },
        { w with stores := w.stores ++ frameStores cells.length at_ b.length }) := by
  induction b with
  | nil =>
    intro v w at_ cells hb hp
    obtain ⟨i, r, payload, buf, view⟩ := v
    simp only at hb hp
    subst hb hp
    simp [PyRabbitMQ_recv.copy, Run.pure_apply, overwrite, frameStores]
  | cons x xs ih =>
    intro v w at_ cells hb hp
    have hsize : v.size = some cells.length := by simp [BodyVars.size, hp]
    have hput : (v.put at_ x).payload = some (.bytes (cells.set at_ (some x))) := by
      simp [BodyVars.put, hp]
    rw [PyRabbitMQ_recv.copy, hb]
    simp only [Run.modify_bind_apply]
    rw [ih _ _ (at_ + 1) _ rfl hput, hsize]
    simp only [List.length_set, List.length_cons, overwrite, frameStores_succ, List.append_assoc,
      List.singleton_append]
    congr 2
    simp only [BodyVars.put, BodyVars.mk.injEq, Option.some.injEq, and_true, true_and]
    omega

theorem copyFragment_spec (b : Octets) (v : BodyVars) (w : World σ κ) (at_ : Nat)
    (cells : List (Option UInt8)) (hb : v.buf = some at_) (hp : v.payload = some (.bytes cells)) :
    PyRabbitMQ_recv.copyFragment b v w =
      (.ret (.inl { v with
        i := v.i + 1
        buf := some (at_ + b.length)
        payload := some (.bytes (overwrite cells at_ b)) }),
        { w with stores := w.stores ++ frameStores cells.length at_ b.length }) := by
  rw [PyRabbitMQ_recv.copyFragment, Run.bind_ret (copy_spec b v w at_ cells hb hp)]
  rfl

/-! ## One body frame -/

variable {env : Env σ κ} {p : Bool} {c : amqp_channel_t} {body_target : BitVec 64}

/-- A frame at which the loop goes on. -/
theorem fragment_goes_on {fs : List amqp_frame_t} {f : amqp_frame_t} (w : World σ κ)
    (hfirst : fs.length % 2 ^ 32 = 0 →
      (received (fs ++ [f])).toInt < body_target.toInt ∧
        env.bytesAvailable body_target.toNat = true) :
    PyRabbitMQ_recv.fragment env p body_target (varsAfter body_target fs) f.octets w =
      (.ret (.inl (varsAfter body_target (fs ++ [f]))),
        { w with stores := w.stores ++
          frameStores body_target.toNat (start fs) f.octets.length }) := by
  have hrec := received_snoc fs f
  have hi := varsAfter_i body_target fs
  unfold PyRabbitMQ_recv.fragment
  simp only [varsAfter_received, ← hrec]
  by_cases h0 : fs.length % 2 ^ 32 = 0
  · obtain ⟨hlt, hav⟩ := hfirst h0
    have hi0 : (varsAfter body_target fs).i = 0 := hi.mpr h0
    simp only [hi0, if_true, hlt, hav]
    rw [copyFragment_spec _ _ _ 0 (List.replicate body_target.toNat none) rfl rfl]
    have hlap : lapOctets (fs ++ [f]) = f.octets := by rw [lapOctets_snoc, if_pos h0]
    have hnext : BitVec.ofNat 32 (fs.length + 1) = 0 + 1 := by
      rw [← hi0]
      unfold varsAfter
      split
      · rename_i h
        rw [h]
        rfl
      · rw [BitVec.ofNat_add]
        rfl
    have hstart : start fs = 0 := by
      unfold start
      exact if_pos h0
    simp [varsAfter, hlap, hstart, hnext]
  · have hne : fs ≠ [] := by
      rintro rfl
      exact h0 rfl
    have hi0 : (varsAfter body_target fs).i ≠ 0 := fun h => h0 (hi.mp h)
    simp only [hi0, if_false]
    rw [copyFragment_spec _ _ _ (lapOctets fs).length
      (overwrite (List.replicate body_target.toNat none) 0 (lapOctets fs))
      (by simp [varsAfter, hne]) (by simp [varsAfter, hne])]
    have hlap : lapOctets (fs ++ [f]) = lapOctets fs ++ f.octets := by
      rw [lapOctets_snoc, if_neg h0]
    have happ := overwrite_append (lapOctets fs) f.octets (List.replicate body_target.toNat none) 0
    rw [Nat.zero_add] at happ
    have hstart : start fs = (lapOctets fs).length := by
      unfold start
      exact if_neg h0
    simp [varsAfter, hne, hlap, hstart, happ, BitVec.ofNat_add]

theorem octets_of_body {f : amqp_frame_t} {b : body_fragment_t} (h : f.payload = .body_fragment b) :
    f.octets = b.bytes := by
  unfold amqp_frame_t.octets
  rw [h]

/-! ## How the loop is left -/

/-- What the loop does after the frames `fs` when it does not go on. -/
inductive Ends (env : Env σ κ) (p : Bool) (c : amqp_channel_t) (body_target : BitVec 64)
    (fs : List amqp_frame_t) (w : World σ κ) : BodyEnd → World σ κ → Prop
  /-- No octet is missing. -/
  | full : body_target.toInt ≤ (received fs).toInt →
      Ends env p c body_target fs w (.done (varsAfter body_target fs)) w
  /-- The read fails. -/
  | cut (status : Int) (h : status < 0) (s : σ) :
      (received fs).toInt < body_target.toInt →
      env.lib.amqp_simple_wait_frame_on_channel w.self.conn c = (.failed status h, s) →
      Ends env p c body_target fs w (.done (varsAfter body_target fs)) (w.setConn s)
  /-- A method frame. -/
  | method (f : amqp_frame_t) (m : amqp_method_t) (s : σ) :
      (received fs).toInt < body_target.toInt →
      env.lib.amqp_simple_wait_frame_on_channel w.self.conn c = (.ok f, s) →
      f.payload = .method m →
      Ends env p c body_target fs w (.altframe f.channel m) (w.afterRead f s)
  /-- A frame that is neither a method nor a body. -/
  | unexpected (f : amqp_frame_t) (s : σ) :
      (received fs).toInt < body_target.toInt →
      env.lib.amqp_simple_wait_frame_on_channel w.self.conn c = (.ok f, s) →
      ¬ f.IsMethod → ¬ f.IsBody →
      Ends env p c body_target fs w .goto_finally ((w.afterRead f s).setErr
        (some ⟨.ChannelError, "Expected body, got unexpected frame", []⟩))
  /-- No memory for the payload. -/
  | noMemory (f : amqp_frame_t) (s : σ) :
      (received fs).toInt < body_target.toInt →
      env.lib.amqp_simple_wait_frame_on_channel w.self.conn c = (.ok f, s) → f.IsBody →
      fs.length % 2 ^ 32 = 0 → (received (fs ++ [f])).toInt < body_target.toInt →
      env.bytesAvailable body_target.toNat = false →
      Ends env p c body_target fs w .goto_finally
        ((w.afterRead f s).setErr (some (.raised .MemoryError)))
  /-- A frame that completes the body where `i` is zero, for a `get`. -/
  | whole (f : amqp_frame_t) (s : σ) :
      (received fs).toInt < body_target.toInt →
      env.lib.amqp_simple_wait_frame_on_channel w.self.conn c = (.ok f, s) → f.IsBody →
      fs.length % 2 ^ 32 = 0 → body_target.toInt ≤ (received (fs ++ [f])).toInt → p = true →
      Ends env p c body_target fs w
        (.done { varsAfter body_target fs with
          body_received := received (fs ++ [f])
          payload := (utf8Decode f.octets).map fun t => .str (.str t) })
        ((w.afterRead f s).setErr (PySTRING_FROM_AMQBYTES f.octets w.err).2)
  /-- The same for a callback. -/
  | viewed (f : amqp_frame_t) (s : σ) :
      (received fs).toInt < body_target.toInt →
      env.lib.amqp_simple_wait_frame_on_channel w.self.conn c = (.ok f, s) → f.IsBody →
      fs.length % 2 ^ 32 = 0 → body_target.toInt ≤ (received (fs ++ [f])).toInt → p = false →
      Ends env p c body_target fs w
        (.done { varsAfter body_target fs with
          body_received := received (fs ++ [f])
          view := some (.fragment f.octets) })
        (w.afterRead f s)

/-- The world after a turn that goes on. -/
def worldNext (body_target : BitVec 64) (fs : List amqp_frame_t) (f : amqp_frame_t)
    (w : World σ κ) (s : σ) : World σ κ :=
  { w.afterRead f s with
    stores := w.stores ++ frameStores body_target.toNat (start fs) f.octets.length }

theorem turn_full {fs : List amqp_frame_t} {w : World σ κ}
    (h : body_target.toInt ≤ (received fs).toInt) :
    PyRabbitMQ_recv.turn env p c body_target (varsAfter body_target fs) w =
      (.ret (.inr (.done (varsAfter body_target fs))), w) := by
  unfold PyRabbitMQ_recv.turn
  rw [varsAfter_received, if_neg (by omega)]
  rfl

theorem turn_cut {fs : List amqp_frame_t} {w : World σ κ} {status : Int} {hs : status < 0} {s : σ}
    (h : (received fs).toInt < body_target.toInt)
    (hr : env.lib.amqp_simple_wait_frame_on_channel w.self.conn c = (.failed status hs, s)) :
    PyRabbitMQ_recv.turn env p c body_target (varsAfter body_target fs) w =
      (.ret (.inr (.done (varsAfter body_target fs))), w.setConn s) := by
  have hread : amqp_simple_wait_frame_on_channel env c w = (.ret (.error status), w.setConn s) :=
    readFrame_failed hr
  unfold PyRabbitMQ_recv.turn
  rw [varsAfter_received, if_pos h, Run.bind_ret hread]
  rfl

theorem turn_blocked {fs : List amqp_frame_t} {w : World σ κ} {s : σ}
    (h : (received fs).toInt < body_target.toInt)
    (hr : env.lib.amqp_simple_wait_frame_on_channel w.self.conn c = (.blocked, s)) :
    PyRabbitMQ_recv.turn env p c body_target (varsAfter body_target fs) w =
      (.hang, w.setConn s) := by
  have hread : amqp_simple_wait_frame_on_channel env c w = (.hang, w.setConn s) :=
    readFrame_blocked hr
  unfold PyRabbitMQ_recv.turn
  rw [varsAfter_received, if_pos h, Run.bind_hang hread]

/-- A turn that reads a frame is the turn's `match` on that frame. -/
theorem turn_read {fs : List amqp_frame_t} {w : World σ κ} {f : amqp_frame_t} {s : σ}
    (h : (received fs).toInt < body_target.toInt)
    (hr : env.lib.amqp_simple_wait_frame_on_channel w.self.conn c = (.ok f, s)) :
    PyRabbitMQ_recv.turn env p c body_target (varsAfter body_target fs) w =
      (match f.payload with
        | .method m => pure (.inr (.altframe f.channel m))
        | .body_fragment b =>
          PyRabbitMQ_recv.fragment env p body_target (varsAfter body_target fs) b.bytes
        | _ => do
          PyErr_SetString ⟨.ChannelError, "Expected body, got unexpected frame", []⟩
          return .inr .goto_finally : Run (World σ κ) (BodyVars ⊕ BodyEnd)) (w.afterRead f s) := by
  have hread : amqp_simple_wait_frame_on_channel env c w = (.ret (.ok f), w.afterRead f s) :=
    readFrame_ok hr
  unfold PyRabbitMQ_recv.turn
  rw [varsAfter_received, if_pos h]
  exact Run.bind_ret hread

theorem turn_body {fs : List amqp_frame_t} {w : World σ κ} {f : amqp_frame_t} {s : σ}
    (h : (received fs).toInt < body_target.toInt)
    (hr : env.lib.amqp_simple_wait_frame_on_channel w.self.conn c = (.ok f, s))
    (hf : f.IsBody) :
    PyRabbitMQ_recv.turn env p c body_target (varsAfter body_target fs) w =
      PyRabbitMQ_recv.fragment env p body_target (varsAfter body_target fs) f.octets
        (w.afterRead f s) := by
  obtain ⟨b, hb⟩ := hf
  rw [turn_read h hr, hb, octets_of_body hb]

/-- A frame at which the loop goes on. -/
theorem turn_goes_on {fs : List amqp_frame_t} {w : World σ κ} {f : amqp_frame_t} {s : σ}
    (h : (received fs).toInt < body_target.toInt)
    (hr : env.lib.amqp_simple_wait_frame_on_channel w.self.conn c = (.ok f, s))
    (hf : f.IsBody)
    (hfirst : fs.length % 2 ^ 32 = 0 → (received (fs ++ [f])).toInt < body_target.toInt ∧
      env.bytesAvailable body_target.toNat = true) :
    PyRabbitMQ_recv.turn env p c body_target (varsAfter body_target fs) w =
      (.ret (.inl (varsAfter body_target (fs ++ [f]))), worldNext body_target fs f w s) := by
  rw [turn_body h hr hf, fragment_goes_on _ hfirst]
  rfl

/-- A frame that completes the body where `i` is zero. -/
theorem fragment_whole {fs : List amqp_frame_t} {f : amqp_frame_t} (w : World σ κ)
    (h0 : fs.length % 2 ^ 32 = 0) (hfull : body_target.toInt ≤ (received (fs ++ [f])).toInt) :
    PyRabbitMQ_recv.fragment env p body_target (varsAfter body_target fs) f.octets w =
      if p then
        (.ret (.inr (.done { varsAfter body_target fs with
          body_received := received (fs ++ [f])
          payload := (utf8Decode f.octets).map fun t => .str (.str t) })),
          w.setErr (PySTRING_FROM_AMQBYTES f.octets w.err).2)
      else
        (.ret (.inr (.done { varsAfter body_target fs with
          body_received := received (fs ++ [f])
          view := some (.fragment f.octets) })), w) := by
  have hi : (varsAfter body_target fs).i = 0 := (varsAfter_i body_target fs).mpr h0
  have hlt : ¬ (received (fs ++ [f])).toInt < body_target.toInt := by omega
  unfold PyRabbitMQ_recv.fragment
  simp only [varsAfter_received, ← received_snoc, hi, if_true, hlt, if_false]
  cases p with
  | false => rfl
  | true =>
    simp only [if_true]
    cases hd : utf8Decode f.octets with
    | some t =>
      have hstr : ∀ err, PySTRING_FROM_AMQBYTES f.octets err = (.str t, err) := fun err => by
        simp [PySTRING_FROM_AMQBYTES, PyUnicode_FromStringAndSize, hd]
      rw [Run.bind_ret (withErr_ret (congrArg Outcome.ret (hstr w.err))), hstr]
      rfl
    | none =>
      have hnull : ∀ err, PySTRING_FROM_AMQBYTES f.octets err =
          (.null, some (.raised .UnicodeDecodeError)) := fun err => by
        simp [PySTRING_FROM_AMQBYTES, PyUnicode_FromStringAndSize, hd]
      rw [Run.bind_ret (withErr_ret (congrArg Outcome.ret (hnull w.err))), hnull]
      rfl

theorem fragment_noMemory {fs : List amqp_frame_t} {f : amqp_frame_t} (w : World σ κ)
    (h0 : fs.length % 2 ^ 32 = 0) (hlt : (received (fs ++ [f])).toInt < body_target.toInt)
    (hav : env.bytesAvailable body_target.toNat = false) :
    PyRabbitMQ_recv.fragment env p body_target (varsAfter body_target fs) f.octets w =
      (.ret (.inr .goto_finally), w.setErr (some (.raised .MemoryError))) := by
  have hi : (varsAfter body_target fs).i = 0 := (varsAfter_i body_target fs).mpr h0
  unfold PyRabbitMQ_recv.fragment
  simp only [varsAfter_received, ← received_snoc, hi, if_true, hlt, hav]
  rfl

/-- What a turn does after the frames `fs`: it goes on over one more frame, it
leaves the loop, or the read blocks. -/
theorem turn_cases (env : Env σ κ) (p : Bool) (c : amqp_channel_t) (body_target : BitVec 64)
    (fs : List amqp_frame_t) (w : World σ κ) :
    (∃ f s, (received fs).toInt < body_target.toInt ∧
      env.lib.amqp_simple_wait_frame_on_channel w.self.conn c = (.ok f, s) ∧ f.IsBody ∧
      (fs.length % 2 ^ 32 = 0 → (received (fs ++ [f])).toInt < body_target.toInt ∧
        env.bytesAvailable body_target.toNat = true) ∧
      PyRabbitMQ_recv.turn env p c body_target (varsAfter body_target fs) w =
        (.ret (.inl (varsAfter body_target (fs ++ [f]))), worldNext body_target fs f w s)) ∨
    (∃ e w', Ends env p c body_target fs w e w' ∧
      PyRabbitMQ_recv.turn env p c body_target (varsAfter body_target fs) w =
        (.ret (.inr e), w')) ∨
    (∃ s, PyRabbitMQ_recv.turn env p c body_target (varsAfter body_target fs) w =
      (.hang, w.setConn s)) := by
  by_cases h : (received fs).toInt < body_target.toInt
  · rcases hr : env.lib.amqp_simple_wait_frame_on_channel w.self.conn c with ⟨r, s⟩
    cases r with
    | blocked => exact Or.inr (Or.inr ⟨s, turn_blocked h hr⟩)
    | failed status hs => exact Or.inr (Or.inl ⟨_, _, .cut status hs s h hr, turn_cut h hr⟩)
    | ok f =>
      have hturn := turn_read (p := p) h hr
      cases hp : f.payload with
      | method m =>
        rw [hp] at hturn
        exact Or.inr (Or.inl ⟨_, _, .method f m s h hr hp, hturn⟩)
      | header size props =>
        rw [hp] at hturn
        have hm : ¬ f.IsMethod := by simp [amqp_frame_t.IsMethod, hp]
        have hb : ¬ f.IsBody := by simp [amqp_frame_t.IsBody, hp]
        exact Or.inr (Or.inl ⟨_, _, .unexpected f s h hr hm hb, hturn⟩)
      | other t ht =>
        rw [hp] at hturn
        have hm : ¬ f.IsMethod := by simp [amqp_frame_t.IsMethod, hp]
        have hb : ¬ f.IsBody := by simp [amqp_frame_t.IsBody, hp]
        exact Or.inr (Or.inl ⟨_, _, .unexpected f s h hr hm hb, hturn⟩)
      | body_fragment b =>
        have hf : f.IsBody := ⟨b, hp⟩
        have hbody := turn_body (p := p) h hr hf
        by_cases h0 : fs.length % 2 ^ 32 = 0
        · by_cases hlt : (received (fs ++ [f])).toInt < body_target.toInt
          · cases hav : env.bytesAvailable body_target.toNat with
            | true =>
              exact Or.inl ⟨f, s, h, rfl, hf, fun _ => ⟨hlt, rfl⟩,
                turn_goes_on h hr hf fun _ => ⟨hlt, hav⟩⟩
            | false =>
              rw [fragment_noMemory _ h0 hlt hav] at hbody
              exact Or.inr (Or.inl ⟨_, _, .noMemory f s h hr hf h0 hlt hav, hbody⟩)
          · have hfull : body_target.toInt ≤ (received (fs ++ [f])).toInt := by omega
            rw [fragment_whole _ h0 hfull] at hbody
            cases p with
            | true => exact Or.inr (Or.inl ⟨_, _, .whole f s h hr hf h0 hfull rfl, hbody⟩)
            | false => exact Or.inr (Or.inl ⟨_, _, .viewed f s h hr hf h0 hfull rfl, hbody⟩)
        · exact Or.inl ⟨f, s, h, rfl, hf, fun h1 => absurd h1 h0,
            turn_goes_on h hr hf fun h1 => absurd h1 h0⟩
  · exact Or.inr (Or.inl ⟨_, _, .full (by omega), turn_full (by omega)⟩)

/-- Each way to leave the loop is the one that the turn takes. -/
theorem turn_of_ends {fs : List amqp_frame_t} {w w' : World σ κ} {e : BodyEnd}
    (h : Ends env p c body_target fs w e w') :
    PyRabbitMQ_recv.turn env p c body_target (varsAfter body_target fs) w =
      (.ret (.inr e), w') := by
  cases h with
  | full hfull => exact turn_full hfull
  | cut status hs s h hr => exact turn_cut h hr
  | method f m s h hr hp =>
    rw [turn_read h hr, hp]
    rfl
  | unexpected f s h hr hm hb =>
    rw [turn_read h hr]
    cases hp : f.payload with
    | method m => exact absurd ⟨m, hp⟩ hm
    | body_fragment b => exact absurd ⟨b, hp⟩ hb
    | header size props => rfl
    | other t ht => rfl
  | noMemory f s h hr hf h0 hlt hav => rw [turn_body h hr hf, fragment_noMemory _ h0 hlt hav]
  | whole f s h hr hf h0 hfull hp =>
    rw [turn_body h hr hf, fragment_whole _ h0 hfull, if_pos hp]
    rfl
  | viewed f s h hr hf h0 hfull hp =>
    rw [turn_body h hr hf, fragment_whole _ h0 hfull, hp]
    rfl

/-! ## Rows of turns -/

variable {w w' w'' : World σ κ} {fs : List amqp_frame_t} {v : BodyVars}

theorem reads_snoc {f : amqp_frame_t} {s0 s s' : σ} (h : Reads env c body_target s0 fs s)
    (hlt : (received fs).toInt < body_target.toInt)
    (hr : env.lib.amqp_simple_wait_frame_on_channel s c = (.ok f, s')) (hf : f.IsBody)
    (hfirst : fs.length % 2 ^ 32 = 0 → (received (fs ++ [f])).toInt < body_target.toInt ∧
      env.bytesAvailable body_target.toNat = true) :
    Reads env c body_target s0 (fs ++ [f]) s' := by
  refine ⟨h.gives.snoc hr, ?_, ?_, ?_⟩
  · intro g hg
    rcases List.mem_append.mp hg with hg | hg
    · exact h.bodies g hg
    · rw [List.mem_singleton.mp hg]
      exact hf
  · exact goesOver_snoc.mpr ⟨h.goesOver, hlt, fun h0 => (hfirst h0).1⟩
  · intro _
    by_cases hne : fs = []
    · exact (hfirst (by rw [hne]; rfl)).2
    · exact h.available hne

/-- The frames before the last one. -/
theorem reads_init {f : amqp_frame_t} {s0 s' : σ} (h : Reads env c body_target s0 (fs ++ [f]) s') :
    ∃ s, Reads env c body_target s0 fs s ∧ (received fs).toInt < body_target.toInt ∧
      env.lib.amqp_simple_wait_frame_on_channel s c = (.ok f, s') ∧ f.IsBody ∧
      (fs.length % 2 ^ 32 = 0 → (received (fs ++ [f])).toInt < body_target.toInt ∧
        env.bytesAvailable body_target.toNat = true) := by
  obtain ⟨s, hg, s2, hr, rfl⟩ := h.gives.split
  obtain ⟨ho, hlt, hfirst⟩ := goesOver_snoc.mp h.goesOver
  have hav := h.available (by simp)
  exact ⟨s, ⟨hg, fun g hg => h.bodies g (List.mem_append_left _ hg), ho, fun _ => hav⟩, hlt, hr,
    h.bodies f (by simp), fun h0 => ⟨hfirst h0, hav⟩⟩

/-- One more frame at which the loop goes on. -/
theorem row_snoc {f : amqp_frame_t} {s : σ} (h : Row env c body_target w fs v w')
    (hlt : (received fs).toInt < body_target.toInt)
    (hr : env.lib.amqp_simple_wait_frame_on_channel w'.self.conn c = (.ok f, s)) (hf : f.IsBody)
    (hfirst : fs.length % 2 ^ 32 = 0 → (received (fs ++ [f])).toInt < body_target.toInt ∧
      env.bytesAvailable body_target.toNat = true) :
    Row env c body_target w (fs ++ [f]) (varsAfter body_target (fs ++ [f]))
      (worldNext body_target fs f w' s) := by
  obtain ⟨st, hst, hw⟩ := h.world
  refine ⟨reads_snoc h.reads hlt hr hf hfirst, rfl, _, hst.snoc f, ?_⟩
  rw [hw]
  simp [worldNext, worldAfter, World.afterReads, World.setConn]

/-- A row of turns is a row of body frames. -/
theorem row_of_turns {n : Nat}
    (h : Run.Turns (PyRabbitMQ_recv.turn env p c body_target) n .init w v w') :
    ∃ fs, fs.length = n ∧ Row env c body_target w fs v w' := by
  have hP := Run.turns_induction
    (fun k v w' => ∃ fs, fs.length = k ∧ Row env c body_target w fs v w') ?_
    (k := 0) ⟨[], rfl, row_nil env c body_target w⟩ h
  · rwa [Nat.zero_add] at hP
  · rintro k v1 w1 v2 w2 ⟨fs, rfl, hrow⟩ ht
    have hv := hrow.vars
    subst hv
    rcases turn_cases env p c body_target fs w1 with
      ⟨f, s, hlt, hr, hf, hfirst, h1⟩ | ⟨e, w3, _, h1⟩ | ⟨s, h1⟩
    · rw [ht] at h1
      cases h1
      exact ⟨fs ++ [f], by simp, row_snoc hrow hlt hr hf hfirst⟩
    · rw [ht] at h1
      cases h1
    · rw [ht] at h1
      cases h1

/-- The loop goes over every row of body frames that it can go over. -/
theorem turns_of_reads {s : σ} (h : Reads env c body_target w.self.conn fs s) :
    ∃ w', Run.Turns (PyRabbitMQ_recv.turn env p c body_target) fs.length .init w
        (varsAfter body_target fs) w' ∧
      Row env c body_target w fs (varsAfter body_target fs) w' ∧ w'.self.conn = s := by
  induction fs using List.reverseRecOn generalizing s with
  | nil =>
    have hs : w.self.conn = s := h.gives
    exact ⟨w, ⟨rfl, rfl⟩, row_nil env c body_target w, hs⟩
  | append_singleton fs f ih =>
    obtain ⟨s1, hreads, hlt, hr, hf, hfirst⟩ := reads_init h
    obtain ⟨w1, ht, hrow, rfl⟩ := ih hreads
    refine ⟨worldNext body_target fs f w1 s, ?_, row_snoc hrow hlt hr hf hfirst, rfl⟩
    rw [List.length_append]
    exact Run.turns_snoc ht (turn_goes_on hlt hr hf hfirst)

/-- The loop over a row of frames, and how it is left there. -/
theorem loop_of_reads {s : σ} (h : Reads env c body_target w.self.conn fs s) :
    ∃ w', Row env c body_target w fs (varsAfter body_target fs) w' ∧ w'.self.conn = s ∧
      ∀ e w'' fuel, Ends env p c body_target fs w' e w'' → fs.length < fuel →
        Run.loop (PyRabbitMQ_recv.turn env p c body_target) fuel .init w = (.ret e, w'') := by
  obtain ⟨w', ht, hrow, hs⟩ := turns_of_reads (p := p) h
  exact ⟨w', hrow, hs, fun e w'' fuel he hf => Run.loop_leave ht (turn_of_ends he) hf⟩

/-- A loop that returns has gone over some row of frames. -/
theorem frames_of_loop {fuel : Nat} {e : BodyEnd}
    (h : Run.loop (PyRabbitMQ_recv.turn env p c body_target) fuel .init w = (.ret e, w'')) :
    ∃ fs w', Row env c body_target w fs (varsAfter body_target fs) w' ∧
      Ends env p c body_target fs w' e w'' := by
  obtain ⟨n, v, w', ht, hlast⟩ := Run.turns_of_loop h
  obtain ⟨fs, _, hrow⟩ := row_of_turns ht
  have hv := hrow.vars
  subst hv
  refine ⟨fs, w', hrow, ?_⟩
  rcases turn_cases env p c body_target fs w' with
    ⟨f, s, _, _, _, _, h1⟩ | ⟨e', w3, he, h1⟩ | ⟨s, h1⟩
  · rw [hlast] at h1
    cases h1
  · rw [hlast] at h1
    cases h1
    exact he
  · rw [hlast] at h1
    cases h1

/-! ## What any turn leaves alone -/

/-- Stores are only added, and nothing is called. -/
structure Grows (w w' : World σ κ) : Prop where
  stores : w.stores <+: w'.stores
  calls : w'.calls = w.calls

theorem Grows.refl (w : World σ κ) : Grows w w := ⟨List.prefix_refl _, rfl⟩

theorem Grows.trans (h : Grows w w') (h' : Grows w' w'') : Grows w w'' :=
  ⟨h.stores.trans h'.stores, h'.calls.trans h.calls⟩

theorem Grows.of_eq (hs : w'.stores = w.stores) (hc : w'.calls = w.calls) : Grows w w' :=
  ⟨hs ▸ List.prefix_refl _, hc⟩

theorem copy_grows (b : Octets) : ∀ (v : BodyVars) (w : World σ κ),
    Grows w (PyRabbitMQ_recv.copy b v w).2 := by
  induction b with
  | nil => exact fun v w => Grows.refl w
  | cons x xs ih =>
    intro v w
    rw [PyRabbitMQ_recv.copy]
    cases v.buf with
    | none => exact ⟨List.prefix_append _ _, rfl⟩
    | some at_ =>
      simp only [Run.modify_bind_apply]
      have h : Grows w { w with stores := w.stores ++ [⟨v.size, at_⟩] } :=
        ⟨List.prefix_append _ _, rfl⟩
      exact h.trans (ih (v.put at_ x) _)

theorem copyFragment_grows (b : Octets) (v : BodyVars) (w : World σ κ) :
    Grows w (PyRabbitMQ_recv.copyFragment b v w).2 := by
  have h := copy_grows b v w
  unfold PyRabbitMQ_recv.copyFragment
  rw [Run.bind_apply]
  rcases hc : PyRabbitMQ_recv.copy b v w with ⟨o, w'⟩
  rw [hc] at h
  cases o <;> exact h

theorem fragment_grows (env : Env σ κ) (p : Bool) (t : BitVec 64) (v : BodyVars) (b : Octets)
    (w : World σ κ) : Grows w (PyRabbitMQ_recv.fragment env p t v b w).2 := by
  unfold PyRabbitMQ_recv.fragment
  split
  · split
    · split
      · exact copyFragment_grows b _ w
      · exact Grows.of_eq rfl rfl
    · split
      · rw [Run.bind_apply]
        cases hd : utf8Decode b with
        | some text =>
          simp only [withErr, PySTRING_FROM_AMQBYTES, PyUnicode_FromStringAndSize, hd]
          exact Grows.of_eq rfl rfl
        | none =>
          simp only [withErr, PySTRING_FROM_AMQBYTES, PyUnicode_FromStringAndSize, hd]
          exact Grows.of_eq rfl rfl
      · exact Grows.of_eq rfl rfl
  · exact copyFragment_grows b _ w

theorem turn_grows (env : Env σ κ) (p : Bool) (c : amqp_channel_t) (t : BitVec 64) (v : BodyVars)
    (w : World σ κ) : Grows w (PyRabbitMQ_recv.turn env p c t v w).2 := by
  unfold PyRabbitMQ_recv.turn
  split
  · unfold amqp_simple_wait_frame_on_channel
    rcases hr : env.lib.amqp_simple_wait_frame_on_channel w.self.conn c with ⟨r, s⟩
    cases r with
    | blocked =>
      rw [Run.bind_hang (readFrame_blocked hr)]
      exact Grows.of_eq rfl rfl
    | failed status h =>
      rw [Run.bind_ret (readFrame_failed hr)]
      exact Grows.of_eq rfl rfl
    | ok f =>
      rw [Run.bind_ret (readFrame_ok hr)]
      dsimp only
      cases f.payload with
      | body_fragment b =>
        have h : Grows w (w.afterRead f s) := Grows.of_eq rfl rfl
        exact h.trans (fragment_grows env p t v b.bytes (w.afterRead f s))
      | method m => exact Grows.of_eq rfl rfl
      | header size props => exact Grows.of_eq rfl rfl
      | other ft h => exact Grows.of_eq rfl rfl
  · exact Grows.of_eq rfl rfl

theorem loop_grows (env : Env σ κ) (p : Bool) (c : amqp_channel_t) (t : BitVec 64) (fuel : Nat)
    (v : BodyVars) (w : World σ κ) :
    Grows w (Run.loop (PyRabbitMQ_recv.turn env p c t) fuel v w).2 :=
  Run.loop_keeps Grows Grows.refl (fun _ _ _ => Grows.trans) (turn_grows env p c t) fuel v w

/-! ## What the loop leaves alone -/

/-- Leaving the loop stores nothing, calls nothing and keeps the books. -/
theorem ends_keeps {e : BodyEnd} (h : Ends env p c body_target fs w e w') :
    w'.stores = w.stores ∧ w'.calls = w.calls ∧ w'.self.callbacks = w.self.callbacks ∧
      w'.self.channels = w.self.channels := by
  cases h <;> exact ⟨rfl, rfl, rfl, rfl⟩

theorem row_keeps (h : Row env c body_target w fs v w') :
    w'.calls = w.calls ∧ w'.err = w.err ∧ w'.reads = w.reads ++ fs ∧
      w'.self = { w.self with conn := w'.self.conn } := by
  obtain ⟨st, _, hw⟩ := h.world
  rw [hw]
  exact ⟨rfl, rfl, rfl, rfl⟩

/-- Whether the loop returns or not, its stores are those of a row of frames. -/
theorem loop_stores (env : Env σ κ) (p : Bool) (c : amqp_channel_t) (body_target : BitVec 64)
    (fuel : Nat) (w : World σ κ) :
    ∃ fs v w', Row env c body_target w fs v w' ∧
      (Run.loop (PyRabbitMQ_recv.turn env p c body_target) fuel .init w).2.stores = w'.stores := by
  obtain ⟨n, v, w1, ht, h⟩ :=
    Run.loop_cases (PyRabbitMQ_recv.turn env p c body_target) fuel .init w
  obtain ⟨fs, _, hrow⟩ := row_of_turns ht
  have hv := hrow.vars
  subst hv
  refine ⟨fs, _, w1, hrow, ?_⟩
  have hturn := turn_cases env p c body_target fs w1
  rcases h with h | ⟨e, w2, h1, h⟩ | ⟨w2, h1, h⟩ | ⟨w2, h1, h⟩
  · rw [h]
  · rw [h]
    rcases hturn with ⟨f, s, _, _, _, _, h2⟩ | ⟨e', w3, he, h2⟩ | ⟨s, h2⟩
    · rw [h1] at h2
      cases h2
    · rw [h1] at h2
      cases h2
      exact (ends_keeps he).1
    · rw [h1] at h2
      cases h2
  · rcases hturn with ⟨f, s, _, _, _, _, h2⟩ | ⟨e', w3, he, h2⟩ | ⟨s, h2⟩ <;>
      rw [h1] at h2 <;> cases h2
  · rw [h]
    rcases hturn with ⟨f, s, _, _, _, _, h2⟩ | ⟨e', w3, he, h2⟩ | ⟨s, h2⟩
    · rw [h1] at h2
      cases h2
    · rw [h1] at h2
      cases h2
    · rw [h1] at h2
      cases h2
      rfl

end librabbitmq.body_loop
