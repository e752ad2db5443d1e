-- A well-formed content: a header, and fragments that bring as many octets as it
-- announces. What the reads of its frames come to, for a callback and for a
-- `get`.
import Librabbitmq.Delivery
import Librabbitmq.Properties

namespace librabbitmq

open body_loop delivery

/-- A content as a broker sends it. -/
structure Content where
  body_size : BitVec 64
  properties : amqp_basic_properties_t
  fragments : List body_fragment_t
  nonempty : ∀ b ∈ fragments, b.bytes ≠ []
  sum : (fragments.flatMap body_fragment_t.bytes).length = body_size.toNat

namespace Content

/-! ## The frames -/

def octets (x : Content) : Octets := x.fragments.flatMap body_fragment_t.bytes

def header (x : Content) (c : amqp_channel_t) : amqp_frame_t :=
  ⟨c, .header x.body_size x.properties⟩

/-- The body frames of some fragments. -/
def bodyFrames (c : amqp_channel_t) (fragments : List body_fragment_t) : List amqp_frame_t :=
  fragments.map fun b => ⟨c, .body_fragment b⟩

def bodies (x : Content) (c : amqp_channel_t) : List amqp_frame_t := bodyFrames c x.fragments

@[simp] theorem length_bodyFrames (c : amqp_channel_t) (fragments : List body_fragment_t) :
    (bodyFrames c fragments).length = fragments.length := List.length_map ..

theorem bodyFrames_isBody (c : amqp_channel_t) (fragments : List body_fragment_t) :
    ∀ f ∈ bodyFrames c fragments, f.IsBody := by
  intro f hf
  obtain ⟨b, _, rfl⟩ := List.mem_map.mp hf
  exact ⟨b, rfl⟩

theorem bodyOctets_bodyFrames (c : amqp_channel_t) (fragments : List body_fragment_t) :
    bodyOctets (bodyFrames c fragments) = fragments.flatMap body_fragment_t.bytes := by
  unfold bodyOctets bodyFrames
  rw [List.flatMap_map]
  rfl

variable (x : Content) (c : amqp_channel_t)

@[simp] theorem length_bodies : (x.bodies c).length = x.fragments.length := length_bodyFrames ..

theorem bodies_isBody : ∀ f ∈ x.bodies c, f.IsBody := bodyFrames_isBody c x.fragments

theorem bodies_channel : ∀ f ∈ x.bodies c, f.channel = c := by
  intro f hf
  obtain ⟨b, _, rfl⟩ := List.mem_map.mp hf
  rfl

theorem bodies_nonempty : ∀ f ∈ x.bodies c, f.octets ≠ [] := by
  intro f hf
  obtain ⟨b, hb, rfl⟩ := List.mem_map.mp hf
  exact x.nonempty b hb

theorem bodyOctets_bodies : bodyOctets (x.bodies c) = x.octets := bodyOctets_bodyFrames ..

theorem length_octets : x.octets.length = x.body_size.toNat := x.sum

/-- A row of frames that are not empty has no octets only if it has no frames. -/
theorem bodyOctets_ne_nil {fs : List amqp_frame_t} (h : ∀ f ∈ fs, f.octets ≠ []) (hne : fs ≠ []) :
    0 < (bodyOctets fs).length := by
  cases fs with
  | nil => exact absurd rfl hne
  | cons f fs =>
    have hpos := List.length_pos_iff.mpr (h f (by simp))
    rw [bodyOctets_cons, List.length_append]
    omega

/-- Octets are missing while frames of the body are. -/
theorem octets_missing {fs more : List amqp_frame_t} (h : x.bodies c = fs ++ more)
    (hne : more ≠ []) : (bodyOctets fs).length < x.body_size.toNat := by
  have hpos := bodyOctets_ne_nil
    (fun f hf => x.bodies_nonempty c f (by rw [h]; exact List.mem_append_right _ hf)) hne
  have hsum := congrArg List.length (congrArg bodyOctets h)
  rw [bodyOctets_bodies, length_octets, bodyOctets_append, List.length_append] at hsum
  omega

/-- The octets before the last lap are there whenever there is a lap before. -/
theorem lost_bodies : lost (x.bodies c) = [] ↔ x.fragments.length ≤ 2 ^ 32 := by
  constructor
  · intro h
    by_contra hlong
    have hrow : (x.bodies c).take (((x.bodies c).length - 1) / 2 ^ 32 * 2 ^ 32) ≠ [] := by
      intro hnil
      have hlen := congrArg List.length hnil
      rw [List.length_take, length_bodies, List.length_nil] at hlen
      omega
    have hpos := bodyOctets_ne_nil
      (fun f hf => x.bodies_nonempty c f (List.mem_of_mem_take hf)) hrow
    unfold lost at h
    rw [h] at hpos
    simp at hpos
  · intro h
    exact lost_of_le (by rwa [length_bodies])

/-- A content with octets has a last fragment. -/
theorem fragments_split (h : x.body_size ≠ 0) : ∃ init last, x.fragments = init ++ [last] := by
  rcases List.eq_nil_or_concat x.fragments with hnil | ⟨init, last, hsplit⟩
  · have hsum := x.sum
    rw [hnil] at hsum
    exact absurd (BitVec.eq_of_toNat_eq hsum.symm) h
  · rw [List.concat_eq_append] at hsplit
    exact ⟨init, last, hsplit⟩

theorem fragments_nil (h : x.body_size = 0) : x.fragments = [] := by
  have hsum := x.sum
  rw [h] at hsum
  by_contra hne
  obtain ⟨b, hb⟩ := List.exists_mem_of_ne_nil _ hne
  exact x.nonempty b hb (List.flatMap_eq_nil_iff.mp (List.length_eq_zero_iff.mp hsum) b hb)

/-- The size is negative for the signed comparison, or 0, or there is a last
fragment. -/
theorem size_cases : x.body_size.toInt < 0 ∨ x.body_size = 0 ∨
    0 < x.body_size.toInt ∧ ∃ init last, x.fragments = init ++ [last] := by
  by_cases h : x.body_size = 0
  · exact Or.inr (Or.inl h)
  · have hne : x.body_size.toInt ≠ 0 := fun h0 => h (BitVec.eq_of_toInt_eq h0)
    rcases Int.lt_or_gt_of_ne hne with hlt | hgt
    · exact Or.inl hlt
    · exact Or.inr (Or.inr ⟨hgt, x.fragments_split h⟩)

/-! ## The rows

The reads give the body of a content whose size is above 0 for the signed
comparison: the fragments `init`, and a last one. -/

section

variable {x c} {σ κ : Type} {env : Env σ κ} {s s' : σ} {init : List body_fragment_t}
  {last : body_fragment_t} (hsplit : x.fragments = init ++ [last])

include hsplit

/-- The last fragment completes the body, and none before it does. -/
theorem bodies_split : x.bodies c = bodyFrames c init ++ [⟨c, .body_fragment last⟩] ∧
    (bodyOctets (bodyFrames c init)).length < x.body_size.toNat := by
  have hsum := x.sum
  have hpos := List.length_pos_iff.mpr (x.nonempty last (by rw [hsplit]; simp))
  rw [hsplit, List.flatMap_append, List.length_append] at hsum
  simp only [List.flatMap_cons, List.flatMap_nil, List.append_nil] at hsum
  refine ⟨?_, ?_⟩
  · unfold bodies bodyFrames
    rw [hsplit, List.map_append]
    rfl
  · rw [bodyOctets_bodyFrames]
    omega

variable (hpos : 0 < x.body_size.toInt) (hg : env.lib.GivesOn c s (x.bodies c) s')

include hpos hg

/-- All frames but the last are gone over, if there is memory for the payload. -/
theorem reads_init (hav : init ≠ [] → env.bytesAvailable x.body_size.toNat = true) :
    ∃ s1, Reads env c x.body_size s (bodyFrames c init) s1 ∧
      env.lib.amqp_simple_wait_frame_on_channel s1 c = (.ok ⟨c, .body_fragment last⟩, s') ∧
      (received (bodyFrames c init)).toInt < x.body_size.toInt ∧
      x.body_size.toInt ≤ (received (x.bodies c)).toInt := by
  have hsize := toNat_of_pos hpos
  have hmax := BitVec.toInt_lt (x := x.body_size)
  obtain ⟨hbodies, hshort⟩ := bodies_split (c := c) hsplit
  have hoctets := x.length_octets
  rw [← x.bodyOctets_bodies c] at hoctets
  have hfull : x.body_size.toInt ≤ (received (x.bodies c)).toInt := by
    rw [toInt_received (by omega)]
    omega
  rw [hbodies] at hg
  obtain ⟨s1, hinit, s2, hlast, rfl⟩ := Gives.split hg
  have hlt : (received (bodyFrames c init)).toInt < x.body_size.toInt := by
    rw [toInt_received (by omega)]
    omega
  refine ⟨s1, ⟨hinit, bodyFrames_isBody c init, goesOver_of_short (by omega), ?_⟩, hlast, hlt,
    hfull⟩
  intro hne
  apply hav
  rintro rfl
  exact hne rfl

/-- The last frame is gone over, too, when it starts no lap. -/
theorem reads_all (hav : env.bytesAvailable x.body_size.toNat = true)
    (hlap : init.length % 2 ^ 32 ≠ 0) : Reads env c x.body_size s (x.bodies c) s' := by
  obtain ⟨s1, hreads, _, hlt, _⟩ := reads_init hsplit hpos hg fun _ => hav
  refine ⟨hg, x.bodies_isBody c, ?_, fun _ => hav⟩
  rw [(bodies_split (c := c) hsplit).1]
  refine goesOver_snoc.mpr ⟨hreads.goesOver, hlt, fun h => ?_⟩
  rw [length_bodyFrames] at h
  exact absurd h hlap

/-- A body with more than one fragment is broken off without memory for it. -/
theorem breaks_of_noMemory (hne : init ≠ []) (hav : env.bytesAvailable x.body_size.toNat = false) :
    ∃ f s1, Breaks env c x.body_size s [f] (.raised .MemoryError) s1 := by
  have hsize := toNat_of_pos hpos
  have hmax := BitVec.toInt_lt (x := x.body_size)
  obtain ⟨hbodies, hshort⟩ := bodies_split (c := c) hsplit
  cases init with
  | nil => exact absurd rfl hne
  | cons b rest =>
    rw [hbodies] at hg
    obtain ⟨s1, hf, _⟩ := hg
    unfold bodyFrames at hshort
    rw [List.map_cons, bodyOctets_cons, List.length_append] at hshort
    have hfirst : (received ([] ++ [⟨c, .body_fragment b⟩])).toInt < x.body_size.toInt := by
      rw [toInt_received (by simp; omega)]
      simp
      omega
    have hreads : Reads env c x.body_size s [] s :=
      ⟨rfl, by simp, goesOver_of_short (by simpa using hpos), by simp⟩
    exact ⟨_, s1, .noMemory hreads (by simpa [received] using hpos) hf ⟨b, rfl⟩ rfl hfirst hav⟩

/-- What a callback sees of the body: the last fragment alone where it starts a
lap, and the payload otherwise. -/
theorem delivers_lap (hav : init ≠ [] → env.bytesAvailable x.body_size.toNat = true)
    (hlap : init.length % 2 ^ 32 = 0) :
    Delivers env c x.body_size s (x.bodies c) (last.bytes.map some) s' := by
  obtain ⟨s1, hreads, hlast, hlt, hfull⟩ := reads_init hsplit hpos hg hav
  rw [← length_bodyFrames c init] at hlap
  rw [(bodies_split (c := c) hsplit).1] at hfull ⊢
  exact .viewed hreads hlt hlast ⟨last, rfl⟩ hlap hfull

theorem delivers_payload (hav : env.bytesAvailable x.body_size.toNat = true)
    (hlap : init.length % 2 ^ 32 ≠ 0) :
    Delivers env c x.body_size s (x.bodies c) (payloadCells x.body_size (x.bodies c)) s' := by
  obtain ⟨s1, _, _, _, hfull⟩ := reads_init hsplit hpos hg fun _ => hav
  have hne : x.bodies c ≠ [] := by
    rw [(bodies_split (c := c) hsplit).1]
    simp
  exact .full (reads_all hsplit hpos hg hav hlap) hne hfull

/-- What fills the dict of a `get`: the text of the last fragment where it starts
a lap, and the payload otherwise. -/
theorem yields_lap (hav : init ≠ [] → env.bytesAvailable x.body_size.toNat = true)
    (hlap : init.length % 2 ^ 32 = 0) {text : PyStr} (htext : utf8Decode last.bytes = some text) :
    Yields env c x.body_size s (x.bodies c) (.str text) s' := by
  obtain ⟨s1, hreads, hlast, hlt, hfull⟩ := reads_init hsplit hpos hg hav
  rw [← length_bodyFrames c init] at hlap
  rw [(bodies_split (c := c) hsplit).1] at hfull ⊢
  exact .whole hreads hlt hlast ⟨last, rfl⟩ hlap hfull htext

theorem yields_payload (hav : env.bytesAvailable x.body_size.toNat = true)
    (hlap : init.length % 2 ^ 32 ≠ 0) :
    Yields env c x.body_size s (x.bodies c)
      (.bytes (readBytes env (payloadCells x.body_size (x.bodies c)))) s' := by
  obtain ⟨s1, _, _, _, hfull⟩ := reads_init hsplit hpos hg fun _ => hav
  have hne : x.bodies c ≠ [] := by
    rw [(bodies_split (c := c) hsplit).1]
    simp
  exact .full (reads_all hsplit hpos hg hav hlap) hne hfull

end

/-! ## What a callback sees -/

/-- The cells of the view that a callback gets of the body. -/
def seen (x : Content) (c : amqp_channel_t) : List (Option UInt8) :=
  if (x.fragments.length - 1) % 2 ^ 32 = 0 then (lapOctets (x.bodies c)).map some
  else payloadCells x.body_size (x.bodies c)

theorem delivers_seen {σ κ : Type} {env : Env σ κ} {s s' : σ} {x : Content} {c : amqp_channel_t}
    (hpos : 0 < x.body_size.toInt) (hg : env.lib.GivesOn c s (x.bodies c) s')
    (hav : env.bytesAvailable x.body_size.toNat = true) :
    Delivers env c x.body_size s (x.bodies c) (x.seen c) s' := by
  rcases x.size_cases with hneg | hzero | ⟨_, init, last, hsplit⟩
  · omega
  · rw [hzero] at hpos
    simp at hpos
  · have hlen : x.fragments.length - 1 = init.length := by
      rw [hsplit, List.length_append, List.length_singleton, Nat.add_sub_cancel]
    unfold seen
    rw [hlen]
    by_cases hlap : init.length % 2 ^ 32 = 0
    · have hlast : lapOctets (x.bodies c) = last.bytes := by
        rw [(bodies_split (c := c) hsplit).1, lapOctets_snoc, length_bodyFrames, if_pos hlap]
        rfl
      rw [if_pos hlap, hlast]
      exact delivers_lap hsplit hpos hg (fun _ => hav) hlap
    · rw [if_neg hlap]
      exact delivers_payload hsplit hpos hg hav hlap

/-- The callback sees all of the octets exactly when the counter of frames does
not wrap before the last. -/
theorem seen_eq_iff (x : Content) (c : amqp_channel_t) :
    x.seen c = x.octets.map some ↔ x.fragments.length ≤ 2 ^ 32 := by
  have hlen : (bodyOctets (x.bodies c)).length = x.body_size.toNat := by
    rw [x.bodyOctets_bodies, x.length_octets]
  rw [← x.lost_bodies c, ← x.bodyOctets_bodies c]
  unfold seen
  split
  · rw [← lapOctets_eq_iff]
    exact List.map_inj_right fun _ _ => Option.some.inj
  · exact ⟨lost_of_payloadCells hlen, payloadCells_of_lost hlen⟩

end Content

/-! ## A delivery -/

/-- A delivery as a broker sends it: a `basic.deliver`, and a content that is not
empty. -/
structure Delivery where
  method : amqp_basic_deliver_t
  content : Content
  consumer_tag : AreUtf8 method.consumer_tag
  exchange : AreUtf8 method.exchange
  routing_key : AreUtf8 method.routing_key
  properties : content.properties.IsUtf8
  nonempty : 1 ≤ content.body_size.toNat
  signed : content.body_size.toNat < 2 ^ 63

namespace Delivery

def deliver (d : Delivery) (c : amqp_channel_t) : amqp_frame_t :=
  ⟨c, .method (.basic_deliver d.method)⟩

/-- The frames of a delivery on channel `c`. -/
def frames (d : Delivery) (c : amqp_channel_t) : List amqp_frame_t :=
  d.deliver c :: d.content.header c :: d.content.bodies c

theorem size_pos (d : Delivery) : 0 < d.content.body_size.toInt := by
  have hpos := d.nonempty
  have hsigned := d.signed
  rw [BitVec.toInt_eq_toNat_of_lt (by omega)]
  omega

/-- What the machine takes from the `basic.deliver`. -/
theorem deliveryInfo_eq (d : Delivery) : ∃ tag info,
    recv_run.deliveryInfo d.method = some (tag, info) ∧
      utf8Decode d.method.consumer_tag = some tag ∧
      info.lookup (.str (pyStr "delivery_tag")) = some (.int d.method.delivery_tag.toInt) := by
  obtain ⟨tag, htag⟩ := Option.isSome_iff_exists.mp d.consumer_tag
  obtain ⟨exchange, hexchange⟩ := Option.isSome_iff_exists.mp d.exchange
  obtain ⟨routing_key, hrouting_key⟩ := Option.isSome_iff_exists.mp d.routing_key
  unfold recv_run.deliveryInfo
  rw [htag, hexchange, hrouting_key]
  exact ⟨tag, _, rfl, rfl, rfl⟩

end Delivery

end librabbitmq
