/-
# From one channel to another

A channel is interpolated between two bytes by a difference, a product and a sum, each of them
rounded (`channelPath`), and then rounded to a byte (`roundHalfAway`).  Every one of these roundings
keeps the order and moves no whole number of a byte.  So the way from one channel to another

| | because |
| --- | --- |
| starts at the one and ends at the other | `channelPath_zero`, `channelPath_one` |
| rises all the way, or falls all the way | `channelPath_mono`, `channelPath_anti` |
| never leaves the range between them | `channelPath_mem` |

and what it is rounded to is the nearest byte, with nothing cut off (`interpolated_channelBetween`).
-/

import CourtDocket.Countdown.Ring
import CourtDocket.Proofs.Number.Share

namespace CourtDocket

/-! ### Rounding to bytes -/

section Rounding

variable {x y : ℚ}

/-- From zero on, a half is rounded up. -/
theorem roundHalfAway_of_nonneg (hx : 0 ≤ x) : roundHalfAway x = ⌊x + 1 / 2⌋ :=
  if_pos hx

/-- From zero on, rounding keeps the order. -/
theorem roundHalfAway_mono (hx : 0 ≤ x) (h : x ≤ y) : roundHalfAway x ≤ roundHalfAway y := by
  rw [roundHalfAway_of_nonneg hx, roundHalfAway_of_nonneg (hx.trans h)]
  exact Int.floor_mono (by linarith)

/-- A whole number is not moved. -/
theorem roundHalfAway_natCast (n : ℕ) : roundHalfAway n = n := by
  rw [roundHalfAway_of_nonneg (Nat.cast_nonneg n), Int.floor_eq_iff]
  push_cast
  constructor <;> linarith

/-- What is between two whole numbers is rounded to a number between them. -/
theorem roundHalfAway_mem {m n : ℕ} (hlow : (m : ℚ) ≤ x) (hhigh : x ≤ n) :
    (m : ℤ) ≤ roundHalfAway x ∧ roundHalfAway x ≤ n := by
  have hm : (0 : ℚ) ≤ m := Nat.cast_nonneg m
  rw [← roundHalfAway_natCast m, ← roundHalfAway_natCast n]
  exact ⟨roundHalfAway_mono hm hlow, roundHalfAway_mono (hm.trans hlow) hhigh⟩

/-- A number in the range of a byte is rounded to the nearest byte. -/
theorem Binary64.Within.toNat_toByte {a : Binary64} {m n : ℕ} (h : a.Within m n) (hn : n ≤ 255) :
    (a.toByte.toNat : ℤ) = roundHalfAway a.toRat := by
  obtain ⟨hlow, hhigh⟩ := roundHalfAway_mem h.low_le h.le_high
  have hbyte : a.toByte = UInt8.ofNat (min (roundHalfAway a.toRat) 255).toNat := by
    cases a with
    | finite _ _ _ _ => rfl
    | nan => cases h.isFinite
    | infinite _ => cases h.isFinite
  rw [hbyte, UInt8.toNat_ofNat']
  omega

end Rounding

/-! ### From one channel to another -/

/-- The number of a channel at a part of the way from one value to another. -/
def channelPath (start stop : UInt8) (q : ℚ) : ℚ :=
  nearest (start.toNat + nearest ((stop.toNat - start.toNat) * q))

section Path

variable {start stop : UInt8} {p q : ℚ}

/-- A channel is one of the numbers of the format. -/
theorem nearest_channel (n : UInt8) : nearest n.toNat = n.toNat := by
  have hn : |(n.toNat : ℤ)| < 9007199254740992 := by
    have := n.toNat_lt
    rw [abs_lt]
    omega
  exact_mod_cast nearest_intCast hn

/-- The difference of two channels is one of the numbers of the format. -/
theorem nearest_channel_sub (start stop : UInt8) :
    nearest ((stop.toNat : ℚ) - start.toNat) = stop.toNat - start.toNat := by
  have hstart := start.toNat_lt
  have hstop := stop.toNat_lt
  have hdistance : |(stop.toNat : ℤ) - start.toNat| < 9007199254740992 := by
    rw [abs_lt]
    omega
  exact_mod_cast nearest_intCast hdistance

/-- The way starts at the first channel. -/
theorem channelPath_zero (start stop : UInt8) : channelPath start stop 0 = start.toNat := by
  rw [channelPath, mul_zero, nearest_zero, add_zero, nearest_channel]

/-- The way ends at the second channel. -/
theorem channelPath_one (start stop : UInt8) : channelPath start stop 1 = stop.toNat := by
  rw [channelPath, mul_one, nearest_channel_sub, add_sub_cancel, nearest_channel]

/-- The way to a higher channel rises. -/
theorem channelPath_mono (h : start ≤ stop) (hpq : p ≤ q) :
    channelPath start stop p ≤ channelPath start stop q := by
  have hdistance : (0 : ℚ) ≤ (stop.toNat : ℚ) - start.toNat :=
    sub_nonneg.2 (Nat.cast_le.2 (UInt8.le_iff_toNat_le.1 h))
  refine nearest_mono (add_le_add_right (nearest_mono ?_) _)
  exact mul_le_mul_of_nonneg_left hpq hdistance

/-- The way to a lower channel falls. -/
theorem channelPath_anti (h : stop ≤ start) (hpq : p ≤ q) :
    channelPath start stop q ≤ channelPath start stop p := by
  have hdistance : (stop.toNat : ℚ) - start.toNat ≤ 0 :=
    sub_nonpos.2 (Nat.cast_le.2 (UInt8.le_iff_toNat_le.1 h))
  refine nearest_mono (add_le_add_right (nearest_mono ?_) _)
  exact mul_le_mul_of_nonpos_left hpq hdistance

/-- Every part of the way is between its ends. -/
theorem channelPath_mem (start stop : UInt8) (hlow : 0 ≤ q) (hhigh : q ≤ 1) :
    ((min start.toNat stop.toNat : ℕ) : ℚ) ≤ channelPath start stop q ∧
      channelPath start stop q ≤ (max start.toNat stop.toNat : ℕ) := by
  have hzero := channelPath_zero start stop
  have hone := channelPath_one start stop
  rcases le_total start.toNat stop.toNat with h | h
  · rw [min_eq_left h, max_eq_right h, ← hzero, ← hone]
    exact ⟨channelPath_mono (UInt8.le_iff_toNat_le.2 h) hlow,
      channelPath_mono (UInt8.le_iff_toNat_le.2 h) hhigh⟩
  · rw [min_eq_right h, max_eq_left h, ← hzero, ← hone]
    exact ⟨channelPath_anti (UInt8.le_iff_toNat_le.2 h) hhigh,
      channelPath_anti (UInt8.le_iff_toNat_le.2 h) hlow⟩

end Path

namespace RingColour

open Binary64

/-- The number that a channel is rounded from. -/
def channelNumber (start stop : UInt8) (t : Binary64) : Binary64 :=
  ofInt start.toNat + (ofInt stop.toNat - ofInt start.toNat) * t

/-- A channel between two others is its number, rounded to a byte. -/
theorem channelBetween_eq (start stop : UInt8) (t : Binary64) :
    channelBetween start stop t = (channelNumber start stop t).toByte :=
  rfl

section Channels

variable {start stop : UInt8} {s t : Binary64}

/-- What is at most a byte in magnitude is in the range of the format. -/
theorem abs_lt_pow2_of_le_byte {x : ℚ} (h : |x| ≤ 255) : |x| < pow2 1024 := by
  have hbyte : pow2 8 = 256 := by norm_num [pow2_eq_zpow]
  have hrange : pow2 8 ≤ pow2 1024 := pow2_le_pow2 (by decide)
  linarith

/-- The datum of a channel denotes it. -/
theorem denotes_channel (n : UInt8) : (ofInt n.toNat).Denotes n.toNat := by
  have hn : (n.toNat : ℚ) ≤ 255 := by exact_mod_cast Nat.le_of_lt_succ n.toNat_lt
  have hnearest : nearest ((n.toNat : ℤ) : ℚ) = n.toNat := by exact_mod_cast nearest_channel n
  rw [← hnearest]
  refine denotes_ofInt (abs_lt_pow2_of_le_byte ?_)
  rw [hnearest, abs_of_nonneg (Nat.cast_nonneg _)]
  exact hn

/-- **The three operations of floating point follow the way from one channel to the other.** -/
theorem denotes_channelNumber (start stop : UInt8) (ht : t.Within 0 1) :
    (channelNumber start stop t).Denotes (channelPath start stop t.toRat) := by
  have hstart : (start.toNat : ℚ) ≤ 255 := by exact_mod_cast Nat.le_of_lt_succ start.toNat_lt
  have hstop : (stop.toNat : ℚ) ≤ 255 := by exact_mod_cast Nat.le_of_lt_succ stop.toNat_lt
  have hstart' : (0 : ℚ) ≤ start.toNat := Nat.cast_nonneg _
  have hstop' : (0 : ℚ) ≤ stop.toNat := Nat.cast_nonneg _
  have hdistance : |(stop.toNat : ℚ) - start.toNat| ≤ 255 := by
    rw [abs_le]
    constructor <;> linarith
  have hsub : (ofInt stop.toNat - ofInt start.toNat).Denotes ((stop.toNat : ℚ) - start.toNat) := by
    rw [← nearest_channel_sub]
    refine (denotes_channel stop).sub (denotes_channel start) (abs_lt_pow2_of_le_byte ?_)
    rwa [nearest_channel_sub]
  have hmul : ((ofInt stop.toNat - ofInt start.toNat) * t).Denotes
      (nearest (((stop.toNat : ℚ) - start.toNat) * t.toRat)) := by
    refine hsub.mul ht.denotes (abs_lt_pow2_of_le_byte (abs_nearest_le ?_ ?_))
    · exact_mod_cast nearest_intCast (n := 255) (by decide)
    · rw [abs_mul, abs_of_nonneg ht.low_le]
      exact (mul_le_of_le_one_right (abs_nonneg _) ht.le_high).trans hdistance
  obtain ⟨hlow, hhigh⟩ := channelPath_mem start stop ht.low_le ht.le_high
  have hmax : ((max start.toNat stop.toNat : ℕ) : ℚ) ≤ 255 := by
    rw [Nat.cast_max]
    exact max_le hstart hstop
  refine (denotes_channel start).add hmul (abs_lt_pow2_of_le_byte ?_)
  rw [← channelPath, abs_of_nonneg ((Nat.cast_nonneg _).trans hlow)]
  exact hhigh.trans hmax

/-- **Whether a channel is interpolated between two others.** -/
structure Interpolated (start stop : UInt8) (t : Binary64) (n : UInt8) : Prop where
  /-- The number that is rounded is between the two channels. -/
  within : (channelNumber start stop t).Within (min start.toNat stop.toNat : ℕ)
    (max start.toNat stop.toNat : ℕ)
  /-- The channel is the whole number nearest to it: nothing is cut off and nothing wraps. -/
  toNat_eq : (n.toNat : ℤ) = roundHalfAway (channelNumber start stop t).toRat
  /-- The channel is no lower than the lower of the two. -/
  low_le : min start.toNat stop.toNat ≤ n.toNat
  /-- It is no higher than the higher one. -/
  le_high : n.toNat ≤ max start.toNat stop.toNat

/-- **A channel between two others is interpolated.** -/
theorem interpolated_channelBetween (start stop : UInt8) (ht : t.Within 0 1) :
    Interpolated start stop t (channelBetween start stop t) := by
  obtain ⟨hlow, hhigh⟩ := channelPath_mem start stop ht.low_le ht.le_high
  have hwithin := (denotes_channelNumber start stop ht).within hlow hhigh
  have hstart := start.toNat_lt
  have hstop := stop.toNat_lt
  have htoNat := hwithin.toNat_toByte (by omega)
  have hmem := roundHalfAway_mem hwithin.low_le hwithin.le_high
  rw [← htoNat] at hmem
  rw [channelBetween_eq]
  exact ⟨hwithin, htoNat, by exact_mod_cast hmem.1, by exact_mod_cast hmem.2⟩

/-- A channel between two others is the nearest byte to its number on the way. -/
theorem toNat_channelBetween (start stop : UInt8) (ht : t.Within 0 1) :
    ((channelBetween start stop t).toNat : ℤ) =
      roundHalfAway (channelPath start stop t.toRat) := by
  rw [(interpolated_channelBetween start stop ht).toNat_eq,
    (denotes_channelNumber start stop ht).toRat_eq]

/-- No number on the way is negative. -/
theorem channelPath_nonneg (start stop : UInt8) (ht : t.Within 0 1) :
    0 ≤ channelPath start stop t.toRat :=
  (Nat.cast_nonneg _).trans (channelPath_mem start stop ht.low_le ht.le_high).1

/-- A channel does not fall on the way to a higher one. -/
theorem channelBetween_mono (h : start ≤ stop) (hs : s.Within 0 1) (ht : t.Within 0 1)
    (hst : s.toRat ≤ t.toRat) : channelBetween start stop s ≤ channelBetween start stop t := by
  have hround := roundHalfAway_mono (channelPath_nonneg start stop hs) (channelPath_mono h hst)
  rw [← toNat_channelBetween start stop hs, ← toNat_channelBetween start stop ht] at hround
  exact UInt8.le_iff_toNat_le.2 (by exact_mod_cast hround)

/-- A channel does not rise on the way to a lower one. -/
theorem channelBetween_anti (h : stop ≤ start) (hs : s.Within 0 1) (ht : t.Within 0 1)
    (hst : s.toRat ≤ t.toRat) : channelBetween start stop t ≤ channelBetween start stop s := by
  have hround := roundHalfAway_mono (channelPath_nonneg start stop ht) (channelPath_anti h hst)
  rw [← toNat_channelBetween start stop hs, ← toNat_channelBetween start stop ht] at hround
  exact UInt8.le_iff_toNat_le.2 (by exact_mod_cast hround)

/-- A way that is at a whole number is rounded to it. -/
theorem channelBetween_of_path {n : UInt8} (ht : t.Within 0 1)
    (h : channelPath start stop t.toRat = n.toNat) : channelBetween start stop t = n := by
  have hround := toNat_channelBetween start stop ht
  rw [h, roundHalfAway_natCast] at hround
  exact UInt8.toNat_inj.1 (by exact_mod_cast hround)

end Channels

section Colours

variable {start stop : RingColour} {t : Binary64}

/-- At the start of the way there is the first colour. -/
theorem between_of_eq_zero (ht : t.Within 0 1) (hzero : t.toRat = 0) :
    between start stop t = start := by
  have hchannel : ∀ m n : UInt8, channelBetween m n t = m := fun m n =>
    channelBetween_of_path ht (by rw [hzero, channelPath_zero])
  simp only [between, hchannel]

/-- At the end of the way there is the second colour. -/
theorem between_of_eq_one (ht : t.Within 0 1) (hone : t.toRat = 1) :
    between start stop t = stop := by
  have hchannel : ∀ m n : UInt8, channelBetween m n t = n := fun m n =>
    channelBetween_of_path ht (by rw [hone, channelPath_one])
  simp only [between, hchannel]

/-- **Whether a colour is interpolated between two others**, channel by channel. -/
structure InterpolatedColour (start stop : RingColour) (t : Binary64) (c : RingColour) : Prop where
  /-- The red channel is. -/
  red : Interpolated start.red stop.red t c.red
  /-- The green channel is. -/
  green : Interpolated start.green stop.green t c.green
  /-- The blue channel is. -/
  blue : Interpolated start.blue stop.blue t c.blue

/-- A colour between two others is interpolated in every channel. -/
theorem interpolatedColour_between (start stop : RingColour) (ht : t.Within 0 1) :
    InterpolatedColour start stop t (between start stop t) :=
  ⟨interpolated_channelBetween _ _ ht, interpolated_channelBetween _ _ ht,
    interpolated_channelBetween _ _ ht⟩

end Colours

end RingColour
end CourtDocket
