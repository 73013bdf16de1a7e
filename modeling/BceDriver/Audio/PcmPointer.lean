import BceDriver.Audio.Pcm
import Mathlib.Data.Int.ModEq
import Mathlib.Tactic.Linarith
import Mathlib.Tactic.Ring

/-!
# The position in the buffer (`audio/pcm.c`)

`aaudio_pcm_pointer` scales the time since the last timestamp to frames and takes the
latencies off. A position that is negative then is brought back up by durations of the
buffer, in nanoseconds, where the size of the buffer in frames is meant.

The arithmetic is on words, as in the source: the latencies have 32 bits, all else is
64 bits wide, and a product or a quotient with the size of the buffer is unsigned.
-/

namespace BceDriver

def NSEC_PER_SEC : BitVec 64 := 1000000000

/-- What `aaudio_pcm_pointer` reads. -/
structure AaudioPointerArgs where
  /-- `ktime_get_boottime()` -/
  boottime : BitVec 64
  remoteTimestamp : BitVec 64
  bufferSize : BitVec 64
  rate : BitVec 32
  /-- of the stream -/
  latency : BitVec 32
  /-- of the device -/
  outLatency : BitVec 32
deriving DecidableEq, Repr

namespace AaudioPointerArgs

variable (a : AaudioPointerArgs)

def timeFromStart : BitVec 64 := a.boottime - a.remoteTimestamp

def bufferTimeLength : BitVec 64 := NSEC_PER_SEC * a.bufferSize / a.rate.setWidth 64

end AaudioPointerArgs

def aaudioPcmPointer (a : AaudioPointerArgs) : BitVec 64 :=
  let frames := a.timeFromStart.srem a.bufferTimeLength * a.bufferSize / a.bufferTimeLength
  let frames := frames - (a.latency + a.outLatency).setWidth 64
  if frames.slt 0 then
    frames + ((-frames - 1).sdiv a.bufferTimeLength + 1) * a.bufferTimeLength
  else frames

/-! ## The position there should be -/

namespace AaudioPointerArgs

variable (a : AaudioPointerArgs)

/-- The duration of the buffer, in nanoseconds. -/
def duration : Nat := a.bufferSize.toNat * 1000000000 / a.rate.toNat

/-- The time since the last timestamp, from its start in the buffer. -/
def elapsed : Nat := a.timeFromStart.toNat % a.duration

/-- The frame of the elapsed time. -/
def frame : Nat := a.elapsed * a.bufferSize.toNat / a.duration

def totalLatency : Nat := a.latency.toNat + a.outLatency.toNat

/-- The buffer has a duration, no time before the timestamp is asked about, and the
products fit in 64 bits. -/
structure Proper : Prop where
  bufferSize_pos : 0 < a.bufferSize.toNat
  rate_pos : 0 < a.rate.toNat
  duration_pos : 0 < a.duration
  time_nonneg : 0 ≤ a.timeFromStart.toInt
  nsec_lt : a.bufferSize.toNat * 1000000000 < 2 ^ 64
  scaled_lt : a.elapsed * a.bufferSize.toNat < 2 ^ 64

/-- A position in the buffer that is the latencies behind the frame. -/
def At (p : BitVec 64) : Prop :=
  p.toNat < a.bufferSize.toNat ∧
    (p.toNat : Int) ≡ a.frame - a.totalLatency [ZMOD a.bufferSize.toNat]

/-- The sum of the latencies, in 32 bits. -/
def latencySum : Nat := a.totalLatency % 2 ^ 32

/-- The frame, of a time that is reduced by the size of the signed duration. -/
def signedFrame : Nat :=
  a.timeFromStart.toNat % min a.duration (2 ^ 64 - a.duration) * a.bufferSize.toNat / a.duration

/-- When the position is right. If the latencies are not above the frame, only the wrap
around of their sum matters. If they are, a reduction by the duration has to give what
the reduction by the size gives. -/
def Exact : Prop :=
  if a.latencySum ≤ a.signedFrame then
    (a.bufferSize.toNat : Int) ∣
      ((a.signedFrame : Int) - a.frame) + ((a.totalLatency : Int) - a.latencySum)
  else
    a.duration < 2 ^ 63 ∧
      ((a.frame : Int) - a.latencySum) % a.duration =
        ((a.frame : Int) - a.totalLatency) % a.bufferSize.toNat

/-! ## What the words are -/

variable {a}

theorem duration_le : a.duration ≤ a.bufferSize.toNat * 1000000000 :=
  Nat.div_le_self _ _

theorem frame_lt (h : a.Proper) : a.frame < a.bufferSize.toNat := by
  have helapsed : a.elapsed < a.duration := Nat.mod_lt _ h.duration_pos
  rw [frame, Nat.div_lt_iff_lt_mul h.duration_pos, Nat.mul_comm a.bufferSize.toNat]
  exact Nat.mul_lt_mul_of_pos_right helapsed h.bufferSize_pos

theorem toNat_bufferTimeLength (h : a.Proper) : a.bufferTimeLength.toNat = a.duration := by
  have hprod : (NSEC_PER_SEC * a.bufferSize).toNat = a.bufferSize.toNat * 1000000000 := by
    rw [BitVec.toNat_mul, Nat.mul_comm]
    exact Nat.mod_eq_of_lt h.nsec_lt
  have hrate : (a.rate.setWidth 64).toNat = a.rate.toNat :=
    BitVec.toNat_setWidth_of_le (by decide)
  rw [bufferTimeLength, BitVec.toNat_udiv, hprod, hrate, duration]

/-- A duration from `2^63` on is a negative number. -/
theorem toInt_bufferTimeLength (h : a.Proper) :
    a.bufferTimeLength.toInt =
      if a.duration < 2 ^ 63 then (a.duration : Int) else a.duration - 2 ^ 64 := by
  rw [BitVec.toInt_eq_toNat_cond, toNat_bufferTimeLength h]
  split <;> split <;> omega

theorem toInt_timeFromStart (h : a.Proper) :
    a.timeFromStart.toInt = a.timeFromStart.toNat := by
  have := h.time_nonneg
  rw [BitVec.toInt_eq_toNat_cond] at this ⊢
  split <;> omega

theorem toNat_srem (h : a.Proper) :
    (a.timeFromStart.srem a.bufferTimeLength).toNat =
      a.timeFromStart.toNat % min a.duration (2 ^ 64 - a.duration) := by
  have hlt : a.duration < 2 ^ 64 := lt_of_le_of_lt duration_le h.nsec_lt
  have hrem : (a.timeFromStart.srem a.bufferTimeLength).toInt =
      (a.timeFromStart.toNat % min a.duration (2 ^ 64 - a.duration) : Nat) := by
    rw [BitVec.toInt_srem, toInt_timeFromStart h, toInt_bufferTimeLength h]
    split
    · rw [Nat.min_eq_left (by omega), Int.ofNat_tmod]
    · have hneg : (a.duration : Int) - 2 ^ 64 = -((2 ^ 64 - a.duration : Nat) : Int) := by omega
      rw [Nat.min_eq_right (by omega), hneg, Int.tmod_neg, Int.ofNat_tmod]
  have hnat := BitVec.toInt_eq_toNat_cond (a.timeFromStart.srem a.bufferTimeLength)
  split at hnat <;> omega

/-- The product in the code is at most the product that is known to fit. -/
theorem srem_mul_le (h : a.Proper) :
    a.timeFromStart.toNat % min a.duration (2 ^ 64 - a.duration) * a.bufferSize.toNat ≤
      a.elapsed * a.bufferSize.toNat := by
  refine Nat.mul_le_mul_right _ ?_
  by_cases hd : a.duration < 2 ^ 63
  · rw [Nat.min_eq_left (by omega), elapsed]
  · have htime : a.timeFromStart.toNat < a.duration := by
      have := toInt_timeFromStart h
      have := BitVec.two_mul_toInt_lt (x := a.timeFromStart)
      omega
    rw [elapsed, Nat.mod_eq_of_lt htime]
    exact Nat.mod_le _ _

theorem signedFrame_le (h : a.Proper) : a.signedFrame ≤ a.frame :=
  Nat.div_le_div_right (srem_mul_le h)

theorem toNat_scaled (h : a.Proper) :
    (a.timeFromStart.srem a.bufferTimeLength * a.bufferSize / a.bufferTimeLength).toNat =
      a.signedFrame := by
  rw [BitVec.toNat_udiv, BitVec.toNat_mul, toNat_srem h, toNat_bufferTimeLength h,
    Nat.mod_eq_of_lt (lt_of_le_of_lt (srem_mul_le h) h.scaled_lt), signedFrame]

theorem toNat_latencySum :
    ((a.latency + a.outLatency).setWidth 64).toNat = a.latencySum := by
  rw [BitVec.toNat_setWidth_of_le (by decide), BitVec.toNat_add, latencySum, totalLatency]

/-! ## The position there is -/

/-- The position before it is brought back up. -/
def framesBehind (a : AaudioPointerArgs) : BitVec 64 :=
  a.timeFromStart.srem a.bufferTimeLength * a.bufferSize / a.bufferTimeLength -
    (a.latency + a.outLatency).setWidth 64

theorem aaudioPcmPointer_eq (a : AaudioPointerArgs) :
    aaudioPcmPointer a =
      if a.framesBehind.toInt < 0 then
        a.framesBehind + ((-a.framesBehind - 1).sdiv a.bufferTimeLength + 1) * a.bufferTimeLength
      else a.framesBehind := by
  simp only [aaudioPcmPointer, BitVec.slt, decide_eq_true_eq]
  rfl

theorem toInt_of_lt {x : BitVec 64} (h : x.toNat < 2 ^ 35) : x.toInt = x.toNat :=
  BitVec.toInt_eq_toNat_of_lt (by omega)

theorem latencySum_lt : a.latencySum < 2 ^ 32 := Nat.mod_lt _ (by decide)

theorem signedFrame_lt (h : a.Proper) : a.signedFrame < 2 ^ 35 := by
  have := signedFrame_le h
  have := frame_lt h
  have := h.nsec_lt
  omega

theorem toInt_framesBehind (h : a.Proper) :
    a.framesBehind.toInt = (a.signedFrame : Int) - a.latencySum := by
  have hg := signedFrame_lt h
  have hw := a.latencySum_lt
  rw [framesBehind, BitVec.toInt_sub, toInt_of_lt (by rw [toNat_scaled h]; exact hg),
    toInt_of_lt (by rw [toNat_latencySum]; omega), toNat_scaled h, toNat_latencySum]
  exact Int.bmod_eq_of_le (by omega) (by omega)

theorem toInt_neg_sub_one (h : a.Proper) (hneg : a.signedFrame < a.latencySum) :
    (-a.framesBehind - 1).toInt = (a.latencySum : Int) - a.signedFrame - 1 := by
  have hw := a.latencySum_lt
  have hword : -a.framesBehind - 1 = BitVec.ofInt 64 (-a.framesBehind.toInt + -1) := by
    rw [BitVec.ofInt_add, BitVec.ofInt_neg, BitVec.ofInt_toInt, BitVec.sub_eq_add_neg]
    rfl
  rw [hword, BitVec.toInt_ofInt, toInt_framesBehind h, Int.bmod_eq_of_le (by omega) (by omega)]
  ring

/-- The position that is brought back up, before it is a word again. -/
theorem toNat_broughtUp (h : a.Proper) (hneg : a.signedFrame < a.latencySum) :
    ((aaudioPcmPointer a).toNat : Int) =
      ((a.signedFrame : Int) - a.latencySum +
        (((a.latencySum : Int) - a.signedFrame - 1).tdiv a.bufferTimeLength.toInt + 1) *
          a.bufferTimeLength.toInt) % 2 ^ 64 := by
  have hw := a.latencySum_lt
  have hquot : ((-a.framesBehind - 1).sdiv a.bufferTimeLength).toInt =
      ((a.latencySum : Int) - a.signedFrame - 1).tdiv a.bufferTimeLength.toInt := by
    have habs := Int.natAbs_tdiv_le_natAbs ((a.latencySum : Int) - a.signedFrame - 1)
      a.bufferTimeLength.toInt
    rw [BitVec.toInt_sdiv, toInt_neg_sub_one h hneg]
    exact Int.bmod_eq_of_le (by omega) (by omega)
  have hword : aaudioPcmPointer a = BitVec.ofInt 64 (a.framesBehind.toInt +
      (((-a.framesBehind - 1).sdiv a.bufferTimeLength).toInt + 1) * a.bufferTimeLength.toInt) := by
    rw [aaudioPcmPointer_eq, if_pos (by rw [toInt_framesBehind h]; omega), BitVec.ofInt_add,
      BitVec.ofInt_mul, BitVec.ofInt_add]
    simp only [BitVec.ofInt_toInt]
    rfl
  rw [hword, BitVec.toNat_ofInt, toInt_framesBehind h, hquot]
  exact Int.toNat_of_nonneg (Int.emod_nonneg _ (by decide))

/-- A negative number, brought up by the least multiple that makes it one that is not. -/
theorem add_roundUp (x : Int) {m : Int} (hm : 0 < m) :
    x + ((-x - 1) / m + 1) * m = x % m := by
  have hlow := Int.emod_nonneg (-x - 1) hm.ne'
  have hhigh := Int.emod_lt_of_pos (-x - 1) hm
  have hdiv := Int.mul_ediv_add_emod (-x - 1) m
  have hval : x + ((-x - 1) / m + 1) * m = m - 1 - (-x - 1) % m := by linarith
  calc x + ((-x - 1) / m + 1) * m
      = (x + ((-x - 1) / m + 1) * m) % m := by
        rw [Int.emod_eq_of_lt (by omega) (by omega)]
    _ = x % m := Int.add_mul_emod_self_right _ _ _

theorem toNat_pointer_of_le (h : a.Proper) (hle : a.latencySum ≤ a.signedFrame) :
    (aaudioPcmPointer a).toNat = a.signedFrame - a.latencySum := by
  have hfr := toInt_framesBehind h
  rw [aaudioPcmPointer_eq, if_neg (by omega)]
  rw [BitVec.toInt_eq_toNat_cond] at hfr
  split at hfr <;> omega

theorem toNat_pointer_of_lt (h : a.Proper) (hlt : a.signedFrame < a.latencySum)
    (hd : a.duration < 2 ^ 63) :
    ((aaudioPcmPointer a).toNat : Int) =
      ((a.signedFrame : Int) - a.latencySum) % a.duration := by
  have hpos : (0 : Int) < a.duration := by exact_mod_cast h.duration_pos
  have hlow := Int.emod_nonneg ((a.signedFrame : Int) - a.latencySum) hpos.ne'
  have hhigh := Int.emod_lt_of_pos ((a.signedFrame : Int) - a.latencySum) hpos
  have hup := add_roundUp ((a.signedFrame : Int) - a.latencySum) hpos
  rw [toNat_broughtUp h hlt, toInt_bufferTimeLength h, if_pos hd,
    Int.tdiv_eq_ediv_of_nonneg (by omega)]
  rw [show (a.latencySum : Int) - a.signedFrame - 1 = -((a.signedFrame : Int) - a.latencySum) - 1
    by ring, hup]
  exact Int.emod_eq_of_lt hlow (by omega)

/-- A negative duration takes a negative position further down. -/
theorem le_toNat_pointer (h : a.Proper) (hlt : a.signedFrame < a.latencySum)
    (hd : 2 ^ 63 ≤ a.duration) : 2 ^ 62 ≤ (aaudioPcmPointer a).toNat := by
  have hw := a.latencySum_lt
  have hlen : a.duration < 2 ^ 64 := lt_of_le_of_lt duration_le h.nsec_lt
  -- the size of the duration, of the position, and what is left of one by the other
  obtain ⟨D, hD⟩ : ∃ D : Int, D = 2 ^ 64 - a.duration := ⟨_, rfl⟩
  obtain ⟨x, hx⟩ : ∃ x : Int, x = (a.latencySum : Int) - a.signedFrame - 1 := ⟨_, rfl⟩
  have hdiv := Int.mul_ediv_add_emod x D
  have hmod := Int.emod_nonneg x (show D ≠ 0 by omega)
  have hquot : 0 ≤ D * (x / D) :=
    Int.mul_nonneg (by omega) (Int.ediv_nonneg (by omega) (by omega))
  have hval : ((aaudioPcmPointer a).toNat : Int) = (D * (x / D) - D - x - 1) % 2 ^ 64 := by
    rw [toNat_broughtUp h hlt, toInt_bufferTimeLength h, if_neg (by omega), ← hx,
      show (a.duration : Int) - 2 ^ 64 = -D by omega, Int.tdiv_neg,
      Int.tdiv_eq_ediv_of_nonneg (by omega),
      show (a.signedFrame : Int) - a.latencySum = -x - 1 by omega]
    congr 1
    ring
  have hup : (D * (x / D) - D - x - 1) % 2 ^ 64 = D * (x / D) - D - x - 1 + 2 ^ 64 := by
    rw [← Int.add_emod_right]
    exact Int.emod_eq_of_lt (by omega) (by omega)
  omega

/-! ## When the position is right -/

/-- A number below the size is a position if it is what the size leaves of the difference. -/
theorem at_iff (h : a.Proper) (p : BitVec 64) :
    a.At p ↔ (p.toNat : Int) = ((a.frame : Int) - a.totalLatency) % a.bufferSize.toNat := by
  have hB : (0 : Int) < a.bufferSize.toNat := by exact_mod_cast h.bufferSize_pos
  constructor
  · rintro ⟨hlt, hmod⟩
    rw [← hmod.eq]
    exact (Int.emod_eq_of_lt (by omega) (by exact_mod_cast hlt)).symm
  · intro heq
    refine ⟨?_, ?_⟩
    · have := Int.emod_lt_of_pos ((a.frame : Int) - a.totalLatency) hB
      omega
    · rw [heq]
      exact Int.mod_modEq _ _

theorem signedFrame_eq (hd : a.duration < 2 ^ 63) : a.signedFrame = a.frame := by
  rw [signedFrame, Nat.min_eq_left (by omega), frame, elapsed]

/-- The position is right under just the condition. -/
theorem pointer_at_iff (h : a.Proper) : a.At (aaudioPcmPointer a) ↔ a.Exact := by
  have hB := h.bufferSize_pos
  rw [Exact]
  by_cases hle : a.latencySum ≤ a.signedFrame
  · have hlt : a.signedFrame - a.latencySum < a.bufferSize.toNat :=
      lt_of_le_of_lt ((Nat.sub_le _ _).trans (signedFrame_le h)) (frame_lt h)
    rw [if_pos hle, At, toNat_pointer_of_le h hle, and_iff_right hlt, Int.modEq_comm,
      Int.modEq_iff_dvd, Nat.cast_sub hle]
    rw [show (a.signedFrame : Int) - a.latencySum - (a.frame - a.totalLatency) =
      (a.signedFrame - a.frame) + (a.totalLatency - a.latencySum) by ring]
  · rw [if_neg hle]
    by_cases hd : a.duration < 2 ^ 63
    · rw [at_iff h, toNat_pointer_of_lt h (by omega) hd, signedFrame_eq hd, and_iff_right hd]
    · refine iff_of_false ?_ fun hexact => hd hexact.1
      rintro ⟨hlt, -⟩
      have := le_toNat_pointer h (by omega) (by omega)
      have := h.nsec_lt
      omega

/-- A buffer of a second at 48 kHz, a timestamp that is `frames` old, and a latency. -/
def ofSecond (frames latency : Nat) : AaudioPointerArgs where
  boottime := .ofNat 64 (1000000000 * frames / 48000)
  remoteTimestamp := 0
  bufferSize := 48000
  rate := 48000
  latency := .ofNat 32 latency
  outLatency := 0

theorem ofSecond_proper : (ofSecond 24000 240).Proper := by
  constructor <;> decide

theorem pointer_at_iff_ofSecond :
    (ofSecond 24000 240).Proper ∧
      ((ofSecond 24000 240).At (aaudioPcmPointer (ofSecond 24000 240)) ↔
        (ofSecond 24000 240).Exact) :=
  ⟨ofSecond_proper, pointer_at_iff ofSecond_proper⟩

/-- Right at a timestamp, a latency of one frame gives a position far behind the buffer. -/
theorem pointer_not_at : ¬∀ a : AaudioPointerArgs, a.Proper → a.At (aaudioPcmPointer a) := by
  intro h
  have hat := h (ofSecond 0 1) (by constructor <;> decide)
  have hval : (aaudioPcmPointer (ofSecond 0 1)).toNat = 999999999 := by decide
  have hlt : (aaudioPcmPointer (ofSecond 0 1)).toNat < 48000 := hat.1
  omega

end AaudioPointerArgs

end BceDriver
