import BceDriver.Audio.Card
import BceDriver.Lib.History
import BceDriver.Lib.Threads

/-!
# Starting playback (`audio/pcm.c`)

`aaudio_pcm_open` arms its stream, starts the device and waits for the first timestamp
update. `aaudio_handle_timestamp` completes that wait if the first playback stream is
armed, and takes every other update for an elapsed period.

- Any number of threads open streams and handle updates. `start_io_sl` of the first
  output stream is the lock of both, whatever stream is opened.
- A thread has the interrupt state of the processor it runs on, which other code may
  change between the calls. The PCM is `nonatomic`: its stream lock is a mutex.
- The handler looks up the first playback substream, which every PCM has.
- `log` and `TimestampUpdate` only record what happened.
- Without interruption, the calls are what `BceDriver.Audio.Card` has of them.
- `startIoRuns`: the runs, with what is shared before and after each step of a call.

- `handle_timestamp_iff`: in every run, an update does what it should exactly if it does
  not complete a start, or is handled with interrupts disabled anyway.
-/

namespace BceDriver

/-! ## Data -/

inductive StartIoEvent where
  /-- `aaudio_pcm_open` armed stream `n` -/
  | armed (n : Nat)
  /-- the start wait of stream `n` is completed -/
  | completed (n : Nat)
deriving DecidableEq, Repr

/-- The first stream was armed after the last time its start wait was completed; the
newest event comes first. -/
def armedSince (log : List StartIoEvent) : Bool :=
  .armed 0 ∈ log.takeWhile fun e => e ≠ .completed 0

structure AaudioStartIo (ι : Type) where
  /-- of the first output stream -/
  startIoSl : Option ι
  needsStartIoCompl : Nat → Bool
  /-- the tokens of `start_io_compl` -/
  startIoCompl : Nat → Nat
  remoteTimestamp : Nat → Nat
  /-- the stream lock of the first playback substream -/
  streamLock : Option ι
  log : List StartIoEvent

/-- The streams as they are initialised. -/
def startIoInit (ι : Type) : AaudioStartIo ι where
  startIoSl := none
  needsStartIoCompl := fun _ => false
  startIoCompl := fun _ => 0
  remoteTimestamp := fun _ => 0
  streamLock := none
  log := []

/-- An invocation of `aaudio_handle_timestamp`: its argument, its local `flags`, and what
it did. -/
structure TimestampUpdate where
  osTimestamp : Nat
  flags : Bool
  /-- whether interrupts were enabled when it was entered -/
  entered : Bool
  /-- whether the stream was armed when it looked -/
  armed : Bool
  /-- how often it called `snd_pcm_period_elapsed` -/
  elapsed : Nat
deriving DecidableEq, Repr

/-- The place in `aaudio_pcm_open`. -/
inductive PcmOpenPhase where
  | entered
  | locked
  | reinited
  | armed
  | unlocked
  | waiting
  | waited
deriving DecidableEq, Repr

/-- The place in `aaudio_handle_timestamp`. -/
inductive TimestampPhase where
  | entered
  | spinning
  | locked
  | starting
  | completed
  | disarmed
  | skipped
  | unlocked
  | streamLocked
  | stamped
  | streamUnlocked
deriving DecidableEq, Repr

inductive StartIoPlace where
  | idle
  | opening (n : Nat) (phase : PcmOpenPhase)
  | handling (u : TimestampUpdate) (phase : TimestampPhase)
  | returned (u : TimestampUpdate)
deriving DecidableEq, Repr

structure StartIoThread where
  /-- whether interrupts are enabled -/
  irqs : Bool
  place : StartIoPlace
deriving DecidableEq, Repr

inductive StartIoChoice where
  /-- other code enables or disables interrupts -/
  | irqs (on : Bool)
  /-- call `aaudio_pcm_open` for playback stream `n` -/
  | pcmOpen (n : Nat)
  /-- call `aaudio_handle_timestamp` -/
  | handleTimestamp (osTimestamp : Nat)
  | next
  /-- the 500 jiffies are over -/
  | timeout
  /-- the clock is read -/
  | boottime (t : Nat)
deriving DecidableEq, Repr

/-! ## The calls -/

section Calls

variable {ι : Type}

/-- The steps of `aaudio_pcm_open`, from the lock on. -/
def aaudioPcmOpenStep (i : ι) (irqs : Bool) (n : Nat) :
    StartIoChoice → PcmOpenPhase → AaudioStartIo ι → Option (StartIoThread × AaudioStartIo ι)
  | .next, .entered, g =>
    if g.startIoSl.isNone then
      some (⟨irqs, .opening n .locked⟩, { g with startIoSl := some i })
    else none
  | .next, .locked, g =>
    some (⟨irqs, .opening n .reinited⟩,
      { g with startIoCompl := Function.update g.startIoCompl n 0 })
  | .next, .reinited, g =>
    some (⟨irqs, .opening n .armed⟩,
      { g with
        needsStartIoCompl := Function.update g.needsStartIoCompl n true
        log := .armed n :: g.log })
  | .next, .armed, g => some (⟨irqs, .opening n .unlocked⟩, { g with startIoSl := none })
  -- `aaudio_cmd_start_io`
  | .next, .unlocked, g => some (⟨irqs, .opening n .waiting⟩, g)
  | .next, .waiting, g =>
    if 0 < g.startIoCompl n then
      some (⟨irqs, .opening n .waited⟩,
        { g with startIoCompl := Function.update g.startIoCompl n (g.startIoCompl n - 1) })
    else none
  | .timeout, .waiting, g =>
    if g.startIoCompl n = 0 then some (⟨irqs, .opening n .waited⟩, g) else none
  | .boottime t, .waited, g =>
    some (⟨irqs, .idle⟩, { g with remoteTimestamp := Function.update g.remoteTimestamp n t })
  | _, _, _ => none

/-- The steps of `aaudio_handle_timestamp`. -/
def aaudioHandleTimestampStep (i : ι) (irqs : Bool) (u : TimestampUpdate) :
    TimestampPhase → AaudioStartIo ι → Option (StartIoThread × AaudioStartIo ι)
  -- `spin_lock_irqsave`
  | .entered, g => some (⟨false, .handling { u with flags := irqs } .spinning⟩, g)
  | .spinning, g =>
    if g.startIoSl.isNone then
      some (⟨irqs, .handling u .locked⟩, { g with startIoSl := some i })
    else none
  | .locked, g =>
    let u := { u with armed := armedSince g.log }
    if g.needsStartIoCompl 0 then some (⟨irqs, .handling u .starting⟩, g)
    else some (⟨irqs, .handling u .skipped⟩, g)
  | .starting, g =>
    some (⟨irqs, .handling u .completed⟩,
      { g with
        startIoCompl := Function.update g.startIoCompl 0 (g.startIoCompl 0 + 1)
        log := .completed 0 :: g.log })
  | .completed, g =>
    some (⟨irqs, .handling u .disarmed⟩,
      { g with needsStartIoCompl := Function.update g.needsStartIoCompl 0 false })
  -- `spin_unlock`, which leaves interrupts as they are
  | .disarmed, g => some (⟨irqs, .returned u⟩, { g with startIoSl := none })
  -- `spin_unlock_irqrestore`
  | .skipped, g => some (⟨u.flags, .handling u .unlocked⟩, { g with startIoSl := none })
  | .unlocked, g =>
    if g.streamLock.isNone then
      some (⟨irqs, .handling u .streamLocked⟩, { g with streamLock := some i })
    else none
  | .streamLocked, g =>
    some (⟨irqs, .handling u .stamped⟩,
      { g with remoteTimestamp := Function.update g.remoteTimestamp 0 u.osTimestamp })
  | .stamped, g => some (⟨irqs, .handling u .streamUnlocked⟩, { g with streamLock := none })
  | .streamUnlocked, g => some (⟨irqs, .returned { u with elapsed := u.elapsed + 1 }⟩, g)

/-- An update that is being delivered. -/
def TimestampUpdate.entry (osTimestamp : Nat) (irqs : Bool) : TimestampUpdate where
  osTimestamp := osTimestamp
  flags := false
  entered := irqs
  armed := false
  elapsed := 0

/-- A call begins. -/
def startIoCall (irqs : Bool) : StartIoChoice → AaudioStartIo ι →
    Option (StartIoThread × AaudioStartIo ι)
  | .irqs on, g => some (⟨on, .idle⟩, g)
  | .pcmOpen n, g => some (⟨irqs, .opening n .entered⟩, g)
  | .handleTimestamp osTimestamp, g =>
    some (⟨irqs, .handling (.entry osTimestamp irqs) .entered⟩, g)
  | .next, _ | .timeout, _ | .boottime _, _ => none

def startIoRun (i : ι) (c : StartIoChoice) (t : StartIoThread) (g : AaudioStartIo ι) :
    Option (StartIoThread × AaudioStartIo ι) :=
  match t.place with
  | .idle | .returned _ => startIoCall t.irqs c g
  | .opening n phase => aaudioPcmOpenStep i t.irqs n c phase g
  | .handling u phase => if c = .next then aaudioHandleTimestampStep i t.irqs u phase g else none

end Calls

/-! ## Without interruption -/

section Alone

variable {ι : Type} {i : ι} {t : StartIoThread} {g : AaudioStartIo ι} {card card' : AaudioCard}
  {sdev : AaudioSubdevice} {k : Nat}

/-- Steps of one thread, one after the other. -/
def startIoThrough (i : ι) : List StartIoChoice → StartIoThread × AaudioStartIo ι →
    Option (StartIoThread × AaudioStartIo ι)
  | [], r => some r
  | c :: cs, r => (startIoRun i c r.1 r.2).bind (startIoThrough i cs)

/-- The first stream is as `BceDriver.Audio.Card` has it. -/
structure AaudioStartIo.Agrees (g : AaudioStartIo ι) (p : AaudioPlayback) : Prop where
  needsStartIoCompl : g.needsStartIoCompl 0 = p.needsStartIoCompl
  startIoCompl : 0 < g.startIoCompl 0 ↔ p.startIoCompl = true
  remoteTimestamp : g.remoteTimestamp 0 = p.remoteTimestamp

/-- `aaudio_pcm_open`, up to its wait. -/
theorem pcmOpen_alone (ht : t.place = .idle) (hlock : g.startIoSl = none)
    (h : g.Agrees (card.playback k)) (hk : card.list[k]? = some sdev) (hpcm : sdev.pcm = true)
    (hopen : aaudioPcmOpen k card = .ok card') :
    ∃ r, startIoThrough i [.pcmOpen 0, .next, .next, .next, .next, .next] (t, g) = some r ∧
      r.2.Agrees (card'.playback k) := by
  unfold aaudioPcmOpen at hopen
  simp only [hk, hpcm, if_true] at hopen
  split at hopen
  · cases hopen
  · obtain rfl := Except.ok.inj hopen
    refine ⟨_, by
      simp [startIoThrough, startIoRun, startIoCall, aaudioPcmOpenStep, ht, hlock]
      rfl, ?_⟩
    exact ⟨by simp [AaudioCard.setPlayback], by simp [AaudioCard.setPlayback],
      by simpa [AaudioCard.setPlayback] using h.remoteTimestamp⟩

/-- `aaudio_handle_timestamp`, on either path. -/
theorem handleTimestamp_alone (ht : t.place = .idle) (hlock : g.startIoSl = none)
    (hstream : g.streamLock = none) (h : g.Agrees (card.playback k)) {osTimestamp : Nat}
    (hcall : aaudioHandleTimestamp k osTimestamp sdev card = .ok card') :
    ∃ cs r u, startIoThrough i (.handleTimestamp osTimestamp :: cs) (t, g) = some r ∧
      r.1.place = .returned u ∧ r.2.Agrees (card'.playback k) := by
  unfold aaudioHandleTimestamp at hcall
  split at hcall
  · split at hcall
    · next hneeds =>
      obtain rfl := Except.ok.inj hcall
      have hflag : g.needsStartIoCompl 0 = true := h.needsStartIoCompl.trans hneeds
      refine ⟨[.next, .next, .next, .next, .next, .next], _, _, by
        simp [startIoThrough, startIoRun, startIoCall, aaudioHandleTimestampStep, ht, hlock, hflag]
        rfl, rfl, ?_⟩
      exact ⟨by simp [AaudioCard.setPlayback], by simp [AaudioCard.setPlayback],
        by simpa [AaudioCard.setPlayback] using h.remoteTimestamp⟩
    · next hneeds =>
      obtain rfl := Except.ok.inj hcall
      have hflag : g.needsStartIoCompl 0 = false :=
        h.needsStartIoCompl.trans (by simpa using hneeds)
      refine ⟨[.next, .next, .next, .next, .next, .next, .next, .next], _, _, by
        simp [startIoThrough, startIoRun, startIoCall, aaudioHandleTimestampStep, ht, hlock, hflag,
          hstream]
        rfl, rfl, ?_⟩
      exact ⟨by simpa [AaudioCard.setPlayback] using h.needsStartIoCompl,
        by simpa [AaudioCard.setPlayback] using h.startIoCompl,
        by simp [AaudioCard.setPlayback, TimestampUpdate.entry]⟩
  · cases hcall

end Alone

/-- The threads `ι`. -/
def startIoProgram (ι : Type) :
    ThreadProgram ι (AaudioStartIo ι) StartIoThread StartIoChoice Empty where
  init g := g = startIoInit ι
  start := ⟨true, .idle⟩
  run := startIoRun
  env e := nomatch e

/-! ## What a step does -/

theorem armedSince_armed (n : Nat) (log : List StartIoEvent) :
    armedSince (.armed n :: log) = (decide (n = 0) || armedSince log) := by
  by_cases hn : n = 0
  · simp [armedSince, hn]
  · have hne : (0 : Nat) ≠ n := fun h => hn h.symm
    simp [armedSince, hn, hne]

@[simp] theorem armedSince_completed (log : List StartIoEvent) :
    armedSince (.completed 0 :: log) = false := by
  simp [armedSince]

/-- What is known of an update, and of the interrupts, at each place. -/
def TimestampUpdate.At (u : TimestampUpdate) (irqs : Bool) : TimestampPhase → Prop
  | .entered => u.elapsed = 0 ∧ u.entered = irqs
  | .spinning | .locked => u.elapsed = 0 ∧ u.entered = u.flags ∧ irqs = false
  | .starting | .completed | .disarmed => u.elapsed = 0 ∧ u.armed = true ∧ irqs = false
  | .skipped => u.elapsed = 0 ∧ u.armed = false ∧ u.entered = u.flags
  | .unlocked | .streamLocked | .stamped | .streamUnlocked =>
    u.elapsed = 0 ∧ u.armed = false ∧ u.entered = irqs

/-- What is known of an update that returned: either path. -/
def TimestampUpdate.Done (u : TimestampUpdate) (irqs : Bool) : Prop :=
  (u.armed = true ∧ u.elapsed = 0 ∧ irqs = false) ∨
    (u.armed = false ∧ u.elapsed = 1 ∧ u.entered = irqs)

namespace StartIoPlace

/-- The thread holds `start_io_sl`. -/
def holds : StartIoPlace → Bool
  | .opening _ .locked | .opening _ .reinited | .opening _ .armed => true
  | .handling _ .locked | .handling _ .starting | .handling _ .completed
  | .handling _ .disarmed | .handling _ .skipped => true
  | _ => false

def UpdateOk (irqs : Bool) : StartIoPlace → Prop
  | .handling u phase => u.At irqs phase
  | .returned u => u.Done irqs
  | .idle | .opening .. => True

end StartIoPlace

section Steps

variable {ι : Type} {i j : ι} {c : StartIoChoice} {t t' : StartIoThread}
  {g g' : AaudioStartIo ι}

/-- The flag of the first stream is what the history says. -/
def AaudioStartIo.FlagOk (g : AaudioStartIo ι) : Prop :=
  g.needsStartIoCompl 0 = armedSince g.log

/-- What the thread that holds the lock knows of the flag; between the completion and the
store to the flag, it is late. -/
def StartIoPlace.FlagOk (g : AaudioStartIo ι) : StartIoPlace → Prop
  | .handling _ .completed => armedSince g.log = false
  | _ => g.FlagOk

structure StartIoOk (i : ι) (g : AaudioStartIo ι) (t : StartIoThread) : Prop where
  lock : g.startIoSl = some i ↔ t.place.holds = true
  flag : t.place.holds = true → t.place.FlagOk g
  update : t.place.UpdateOk t.irqs

/-- The lock and what it is for, as the other threads see a step. -/
inductive StartIoEffect (i : ι) (g g' : AaudioStartIo ι) : Prop where
  | kept : g'.startIoSl = g.startIoSl → g'.needsStartIoCompl = g.needsStartIoCompl →
      g'.log = g.log → StartIoEffect i g g'
  | taken : g.startIoSl = none → g'.startIoSl = some i →
      g'.needsStartIoCompl = g.needsStartIoCompl → g'.log = g.log → StartIoEffect i g g'
  | held : g.startIoSl = some i → g'.startIoSl = some i → StartIoEffect i g g'
  | released : g.startIoSl = some i → g'.startIoSl = none → g'.FlagOk → StartIoEffect i g g'

/-- A free lock goes with a flag that is right. -/
def AaudioStartIo.FreeOk (g : AaudioStartIo ι) : Prop := g.startIoSl = none → g.FlagOk

theorem StartIoEffect.freeOk (h : StartIoEffect i g g') (hfree : g.FreeOk) : g'.FreeOk := by
  intro hnone
  cases h with
  | kept hlock hneeds hlog =>
    have hflag := hfree (hlock ▸ hnone)
    unfold AaudioStartIo.FlagOk at hflag ⊢
    rw [hneeds, hlog]
    exact hflag
  | taken _ hlock | held _ hlock => simp [hlock] at hnone
  | released _ _ hflag => exact hflag

/-- A step leaves what holds of the other threads alone. -/
theorem StartIoOk.other (h : StartIoOk j g t) (heff : StartIoEffect i g g') (hij : j ≠ i) :
    StartIoOk j g' t := by
  have hflag : g'.needsStartIoCompl = g.needsStartIoCompl → g'.log = g.log →
      t.place.holds = true → t.place.FlagOk g' := by
    intro hneeds hlog hholds
    have hold := h.flag hholds
    unfold StartIoPlace.FlagOk AaudioStartIo.FlagOk at hold ⊢
    rwa [hneeds, hlog]
  have hnot : g.startIoSl = some i → t.place.holds = true → t.place.FlagOk g' := by
    intro hlock hholds
    exact absurd (Option.some.inj (hlock.symm.trans (h.lock.mpr hholds))).symm hij
  cases heff with
  | kept hlock hneeds hlog => exact ⟨hlock ▸ h.lock, hflag hneeds hlog, h.update⟩
  | taken hnone hlock hneeds hlog =>
    exact ⟨hlock ▸ (owner_taken hij hnone).trans h.lock, hflag hneeds hlog, h.update⟩
  | held hlock hlock' => exact ⟨hlock' ▸ hlock ▸ h.lock, hnot hlock, h.update⟩
  | released hlock hlock' =>
    exact ⟨hlock' ▸ (owner_released hij hlock).trans h.lock, hnot hlock, h.update⟩

/-- A place without the lock. -/
theorem StartIoOk.of_free {l : StartIoPlace} {irqs : Bool} (hlock : g.startIoSl ≠ some i)
    (hl : l.holds = false) (hupdate : l.UpdateOk irqs) : StartIoOk i g ⟨irqs, l⟩ where
  lock := by simp [hlock, hl]
  flag hholds := by simp [hl] at hholds
  update := hupdate

/-- A place with the lock. -/
theorem StartIoOk.of_held {l : StartIoPlace} {irqs : Bool} (hlock : g.startIoSl = some i)
    (hl : l.holds = true) (hflag : l.FlagOk g) (hupdate : l.UpdateOk irqs) :
    StartIoOk i g ⟨irqs, l⟩ where
  lock := by simp [hlock, hl]
  flag _ := hflag
  update := hupdate

theorem StartIoOk.not_held (h : StartIoOk i g t) (hl : t.place.holds = false) :
    g.startIoSl ≠ some i := by
  intro hlock
  exact absurd (h.lock.mp hlock) (by simp [hl])

theorem aaudioPcmOpenStep_spec {irqs : Bool} {n : Nat} {phase : PcmOpenPhase}
    (hok : StartIoOk i g ⟨irqs, .opening n phase⟩) (hfree : g.FreeOk)
    (hstep : aaudioPcmOpenStep i irqs n c phase g = some (t', g')) :
    StartIoEffect i g g' ∧ StartIoOk i g' t' := by
  unfold aaudioPcmOpenStep at hstep
  split at hstep
  · -- the lock is taken
    split at hstep
    · next hnone =>
      obtain ⟨rfl, rfl⟩ := by simpa using hstep
      have hnone : g.startIoSl = none := by simpa using hnone
      exact ⟨.taken hnone rfl rfl rfl, .of_held rfl rfl (hfree hnone) trivial⟩
    · cases hstep
  · obtain ⟨rfl, rfl⟩ := by simpa using hstep
    have hlock : g.startIoSl = some i := hok.lock.mpr rfl
    exact ⟨.held hlock hlock, .of_held hlock rfl (hok.flag rfl) trivial⟩
  · -- the stream is armed
    obtain ⟨rfl, rfl⟩ := by simpa using hstep
    have hlock : g.startIoSl = some i := hok.lock.mpr rfl
    refine ⟨.held hlock hlock, .of_held hlock rfl ?_ trivial⟩
    have hflag : g.needsStartIoCompl 0 = armedSince g.log := hok.flag rfl
    show Function.update g.needsStartIoCompl n true 0 = armedSince (.armed n :: g.log)
    rw [armedSince_armed, ← hflag]
    by_cases hn : n = 0
    · simp [hn]
    · simp [Function.update_of_ne (Ne.symm hn), hn]
  · obtain ⟨rfl, rfl⟩ := by simpa using hstep
    exact ⟨.released (hok.lock.mpr rfl) rfl (hok.flag rfl), .of_free (by simp) rfl trivial⟩
  · obtain ⟨rfl, rfl⟩ := by simpa using hstep
    exact ⟨.kept rfl rfl rfl, .of_free (hok.not_held rfl) rfl trivial⟩
  · split at hstep
    · obtain ⟨rfl, rfl⟩ := by simpa using hstep
      exact ⟨.kept rfl rfl rfl, .of_free (hok.not_held rfl) rfl trivial⟩
    · cases hstep
  · split at hstep
    · obtain ⟨rfl, rfl⟩ := by simpa using hstep
      exact ⟨.kept rfl rfl rfl, .of_free (hok.not_held rfl) rfl trivial⟩
    · cases hstep
  · obtain ⟨rfl, rfl⟩ := by simpa using hstep
    exact ⟨.kept rfl rfl rfl, .of_free (hok.not_held rfl) rfl trivial⟩
  · cases hstep

theorem aaudioHandleTimestampStep_spec {irqs : Bool} {u : TimestampUpdate}
    {phase : TimestampPhase} (hok : StartIoOk i g ⟨irqs, .handling u phase⟩) (hfree : g.FreeOk)
    (hstep : aaudioHandleTimestampStep i irqs u phase g = some (t', g')) :
    StartIoEffect i g g' ∧ StartIoOk i g' t' := by
  have hupdate : u.At irqs phase := hok.update
  cases phase with
  | entered =>
    obtain ⟨rfl, rfl⟩ := by simpa [aaudioHandleTimestampStep] using hstep
    exact ⟨.kept rfl rfl rfl, .of_free (hok.not_held rfl) rfl ⟨hupdate.1, hupdate.2, rfl⟩⟩
  | spinning =>
    simp only [aaudioHandleTimestampStep] at hstep
    split at hstep
    · next hnone =>
      obtain ⟨rfl, rfl⟩ := by simpa using hstep
      have hnone : g.startIoSl = none := by simpa using hnone
      exact ⟨.taken hnone rfl rfl rfl, .of_held rfl rfl (hfree hnone) hupdate⟩
    · cases hstep
  | locked =>
    obtain ⟨helapsed, hentered, hirqs⟩ := hupdate
    have hlock : g.startIoSl = some i := hok.lock.mpr rfl
    have hflag : g.needsStartIoCompl 0 = armedSince g.log := hok.flag rfl
    simp only [aaudioHandleTimestampStep] at hstep
    split at hstep
    · next hneeds =>
      obtain ⟨rfl, rfl⟩ := by simpa using hstep
      exact ⟨.held hlock hlock, .of_held hlock rfl hflag ⟨helapsed, hflag ▸ hneeds, hirqs⟩⟩
    · next hneeds =>
      obtain ⟨rfl, rfl⟩ := by simpa using hstep
      have harmed : armedSince g.log = false := by
        rw [← hflag]
        simpa using hneeds
      exact ⟨.held hlock hlock, .of_held hlock rfl hflag ⟨helapsed, harmed, hentered⟩⟩
  | starting =>
    obtain ⟨rfl, rfl⟩ := by simpa [aaudioHandleTimestampStep] using hstep
    have hlock : g.startIoSl = some i := hok.lock.mpr rfl
    exact ⟨.held hlock hlock, .of_held hlock rfl (armedSince_completed g.log) hupdate⟩
  | completed =>
    obtain ⟨rfl, rfl⟩ := by simpa [aaudioHandleTimestampStep] using hstep
    have hlock : g.startIoSl = some i := hok.lock.mpr rfl
    have hlate : armedSince g.log = false := hok.flag rfl
    refine ⟨.held hlock hlock, .of_held hlock rfl ?_ hupdate⟩
    show Function.update g.needsStartIoCompl 0 false 0 = armedSince g.log
    rw [Function.update_self, hlate]
  | disarmed =>
    obtain ⟨helapsed, harmed, hirqs⟩ := hupdate
    obtain ⟨rfl, rfl⟩ := by simpa [aaudioHandleTimestampStep] using hstep
    exact ⟨.released (hok.lock.mpr rfl) rfl (hok.flag rfl),
      .of_free (by simp) rfl (.inl ⟨harmed, helapsed, hirqs⟩)⟩
  | skipped =>
    obtain ⟨rfl, rfl⟩ := by simpa [aaudioHandleTimestampStep] using hstep
    exact ⟨.released (hok.lock.mpr rfl) rfl (hok.flag rfl), .of_free (by simp) rfl hupdate⟩
  | unlocked =>
    simp only [aaudioHandleTimestampStep] at hstep
    split at hstep
    · obtain ⟨rfl, rfl⟩ := by simpa using hstep
      exact ⟨.kept rfl rfl rfl, .of_free (hok.not_held rfl) rfl hupdate⟩
    · cases hstep
  | streamLocked =>
    obtain ⟨rfl, rfl⟩ := by simpa [aaudioHandleTimestampStep] using hstep
    exact ⟨.kept rfl rfl rfl, .of_free (hok.not_held rfl) rfl hupdate⟩
  | stamped =>
    obtain ⟨rfl, rfl⟩ := by simpa [aaudioHandleTimestampStep] using hstep
    exact ⟨.kept rfl rfl rfl, .of_free (hok.not_held rfl) rfl hupdate⟩
  | streamUnlocked =>
    obtain ⟨helapsed, harmed, hentered⟩ := hupdate
    obtain ⟨rfl, rfl⟩ := by simpa [aaudioHandleTimestampStep] using hstep
    exact ⟨.kept rfl rfl rfl,
      .of_free (hok.not_held rfl) rfl (.inr ⟨harmed, by simp [helapsed], hentered⟩)⟩

/-- **A step** does to the lock and the flag what its thread may do, and keeps what is known
of the thread. -/
theorem startIoRun_spec (hok : StartIoOk i g t) (hfree : g.FreeOk)
    (hstep : startIoRun i c t g = some (t', g')) :
    StartIoEffect i g g' ∧ StartIoOk i g' t' := by
  obtain ⟨irqs, place⟩ := t
  have hcall : place.holds = false → startIoCall irqs c g = some (t', g') →
      StartIoEffect i g g' ∧ StartIoOk i g' t' := by
    intro hl hcall
    cases c with
    | irqs | pcmOpen =>
      obtain ⟨rfl, rfl⟩ := by simpa [startIoCall] using hcall
      exact ⟨.kept rfl rfl rfl, .of_free (hok.not_held hl) rfl trivial⟩
    | handleTimestamp =>
      obtain ⟨rfl, rfl⟩ := by simpa [startIoCall] using hcall
      exact ⟨.kept rfl rfl rfl, .of_free (hok.not_held hl) rfl ⟨rfl, rfl⟩⟩
    | next | timeout | boottime => cases hcall
  cases place with
  | idle | returned => exact hcall rfl hstep
  | opening n phase => exact aaudioPcmOpenStep_spec hok hfree hstep
  | handling u phase =>
    unfold startIoRun at hstep
    dsimp only at hstep
    split at hstep
    · exact aaudioHandleTimestampStep_spec hok hfree hstep
    · cases hstep

end Steps

/-! ## What an invocation does -/

/-- What is shared, before and after a step. -/
abbrev StartIoChange (ι : Type) := AaudioStartIo ι × AaudioStartIo ι

namespace StartIoChange

variable {ι : Type}

/-- No start wait is completed, and no timestamp stored. -/
structure Keeps (x : StartIoChange ι) : Prop where
  startIoCompl : x.2.startIoCompl = x.1.startIoCompl
  remoteTimestamp : x.2.remoteTimestamp = x.1.remoteTimestamp
  log : x.2.log = x.1.log

/-- The start wait of the first stream is completed. -/
structure Completes (x : StartIoChange ι) : Prop where
  startIoCompl : x.2.startIoCompl =
    Function.update x.1.startIoCompl 0 (x.1.startIoCompl 0 + 1)
  remoteTimestamp : x.2.remoteTimestamp = x.1.remoteTimestamp
  log : x.2.log = .completed 0 :: x.1.log

/-- The timestamp of the first stream is stored. -/
structure Stamps (osTimestamp : Nat) (x : StartIoChange ι) : Prop where
  startIoCompl : x.2.startIoCompl = x.1.startIoCompl
  remoteTimestamp : x.2.remoteTimestamp = Function.update x.1.remoteTimestamp 0 osTimestamp
  log : x.2.log = x.1.log

/-- One of the steps does `P`, and the others nothing. -/
def Once (P : StartIoChange ι → Prop) (steps : List (StartIoChange ι)) : Prop :=
  ∃ before x after, steps = before ++ x :: after ∧ P x ∧ ∀ y ∈ before ++ after, y.Keeps

variable {P : StartIoChange ι → Prop} {steps : List (StartIoChange ι)} {x : StartIoChange ι}

theorem keeps_snoc (h : ∀ y ∈ steps, Keeps y) (hx : x.Keeps) : ∀ y ∈ steps ++ [x], Keeps y := by
  intro y hy
  rcases List.mem_append.mp hy with hy | hy
  · exact h y hy
  · exact List.mem_singleton.mp hy ▸ hx

/-- The first step that does anything. -/
theorem Once.of_keeps (h : ∀ y ∈ steps, Keeps y) (hx : P x) : Once P (steps ++ [x]) :=
  ⟨steps, x, [], rfl, hx, by simpa using h⟩

theorem Once.snoc (h : Once P steps) (hx : x.Keeps) : Once P (steps ++ [x]) := by
  obtain ⟨before, y, after, rfl, hy, hothers⟩ := h
  refine ⟨before, y, after ++ [x], by simp, hy, ?_⟩
  rw [← List.append_assoc]
  exact keeps_snoc hothers hx

end StartIoChange

section Changes

open StartIoChange

variable {ι : Type} {i : ι} {c : StartIoChoice} {t t' : StartIoThread} {g g' : AaudioStartIo ι}
  {steps : List (StartIoChange ι)}

/-- What an invocation did up to a place. -/
def TimestampUpdate.Changed (u : TimestampUpdate) (steps : List (StartIoChange ι)) :
    TimestampPhase → Prop
  | .completed | .disarmed => Once Completes steps
  | .stamped | .streamUnlocked => Once (Stamps u.osTimestamp) steps
  | .entered | .spinning | .locked | .starting | .skipped | .unlocked | .streamLocked =>
    ∀ x ∈ steps, x.Keeps

/-- The same, once it returned. -/
def StartIoPlace.Changed (steps : List (StartIoChange ι)) : StartIoPlace → Prop
  | .handling u phase => u.Changed steps phase
  | .returned u =>
    (u.armed = true → Once Completes steps) ∧
      (u.armed = false → Once (Stamps u.osTimestamp) steps)
  | .idle | .opening .. => True

/-- A step of the handler adds what it should. -/
theorem aaudioHandleTimestampStep_changed {irqs : Bool} {u : TimestampUpdate}
    {phase : TimestampPhase} (hupdate : u.At irqs phase) (hchanged : u.Changed steps phase)
    (hstep : aaudioHandleTimestampStep i irqs u phase g = some (t', g')) :
    t'.place.Changed (steps ++ [(g, g')]) := by
  have hkeeps : g'.startIoCompl = g.startIoCompl → g'.remoteTimestamp = g.remoteTimestamp →
      g'.log = g.log → StartIoChange.Keeps (g, g') := fun hs hr hl => ⟨hs, hr, hl⟩
  cases phase with
  | entered | skipped =>
    obtain ⟨rfl, rfl⟩ := by simpa [aaudioHandleTimestampStep] using hstep
    exact keeps_snoc hchanged (hkeeps rfl rfl rfl)
  | spinning | unlocked =>
    simp only [aaudioHandleTimestampStep] at hstep
    split at hstep
    · obtain ⟨rfl, rfl⟩ := by simpa using hstep
      exact keeps_snoc hchanged (hkeeps rfl rfl rfl)
    · cases hstep
  | locked =>
    simp only [aaudioHandleTimestampStep] at hstep
    split at hstep
    · obtain ⟨rfl, rfl⟩ := by simpa using hstep
      exact keeps_snoc hchanged (hkeeps rfl rfl rfl)
    · obtain ⟨rfl, rfl⟩ := by simpa using hstep
      exact keeps_snoc hchanged (hkeeps rfl rfl rfl)
  | starting =>
    obtain ⟨rfl, rfl⟩ := by simpa [aaudioHandleTimestampStep] using hstep
    exact .of_keeps hchanged ⟨rfl, rfl, rfl⟩
  | completed =>
    obtain ⟨rfl, rfl⟩ := by simpa [aaudioHandleTimestampStep] using hstep
    exact Once.snoc hchanged (hkeeps rfl rfl rfl)
  | disarmed =>
    obtain ⟨-, harmed, -⟩ := hupdate
    obtain ⟨rfl, rfl⟩ := by simpa [aaudioHandleTimestampStep] using hstep
    exact ⟨fun _ => Once.snoc hchanged (hkeeps rfl rfl rfl), fun hnot => by simp [harmed] at hnot⟩
  | streamLocked =>
    obtain ⟨rfl, rfl⟩ := by simpa [aaudioHandleTimestampStep] using hstep
    exact .of_keeps hchanged ⟨rfl, rfl, rfl⟩
  | stamped =>
    obtain ⟨rfl, rfl⟩ := by simpa [aaudioHandleTimestampStep] using hstep
    exact Once.snoc hchanged (hkeeps rfl rfl rfl)
  | streamUnlocked =>
    obtain ⟨-, harmed, -⟩ := hupdate
    obtain ⟨rfl, rfl⟩ := by simpa [aaudioHandleTimestampStep] using hstep
    exact ⟨fun hnot => by simp [harmed] at hnot, fun _ => Once.snoc hchanged (hkeeps rfl rfl rfl)⟩

/-- The opens have no say. -/
theorem aaudioPcmOpenStep_changed {irqs : Bool} {n : Nat} {phase : PcmOpenPhase}
    (hstep : aaudioPcmOpenStep i irqs n c phase g = some (t', g')) : t'.place.Changed steps := by
  unfold aaudioPcmOpenStep at hstep
  split at hstep
  · split at hstep
    · obtain ⟨rfl, -⟩ := by simpa using hstep
      trivial
    · cases hstep
  · obtain ⟨rfl, -⟩ := by simpa using hstep
    trivial
  · obtain ⟨rfl, -⟩ := by simpa using hstep
    trivial
  · obtain ⟨rfl, -⟩ := by simpa using hstep
    trivial
  · obtain ⟨rfl, -⟩ := by simpa using hstep
    trivial
  · split at hstep
    · obtain ⟨rfl, -⟩ := by simpa using hstep
      trivial
    · cases hstep
  · split at hstep
    · obtain ⟨rfl, -⟩ := by simpa using hstep
      trivial
    · cases hstep
  · obtain ⟨rfl, -⟩ := by simpa using hstep
    trivial
  · cases hstep

/-- A step that begins a call clears the record of its thread, and any other adds to it. -/
def StartIoChoice.record (c : StartIoChoice) (steps : List (StartIoChange ι))
    (x : StartIoChange ι) : List (StartIoChange ι) :=
  match c with
  | .irqs _ | .pcmOpen _ | .handleTimestamp _ => []
  | .next | .timeout | .boottime _ => steps ++ [x]

theorem startIoRun_changed (hupdate : t.place.UpdateOk t.irqs) (hchanged : t.place.Changed steps)
    (hstep : startIoRun i c t g = some (t', g')) :
    t'.place.Changed (c.record steps (g, g')) := by
  obtain ⟨irqs, place⟩ := t
  have hcall : startIoCall irqs c g = some (t', g') →
      t'.place.Changed (c.record steps (g, g')) := by
    intro hcall
    cases c with
    | irqs | pcmOpen =>
      obtain ⟨rfl, rfl⟩ := by simpa [startIoCall] using hcall
      trivial
    | handleTimestamp =>
      obtain ⟨rfl, rfl⟩ := by simpa [startIoCall] using hcall
      exact fun x hx => absurd hx List.not_mem_nil
    | next | timeout | boottime => cases hcall
  cases place with
  | idle | returned => exact hcall hstep
  | opening n phase => exact aaudioPcmOpenStep_changed hstep
  | handling u phase =>
    unfold startIoRun at hstep
    dsimp only at hstep
    split at hstep
    · next hnext =>
      subst hnext
      exact aaudioHandleTimestampStep_changed hupdate hchanged hstep
    · cases hstep

end Changes

/-! ## All runs -/

/-- Every thread has a record of its own. -/
def noteChange {ι : Type} [DecidableEq ι] :
    ThreadAction ι StartIoChoice Empty → Threads ι (AaudioStartIo ι) StartIoThread →
      Threads ι (AaudioStartIo ι) StartIoThread → (ι → List (StartIoChange ι)) →
        ι → List (StartIoChange ι)
  | .run i c, s, s', h => Function.update h i (c.record (h i) (s.shared, s'.shared))
  | .env e, _, _, _ => nomatch e

/-- The runs, with what the steps of each thread's last call changed. -/
def startIoRuns (ι : Type) [DecidableEq ι] :
    StepSystem (Threads ι (AaudioStartIo ι) StartIoThread × (ι → List (StartIoChange ι)))
      (ThreadAction ι StartIoChoice Empty) :=
  (startIoProgram ι).system.withHistory (fun _ _ => []) noteChange

section Runs

variable {ι : Type} [DecidableEq ι]
  {G : ThreadAction ι StartIoChoice Empty → Threads ι (AaudioStartIo ι) StartIoThread → Prop}
  {s : Threads ι (AaudioStartIo ι) StartIoThread} {h : ι → List (StartIoChange ι)} {i : ι}

/-- What is known of every thread, in every run. -/
theorem start_io_ok (hreach : (startIoProgram ι).system.Reachable G s) (i : ι) :
    StartIoOk i s.shared (s.thread i) := by
  refine (ThreadProgram.invariant (P := AaudioStartIo.FreeOk) (Q := StartIoOk)
    (R := fun _ _ _ _ => True) ?_ ?_ ?_ hreach).thread i
  · rintro g rfl
    exact ⟨fun _ => rfl, fun i => .of_free nofun rfl trivial, fun _ _ => trivial⟩
  · intro s i c l g _ hs _ hrun
    obtain ⟨heff, hok⟩ := startIoRun_spec (hs.thread i) hs.shared hrun
    exact ⟨heff.freeOk hs.shared, hok, fun j hij =>
      ⟨(hs.thread j).other heff hij, trivial, trivial⟩⟩
  · exact fun _ e => nomatch e

/-- The invariant of the threads, in the runs that are recorded. -/
theorem start_io_runs_ok (hreach : (startIoRuns ι).Reachable (fun _ _ => True) (s, h)) (i : ι) :
    StartIoOk i s.shared (s.thread i) := by
  have hforget : (startIoProgram ι).system.Reachable (fun _ _ => True) s :=
    hreach.forget fun _ _ _ => trivial
  exact start_io_ok hforget i

/-- The record of a thread is what its handler should have done by now. -/
theorem start_io_changed (hreach : (startIoRuns ι).Reachable (fun _ _ => True) (s, h)) (i : ι) :
    (s.thread i).place.Changed (h i) := by
  refine StepSystem.Reachable.invariant
    (I := fun p => ∀ i, (p.1.thread i).place.Changed (p.2 i)) ?_ ?_ hreach i
  · rintro ⟨s, h⟩ hinit i
    obtain ⟨⟨-, hstart⟩, rfl⟩ := StepSystem.withHistory_init.mp hinit
    rw [hstart i]
    trivial
  · rintro a ⟨s, h⟩ ⟨s', h'⟩ hreach hI - hnext j
    obtain ⟨hstep, rfl⟩ := StepSystem.withHistory_step hnext
    obtain ⟨i, c, t, g, rfl, hrun, rfl⟩ | ⟨e, -⟩ := ThreadProgram.step_cases hstep
    · by_cases hij : j = i
      · subst hij
        have hok := start_io_runs_ok hreach j
        simpa [noteChange] using startIoRun_changed hok.update (hI j) hrun
      · -- another thread goes on
        simpa [noteChange, Function.update_of_ne hij] using hI j
    · exact nomatch e

/-- What is to hold when the handler returns: of its steps one completed the start wait, if
the stream was armed, or one stored the timestamp, and a period was reported; the lock is
released, and interrupts are as they were. -/
structure TimestampUpdate.Returns (u : TimestampUpdate) (irqs : Bool) (g : AaudioStartIo ι)
    (steps : List (StartIoChange ι)) (i : ι) : Prop where
  completed : u.armed = true → StartIoChange.Once StartIoChange.Completes steps
  stamped : u.armed = false → StartIoChange.Once (StartIoChange.Stamps u.osTimestamp) steps
  elapsed : u.elapsed = if u.armed then 0 else 1
  released : g.startIoSl ≠ some i
  irqs : irqs = u.entered

/-- **Timestamp updates.** In every run of any number of threads that open streams and
handle updates, every update that returned did what it should, exactly if it did not find
the stream armed or interrupts were disabled when it was entered. -/
theorem handle_timestamp_iff (hreach : (startIoRuns ι).Reachable (fun _ _ => True) (s, h))
    {irqs : Bool} {u : TimestampUpdate} (hreturned : s.thread i = ⟨irqs, .returned u⟩) :
    u.Returns irqs s.shared (h i) i ↔ (u.armed = true → u.entered = false) := by
  have hok := start_io_runs_ok hreach i
  have hchanged := start_io_changed hreach i
  rw [hreturned] at hok hchanged
  obtain ⟨hcompleted, hstamped⟩ := hchanged
  have hreleased := hok.not_held rfl
  rcases hok.update with ⟨harmed, helapsed, hirqs⟩ | ⟨harmed, helapsed, hentered⟩
  · subst hirqs
    constructor
    · exact fun hreturns _ => hreturns.irqs.symm
    · exact fun hdisabled => ⟨hcompleted, hstamped, by simp [harmed, helapsed], hreleased,
        (hdisabled harmed).symm⟩
  · exact iff_of_true ⟨hcompleted, hstamped, by simp [harmed, helapsed], hreleased, hentered.symm⟩
      (by simp [harmed])

end Runs

/-- Thread one opens the stream, and thread two handles an update and returns. -/
def startRun : List (ThreadAction TwoThreads StartIoChoice Empty) :=
  [.run .one (.pcmOpen 0), .run .one .next, .run .one .next, .run .one .next, .run .one .next,
    .run .one .next, .run .two (.handleTimestamp 1000), .run .two .next, .run .two .next,
    .run .two .next, .run .two .next, .run .two .next, .run .two .next]

/-- Thread two handles another update, with interrupts enabled. -/
def laterRun : List (ThreadAction TwoThreads StartIoChoice Empty) :=
  startRun ++ [.run .two (.irqs true), .run .two (.handleTimestamp 2000), .run .two .next,
    .run .two .next, .run .two .next, .run .two .next, .run .two .next, .run .two .next,
    .run .two .next, .run .two .next]

/-- A run from the beginning. -/
def startIoAfter (run : List (ThreadAction TwoThreads StartIoChoice Empty)) :
    Threads TwoThreads (AaudioStartIo TwoThreads) StartIoThread ×
      (TwoThreads → List (StartIoChange TwoThreads)) :=
  (startIoRuns TwoThreads).after (fun _ _ => True) run
    (⟨startIoInit TwoThreads, fun _ => ⟨true, .idle⟩⟩, fun _ => [])

/-- The updates, which were both entered with interrupts enabled. -/
def startUpdate : TimestampUpdate := ⟨1000, true, true, true, 0⟩
def laterUpdate : TimestampUpdate := ⟨2000, true, true, false, 1⟩

/-- The later update does all it should. -/
theorem handle_timestamp_iff_of_a_start :
    (startUpdate.Returns false (startIoAfter startRun).1.shared ((startIoAfter startRun).2 .two)
        .two ↔ (startUpdate.armed = true → startUpdate.entered = false)) ∧
      laterUpdate.Returns true (startIoAfter laterRun).1.shared ((startIoAfter laterRun).2 .two)
        .two ∧
      (startIoAfter laterRun).1.shared.remoteTimestamp 0 = 2000 := by
  have hstart : (startIoRuns TwoThreads).Reachable (fun _ _ => True) (startIoAfter startRun) :=
    .after (.of_init ⟨⟨rfl, fun _ => rfl⟩, rfl⟩) (by decide)
  have hlater : (startIoRuns TwoThreads).Reachable (fun _ _ => True) (startIoAfter laterRun) :=
    .after (.of_init ⟨⟨rfl, fun _ => rfl⟩, rfl⟩) (by decide)
  have hstarted : (startIoAfter startRun).1.thread .two = ⟨false, .returned startUpdate⟩ := by
    decide
  have hreturned : (startIoAfter laterRun).1.thread .two = ⟨true, .returned laterUpdate⟩ := by
    decide
  exact ⟨handle_timestamp_iff hstart hstarted,
    (handle_timestamp_iff hlater hreturned).mpr (by decide), by decide⟩

/-- It returns with interrupts disabled. -/
theorem start_leaves_interrupts_disabled :
    ¬∀ s h, (startIoRuns TwoThreads).Reachable (fun _ _ => True) (s, h) →
      ∀ i irqs u, s.thread i = ⟨irqs, .returned u⟩ → u.Returns irqs s.shared (h i) i := by
  intro hall
  have hreach : (startIoRuns TwoThreads).Reachable (fun _ _ => True) (startIoAfter startRun) :=
    .after (.of_init ⟨⟨rfl, fun _ => rfl⟩, rfl⟩) (by decide)
  have hreturned : (startIoAfter startRun).1.thread .two = ⟨false, .returned startUpdate⟩ := by
    decide
  exact absurd (hall _ _ hreach .two false startUpdate hreturned).irqs (by decide)

end BceDriver
