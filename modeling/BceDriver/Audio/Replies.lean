import BceDriver.Audio.Transport

/-!
# Replies and the calls that wait for them

- `AaudioOk`: what holds of a thread and the table. An entry in the table is that
  of a call in progress with that tag, until the handler that holds the lock has
  completed it; a call whose tag cannot have been drawn again keeps its entry
  until the first reply with its tag, which is copied to it.
- `aaudio_asserted`: every run keeps it, by the interference rule.
- `aaudio_replies_to_their_calls`: the result.
-/

namespace BceDriver

variable {ι : Type} [DecidableEq ι]

/-! ## Places -/

/-- The thread holds the spinlock. -/
def AaudioThread.Holds : AaudioThread ι → Prop
  | .preparing _ _ | .prepared _ _ _ | .registered _ _ | .sending _ | .removing _ | .removed
  | .delivering _ _ | .completing _ _ | .clearing _ | .replied => True
  | _ => False

/-- The call of `__aaudio_send_cmd_sync` the thread is in, once its entry is in
the table and until the thread returned from its wait or took the entry out. -/
def AaudioThread.call? : AaudioThread ι → Option AaudioCall
  | .registered _ c | .waiting c | .timedOut c | .removing c => some c
  | _ => none

/-- The tag number, counted from the start, that the thread has. -/
def AaudioThread.drawn? : AaudioThread ι → Option Nat
  | .prepared _ call _ => some call
  | l => l.call?.map AaudioCall.call

/-- The entry the handler is serving. -/
def AaudioThread.serving? : AaudioThread ι → Option (Nat × Bool)
  | .completing tagn _ => some (tagn, false)
  | .clearing tagn => some (tagn, true)
  | _ => none

/-! ## Records -/

/-- The calls that got a reply. -/
def AaudioBce.copiedTo (b : AaudioBce ι) : List Nat :=
  b.handled.filterMap AaudioHandled.call

/-- The replies with the tag of a call, handled since it entered its entry. -/
def AaudioBce.repliesTo (b : AaudioBce ι) (c : AaudioCall) : List AaudioHandled :=
  (b.handled.drop c.since).filter fun r => r.tagn = c.tagn

/-- No reply with its tag came yet, and the entry of thread `i` is there. -/
structure AaudioBce.Expecting (b : AaudioBce ι) (i : ι) (c : AaudioCall) : Prop where
  unanswered : b.repliesTo c = []
  entry : b.pendingEntries c.tagn = some i
  unserved : ∀ done, b.serving ≠ some (c.tagn, done)

/-- The first reply with its tag was copied to the call. -/
def AaudioBce.Answered (b : AaudioBce ι) (c : AaudioCall) : Prop :=
  ∃ r rest, b.repliesTo c = r :: rest ∧ r.call = some c.call

/-! ## Assertions -/

/-- What holds of the transport. -/
structure AaudioBce.Ok (b : AaudioBce ι) : Prop where
  tagNum : b.tagNum = b.drawn % AAUDIO_BCE_QUEUE_TAG_COUNT
  unserved : b.spinlock = none → b.serving = none
  once : b.copiedTo.Nodup
  drawn : ∀ call ∈ b.copiedTo, call ≤ b.drawn

/-- What holds of a call in progress. -/
structure AaudioCallOk (i : ι) (b : AaudioBce ι) (c : AaudioCall) : Prop where
  known : b.call i = c.call
  drawn : c.call ≤ b.drawn
  tagn : c.tagn = c.call % AAUDIO_BCE_QUEUE_TAG_COUNT
  since : c.since ≤ b.handled.length
  once : b.pendingEntries c.tagn = some i → (∀ done, b.serving ≠ some (c.tagn, done)) →
    c.call ∉ b.copiedTo
  token : 0 < b.cmpl i → b.pendingEntries c.tagn = some i → b.serving = some (c.tagn, true)
  alone : b.drawn < c.call + AAUDIO_BCE_QUEUE_TAG_COUNT →
    ∀ j, b.pendingEntries c.tagn = some j → j = i
  first : b.drawn < c.call + AAUDIO_BCE_QUEUE_TAG_COUNT → b.Expecting i c ∨ b.Answered c

/-- What holds of a thread. -/
structure AaudioOk (i : ι) (b : AaudioBce ι) (l : AaudioThread ι) : Prop where
  holds : l.Holds ↔ b.spinlock = some i
  entry : ∀ t, b.pendingEntries t = some i →
    b.serving = some (t, true) ∨ ∃ c, l.call? = some c ∧ c.tagn = t
  call : ∀ c, l.call? = some c → AaudioCallOk i b c
  prepared : ∀ size call tagn, l = .prepared size call tagn →
    call = b.drawn ∧ tagn = call % AAUDIO_BCE_QUEUE_TAG_COUNT ∧ call ∉ b.copiedTo
  serving : l.Holds → b.serving = l.serving?
  completing : ∀ t j, l = .completing t j → b.pendingEntries t = some j

/-- No two threads have the same of the tags drawn. -/
def AaudioApart (l m : AaudioThread ι) : Prop :=
  ∀ call, l.drawn? = some call → m.drawn? ≠ some call

abbrev AaudioAsserted (s : Threads ι (AaudioBce ι) (AaudioThread ι)) : Prop :=
  ThreadProgram.Asserted AaudioBce.Ok AaudioOk (fun _ _ => AaudioApart) s

/-! ## What a step does -/

/-- What the assertions read of the table is as it was. -/
structure SameTable (b b' : AaudioBce ι) : Prop where
  pendingEntries : b'.pendingEntries = b.pendingEntries
  drawn : b'.drawn = b.drawn
  call : b'.call = b.call
  serving : b'.serving = b.serving
  handled : b'.handled = b.handled
  cmpl : b'.cmpl = b.cmpl
  tagNum : b'.tagNum = b.tagNum

/-- The thread is neither about to enter an entry nor serving one. -/
def AaudioThread.Plain : AaudioThread ι → Prop
  | .prepared _ _ _ | .completing _ _ | .clearing _ => False
  | _ => True

/-- A step of thread `i`, by what it does to the lock and the table. -/
inductive AaudioEffect (i : ι) :
    AaudioThread ι → AaudioThread ι → AaudioBce ι → AaudioBce ι → Prop where
  | moved {l l' : AaudioThread ι} {b b' : AaudioBce ι} : SameTable b b' →
      b'.spinlock = b.spinlock → l.Plain → l'.Plain → (l'.Holds ↔ l.Holds) →
      l'.call? = l.call? →
      (b'.msg = b.msg ∨ ∃ reply size, l' = .reserving (.sync reply) size ∧
        b'.msg = Function.update b.msg i reply) → AaudioEffect i l l' b b'
  | locked {l l' : AaudioThread ι} {b : AaudioBce ι} : b.spinlock = none → l.Plain → l'.Plain →
      l'.Holds → l'.call? = l.call? → AaudioEffect i l l' b { b with spinlock := some i }
  | unlocked {l l' : AaudioThread ι} {b b' : AaudioBce ι} : SameTable b b' →
      b'.spinlock = none → l.Plain → l'.Plain → l.Holds → ¬l'.Holds → l'.call? = l.call? →
      b'.msg = b.msg → AaudioEffect i l l' b b'
  | drew {kind : AaudioSendKind} {size : Nat} {l' : AaudioThread ι} {b : AaudioBce ι} :
      (l' = .sending size ∨
        l' = .prepared size (aaudioSendCreateTag b).drawn (aaudioSendCreateTag b).tagNum) →
      AaudioEffect i (.preparing kind size) l' b (aaudioSendCreateTag b)
  | entered {size call tagn : Nat} {b : AaudioBce ι} :
      AaudioEffect i (.prepared size call tagn)
        (.registered size ⟨call, tagn, b.handled.length⟩) b { b with
          cmpl := Function.update b.cmpl i 0
          pendingEntries := Function.update b.pendingEntries tagn (some i)
          call := Function.update b.call i call }
  | took {c : AaudioCall} {b : AaudioBce ι} : 0 < b.cmpl i →
      AaudioEffect i (.waiting c) (.returned 0) b
        { b with cmpl := Function.update b.cmpl i (b.cmpl i - 1) }
  | removed {c : AaudioCall} {b b' : AaudioBce ι} : (∀ t, b'.pendingEntries t =
        if t = c.tagn ∧ b.pendingEntries t = some i then none else b.pendingEntries t) →
      b' = { b with pendingEntries := b'.pendingEntries } →
      AaudioEffect i (.removing c) .removed b b'
  | delivered {tagn : Nat} {reply : AaudioMsg} {j : ι} {b : AaudioBce ι} :
      b.pendingEntries tagn = some j →
      AaudioEffect i (.delivering tagn reply) (.completing tagn j) b { b with
        msg := Function.update b.msg j (aaudioCopy reply (b.msg j))
        serving := some (tagn, false)
        handled := b.handled ++ [⟨tagn, reply, some (b.call j)⟩] }
  | unmatched {tagn : Nat} {reply : AaudioMsg} {b : AaudioBce ι} :
      b.pendingEntries tagn = none →
      AaudioEffect i (.delivering tagn reply) .replied b
        { b with handled := b.handled ++ [⟨tagn, reply, none⟩] }
  | completed {tagn : Nat} {j : ι} {b : AaudioBce ι} :
      AaudioEffect i (.completing tagn j) (.clearing tagn) b { b with
        cmpl := Function.update b.cmpl j (b.cmpl j + 1)
        serving := some (tagn, true) }
  | cleared {tagn : Nat} {b : AaudioBce ι} :
      AaudioEffect i (.clearing tagn) .replied b { b with
        pendingEntries := Function.update b.pendingEntries tagn none
        serving := none }

theorem aaudioCallStep_spec {i : ι} {c : AaudioChoice} {l l' : AaudioThread ι}
    {b b' : AaudioBce ι} (hl : l.Plain ∧ ¬l.Holds ∧ l.call? = none)
    (hstep : aaudioCallStep i c b = some (l', b')) : AaudioEffect i l l' b b' := by
  obtain ⟨hplain, hfree, hcall⟩ := hl
  have hmoved : ∀ {l' : AaudioThread ι} {b' : AaudioBce ι}, SameTable b b' →
      b'.spinlock = b.spinlock → l'.Plain → ¬l'.Holds → l'.call? = none →
      (b'.msg = b.msg ∨ ∃ reply size, l' = .reserving (.sync reply) size ∧
        b'.msg = Function.update b.msg i reply) → AaudioEffect i l l' b b' :=
    fun hsame hlock hp hh hc => .moved hsame hlock hplain hp
      ⟨fun h => absurd h hh, fun h => absurd h hfree⟩ (hc.trans hcall.symm)
  cases c with
  | send kind size =>
    cases kind with
    | sync reply =>
      cases hstep
      exact hmoved ⟨rfl, rfl, rfl, rfl, rfl, rfl, rfl⟩ rfl trivial id rfl (.inr ⟨_, _, rfl, rfl⟩)
    | plain | tagged =>
      cases hstep
      exact hmoved ⟨rfl, rfl, rfl, rfl, rfl, rfl, rfl⟩ rfl trivial id rfl (.inl rfl)
  | handleReply reply =>
    simp only [aaudioCallStep] at hstep
    split at hstep
    · cases hstep
      exact hmoved ⟨rfl, rfl, rfl, rfl, rfl, rfl, rfl⟩ rfl trivial id rfl (.inl rfl)
    · split at hstep
      · cases hstep
        exact hmoved ⟨rfl, rfl, rfl, rfl, rfl, rfl, rfl⟩ rfl trivial id rfl (.inl rfl)
      · cases hstep
  | reserved | next | timeout => cases hstep

omit [DecidableEq ι] in
theorem AaudioBce.lock_some {i : ι} {b b' : AaudioBce ι} (h : b.lock i = some b') :
    b.spinlock = none ∧ b' = { b with spinlock := some i } := by
  unfold AaudioBce.lock at h
  split at h
  · next hfree =>
    cases h
    exact ⟨hfree, rfl⟩
  · cases h

theorem aaudioRun_spec {i : ι} {c : AaudioChoice} {l l' : AaudioThread ι} {b b' : AaudioBce ι}
    (hstep : aaudioRun i c l b = some (l', b')) : AaudioEffect i l l' b b' := by
  cases l with
  | idle => exact aaudioCallStep_spec ⟨trivial, id, rfl⟩ (by simpa [aaudioRun] using hstep)
  | returned status =>
    exact aaudioCallStep_spec ⟨trivial, id, rfl⟩ (by simpa [aaudioRun] using hstep)
  | reserving kind size =>
    cases c with
    | reserved status =>
      cases hstep
      split
      · exact .moved ⟨rfl, rfl, rfl, rfl, rfl, rfl, rfl⟩ rfl trivial trivial Iff.rfl rfl (.inl rfl)
      · exact .moved ⟨rfl, rfl, rfl, rfl, rfl, rfl, rfl⟩ rfl trivial trivial Iff.rfl rfl (.inl rfl)
    | send | handleReply | next | timeout => cases hstep
  | locking kind size =>
    cases c with
    | next =>
      obtain ⟨b₁, hlock, heq⟩ := Option.map_eq_some_iff.mp hstep
      cases heq
      obtain ⟨hfree, rfl⟩ := AaudioBce.lock_some hlock
      exact .locked hfree trivial trivial trivial rfl
    | send | handleReply | reserved | timeout => cases hstep
  | preparing kind size =>
    cases c with
    | next =>
      cases kind with
      | tagged tag =>
        cases hstep
        exact .moved ⟨rfl, rfl, rfl, rfl, rfl, rfl, rfl⟩ rfl trivial trivial Iff.rfl rfl (.inl rfl)
      | plain =>
        cases hstep
        exact .drew (.inl rfl)
      | sync reply =>
        cases hstep
        exact .drew (.inr rfl)
    | send | handleReply | reserved | timeout => cases kind <;> cases hstep
  | prepared size call tagn =>
    cases c with
    | next =>
      cases hstep
      exact .entered
    | send | handleReply | reserved | timeout => cases hstep
  | registered size call =>
    cases c with
    | next =>
      cases hstep
      exact .unlocked ⟨rfl, rfl, rfl, rfl, rfl, rfl, rfl⟩ rfl trivial trivial trivial id rfl rfl
    | send | handleReply | reserved | timeout => cases hstep
  | sending size =>
    cases c with
    | next =>
      cases hstep
      exact .unlocked ⟨rfl, rfl, rfl, rfl, rfl, rfl, rfl⟩ rfl trivial trivial trivial id rfl rfl
    | send | handleReply | reserved | timeout => cases hstep
  | waiting call =>
    cases c with
    | next =>
      simp only [aaudioRun] at hstep
      split at hstep
      · next htoken =>
        cases hstep
        exact .took htoken
      · cases hstep
    | timeout =>
      simp only [aaudioRun] at hstep
      split at hstep
      · cases hstep
        exact .moved ⟨rfl, rfl, rfl, rfl, rfl, rfl, rfl⟩ rfl trivial trivial Iff.rfl rfl (.inl rfl)
      · cases hstep
    | send | handleReply | reserved => cases hstep
  | timedOut call =>
    cases c with
    | next =>
      obtain ⟨b₁, hlock, heq⟩ := Option.map_eq_some_iff.mp hstep
      cases heq
      obtain ⟨hfree, rfl⟩ := AaudioBce.lock_some hlock
      exact .locked hfree trivial trivial trivial rfl
    | send | handleReply | reserved | timeout => cases hstep
  | removing call =>
    cases c with
    | next =>
      cases hstep
      split
      · next hentry =>
        refine .removed (fun t => ?_) rfl
        by_cases ht : t = call.tagn
        · subst ht
          simp [hentry]
        · simp [ht]
      · next hentry =>
        refine .removed (fun t => ?_) rfl
        rw [if_neg]
        rintro ⟨rfl, h⟩
        exact hentry h
    | send | handleReply | reserved | timeout => cases hstep
  | removed =>
    cases c with
    | next =>
      cases hstep
      exact .unlocked ⟨rfl, rfl, rfl, rfl, rfl, rfl, rfl⟩ rfl trivial trivial trivial id rfl rfl
    | send | handleReply | reserved | timeout => cases hstep
  | replying tagn reply =>
    cases c with
    | next =>
      obtain ⟨b₁, hlock, heq⟩ := Option.map_eq_some_iff.mp hstep
      cases heq
      obtain ⟨hfree, rfl⟩ := AaudioBce.lock_some hlock
      exact .locked hfree trivial trivial trivial rfl
    | send | handleReply | reserved | timeout => cases hstep
  | delivering tagn reply =>
    cases c with
    | next =>
      have hdeliver : aaudioDeliver tagn reply b = (l', b') := Option.some.inj hstep
      unfold aaudioDeliver at hdeliver
      split at hdeliver
      · next j hentry =>
        cases hdeliver
        exact .delivered hentry
      · next hentry =>
        cases hdeliver
        exact .unmatched hentry
    | send | handleReply | reserved | timeout => cases hstep
  | completing tagn j =>
    cases c with
    | next =>
      cases hstep
      exact .completed
    | send | handleReply | reserved | timeout => cases hstep
  | clearing tagn =>
    cases c with
    | next =>
      cases hstep
      exact .cleared
    | send | handleReply | reserved | timeout => cases hstep
  | replied =>
    cases c with
    | next =>
      cases hstep
      exact .unlocked ⟨rfl, rfl, rfl, rfl, rfl, rfl, rfl⟩ rfl trivial trivial trivial id rfl rfl
    | send | handleReply | reserved | timeout => cases hstep

/-! ## A step keeps the assertions of its thread -/

omit [DecidableEq ι] in
theorem AaudioThread.Plain.serving? {l : AaudioThread ι} (h : l.Plain) : l.serving? = none := by
  cases l with
  | completing | clearing => exact h.elim
  | _ => rfl

section Step

variable {i j : ι} {b b' : AaudioBce ι} {l l' m : AaudioThread ι} {c : AaudioCall}

omit [DecidableEq ι] in
theorem SameTable.repliesTo (h : SameTable b b') : b'.repliesTo c = b.repliesTo c := by
  unfold AaudioBce.repliesTo
  rw [h.handled]

omit [DecidableEq ι] in
theorem SameTable.copiedTo (h : SameTable b b') : b'.copiedTo = b.copiedTo := by
  unfold AaudioBce.copiedTo
  rw [h.handled]

omit [DecidableEq ι] in
theorem AaudioCallOk.same (h : AaudioCallOk i b c) (hsame : SameTable b b') :
    AaudioCallOk i b' c where
  known := hsame.call ▸ h.known
  drawn := hsame.drawn ▸ h.drawn
  tagn := h.tagn
  since := hsame.handled ▸ h.since
  once := by
    rw [hsame.pendingEntries, hsame.serving, hsame.copiedTo]
    exact h.once
  token := by
    rw [hsame.pendingEntries, hsame.serving, hsame.cmpl]
    exact h.token
  alone := by
    rw [hsame.pendingEntries, hsame.drawn]
    exact h.alone
  first hle := by
    rw [hsame.drawn] at hle
    obtain h | ⟨r, rest, hreplies, hr⟩ := h.first hle
    · left
      constructor
      · exact hsame.repliesTo.trans h.unanswered
      · rw [hsame.pendingEntries]
        exact h.entry
      · rw [hsame.serving]
        exact h.unserved
    · exact .inr ⟨r, rest, hsame.repliesTo.trans hreplies, hr⟩

omit [DecidableEq ι] in
/-- A thread that moves to a plain place, and leaves the table alone. -/
theorem AaudioOk.same (h : AaudioOk i b l) (hsame : SameTable b b') (hplain : l'.Plain)
    (hholds : l'.Holds ↔ b'.spinlock = some i) (hserving : l'.Holds → b.serving = none)
    (hcall : l'.call? = l.call?) : AaudioOk i b' l' where
  holds := hholds
  entry t ht := by
    rw [hsame.serving, hcall]
    exact h.entry t (hsame.pendingEntries ▸ ht)
  call c hc := (h.call c (hcall ▸ hc)).same hsame
  prepared size call tagn hl := by
    subst hl
    exact hplain.elim
  serving hl := by
    rw [hsame.serving, hplain.serving?]
    exact hserving hl
  completing t j hl := by
    subst hl
    exact hplain.elim

omit [DecidableEq ι] in
/-- The assertions of a thread that does not hold the lock, under a step of the
thread that does. -/
theorem AaudioOk.other (h : AaudioOk j b m) (hi : b.spinlock = some i) (hij : j ≠ i)
    (hi' : b'.spinlock ≠ some j)
    (hentry : ∀ t, b'.pendingEntries t = some j →
      b.pendingEntries t = some j ∧ (b.serving = some (t, true) → b'.serving = some (t, true)))
    (hcall : ∀ c, m.call? = some c → AaudioCallOk j b c → AaudioCallOk j b' c) :
    AaudioOk j b' m := by
  have hfree : ¬m.Holds := fun hm => hij (Option.some.inj ((h.holds.mp hm).symm.trans hi))
  constructor
  · exact ⟨fun hm => absurd hm hfree, fun hm => absurd hm hi'⟩
  · intro t ht
    obtain ⟨ht', hserving⟩ := hentry t ht
    exact (h.entry t ht').imp_left hserving
  · exact fun c hc => hcall c hc (h.call c hc)
  · rintro size call tagn rfl
    exact absurd trivial hfree
  · exact fun hm => absurd hm hfree
  · rintro t k rfl
    exact absurd trivial hfree

/-! ## Calls under the steps of others -/

omit [DecidableEq ι] in
theorem AaudioBce.repliesTo_append (h : c.since ≤ b.handled.length)
    (r : AaudioHandled) (hb' : b'.handled = b.handled ++ [r]) :
    b'.repliesTo c = b.repliesTo c ++ if r.tagn = c.tagn then [r] else [] := by
  unfold AaudioBce.repliesTo
  rw [hb', List.drop_append_of_le_length h, List.filter_append]
  congr 1
  by_cases hr : r.tagn = c.tagn
  · simp [hr]
  · simp [hr]

omit [DecidableEq ι] in
theorem AaudioBce.copiedTo_append {r : AaudioHandled} (hb' : b'.handled = b.handled ++ [r]) :
    b'.copiedTo = b.copiedTo ++ r.call.toList := by
  unfold AaudioBce.copiedTo
  rw [hb', List.filterMap_append]
  cases hr : r.call with
  | none => simp [hr]
  | some call => simp [hr]

omit [DecidableEq ι] in
/-- Another reply keeps the first one the first. -/
theorem AaudioBce.Answered.append (h : b.Answered c) (hsince : c.since ≤ b.handled.length)
    {r : AaudioHandled} (hb' : b'.handled = b.handled ++ [r]) : b'.Answered c := by
  obtain ⟨r₀, rest, hreplies, hr₀⟩ := h
  exact ⟨r₀, _, by rw [AaudioBce.repliesTo_append hsince r hb', hreplies, List.cons_append], hr₀⟩

omit [DecidableEq ι] in
/-- A tag drawn less than 1000 tags ago is the tag of one call only. -/
theorem tag_ne_of_drawn {drawn call tagn : Nat} (hle : call ≤ drawn) (hne : call ≠ drawn)
    (hlt : drawn < call + AAUDIO_BCE_QUEUE_TAG_COUNT)
    (htagn : tagn = call % AAUDIO_BCE_QUEUE_TAG_COUNT) :
    tagn ≠ drawn % AAUDIO_BCE_QUEUE_TAG_COUNT := by
  unfold AAUDIO_BCE_QUEUE_TAG_COUNT at *
  omega

omit [DecidableEq ι] in
theorem AaudioCallOk.drew (h : AaudioCallOk j b c) :
    AaudioCallOk j (aaudioSendCreateTag b) c where
  known := h.known
  drawn := h.drawn.trans (Nat.le_succ _)
  tagn := h.tagn
  since := h.since
  once := h.once
  token := h.token
  alone hlt := h.alone (Nat.lt_of_succ_lt hlt)
  first hlt := (h.first (Nat.lt_of_succ_lt hlt)).imp_left fun h =>
    ⟨h.unanswered, h.entry, h.unserved⟩

/-- Thread `i` enters its entry under the tag just drawn. -/
theorem AaudioCallOk.entered (h : AaudioCallOk j b c) (hij : j ≠ i) {tagn : Nat}
    (htagn : tagn = b.drawn % AAUDIO_BCE_QUEUE_TAG_COUNT) (hne : c.call ≠ b.drawn) :
    AaudioCallOk j { b with
      cmpl := Function.update b.cmpl i 0
      pendingEntries := Function.update b.pendingEntries tagn (some i)
      call := Function.update b.call i b.drawn } c := by
  have hold : ∀ {t}, Function.update b.pendingEntries tagn (some i) t = some j →
      t ≠ tagn ∧ b.pendingEntries t = some j := by
    intro t ht
    by_cases htt : t = tagn
    · subst htt
      rw [Function.update_self] at ht
      exact absurd (Option.some.inj ht).symm hij
    · rw [Function.update_of_ne htt] at ht
      exact ⟨htt, ht⟩
  have hother : b.drawn < c.call + AAUDIO_BCE_QUEUE_TAG_COUNT →
      Function.update b.pendingEntries tagn (some i) c.tagn = b.pendingEntries c.tagn := by
    intro hlt
    refine Function.update_of_ne ?_ _ _
    rw [htagn]
    exact tag_ne_of_drawn h.drawn hne hlt h.tagn
  constructor
  · simpa [Function.update_of_ne hij] using h.known
  · exact h.drawn
  · exact h.tagn
  · exact h.since
  · exact fun hentry hserving => h.once (hold hentry).2 hserving
  · intro htoken hentry
    simp only [Function.update_of_ne hij] at htoken
    exact h.token htoken (hold hentry).2
  · intro hlt k hk
    exact h.alone hlt k ((hother hlt).symm.trans hk)
  · intro hlt
    exact (h.first hlt).imp_left fun h => ⟨h.unanswered, (hother hlt).trans h.entry, h.unserved⟩

omit [DecidableEq ι] in
/-- A reply without an entry. -/
theorem AaudioCallOk.unmatched (h : AaudioCallOk j b c) {tagn : Nat} {reply : AaudioMsg}
    (hentry : b.pendingEntries tagn = none) :
    AaudioCallOk j { b with handled := b.handled ++ [⟨tagn, reply, none⟩] } c := by
  constructor
  · exact h.known
  · exact h.drawn
  · exact h.tagn
  · simpa using Nat.le_succ_of_le h.since
  · intro hj hserving
    rw [AaudioBce.copiedTo_append rfl]
    simpa using h.once hj hserving
  · exact h.token
  · exact h.alone
  · intro hlt
    obtain h' | h' := h.first hlt
    · refine .inl ⟨?_, h'.entry, h'.unserved⟩
      rw [AaudioBce.repliesTo_append h.since _ rfl, h'.unanswered, if_neg]
      · rfl
      · rintro htagn
        simp only at htagn
        rw [htagn, h'.entry] at hentry
        cases hentry
    · exact .inr (h'.append h.since rfl)

omit [DecidableEq ι] in
/-- A reply copied to the entry of thread `k`, which is in call `d`. -/
theorem AaudioCallOk.delivered (h : AaudioCallOk j b c) {k : ι} {d : AaudioCall} {tagn : Nat}
    {reply : AaudioMsg} {msg : ι → AaudioMsg} (hserving : b.serving = none)
    (hentry : b.pendingEntries tagn = some k) (hd : AaudioCallOk k b d)
    (hself : k = j → d = c) (hother : k ≠ j → d.call ≠ c.call) (htagn : d.tagn = tagn) :
    AaudioCallOk j { b with
      msg := msg
      serving := some (tagn, false)
      handled := b.handled ++ [⟨tagn, reply, some (b.call k)⟩] } c := by
  constructor
  · exact h.known
  · exact h.drawn
  · exact h.tagn
  · simpa using Nat.le_succ_of_le h.since
  · intro hj hserving'
    have htag : c.tagn ≠ tagn := fun ht => hserving' false (by rw [ht])
    have hk : k ≠ j := by
      rintro rfl
      exact htag (hself rfl ▸ htagn)
    rw [AaudioBce.copiedTo_append rfl]
    simp only [Option.toList_some, List.mem_append, List.mem_singleton, not_or]
    refine ⟨h.once hj fun done => by rw [hserving]; exact nofun, ?_⟩
    rw [hd.known]
    exact (hother hk).symm
  · intro htoken hj
    have hserved := h.token htoken hj
    rw [hserving] at hserved
    cases hserved
  · exact h.alone
  · intro hlt
    obtain h' | h' := h.first hlt
    · by_cases htag : c.tagn = tagn
      · right
        have hkj : k = j := Option.some.inj (hentry.symm.trans (htag ▸ h'.entry))
        refine ⟨⟨tagn, reply, some (b.call k)⟩, [], ?_, ?_⟩
        · rw [AaudioBce.repliesTo_append h.since _ rfl, h'.unanswered, if_pos htag.symm]
          rfl
        · rw [hkj, h.known]
      · refine .inl ⟨?_, h'.entry, fun done hdone => ?_⟩
        · rw [AaudioBce.repliesTo_append h.since _ rfl, h'.unanswered, if_neg (Ne.symm htag)]
          rfl
        · cases hdone
          exact htag rfl
    · exact .inr (h'.append h.since rfl)

/-- The wait of thread `k`, whose entry is being served, is completed. -/
theorem AaudioCallOk.completed (h : AaudioCallOk j b c) {k : ι} {tagn : Nat}
    (hserving : b.serving = some (tagn, false)) (hself : k = j → c.tagn = tagn) :
    AaudioCallOk j { b with
      cmpl := Function.update b.cmpl k (b.cmpl k + 1)
      serving := some (tagn, true) } c := by
  have hserved : ∀ {t}, (∀ done, some (tagn, true) ≠ some (t, done)) →
      ∀ done, b.serving ≠ some (t, done) := by
    intro t ht done hdone
    rw [hserving] at hdone
    cases hdone
    exact ht true rfl
  constructor
  · exact h.known
  · exact h.drawn
  · exact h.tagn
  · exact h.since
  · exact fun hj hserving' => h.once hj (hserved hserving')
  · intro htoken hj
    by_cases hk : k = j
    · rw [hself hk]
    · simp only [Function.update_of_ne (Ne.symm hk)] at htoken
      have hdone := h.token htoken hj
      rw [hserving] at hdone
      cases hdone
  · exact h.alone
  · intro hlt
    refine (h.first hlt).imp_left fun h => ⟨h.unanswered, h.entry, fun done hdone => ?_⟩
    cases hdone
    exact h.unserved false hserving

omit [DecidableEq ι] in
/-- The entry that was served is taken out. -/
theorem AaudioCallOk.cleared (h : AaudioCallOk j b c) {tagn : Nat}
    (hserving : b.serving = some (tagn, true)) :
    AaudioCallOk j { b with
      pendingEntries := Function.update b.pendingEntries tagn none
      serving := none } c := by
  have hold : ∀ {t k}, Function.update b.pendingEntries tagn none t = some k →
      t ≠ tagn ∧ b.pendingEntries t = some k := by
    intro t k ht
    by_cases htt : t = tagn
    · subst htt
      rw [Function.update_self] at ht
      cases ht
    · rw [Function.update_of_ne htt] at ht
      exact ⟨htt, ht⟩
  have hserved : ∀ {t}, t ≠ tagn → ∀ done, b.serving ≠ some (t, done) := by
    intro t ht done hdone
    rw [hserving] at hdone
    cases hdone
    exact ht rfl
  constructor
  · exact h.known
  · exact h.drawn
  · exact h.tagn
  · exact h.since
  · exact fun hj _ => h.once (hold hj).2 (hserved (hold hj).1)
  · intro htoken hj
    exact absurd (h.token htoken (hold hj).2) (hserved (hold hj).1 true)
  · exact fun hlt k hk => h.alone hlt k (hold hk).2
  · intro hlt
    refine (h.first hlt).imp_left fun h => ⟨h.unanswered, ?_, nofun⟩
    refine (Function.update_of_ne ?_ _ _).trans h.entry
    rintro htag
    exact h.unserved true (htag ▸ hserving)

/-- Thread `i` takes its own entry out. -/
theorem AaudioCallOk.removed (h : AaudioCallOk j b c) (hij : j ≠ i) {d : AaudioCall}
    (htable : ∀ t, b'.pendingEntries t =
      if t = d.tagn ∧ b.pendingEntries t = some i then none else b.pendingEntries t) :
    AaudioCallOk j { b with pendingEntries := b'.pendingEntries } c := by
  have hold : ∀ {t k}, b'.pendingEntries t = some k → b.pendingEntries t = some k := by
    intro t k ht
    rw [htable] at ht
    split at ht
    · cases ht
    · exact ht
  constructor
  · exact h.known
  · exact h.drawn
  · exact h.tagn
  · exact h.since
  · exact fun hj => h.once (hold hj)
  · exact fun htoken hj => h.token htoken (hold hj)
  · exact fun hlt k hk => h.alone hlt k (hold hk)
  · intro hlt
    refine (h.first hlt).imp_left fun h => ⟨h.unanswered, ?_, h.unserved⟩
    simp only
    rw [htable, if_neg]
    · exact h.entry
    · rintro ⟨-, hi⟩
      exact hij (Option.some.inj (h.entry.symm.trans hi))

/-! ## The tags of two threads -/

omit [DecidableEq ι] in
theorem AaudioOk.drawn_le (h : AaudioOk i b l) {call : Nat} (hl : l.drawn? = some call) :
    call ≤ b.drawn := by
  cases l with
  | prepared size call' tagn =>
    obtain rfl := Option.some.inj hl
    exact (h.prepared _ _ _ rfl).1.le
  | registered size c => exact Option.some.inj hl ▸ (h.call c rfl).drawn
  | waiting c | timedOut c | removing c => exact Option.some.inj hl ▸ (h.call c rfl).drawn
  | _ => cases hl

omit [DecidableEq ι] in
theorem AaudioThread.drawn?_of_call? (hl : l.call? = some c) : l.drawn? = some c.call := by
  cases l with
  | registered size c' => exact congrArg (fun o => o.map AaudioCall.call) hl
  | waiting c' | timedOut c' | removing c' => exact congrArg (fun o => o.map AaudioCall.call) hl
  | _ => cases hl

omit [DecidableEq ι] in
/-- Two calls in progress have drawn different tags. -/
theorem AaudioApart.calls (h : AaudioApart l m) {d : AaudioCall} (hl : l.call? = some c)
    (hm : m.call? = some d) : c.call ≠ d.call := by
  intro heq
  exact h c.call (AaudioThread.drawn?_of_call? hl) (heq ▸ AaudioThread.drawn?_of_call? hm)

omit [DecidableEq ι] in
theorem AaudioThread.Plain.drawn? (h : l.Plain) : l.drawn? = l.call?.map AaudioCall.call := by
  cases l with
  | prepared => exact h.elim
  | _ => rfl

/-- A step draws one tag at most, and it is a new one. -/
theorem AaudioEffect.drawn? (h : AaudioEffect i l l' b b') {call : Nat}
    (hl : l'.drawn? = some call) : l.drawn? = some call ∨ b.drawn < call := by
  cases h with
  | moved _ _ hplain hplain' _ hcall =>
    rw [hplain'.drawn?, hcall, ← hplain.drawn?] at hl
    exact .inl hl
  | locked _ hplain hplain' _ hcall =>
    rw [hplain'.drawn?, hcall, ← hplain.drawn?] at hl
    exact .inl hl
  | unlocked _ _ hplain hplain' _ _ hcall =>
    rw [hplain'.drawn?, hcall, ← hplain.drawn?] at hl
    exact .inl hl
  | drew hl' =>
    obtain rfl | rfl := hl'
    · cases hl
    · obtain rfl := Option.some.inj hl
      exact .inr (Nat.lt_succ_self _)
  | entered => exact .inl hl
  | took | removed | delivered | unmatched | completed | cleared => cases hl

omit [DecidableEq ι] in
/-- The assertions of any thread, under a step that leaves what they read alone. -/
theorem AaudioOk.kept (h : AaudioOk j b m) (hlock : b'.spinlock = some j ↔ b.spinlock = some j)
    (hpending : b'.pendingEntries = b.pendingEntries) (hdrawn : b'.drawn = b.drawn)
    (hserving : b'.serving = b.serving) (hhandled : b'.handled = b.handled)
    (hcall : ∀ c, AaudioCallOk j b c → AaudioCallOk j b' c) : AaudioOk j b' m where
  holds := h.holds.trans hlock.symm
  entry t ht := by
    rw [hserving]
    exact h.entry t (hpending ▸ ht)
  call c hc := hcall c (h.call c hc)
  prepared size call tagn hm := by
    rw [hdrawn, AaudioBce.copiedTo, hhandled]
    exact h.prepared size call tagn hm
  serving hm := hserving.trans (h.serving hm)
  completing t k hm := by
    rw [hpending]
    exact h.completing t k hm

/-- Thread `i` takes a token of its own. -/
theorem AaudioCallOk.took (h : AaudioCallOk j b c) (hij : j ≠ i) {n : Nat} :
    AaudioCallOk j { b with cmpl := Function.update b.cmpl i n } c where
  known := h.known
  drawn := h.drawn
  tagn := h.tagn
  since := h.since
  once := h.once
  token htoken := h.token (by simpa only [Function.update_of_ne hij] using htoken)
  alone := h.alone
  first hlt := (h.first hlt).imp_left fun h => ⟨h.unanswered, h.entry, h.unserved⟩

end Step

/-! ## Every step keeps the assertions -/

section Keeps

variable {s : Threads ι (AaudioBce ι) (AaudioThread ι)} {i : ι} {l₀ l : AaudioThread ι}
  {b : AaudioBce ι}

omit [DecidableEq ι] in
/-- The call an entry belongs to, as long as its waiter is not completed. -/
theorem AaudioAsserted.entry_call (h : AaudioAsserted s) {t : Nat} {k : ι}
    (hserving : s.shared.serving ≠ some (t, true)) (hentry : s.shared.pendingEntries t = some k) :
    ∃ d, (s.thread k).call? = some d ∧ AaudioCallOk k s.shared d ∧ d.tagn = t := by
  obtain hserved | ⟨d, hd, htagn⟩ := (h.thread k).entry t hentry
  · exact absurd hserved hserving
  · exact ⟨d, hd, (h.thread k).call d hd, htagn⟩

omit [DecidableEq ι] in
/-- The thread that holds the lock knows what is being served. -/
theorem AaudioAsserted.holder (h : AaudioAsserted s) (hl : s.thread i = l₀) (hholds : l₀.Holds) :
    s.shared.spinlock = some i ∧ s.shared.serving = l₀.serving? := by
  subst hl
  exact ⟨(h.thread i).holds.mp hholds, (h.thread i).serving hholds⟩

omit [DecidableEq ι] in
/-- A thread in no call of its own has no entry, but one that is being served. -/
theorem AaudioOk.no_entry {j : ι} {m : AaudioThread ι} (h : AaudioOk j b m)
    (hcall : m.call? = none) {t : Nat} (hserving : b.serving ≠ some (t, true)) :
    b.pendingEntries t ≠ some j := by
  intro ht
  obtain hserved | ⟨c, hc, -⟩ := h.entry t ht
  · exact hserving hserved
  · exact absurd (hcall.symm.trans hc) nofun

/-- What holds of the transport. -/
theorem AaudioAsserted.ok (h : AaudioAsserted s) (hl : s.thread i = l₀)
    (heff : AaudioEffect i l₀ l s.shared b) : b.Ok := by
  obtain ⟨htagNum, hunserved, honce, hdrawn⟩ := h.shared
  cases heff with
  | moved hsame hlock =>
    refine ⟨?_, ?_, hsame.copiedTo ▸ honce, ?_⟩
    · rw [hsame.tagNum, hsame.drawn, htagNum]
    · rw [hlock, hsame.serving]
      exact hunserved
    · rw [hsame.copiedTo, hsame.drawn]
      exact hdrawn
  | locked => exact ⟨htagNum, nofun, honce, hdrawn⟩
  | unlocked hsame _ hplain _ hholds =>
    refine ⟨?_, fun _ => ?_, hsame.copiedTo ▸ honce, ?_⟩
    · rw [hsame.tagNum, hsame.drawn, htagNum]
    · rw [hsame.serving, (h.holder hl hholds).2, hplain.serving?]
    · rw [hsame.copiedTo, hsame.drawn]
      exact hdrawn
  | drew =>
    refine ⟨?_, hunserved, honce, fun call hcall => (hdrawn call hcall).trans (Nat.le_succ _)⟩
    simp [aaudioSendCreateTag, htagNum]
  | entered => exact ⟨htagNum, hunserved, honce, hdrawn⟩
  | took => exact ⟨htagNum, hunserved, honce, hdrawn⟩
  | removed htable hb =>
    rw [hb]
    exact ⟨htagNum, hunserved, honce, hdrawn⟩
  | completed =>
    have hheld := (h.holder hl trivial).1
    exact ⟨htagNum, fun hfree => absurd (hheld.symm.trans hfree) nofun, honce, hdrawn⟩
  | cleared => exact ⟨htagNum, fun _ => rfl, honce, hdrawn⟩
  | unmatched =>
    refine ⟨htagNum, hunserved, ?_, ?_⟩
    · rw [AaudioBce.copiedTo_append rfl]
      simpa using honce
    · rw [AaudioBce.copiedTo_append rfl]
      simpa using hdrawn
  | @delivered tagn reply k _ hentry =>
    obtain ⟨hheld, hserving⟩ := h.holder hl trivial
    have hnone : s.shared.serving = none := hserving
    obtain ⟨d, -, hd, htagn⟩ := h.entry_call (by rw [hnone]; exact nofun) hentry
    -- the entry is still there, so no reply was copied to its call
    have hfresh : d.call ∉ s.shared.copiedTo :=
      hd.once (htagn ▸ hentry) fun done => by rw [hnone]; exact nofun
    refine ⟨htagNum, fun hfree => absurd (hheld.symm.trans hfree) nofun, ?_, ?_⟩
    · rw [AaudioBce.copiedTo_append rfl]
      refine List.Nodup.append honce (by simp) ?_
      simpa [hd.known] using hfresh
    · rw [AaudioBce.copiedTo_append rfl]
      intro call hcall
      obtain hcall | hcall := List.mem_append.mp hcall
      · exact hdrawn call hcall
      · obtain rfl : call = s.shared.call k := by simpa using hcall
        exact hd.known.symm ▸ hd.drawn

/-- What holds of the thread that took the step. -/
theorem AaudioAsserted.self (h : AaudioAsserted s) (hl : s.thread i = l₀)
    (heff : AaudioEffect i l₀ l s.shared b) : AaudioOk i b l := by
  have hi := h.thread i
  rw [hl] at hi
  have hheld : l₀.Holds → s.shared.spinlock = some i ∧ s.shared.serving = l₀.serving? :=
    h.holder hl
  cases heff with
  | moved hsame hlock hplain hplain' hholds hcall =>
    refine hi.same hsame hplain' ?_ (fun hl' => ?_) hcall
    · rw [hlock, hholds]
      exact hi.holds
    · rw [(hheld (hholds.mp hl')).2, hplain.serving?]
  | locked hfree hplain hplain' hholds hcall =>
    refine hi.same ⟨rfl, rfl, rfl, rfl, rfl, rfl, rfl⟩ hplain' ?_ (fun _ => ?_) hcall
    · exact ⟨fun _ => rfl, fun _ => hholds⟩
    · exact h.shared.unserved hfree
  | unlocked hsame hlock hplain hplain' hholds hfree hcall =>
    refine hi.same hsame hplain' ?_ (fun hl' => absurd hl' hfree) hcall
    rw [hlock]
    exact ⟨fun hl' => absurd hl' hfree, nofun⟩
  | drew hl' =>
    obtain ⟨hlock, hserving⟩ := hheld trivial
    have hout : ∀ t, s.shared.pendingEntries t ≠ some i := fun t =>
      hi.no_entry rfl (by rw [hserving]; exact nofun)
    -- no reply was copied to a call that draws its tag only now
    have hnew : s.shared.drawn + 1 ∉ s.shared.copiedTo := fun hmem =>
      absurd (h.shared.drawn _ hmem) (Nat.not_succ_le_self _)
    obtain rfl | rfl := hl'
    · exact ⟨⟨fun _ => hlock, fun _ => trivial⟩, fun t ht => absurd ht (hout t), nofun, nofun,
        fun _ => hserving, nofun⟩
    · refine ⟨⟨fun _ => hlock, fun _ => trivial⟩, fun t ht => absurd ht (hout t), nofun, ?_,
        fun _ => hserving, nofun⟩
      rintro size call tagn heq
      cases heq
      refine ⟨rfl, ?_, hnew⟩
      simp [aaudioSendCreateTag, h.shared.tagNum]
  | @entered size call tagn =>
    obtain ⟨hlock, hserving⟩ := hheld trivial
    have hnone : s.shared.serving = none := hserving
    obtain ⟨hcall, htagn, hnew⟩ := hi.prepared _ _ _ rfl
    refine ⟨⟨fun _ => hlock, fun _ => trivial⟩, fun t ht => ?_, fun c hc => ?_, nofun,
      fun _ => hserving, nofun⟩
    · right
      refine ⟨_, rfl, ?_⟩
      by_contra htt
      simp only [Function.update_of_ne (Ne.symm htt)] at ht
      exact hi.no_entry rfl (by rw [hnone]; exact nofun) ht
    · obtain rfl := Option.some.inj hc
      refine ⟨Function.update_self .., hcall.le, htagn, le_rfl, fun _ _ => hnew, ?_, ?_, ?_⟩
      · intro htoken
        simp at htoken
      · intro _ k hk
        simpa using hk.symm
      · intro _
        refine .inl ⟨?_, Function.update_self .., fun done => ?_⟩
        · simp [AaudioBce.repliesTo]
        · simp only [hnone]
          exact nofun
  | @took c _ htoken =>
    refine ⟨⟨False.elim, fun hlock => hi.holds.mpr hlock⟩, fun t ht => ?_, nofun, nofun, False.elim,
      nofun⟩
    -- its own entry is gone once its token is there
    obtain hserved | ⟨c', hc', rfl⟩ := hi.entry t ht
    · exact .inl hserved
    · exact .inl ((hi.call c' hc').token htoken ht)
  | @removed c _ _ htable hb =>
    obtain ⟨hlock, hserving⟩ := hheld trivial
    have hnone : s.shared.serving = none := hserving
    rw [hb]
    refine ⟨⟨fun _ => hlock, fun _ => trivial⟩, fun t ht => ?_, nofun, nofun, fun _ => hserving,
      nofun⟩
    simp only at ht
    rw [htable] at ht
    split at ht
    · cases ht
    · next hout =>
      obtain hserved | ⟨c', hc', rfl⟩ := hi.entry t ht
      · rw [hnone] at hserved
        cases hserved
      · obtain rfl := Option.some.inj hc'
        exact absurd ⟨rfl, ht⟩ hout
  | delivered hentry =>
    obtain ⟨hlock, hserving⟩ := hheld trivial
    have hnone : s.shared.serving = none := hserving
    refine ⟨⟨fun _ => hlock, fun _ => trivial⟩, fun t ht => ?_, nofun, nofun, fun _ => rfl, ?_⟩
    · exact absurd ht (hi.no_entry rfl (by rw [hnone]; exact nofun))
    · rintro t k heq
      cases heq
      exact hentry
  | unmatched =>
    obtain ⟨hlock, hserving⟩ := hheld trivial
    exact ⟨⟨fun _ => hlock, fun _ => trivial⟩, hi.entry, nofun, nofun, fun _ => hserving, nofun⟩
  | @completed tagn k =>
    obtain ⟨hlock, hserving⟩ := hheld trivial
    have hserved : s.shared.serving = some (tagn, false) := hserving
    refine ⟨⟨fun _ => hlock, fun _ => trivial⟩, fun t ht => ?_, nofun, nofun, fun _ => rfl, nofun⟩
    exact absurd ht (hi.no_entry rfl (by rw [hserved]; exact nofun))
  | @cleared tagn =>
    obtain ⟨hlock, hserving⟩ := hheld trivial
    have hserved : s.shared.serving = some (tagn, true) := hserving
    refine ⟨⟨fun _ => hlock, fun _ => trivial⟩, fun t ht => ?_, nofun, nofun, fun _ => rfl, nofun⟩
    by_cases htt : t = tagn
    · subst htt
      simp at ht
    · simp only [Function.update_of_ne htt] at ht
      refine absurd ht (hi.no_entry rfl fun hdone => htt ?_)
      rw [hserved] at hdone
      cases hdone
      rfl

/-- What holds of the other threads. -/
theorem AaudioAsserted.other (h : AaudioAsserted s) (hl : s.thread i = l₀)
    (heff : AaudioEffect i l₀ l s.shared b) {j : ι} (hij : j ≠ i) :
    AaudioOk j b (s.thread j) := by
  have hj := h.thread j
  have hheld : l₀.Holds → s.shared.spinlock = some i ∧ s.shared.serving = l₀.serving? :=
    h.holder hl
  have hother : s.shared.spinlock = some i → s.shared.spinlock ≠ some j := fun hlock heq =>
    hij (Option.some.inj (heq.symm.trans hlock))
  cases heff with
  | moved hsame hlock =>
    exact hj.kept (by rw [hlock]) hsame.pendingEntries hsame.drawn hsame.serving hsame.handled
      fun c hc => hc.same hsame
  | locked hfree =>
    exact hj.kept (owner_taken hij hfree) rfl rfl rfl rfl fun c hc =>
      hc.same ⟨rfl, rfl, rfl, rfl, rfl, rfl, rfl⟩
  | unlocked hsame hlock hplain hplain' hholds hfree hcall =>
    obtain ⟨hheld, -⟩ := hheld hholds
    refine hj.other hheld hij ?_ (fun t ht => ?_) fun c _ hc => hc.same hsame
    · rw [hlock]
      exact nofun
    · rw [hsame.pendingEntries] at ht
      exact ⟨ht, fun hserved => hsame.serving.trans hserved⟩
  | drew =>
    obtain ⟨hheld, -⟩ := hheld trivial
    exact hj.other hheld hij (hother hheld)
      (fun t ht => ⟨ht, id⟩) fun c _ hc => hc.drew
  | @entered size call tagn =>
    have hlock := (hheld trivial).1
    have hi := h.thread i
    rw [hl] at hi
    obtain ⟨hcall, htagn, -⟩ := hi.prepared _ _ _ rfl
    -- the call that is entered has drawn the last tag, and no other thread has
    have hne : ∀ c, (s.thread j).call? = some c → c.call ≠ s.shared.drawn := by
      intro c hc heq
      refine h.pair i j hij.symm s.shared.drawn ?_ ?_
      · rw [hl, ← hcall]
        rfl
      · rw [← heq]
        exact AaudioThread.drawn?_of_call? hc
    refine hj.other hlock hij (hother hlock)
      (fun t ht => ⟨?_, id⟩) fun c hc hok => ?_
    · by_cases htt : t = tagn
      · subst htt
        simp only [Function.update_self] at ht
        exact absurd (Option.some.inj ht).symm hij
      · simpa only [Function.update_of_ne htt] using ht
    · rw [hcall] at htagn ⊢
      exact hok.entered hij htagn (hne c hc)
  | took => exact hj.kept Iff.rfl rfl rfl rfl rfl fun c hc => hc.took hij
  | @removed c _ _ htable hb =>
    have hlock := (hheld trivial).1
    rw [hb]
    refine hj.other hlock hij (hother hlock)
      (fun t ht => ⟨?_, id⟩) fun c hc hok => hok.removed hij htable
    simp only at ht
    rw [htable] at ht
    split at ht
    · cases ht
    · exact ht
  | @delivered tagn reply k _ hentry =>
    obtain ⟨hlock, hserving⟩ := hheld trivial
    have hnone : s.shared.serving = none := hserving
    obtain ⟨d, hd, hdok, htagn⟩ := h.entry_call (by rw [hnone]; exact nofun) hentry
    refine hj.other hlock hij (hother hlock)
      (fun t ht => ⟨ht, fun hserved => ?_⟩) fun c hc hok => ?_
    · rw [hnone] at hserved
      cases hserved
    · refine hok.delivered hnone hentry hdok ?_ ?_ htagn
      · rintro rfl
        exact Option.some.inj (hd.symm.trans hc)
      · intro hkj
        exact (h.pair k j hkj).calls hd hc
  | unmatched hentry =>
    have hlock := (hheld trivial).1
    exact hj.other hlock hij (hother hlock)
      (fun t ht => ⟨ht, id⟩) fun c _ hok => hok.unmatched hentry
  | @completed tagn k =>
    obtain ⟨hlock, hserving⟩ := hheld trivial
    have hserved : s.shared.serving = some (tagn, false) := hserving
    have hi := h.thread i
    rw [hl] at hi
    have hentry := hi.completing _ _ rfl
    obtain ⟨d, hd, -, htagn⟩ := h.entry_call (by rw [hserved]; exact nofun) hentry
    refine hj.other hlock hij (hother hlock)
      (fun t ht => ⟨ht, fun hdone => ?_⟩) fun c hc hok => hok.completed hserved ?_
    · rw [hserved] at hdone
      cases hdone
    · rintro rfl
      rw [hd] at hc
      exact Option.some.inj hc ▸ htagn
  | @cleared tagn =>
    obtain ⟨hlock, hserving⟩ := hheld trivial
    have hserved : s.shared.serving = some (tagn, true) := hserving
    refine hj.other hlock hij (hother hlock)
      (fun t ht => ?_) fun c _ hok => hok.cleared hserved
    by_cases htt : t = tagn
    · subst htt
      simp at ht
    · simp only [Function.update_of_ne htt] at ht
      refine ⟨ht, fun hdone => ?_⟩
      rw [hserved] at hdone
      cases hdone
      exact absurd rfl htt

/-- The tags of two threads stay apart. -/
theorem AaudioAsserted.apart (h : AaudioAsserted s) (hl : s.thread i = l₀)
    (heff : AaudioEffect i l₀ l s.shared b) {j : ι} (hij : j ≠ i) :
    AaudioApart l (s.thread j) ∧ AaudioApart (s.thread j) l := by
  have happart : AaudioApart l (s.thread j) := by
    intro call hcall hj
    obtain hold | hnew := heff.drawn? hcall
    · exact h.pair i j hij.symm call (hl ▸ hold) hj
    · exact absurd ((h.thread j).drawn_le hj) (Nat.not_le_of_lt hnew)
  exact ⟨happart, fun call hj hcall => happart call hcall hj⟩

/-- **Every run keeps the assertions.** -/
theorem aaudio_asserted {G : ThreadAction ι AaudioChoice Empty → _ → Prop}
    (h : (aaudioProgram ι).system.Reachable G s) : AaudioAsserted s := by
  refine ThreadProgram.invariant ?_ ?_ ?_ h
  · rintro b ⟨dmaAddr, sq, rfl⟩
    refine ⟨⟨rfl, fun _ => rfl, List.nodup_nil, nofun⟩, fun i => ?_, fun _ _ => nofun⟩
    exact ⟨⟨False.elim, nofun⟩, nofun, nofun, nofun, False.elim, nofun⟩
  · intro s i c l b _ (hI : AaudioAsserted s) _ hstep
    have heff := aaudioRun_spec hstep
    exact ⟨hI.ok rfl heff, hI.self rfl heff, fun j hij =>
      ⟨hI.other rfl heff hij, hI.apart rfl heff hij⟩⟩
  · intro _ e
    exact e.elim

/-- What a step of thread `h` does to the buffers of the callers: nothing, or the
thread passes its own, or the reply it handles is copied to the buffer of a call in
progress that has the tag of the reply. -/
inductive BufferStep (h : ι) (s s' : Threads ι (AaudioBce ι) (AaudioThread ι)) : Prop where
  | kept : s'.shared.msg = s.shared.msg → s'.shared.copiedTo = s.shared.copiedTo →
      BufferStep h s s'
  | passed {reply : AaudioMsg} {size : Nat} : s'.thread h = .reserving (.sync reply) size →
      s'.shared.msg = Function.update s.shared.msg h reply →
      s'.shared.copiedTo = s.shared.copiedTo → BufferStep h s s'
  | copied {reply : AaudioMsg} {i : ι} {c : AaudioCall} :
      s.thread h = .delivering c.tagn reply → (s.thread i).call? = some c →
      s'.shared.msg = Function.update s.shared.msg i (aaudioCopy reply (s.shared.msg i)) →
      (aaudioCopy reply (s.shared.msg i)).size ≤ (s.shared.msg i).size →
      s'.shared.copiedTo = s.shared.copiedTo ++ [c.call] → BufferStep h s s'

theorem AaudioAsserted.bufferStep (hs : AaudioAsserted s) {h : ι} (hl : s.thread h = l₀)
    (heff : AaudioEffect h l₀ l s.shared b) :
    BufferStep h s { shared := b, thread := Function.update s.thread h l } := by
  cases heff with
  | moved hsame _ _ _ _ _ hmsg =>
    obtain hmsg | ⟨reply, size, rfl, hmsg⟩ := hmsg
    · exact .kept hmsg hsame.copiedTo
    · exact .passed (Function.update_self ..) hmsg hsame.copiedTo
  | unlocked hsame _ _ _ _ _ _ hmsg => exact .kept hmsg hsame.copiedTo
  | locked | drew | entered | took | completed | cleared => exact .kept rfl rfl
  | removed _ hb =>
    rw [hb]
    exact .kept rfl rfl
  | unmatched =>
    refine .kept rfl ?_
    rw [AaudioBce.copiedTo_append rfl]
    exact List.append_nil _
  | @delivered tagn reply i _ hentry =>
    have hnone : s.shared.serving = none := (hs.holder hl trivial).2
    obtain ⟨c, hc, hok, rfl⟩ := hs.entry_call (by rw [hnone]; exact nofun) hentry
    refine .copied hl hc rfl (aaudioCopy_size_le _ _) ?_
    rw [AaudioBce.copiedTo_append rfl, ← hok.known]
    rfl

/-- **Replies go to the calls that wait for them.** In every state that any number
of threads reach, sending commands and handling replies:

- whenever the spinlock is free, every entry in the table is that of a call that
  has not returned, under its tag;
- every step copies a reply only into the buffer of such a call with the tag of
  the reply, no more than the buffer's current size, and at most once per call;
- while fewer than 1000 tags were drawn since its own, no other call's entry is
  under the tag of a call, and the first reply with that tag goes to the call. -/
theorem aaudio_replies_to_their_calls
    (hreach : (aaudioProgram ι).system.Reachable (fun _ _ => True) s) :
    (s.shared.spinlock = none → ∀ t i, s.shared.pendingEntries t = some i →
      ∃ c, (s.thread i).call? = some c ∧ c.tagn = t) ∧
    (∀ h choice s', (aaudioProgram ι).step (.run h choice) s = some s' → BufferStep h s s') ∧
    s.shared.copiedTo.Nodup ∧
    ∀ i c, (s.thread i).call? = some c →
      s.shared.drawn < c.call + AAUDIO_BCE_QUEUE_TAG_COUNT →
      (∀ j, s.shared.pendingEntries c.tagn = some j → j = i) ∧
      ∀ r, (s.shared.repliesTo c).head? = some r → r.call = some c.call := by
  have hs : AaudioAsserted s := aaudio_asserted hreach
  refine ⟨fun hfree t i hentry => ?_, fun h choice s' hstep => ?_, hs.shared.once,
    fun i c hc hlt => ⟨((hs.thread i).call c hc).alone hlt, fun r hr => ?_⟩⟩
  · have hnone := hs.shared.unserved hfree
    obtain ⟨c, hc, -, htagn⟩ := hs.entry_call (by rw [hnone]; exact nofun) hentry
    exact ⟨c, hc, htagn⟩
  · obtain ⟨⟨l, b⟩, hrun, rfl⟩ := Option.map_eq_some_iff.mp hstep
    exact hs.bufferStep rfl (aaudioRun_spec hrun)
  · obtain h | ⟨r₀, rest, hreplies, hr₀⟩ := ((hs.thread i).call c hc).first hlt
    · rw [h.unanswered] at hr
      cases hr
    · rw [hreplies] at hr
      exact Option.some.inj hr ▸ hr₀

end Keeps

/-! ## A run -/

def replyMsg : AaudioMsg := ⟨6, aaudioTag 1 ++ [2, 7]⟩

/-- Thread one sends a command and waits, and thread two handles its reply. -/
def replyRun : List (ThreadAction TwoThreads AaudioChoice Empty) :=
  [.run .one (.send (.sync ⟨8, List.replicate 8 0⟩) 12), .run .one (.reserved 0), .run .one .next,
    .run .one .next, .run .one .next, .run .one .next, .run .two (.handleReply replyMsg),
    .run .two .next, .run .two .next, .run .two .next, .run .two .next, .run .two .next]

def replyState : Threads TwoThreads (AaudioBce TwoThreads) (AaudioThread TwoThreads) :=
  (aaudioProgram TwoThreads).system.after (fun _ _ => True) replyRun
    { shared := aaudioBceInit TwoThreads 0x8000 (bceAllocSq 4 21), thread := fun _ => .idle }

/-- The reply is in the buffer of thread one, and its call is the one that got it. -/
theorem aaudio_replies_to_their_calls_of_a_reply :
    (replyState.shared.msg .one).data = aaudioTag 1 ++ [2, 7, 0, 0] ∧
      ∀ r, (replyState.shared.repliesTo ⟨1, 1, 0⟩).head? = some r → r.call = some 1 := by
  have hreach : (aaudioProgram TwoThreads).system.Reachable (fun _ _ => True) replyState :=
    .after (.of_init ⟨⟨0x8000, bceAllocSq 4 21, rfl⟩, fun _ => rfl⟩) (by decide +kernel)
  have hcall : (replyState.thread .one).call? = some ⟨1, 1, 0⟩ := by decide +kernel
  exact ⟨by decide +kernel,
    ((aaudio_replies_to_their_calls hreach).2.2.2 .one ⟨1, 1, 0⟩ hcall (by decide +kernel)).2⟩

end BceDriver
