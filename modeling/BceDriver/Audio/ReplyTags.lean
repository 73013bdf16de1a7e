import BceDriver.Audio.Transport

/-!
# Tags of replies (`audio/protocol_bce.c`)

A tag is printed with `S%03d` and parsed with `kstrtoint`, which accepts more texts
than are ever printed: a sign, fewer digits than three, a newline behind them. Nothing
checks the number that comes out before `pending_entries` is indexed with it.

`KstrtointText` is the language of `kstrtoint`; the tags that the driver prints are
the ones in it with three digits.
-/

namespace BceDriver

/-! ## The language of `kstrtoint` -/

def IsDigit (d : UInt8) : Prop := 0x30 ≤ d ∧ d ≤ 0x39

instance IsDigit.decidable (d : UInt8) : Decidable (IsDigit d) :=
  inferInstanceAs (Decidable (_ ∧ _))

/-- Digits, and a newline that may follow. -/
def DigitsText (s : List UInt8) : Prop :=
  ∃ ds nl, s = ds ++ nl ∧ (∀ d ∈ ds, IsDigit d) ∧ nl ∈ [[], [0x0a]]

/-- A sign that may be left out, digits, and a newline that may follow. -/
def KstrtointText (s : List UInt8) : Prop :=
  ∃ sign ds nl, s = sign ++ ds ++ nl ∧ sign ∈ [[], [0x2b], [0x2d]] ∧ ds ≠ [] ∧
    (∀ d ∈ ds, IsDigit d) ∧ nl ∈ [[], [0x0a]]

theorem DigitsText.cons_iff {d : UInt8} {s : List UInt8} (h : IsDigit d) :
    DigitsText (d :: s) ↔ DigitsText s := by
  constructor
  · rintro ⟨ds, nl, heq, hds, hnl⟩
    cases ds with
    | nil =>
      have hmem : d :: s ∈ [[], [0x0a]] := by
        rw [heq]
        exact hnl
      have hnewline : d = 0x0a ∧ s = [] := by simpa using hmem
      rw [hnewline.1] at h
      exact absurd h (by decide)
    | cons e ds =>
      obtain ⟨rfl, rfl⟩ := List.cons.inj heq
      exact ⟨ds, nl, rfl, fun x hx => hds x (List.mem_cons_of_mem _ hx), hnl⟩
  · rintro ⟨ds, nl, rfl, hds, hnl⟩
    exact ⟨d :: ds, nl, rfl, List.forall_mem_cons.mpr ⟨h, hds⟩, hnl⟩

theorem kstrtointDigits_isSome_iff (n : Nat) (s : List UInt8) :
    (kstrtointDigits n s).isSome ↔ DigitsText s := by
  fun_induction kstrtointDigits n s with
  | case1 n => exact iff_of_true rfl ⟨[], [], rfl, by simp, by simp⟩
  | case2 n => exact iff_of_true rfl ⟨[], [0x0a], rfl, by simp, by simp⟩
  | case3 n d ds hnl hd ih => rw [ih, DigitsText.cons_iff hd]
  | case4 n d ds hnl hd =>
    refine iff_of_false (by simp) ?_
    rintro ⟨es, nl, heq, hes, hmem⟩
    cases es with
    | nil =>
      simp only [List.mem_cons, List.not_mem_nil, or_false] at hmem
      rcases hmem with rfl | rfl
      · cases heq
      · obtain ⟨rfl, rfl⟩ := List.cons.inj heq
        exact hnl rfl rfl
    | cons e es =>
      obtain ⟨rfl, rfl⟩ := List.cons.inj heq
      exact hd (hes d (List.mem_cons_self ..))

/-- Digits of which there is one at least. -/
theorem exists_digit_iff (s : List UInt8) :
    (∃ ds nl, s = ds ++ nl ∧ ds ≠ [] ∧ (∀ d ∈ ds, IsDigit d) ∧ nl ∈ [[], [0x0a]]) ↔
      DigitsText s ∧ s ≠ [] ∧ s ≠ [0x0a] := by
  constructor
  · rintro ⟨ds, nl, rfl, hne, hds, hnl⟩
    refine ⟨⟨ds, nl, rfl, hds, hnl⟩, by simp [hne], ?_⟩
    intro heq
    obtain ⟨d, ds, rfl⟩ := List.exists_cons_of_ne_nil hne
    obtain ⟨rfl, -⟩ := List.cons.inj heq
    exact absurd (hds _ (List.mem_cons_self ..)) (by decide)
  · rintro ⟨⟨ds, nl, rfl, hds, hnl⟩, hne, hnewline⟩
    refine ⟨ds, nl, rfl, ?_, hds, hnl⟩
    rintro rfl
    simp only [List.nil_append, List.mem_cons, List.not_mem_nil, or_false] at *
    exact hnl.elim hne hnewline

theorem kstrtointText_iff (s : List UInt8) :
    KstrtointText s ↔ ∃ v, (s = v ∨ s = 0x2b :: v ∨ s = 0x2d :: v) ∧
      DigitsText v ∧ v ≠ [] ∧ v ≠ [0x0a] := by
  constructor
  · rintro ⟨sign, ds, nl, rfl, hsign, hne, hds, hnl⟩
    refine ⟨ds ++ nl, ?_, (exists_digit_iff _).mp ⟨ds, nl, rfl, hne, hds, hnl⟩⟩
    simp only [List.mem_cons, List.not_mem_nil, or_false] at hsign
    rcases hsign with rfl | rfl | rfl
    · exact .inl rfl
    · exact .inr (.inl rfl)
    · exact .inr (.inr rfl)
  · rintro ⟨v, hs, hv⟩
    obtain ⟨ds, nl, rfl, hne, hds, hnl⟩ := (exists_digit_iff v).mpr hv
    rcases hs with rfl | rfl | rfl
    · exact ⟨[], ds, nl, by simp, by simp, hne, hds, hnl⟩
    · exact ⟨[0x2b], ds, nl, by simp, by simp, hne, hds, hnl⟩
    · exact ⟨[0x2d], ds, nl, by simp, by simp, hne, hds, hnl⟩

theorem not_digitsText_sign {d : UInt8} (hd : d = 0x2b ∨ d = 0x2d) (s : List UInt8) :
    ¬DigitsText (d :: s) := by
  rintro ⟨ds, nl, heq, hds, hnl⟩
  cases ds with
  | nil =>
    have hmem : d :: s ∈ [[], [0x0a]] := by
      rw [heq]
      exact hnl
    rcases hd with rfl | rfl <;> simp at hmem
  | cons e ds =>
    obtain ⟨rfl, -⟩ := List.cons.inj heq
    have := hds d (List.mem_cons_self ..)
    rcases hd with rfl | rfl <;> exact absurd this (by decide)

/-- Behind a sign there are digits. -/
theorem kstrtointText_sign_iff {d : UInt8} (hd : d = 0x2b ∨ d = 0x2d) (s : List UInt8) :
    KstrtointText (d :: s) ↔ DigitsText s ∧ s ≠ [] ∧ s ≠ [0x0a] := by
  rw [kstrtointText_iff]
  constructor
  · rintro ⟨v, hs, hv⟩
    rcases hs with rfl | hs | hs
    · exact absurd hv.1 (not_digitsText_sign hd s)
    · obtain ⟨-, rfl⟩ := List.cons.inj hs
      exact hv
    · obtain ⟨-, rfl⟩ := List.cons.inj hs
      exact hv
  · intro hs
    refine ⟨s, ?_, hs⟩
    rcases hd with rfl | rfl
    · exact .inr (.inl rfl)
    · exact .inr (.inr rfl)

theorem kstrtointText_digits_iff {s : List UInt8} (hplus : ∀ v, s ≠ 0x2b :: v)
    (hminus : ∀ v, s ≠ 0x2d :: v) :
    KstrtointText s ↔ DigitsText s ∧ s ≠ [] ∧ s ≠ [0x0a] := by
  rw [kstrtointText_iff]
  constructor
  · rintro ⟨v, rfl | hs | hs, hv⟩
    · exact hv
    · exact absurd hs (hplus v)
    · exact absurd hs (hminus v)
  · exact fun hs => ⟨s, .inl rfl, hs⟩

/-- `kstrtoint` accepts what is in its language, and nothing else. -/
theorem kstrtoint_isSome_iff (s : List UInt8) :
    (kstrtoint s).isSome ↔ KstrtointText (s.takeWhile (· ≠ 0)) := by
  rw [kstrtoint]
  generalize s.takeWhile (· ≠ 0) = u
  split
  case h_7 ds hnil hnewline =>
    rw [kstrtointText_sign_iff (.inr rfl), ← kstrtointDigits_isSome_iff 0,
      and_iff_left ⟨hnil, hnewline⟩]
    cases kstrtointDigits 0 ds <;> simp
  case h_8 ds hnil hnewline =>
    rw [kstrtointText_sign_iff (.inl rfl), ← kstrtointDigits_isSome_iff 0,
      and_iff_left ⟨hnil, hnewline⟩]
    cases kstrtointDigits 0 ds <;> simp
  case h_9 hnil hnewline _ _ _ _ hminus hplus =>
    rw [kstrtointText_digits_iff hplus hminus, ← kstrtointDigits_isSome_iff 0,
      and_iff_left ⟨hnil, hnewline⟩]
    cases kstrtointDigits 0 u <;> simp
  case h_1 | h_2 => simp [kstrtointText_digits_iff]
  all_goals simp [kstrtointText_sign_iff]

/-! ## The tags that are accepted -/

/-- The header of a message starts with the tag. -/
def AaudioMsg.ofTag (tag : Vector UInt8 4) (size : Nat) (rest : List UInt8) : AaudioMsg :=
  ⟨size, tag.toList ++ rest⟩

/-- The tag is rejected, or the index into `pending_entries` is inside of it and the tag
is the one that is written for the index. -/
def AaudioMsg.TagChecked (reply : AaudioMsg) : Prop :=
  ∀ n, aaudioReplyTag reply = some n →
    0 ≤ n ∧ n < AAUDIO_BCE_QUEUE_TAG_COUNT ∧ reply.data.take 4 = aaudioTag n.toNat

/-- The tag `aaudio_send_create_tag` writes is parsed back to the number it stored. -/
def AaudioBce.CreatesParsed {ι : Type} (b : AaudioBce ι) : Prop :=
  ∀ size rest, aaudioReplyTag ⟨size, (aaudioSendCreateTag b).tags b.dataTail ++ rest⟩ =
    some ((aaudioSendCreateTag b).tagNum : Int)

/-- Of the texts behind an `S` that `kstrtoint` accepts, the tag has one of three digits. -/
def TagCanonical (tag : Vector UInt8 4) : Prop :=
  tag[0] = 0x53 → KstrtointText ([tag[1], tag[2], tag[3]].takeWhile (· ≠ 0)) →
    IsDigit tag[1] ∧ IsDigit tag[2] ∧ IsDigit tag[3]

theorem aaudioSendCreateTag_parsed {ι : Type} (b : AaudioBce ι) : b.CreatesParsed := by
  intro size rest
  have htag : (aaudioSendCreateTag b).tags b.dataTail = aaudioTag (aaudioSendCreateTag b).tagNum :=
    Function.update_self ..
  rw [htag]
  exact aaudioReplyTag_tag (Nat.mod_lt _ (by decide)) size rest

theorem IsDigit.toNat {d : UInt8} (h : IsDigit d) : 0x30 ≤ d.toNat ∧ d.toNat ≤ 0x39 :=
  ⟨UInt8.le_iff_toNat_le.mp h.1, UInt8.le_iff_toNat_le.mp h.2⟩

theorem ofNat_eq_of_toNat {d : UInt8} {n : Nat} (h : n = d.toNat) : UInt8.ofNat n = d := by
  rw [h, UInt8.ofNat_toNat]

theorem isDigit_ofNat {n : Nat} (h : n < 10) : IsDigit (.ofNat (0x30 + n)) := by
  have hall : ∀ m < 10, IsDigit (.ofNat (0x30 + m)) := by decide
  exact hall n h

/-- Three digits are what is printed for their number. -/
theorem exists_aaudioTag {x y z : UInt8} (hx : IsDigit x) (hy : IsDigit y) (hz : IsDigit z) :
    ∃ tagn < AAUDIO_BCE_QUEUE_TAG_COUNT, aaudioTag tagn = [0x53, x, y, z] := by
  have hx := hx.toNat
  have hy := hy.toNat
  have hz := hz.toNat
  refine ⟨100 * (x.toNat - 0x30) + 10 * (y.toNat - 0x30) + (z.toNat - 0x30), ?_, ?_⟩
  · rw [AAUDIO_BCE_QUEUE_TAG_COUNT]
    omega
  · rw [aaudioTag, ofNat_eq_of_toNat (d := x) (by omega), ofNat_eq_of_toNat (d := y) (by omega),
      ofNat_eq_of_toNat (d := z) (by omega)]

theorem toList_tag (tag : Vector UInt8 4) : tag.toList = [tag[0], tag[1], tag[2], tag[3]] := by
  obtain ⟨⟨bytes⟩, hlen⟩ := tag
  match bytes, hlen with
  | [_, _, _, _], _ => rfl

theorem take_ofTag (tag : Vector UInt8 4) (size : Nat) (rest : List UInt8) :
    (AaudioMsg.ofTag tag size rest).data.take 4 = [tag[0], tag[1], tag[2], tag[3]] := by
  rw [AaudioMsg.ofTag, toList_tag]
  rfl

theorem aaudioReplyTag_ofTag (tag : Vector UInt8 4) (size : Nat) (rest : List UInt8) :
    aaudioReplyTag (.ofTag tag size rest) =
      if tag[0] = 0x53 then kstrtoint [tag[1], tag[2], tag[3]] else none := by
  rw [aaudioReplyTag, take_ofTag]
  split
  · next heq =>
    obtain ⟨htag, rfl⟩ := List.cons.inj heq
    rw [if_pos htag]
  · next hne =>
    rw [if_neg]
    intro htag
    exact hne _ (by rw [htag])

theorem tagCanonical_of_checked {tag : Vector UInt8 4} {size : Nat} {rest : List UInt8}
    (h : (AaudioMsg.ofTag tag size rest).TagChecked) : TagCanonical tag := by
  intro htag htext
  obtain ⟨n, hn⟩ := Option.isSome_iff_exists.mp ((kstrtoint_isSome_iff _).mpr htext)
  have hreply : aaudioReplyTag (.ofTag tag size rest) = some n := by
    rw [aaudioReplyTag_ofTag, if_pos htag, hn]
  obtain ⟨hpos, hlt, heq⟩ := h n hreply
  rw [take_ofTag, aaudioTag] at heq
  simp only [List.cons.injEq, and_true] at heq
  rw [AAUDIO_BCE_QUEUE_TAG_COUNT] at hlt
  obtain ⟨-, hx, hy, hz⟩ := heq
  rw [hx, hy, hz]
  exact ⟨isDigit_ofNat (by omega), isDigit_ofNat (by omega), isDigit_ofNat (by omega)⟩

theorem checked_of_tagCanonical {tag : Vector UInt8 4} (h : TagCanonical tag) (size : Nat)
    (rest : List UInt8) : (AaudioMsg.ofTag tag size rest).TagChecked := by
  intro n hn
  rw [take_ofTag]
  have hparse := hn
  rw [aaudioReplyTag_ofTag] at hparse
  split at hparse
  · next htag =>
    have htext : KstrtointText ([tag[1], tag[2], tag[3]].takeWhile (· ≠ 0)) :=
      (kstrtoint_isSome_iff _).mp (Option.isSome_iff_exists.mpr ⟨n, hparse⟩)
    obtain ⟨hx, hy, hz⟩ := h htag htext
    obtain ⟨tagn, hlt, heq⟩ := exists_aaudioTag hx hy hz
    have hown : AaudioMsg.ofTag tag size rest = ⟨size, aaudioTag tagn ++ rest⟩ := by
      rw [AaudioMsg.ofTag, toList_tag, heq, htag]
    rw [hown, aaudioReplyTag_tag hlt] at hn
    obtain rfl := Option.some.inj hn
    exact ⟨by omega, by exact_mod_cast hlt, by rw [Int.toNat_natCast, heq, htag]⟩
  · cases hparse

/-- Whatever the state of the counter, and whatever the tag of a reply. -/
theorem replyTag_checked_iff {ι : Type} (b : AaudioBce ι) (tag : Vector UInt8 4) (size : Nat)
    (rest : List UInt8) :
    (AaudioMsg.ofTag tag size rest).TagChecked ∧ b.CreatesParsed ↔ TagCanonical tag :=
  ⟨fun h => tagCanonical_of_checked h.1,
    fun h => ⟨checked_of_tagCanonical h size rest, aaudioSendCreateTag_parsed b⟩⟩

/-- `S-01` is accepted, for an entry before the first. -/
theorem replyTag_not_checked :
    ¬∀ (tag : Vector UInt8 4) (size : Nat) (rest : List UInt8),
      (AaudioMsg.ofTag tag size rest).TagChecked := by
  intro h
  have hneg := h #v[0x53, 0x2d, 0x30, 0x31] 13 (.replicate 9 0) (-1) (by decide)
  exact absurd hneg.1 (by decide)

end BceDriver
