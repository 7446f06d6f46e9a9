import LogGate.Proofs.Text.Bytes
import Mathlib.Algebra.Group.Nat.Defs
import Mathlib.Tactic.MkIffOfInductiveProp

/-!
# What rows of bytes fall into

A row of bytes falls into characters and broken parts in exactly one way (`pieces_iff`). `Pieces`
says which: where the bytes of a character start, that character is the piece; and where none
starts, the piece is the longest part from which a character could still have come, or one byte if
there is no such part (`IsBroken`). The relation speaks of the bytes of characters only and not of
the states of a decoder.

A state within a character waits for the last bytes of certain code points. `Awaits` names them by
the digits to base 64 that are known, and `trail` are their last bytes. A byte that may come next is
one more digit (`awaits_step`), so what a state does with the bytes that come is shown by induction
on their number (`continues_piecesFrom`). Only the first byte of a character is looked up in a
table, and `starts_start` says what the table has to say: a state that a first byte leads to waits
for exactly the characters with that first byte.

It follows that bytes are decoded strictly if and only if they are the bytes of a text
(`decode?_eq_some_iff`), and that a text comes back from its bytes either way
(`decodeLossy_encode`).
-/

namespace LogGate.Utf8

open String (utf8EncodeChar)

/-! ## Characters and broken parts -/

/-- A part of a row of bytes that is no character and that none starts with, and what follows it. -/
structure IsBroken (part rest : List UInt8) : Prop where
  ne_nil : part ≠ []
  /-- No character starts here. -/
  no_char : ∀ c, ¬ utf8EncodeChar c <+: part ++ rest
  /-- The part is the beginning of a character, or one byte. -/
  begins : part.length = 1 ∨ ∃ c, part <+: utf8EncodeChar c
  /-- And it cannot be longer. -/
  longest : ∀ longer, longer <+: part ++ rest → part.length < longer.length →
    ∀ c, ¬ longer <+: utf8EncodeChar c

/-- A row of bytes falls into characters and, for `none`, broken parts. -/
inductive Pieces : List UInt8 → List (Option Char) → Prop where
  | nil : Pieces [] []
  | char (c : Char) {bytes : List UInt8} {ps : List (Option Char)} (h : Pieces bytes ps) :
    Pieces (utf8EncodeChar c ++ bytes) (some c :: ps)
  | broken {part bytes : List UInt8} {ps : List (Option Char)} (hp : IsBroken part bytes)
    (h : Pieces bytes ps) : Pieces (part ++ bytes) (none :: ps)

/-! ## The bytes of a character -/

/-- The last `k` bytes of a character of several bytes with a code point. -/
def trail : Nat → Nat → List UInt8
  | 0, _ => []
  | k + 1, v => UInt8.ofNat (v / 64 ^ k % 64 + 128) :: trail k v

/-- A code point is that of a character with a first byte and `k` bytes behind it. -/
def IsLed (first k v : Nat) : Prop :=
  (k = 1 ∧ 0x80 ≤ v ∧ v < 0x800 ∧ v / 64 + 0xC0 = first) ∨
  (k = 2 ∧ 0x800 ≤ v ∧ v < 0x10000 ∧ ¬ (0xD800 ≤ v ∧ v < 0xE000) ∧ v / 4096 + 0xE0 = first) ∨
  (k = 3 ∧ 0x10000 ≤ v ∧ v < 0x110000 ∧ v / 262144 + 0xF0 = first)

/-- The code points that a state within a character waits for. -/
@[mk_iff] structure Awaits (needed bits : Nat) (low high : UInt8) (v : Nat) : Prop where
  /-- The first digits are known. -/
  bits : v / 64 ^ (needed + 1) = bits
  /-- The next digit lies between the bounds. -/
  low : low.toNat ≤ v / 64 ^ needed % 64 + 128
  high : v / 64 ^ needed % 64 + 128 ≤ high.toNat

section
variable {needed bits v k : Nat} {low high b : UInt8} {bytes part rest : List UInt8} {c : Char}
variable {ps qs : List (Option Char)}

@[simp] theorem length_trail (k v : Nat) : (trail k v).length = k := by
  induction k with
  | zero => rfl
  | succ k ih => rw [trail, List.length_cons, ih]

/-- A byte is the one of a number if it is that number. -/
theorem ofNat_eq_iff {n : Nat} (hn : n < 256) : UInt8.ofNat n = b ↔ n = b.toNat := by
  rw [← UInt8.toNat_inj, UInt8.toNat_ofNat_of_lt' hn]

/-- The code point of a character is what the character was made of. -/
theorem toNat_ofNat_of_isValidChar (h : v.isValidChar) : (Char.ofNat v).toNat = v := by
  rw [Char.ofNat, dif_pos h]
  rfl

/-- The bytes of a character, by the size of its code point. -/
theorem utf8EncodeChar_eq (c : Char) :
    utf8EncodeChar c =
      if c.toNat ≤ 127 then [UInt8.ofNat c.toNat]
      else if c.toNat ≤ 2047 then UInt8.ofNat (c.toNat / 64 % 32 + 192) :: trail 1 c.toNat
      else if c.toNat ≤ 65535 then UInt8.ofNat (c.toNat / 4096 % 16 + 224) :: trail 2 c.toNat
      else UInt8.ofNat (c.toNat / 262144 % 8 + 240) :: trail 3 c.toNat := by
  simp only [trail, Nat.pow_zero, Nat.div_one]
  rfl

/-- A character below U+0080 is one byte. -/
theorem utf8EncodeChar_of_lt (h : c.toNat < 0x80) : utf8EncodeChar c = [UInt8.ofNat c.toNat] := by
  rw [utf8EncodeChar_eq, if_pos (by omega)]

/-- Any other character is a first byte and the last digits of its code point. -/
theorem exists_isLed (h : 0x80 ≤ c.toNat) :
    ∃ b k, IsLed b.toNat k c.toNat ∧ utf8EncodeChar c = b :: trail k c.toNat := by
  have hvalid : c.toNat.isValidChar := c.valid
  unfold Nat.isValidChar at hvalid
  have hbyte : ∀ n, n < 256 → (UInt8.ofNat n).toNat = n := fun n hn => UInt8.toNat_ofNat_of_lt' hn
  rw [utf8EncodeChar_eq, if_neg (by omega)]
  split
  · refine ⟨_, 1, .inl ⟨rfl, h, by omega, ?_⟩, rfl⟩
    rw [hbyte _ (by omega)]
    omega
  split
  · refine ⟨_, 2, .inr (.inl ⟨rfl, by omega, by omega, by omega, ?_⟩), rfl⟩
    rw [hbyte _ (by omega)]
    omega
  · refine ⟨_, 3, .inr (.inr ⟨rfl, by omega, by omega, ?_⟩), rfl⟩
    rw [hbyte _ (by omega)]
    omega

/-- So a character is known by its first byte to be one byte or to have some behind that. -/
theorem utf8EncodeChar_eq_cons (h : utf8EncodeChar c = b :: bytes) :
    (b.toNat < 0x80 ∧ c.toNat = b.toNat ∧ bytes = []) ∨
    ∃ k, IsLed b.toNat k c.toNat ∧ bytes = trail k c.toNat := by
  by_cases hc : c.toNat < 0x80
  · rw [utf8EncodeChar_of_lt hc, List.cons.injEq, ofNat_eq_iff (by omega)] at h
    exact .inl ⟨h.1 ▸ hc, h.1, h.2.symm⟩
  · obtain ⟨b', k, hled, hencode⟩ := exists_isLed (Nat.le_of_not_lt hc)
    rw [hencode, List.cons.injEq] at h
    obtain ⟨rfl, rfl⟩ := h
    exact .inr ⟨k, hled, rfl⟩

/-- Every such code point is one of a character with these bytes. -/
theorem IsLed.encode (h : IsLed b.toNat k v) :
    v.isValidChar ∧ utf8EncodeChar (Char.ofNat v) = b :: trail k v := by
  have hvalid : v.isValidChar := by
    unfold IsLed at h
    unfold Nat.isValidChar
    omega
  refine ⟨hvalid, ?_⟩
  rw [utf8EncodeChar_eq, toNat_ofNat_of_isValidChar hvalid]
  rcases h with ⟨rfl, h1, h2, hfirst⟩ | ⟨rfl, h1, h2, -, hfirst⟩ | ⟨rfl, h1, h2, hfirst⟩
  · rw [if_neg (by omega), if_pos (by omega), (ofNat_eq_iff (b := b) (by omega)).mpr (by omega)]
  · rw [if_neg (by omega), if_neg (by omega), if_pos (by omega),
      (ofNat_eq_iff (b := b) (by omega)).mpr (by omega)]
  · rw [if_neg (by omega), if_neg (by omega), if_neg (by omega),
      (ofNat_eq_iff (b := b) (by omega)).mpr (by omega)]

/-! ## States -/

/-- What the first byte of a piece leads to: it is a character, or no character starts with it, or
it leads to a state that waits for just the characters that start with it. -/
inductive Starts (b : UInt8) : Option Char ⊕ State → Prop where
  | single (h : b.toNat < 0x80) : Starts b (.inl (some (Char.ofNat b.toNat)))
  | none (h : 0x80 ≤ b.toNat) (hnone : ∀ k v, ¬ IsLed b.toNat k v) : Starts b (.inl none)
  | within {needed bits : Nat} {low high : UInt8} (h : 0x80 ≤ b.toNat) (hlow : 128 ≤ low.toNat)
    (hle : low.toNat ≤ high.toNat) (hhigh : high.toNat ≤ 191)
    (hiff : ∀ k v, IsLed b.toNat k v ↔ k = needed + 1 ∧ Awaits needed bits low high v) :
    Starts b (.inr (.within needed bits low high))

/-- The table of first bytes. -/
theorem starts_start (b : UInt8) : Starts b (start b) := by
  have hb := b.toNat_lt
  unfold start
  dsimp only
  split
  · exact .single ‹_›
  repeat' split
  any_goals
    refine .within (by omega) (by decide) (by decide) (by decide) fun k v => ?_
    simp only [IsLed, awaits_iff, UInt8.reduceToNat, Nat.reducePow, Nat.reduceAdd]
    omega
  refine .none (by omega) fun k v => ?_
  unfold IsLed
  omega

/-- What a state within a character does with the bytes that come: they go on to a character that it
waits for, or break off where none of these goes on. -/
inductive Continues (needed bits : Nat) (low high : UInt8) :
    List UInt8 → List (Option Char) → Prop where
  | whole {v : Nat} {rest : List UInt8} (hv : Awaits needed bits low high v) :
    Continues needed bits low high (trail (needed + 1) v ++ rest)
      (some (Char.ofNat v) :: pieces rest)
  | broken {v : Nat} {part rest : List UInt8} (hv : Awaits needed bits low high v)
    (hpart : part <+: trail (needed + 1) v) (hlen : part.length ≤ needed)
    (hlongest : ∀ u, Awaits needed bits low high u → ∀ longer, longer <+: part ++ rest →
      part.length < longer.length → ¬ longer <+: trail (needed + 1) u) :
    Continues needed bits low high (part ++ rest) (none :: pieces rest)

/-- The next digit of a code point is the next byte if it is written so. -/
theorem trail_succ_eq_iff :
    trail (k + 1) v = b :: trail k v ↔ v / 64 ^ k % 64 + 128 = b.toNat := by
  rw [trail, List.cons.injEq, and_iff_left rfl, ofNat_eq_iff (by omega)]

/-- A byte within the bounds makes a state wait for the code points with that digit. -/
theorem awaits_step (hlow : 128 ≤ low.toNat) (hhigh : high.toNat ≤ 191)
    (hb : low ≤ b ∧ b ≤ high) :
    Awaits needed (0x40 * bits + b.toNat % 0x40) 0x80 0xBF v ↔
      Awaits (needed + 1) bits low high v ∧
        trail (needed + 2) v = b :: trail (needed + 1) v := by
  have h1 : low.toNat ≤ b.toNat := UInt8.le_iff_toNat_le.mp hb.1
  have h2 : b.toNat ≤ high.toNat := UInt8.le_iff_toNat_le.mp hb.2
  have hdiv : v / 64 ^ (needed + 1 + 1) = v / 64 ^ (needed + 1) / 64 := by
    rw [Nat.pow_succ 64 (needed + 1), Nat.div_div_eq_div_mul]
  rw [trail_succ_eq_iff, awaits_iff, awaits_iff, hdiv]
  simp only [UInt8.reduceToNat]
  omega

/-- There is something to wait for. -/
theorem exists_awaits (needed bits : Nat) (hlow : 128 ≤ low.toNat) (hle : low.toNat ≤ high.toNat)
    (hhigh : high.toNat ≤ 191) : ∃ v, Awaits needed bits low high v := by
  have hpow : 0 < 64 ^ needed := Nat.pow_pos (by decide)
  have hdigit : (64 * bits + (low.toNat - 128)) * 64 ^ needed / 64 ^ needed =
      64 * bits + (low.toNat - 128) := Nat.mul_div_cancel _ hpow
  refine ⟨(64 * bits + (low.toNat - 128)) * 64 ^ needed, ?_⟩
  rw [awaits_iff, Nat.pow_succ, ← Nat.div_div_eq_div_mul, hdigit]
  omega

/-- The next byte of what a state waits for lies between its bounds. -/
theorem Awaits.next (hv : Awaits needed bits low high v) :
    ∃ b, trail (needed + 1) v = b :: trail needed v ∧ low ≤ b ∧ b ≤ high := by
  have hdigit : (UInt8.ofNat (v / 64 ^ needed % 64 + 128)).toNat = v / 64 ^ needed % 64 + 128 :=
    (ofNat_eq_iff (by omega)).mp rfl |>.symm
  refine ⟨_, rfl, UInt8.le_iff_toNat_le.mpr ?_, UInt8.le_iff_toNat_le.mpr ?_⟩
  · rw [hdigit]; exact hv.low
  · rw [hdigit]; exact hv.high

/-- The last byte of a character. -/
theorem piecesFrom_last (hb : low ≤ b ∧ b ≤ high) :
    piecesFrom (.within 0 bits low high) (b :: bytes) =
      some (Char.ofNat (0x40 * bits + b.toNat % 0x40)) :: pieces bytes := by
  rw [piecesFrom, if_pos hb]
  rfl

/-- Another byte of a character. -/
theorem piecesFrom_more (hb : low ≤ b ∧ b ≤ high) :
    piecesFrom (.within (needed + 1) bits low high) (b :: bytes) =
      piecesFrom (.within needed (0x40 * bits + b.toNat % 0x40) 0x80 0xBF) bytes := by
  rw [piecesFrom, if_pos hb]

/-- A byte that breaks a character off starts the next piece. -/
theorem piecesFrom_break (hb : ¬ (low ≤ b ∧ b ≤ high)) :
    piecesFrom (.within needed bits low high) (b :: bytes) = none :: pieces (b :: bytes) := by
  rw [piecesFrom, if_neg hb, pieces, piecesFrom]
  cases start b <;> rfl

/-- Where one byte is missing, it is the last digit. -/
theorem awaits_last_iff (bits : Nat) (hlow : 128 ≤ low.toNat) (hhigh : high.toNat ≤ 191)
    (hb : low ≤ b ∧ b ≤ high) :
    Awaits 0 bits low high v ∧ trail 1 v = [b] ↔ v = 0x40 * bits + b.toNat % 0x40 := by
  have h1 : low.toNat ≤ b.toNat := UInt8.le_iff_toNat_le.mp hb.1
  have h2 : b.toNat ≤ high.toNat := UInt8.le_iff_toNat_le.mp hb.2
  show _ ∧ trail (0 + 1) v = b :: trail 0 v ↔ _
  rw [trail_succ_eq_iff, awaits_iff, Nat.pow_zero, Nat.div_one]
  omega

/-- The bytes that a state waits for give the character. -/
theorem piecesFrom_trail (hlow : 128 ≤ low.toNat) (hhigh : high.toNat ≤ 191)
    (hv : Awaits needed bits low high v) (rest : List UInt8) :
    piecesFrom (.within needed bits low high) (trail (needed + 1) v ++ rest) =
      some (Char.ofNat v) :: pieces rest := by
  obtain ⟨b, htrail, hb⟩ := hv.next
  induction needed generalizing bits low high b with
  | zero =>
    rw [(awaits_last_iff bits hlow hhigh hb).mp ⟨hv, htrail⟩, ← piecesFrom_last hb,
      ← (awaits_last_iff bits hlow hhigh hb).mp ⟨hv, htrail⟩, htrail]
    rfl
  | succ needed ih =>
    have hstep := (awaits_step hlow hhigh hb).mpr ⟨hv, htrail⟩
    obtain ⟨b', htrail', hb'⟩ := hstep.next
    rw [htrail, List.cons_append, piecesFrom_more hb]
    exact ih (by decide) (by decide) hstep b' htrail' hb'

/-- A state breaks off where no byte comes that may come next. -/
theorem continues_break (hv : Awaits needed bits low high v)
    (hstop : ∀ b rest, bytes = b :: rest → ¬ (low ≤ b ∧ b ≤ high)) :
    Continues needed bits low high bytes (none :: pieces bytes) := by
  refine Continues.broken hv List.nil_prefix (Nat.zero_le _)
    fun u hu longer hlonger hlen hfront => ?_
  obtain ⟨b, htrail, hb⟩ := hu.next
  obtain ⟨b', longer, rfl⟩ := List.exists_cons_of_length_pos hlen
  rw [htrail, List.cons_prefix_cons] at hfront
  obtain ⟨rest, hrest⟩ := hlonger
  exact hstop b' _ hrest.symm (hfront.1 ▸ hb)

/-- What comes behind a byte within the bounds goes on with it. -/
theorem Continues.cons (hlow : 128 ≤ low.toNat) (hhigh : high.toNat ≤ 191)
    (hb : low ≤ b ∧ b ≤ high)
    (h : Continues needed (0x40 * bits + b.toNat % 0x40) 0x80 0xBF bytes ps) :
    Continues (needed + 1) bits low high (b :: bytes) ps := by
  cases h with
  | whole hv =>
    obtain ⟨hv, htrail⟩ := (awaits_step hlow hhigh hb).mp hv
    rw [← List.cons_append, ← htrail]
    exact .whole hv
  | broken hv hpart hlen hlongest =>
    obtain ⟨hv, htrail⟩ := (awaits_step hlow hhigh hb).mp hv
    rw [← List.cons_append]
    refine .broken hv ?_ (Nat.succ_le_succ hlen) fun u hu longer hlonger hlen hfront => ?_
    · rw [htrail, List.cons_prefix_cons]
      exact ⟨rfl, hpart⟩
    · obtain ⟨b', longer, rfl⟩ := List.exists_cons_of_length_pos (Nat.zero_lt_of_lt hlen)
      obtain ⟨d, htrail', -⟩ := hu.next
      rw [List.cons_append, List.cons_prefix_cons] at hlonger
      rw [htrail', List.cons_prefix_cons] at hfront
      obtain ⟨rfl, hlonger⟩ := hlonger
      obtain ⟨rfl, hfront⟩ := hfront
      exact hlongest u ((awaits_step hlow hhigh hb).mpr ⟨hu, htrail'⟩) longer hlonger
        (Nat.lt_of_succ_lt_succ hlen) hfront

/-- A state goes on to a character or breaks off. -/
theorem continues_piecesFrom (needed bits : Nat) (hlow : 128 ≤ low.toNat)
    (hle : low.toNat ≤ high.toNat)
    (hhigh : high.toNat ≤ 191) (bytes : List UInt8) :
    Continues needed bits low high bytes (piecesFrom (.within needed bits low high) bytes) := by
  induction bytes generalizing needed bits low high with
  | nil =>
    obtain ⟨v, hv⟩ := exists_awaits needed bits hlow hle hhigh
    exact continues_break hv fun b rest h => nomatch h
  | cons b bytes ih =>
    by_cases hb : low ≤ b ∧ b ≤ high
    · cases needed with
      | zero =>
        obtain ⟨hlast, htrail⟩ := (awaits_last_iff bits hlow hhigh hb).mpr rfl
        rw [piecesFrom_last hb, ← List.singleton_append, ← htrail]
        exact .whole hlast
      | succ needed =>
        rw [piecesFrom_more hb]
        exact .cons hlow hhigh hb (ih _ _ (by decide) (by decide) (by decide))
    · obtain ⟨v, hv⟩ := exists_awaits needed bits hlow hle hhigh
      rw [piecesFrom_break hb]
      refine continues_break hv fun b' rest h => ?_
      cases h
      exact hb

/-! ## Rows of bytes -/

/-- The first byte of a row decides how its first piece is read. -/
theorem pieces_cons (b : UInt8) (bytes : List UInt8) :
    pieces (b :: bytes) = match start b with
      | .inl piece => piece :: pieces bytes
      | .inr state => piecesFrom state bytes := rfl

/-- The bytes of a character are a piece. -/
theorem pieces_encode (c : Char) (bytes : List UInt8) :
    pieces (utf8EncodeChar c ++ bytes) = some c :: pieces bytes := by
  obtain ⟨b, t, hencode⟩ := List.exists_cons_of_ne_nil (String.utf8EncodeChar_ne_nil (c := c))
  have hstarts := starts_start b
  rw [hencode, List.cons_append, pieces_cons]
  generalize start b = first at hstarts
  rcases utf8EncodeChar_eq_cons hencode with ⟨hb, hc, rfl⟩ | ⟨k, hled, rfl⟩
  · cases hstarts with
    | single => rw [← hc, Char.ofNat_toNat]; rfl
    | none h | within h => omega
  · cases hstarts with
    | single h => unfold IsLed at hled; omega
    | none _ hnone => exact absurd hled (hnone k _)
    | within h hlow hle hhigh hiff =>
      obtain ⟨rfl, hv⟩ := (hiff k _).mp hled
      have htrail := piecesFrom_trail hlow hhigh hv bytes
      rw [Char.ofNat_toNat] at htrail
      exact htrail

/-- A part is broken if no character with its first byte goes on with what comes, or goes on further
with it than the part does. -/
theorem isBroken_cons (hbegins : part = [] ∨ ∃ c, b :: part <+: utf8EncodeChar c)
    (h : ∀ c t, utf8EncodeChar c = b :: t → ¬ t <+: part ++ rest ∧
      ∀ longer, longer <+: part ++ rest → part.length < longer.length → ¬ longer <+: t) :
    IsBroken (b :: part) rest where
  ne_nil := List.cons_ne_nil _ _
  no_char c hfront := by
    obtain ⟨b', t, hencode⟩ := List.exists_cons_of_ne_nil (String.utf8EncodeChar_ne_nil (c := c))
    rw [hencode, List.cons_append, List.cons_prefix_cons] at hfront
    obtain ⟨rfl, hfront⟩ := hfront
    exact (h c t hencode).1 hfront
  begins := hbegins.imp_left fun hnil => by rw [hnil]; rfl
  longest longer hlonger hlen c hfront := by
    obtain ⟨b', longer, rfl⟩ := List.exists_cons_of_length_pos (Nat.zero_lt_of_lt hlen)
    obtain ⟨b'', t, hencode⟩ := List.exists_cons_of_ne_nil (String.utf8EncodeChar_ne_nil (c := c))
    rw [List.cons_append, List.cons_prefix_cons] at hlonger
    rw [hencode, List.cons_prefix_cons] at hfront
    obtain ⟨rfl, hlonger⟩ := hlonger
    obtain ⟨rfl, hfront⟩ := hfront
    exact (h c t hencode).2 longer hlonger (Nat.lt_of_succ_lt_succ hlen) hfront

/-- A row of bytes begins with a character or with a broken part. -/
theorem pieces_cases (b : UInt8) (bytes : List UInt8) :
    (∃ c rest, b :: bytes = utf8EncodeChar c ++ rest ∧
      pieces (b :: bytes) = some c :: pieces rest) ∨
    (∃ part rest, b :: bytes = part ++ rest ∧ IsBroken part rest ∧
      pieces (b :: bytes) = none :: pieces rest) := by
  have hstarts := starts_start b
  rw [pieces_cons]
  generalize start b = first at hstarts
  cases hstarts with
  | single h =>
    refine .inl ⟨Char.ofNat b.toNat, bytes, ?_, rfl⟩
    have htoNat : (Char.ofNat b.toNat).toNat = b.toNat :=
      toNat_ofNat_of_isValidChar (by unfold Nat.isValidChar; omega)
    rw [utf8EncodeChar_of_lt (by omega), htoNat, (ofNat_eq_iff (by omega)).mpr rfl]
    rfl
  | none h hnone =>
    refine .inr ⟨[b], bytes, rfl, isBroken_cons (.inl rfl) fun c t hencode => ?_, rfl⟩
    rcases utf8EncodeChar_eq_cons hencode with ⟨hb, -, -⟩ | ⟨k, hled, -⟩
    · omega
    · exact absurd hled (hnone k _)
  | @within needed bits low high h hlow hle hhigh hiff =>
    have hgo := continues_piecesFrom needed bits hlow hle hhigh bytes
    dsimp only
    generalize piecesFrom (.within needed bits low high) bytes = ps at hgo
    cases hgo with
    | @whole v rest hv =>
      obtain ⟨-, hencode⟩ := ((hiff _ v).mpr ⟨rfl, hv⟩).encode
      refine .inl ⟨Char.ofNat v, rest, ?_, rfl⟩
      rw [hencode]
      rfl
    | @broken v part rest hv hpart hlen hlongest =>
      obtain ⟨-, hencode⟩ := ((hiff _ v).mpr ⟨rfl, hv⟩).encode
      refine .inr ⟨b :: part, rest, rfl, isBroken_cons (.inr ⟨Char.ofNat v, ?_⟩) ?_, rfl⟩
      · rw [hencode, List.cons_prefix_cons]
        exact ⟨rfl, hpart⟩
      · intro c t hencode
        rcases utf8EncodeChar_eq_cons hencode with ⟨hb, -, -⟩ | ⟨k, hled, rfl⟩
        · omega
        · obtain ⟨rfl, hc⟩ := (hiff k _).mp hled
          refine ⟨fun hfront => ?_, hlongest _ hc⟩
          refine hlongest _ hc _ hfront ?_ (List.prefix_refl _)
          rw [length_trail]
          exact Nat.lt_succ_of_le hlen

/-- A broken part is not shorter than another one at the same place. -/
theorem IsBroken.length_le {part' rest' : List UInt8} (h : IsBroken part rest)
    (h' : IsBroken part' rest') (heq : part ++ rest = part' ++ rest') :
    part'.length ≤ part.length := by
  refine Nat.le_of_not_lt fun hlt => ?_
  rcases h'.begins with hone | ⟨c, hbegins⟩
  · have hpos := List.length_pos_iff.mpr h.ne_nil
    omega
  · exact h.longest part' (heq ▸ List.prefix_append part' rest') hlt c hbegins

/-- There is only one broken part at a place. -/
theorem IsBroken.unique {part' rest' : List UInt8} (h : IsBroken part rest)
    (h' : IsBroken part' rest') (heq : part ++ rest = part' ++ rest') :
    part = part' ∧ rest = rest' :=
  List.append_inj heq (Nat.le_antisymm (h'.length_le h heq.symm) (h.length_le h' heq))

/-- A row of bytes falls into its pieces. -/
theorem pieces_pieces (bytes : List UInt8) : Pieces bytes (pieces bytes) := by
  induction hn : bytes.length using Nat.strongRecOn generalizing bytes with
  | ind n ih =>
    subst hn
    cases bytes with
    | nil => exact .nil
    | cons b bytes =>
      rcases pieces_cases b bytes with ⟨c, rest, heq, hpieces⟩ | ⟨part, rest, heq, hpart, hpieces⟩
      · rw [hpieces, heq]
        refine .char c (ih _ ?_ rest rfl)
        have hpos := List.length_pos_iff.mpr (String.utf8EncodeChar_ne_nil (c := c))
        rw [heq, List.length_append]
        omega
      · rw [hpieces, heq]
        refine .broken hpart (ih _ ?_ rest rfl)
        have hpos := List.length_pos_iff.mpr hpart.ne_nil
        rw [heq, List.length_append]
        omega

/-- **What a row of bytes falls into.** Every row of bytes falls into characters and broken parts in
exactly one way, and that is how it is read. -/
theorem pieces_iff : Pieces bytes ps ↔ ps = pieces bytes := by
  refine ⟨fun h => ?_, fun h => h ▸ pieces_pieces bytes⟩
  induction h with
  | nil => rfl
  | char c _ ih => rw [pieces_encode, ih]
  | @broken bad rest ps hbad _ ih =>
    obtain ⟨b, bytes, hcons⟩ :=
      List.exists_cons_of_ne_nil (List.append_ne_nil_of_left_ne_nil hbad.ne_nil rest)
    rw [hcons, ih]
    rcases pieces_cases b bytes with ⟨c, rest', heq, -⟩ | ⟨part, rest', heq, hpart, hpieces⟩
    · exact absurd (hcons.trans heq ▸ List.prefix_append _ rest') (hbad.no_char c)
    · obtain ⟨-, rfl⟩ := hbad.unique hpart (hcons.trans heq)
      exact hpieces.symm

/-! ## Texts -/

/-- The bytes of a text are those of its characters. -/
theorem encode_eq_flatMap (s : String) : encode s = s.toList.flatMap utf8EncodeChar := by
  rw [encode_eq, ← String.utf8Encode_toList]
  exact List.toList_data_toByteArray

/-- A text at the front falls into its characters. -/
theorem pieces_encode_append (s : String) (bytes : List UInt8) :
    pieces (encode s ++ bytes) = s.toList.map some ++ pieces bytes := by
  rw [encode_eq_flatMap]
  induction s.toList with
  | nil => rfl
  | cons c t ih =>
    rw [List.flatMap_cons, List.append_assoc, pieces_encode, ih, List.map_cons, List.cons_append]

/-- A text falls into its characters. -/
theorem pieces_encode_text (s : String) : pieces (encode s) = s.toList.map some := by
  have h := pieces_encode_append s []
  rwa [List.append_nil, show pieces [] = [] from rfl, List.append_nil] at h

/-- A byte that is a character on its own belongs to no piece before it. -/
theorem pieces_append_cons (hb : b.toNat < 0x80) (bytes rest : List UInt8) :
    pieces (bytes ++ b :: rest) = pieces bytes ++ pieces (b :: rest) := by
  have hstate : ∀ state : State,
      (∀ needed bits low high, state = .within needed bits low high → 128 ≤ low.toNat) →
      piecesFrom state (bytes ++ b :: rest) = piecesFrom state bytes ++ pieces (b :: rest) := by
    induction bytes with
    | nil =>
      intro state hlow
      cases state with
      | ready => rfl
      | within needed bits low high =>
        have hout : ¬ (low ≤ b ∧ b ≤ high) := by
          rintro ⟨hle, -⟩
          have := hlow needed bits low high rfl
          have := UInt8.le_iff_toNat_le.mp hle
          omega
        exact piecesFrom_break hout
    | cons c bytes ih =>
      have hready : pieces (c :: (bytes ++ b :: rest)) =
          pieces (c :: bytes) ++ pieces (b :: rest) := by
        have hstarts := starts_start c
        rw [pieces_cons, pieces_cons]
        generalize start c = first at hstarts
        cases hstarts with
        | single | none => exact congrArg (_ :: ·) (ih .ready nofun)
        | within _ hlow =>
          refine ih _ fun needed bits low high h => ?_
          cases h
          exact hlow
      intro state hlow
      cases state with
      | ready => exact hready
      | within needed bits low high =>
        rw [List.cons_append]
        by_cases hc : low ≤ c ∧ c ≤ high
        · cases needed with
          | zero =>
            rw [piecesFrom_last hc, piecesFrom_last hc]
            exact congrArg (_ :: ·) (ih .ready nofun)
          | succ needed =>
            rw [piecesFrom_more hc, piecesFrom_more hc]
            refine ih _ fun needed bits low high h => ?_
            cases h
            decide
        · rw [piecesFrom_break hc, piecesFrom_break hc, hready, List.cons_append]
  exact hstate .ready nofun

/-- Bytes that are no characters on their own are no part of one that is. -/
theorem Pieces.le_of_mem (h : Pieces bytes ps) (hbytes : ∀ b ∈ bytes, 0x80 ≤ b.toNat) {c : Char}
    (hc : some c ∈ ps) : 0x80 ≤ c.toNat := by
  induction h with
  | nil => cases hc
  | @char d bytes ps _ ih =>
    obtain hd | hc := List.mem_cons.mp hc
    · cases hd
      refine Nat.le_of_not_lt fun hlt => ?_
      have hbyte := hbytes (UInt8.ofNat c.toNat)
        (List.mem_append_left _ (by rw [utf8EncodeChar_of_lt hlt]; exact .head _))
      rw [UInt8.toNat_ofNat_of_lt' (Nat.lt_trans hlt (by decide))] at hbyte
      omega
    · exact ih (fun b hb => hbytes b (List.mem_append_right _ hb)) hc
  | broken _ _ ih =>
    obtain hd | hc := List.mem_cons.mp hc
    · cases hd
    · exact ih (fun b hb => hbytes b (List.mem_append_right _ hb)) hc

/-- Bytes that fall into characters are the bytes of these. -/
theorem Pieces.eq_flatMap {cs : List Char} (h : Pieces bytes (cs.map some)) :
    bytes = cs.flatMap utf8EncodeChar := by
  induction cs generalizing bytes with
  | nil => cases h; rfl
  | cons c cs ih =>
    cases h with
    | char _ h => rw [List.flatMap_cons, ← ih h]

/-- There are only characters among pieces if all of them are. -/
theorem mapM_id_eq_some_iff {cs : List Char} : ps.mapM id = some cs ↔ ps = cs.map some := by
  induction ps generalizing cs with
  | nil => cases cs <;> simp
  | cons p ps ih =>
    rw [List.mapM_cons]
    cases cs with
    | nil => simp [Option.bind_eq_some_iff]
    | cons c cs => simp [Option.bind_eq_some_iff, ih]

/-- Bytes are decoded strictly if and only if they are those of a text. -/
theorem decode?_eq_some_iff {s : String} : decode? bytes = some s ↔ bytes = encode s := by
  rw [decode?, Option.map_eq_some_iff]
  constructor
  · rintro ⟨cs, hcs, rfl⟩
    have hpieces := pieces_pieces bytes
    rw [mapM_id_eq_some_iff.mp hcs] at hpieces
    rw [encode_eq_flatMap, String.toList_ofList]
    exact hpieces.eq_flatMap
  · rintro rfl
    exact ⟨s.toList, mapM_id_eq_some_iff.mpr (pieces_encode_text s), String.ofList_toList⟩

/-- And they are not if they are those of no text. -/
theorem decode?_eq_none_iff : decode? bytes = none ↔ ∀ s, bytes ≠ encode s := by
  rw [Option.eq_none_iff_forall_ne_some]
  exact forall_congr' fun s => not_congr decode?_eq_some_iff

/-- And that is so if a part of them is broken. -/
theorem decode?_eq_none_iff_mem : decode? bytes = none ↔ none ∈ pieces bytes := by
  have htext : ∀ ps : List (Option Char), (∀ cs : List Char, ps ≠ cs.map some) ↔ none ∈ ps := by
    intro ps
    induction ps with
    | nil => exact ⟨fun h => absurd rfl (h []), nofun⟩
    | cons p ps ih =>
      cases p with
      | none => exact ⟨fun _ => .head _, fun _ cs h => by cases cs <;> cases h⟩
      | some c =>
        rw [List.mem_cons, or_iff_right nofun, ← ih]
        constructor
        · intro h cs hcs
          exact h (c :: cs) (by rw [hcs, List.map_cons])
        · intro h cs hcs
          cases cs with
          | nil => cases hcs
          | cons d cs => exact h cs (List.cons.inj hcs).2
  rw [decode?, Option.map_eq_none_iff, Option.eq_none_iff_forall_ne_some, ← htext]
  exact forall_congr' fun cs => not_congr mapM_id_eq_some_iff

/-- Bytes are read with U+FFFD for each broken part. -/
theorem decodeLossy_of_pieces (h : Pieces bytes ps) :
    decodeLossy bytes = String.ofList (ps.map (·.getD '\uFFFD')) := by
  rw [decodeLossy, ← pieces_iff.mp h]

/-- A text at the front is read as it is. -/
theorem decodeLossy_encode_append (s : String) (bytes : List UInt8) :
    decodeLossy (encode s ++ bytes) = s ++ decodeLossy bytes := by
  refine String.toList_inj.mp ?_
  rw [decodeLossy, decodeLossy, pieces_encode_append, String.toList_append, String.toList_ofList,
    String.toList_ofList, List.map_append, List.map_map]
  show s.toList.map (fun c => c) ++ _ = _
  rw [List.map_id']

/-- A text comes back from its bytes. -/
theorem decodeLossy_encode (s : String) : decodeLossy (encode s) = s := by
  have h := decodeLossy_encode_append s []
  rwa [List.append_nil, show decodeLossy [] = "" from rfl, String.append_empty] at h

/-- Before a byte that is a character on its own, bytes are read as they are alone. -/
theorem decodeLossy_append_cons (hb : b.toNat < 0x80) (bytes rest : List UInt8) :
    decodeLossy (bytes ++ b :: rest) = decodeLossy bytes ++ decodeLossy (b :: rest) := by
  refine String.toList_inj.mp ?_
  rw [decodeLossy, pieces_append_cons hb, String.toList_append, decodeLossy, decodeLossy,
    String.toList_ofList, String.toList_ofList, String.toList_ofList, List.map_append]

/-- Bytes that are no characters on their own are read as characters that are not ASCII. -/
theorem le_of_mem_decodeLossy (hbytes : ∀ b ∈ bytes, 0x80 ≤ b.toNat) {c : Char}
    (hc : c ∈ (decodeLossy bytes).toList) : 0x80 ≤ c.toNat := by
  rw [decodeLossy, String.toList_ofList] at hc
  obtain ⟨piece, hpiece, rfl⟩ := List.mem_map.mp hc
  cases piece with
  | none => decide
  | some c => exact (pieces_pieces bytes).le_of_mem hbytes hpiece

end

end LogGate.Utf8
