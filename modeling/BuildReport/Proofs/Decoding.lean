import BuildReport.Text.Utf8
import Mathlib.Data.List.Infix

/-!
# What bytes spell

Bytes that a tool or a person has written need not be well-formed. Which text they spell can be said
without the machine that reads them. They are cut into characters and broken pieces, one behind the
other. Where a character stands, the cut follows it. Where none does, the piece reaches as far as
something that could still become a character, or it is a single byte that begins none. There is one
way to cut, and the machine finds it.

- `Encodes`: the bytes of a character, by how many there are.
- `IsBroken`: a broken piece, and what stands behind it.
- `Spells`: bytes, and the text that they spell.
- `Completes`, `Live`: what the machine expects inside of a character.
- `Opened`: how this fits the bytes that it has read of that character.
- `spells_readFrom`: what the machine reads from a state on.
- `spells_iff`: bytes spell one text, and it is the one that is decoded.
-/

namespace BuildReport

namespace Utf8

open String (utf8EncodeChar)

variable {owed low high bits n : Nat} {b : UInt8} {c : Char} {bytes run rest tail : List UInt8}
  {s : List Char}

/-! ## Characters in bytes -/

/-- The bytes of a character. Its number is cut into pieces of six bits, and the first byte tells
how many bytes there are. -/
inductive Encodes (c : Char) : List UInt8 → Prop
  | one {b₁ : UInt8} (hc : c.toNat < 0x80) (h₁ : b₁.toNat = c.toNat) : Encodes c [b₁]
  | two {b₁ b₂ : UInt8} (hc : 0x80 ≤ c.toNat) (hc' : c.toNat < 0x800)
      (h₁ : b₁.toNat = 0xC0 + c.toNat / 64) (h₂ : b₂.toNat = 0x80 + c.toNat % 64) :
      Encodes c [b₁, b₂]
  | three {b₁ b₂ b₃ : UInt8} (hc : 0x800 ≤ c.toNat) (hc' : c.toNat < 0x10000)
      (h₁ : b₁.toNat = 0xE0 + c.toNat / 4096) (h₂ : b₂.toNat = 0x80 + c.toNat / 64 % 64)
      (h₃ : b₃.toNat = 0x80 + c.toNat % 64) : Encodes c [b₁, b₂, b₃]
  | four {b₁ b₂ b₃ b₄ : UInt8} (hc : 0x10000 ≤ c.toNat)
      (h₁ : b₁.toNat = 0xF0 + c.toNat / 262144) (h₂ : b₂.toNat = 0x80 + c.toNat / 4096 % 64)
      (h₃ : b₃.toNat = 0x80 + c.toNat / 64 % 64) (h₄ : b₄.toNat = 0x80 + c.toNat % 64) :
      Encodes c [b₁, b₂, b₃, b₄]

theorem toNat_valid (c : Char) : c.toNat < 0xD800 ∨ 0xDFFF < c.toNat ∧ c.toNat < 0x110000 :=
  c.valid

theorem ofNat_eq_of_toNat (h : b.toNat = n) : UInt8.ofNat n = b := by
  rw [← h, UInt8.ofNat_toNat]

theorem encodes_utf8EncodeChar (c : Char) : Encodes c (utf8EncodeChar c) := by
  have hvalid := toNat_valid c
  have hbyte (n : Nat) (hn : n < 256) : (UInt8.ofNat n).toNat = n := UInt8.toNat_ofNat_of_lt' hn
  have hval : c.val.toNat = c.toNat := rfl
  rw [utf8EncodeChar, hval]
  split_ifs with h₁ h₂ h₃
  · exact .one (by omega) (hbyte _ (by omega))
  · exact .two (by omega) (by omega) (by rw [hbyte _ (by omega)]; omega)
      (by rw [hbyte _ (by omega)]; omega)
  · exact .three (by omega) (by omega) (by rw [hbyte _ (by omega)]; omega)
      (by rw [hbyte _ (by omega)]; omega) (by rw [hbyte _ (by omega)]; omega)
  · exact .four (by omega) (by rw [hbyte _ (by omega)]; omega)
      (by rw [hbyte _ (by omega)]; omega) (by rw [hbyte _ (by omega)]; omega)
      (by rw [hbyte _ (by omega)]; omega)

theorem Encodes.eq (h : Encodes c bytes) : utf8EncodeChar c = bytes := by
  have hvalid := toNat_valid c
  have hval : c.val.toNat = c.toNat := rfl
  rw [utf8EncodeChar, hval]
  cases h with
  | one hc h₁ => rw [if_pos (by omega), ofNat_eq_of_toNat h₁]
  | @two b₁ b₂ hc hc' h₁ h₂ =>
    rw [if_neg (by omega), if_pos (by omega), ofNat_eq_of_toNat (b := b₁) (by omega),
      ofNat_eq_of_toNat (b := b₂) (by omega)]
  | @three b₁ b₂ b₃ hc hc' h₁ h₂ h₃ =>
    rw [if_neg (by omega), if_neg (by omega), if_pos (by omega),
      ofNat_eq_of_toNat (b := b₁) (by omega), ofNat_eq_of_toNat (b := b₂) (by omega),
      ofNat_eq_of_toNat (b := b₃) (by omega)]
  | @four b₁ b₂ b₃ b₄ hc h₁ h₂ h₃ h₄ =>
    rw [if_neg (by omega), if_neg (by omega), if_neg (by omega),
      ofNat_eq_of_toNat (b := b₁) (by omega), ofNat_eq_of_toNat (b := b₂) (by omega),
      ofNat_eq_of_toNat (b := b₃) (by omega), ofNat_eq_of_toNat (b := b₄) (by omega)]

theorem encodes_iff : Encodes c bytes ↔ utf8EncodeChar c = bytes := by
  constructor
  · exact Encodes.eq
  · rintro rfl
    exact encodes_utf8EncodeChar c

theorem toNat_char_ofNat (h : n.isValidChar) : (Char.ofNat n).toNat = n := by
  rw [Char.ofNat, dif_pos h]
  rfl

/-- Where a character stands in front, it is the only one that does. -/
theorem utf8EncodeChar_append_inj {c' : Char} {rest' : List UInt8}
    (h : utf8EncodeChar c ++ rest = utf8EncodeChar c' ++ rest') : c = c' ∧ rest = rest' := by
  have hread (c : Char) (rest : List UInt8) :
      ByteArray.utf8DecodeChar? (utf8EncodeChar c ++ rest).toByteArray 0 = some c := by
    rw [List.toByteArray_append, ByteArray.utf8DecodeChar?_utf8EncodeChar_append]
  obtain rfl : c = c' := Option.some.inj ((hread c rest).symm.trans (h ▸ hread c' rest'))
  exact ⟨rfl, List.append_cancel_left h⟩

/-! ## Cutting bytes into characters and broken pieces -/

/-- The bytes begin a character. -/
def Begins (bytes : List UInt8) : Prop :=
  ∃ c, bytes <+: utf8EncodeChar c

/-- The bytes `run` are a broken piece in front of `rest`. -/
structure IsBroken (run rest : List UInt8) : Prop where
  /-- No character stands here. -/
  noChar : ∀ c, ¬ utf8EncodeChar c <+: run ++ rest
  /-- A piece of more than one byte begins a character. -/
  begins : run.length = 1 ∨ run ≠ [] ∧ Begins run
  /-- Nothing longer does. -/
  longest : ∀ more, more <+: run ++ rest → Begins more → more.length ≤ run.length

/-- The bytes spell the text: each piece of them is a character, or it is broken and a replacement
character stands for it. -/
inductive Spells : List UInt8 → List Char → Prop
  | nil : Spells [] []
  | char (c : Char) {rest : List UInt8} {s : List Char} (hrest : Spells rest s) :
      Spells (utf8EncodeChar c ++ rest) (c :: s)
  | broken {run rest : List UInt8} {s : List Char} (hrun : IsBroken run rest)
      (hrest : Spells rest s) : Spells (run ++ rest) (replacement :: s)

namespace IsBroken

theorem ne_nil (h : IsBroken run rest) : run ≠ [] := by
  rcases h.begins with hone | ⟨hne, -⟩
  · rintro rfl
    cases hone
  · exact hne

theorem length_le {run' rest' : List UInt8} (h : IsBroken run rest) (h' : IsBroken run' rest')
    (heq : run ++ rest = run' ++ rest') : run.length ≤ run'.length := by
  rcases h.begins with hone | ⟨-, hbegins⟩
  · rw [hone]
    exact List.length_pos_iff.mpr h'.ne_nil
  · exact h'.longest run ⟨rest, heq⟩ hbegins

/-- A byte that begins no character is broken by itself. -/
theorem of_first (h : ∀ c tail, utf8EncodeChar c ≠ b :: tail) (rest : List UInt8) :
    IsBroken [b] rest := by
  have hnil (more : List UInt8) (hmore : more <+: b :: rest) (hbegins : Begins more) :
      more = [] := by
    obtain ⟨c, after, hc⟩ := hbegins
    rcases List.prefix_cons_iff.mp hmore with hnil | ⟨t, rfl, -⟩
    · exact hnil
    · exact absurd hc.symm (h c (t ++ after))
  refine ⟨fun c hc => ?_, .inl rfl, fun more hmore hbegins => ?_⟩
  · exact String.utf8EncodeChar_ne_nil (hnil _ hc ⟨c, List.prefix_rfl⟩)
  · rw [hnil more hmore hbegins]
    exact Nat.zero_le 1

end IsBroken

/-- **Bytes spell one text.** -/
theorem Spells.unique {s' : List Char} (h : Spells bytes s) (h' : Spells bytes s') : s = s' := by
  induction h generalizing s' with
  | nil =>
    generalize hbytes : [] = bytes at h'
    cases h' with
    | nil => rfl
    | char c =>
      exact absurd (List.append_eq_nil_iff.mp hbytes.symm).1 String.utf8EncodeChar_ne_nil
    | broken hrun => exact absurd (List.append_eq_nil_iff.mp hbytes.symm).1 hrun.ne_nil
  | @char c rest _ hrest ih =>
    generalize hbytes : utf8EncodeChar c ++ rest = bytes at h'
    cases h' with
    | nil => exact absurd (List.append_eq_nil_iff.mp hbytes).1 String.utf8EncodeChar_ne_nil
    | char c' hrest' =>
      obtain ⟨rfl, rfl⟩ := utf8EncodeChar_append_inj hbytes
      rw [ih hrest']
    | broken hrun => exact absurd ⟨_, hbytes⟩ (hrun.noChar c)
  | @broken run rest _ hrun hrest ih =>
    generalize hbytes : run ++ rest = bytes at h'
    cases h' with
    | nil => exact absurd (List.append_eq_nil_iff.mp hbytes).1 hrun.ne_nil
    | char c' hrest' => exact absurd ⟨_, hbytes.symm⟩ (hrun.noChar c')
    | broken hrun' hrest' =>
      have hlength := Nat.le_antisymm (hrun.length_le hrun' hbytes)
        (hrun'.length_le hrun hbytes.symm)
      obtain ⟨-, rfl⟩ := List.append_inj hbytes hlength
      rw [ih hrest']

/-! ## What the machine expects -/

/-- The bytes `tail` and the bits that the machine has read make up the character `c`. -/
def Completes : (owed low high bits : Nat) → List UInt8 → Char → Prop
  | 0, low, high, bits, tail, c =>
    ∃ b, tail = [b] ∧ low ≤ b.toNat ∧ b.toNat ≤ high ∧ c.toNat = bits * 64 + (b.toNat - 0x80)
  | owed + 1, low, high, bits, tail, c =>
    ∃ b more, tail = b :: more ∧ low ≤ b.toNat ∧ b.toNat ≤ high ∧
      Completes owed 0x80 0xBF (bits * 64 + (b.toNat - 0x80)) more c

/-- There is a byte that the machine accepts next, and whichever it is, some character comes of
it. -/
def Live : (owed low high bits : Nat) → Prop
  | 0, low, high, bits =>
    low ≤ high ∧ high < 256 ∧ ∀ n, low ≤ n → n ≤ high → (bits * 64 + (n - 0x80)).isValidChar
  | owed + 1, low, high, bits =>
    low ≤ high ∧ high < 256 ∧
      ∀ n, low ≤ n → n ≤ high → Live owed 0x80 0xBF (bits * 64 + (n - 0x80))

theorem Completes.head (h : Completes owed low high bits tail c) :
    ∃ b more, tail = b :: more ∧ low ≤ b.toNat ∧ b.toNat ≤ high := by
  cases owed with
  | zero =>
    obtain ⟨b, rfl, hlow, hhigh, -⟩ := h
    exact ⟨b, [], rfl, hlow, hhigh⟩
  | succ owed =>
    obtain ⟨b, more, rfl, hlow, hhigh, -⟩ := h
    exact ⟨b, more, rfl, hlow, hhigh⟩

theorem Live.exists_completes (h : Live owed low high bits) :
    ∃ tail c, Completes owed low high bits tail c := by
  have hbyte : low ≤ high ∧ high < 256 := by
    cases owed with
    | zero | succ owed => exact ⟨h.1, h.2.1⟩
  have hlow : (UInt8.ofNat low).toNat = low :=
    UInt8.toNat_ofNat_of_lt' (hbyte.1.trans_lt hbyte.2)
  induction owed generalizing low high bits with
  | zero =>
    refine ⟨[UInt8.ofNat low], Char.ofNat (bits * 64 + (low - 0x80)), _, rfl, by omega, by omega,
      ?_⟩
    rw [hlow, toNat_char_ofNat (h.2.2 low (Nat.le_refl low) h.1)]
  | succ owed ih =>
    have hnext := h.2.2 low (Nat.le_refl low) h.1
    obtain ⟨tail, c, hcompletes⟩ := ih hnext (by omega) rfl
    refine ⟨UInt8.ofNat low :: tail, c, _, _, rfl, by omega, by omega, ?_⟩
    rwa [hlow]

/-! The first byte bounds the second one where fewer bytes would do for the character, and where its
number would be none. -/

theorem completes_two (hb : 0xC2 ≤ b.toNat ∧ b.toNat ≤ 0xDF) :
    utf8EncodeChar c = b :: tail ↔ Completes 0 0x80 0xBF (b.toNat - 0xC0) tail c := by
  have hvalid := toNat_valid c
  rw [← encodes_iff]
  constructor
  · intro h
    cases h with
    | @two _ b₂ hc hc' h₁ h₂ => exact ⟨b₂, rfl, by omega, by omega, by omega⟩
    | one | three | four => omega
  · rintro ⟨b₂, rfl, h₂, h₂', hc⟩
    exact .two (by omega) (by omega) (by omega) (by omega)

theorem completes_three (hb : 0xE0 ≤ b.toNat ∧ b.toNat ≤ 0xEF)
    (hlow : b.toNat = 0xE0 ∧ low = 0xA0 ∨ b.toNat ≠ 0xE0 ∧ low = 0x80)
    (hhigh : b.toNat = 0xED ∧ high = 0x9F ∨ b.toNat ≠ 0xED ∧ high = 0xBF) :
    utf8EncodeChar c = b :: tail ↔ Completes 1 low high (b.toNat - 0xE0) tail c := by
  have hvalid := toNat_valid c
  rw [← encodes_iff]
  constructor
  · intro h
    cases h with
    | @three _ b₂ b₃ hc hc' h₁ h₂ h₃ =>
      exact ⟨b₂, _, rfl, by omega, by omega, b₃, rfl, by omega, by omega, by omega⟩
    | one | two | four => omega
  · rintro ⟨b₂, _, rfl, h₂, h₂', b₃, rfl, h₃, h₃', hc⟩
    exact .three (by omega) (by omega) (by omega) (by omega) (by omega)

theorem completes_four (hb : 0xF0 ≤ b.toNat ∧ b.toNat ≤ 0xF4)
    (hlow : b.toNat = 0xF0 ∧ low = 0x90 ∨ b.toNat ≠ 0xF0 ∧ low = 0x80)
    (hhigh : b.toNat = 0xF4 ∧ high = 0x8F ∨ b.toNat ≠ 0xF4 ∧ high = 0xBF) :
    utf8EncodeChar c = b :: tail ↔ Completes 2 low high (b.toNat - 0xF0) tail c := by
  have hvalid := toNat_valid c
  rw [← encodes_iff]
  constructor
  · intro h
    cases h with
    | @four _ b₂ b₃ b₄ hc h₁ h₂ h₃ h₄ =>
      exact ⟨b₂, _, rfl, by omega, by omega, b₃, _, rfl, by omega, by omega, b₄, rfl, by omega,
        by omega, by omega⟩
    | one | two | three => omega
  · rintro ⟨b₂, _, rfl, h₂, h₂', b₃, _, rfl, h₃, h₃', b₄, rfl, h₄, h₄', hc⟩
    exact .four (by omega) (by omega) (by omega) (by omega) (by omega)

/-- What the machine expects fits the bytes `read`, which it has read of an open character. -/
structure Opened (read : List UInt8) (owed low high bits : Nat) : Prop where
  ne_nil : read ≠ []
  /-- No character is complete. -/
  unfinished : ∀ c, ¬ utf8EncodeChar c <+: read
  /-- The characters that begin like this are those that the machine still accepts. -/
  completes : ∀ tail c, utf8EncodeChar c = read ++ tail ↔ Completes owed low high bits tail c
  live : Live owed low high bits

namespace Opened

variable {read : List UInt8}

theorem begins (h : Opened read owed low high bits) : Begins read := by
  obtain ⟨tail, c, hcompletes⟩ := h.live.exists_completes
  exact ⟨c, tail, ((h.completes tail c).mpr hcompletes).symm⟩

theorem of_first (hcompletes : ∀ tail c, utf8EncodeChar c = b :: tail ↔
      Completes owed low high bits tail c) (hlive : Live owed low high bits) :
    Opened [b] owed low high bits where
  ne_nil := List.cons_ne_nil b []
  unfinished c := by
    intro hprefix
    rcases List.prefix_cons_iff.mp hprefix with hnil | ⟨more, heq, hmore⟩
    · exact String.utf8EncodeChar_ne_nil hnil
    · obtain ⟨_, _, hcons, -⟩ := ((hcompletes more c).mp heq).head
      rw [hcons, List.prefix_nil] at hmore
      cases hmore
  completes := hcompletes
  live := hlive

/-- One byte more, which is not the last. -/
theorem next (h : Opened read (owed + 1) low high bits) (hb : low ≤ b.toNat ∧ b.toNat ≤ high) :
    Opened (read ++ [b]) owed 0x80 0xBF (bits * 64 + (b.toNat - 0x80)) where
  ne_nil := List.append_ne_nil_of_left_ne_nil h.ne_nil [b]
  unfinished c := by
    intro hprefix
    rcases List.prefix_concat_iff.mp hprefix with heq | hread
    · obtain ⟨_, _, hcons, -, -, hmore⟩ := (h.completes [b] c).mp heq
      obtain ⟨rfl, rfl⟩ := List.cons.inj hcons
      obtain ⟨_, _, hnil, -⟩ := hmore.head
      cases hnil
    · exact h.unfinished c hread
  completes tail c := by
    rw [List.append_assoc, List.singleton_append, h.completes]
    constructor
    · rintro ⟨_, _, hcons, -, -, hmore⟩
      obtain ⟨rfl, rfl⟩ := List.cons.inj hcons
      exact hmore
    · intro hmore
      exact ⟨b, tail, rfl, hb.1, hb.2, hmore⟩
  live := h.live.2.2 b.toNat hb.1 hb.2

/-- The last byte. -/
theorem finish (h : Opened read 0 low high bits) (hb : low ≤ b.toNat ∧ b.toNat ≤ high) :
    utf8EncodeChar (Char.ofNat (bits * 64 + (b.toNat - 0x80))) = read ++ [b] := by
  refine (h.completes [b] _).mpr ⟨b, rfl, hb.1, hb.2, ?_⟩
  exact toNat_char_ofNat (h.live.2.2 b.toNat hb.1 hb.2)

/-- What has been read is broken if the machine does not accept the byte behind it. -/
theorem isBroken (h : Opened read owed low high bits)
    (hrest : ∀ b ∈ rest.head?, ¬ (low ≤ b.toNat ∧ b.toNat ≤ high)) : IsBroken read rest := by
  have hlongest (more : List UInt8) (hmore : more <+: read ++ rest) (hbegins : Begins more) :
      more <+: read := by
    obtain ⟨c, after, hc⟩ := hbegins
    rcases List.prefix_or_prefix_of_prefix hmore (List.prefix_append read rest) with
      hread | ⟨t, rfl⟩
    · exact hread
    · cases t with
      | nil => rw [List.append_nil]
      | cons b t =>
        obtain ⟨u, hu⟩ := (List.prefix_append_right_inj read).mp hmore
        rw [List.append_assoc] at hc
        obtain ⟨_, _, hcons, hrange⟩ := ((h.completes _ c).mp hc.symm).head
        obtain ⟨rfl, -⟩ := List.cons.inj hcons
        rw [← hu] at hrest
        exact absurd hrange (hrest b rfl)
  refine ⟨fun c hc => ?_, .inr ⟨h.ne_nil, h.begins⟩, fun more hmore hbegins => ?_⟩
  · exact h.unfinished c (hlongest _ hc ⟨c, List.prefix_rfl⟩)
  · exact (hlongest more hmore hbegins).length_le

end Opened

theorem opened_two (hb : 0xC2 ≤ b.toNat ∧ b.toNat ≤ 0xDF) :
    Opened [b] 0 0x80 0xBF (b.toNat - 0xC0) := by
  refine .of_first (fun tail c => completes_two hb) ?_
  simp only [Live, Nat.isValidChar]
  refine ⟨by omega, by omega, fun n hn hn' => ?_⟩
  omega

theorem opened_three (hb : 0xE0 ≤ b.toNat ∧ b.toNat ≤ 0xEF)
    (hlow : b.toNat = 0xE0 ∧ low = 0xA0 ∨ b.toNat ≠ 0xE0 ∧ low = 0x80)
    (hhigh : b.toNat = 0xED ∧ high = 0x9F ∨ b.toNat ≠ 0xED ∧ high = 0xBF)
    (hbits : bits = b.toNat - 0xE0) : Opened [b] 1 low high bits := by
  rw [hbits]
  refine .of_first (fun tail c => completes_three hb hlow hhigh) ?_
  simp only [Live, Nat.isValidChar]
  refine ⟨by omega, by omega, fun n hn hn' => ⟨by omega, by omega, fun m hm hm' => ?_⟩⟩
  omega

theorem opened_four (hb : 0xF0 ≤ b.toNat ∧ b.toNat ≤ 0xF4)
    (hlow : b.toNat = 0xF0 ∧ low = 0x90 ∨ b.toNat ≠ 0xF0 ∧ low = 0x80)
    (hhigh : b.toNat = 0xF4 ∧ high = 0x8F ∨ b.toNat ≠ 0xF4 ∧ high = 0xBF)
    (hbits : bits = b.toNat - 0xF0) : Opened [b] 2 low high bits := by
  rw [hbits]
  refine .of_first (fun tail c => completes_four hb hlow hhigh) ?_
  simp only [Live, Nat.isValidChar]
  refine ⟨by omega, by omega, fun n hn hn' => ⟨by omega, by omega, fun m hm hm' =>
    ⟨by omega, by omega, fun k hk hk' => ?_⟩⟩⟩
  omega

/-! ## What the machine reads -/

/-- What the machine yields for a byte where a character may start, and the state after it. -/
inductive FirstStep (b : UInt8) : List (Option Char) × Decoder → Prop
  | char {c : Char} (h : utf8EncodeChar c = [b]) : FirstStep b ([some c], .between)
  | broken (h : ∀ c tail, utf8EncodeChar c ≠ b :: tail) : FirstStep b ([none], .between)
  | opened {owed low high bits : Nat} (h : Opened [b] owed low high bits) :
    FirstStep b ([], .inside owed low high bits)

theorem firstStep_first (b : UInt8) : FirstStep b (first b.toNat) := by
  unfold first
  split_ifs with hone htwo he0 hed hthree hf0 hfour hf4
  · have hc : (Char.ofNat b.toNat).toNat = b.toNat := toNat_char_ofNat (.inl (by omega))
    exact .char (Encodes.one (by omega) hc.symm).eq
  · exact .opened (opened_two htwo)
  · exact .opened (opened_three (by omega) (by omega) (by omega) (by omega))
  · exact .opened (opened_three (by omega) (by omega) (by omega) (by omega))
  · exact .opened (opened_three (by omega) (by omega) (by omega) rfl)
  · exact .opened (opened_four (by omega) (by omega) (by omega) (by omega))
  · exact .opened (opened_four (by omega) (by omega) (by omega) rfl)
  · exact .opened (opened_four (by omega) (by omega) (by omega) (by omega))
  · refine .broken fun c tail heq => ?_
    have hvalid := toNat_valid c
    cases encodes_iff.mpr heq with
    | one | two | three | four => omega

/-- The text that the machine reads from a state on. -/
def readFrom (state : Decoder) (bytes : List UInt8) : List Char :=
  (scan state bytes).map (·.getD replacement)

theorem readFrom_cons (state : Decoder) (b : UInt8) (bytes : List UInt8) :
    readFrom state (b :: bytes) = (step state b.toNat).1.map (·.getD replacement) ++
      readFrom (step state b.toNat).2 bytes := by
  rw [readFrom, scan_cons, List.map_append]
  rfl

theorem readFrom_last (h : low ≤ b.toNat ∧ b.toNat ≤ high) :
    readFrom (.inside 0 low high bits) (b :: bytes) =
      Char.ofNat (bits * 64 + (b.toNat - 0x80)) :: readFrom .between bytes := by
  rw [readFrom_cons, step, if_pos h]
  simp only [List.map_cons, List.map_nil, Option.getD_some, List.singleton_append]

theorem readFrom_more (h : low ≤ b.toNat ∧ b.toNat ≤ high) :
    readFrom (.inside (owed + 1) low high bits) (b :: bytes) =
      readFrom (.inside owed 0x80 0xBF (bits * 64 + (b.toNat - 0x80))) bytes := by
  rw [readFrom_cons, step, if_pos h]
  rfl

theorem readFrom_broken (h : ¬ (low ≤ b.toNat ∧ b.toNat ≤ high)) :
    readFrom (.inside owed low high bits) (b :: bytes) =
      replacement :: readFrom .between (b :: bytes) := by
  have hstep : step (.inside owed low high bits) b.toNat =
      (none :: (first b.toNat).1, (first b.toNat).2) := if_neg h
  rw [readFrom_cons, hstep, readFrom_cons]
  rfl

/-- **What the machine reads** from a state on. By induction on the bytes that follow: inside of a
character, they are put behind those that have been read of it. -/
theorem spells_readFrom (bytes : List UInt8) : Spells bytes (readFrom .between bytes) ∧
    ∀ read owed low high bits, Opened read owed low high bits →
      Spells (read ++ bytes) (readFrom (.inside owed low high bits) bytes) := by
  induction bytes with
  | nil =>
    refine ⟨.nil, fun read owed low high bits h => ?_⟩
    exact .broken (h.isBroken (fun _ hb => nomatch hb)) .nil
  | cons b bytes ih =>
    obtain ⟨hbetween, hinside⟩ := ih
    have hfirst : Spells (b :: bytes) (readFrom .between (b :: bytes)) := by
      rw [readFrom_cons]
      show Spells _ ((first b.toNat).1.map _ ++ readFrom (first b.toNat).2 bytes)
      have hstep := firstStep_first b
      generalize first b.toNat = out at hstep
      cases hstep with
      | @char c h =>
        have hchar := Spells.char c hbetween
        rw [h] at hchar
        exact hchar
      | broken h => exact .broken (.of_first h bytes) hbetween
      | opened h => exact hinside [b] _ _ _ _ h
    refine ⟨hfirst, fun read owed low high bits h => ?_⟩
    by_cases hrange : low ≤ b.toNat ∧ b.toNat ≤ high
    · rw [List.append_cons]
      cases owed with
      | zero =>
        rw [readFrom_last hrange, ← h.finish hrange]
        exact .char _ hbetween
      | succ owed =>
        rw [readFrom_more hrange]
        exact hinside _ _ _ _ _ (h.next hrange)
    · -- the byte that cannot go on is read once more, as the first of what follows
      rw [readFrom_broken hrange]
      refine .broken (h.isBroken fun _ hb => ?_) hfirst
      obtain rfl := Option.some.inj hb
      exact hrange

theorem spells_decode (bytes : List UInt8) : Spells bytes (decode bytes) :=
  (spells_readFrom bytes).1

/-- **Bytes spell what is decoded**, and nothing else. -/
theorem spells_iff : Spells bytes s ↔ s = decode bytes := by
  constructor
  · intro h
    exact h.unique (spells_decode bytes)
  · rintro rfl
    exact spells_decode bytes

/-- Two bytes of a character that has three are one broken piece. -/
example : decode [0xE2, 0x82, 0x41] = [replacement, 'A'] := by decide

end Utf8

end BuildReport
