import AmountReport.Proofs.Fold
import AmountReport.Utf8

/-!
# UTF-8: what the bytes of a text are

An ASCII character is one byte, its own number, and no byte of any other character is below 0x80.
So a language of ASCII texts may be looked for in the bytes of a text, each read as the character of
its number (`charsOf`): `charsOf_encode_iff`. And decoding reads back what encoding writes
(`decode_encode`): the machine gets through the bytes of one character and is then where it was, with
one character more.
-/

namespace AmountReport.Utf8

theorem encode_cons (c : Char) (s : List Char) :
    encode (c :: s) = String.utf8EncodeChar c ++ encode s := rfl

/-- A character takes a byte or more. -/
theorem length_le_length_encode (s : List Char) : s.length ≤ (encode s).length := by
  induction s with
  | nil => exact Nat.le_refl 0
  | cons c s ih =>
    have size := c.utf8Size_pos
    rw [encode_cons, List.length_append, String.length_utf8EncodeChar, List.length_cons]
    omega

theorem toNat_ofNat_of_lt {n : Nat} (h : n < 256) : (UInt8.ofNat n).toNat = n := by
  rw [UInt8.toNat_ofNat']; omega

/-! ## Bytes as characters -/

/-- A byte read as the character of its number. -/
def charOf (b : UInt8) : Char := Char.ofNat b.toNat

def charsOf (bytes : List UInt8) : List Char := bytes.map charOf

/-- All characters are below U+0080. -/
def Ascii (s : List Char) : Prop := ∀ c ∈ s, c.toNat < 0x80

theorem toNat_charOf (b : UInt8) : (charOf b).toNat = b.toNat := by
  have valid : b.toNat.isValidChar := Or.inl (by have := b.toNat_lt; omega)
  rw [charOf, Char.ofNat, dif_pos valid]
  rfl

@[simp] theorem charsOf_nil : charsOf [] = [] := rfl

@[simp] theorem charsOf_cons (b : UInt8) (bytes : List UInt8) :
    charsOf (b :: bytes) = charOf b :: charsOf bytes := rfl

@[simp] theorem charsOf_append (a b : List UInt8) : charsOf (a ++ b) = charsOf a ++ charsOf b :=
  List.map_append

theorem utf8EncodeChar_of_ascii {c : Char} (h : c.toNat < 0x80) :
    String.utf8EncodeChar c = [UInt8.ofNat c.toNat] := by
  have : c.val.toNat ≤ 0x7F := by have : c.toNat = c.val.toNat := rfl; omega
  simp only [String.utf8EncodeChar, this, if_true]
  rfl

/-- A character beyond ASCII has no byte below 0x80. -/
theorem le_of_mem_utf8EncodeChar {c : Char} (h : 0x80 ≤ c.toNat) {b : UInt8}
    (hb : b ∈ String.utf8EncodeChar c) : 0x80 ≤ b.toNat := by
  have valid : c.val.toNat < 0xD800 ∨ 0xDFFF < c.val.toNat ∧ c.val.toNat < 0x110000 := c.valid
  have : c.toNat = c.val.toNat := rfl
  unfold String.utf8EncodeChar at hb
  simp only at hb
  rw [if_neg (by omega)] at hb
  split at hb
  · simp only [List.mem_cons, List.not_mem_nil, or_false] at hb
    rcases hb with rfl | rfl <;> rw [toNat_ofNat_of_lt (by omega)] <;> omega
  split at hb
  · simp only [List.mem_cons, List.not_mem_nil, or_false] at hb
    rcases hb with rfl | rfl | rfl <;> rw [toNat_ofNat_of_lt (by omega)] <;> omega
  · simp only [List.mem_cons, List.not_mem_nil, or_false] at hb
    rcases hb with rfl | rfl | rfl | rfl <;> rw [toNat_ofNat_of_lt (by omega)] <;> omega

theorem charsOf_encode_cons {c : Char} (h : c.toNat < 0x80) (s : List Char) :
    charsOf (encode (c :: s)) = c :: charsOf (encode s) := by
  rw [encode_cons, utf8EncodeChar_of_ascii h, List.singleton_append, charsOf_cons]
  congr 1
  rw [charOf, toNat_ofNat_of_lt (by omega), Char.ofNat_toNat]

theorem charsOf_encode {s : List Char} (h : Ascii s) : charsOf (encode s) = s := by
  induction s with
  | nil => rfl
  | cons c s ih =>
    rw [charsOf_encode_cons (h c (by simp)), ih fun d hd => h d (by simp [hd])]

/-- Bytes below 0x80 are those of ASCII characters. -/
theorem ascii_of_ascii_charsOf_encode {s : List Char} (h : Ascii (charsOf (encode s))) :
    Ascii s := by
  intro c hc
  by_contra beyond
  obtain ⟨b, rest, e⟩ := List.exists_cons_of_ne_nil (String.utf8EncodeChar_ne_nil (c := c))
  have hb : b ∈ String.utf8EncodeChar c := by simp [e]
  have low := h (charOf b) (List.mem_map_of_mem (List.mem_flatMap.2 ⟨c, hc, hb⟩))
  rw [toNat_charOf] at low
  have := le_of_mem_utf8EncodeChar (by omega) hb
  omega

/-- Whether a text is in a language of ASCII texts shows in its bytes. -/
theorem charsOf_encode_iff {L : List Char → Prop} (ascii : ∀ s, L s → Ascii s) (s : List Char) :
    L (charsOf (encode s)) ↔ L s := by
  constructor
  · intro h
    rwa [charsOf_encode (ascii_of_ascii_charsOf_encode (ascii _ h))] at h
  · intro h
    rwa [charsOf_encode (ascii s h)]

/-- The byte of an ASCII character is in the bytes of no other character. -/
theorem ofNat_toNat_mem_utf8EncodeChar_iff {a : Char} (ha : a.toNat < 0x80) (c : Char) :
    UInt8.ofNat a.toNat ∈ String.utf8EncodeChar c ↔ c = a := by
  have number : (UInt8.ofNat a.toNat).toNat = a.toNat := toNat_ofNat_of_lt (by omega)
  constructor
  · intro h
    by_cases hc : c.toNat < 0x80
    · rw [utf8EncodeChar_of_ascii hc, List.mem_singleton] at h
      have same := congrArg UInt8.toNat h
      rw [number, toNat_ofNat_of_lt (by omega)] at same
      rw [← Char.ofNat_toNat c, ← same, Char.ofNat_toNat]
    · have := le_of_mem_utf8EncodeChar (by omega) h
      omega
  · rintro rfl
    rw [utf8EncodeChar_of_ascii ha]
    exact List.mem_cons_self

namespace Decoder

variable {d : Decoder} {byte : UInt8}

theorem step_ascii (hd : d.pending = none) (h : byte.toNat < 0x80) :
    d.step byte = .ok (d.push (Char.ofNat byte.toNat) 1) := by
  simp only [step, hd, h, if_true]

theorem step_opening {o : Opening} (hd : d.pending = none) (h : 0x80 ≤ byte.toNat)
    (ho : opening? byte.toNat = some o) : d.step byte = .ok { d with pending := some o } := by
  have : ¬ byte.toNat < 0x80 := by omega
  simp only [step, hd, this, if_false, ho]

theorem step_more {o : Opening} {more : Nat} (hd : d.pending = some o) (hm : o.more = more + 1)
    (low : o.low ≤ byte.toNat) (high : byte.toNat ≤ o.high) :
    d.step byte = .ok { d with
      pending := some ⟨o.value * 64 + (byte.toNat - 0x80), o.taken + 1, more, 0x80, 0xBF⟩ } := by
  simp only [step, hd, low, high, and_self, if_true, hm]

theorem step_last {o : Opening} (hd : d.pending = some o) (hm : o.more = 0)
    (low : o.low ≤ byte.toNat) (high : byte.toNat ≤ o.high) :
    d.step byte =
      .ok (d.push (Char.ofNat (o.value * 64 + (byte.toNat - 0x80))) (o.taken + 1)) := by
  simp only [step, hd, low, high, and_self, if_true, hm]

end Decoder

/-! ## What a first byte announces

Besides the leading bits of the code point, the bounds on the second byte: the byte that encoding
writes there is within them. -/

theorem opening_two {v : Nat} (h : 0x7F < v) (h' : v ≤ 0x7FF) :
    opening? (v / 64 % 32 + 0xC0) = some ⟨v / 64, 1, 0, 0x80, 0xBF⟩ := by
  unfold opening?
  rw [if_neg (by omega), if_pos (by omega)]
  simp only [Option.some.injEq, Opening.mk.injEq, and_self, and_true]
  omega

theorem opening_three {v : Nat} (h : 0x7FF < v) (h' : v ≤ 0xFFFF) (hs : v < 0xD800 ∨ 0xDFFF < v) :
    ∃ low high, opening? (v / 4096 % 16 + 0xE0) = some ⟨v / 4096, 1, 1, low, high⟩ ∧
      low ≤ v / 64 % 64 + 0x80 ∧ v / 64 % 64 + 0x80 ≤ high := by
  have value : v / 4096 % 16 = v / 4096 := by omega
  rw [value]
  unfold opening?
  rw [if_neg (by omega), if_neg (by omega)]
  split
  · -- 0xE0: a smaller second byte would spell a character of two bytes
    refine ⟨0xA0, 0xBF, ?_, by omega, by omega⟩
    rw [show v / 4096 = 0 by omega]
  split
  · -- 0xED: a greater second byte would spell a surrogate
    refine ⟨0x80, 0x9F, ?_, by omega, by omega⟩
    rw [show v / 4096 = 0xD by omega]
  rw [if_pos (by omega)]
  refine ⟨0x80, 0xBF, ?_, by omega, by omega⟩
  rw [show v / 4096 + 0xE0 - 0xE0 = v / 4096 by omega]

theorem opening_four {v : Nat} (h : 0xFFFF < v) (h' : v < 0x110000) :
    ∃ low high, opening? (v / 262144 % 8 + 0xF0) = some ⟨v / 262144, 1, 2, low, high⟩ ∧
      low ≤ v / 4096 % 64 + 0x80 ∧ v / 4096 % 64 + 0x80 ≤ high := by
  have value : v / 262144 % 8 = v / 262144 := by omega
  rw [value]
  unfold opening?
  rw [if_neg (by omega), if_neg (by omega), if_neg (by omega), if_neg (by omega),
    if_neg (by omega)]
  split
  · refine ⟨0x90, 0xBF, ?_, by omega, by omega⟩
    rw [show v / 262144 = 0 by omega]
  split
  · refine ⟨0x80, 0xBF, ?_, by omega, by omega⟩
    rw [show v / 262144 + 0xF0 - 0xF0 = v / 262144 by omega]
  rw [if_pos (by omega)]
  refine ⟨0x80, 0x8F, ?_, by omega, by omega⟩
  rw [show v / 262144 = 4 by omega]

/-! ## Reading back -/

theorem toNat_continuation (n : Nat) : (UInt8.ofNat (n % 64 + 0x80)).toNat = n % 64 + 0x80 :=
  toNat_ofNat_of_lt (by omega)

/-- The bytes of a character complete it. -/
theorem foldlM_step_utf8EncodeChar {d : Decoder} (hd : d.pending = none) (c : Char) :
    (String.utf8EncodeChar c).foldlM Decoder.step d =
      .ok (d.push c (String.utf8EncodeChar c).length) := by
  have valid : c.val.toNat < 0xD800 ∨ 0xDFFF < c.val.toNat ∧ c.val.toNat < 0x110000 := c.valid
  have same : Char.ofNat c.val.toNat = c := Char.ofNat_toNat c
  unfold String.utf8EncodeChar
  generalize c.val.toNat = v at valid same
  simp only
  split
  · -- one byte
    have first : (UInt8.ofNat v).toNat = v := toNat_ofNat_of_lt (by omega)
    rw [foldlM_cons_ok (Decoder.step_ascii hd (by omega)), first, same]
    rfl
  split
  · -- two bytes
    have first : (UInt8.ofNat (v / 64 % 32 + 0xC0)).toNat = v / 64 % 32 + 0xC0 :=
      toNat_ofNat_of_lt (by omega)
    have second := toNat_continuation v
    have opened := opening_two (v := v) (by omega) (by omega)
    rw [foldlM_cons_ok (Decoder.step_opening hd (by omega) (by rw [first]; exact opened)),
      foldlM_cons_ok (Decoder.step_last rfl rfl (by simp only; omega) (by simp only; omega)),
      second, show v / 64 * 64 + (v % 64 + 0x80 - 0x80) = v by omega, same]
    rfl
  split
  · -- three bytes
    have first : (UInt8.ofNat (v / 4096 % 16 + 0xE0)).toNat = v / 4096 % 16 + 0xE0 :=
      toNat_ofNat_of_lt (by omega)
    have second := toNat_continuation (v / 64)
    have third := toNat_continuation v
    obtain ⟨low, high, opened, hl, hh⟩ := opening_three (v := v) (by omega) (by omega) (by omega)
    rw [foldlM_cons_ok (Decoder.step_opening hd (by omega) (by rw [first]; exact opened)),
      foldlM_cons_ok (Decoder.step_more rfl rfl (by simp only; omega) (by simp only; omega)),
      foldlM_cons_ok (Decoder.step_last rfl rfl (by simp only; omega) (by simp only; omega)),
      second, third,
      show (v / 4096 * 64 + (v / 64 % 64 + 0x80 - 0x80)) * 64 + (v % 64 + 0x80 - 0x80) = v by omega,
      same]
    rfl
  · -- four bytes
    have first : (UInt8.ofNat (v / 262144 % 8 + 0xF0)).toNat = v / 262144 % 8 + 0xF0 :=
      toNat_ofNat_of_lt (by omega)
    have second := toNat_continuation (v / 4096)
    have third := toNat_continuation (v / 64)
    have fourth := toNat_continuation v
    obtain ⟨low, high, opened, hl, hh⟩ := opening_four (v := v) (by omega) (by omega)
    rw [foldlM_cons_ok (Decoder.step_opening hd (by omega) (by rw [first]; exact opened)),
      foldlM_cons_ok (Decoder.step_more rfl rfl (by simp only; omega) (by simp only; omega)),
      foldlM_cons_ok (Decoder.step_more rfl rfl (by simp only; omega) (by simp only; omega)),
      foldlM_cons_ok (Decoder.step_last rfl rfl (by simp only; omega) (by simp only; omega)),
      second, third, fourth,
      show ((v / 262144 * 64 + (v / 4096 % 64 + 0x80 - 0x80)) * 64 + (v / 64 % 64 + 0x80 - 0x80)) *
        64 + (v % 64 + 0x80 - 0x80) = v by omega, same]
    rfl

/-- The bytes of a text add its characters. -/
theorem foldlM_step_encode (s : List Char) {d : Decoder} (hd : d.pending = none) :
    (encode s).foldlM Decoder.step d =
      .ok ⟨s.reverse ++ d.read, d.index + (encode s).length, none⟩ := by
  induction s generalizing d with
  | nil => simp [encode, pure, Except.pure, ← hd]
  | cons c s ih =>
    rw [encode_cons, List.foldlM_append, foldlM_step_utf8EncodeChar hd]
    simp only [bind, Except.bind]
    rw [ih rfl]
    simp [Decoder.push, Nat.add_assoc]

/-- **Decoding reads back what encoding writes.** -/
theorem decode_encode (s : List Char) : decode (encode s) = .ok s := by
  unfold decode
  rw [foldlM_step_encode s rfl]
  simp [bind, Except.bind, Decoder.finish]

end AmountReport.Utf8
