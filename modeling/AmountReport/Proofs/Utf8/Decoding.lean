import AmountReport.Proofs.Utf8

/-!
# UTF-8: what decodes

Bytes decode to a text only if they are the bytes of that text (`decode_eq_ok_iff`). While the machine
is inside a character, the bytes of it that are read begin a character, and each byte that the bounds
let through completes it or leads to such a beginning again (`Begins`); that they do is settled with
the first byte (`begins_of_opening`).
-/

namespace AmountReport.Utf8

theorem encode_append (s t : List Char) : encode (s ++ t) = encode s ++ encode t :=
  List.flatMap_append

/-! ## The bytes of a character -/

section
variable {v : Nat}

theorem toNat_val_ofNat (h : v < 0xD800 ∨ 0xDFFF < v ∧ v < 0x110000) :
    (Char.ofNat v).val.toNat = v := by
  have valid : v.isValidChar := h
  rw [Char.ofNat, dif_pos valid]
  rfl

theorem utf8EncodeChar_two (h : 0x7F < v) (h' : v ≤ 0x7FF) :
    String.utf8EncodeChar (Char.ofNat v) =
      [UInt8.ofNat (v / 64 % 32 + 0xC0), UInt8.ofNat (v % 64 + 0x80)] := by
  unfold String.utf8EncodeChar
  rw [toNat_val_ofNat (by omega)]
  simp only
  rw [if_neg (by omega), if_pos h']

theorem utf8EncodeChar_three (h : 0x7FF < v) (h' : v ≤ 0xFFFF) (hs : v < 0xD800 ∨ 0xDFFF < v) :
    String.utf8EncodeChar (Char.ofNat v) =
      [UInt8.ofNat (v / 4096 % 16 + 0xE0), UInt8.ofNat (v / 64 % 64 + 0x80),
        UInt8.ofNat (v % 64 + 0x80)] := by
  unfold String.utf8EncodeChar
  rw [toNat_val_ofNat (by omega)]
  simp only
  rw [if_neg (by omega), if_neg (by omega), if_pos h']

theorem utf8EncodeChar_four (h : 0xFFFF < v) (h' : v < 0x110000) :
    String.utf8EncodeChar (Char.ofNat v) =
      [UInt8.ofNat (v / 262144 % 8 + 0xF0), UInt8.ofNat (v / 4096 % 64 + 0x80),
        UInt8.ofNat (v / 64 % 64 + 0x80), UInt8.ofNat (v % 64 + 0x80)] := by
  unfold String.utf8EncodeChar
  rw [toNat_val_ofNat (by omega)]
  simp only
  rw [if_neg (by omega), if_neg (by omega), if_neg (by omega)]

end

/-! ## Unfinished characters -/

/-- The bytes `start` begin a character with the bits `value`: a byte between `low` and `high` and as
many more as are said complete it. -/
def Begins (start : List UInt8) (value low high : Nat) : Nat → Prop
  | 0 => ∀ b : UInt8, low ≤ b.toNat → b.toNat ≤ high →
      String.utf8EncodeChar (Char.ofNat (value * 64 + (b.toNat - 0x80))) = start ++ [b]
  | more + 1 => ∀ b : UInt8, low ≤ b.toNat → b.toNat ≤ high →
      Begins (start ++ [b]) (value * 64 + (b.toNat - 0x80)) 0x80 0xBF more

/-- The number that a byte is computed as is that of the byte. -/
theorem ofNat_eq {n : Nat} {b : UInt8} (h : n = b.toNat) : UInt8.ofNat n = b := by
  rw [h, UInt8.ofNat_toNat]

section
variable {a : UInt8} {value low high : Nat}

theorem begins_two (ha : a.toNat = 0xC0 + value) (hv : 0x02 ≤ value) (hv' : value < 0x20) :
    Begins [a] value 0x80 0xBF 0 := by
  intro b hb hb'
  rw [utf8EncodeChar_two (by omega) (by omega), ofNat_eq (b := a) (by omega),
    ofNat_eq (b := b) (by omega)]
  rfl

/-- The bounds keep the code point in the range of three bytes and out of the surrogates. -/
theorem begins_three (ha : a.toNat = 0xE0 + value) (hv : value < 0x10) (hl : 0x80 ≤ low)
    (hh : high ≤ 0xBF) (least : value = 0 → 0xA0 ≤ low) (below : value = 0xD → high ≤ 0x9F) :
    Begins [a] value low high 1 := by
  intro b hb hb' c hc hc'
  rw [utf8EncodeChar_three (by omega) (by omega) (by omega), ofNat_eq (b := a) (by omega),
    ofNat_eq (b := b) (by omega), ofNat_eq (b := c) (by omega)]
  rfl

/-- The bounds keep the code point in the range of four bytes. -/
theorem begins_four (ha : a.toNat = 0xF0 + value) (hv : value ≤ 4) (hl : 0x80 ≤ low)
    (hh : high ≤ 0xBF) (least : value = 0 → 0x90 ≤ low) (greatest : value = 4 → high ≤ 0x8F) :
    Begins [a] value low high 2 := by
  intro b hb hb' c hc hc' d hd hd'
  rw [utf8EncodeChar_four (by omega) (by omega), ofNat_eq (b := a) (by omega),
    ofNat_eq (b := b) (by omega), ofNat_eq (b := c) (by omega), ofNat_eq (b := d) (by omega)]
  rfl

/-- A first byte of a longer character begins one. -/
theorem begins_of_opening {o : Opening} (h : opening? a.toNat = some o) :
    Begins [a] o.value o.low o.high o.more := by
  unfold opening? at h
  split at h
  · cases h
  split at h
  · obtain rfl := Option.some.inj h
    show Begins [a] (a.toNat - 0xC0) 0x80 0xBF 0
    apply begins_two <;> omega
  split at h
  · obtain rfl := Option.some.inj h
    show Begins [a] 0 0xA0 0xBF 1
    apply begins_three <;> omega
  split at h
  · obtain rfl := Option.some.inj h
    show Begins [a] 0xD 0x80 0x9F 1
    apply begins_three <;> omega
  split at h
  · obtain rfl := Option.some.inj h
    show Begins [a] (a.toNat - 0xE0) 0x80 0xBF 1
    apply begins_three <;> omega
  split at h
  · obtain rfl := Option.some.inj h
    show Begins [a] 0 0x90 0xBF 2
    apply begins_four <;> omega
  split at h
  · obtain rfl := Option.some.inj h
    show Begins [a] (a.toNat - 0xF0) 0x80 0xBF 2
    apply begins_four <;> omega
  split at h
  · obtain rfl := Option.some.inj h
    show Begins [a] 4 0x80 0x8F 2
    apply begins_four <;> omega
  · cases h

end

/-! ## What the machine has read -/

namespace Decoder

/-- The bytes taken so far are those of the characters read, and behind them the beginning of the
character that is unfinished. -/
def Spells (d : Decoder) (bytes : List UInt8) : Prop :=
  match d.pending with
  | none => bytes = encode d.read.reverse
  | some o => ∃ start, bytes = encode d.read.reverse ++ start ∧
      Begins start o.value o.low o.high o.more

variable {d e : Decoder} {bytes : List UInt8} {byte : UInt8}

/-- Between two characters. -/
theorem Spells.of_none (h : d.Spells bytes) (pending : d.pending = none) :
    bytes = encode d.read.reverse := by
  unfold Spells at h
  rwa [pending] at h

/-- Inside a character. -/
theorem Spells.of_some {o : Opening} (h : d.Spells bytes) (pending : d.pending = some o) :
    ∃ start, bytes = encode d.read.reverse ++ start ∧ Begins start o.value o.low o.high o.more := by
  unfold Spells at h
  rwa [pending] at h

theorem spells_push {c : Char} {size : Nat} {start : List UInt8}
    (h : bytes = encode d.read.reverse ++ start) (hc : String.utf8EncodeChar c = start ++ [byte]) :
    (d.push c size).Spells (bytes ++ [byte]) := by
  show bytes ++ [byte] = encode (c :: d.read).reverse
  rw [h, List.reverse_cons, encode_append, encode_cons, hc]
  simp [encode]

/-- What a byte does that is taken: it is a character, begins one, completes one or continues one. -/
theorem step_cases (ok : d.step byte = .ok e) :
    (d.pending = none ∧ byte.toNat < 0x80 ∧ e = d.push (Char.ofNat byte.toNat) 1) ∨
      (d.pending = none ∧ ∃ o, opening? byte.toNat = some o ∧ e = { d with pending := some o }) ∨
      ∃ o, d.pending = some o ∧ o.low ≤ byte.toNat ∧ byte.toNat ≤ o.high ∧
        (o.more = 0 ∧ e = d.push (Char.ofNat (o.value * 64 + (byte.toNat - 0x80))) (o.taken + 1) ∨
          ∃ more, o.more = more + 1 ∧ e = { d with
            pending := some ⟨o.value * 64 + (byte.toNat - 0x80), o.taken + 1, more, 0x80, 0xBF⟩ }) := by
  unfold Decoder.step at ok
  cases pending : d.pending with
  | none =>
    simp only [pending] at ok
    split at ok
    · rename_i low
      cases ok
      exact .inl ⟨rfl, low, rfl⟩
    · split at ok
      · cases ok
      · rename_i o opened
        cases ok
        exact .inr (.inl ⟨rfl, o, opened, rfl⟩)
  | some o =>
    simp only [pending] at ok
    split at ok
    · rename_i bounds
      refine .inr (.inr ⟨o, rfl, bounds.1, bounds.2, ?_⟩)
      split at ok
      · rename_i last
        cases ok
        exact .inl ⟨last, rfl⟩
      · rename_i more next
        cases ok
        exact .inr ⟨more, next, rfl⟩
    · cases ok

/-- One byte more. -/
theorem Spells.step (h : d.Spells bytes) (ok : d.step byte = .ok e) : e.Spells (bytes ++ [byte]) := by
  rcases step_cases ok with ⟨pending, low, rfl⟩ | ⟨pending, o, opened, rfl⟩ |
    ⟨o, pending, low, high, ⟨last, rfl⟩ | ⟨more, next, rfl⟩⟩
  · have whole := h.of_none pending
    have number : (Char.ofNat byte.toNat).toNat = byte.toNat := toNat_val_ofNat (by omega)
    rw [← List.append_nil (encode _)] at whole
    refine spells_push whole ?_
    rw [utf8EncodeChar_of_ascii (by omega), number, UInt8.ofNat_toNat]
    rfl
  · exact ⟨[byte], by rw [h.of_none pending], begins_of_opening opened⟩
  · obtain ⟨start, rfl, begins⟩ := h.of_some pending
    rw [last] at begins
    exact spells_push rfl (begins byte low high)
  · obtain ⟨start, rfl, begins⟩ := h.of_some pending
    rw [next] at begins
    exact ⟨start ++ [byte], List.append_assoc .., begins byte low high⟩

theorem Spells.foldlM {more : List UInt8} (h : d.Spells bytes)
    (ok : more.foldlM Decoder.step d = .ok e) : e.Spells (bytes ++ more) := by
  induction more generalizing d bytes with
  | nil =>
    cases ok
    rwa [List.append_nil]
  | cons b more ih =>
    cases step : d.step b with
    | error fault => rw [foldlM_cons_error step] at ok; cases ok
    | ok f =>
      rw [foldlM_cons_ok step] at ok
      rw [← List.singleton_append, ← List.append_assoc]
      exact ih (h.step step) ok

end Decoder

/-- **Exactly the bytes of a text decode to it.** -/
theorem decode_eq_ok_iff {bytes : List UInt8} {text : List Char} :
    decode bytes = .ok text ↔ bytes = encode text := by
  constructor
  · intro ok
    unfold decode at ok
    cases read : bytes.foldlM Decoder.step {} with
    | error fault => rw [read] at ok; cases ok
    | ok d =>
      have spells : d.Spells ([] ++ bytes) := Decoder.Spells.foldlM (d := {}) rfl read
      rw [read] at ok
      change d.finish = .ok text at ok
      unfold Decoder.finish at ok
      cases pending : d.pending with
      | none =>
        simp only [pending] at ok
        cases ok
        exact spells.of_none pending
      | some o =>
        simp only [pending] at ok
        cases ok
  · rintro rfl
    exact decode_encode text

theorem isValid_iff {bytes : List UInt8} : isValid bytes ↔ ∃ text, bytes = encode text := by
  unfold isValid
  cases read : decode bytes with
  | ok text => simpa using ⟨text, decode_eq_ok_iff.1 read⟩
  | error e =>
    simp only [Bool.false_eq_true, false_iff]
    rintro ⟨text, rfl⟩
    rw [decode_encode] at read
    cases read

end AmountReport.Utf8
