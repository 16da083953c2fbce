/-!
# UTF-8

`encode` writes characters as bytes; `decode` reads them back and, where bytes are no UTF-8, says
where and why. Decoding is a fold of one octet machine over the bytes: between two bytes the machine
holds the characters read, the number of bytes they took, and the start of a character if one is
unfinished. So decoding two runs of bytes one after the other is decoding their concatenation, and
the offset in an error is the length of the longest well-formed beginning.

`decodeLossy` never fails: each longest run of bytes that begins a character but does not complete
it, and each byte that begins none, becomes one U+FFFD.
-/

namespace AmountReport.Utf8

/-- The bytes of a text. -/
def encode (text : List Char) : List UInt8 :=
  text.flatMap String.utf8EncodeChar

/-- The bytes of a text are those that its string holds. -/
theorem encode_toList (s : String) : encode s.toList = s.toUTF8.data.toList := by
  conv => rhs; rw [← String.ofList_toList (s := s)]
  rw [String.toUTF8_eq_toByteArray, String.toByteArray_ofList]
  simp only [encode, List.utf8Encode, List.data_toByteArray]

/-- Why bytes are no UTF-8. -/
inductive Error
  /-- The `length` bytes from `index` on cannot be continued to a character by the byte that
  follows, or begin none. -/
  | invalid (index length : Nat)
  /-- The input ends inside the character that begins at `index`. -/
  | incomplete (index : Nat)
  deriving DecidableEq, Repr

namespace Error

/-- How many bytes before the fault are well formed. -/
def index : Error → Nat
  | .invalid index _ => index
  | .incomplete index => index

def message : Error → String
  | .invalid index length =>
    "invalid utf-8 sequence of " ++ length.repr ++ " bytes from index " ++ index.repr
  | .incomplete index => "incomplete utf-8 byte sequence from index " ++ index.repr

end Error

/-- The beginning of a character: its first bytes are read, others have to follow. -/
structure Opening where
  /-- The bits of the code point read so far. -/
  value : Nat
  /-- How many bytes are read. -/
  taken : Nat
  /-- How many bytes have to follow the next one. -/
  more : Nat
  /-- The least next byte. -/
  low : Nat
  /-- The greatest next byte. -/
  high : Nat
  deriving DecidableEq, Repr

/-- What the first byte of a longer character settles. The bounds on the second byte keep out
spellings that are too long, surrogates, and code points above U+10FFFF. -/
def opening? (n : Nat) : Option Opening :=
  if n < 0xC2 then none
  else if n < 0xE0 then some ⟨n - 0xC0, 1, 0, 0x80, 0xBF⟩
  else if n = 0xE0 then some ⟨0, 1, 1, 0xA0, 0xBF⟩
  else if n = 0xED then some ⟨0xD, 1, 1, 0x80, 0x9F⟩
  else if n < 0xF0 then some ⟨n - 0xE0, 1, 1, 0x80, 0xBF⟩
  else if n = 0xF0 then some ⟨0, 1, 2, 0x90, 0xBF⟩
  else if n < 0xF4 then some ⟨n - 0xF0, 1, 2, 0x80, 0xBF⟩
  else if n = 0xF4 then some ⟨4, 1, 2, 0x80, 0x8F⟩
  else none

/-- What is known between two bytes. -/
structure Decoder where
  /-- The characters read, the latest first. -/
  read : List Char := []
  /-- The number of their bytes. -/
  index : Nat := 0
  /-- The character that is unfinished. -/
  pending : Option Opening := none

namespace Decoder

/-- A character of `size` bytes is complete. -/
def push (d : Decoder) (c : Char) (size : Nat) : Decoder :=
  ⟨c :: d.read, d.index + size, none⟩

/-- Takes one byte. -/
def step (d : Decoder) (byte : UInt8) : Except Error Decoder :=
  let n := byte.toNat
  match d.pending with
  | none =>
    if n < 0x80 then .ok (d.push (Char.ofNat n) 1)
    else match opening? n with
      | none => .error (.invalid d.index 1)
      | some o => .ok { d with pending := some o }
  | some o =>
    if o.low ≤ n ∧ n ≤ o.high then
      let value := o.value * 64 + (n - 0x80)
      match o.more with
      | 0 => .ok (d.push (Char.ofNat value) (o.taken + 1))
      | more + 1 => .ok { d with pending := some ⟨value, o.taken + 1, more, 0x80, 0xBF⟩ }
    else .error (.invalid d.index o.taken)

/-- The characters, once no byte is left. -/
def finish (d : Decoder) : Except Error (List Char) :=
  match d.pending with
  | none => .ok d.read.reverse
  | some _ => .error (.incomplete d.index)

/-- The character that stands for bytes which are no text. -/
def replacement : Char := '\ufffd'

/-- Takes one byte; what cannot be read becomes a replacement, after which the byte is tried
anew. -/
def stepLossy (d : Decoder) (byte : UInt8) : Decoder :=
  match d.step byte with
  | .ok d => d
  | .error _ =>
    let replaced := d.push replacement 1
    match d.pending with
    | none => replaced
    | some _ =>
      match replaced.step byte with
      | .ok d => d
      | .error _ => replaced.push replacement 1

/-- The characters, a replacement for an unfinished one at the end included. -/
def finishLossy (d : Decoder) : List Char :=
  match d.pending with
  | none => d.read.reverse
  | some _ => (d.push replacement 1).read.reverse

end Decoder

/-- The text of some bytes, or where they stop being one. -/
def decode (bytes : List UInt8) : Except Error (List Char) := do
  (← bytes.foldlM Decoder.step {}).finish

/-- A text for any bytes. -/
def decodeLossy (bytes : List UInt8) : List Char :=
  (bytes.foldl Decoder.stepLossy {}).finishLossy

/-- Whether bytes are the bytes of a text. -/
def isValid (bytes : List UInt8) : Bool :=
  match decode bytes with
  | .ok _ => true
  | .error _ => false

end AmountReport.Utf8
