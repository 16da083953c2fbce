import AmountReport.Utf8

/-!
# Amounts by one greedy scan

The same judgement as the pattern's, in one pass over the bytes of the text and without a choice to
undo: each rule takes as much as it can. A rule gets the bytes that are left and answers whether it
matched, with the bytes that are left then. Only a group of thousands may turn out to be too short
after its point was taken; it is then given back whole.

The rules are those of core/grammar, where a cursor (`Cursor`, 18) stands for the bytes left.
-/

namespace AmountReport.Amount.Scan

def isDigit (b : UInt8) : Bool := '0'.toUInt8 ≤ b && b ≤ '9'.toUInt8

/-- `is_nonzero_digit` (core/grammar, 68). -/
def isLeadDigit (b : UInt8) : Bool := '1'.toUInt8 ≤ b && b ≤ '9'.toUInt8

def isLetter (b : UInt8) : Bool :=
  ('A'.toUInt8 ≤ b && b ≤ 'Z'.toUInt8) || ('a'.toUInt8 ≤ b && b ≤ 'z'.toUInt8)

/-- Takes one byte that satisfies `p` (`eat_if`, 48). -/
def takeIf (p : UInt8 → Bool) : List UInt8 → Bool × List UInt8
  | [] => (false, [])
  | b :: rest => if p b then (true, rest) else (false, b :: rest)

/-- Takes one given character (`eat`, 39). -/
def take (c : Char) (bytes : List UInt8) : Bool × List UInt8 :=
  takeIf (· == c.toUInt8) bytes

/-- Takes at most `limit` bytes that satisfy `p` and counts them (`eat_while`, 59). -/
def takeUpTo (p : UInt8 → Bool) : (limit : Nat) → List UInt8 → Nat × List UInt8
  | 0, bytes => (0, bytes)
  | _ + 1, [] => (0, [])
  | limit + 1, b :: rest =>
    if p b then
      let (taken, left) := takeUpTo p limit rest
      (taken + 1, left)
    else (0, b :: rest)

/-- Passes a currency symbol, if there is one (`skip_symbol`, core/grammar 73-80). -/
def skipSymbol (bytes : List UInt8) : List UInt8 :=
  match take '$' bytes with
  | (true, rest) => rest
  | (false, _) =>
    if (bytes.takeWhile isLetter).isEmpty then bytes
    else (take '$' (bytes.dropWhile isLetter)).2

/-- Takes a point and three digits, or nothing: one round of the loop in `integer_part` (core/grammar
95-101). -/
def group (bytes : List UInt8) : Bool × List UInt8 :=
  match take '.' bytes with
  | (false, _) => (false, bytes)
  | (true, rest) =>
    match takeUpTo isDigit 3 rest with
    | (3, left) => (true, left)
    | _ => (false, bytes)

theorem length_takeUpTo (p : UInt8 → Bool) (limit : Nat) (bytes : List UInt8) :
    (takeUpTo p limit bytes).1 + (takeUpTo p limit bytes).2.length = bytes.length := by
  fun_induction takeUpTo p limit bytes with
  | case1 => simp
  | case2 => rfl
  | case3 limit b rest _ taken left e ih =>
    rw [e] at ih
    simp only [List.length_cons] at ih ⊢
    omega
  | case4 => simp

theorem length_takeIf {p : UInt8 → Bool} {bytes rest : List UInt8}
    (h : takeIf p bytes = (true, rest)) : bytes.length = rest.length + 1 := by
  unfold takeIf at h
  split at h
  · simp at h
  · split at h <;> simp_all

theorem length_group {bytes rest : List UInt8} (h : group bytes = (true, rest)) :
    rest.length < bytes.length := by
  unfold group at h
  split at h
  · simp at h
  · rename_i left point
    have taken := length_takeUpTo isDigit 3 left
    have := length_takeIf point
    split at h
    · rename_i digits
      rw [digits] at taken
      simp only [Prod.mk.injEq, true_and] at h
      subst h
      simp only at taken
      omega
    · simp at h

/-- Takes groups while there is one: the loop in `integer_part`. -/
def groups (bytes : List UInt8) : List UInt8 :=
  match _found : group bytes with
  | (true, rest) => groups rest
  | (false, _) => bytes
termination_by bytes.length
decreasing_by exact length_group _found

/-- Takes the longest integer (`integer_part`, core/grammar 82-102). Groups may follow one or two
digits, not three. -/
def integer (bytes : List UInt8) : Bool × List UInt8 :=
  match take '0' bytes with
  | (true, rest) => (true, rest)
  | (false, _) =>
    match takeIf isLeadDigit bytes with
    | (false, _) => (false, bytes)
    | (true, rest) =>
      match takeUpTo isDigit 2 rest with
      | (2, left) => (true, left)
      | (_, left) => (true, groups left)

/-- Takes an integer, a comma and the decimals (`plain_amount`, core/grammar 104-106). -/
def plain (bytes : List UInt8) : Bool × List UInt8 :=
  match integer bytes with
  | (false, rest) => (false, rest)
  | (true, rest) =>
    match take ',' rest with
    | (false, rest) => (false, rest)
    | (true, rest) =>
      (2 ≤ (rest.takeWhile isDigit).length, rest.dropWhile isDigit)

/-- Takes an amount with its sign (`amount`, core/grammar 108-116). -/
def signed (bytes : List UInt8) : Bool × List UInt8 :=
  match take '-' bytes with
  | (true, rest) => plain rest
  | (false, _) =>
    match take '(' bytes with
    | (true, rest) =>
      match plain rest with
      | (true, rest) => take ')' rest
      | (false, rest) => (false, rest)
    | (false, _) => plain bytes

/-- Whether the bytes are an amount to their end (`matches_grammar`, core/grammar 119-123). -/
def acceptsBytes (bytes : List UInt8) : Bool :=
  match signed (skipSymbol bytes) with
  | (matched, rest) => matched && rest.isEmpty

/-- Whether a text, taken whole, is an amount. -/
def accepts (text : String) : Bool := acceptsBytes (Utf8.encode text.toList)

end AmountReport.Amount.Scan
