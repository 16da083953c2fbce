import AmountReport.Proofs.Stream.Pieces
import AmountReport.Proofs.Utf8.Decoding

/-!
# Input behind input

Reading a piece that ends with a line feed uses up no more than the piece, whatever comes behind
(`readPiece_append`). So input that ends with its last line feed can be followed by any other, with gaps
and faults: the pieces are those of the one and then those of the other (`cut_append`).
-/

namespace AmountReport.Source

/-- A source brings the bytes of a text, in refills none of which is empty and with no faults but
interruptions. -/
def Brings (source : Source) (text : List Char) : Prop :=
  source.Gapless ∧ source.arrivals = (Utf8.encode text).map .byte

instance (source : Source) (text : List Char) : Decidable (source.Brings text) :=
  inferInstanceAs (Decidable (_ ∧ _))

section
variable {a b rest : Source} {pending piece : List UInt8}

theorem arrivals_append (a b : Source) : arrivals (a ++ b) = arrivals a ++ arrivals b := by
  induction a with
  | nil => rfl
  | cons refill more ih =>
    match refill with
    | .data bytes => rw [List.cons_append, arrivals, arrivals, ih, List.append_assoc]
    | .fault fault =>
      rw [List.cons_append, arrivals, arrivals]
      split
      · exact ih
      · rw [ih, List.cons_append]

theorem Brings.append {s t : List Char} (ha : a.Brings s) (hb : b.Brings t) :
    Brings (a ++ b) (s ++ t) := by
  constructor
  · exact fun m => (List.mem_append.1 m).elim ha.1 hb.1
  · rw [arrivals_append, ha.2, hb.2, Utf8.encode_append, List.map_append]

theorem putBack_append (bytes : List UInt8) (a b : Source) :
    putBack bytes a ++ b = putBack bytes (a ++ b) := by
  unfold putBack
  split <;> rfl

/-- **A piece that ends with a line feed is read alike** if more comes behind. -/
theorem readPiece_append (unended : lineFeed ∉ pending)
    (read : a.readPiece pending = (.ok piece, rest)) (ended : piece.getLast? = some lineFeed)
    (b : Source) : readPiece pending (a ++ b) = (.ok piece, rest ++ b) := by
  fun_induction readPiece pending a with
  | case1 pending =>
    cases read
    exact absurd (List.mem_of_getLast? ended) unended
  | case2 pending fault more interrupted ih =>
    rw [List.cons_append, readPiece, if_pos interrupted]
    exact ih unended read
  | case3 => cases read
  | case4 pending more =>
    cases read
    exact absurd (List.mem_of_getLast? ended) unended
  | case5 pending byte bytes more line none ih =>
    rw [List.cons_append, readPiece]
    simp only [none]
    exact ih (lineFeed_not_mem_append_takeWhile unended _) read
  | case6 pending byte bytes more line delimiter left found =>
    rw [List.cons_append, readPiece]
    simp only [found]
    cases read
    rw [putBack_append]

/-- Interruptions are not noticed. -/
theorem readPiece_append_of_arrivals_eq_nil (gapless : a.Gapless) (none : a.arrivals = [])
    (pending : List UInt8) (b : Source) : readPiece pending (a ++ b) = readPiece pending b := by
  induction a with
  | nil => rfl
  | cons refill more ih =>
    match refill with
    | .data [] => exact absurd List.mem_cons_self gapless
    | .data (byte :: bytes) => cases none
    | .fault fault =>
      rw [arrivals] at none
      split at none
      · rename_i interrupted
        rw [List.cons_append, readPiece, if_pos interrupted, ih gapless.tail none]
      · cases none

/-- If there is nothing to read, nothing arrives. -/
theorem arrivals_eq_nil_of_readPiece (gapless : a.Gapless)
    (read : a.readPiece [] = (.ok [], rest)) : a.arrivals = [] := by
  have cut := cut_readPiece gapless []
  rw [read] at cut
  have readable : ∀ fault, .fault fault ∉ a.arrivals :=
    (Cut.fault_of_eq_none_iff [] _).1 (congrArg Cut.fault cut)
  have data := arrivals_eq_map_data readable
  rw [data, Cut.of_bytes, Text.glue_nil] at cut
  have none := congrArg (List.flatten ∘ Cut.pieces) cut
  rw [Function.comp_apply, Function.comp_apply, Text.flatten_pieces] at none
  rw [data, none]
  rfl

/-- What a reader gets follows from the next piece and what is left behind it. -/
theorem cut_congr (same : a.readPiece [] = b.readPiece []) : a.cut = b.cut := by
  rw [cut, cut, same]

/-- **Behind input that ends with a line feed** a reader gets the pieces of what follows as if that came
alone. -/
theorem cut_append (gapless : a.Gapless) (readable : a.cut.fault = none)
    (ended : ∀ piece ∈ a.cut.pieces, piece.getLast? = some lineFeed) (b : Source) :
    cut (a ++ b) = ⟨a.cut.pieces ++ b.cut.pieces, b.cut.fault⟩ := by
  fun_induction cut a with
  | case1 => cases readable
  | case2 a rest read =>
    have none := arrivals_eq_nil_of_readPiece gapless read
    rw [cut_congr (readPiece_append_of_arrivals_eq_nil gapless none [] b)]
    rfl
  | case3 a byte bytes rest read ih =>
    have next := cut_readPiece gapless []
    rw [read] at next
    obtain ⟨first, later⟩ := List.forall_mem_cons.1 ended
    rw [cut, readPiece_append List.not_mem_nil read first b]
    show (cut (rest ++ b)).cons _ = _
    rw [ih next.1 readable later]
    rfl

end

end AmountReport.Source
