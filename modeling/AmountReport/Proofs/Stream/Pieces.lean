import AmountReport.Proofs.Text.Lines
import AmountReport.Proofs.Utf8
import AmountReport.Stream.Source
import Mathlib.Data.List.TakeWhile

/-!
# Input without its refills

How input is spread over refills does not show in what a reader meets, one byte or fault after the
other (`Source.arrivals`): an interruption is not met at all. Cutting that sequence behind each line
feed gives the pieces of the input (`Cut.of`), and a reader that is asked for one piece after the
other gets just those (`cut_readPiece`). The exception are refills without bytes, which end a piece;
sources without such are called gapless.
-/

namespace AmountReport

/-- What a reader meets next. -/
inductive Arrival
  | byte (b : UInt8)
  | fault (fault : Fault)
  deriving DecidableEq, Repr

namespace Source

/-- No refill is without bytes. -/
def Gapless (source : Source) : Prop := Refill.data [] ∉ source

instance (source : Source) : Decidable source.Gapless := inferInstanceAs (Decidable (_ ∉ _))

/-- The bytes and faults of a source, in order. -/
def arrivals : Source → List Arrival
  | [] => []
  | .data bytes :: more => bytes.map .byte ++ arrivals more
  | .fault fault :: more =>
    if fault.kind = .interrupted then arrivals more else .fault fault :: arrivals more

/-- The same input in as few refills as possible: no interruptions, and what can be one refill is. -/
def settled : Source → Source
  | [] => []
  | .data bytes :: more =>
    match settled more with
    | .data next :: rest => .data (bytes ++ next) :: rest
    | rest => .data bytes :: rest
  | .fault fault :: more =>
    if fault.kind = .interrupted then settled more else .fault fault :: settled more

/-- The bytes of all refills. -/
def data : Source → List UInt8
  | [] => []
  | .data bytes :: more => bytes ++ data more
  | .fault _ :: more => data more

theorem Gapless.tail {refill : Refill} {more : Source} (h : Gapless (refill :: more)) :
    Gapless more :=
  fun hm => h (List.mem_cons_of_mem _ hm)

theorem Gapless.putBack {bytes : List UInt8} {more : Source} (h : Gapless more) :
    Gapless (putBack bytes more) := by
  unfold Source.putBack
  split
  · exact h
  · rename_i ne
    intro hm
    rcases List.mem_cons.1 hm with e | hm
    · rw [Refill.data.inj e.symm] at ne
      exact ne rfl
    · exact h hm

theorem arrivals_putBack (bytes : List UInt8) (more : Source) :
    (putBack bytes more).arrivals = bytes.map .byte ++ arrivals more := by
  unfold putBack
  split
  · rename_i none
    rw [List.isEmpty_iff.1 none]
    rfl
  · rfl

/-- Settling is not noticed. -/
theorem arrivals_settled (source : Source) : source.settled.arrivals = source.arrivals := by
  induction source with
  | nil => rfl
  | cons refill more ih =>
    match refill with
    | .fault fault =>
      simp only [settled, arrivals]
      split
      · exact ih
      · simp only [arrivals, ih]
        rename_i hard
        rw [if_neg hard]
    | .data bytes =>
      simp only [settled, arrivals, ← ih]
      split
      · rename_i next rest e
        simp only [e, arrivals, List.map_append, List.append_assoc]
      · rfl

theorem mem_arrivals_iff {source : Source} {fault : Fault} :
    .fault fault ∈ source.arrivals ↔ .fault fault ∈ source ∧ fault.kind ≠ .interrupted := by
  induction source with
  | nil => simp [arrivals]
  | cons refill more ih =>
    match refill with
    | .data bytes => simp [arrivals, ih]
    | .fault other =>
      simp only [arrivals]
      split
      · rename_i interrupted
        rw [ih, List.mem_cons]
        constructor
        · exact fun h => ⟨.inr h.1, h.2⟩
        · rintro ⟨same | h, hard⟩
          · rw [Refill.fault.inj same] at hard
            exact absurd interrupted hard
          · exact ⟨h, hard⟩
      · rename_i hard
        rw [List.mem_cons, List.mem_cons, ih, Arrival.fault.injEq, Refill.fault.injEq]
        constructor
        · rintro (rfl | h)
          · exact ⟨.inl rfl, hard⟩
          · exact ⟨.inr h.1, h.2⟩
        · rintro ⟨rfl | h, hf⟩
          · exact .inl rfl
          · exact .inr ⟨h, hf⟩

/-- Without faults but interruptions, what arrives is the data. -/
theorem arrivals_eq_map_data {source : Source} (h : ∀ fault, .fault fault ∉ source.arrivals) :
    source.arrivals = source.data.map .byte := by
  induction source with
  | nil => rfl
  | cons refill more ih =>
    match refill with
    | .data bytes =>
      have later := ih fun fault hf => h fault (List.mem_append_right _ hf)
      rw [arrivals, data, List.map_append, later]
    | .fault fault =>
      rw [arrivals] at h ⊢
      split at h
      · rename_i interrupted
        rw [if_pos interrupted, data, ih h]
      · exact absurd List.mem_cons_self (h fault)

/-- A source brings `bytes` and no fault but interruptions: all at once, or in refills none of which
is empty. -/
def Delivers (source : Source) (bytes : List UInt8) : Prop :=
  source = .ofBytes bytes ∨ source.Gapless ∧ source.arrivals = bytes.map .byte

end Source

/-! ## Pieces -/

/-- Input cut into pieces. -/
structure Cut where
  /-- The pieces before the end of the input or the first fault. -/
  pieces : List (List UInt8)
  /-- The fault, if there is one. -/
  fault : Option Fault
  deriving DecidableEq, Repr

namespace Cut

/-- One piece more in front. -/
def cons (piece : List UInt8) (cut : Cut) : Cut := { cut with pieces := piece :: cut.pieces }

/-- Cuts behind each line feed; `pending` is what a piece has already. A fault loses what its piece
has, the end of the input makes it a piece. -/
def of (pending : List UInt8) : List Arrival → Cut
  | [] => ⟨if pending = [] then [] else [pending], none⟩
  | .fault fault :: _ => ⟨[], some fault⟩
  | .byte b :: more =>
    if b = lineFeed then (Cut.of [] more).cons (pending ++ [b]) else Cut.of (pending ++ [b]) more

theorem fault_of_eq_none_iff (pending : List UInt8) (arrivals : List Arrival) :
    (Cut.of pending arrivals).fault = none ↔ ∀ fault, .fault fault ∉ arrivals := by
  induction arrivals generalizing pending with
  | nil => simp [Cut.of]
  | cons arrival more ih =>
    match arrival with
    | .fault fault => exact iff_of_false nofun fun h => h fault List.mem_cons_self
    | .byte b =>
      rw [Cut.of]
      split <;> simp [cons, ih]

/-- Bytes without a line feed only make the piece longer. -/
theorem of_run {bytes : List UInt8} (h : ∀ b ∈ bytes, b ≠ lineFeed) (pending : List UInt8)
    (more : List Arrival) :
    Cut.of pending (bytes.map .byte ++ more) = Cut.of (pending ++ bytes) more := by
  induction bytes generalizing pending with
  | nil => simp
  | cons b bytes ih =>
    have hb : b ≠ lineFeed := h b (by simp)
    rw [List.map_cons, List.cons_append, Cut.of, if_neg hb, ih fun x hx => h x (by simp [hx]),
      List.append_assoc, List.singleton_append]

/-- A line feed ends the piece. -/
theorem of_line {bytes : List UInt8} (h : ∀ b ∈ bytes, b ≠ lineFeed) (pending : List UInt8)
    (more : List Arrival) :
    Cut.of pending (bytes.map .byte ++ .byte lineFeed :: more) =
      (Cut.of [] more).cons (pending ++ (bytes ++ [lineFeed])) := by
  rw [of_run h, Cut.of, if_pos rfl, List.append_assoc]

/-- Without faults the cut is that of the bytes. -/
theorem of_bytes (pending bytes : List UInt8) :
    Cut.of pending (bytes.map .byte) = ⟨Text.glue pending (Text.pieces lineFeed bytes), none⟩ := by
  induction bytes generalizing pending with
  | nil => rfl
  | cons b bytes ih =>
    rw [List.map_cons, Cut.of, Text.pieces]
    split
    · rw [ih, Text.glue_nil]
      rfl
    · rw [ih, Text.glue_glue]

end Cut

/-- The pieces of the bytes of a text are the bytes of its pieces. -/
theorem pieces_encode (text : List Char) :
    Text.pieces lineFeed (Utf8.encode text) = (Text.pieces '\n' text).map Utf8.encode := by
  induction text with
  | nil => rfl
  | cons c text ih =>
    rw [Utf8.encode_cons]
    by_cases h : c = '\n'
    · subst h
      rw [Utf8.utf8EncodeChar_of_ascii (by decide), Text.pieces, if_pos rfl, List.map_cons, ← ih]
      rfl
    · have inside : lineFeed ∉ String.utf8EncodeChar c :=
        mt (Utf8.ofNat_toNat_mem_utf8EncodeChar_iff (a := '\n') (by decide) c).1 h
      rw [Text.pieces_append inside, ih, Text.pieces_cons_of_ne h]
      cases Text.pieces '\n' text with
      | nil => simp [Text.glue, Utf8.encode]
      | cons piece more => simp [Text.glue, Utf8.encode]

/-! ## What a reader gets -/

theorem lineFeed_not_mem_takeWhile (bytes : List UInt8) :
    lineFeed ∉ bytes.takeWhile (· != lineFeed) :=
  fun m => by simpa using List.mem_takeWhile_imp m

theorem takeWhile_of_dropWhile_eq_nil {bytes : List UInt8}
    (none : bytes.dropWhile (· != lineFeed) = []) : bytes.takeWhile (· != lineFeed) = bytes := by
  rw [← List.append_nil (bytes.takeWhile _), ← none, List.takeWhile_append_dropWhile]

/-- What stops a run without a line feed is a line feed. -/
theorem eq_takeWhile_append_of_dropWhile_eq_cons {bytes rest : List UInt8} {delimiter : UInt8}
    (found : bytes.dropWhile (· != lineFeed) = delimiter :: rest) :
    delimiter = lineFeed ∧ bytes = bytes.takeWhile (· != lineFeed) ++ lineFeed :: rest := by
  have stop := List.head?_dropWhile_not (· != lineFeed) bytes
  rw [found] at stop
  obtain rfl : delimiter = lineFeed := by simpa using stop
  exact ⟨rfl, by rw [← found, List.takeWhile_append_dropWhile]⟩

/-- **A reader gets the pieces of the input**, whatever the refills are: the first fault, the end of
the input if nothing is left, or the first piece, and behind it the pieces of the rest. -/
theorem cut_readPiece {source : Source} (gapless : source.Gapless) (pending : List UInt8) :
    match source.readPiece pending with
    | (.error fault, _) => Cut.of pending source.arrivals = ⟨[], some fault⟩
    | (.ok [], _) => Cut.of pending source.arrivals = ⟨[], none⟩
    | (.ok (b :: bytes), rest) => rest.Gapless ∧
        Cut.of pending source.arrivals = (Cut.of [] rest.arrivals).cons (b :: bytes) := by
  fun_induction Source.readPiece pending source with
  | case1 pending => cases pending <;> simp [Source.arrivals, Cut.of, Cut.cons, Source.Gapless]
  | case2 pending fault more interrupted ih =>
    rw [Source.arrivals, if_pos interrupted]
    exact ih gapless.tail
  | case3 pending fault more hard =>
    rw [Source.arrivals, if_neg hard]
    rfl
  | case4 => exact absurd (List.mem_cons_self ..) gapless
  | case5 pending b bytes more line none ih =>
    have whole := takeWhile_of_dropWhile_eq_nil none
    have inside : ∀ x ∈ b :: bytes, x ≠ lineFeed := by
      rintro x hx rfl
      exact lineFeed_not_mem_takeWhile _ (whole.symm ▸ hx)
    rw [Source.arrivals, Cut.of_run inside, ← whole]
    exact ih gapless.tail
  | case6 pending b bytes more line delimiter rest found =>
    obtain ⟨rfl, ended⟩ := eq_takeWhile_append_of_dropWhile_eq_cons found
    have inside : ∀ x ∈ (b :: bytes).takeWhile (· != lineFeed), x ≠ lineFeed := by
      rintro x hx rfl
      exact lineFeed_not_mem_takeWhile _ hx
    have split : (b :: bytes).map Arrival.byte ++ Source.arrivals more =
        ((b :: bytes).takeWhile (· != lineFeed)).map .byte ++
          .byte lineFeed :: (Source.putBack rest more).arrivals := by
      conv_lhs => rw [ended]
      simp [Source.arrivals_putBack]
    obtain ⟨c, piece, e⟩ :=
      List.exists_cons_of_ne_nil (l := line ++ [lineFeed]) (by simp)
    rw [Source.arrivals, split, Cut.of_line inside, ← List.append_assoc, e]
    exact ⟨gapless.tail.putBack, rfl⟩

/-- What a piece has up to a line feed has none. -/
theorem lineFeed_not_mem_append_takeWhile {pending : List UInt8} (unended : lineFeed ∉ pending)
    (bytes : List UInt8) : lineFeed ∉ pending ++ bytes.takeWhile (· != lineFeed) := by
  intro m
  rcases List.mem_append.1 m with m | m
  · exact unended m
  · exact lineFeed_not_mem_takeWhile _ m

/-- A line feed can only be the last byte of a piece. -/
theorem lineFeed_not_mem_readPiece {source rest : Source} {pending piece : List UInt8}
    (unended : lineFeed ∉ pending) (h : source.readPiece pending = (.ok piece, rest)) :
    lineFeed ∉ piece.dropLast := by
  have kept {bytes : List UInt8} (h : lineFeed ∉ bytes) : lineFeed ∉ bytes.dropLast :=
    fun m => h (List.dropLast_subset _ m)
  fun_induction Source.readPiece pending source with
  | case1 pending => cases h; exact kept unended
  | case2 pending fault more interrupted ih => exact ih unended h
  | case3 => cases h
  | case4 pending more => cases h; exact kept unended
  | case5 pending b bytes more line none ih =>
    exact ih (lineFeed_not_mem_append_takeWhile unended _) h
  | case6 pending b bytes more line delimiter rest found =>
    cases h
    rw [List.dropLast_concat]
    exact lineFeed_not_mem_append_takeWhile unended _

namespace Source

/-- What a reader gets that asks for one piece after the other, up to a fault or to an empty piece. -/
def cut (source : Source) : Cut :=
  match _read : source.readPiece [] with
  | (.error fault, _) => ⟨[], some fault⟩
  | (.ok [], _) => ⟨[], none⟩
  | (.ok (b :: bytes), rest) => (cut rest).cons (b :: bytes)
termination_by source.size
decreasing_by exact Source.size_lt_of_readPiece _read

theorem lineFeed_not_mem_cut (source : Source) :
    ∀ piece ∈ source.cut.pieces, lineFeed ∉ piece.dropLast := by
  fun_induction cut source with
  | case1 => exact fun _ h => absurd h List.not_mem_nil
  | case2 => exact fun _ h => absurd h List.not_mem_nil
  | case3 source b bytes rest read ih =>
    intro piece h
    rcases List.mem_cons.1 h with rfl | h
    · exact lineFeed_not_mem_readPiece List.not_mem_nil read
    · exact ih piece h

/-- Without empty refills that is the input cut behind each line feed. -/
theorem cut_of_gapless {source : Source} (gapless : source.Gapless) :
    source.cut = Cut.of [] source.arrivals := by
  have next := cut_readPiece gapless []
  fun_induction cut source with
  | case1 source fault rest read =>
    rw [read] at next
    exact next.symm
  | case2 source rest read =>
    rw [read] at next
    exact next.symm
  | case3 source b bytes rest read ih =>
    rw [read] at next
    rw [next.2, ih next.1 (cut_readPiece next.1 [])]

/-- Without faults but interruptions it is the bytes cut so. -/
theorem cut_of_arrivals {source : Source} {bytes : List UInt8} (gapless : source.Gapless)
    (arrives : source.arrivals = bytes.map .byte) :
    source.cut = ⟨Text.pieces lineFeed bytes, none⟩ := by
  rw [cut_of_gapless gapless, arrives, Cut.of_bytes, Text.glue_nil]

/-- The one empty refill of no bytes ends the input, as having no refill does. -/
theorem cut_of_delivers {source : Source} {bytes : List UInt8} (h : source.Delivers bytes) :
    source.cut = Cut.of [] (bytes.map .byte) := by
  rcases h with rfl | ⟨gapless, same⟩
  · by_cases none : bytes = []
    · subst none
      rw [cut]
      rfl
    · have gapless : Source.Gapless (.ofBytes bytes) := by
        simpa [Source.Gapless, Source.ofBytes] using Ne.symm none
      rw [cut_of_gapless gapless, Source.ofBytes, Source.arrivals, Source.arrivals, List.append_nil]
  · rw [cut_of_gapless gapless, same]

end Source

end AmountReport
