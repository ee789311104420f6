import ClosureWrap.Locus
import ClosureWrap.Proofs.Text.Lines
import ClosureWrap.Proofs.Text.Numerals
import Mathlib.Data.List.Basic

/-!
# Written places

A place is written as `N`, as `N..M` or as `LINE:COL`, and read against a text. Whatever is written,
an accepted place lies in the text. A line and a column are accepted exactly if there is an offset
in that line and column, and then they mean this offset.

Writing the line and column of an offset and reading them back gives the offset again, and a line
and a column that were read are written in the same way again. An offset inside a character can be
read but not written, so it has to be left out. There is one more exception. Lines and columns have
32 bits, and in the longest text that has an index of its lines the column of the end may be the
largest number there is, so that it cannot be counted from one. The same goes for the line, if the
text consists of newlines.

Lines are counted in 32 bits and offsets in 64. For a text of fewer than `lineLimit` bytes this is
no restriction for reading: the text has an index, no line number is too large, and no sum or
difference on the way to an offset leaves the addresses. That is said by `offsetOfLineCol?`, in
which every step is checked.

## Main definitions

* `Locus.AsksForLine` — what is written is looked up in an index of the lines
* `Locus.InText` — a place lies in a text
* `Locus.offsetOfLineCol?` — the offset of a line and a column, with every step checked

## Main results

* `Locus.parse_eq_error_iff` — what cannot be read at all
* `Locus.inText_of_parse` — an accepted place lies in the text
* `Locus.offsetOfLineCol_eq_ok_iff` — the lines and columns that are accepted
* `Locus.offsetOfLineCol?_eq` — no check fails
* `Locus.accepted_iff_in_text` — these together, for what is written
* `Locus.parse_inverse_written` — writing and reading are inverse, except at the end of one text
-/

namespace ClosureWrap

namespace Locus

open Text

/-! ### Reading the parts -/

/-- A computation in two steps succeeds if both of them do. -/
theorem bind_eq_ok_iff {ε α β : Type} {x : Except ε α} {f : α → Except ε β} {b : β} :
    (x >>= f) = .ok b ↔ ∃ a, x = .ok a ∧ f a = .ok b := by
  cases x <;> simp [bind, Except.bind]

theorem pure_eq_ok_iff {ε α : Type} {a b : α} : (pure a : Except ε α) = .ok b ↔ a = b := by
  simp [pure, Except.pure]

/-- A computation that is refused under a condition succeeds only where the condition fails. -/
theorem refused_eq_ok_iff {ε α : Type} {p : Prop} [Decidable p] {e : ε} {x : Except ε α} {b : α} :
    (if p then .error e else x) = .ok b ↔ ¬p ∧ x = .ok b := by
  by_cases h : p <;> simp [h]

theorem guarded_eq_ok_iff {ε α : Type} {p : Prop} [Decidable p] {e : ε} {f : PUnit → Except ε α}
    {b : α} : (if p then throw e >>= f else f ⟨⟩) = .ok b ↔ ¬p ∧ f ⟨⟩ = .ok b :=
  refused_eq_ok_iff

section Run

variable {φ ε α β : Type} {x : ExceptT ε (Except φ) α} {f : α → ExceptT ε (Except φ) β}

theorem run_liftM (e : Except ε α) : (liftM e : ExceptT ε (Except φ) α).run = .ok e := rfl

theorem run_pure (a : α) : (pure a : ExceptT ε (Except φ) α).run = .ok (.ok a) := rfl

theorem run_bind_eq_ok_iff {b : β} :
    (x >>= f).run = .ok (.ok b) ↔ ∃ a, x.run = .ok (.ok a) ∧ (f a).run = .ok (.ok b) := by
  rw [ExceptT.run_bind]
  rcases x.run with _ | _ | _ <;> simp [bind, Except.bind, pure, Except.pure]

/-- A computation in two steps faults if one of them does. -/
theorem run_bind_eq_error_iff {fault : φ} :
    (x >>= f).run = .error fault ↔
      x.run = .error fault ∨ ∃ a, x.run = .ok (.ok a) ∧ (f a).run = .error fault := by
  rw [ExceptT.run_bind]
  rcases x.run with _ | _ | _ <;> simp [bind, Except.bind, pure, Except.pure]

theorem run_refused {p : Prop} [Decidable p] {e : ε} :
    (if p then throw e else x).run = if p then .ok (.error e) else x.run := by
  split <;> rfl

theorem run_refused_eq_ok_iff {p : Prop} [Decidable p] {e : ε} {a : α} :
    (if p then throw e else x).run = .ok (.ok a) ↔ ¬p ∧ x.run = .ok (.ok a) := by
  rw [run_refused]
  by_cases h : p <;> simp [h]

theorem run_refused_eq_error_iff {p : Prop} [Decidable p] {e : ε} {fault : φ} :
    (if p then throw e else x).run = .error fault ↔ ¬p ∧ x.run = .error fault := by
  rw [run_refused]
  by_cases h : p <;> simp [h]

theorem run_guarded_eq_ok_iff {p : Prop} [Decidable p] {e : ε} {f : PUnit → ExceptT ε (Except φ) α}
    {a : α} :
    (if p then throw e >>= f else f ⟨⟩).run = .ok (.ok a) ↔ ¬p ∧ (f ⟨⟩).run = .ok (.ok a) :=
  run_refused_eq_ok_iff

theorem run_guarded_eq_error_iff {p : Prop} [Decidable p] {e : ε}
    {f : PUnit → ExceptT ε (Except φ) α} {fault : φ} :
    (if p then throw e >>= f else f ⟨⟩).run = .error fault ↔ ¬p ∧ (f ⟨⟩).run = .error fault :=
  run_refused_eq_error_iff

end Run

theorem parse_eq_ok_iff {text input : String} {locus : Locus} :
    parse text input = .ok (.ok locus) ↔
      (readTrimmed text (trim input.toList)).run = .ok (.ok locus) := by
  rw [parse]
  rcases (readTrimmed text (trim input.toList)).run with _ | _ | _ <;>
    simp [Except.map, Except.mapError]

/-- A written number is read back if it is an address. -/
theorem readNumber_toDigits {n m : Nat} :
    readNumber (Nat.toDigits 10 n) = .ok m ↔ n < addressLimit ∧ n = m := by
  have htrim : trim (Nat.toDigits 10 n) = Nat.toDigits 10 n :=
    trim_of_notBlank fun c hc => isBlank_of_isDigit (isDigit_of_mem_toDigits hc)
  rw [readNumber, htrim, numeral?_toDigits]
  by_cases h : n < addressLimit
  · simp [h]
  · simp [h]

theorem readOffset_eq_ok_iff {text : String} {part : List Char} {offset : Nat} :
    readOffset text part = .ok offset ↔
      readNumber part = .ok offset ∧ offset ≤ byteLength text := by
  simp only [readOffset, bind_eq_ok_iff, guarded_eq_ok_iff, pure_eq_ok_iff, Nat.not_lt, gt_iff_lt]
  constructor
  · rintro ⟨n, hn, hle, rfl⟩
    exact ⟨hn, hle⟩
  · rintro ⟨hn, hle⟩
    exact ⟨offset, hn, hle, rfl⟩

section Trimmed

variable {text : String} {input first second : List Char} {locus : Locus}

/-- What is read as a range: two offsets of the text, in order. -/
theorem readTrimmed_range (h : splitOnce? ['.', '.'] input = some (first, second)) :
    (readTrimmed text input).run = .ok (.ok locus) ↔ ∃ pos stop, readOffset text first = .ok pos ∧
      readOffset text second = .ok stop ∧ pos ≤ stop ∧ .range pos stop = locus := by
  simp only [readTrimmed, h, run_bind_eq_ok_iff, run_guarded_eq_ok_iff, run_liftM, run_pure,
    Except.ok.injEq, Nat.not_lt, exists_and_left]

/-- What is read as a line and a column: two numbers, and the offset that they mean. -/
theorem readTrimmed_lineCol (hdots : splitOnce? ['.', '.'] input = none)
    (hcolon : splitOnce? [':'] input = some (first, second)) :
    (readTrimmed text input).run = .ok (.ok locus) ↔
      ∃ line column offset, readNumber first = .ok line ∧ readNumber second = .ok column ∧
        (offsetOfLineCol text line column).run = .ok (.ok offset) ∧ .point offset = locus := by
  simp only [readTrimmed, hdots, hcolon, run_bind_eq_ok_iff, run_liftM, run_pure, Except.ok.injEq,
    exists_and_left]

/-- What is read as an offset. -/
theorem readTrimmed_offset (hdots : splitOnce? ['.', '.'] input = none)
    (hcolon : splitOnce? [':'] input = none) :
    (readTrimmed text input).run = .ok (.ok locus) ↔
      ∃ offset, readOffset text input = .ok offset ∧ .point offset = locus := by
  simp only [readTrimmed, hdots, hcolon, run_bind_eq_ok_iff, run_liftM, run_pure, Except.ok.injEq]

end Trimmed

/-! ### Places that need an index -/

/-- What is written is a line and a column, counted from one, that are looked up in an index of the
lines. -/
def AsksForLine (input : String) : Prop :=
  splitOnce? ['.', '.'] (trim input.toList) = none ∧
    ∃ first second line column, splitOnce? [':'] (trim input.toList) = some (first, second) ∧
      readNumber first = .ok line ∧ readNumber second = .ok column ∧
      0 < line ∧ 0 < column ∧ line - 1 < lineLimit

/-- Looking up a line and a column faults only if there can be no index. -/
theorem offsetOfLineCol_eq_error_iff {text : String} {line column : Nat} {fault : Fault} :
    (offsetOfLineCol text line column).run = .error fault ↔
      (fault = .textTooLong ∧ lineLimit ≤ byteLength text) ∧
        0 < line ∧ 0 < column ∧ line - 1 < lineLimit := by
  rw [offsetOfLineCol, run_refused_eq_error_iff, run_refused_eq_error_iff]
  by_cases hlong : lineLimit ≤ byteLength text
  · have hfault : (throwThe Fault .textTooLong : ExceptT LocusProblem (Except Fault) Nat).run =
        .error .textTooLong := rfl
    rw [if_pos hlong, hfault, Except.error.injEq]
    constructor
    · rintro ⟨hzero, hline, rfl⟩
      exact ⟨⟨rfl, hlong⟩, by omega, by omega, by omega⟩
    · rintro ⟨⟨rfl, -⟩, hpos, hpos', hline⟩
      exact ⟨by omega, by omega, rfl⟩
  · rw [if_neg hlong, run_liftM]
    exact iff_of_false (fun h => by cases h.2.2) fun h => hlong h.1.2

/-- **What cannot be read at all**: a line and a column in a text that is too long for an index. -/
theorem parse_eq_error_iff {text input : String} {fault : Fault} :
    parse text input = .error fault ↔
      fault = .textTooLong ∧ lineLimit ≤ byteLength text ∧ AsksForLine input := by
  have hrun : parse text input = .error fault ↔
      (readTrimmed text (trim input.toList)).run = .error fault := by
    rw [parse]
    cases (readTrimmed text (trim input.toList)).run <;> simp [Except.map]
  rw [hrun, readTrimmed, AsksForLine]
  cases hdots : splitOnce? ['.', '.'] (trim input.toList) with
  | some parts =>
    simp only [run_bind_eq_error_iff, run_guarded_eq_error_iff, run_liftM, run_pure, reduceCtorEq,
      and_false, false_and, exists_false, or_false]
  | none =>
    cases hcolon : splitOnce? [':'] (trim input.toList) with
    | none =>
      simp only [run_bind_eq_error_iff, run_liftM, run_pure, reduceCtorEq, and_false, false_and,
        exists_false, or_false]
    | some parts =>
      simp only [run_bind_eq_error_iff, run_liftM, run_pure, offsetOfLineCol_eq_error_iff,
        reduceCtorEq, and_false, false_or, exists_false, or_false, Except.ok.injEq]
      constructor
      · rintro ⟨line, hline, column, hcolumn, ⟨hfault, hlong⟩, hasks⟩
        exact ⟨hfault, hlong, trivial, parts.1, parts.2, line, column, rfl, hline, hcolumn, hasks⟩
      · rintro ⟨hfault, hlong, -, first, second, line, column, hparts, hline, hcolumn, hasks⟩
        cases hparts
        exact ⟨line, hline, column, hcolumn, ⟨hfault, hlong⟩, hasks⟩

/-! ### Places in the text -/

/-- The place lies in the text, and a range is in order. -/
def InText (text : String) : Locus → Prop
  | .point offset => offset ≤ byteLength text
  | .range pos stop => pos ≤ stop ∧ stop ≤ byteLength text

theorem InText.offset_le {text : String} {locus : Locus} (h : locus.InText text) :
    locus.offset ≤ byteLength text := by
  cases locus with
  | point offset => exact h
  | range pos stop => exact Nat.le_trans h.1 h.2

theorem offsetInLine_eq_ok_iff {text : String} {line column offset : Nat} :
    offsetInLine text line column = .ok offset ↔
      IsAt (bytes text) (line - 1) (column - 1) offset := by
  rw [isAt_iff_lineStart?, offsetInLine]
  cases lineStart? (line - 1) (bytes text) with
  | none => simp
  | some start =>
    simp only [refused_eq_ok_iff, Except.ok.injEq, Option.some.injEq, exists_eq_left', Nat.not_lt]

/-- **The lines and columns that are accepted** are those of an offset. In a text that has an index
no line number is too large. -/
theorem offsetOfLineCol_eq_ok_iff {text : String} {line column offset : Nat} :
    (offsetOfLineCol text line column).run = .ok (.ok offset) ↔
      byteLength text < lineLimit ∧ 0 < line ∧ 0 < column ∧
        IsAt (bytes text) (line - 1) (column - 1) offset := by
  rw [offsetOfLineCol, run_refused_eq_ok_iff, run_refused_eq_ok_iff]
  by_cases hlong : lineLimit ≤ byteLength text
  · rw [if_pos hlong]
    exact iff_of_false (fun h => by cases h.2.2) fun h => Nat.not_le.2 h.1 hlong
  · rw [if_neg hlong, run_liftM, Except.ok.injEq, offsetInLine_eq_ok_iff]
    constructor
    · rintro ⟨hzero, -, hat⟩
      exact ⟨by omega, by omega, by omega, hat⟩
    · rintro ⟨hsize, hpos, hpos', hat⟩
      have hlines := Nat.le_trans hat.bounds.1 hat.le_byteLength
      exact ⟨by omega, Nat.not_le.2 (Nat.lt_of_le_of_lt hlines hsize), hat⟩

/-- **An accepted place lies in the text**, whatever was written. -/
theorem inText_of_parse {text input : String} {locus : Locus}
    (h : parse text input = .ok (.ok locus)) : locus.InText text := by
  rw [parse_eq_ok_iff] at h
  cases hdots : splitOnce? ['.', '.'] (trim input.toList) with
  | some parts =>
    obtain ⟨pos, stop, -, hstop, hle, rfl⟩ := (readTrimmed_range hdots).1 h
    exact ⟨hle, (readOffset_eq_ok_iff.1 hstop).2⟩
  | none =>
    cases hcolon : splitOnce? [':'] (trim input.toList) with
    | some parts =>
      obtain ⟨line, column, offset, -, -, hoffset, rfl⟩ := (readTrimmed_lineCol hdots hcolon).1 h
      exact (offsetOfLineCol_eq_ok_iff.1 hoffset).2.2.2.le_byteLength
    | none =>
      obtain ⟨offset, hoffset, rfl⟩ := (readTrimmed_offset hdots hcolon).1 h
      exact (readOffset_eq_ok_iff.1 hoffset).2

/-! ### One step at a time -/

/-- The sum of two addresses, if it is an address. -/
def sum? (a b : Nat) : Option Nat := if a + b < addressLimit then some (a + b) else none

/-- The difference of two addresses, if it is an address. -/
def difference? (a b : Nat) : Option Nat := if b ≤ a then some (a - b) else none

theorem difference?_of_le {a b : Nat} (h : b ≤ a) : difference? a b = some (a - b) := if_pos h

/-- The offset of a line and a column, with every step checked. There is no answer at all if there
is no index of the lines, if a sum or a difference is no address, or if the text is to be cut inside
a character. -/
def offsetOfLineCol? (text : String) (line column : Nat) : Option (Except LocusProblem Nat) :=
  if line = 0 ∨ column = 0 then some (.error .notFromOne)
  else do
    let above ← difference? line 1
    if lineLimit ≤ above then some (.error .lineTooLarge)
    else if lineLimit ≤ byteLength text then none
    else
      match lineStart? above (bytes text) with
      | none => some (.error .noSuchLine)
      | some start =>
        let rest ← slice? text start (byteLength text)
        let remaining ← difference? (byteLength text) start
        let left ← difference? column 1
        if ((bytes rest).findIdx? (· == newline)).getD remaining < left then
          some (.error .pastLineEnd)
        else
          let past ← sum? start column
          let offset ← difference? past 1
          some (.ok offset)

/-- **No check fails** in a text that has an index. A line starts between characters and inside the
text, and a column that is not past the end of its line does not lead out of the text. -/
theorem offsetOfLineCol?_eq {text : String} (hsize : byteLength text < lineLimit)
    (line column : Nat) :
    (offsetOfLineCol? text line column).map .ok = some (offsetOfLineCol text line column).run := by
  have hfits : byteLength text + 1 < addressLimit :=
    Nat.lt_of_le_of_lt hsize (by decide : lineLimit < addressLimit)
  unfold offsetOfLineCol? offsetOfLineCol
  by_cases hzero : line = 0 ∨ column = 0
  · rw [if_pos hzero, if_pos hzero]
    rfl
  · rw [if_neg hzero, if_neg hzero, difference?_of_le (by omega : 1 ≤ line), Option.bind_eq_bind,
      Option.bind_some]
    by_cases hlarge : lineLimit ≤ line - 1
    · rw [if_pos hlarge, if_pos hlarge]
      rfl
    · rw [if_neg hlarge, if_neg hlarge, if_neg (Nat.not_le.2 hsize), if_neg (Nat.not_le.2 hsize),
        run_liftM, offsetInLine]
      cases hstart : lineStart? (line - 1) (bytes text) with
      | none => rfl
      | some start =>
        obtain ⟨hle, rest, hrest, hlength⟩ := exists_slice?_of_lineStart? hstart
        simp only [hrest, difference?_of_le hle, difference?_of_le (by omega : 1 ≤ column),
          Option.bind_eq_bind, Option.bind_some, hlength]
        by_cases hpast : lineLength (bytes text) start < column - 1
        · rw [if_pos hpast, if_pos hpast]
          rfl
        · have hoffset := (isAt_iff_lineStart?.2
            ⟨start, hstart, Nat.le_of_not_lt hpast, rfl⟩).le_byteLength
          have hsum : sum? start column = some (start + column) := if_pos (by omega)
          rw [if_neg hpast, if_neg hpast, hsum, Option.bind_some,
            difference?_of_le (by omega : 1 ≤ start + column), Option.bind_some,
            Nat.add_sub_assoc (by omega : 1 ≤ column)]
          rfl

/-! ### Written lines and columns -/

section Written

variable {line column : Nat}

theorem isDigit_or_colon_of_mem {c : Char}
    (h : c ∈ Nat.toDigits 10 line ++ ':' :: Nat.toDigits 10 column) :
    c.isDigit = true ∨ c = ':' := by
  rw [List.mem_append, List.mem_cons] at h
  rcases h with h | h | h
  · exact .inl (isDigit_of_mem_toDigits h)
  · exact .inr h
  · exact .inl (isDigit_of_mem_toDigits h)

theorem trim_lineCol : trim (Nat.toDigits 10 line ++ ':' :: Nat.toDigits 10 column) =
    Nat.toDigits 10 line ++ ':' :: Nat.toDigits 10 column := by
  refine trim_of_notBlank fun c hc => ?_
  rcases isDigit_or_colon_of_mem hc with hdigit | rfl
  · exact isBlank_of_isDigit hdigit
  · rfl

theorem splitOnce?_dots_lineCol :
    splitOnce? ['.', '.'] (Nat.toDigits 10 line ++ ':' :: Nat.toDigits 10 column) = none := by
  refine splitOnce?_of_notMem fun hdot => ?_
  rcases isDigit_or_colon_of_mem hdot with hdigit | heq
  · cases hdigit
  · cases heq

/-- **What a written line and column mean**: they are cut at the colon, read as numbers, and looked
up. -/
theorem parse_lineCol_eq_ok_iff {text : String} {locus : Locus} :
    parse text (decimal line ++ ":" ++ decimal column) = .ok (.ok locus) ↔
      line < addressLimit ∧ column < addressLimit ∧
        ∃ offset, (offsetOfLineCol text line column).run = .ok (.ok offset) ∧
          .point offset = locus := by
  have hwritten : (decimal line ++ ":" ++ decimal column).toList =
      Nat.toDigits 10 line ++ ':' :: Nat.toDigits 10 column := by
    simp [decimal]
  have hcolon := splitOnce?_append (notMem_toDigits (rfl : ':'.isDigit = false) line)
    (Nat.toDigits 10 column)
  rw [parse_eq_ok_iff, hwritten, trim_lineCol, readTrimmed_lineCol splitOnce?_dots_lineCol hcolon]
  simp only [readNumber_toDigits]
  constructor
  · rintro ⟨line', column', offset, ⟨hline, rfl⟩, ⟨hcolumn, rfl⟩, hoffset, rfl⟩
    exact ⟨hline, hcolumn, offset, hoffset, rfl⟩
  · rintro ⟨hline, hcolumn, offset, hoffset, rfl⟩
    exact ⟨line, column, offset, ⟨hline, rfl⟩, ⟨hcolumn, rfl⟩, hoffset, rfl⟩

/-- In a text that has an index, a line and a column are read as the offset they are at. -/
theorem parse_lineCol_eq_point_iff {text : String} (hsize : byteLength text < lineLimit)
    (hline : line < addressLimit) (hcolumn : column < addressLimit) {offset : Nat} :
    parse text (decimal line ++ ":" ++ decimal column) = .ok (.ok (.point offset)) ↔
      0 < line ∧ 0 < column ∧ IsAt (bytes text) (line - 1) (column - 1) offset := by
  simp only [parse_lineCol_eq_ok_iff, offsetOfLineCol_eq_ok_iff, hline, hcolumn, hsize, true_and,
    Locus.point.injEq, exists_eq_right]

end Written

/-- **A line and a column mean what they say, and accepted places lie in the text.** For a text
whose lines can be counted: a line and a column, counted from one and written as numbers, are
accepted exactly if there is an offset of the text with so many newlines before it and so many bytes
since the last of them; there is only one such offset, it is the place that is read, and on the way
to it every sum, difference and slice exists. Reading never faults, and any accepted place lies in
the text, in whatever form it was written. -/
theorem accepted_iff_in_text (text : String) (hsize : byteLength text < lineLimit) :
    (∀ line < addressLimit, ∀ column < addressLimit,
      (∀ locus, parse text (decimal line ++ ":" ++ decimal column) = .ok (.ok locus) ↔
        ∃ offset ≤ byteLength text, 0 < line ∧ 0 < column ∧
          IsAt (bytes text) (line - 1) (column - 1) offset ∧ locus = .point offset) ∧
      (∀ offset offset', IsAt (bytes text) (line - 1) (column - 1) offset →
        IsAt (bytes text) (line - 1) (column - 1) offset' → offset = offset') ∧
      (offsetOfLineCol? text line column).map .ok =
        some (offsetOfLineCol text line column).run) ∧
    (∀ input, ∃ result, parse text input = .ok result) ∧
    ∀ input locus, parse text input = .ok (.ok locus) → locus.InText text := by
  refine ⟨fun line hline column hcolumn => ⟨fun locus => ?_, fun _ _ => IsAt.unique,
    offsetOfLineCol?_eq hsize line column⟩, fun input => ?_, fun _ _ => inText_of_parse⟩
  · rw [parse_lineCol_eq_ok_iff]
    constructor
    · rintro ⟨-, -, offset, hoffset, rfl⟩
      obtain ⟨-, hpos, hpos', hat⟩ := offsetOfLineCol_eq_ok_iff.1 hoffset
      exact ⟨offset, hat.le_byteLength, hpos, hpos', hat, rfl⟩
    · rintro ⟨offset, -, hpos, hpos', hat, rfl⟩
      exact ⟨hline, hcolumn, offset, offsetOfLineCol_eq_ok_iff.2 ⟨hsize, hpos, hpos', hat⟩, rfl⟩
  · cases hparse : parse text input with
    | ok result => exact ⟨result, rfl⟩
    | error fault => exact absurd (parse_eq_error_iff.1 hparse).2.1 (Nat.not_le.2 hsize)

/-- In a text with an empty line, `3:2` is the offset 4 inside a character of two bytes, and `2:2`
is no offset: it would lie past the newline of the empty line. -/
theorem accepted_iff_in_text_emptyLine :
    byteLength "a\n\né" < lineLimit ∧ IsAt (bytes "a\n\né") 2 1 4 ∧
      parse "a\n\né" "3:2" = .ok (.ok (.point 4)) ∧
      parse "a\n\né" "2:2" = .ok (.error ⟨"2:2", .pastLineEnd⟩) ∧
      ∀ offset, ¬IsAt (bytes "a\n\né") 1 1 offset := by
  have hsize : byteLength "a\n\né" < lineLimit := by decide +kernel
  have hle : 4 ≤ byteLength "a\n\né" := by decide +kernel
  have hat : IsAt (bytes "a\n\né") 2 1 4 := isAt_iff_lineAt.2 (by decide +kernel)
  have hrefused : parse "a\n\né" "2:2" = .ok (.error ⟨"2:2", .pastLineEnd⟩) := by decide +kernel
  have hinside : decimal 3 ++ ":" ++ decimal 2 = "3:2" := by decide +kernel
  have hpast : decimal 2 ++ ":" ++ decimal 2 = "2:2" := by decide +kernel
  obtain ⟨haccepted, -⟩ := accepted_iff_in_text "a\n\né" hsize
  obtain ⟨hread, -⟩ := haccepted 3 (by decide) 2 (by decide)
  obtain ⟨hread', -⟩ := haccepted 2 (by decide) 2 (by decide)
  rw [hinside] at hread
  rw [hpast] at hread'
  refine ⟨hsize, hat, (hread (.point 4)).2 ⟨4, hle, by decide, by decide, hat, rfl⟩, hrefused, ?_⟩
  intro offset hoffset
  have hok := (hread' (.point offset)).2
    ⟨offset, hoffset.le_byteLength, by decide, by decide, hoffset, rfl⟩
  rw [hrefused] at hok
  cases hok

/-- **Writing and reading a line and a column are inverse**, in a text whose lines can be counted
and for the offsets between characters. What is written for an offset is read back as this offset;
and if a line and a column, as numerals without sign and leading zeros, are read as an offset, then
they are written for this offset. The one exception is an offset whose line or column cannot be
counted from one: for it nothing is written. -/
theorem parse_inverse_written (text : String) (hsize : byteLength text < lineLimit) :
    (∀ offset ≤ byteLength text, isBoundary text offset = true →
      (¬CountOverflows text offset → ∃ place, LineCol.written text offset = .ok place ∧
        parse text place = .ok (.ok (.point offset))) ∧
      (CountOverflows text offset → LineCol.written text offset = .error .countOverflow)) ∧
    ∀ line column, IsNumeral line → IsNumeral column → ∀ offset,
      parse text (line ++ ":" ++ column) = .ok (.ok (.point offset)) →
      isBoundary text offset = true → ¬CountOverflows text offset →
        LineCol.written text offset = .ok (line ++ ":" ++ column) := by
  have hlimit : lineLimit ≤ addressLimit := by decide
  constructor
  · intro offset hle hboundary
    -- Every offset has a line and a column; what is left is whether they can be counted from one.
    have hat : IsAt (bytes text) (lineAt (bytes text) offset) (columnAt (bytes text) offset)
        offset := isAt_iff_lineAt.2 ⟨by rwa [length_bytes], rfl, rfl⟩
    rw [LineCol.written_eq hsize hboundary hat, countOverflows_iff hsize hat]
    constructor
    · intro hcounted
      have hsmall := Decidable.not_not.1 hcounted
      refine ⟨_, if_pos hsmall, ?_⟩
      exact (parse_lineCol_eq_point_iff hsize (Nat.lt_of_lt_of_le hsmall.1 hlimit)
        (Nat.lt_of_lt_of_le hsmall.2 hlimit)).2 ⟨Nat.succ_pos _, Nat.succ_pos _, hat⟩
    · exact fun hlarge => if_neg hlarge
  · intro line column hline hcolumn offset hparse hboundary hcounted
    obtain ⟨l, rfl⟩ := hline.exists_eq_decimal
    obtain ⟨c, rfl⟩ := hcolumn.exists_eq_decimal
    obtain ⟨hl, hc, -⟩ := parse_lineCol_eq_ok_iff.1 hparse
    obtain ⟨hpos, hpos', hat⟩ := (parse_lineCol_eq_point_iff hsize hl hc).1 hparse
    rw [countOverflows_iff hsize hat] at hcounted
    rw [LineCol.written_eq hsize hboundary hat, if_pos (Decidable.not_not.1 hcounted),
      Nat.sub_add_cancel hpos, Nat.sub_add_cancel hpos']

/-- In a text with an empty line, the end of the last line is at offset 5, behind a character of two
bytes. -/
theorem parse_inverse_written_emptyLine :
    byteLength "a\n\né" < lineLimit ∧ isBoundary "a\n\né" 5 = true ∧
      LineCol.written "a\n\né" 5 = .ok "3:3" ∧ parse "a\n\né" "3:3" = .ok (.ok (.point 5)) := by
  have hsize : byteLength "a\n\né" < lineLimit := by decide +kernel
  have hend : 5 ≤ byteLength "a\n\né" := by decide +kernel
  have hboundary : isBoundary "a\n\né" 5 = true := by decide +kernel
  have hcounted : ¬CountOverflows "a\n\né" 5 := fun hover =>
    absurd hover.1 (by decide +kernel)
  obtain ⟨hread, hwritten⟩ := parse_inverse_written "a\n\né" hsize
  obtain ⟨place, hplace, hparse⟩ := (hread 5 hend hboundary).1 hcounted
  have hplace' : LineCol.written "a\n\né" 5 = .ok "3:3" := by decide +kernel
  obtain rfl : place = "3:3" := Except.ok.inj (hplace.symm.trans hplace')
  exact ⟨hsize, hboundary, hplace', hparse⟩

/-! ### The longest line -/

/-- A text of one line. -/
def lineOfLetters (n : Nat) : String := String.ofList (List.replicate n 'a')

theorem bytes_lineOfLetters (n : Nat) : bytes (lineOfLetters n) = List.replicate n 0x61 := by
  induction n with
  | zero => rfl
  | succ n ih =>
    have hcons : lineOfLetters (n + 1) = String.singleton 'a' ++ lineOfLetters n :=
      eq_singleton_append String.toList_ofList
    rw [hcons, bytes_append, ih]
    rfl

theorem byteLength_lineOfLetters (n : Nat) : byteLength (lineOfLetters n) = n := by
  rw [← length_bytes, bytes_lineOfLetters, List.length_replicate]

theorem isAt_lineOfLetters (n : Nat) : IsAt (bytes (lineOfLetters n)) 0 n n := by
  refine ⟨[], List.replicate n 0x61, [], ?_, wholeLines_nil, rfl, ?_, ?_, ?_⟩
  · rw [bytes_lineOfLetters, List.nil_append, List.append_nil]
  · intro h
    cases (List.mem_replicate.1 h).2
  · exact List.length_replicate
  · rw [List.length_nil, List.length_replicate, Nat.zero_add]

theorem isBoundary_lineOfLetters (n : Nat) : isBoundary (lineOfLetters n) n = true := by
  have hend := byteLength_lineOfLetters n
  rcases isBoundary_or_insideCharacter (Nat.le_of_eq hend.symm) with hboundary | hinside
  · exact hboundary
  · have hlast := hinside.lt_byteLength
    rw [hend] at hlast
    exact absurd hlast (Nat.lt_irrefl n)

/-- In the longest text that has an index, the end of the line is read from the column that it has,
and this column is not written. -/
theorem written_longestLine :
    byteLength (lineOfLetters 4294967295) < lineLimit ∧
      isBoundary (lineOfLetters 4294967295) 4294967295 = true ∧
      parse (lineOfLetters 4294967295) "1:4294967296" = .ok (.ok (.point 4294967295)) ∧
      LineCol.written (lineOfLetters 4294967295) 4294967295 = .error .countOverflow := by
  have hsize : byteLength (lineOfLetters 4294967295) < lineLimit := by
    rw [byteLength_lineOfLetters]
    decide
  have hboundary := isBoundary_lineOfLetters 4294967295
  have hat := isAt_lineOfLetters 4294967295
  have hcolumn : decimal 1 ++ ":" ++ decimal 4294967296 = "1:4294967296" := by decide +kernel
  refine ⟨hsize, hboundary, ?_, ?_⟩
  · rw [← hcolumn]
    exact (parse_lineCol_eq_point_iff hsize (by decide) (by decide)).2
      ⟨by decide, by decide, hat⟩
  · rw [LineCol.written_eq hsize hboundary hat]
    exact if_neg (by decide)

end Locus

end ClosureWrap
