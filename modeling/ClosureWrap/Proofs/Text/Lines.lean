import ClosureWrap.Proofs.Text.Boundary
import ClosureWrap.Proofs.Text.Order

/-!
# Where a line and a column are

A line and a column name an offset, and every offset has a line and a column. The two ways are
computed differently. From an offset one looks back: newlines are counted, and the column is what
has come since the last one. From a line one looks ahead for its start, and then further for its
end, since a column must not lie past it.

Here both are compared with a cut of the bytes into three parts: whole lines, the bytes of the line
to the left of the offset, and the rest. Each way finds such a cut and there is only one, so the two
ways are inverse.

A line starts after a newline byte. In UTF-8 this byte occurs only as the newline character, hence
the start of a line is never inside a character.

Lines and columns have 32 bits and are written counting from one. That is no restriction in a text
that has an index of its lines, with one exception: a text of the greatest length whose end has the
largest line or column there is.

## Main definitions

* `Text.WholeLines` — bytes that end with a newline, if there are any
* `Text.IsAt` — the offset of a line and a column
* `Text.CountOverflows` — an offset whose line or column cannot be counted from one

## Main results

* `Text.isAt_iff_lineAt` — looking back from an offset
* `Text.isAt_iff_lineStart?` — looking ahead for a line
* `Text.isBoundary_of_wholeLines` — a line starts between characters
* `LineCol.ofOffset_eq_ok_iff` — the line and column of an offset between characters
* `LineCol.written_eq`, `LineCol.written_eq_error_iff` — what is written for an offset, and the
  offsets for which nothing can be written
-/

namespace ClosureWrap

namespace Text

/-- The bytes are whole lines: the last one, if there is one, is a newline. -/
def WholeLines (bs : List UInt8) : Prop := ∀ b ∈ bs.getLast?, b = newline

/-- The offset is in line `line` and column `column`, both counted from zero: before it there are
`line` whole lines, and then `column` further bytes, none of them a newline. -/
def IsAt (bs : List UInt8) (line column offset : Nat) : Prop :=
  ∃ above left after, bs = above ++ left ++ after ∧
    WholeLines above ∧ above.count newline = line ∧
    newline ∉ left ∧ left.length = column ∧ above.length + left.length = offset

/-! ### Looking back -/

theorem wholeLines_nil : WholeLines [] := fun b hb => by cases hb

/-- Of bytes that are cut at the last newline, what remains in front is whole lines. -/
theorem wholeLines_dropWhile (bs : List UInt8) :
    WholeLines (bs.reverse.dropWhile (· != newline)).reverse := by
  intro b hb
  rw [List.getLast?_reverse] at hb
  have hnot := List.head?_dropWhile_not (· != newline) bs.reverse
  rw [hb] at hnot
  simpa using hnot

theorem takeWhile_reverse_wholeLines {bs : List UInt8} (h : WholeLines bs) :
    bs.reverse.takeWhile (· != newline) = [] := by
  cases hlast : bs.getLast? with
  | none => rw [List.getLast?_eq_none_iff.1 hlast]; rfl
  | some b =>
    rw [← List.head?_eq_none_iff, List.head?_takeWhile, List.head?_reverse, hlast, h b hlast]
    rfl

theorem notMem_takeWhile (bs : List UInt8) : newline ∉ bs.takeWhile (· != newline) := by
  intro hmem
  have hall := List.all_eq_true.1 (List.all_takeWhile (l := bs) (p := (· != newline))) newline hmem
  simp at hall

/-- **Looking back from an offset** finds its line and column. -/
theorem isAt_iff_lineAt {bs : List UInt8} {line column offset : Nat} :
    IsAt bs line column offset ↔
      offset ≤ bs.length ∧ lineAt bs offset = line ∧ columnAt bs offset = column := by
  constructor
  · rintro ⟨above, left, after, rfl, hwhole, rfl, hleft, rfl, rfl⟩
    have htake : (above ++ left ++ after).take (above.length + left.length) = above ++ left := by
      rw [← List.length_append, List.take_left]
    have hline : ∀ b ∈ left.reverse, (b != newline) = true := fun b hb =>
      bne_iff_ne.2 fun heq => hleft (heq ▸ List.mem_reverse.1 hb)
    refine ⟨?_, ?_, ?_⟩
    · rw [List.length_append, List.length_append]
      omega
    · rw [lineAt, htake, List.count_append, List.count_eq_zero.2 hleft, Nat.add_zero]
    · rw [columnAt, htake, List.reverse_append, List.takeWhile_append_of_pos hline,
        takeWhile_reverse_wholeLines hwhole, List.append_nil, List.length_reverse]
  · rintro ⟨hle, rfl, rfl⟩
    -- The bytes before the offset are cut at their last newline.
    have hcut : bs.take offset = ((bs.take offset).reverse.dropWhile (· != newline)).reverse ++
        ((bs.take offset).reverse.takeWhile (· != newline)).reverse := by
      rw [← List.reverse_append, List.takeWhile_append_dropWhile, List.reverse_reverse]
    have hleft : newline ∉ ((bs.take offset).reverse.takeWhile (· != newline)).reverse := by
      rw [List.mem_reverse]
      exact notMem_takeWhile _
    have hcount := congrArg (List.count newline) hcut
    rw [List.count_append, List.count_eq_zero.2 hleft, Nat.add_zero] at hcount
    have hlength := congrArg List.length hcut
    rw [List.length_append, List.length_take, Nat.min_eq_left hle] at hlength
    refine ⟨_, _, bs.drop offset, ?_, wholeLines_dropWhile (bs.take offset), hcount.symm, hleft,
      List.length_reverse, hlength.symm⟩
    rw [← hcut, List.take_append_drop]

/-! ### Looking ahead -/

theorem wholeLines_cons {b : UInt8} {bs : List UInt8} :
    WholeLines (b :: bs) ↔ (bs = [] → b = newline) ∧ WholeLines bs := by
  cases bs with
  | nil => simp [WholeLines]
  | cons c bs => simp [WholeLines, List.getLast?_cons_cons]

/-- Whole lines without a newline are none. -/
theorem WholeLines.eq_nil {bs : List UInt8} (h : WholeLines bs) (hcount : bs.count newline = 0) :
    bs = [] := by
  cases hlast : bs.getLast? with
  | none => exact List.getLast?_eq_none_iff.1 hlast
  | some b =>
    have hmem := List.mem_of_getLast? hlast
    rw [h b hlast] at hmem
    exact absurd hmem (List.count_eq_zero.1 hcount)

/-- **The start of a line** is the end of the whole lines above it. The induction follows the
search, which counts the newlines that it still has to pass. -/
theorem lineStart?_eq_some_iff {line : Nat} {bs : List UInt8} {start : Nat} :
    lineStart? line bs = some start ↔ ∃ above rest, bs = above ++ rest ∧
      WholeLines above ∧ above.count newline = line ∧ above.length = start := by
  fun_induction lineStart? line bs generalizing start with
  | case1 bs =>
    constructor
    · rintro ⟨⟩
      exact ⟨[], bs, rfl, wholeLines_nil, rfl, rfl⟩
    · rintro ⟨above, rest, rfl, hwhole, hcount, rfl⟩
      rw [hwhole.eq_nil hcount]
      rfl
  | case2 n =>
    constructor
    · rintro ⟨⟩
    · rintro ⟨above, rest, hnil, -, hcount, -⟩
      rw [List.nil_eq, List.append_eq_nil_iff] at hnil
      rw [hnil.1] at hcount
      cases hcount
  | case3 n b bs ih =>
    rw [Option.map_eq_some_iff]
    constructor
    · rintro ⟨s, hs, rfl⟩
      obtain ⟨above, rest, rfl, hwhole, hcount, rfl⟩ := ih.1 hs
      refine ⟨b :: above, rest, rfl, wholeLines_cons.2 ⟨?_, hwhole⟩, ?_, rfl⟩
      · rintro rfl
        by_cases hb : b = newline
        · exact hb
        · rw [if_neg hb] at hcount
          cases hcount
      · rw [List.count_cons, hcount]
        by_cases hb : b = newline <;> simp [hb]
    · rintro ⟨above, rest, hsplit, hwhole, hcount, rfl⟩
      cases above with
      | nil => cases hcount
      | cons c above =>
        obtain ⟨rfl, rfl⟩ := List.cons.inj hsplit
        refine ⟨above.length, ih.2 ⟨above, rest, rfl, (wholeLines_cons.1 hwhole).2, ?_, rfl⟩, rfl⟩
        rw [List.count_cons] at hcount
        by_cases hb : b = newline
        · simpa [hb] using hcount
        · simpa [hb] using hcount

theorem le_length_takeWhile_iff {bs : List UInt8} {column : Nat} :
    column ≤ (bs.takeWhile (· != newline)).length ↔
      ∃ left after, bs = left ++ after ∧ newline ∉ left ∧ left.length = column := by
  constructor
  · intro hle
    obtain ⟨rest, hrest⟩ := List.takeWhile_prefix (l := bs) (· != newline)
    refine ⟨bs.take column, bs.drop column, (List.take_append_drop _ _).symm, ?_, ?_⟩
    · intro hmem
      rw [← hrest, List.take_append_of_le_length hle] at hmem
      exact notMem_takeWhile bs (List.mem_of_mem_take hmem)
    · have hlength := congrArg List.length hrest
      rw [List.length_append] at hlength
      rw [List.length_take]
      omega
  · rintro ⟨left, after, rfl, hleft, rfl⟩
    have hline : ∀ b ∈ left, (b != newline) = true := fun b hb =>
      bne_iff_ne.2 fun heq => hleft (heq ▸ hb)
    rw [List.takeWhile_append_of_pos hline, List.length_append]
    exact Nat.le_add_right _ _

/-- A line ends at the first newline, or where the text ends. -/
theorem getD_findIdx? (bs : List UInt8) :
    (bs.findIdx? (· == newline)).getD bs.length = (bs.takeWhile (· != newline)).length := by
  induction bs with
  | nil => rfl
  | cons b bs ih =>
    rw [List.findIdx?_cons, List.takeWhile_cons]
    by_cases hb : b = newline
    · simp [hb]
    · rw [if_neg (by simpa using hb), if_pos (by simpa using hb), List.length_cons,
        List.length_cons, ← ih]
      cases bs.findIdx? (· == newline) <;> rfl

/-- **Looking ahead for a line** finds its offsets: from the start of the line up to its end. -/
theorem isAt_iff_lineStart? {bs : List UInt8} {line column offset : Nat} :
    IsAt bs line column offset ↔ ∃ start, lineStart? line bs = some start ∧
      column ≤ lineLength bs start ∧ start + column = offset := by
  constructor
  · rintro ⟨above, left, after, rfl, hwhole, hcount, hleft, rfl, rfl⟩
    refine ⟨above.length, lineStart?_eq_some_iff.2
      ⟨above, left ++ after, List.append_assoc .., hwhole, hcount, rfl⟩, ?_, rfl⟩
    rw [lineLength, List.append_assoc, List.drop_left, le_length_takeWhile_iff]
    exact ⟨left, after, rfl, hleft, rfl⟩
  · rintro ⟨start, hstart, hcolumn, rfl⟩
    obtain ⟨above, rest, rfl, hwhole, hcount, rfl⟩ := lineStart?_eq_some_iff.1 hstart
    rw [lineLength, List.drop_left, le_length_takeWhile_iff] at hcolumn
    obtain ⟨left, after, rfl, hleft, rfl⟩ := hcolumn
    exact ⟨above, left, after, (List.append_assoc ..).symm, hwhole, hcount, hleft, rfl, rfl⟩

/-- There are no more lines above and no more bytes to the left than bytes before the offset, and
the offset lies in the text. -/
theorem IsAt.bounds {bs : List UInt8} {line column offset : Nat} (h : IsAt bs line column offset) :
    line ≤ offset ∧ column ≤ offset ∧ offset ≤ bs.length := by
  obtain ⟨above, left, after, rfl, -, rfl, -, rfl, rfl⟩ := h
  refine ⟨Nat.le_trans List.count_le_length (Nat.le_add_right _ _), Nat.le_add_left _ _, ?_⟩
  rw [List.length_append, List.length_append]
  exact Nat.le_add_right _ _

/-- The column is as large as it can be if there is no newline before the offset. -/
theorem IsAt.column_eq_iff {bs : List UInt8} {line column offset : Nat}
    (h : IsAt bs line column offset) : column = offset ↔ newline ∉ bs.take offset := by
  obtain ⟨above, left, after, rfl, hwhole, -, hleft, rfl, rfl⟩ := h
  rw [← List.length_append, List.take_left, List.length_append, List.mem_append]
  constructor
  · intro heq
    have habove : above = [] := List.length_eq_zero_iff.1 (by omega)
    simpa [habove] using hleft
  · intro hnone
    have hcount : above.count newline = 0 := List.count_eq_zero.2 fun hmem => hnone (.inl hmem)
    rw [hwhole.eq_nil hcount, List.length_nil, Nat.zero_add]

/-- The line is as large as it can be if there are only newlines before the offset. -/
theorem IsAt.line_eq_iff {bs : List UInt8} {line column offset : Nat}
    (h : IsAt bs line column offset) : line = offset ↔ ∀ b ∈ bs.take offset, b = newline := by
  obtain ⟨above, left, after, rfl, -, rfl, hleft, rfl, rfl⟩ := h
  rw [← List.length_append, List.take_left, List.length_append]
  constructor
  · intro heq
    have hcount : above.count newline ≤ above.length := List.count_le_length
    have hnil : left = [] := List.length_eq_zero_iff.1 (by omega)
    have hall : above.count newline = above.length := by omega
    rw [hnil, List.append_nil]
    exact fun b hb => (List.count_eq_length.1 hall b hb).symm
  · intro hall
    have hnil : left = [] := by
      refine List.eq_nil_iff_forall_not_mem.2 fun b hb => ?_
      exact hleft (hall b (List.mem_append_right above hb) ▸ hb)
    rw [hnil, List.length_nil, Nat.add_zero, List.count_eq_length]
    exact fun b hb => (hall b (List.mem_append_left left hb)).symm

/-- A line and a column have one offset. -/
theorem IsAt.unique {bs : List UInt8} {line column offset offset' : Nat}
    (h : IsAt bs line column offset) (h' : IsAt bs line column offset') : offset = offset' := by
  obtain ⟨start, hstart, -, rfl⟩ := isAt_iff_lineStart?.1 h
  obtain ⟨start', hstart', -, rfl⟩ := isAt_iff_lineStart?.1 h'
  rw [Option.some.inj (hstart.symm.trans hstart')]

/-! ### Lines and characters -/

theorem length_bytes (s : String) : (bytes s).length = byteLength s := by
  rw [bytes, Array.length_toList]
  rfl

theorem length_le_of_bytes_eq {text : String} {above rest : List UInt8}
    (h : bytes text = above ++ rest) : above.length ≤ byteLength text := by
  rw [← length_bytes, h, List.length_append]
  exact Nat.le_add_right _ _

theorem IsAt.le_byteLength {text : String} {line column offset : Nat}
    (h : IsAt (bytes text) line column offset) : offset ≤ byteLength text := by
  rw [← length_bytes]
  exact h.bounds.2.2

theorem bytes_append (s t : String) : bytes (s ++ t) = bytes s ++ bytes t := by
  rw [bytes_eq, bytes_eq, bytes_eq, String.toList_append, List.flatMap_append]

theorem newline_ne_ofNat {x : Nat} (hlow : 128 ≤ x) (hhigh : x < 256) :
    newline ≠ UInt8.ofNat x := by
  intro heq
  have hvalue := congrArg UInt8.toNat heq
  rw [UInt8.toNat_ofNat_of_lt' hhigh, show newline.toNat = 10 from rfl] at hvalue
  omega

/-- A newline byte is the whole of a character: all bytes of a longer one are large. -/
theorem utf8Size_of_newline_mem {c : Char} (h : newline ∈ String.utf8EncodeChar c) :
    c.utf8Size = 1 := by
  rw [← String.length_utf8EncodeChar]
  unfold String.utf8EncodeChar at h ⊢
  simp only at h ⊢
  generalize c.val.toNat = v at h ⊢
  split at h
  · rename_i hone
    rw [if_pos hone]
    rfl
  · -- Two, three or four bytes.
    exfalso
    repeat' split at h
    all_goals simp only [List.mem_cons, List.not_mem_nil, or_false] at h
    · rcases h with h | h <;> exact newline_ne_ofNat (by omega) (by omega) h
    · rcases h with h | h | h <;> exact newline_ne_ofNat (by omega) (by omega) h
    · rcases h with h | h | h | h <;> exact newline_ne_ofNat (by omega) (by omega) h

/-- **A line starts between characters.** -/
theorem isBoundary_of_wholeLines {text : String} {above rest : List UInt8}
    (h : bytes text = above ++ rest) (hwhole : WholeLines above) :
    isBoundary text above.length = true := by
  refine (isBoundary_or_insideCharacter (length_le_of_bytes_eq h)).resolve_right ?_
  rintro ⟨before, c, after, rfl, hbefore, hafter⟩
  -- The last byte of `above` would be a byte of the character.
  have hlast : above.getLast? =
      (String.utf8EncodeChar c)[above.length - 1 - byteLength before]? := by
    have hsingle : bytes (String.singleton c) = String.utf8EncodeChar c := by
      rw [bytes_eq, String.toList_singleton, List.flatMap_singleton]
    rw [bytes_append, bytes_append, hsingle] at h
    have hinner : (above ++ rest)[above.length - 1]? = above[above.length - 1]? :=
      List.getElem?_append_left (by omega)
    rw [List.getLast?_eq_getElem?, ← hinner, ← h, List.getElem?_append_left,
      List.getElem?_append_right, length_bytes]
    · rw [length_bytes]
      omega
    · rw [List.length_append, length_bytes, String.length_utf8EncodeChar]
      omega
  have hinside : above.length - 1 - byteLength before < (String.utf8EncodeChar c).length := by
    rw [String.length_utf8EncodeChar]
    omega
  rw [List.getElem?_eq_getElem hinside] at hlast
  have hmem := List.getElem_mem hinside
  rw [hwhole _ hlast] at hmem
  have hsize := utf8Size_of_newline_mem hmem
  omega

/-- From the start of a line on, the text can be cut out, and the first newline in it ends the
line. -/
theorem exists_slice?_of_lineStart? {text : String} {line start : Nat}
    (h : lineStart? line (bytes text) = some start) :
    start ≤ byteLength text ∧ ∃ rest, slice? text start (byteLength text) = some rest ∧
      ((bytes rest).findIdx? (· == newline)).getD (byteLength text - start) =
        lineLength (bytes text) start := by
  obtain ⟨above, below, hsplit, hwhole, -, rfl⟩ := lineStart?_eq_some_iff.1 h
  have hle := length_le_of_bytes_eq hsplit
  have hend : isBoundary text (byteLength text) = true :=
    isBoundary_iff.2 ⟨text, "", String.append_empty.symm, rfl⟩
  obtain ⟨rest, hrest⟩ := Option.isSome_iff_exists.1
    (isSome_slice?.2 ⟨hle, isBoundary_of_wholeLines hsplit hwhole, hend⟩)
  refine ⟨hle, rest, hrest, ?_⟩
  obtain ⟨before, after, htext, hbefore, hlength⟩ := slice?_eq_some_iff.1 hrest
  have hafter : bytes after = [] := by
    have htotal := congrArg byteLength htext
    rw [byteLength_append, byteLength_append] at htotal
    simp only [byteLength] at htotal hlength
    rw [← List.length_eq_zero_iff, length_bytes, byteLength]
    omega
  have hdrop : (bytes text).drop above.length = bytes rest := by
    rw [htext, bytes_append, bytes_append, hafter, List.append_nil, ← hbefore]
    exact List.drop_left' (length_bytes before)
  have hremaining : byteLength text - above.length = (bytes rest).length := by
    rw [← hdrop, List.length_drop, length_bytes]
  rw [lineLength, hdrop, hremaining, getD_findIdx?]

end Text

/-! ### Writing a line and a column -/

namespace LineCol

open Text

theorem toNat_ofNat_of_le {n offset : Nat} {text : String} (hn : n ≤ offset)
    (hoffset : offset ≤ byteLength text) (hsize : byteLength text < lineLimit) :
    (UInt32.ofNat n).toNat = n :=
  UInt32.toNat_ofNat_of_lt (Nat.lt_of_le_of_lt (Nat.le_trans hn hoffset) hsize)

/-- The line and column of an offset between characters. -/
theorem ofOffset_eq_ok_iff {text : String} {offset : Nat} (h : offset ≤ byteLength text)
    {p : LineCol} :
    ofOffset text offset = .ok p ↔ byteLength text < lineLimit ∧ isBoundary text offset = true ∧
      IsAt (bytes text) p.line.toNat p.column.toNat offset := by
  obtain ⟨line, column⟩ := p
  rw [ofOffset, Nat.min_eq_left h]
  by_cases hlong : lineLimit ≤ byteLength text
  · rw [if_pos hlong]
    exact iff_of_false (fun hok => by cases hok) fun hok => Nat.not_le.2 hok.1 hlong
  · have hshort := Nat.lt_of_not_le hlong
    have hat : IsAt (bytes text) (lineAt (bytes text) offset) (columnAt (bytes text) offset)
        offset := isAt_iff_lineAt.2 ⟨by rwa [length_bytes], rfl, rfl⟩
    have hline := toNat_ofNat_of_le hat.bounds.1 h hshort
    have hcolumn := toNat_ofNat_of_le hat.bounds.2.1 h hshort
    rw [if_neg hlong, isAt_iff_lineAt, length_bytes]
    by_cases hboundary : isBoundary text offset = true
    · rw [if_pos hboundary, Except.ok.injEq, LineCol.mk.injEq, ← UInt32.toNat_inj,
        ← UInt32.toNat_inj, hline, hcolumn]
      simp only [hshort, hboundary, h, true_and]
    · rw [if_neg hboundary]
      exact iff_of_false (fun hok => by cases hok) fun hok => hboundary hok.2.1

/-- **What is written** for a line and a column, unless one of them is the largest number there
is. -/
theorem render_eq (p : LineCol) :
    p.render =
      if p.line.toNat + 1 < lineLimit ∧ p.column.toNat + 1 < lineLimit then
        .ok (decimal (p.line.toNat + 1) ++ ":" ++ decimal (p.column.toNat + 1))
      else .error .countOverflow := by
  have hsucc {n : UInt32} (h : n.toNat + 1 < lineLimit) : (n + 1).toNat = n.toNat + 1 := by
    rw [UInt32.toNat_add]
    exact Nat.mod_eq_of_lt h
  rw [render, fromOne, fromOne]
  by_cases hline : p.line.toNat + 1 < lineLimit
  · by_cases hcolumn : p.column.toNat + 1 < lineLimit
    · rw [if_pos hline, if_pos hcolumn, if_pos ⟨hline, hcolumn⟩, ← hsucc hline, ← hsucc hcolumn]
      rfl
    · rw [if_pos hline, if_neg hcolumn, if_neg fun h => hcolumn h.2]
      rfl
  · have hnot : ¬(p.line.toNat + 1 < lineLimit ∧ p.column.toNat + 1 < lineLimit) :=
      fun h => hline h.1
    rw [if_neg hline, if_neg hnot]
    rfl

/-- What is written for an offset between characters. -/
theorem written_eq {text : String} {line column offset : Nat} (hsize : byteLength text < lineLimit)
    (hboundary : isBoundary text offset = true) (hat : IsAt (bytes text) line column offset) :
    written text offset =
      if line + 1 < lineLimit ∧ column + 1 < lineLimit then
        .ok (decimal (line + 1) ++ ":" ++ decimal (column + 1))
      else .error .countOverflow := by
  have hline := toNat_ofNat_of_le hat.bounds.1 hat.le_byteLength hsize
  have hcolumn := toNat_ofNat_of_le hat.bounds.2.1 hat.le_byteLength hsize
  have hfound : ofOffset text offset = .ok ⟨.ofNat line, .ofNat column⟩ := by
    refine (ofOffset_eq_ok_iff hat.le_byteLength).2 ⟨hsize, hboundary, ?_⟩
    rwa [hline, hcolumn]
  have hrender := render_eq ⟨.ofNat line, .ofNat column⟩
  rw [hline, hcolumn] at hrender
  rw [← hrender, written, hfound]
  rfl

end LineCol

namespace Text

/-- The offset is the end of the longest text that has an index, and this is a single line or
nothing but empty lines. -/
def CountOverflows (text : String) (offset : Nat) : Prop :=
  byteLength text + 1 = lineLimit ∧ offset = byteLength text ∧
    (newline ∉ bytes text ∨ ∀ b ∈ bytes text, b = newline)

/-- **The lines and columns that cannot be counted from one.** -/
theorem countOverflows_iff {text : String} {line column offset : Nat}
    (hsize : byteLength text < lineLimit) (hat : IsAt (bytes text) line column offset) :
    CountOverflows text offset ↔ ¬(line + 1 < lineLimit ∧ column + 1 < lineLimit) := by
  obtain ⟨hline, hcolumn, -⟩ := hat.bounds
  have hoffset := hat.le_byteLength
  have hwhole (hend : offset = byteLength text) : (bytes text).take offset = bytes text :=
    List.take_of_length_le (Nat.le_of_eq ((length_bytes text).trans hend.symm))
  constructor
  · rintro ⟨hlongest, hend, hone | hall⟩ ⟨hline', hcolumn'⟩
    · rw [← hwhole hend, ← hat.column_eq_iff] at hone
      omega
    · rw [← hwhole hend, ← hat.line_eq_iff] at hall
      omega
  · intro hlarge
    have hend : offset = byteLength text := by omega
    refine ⟨by omega, hend, ?_⟩
    rw [← hwhole hend, ← hat.column_eq_iff, ← hat.line_eq_iff]
    omega

end Text

namespace LineCol

open Text

/-- **The offsets that cannot be reported**, and why. -/
theorem written_eq_error_iff {text : String} {offset : Nat} (h : offset ≤ byteLength text)
    {fault : Fault} :
    written text offset = .error fault ↔
      (fault = .textTooLong ∧ lineLimit ≤ byteLength text) ∨
        (fault = .insideCharacter ∧ byteLength text < lineLimit ∧ InsideCharacter text offset) ∨
        fault = .countOverflow ∧ CountOverflows text offset := by
  cases hfound : ofOffset text offset with
  | error reason =>
    have hwritten : written text offset = .error reason := by
      rw [written, hfound]
      rfl
    rw [hwritten, Except.error.injEq]
    rcases ofOffset_eq_error_iff.1 hfound with ⟨rfl, hlong⟩ | ⟨rfl, hsize, hinside⟩
    · have hother : ¬CountOverflows text offset := fun hover => by
        have hlongest := hover.1
        omega
      simp only [hlong, hother, Nat.not_lt.2 hlong, and_true, and_false, false_and, or_false]
      exact eq_comm
    · have hother : ¬CountOverflows text offset := fun hover => by
        have hlast := hinside.lt_byteLength
        rw [hover.2.1] at hlast
        exact Nat.lt_irrefl _ hlast
      simp only [hsize, hinside, hother, Nat.not_le.2 hsize, and_true, and_false, false_or,
        or_false]
      exact eq_comm
  | ok p =>
    obtain ⟨hsize, hboundary, hat⟩ := (ofOffset_eq_ok_iff h).1 hfound
    have hcut : ¬InsideCharacter text offset := fun hinside => by
      rw [not_isBoundary_of_insideCharacter hinside] at hboundary
      cases hboundary
    rw [written_eq hsize hboundary hat, countOverflows_iff hsize hat]
    by_cases hsmall : p.line.toNat + 1 < lineLimit ∧ p.column.toNat + 1 < lineLimit
    · rw [if_pos hsmall]
      simp [hsmall, hcut, Nat.not_le.2 hsize]
    · rw [if_neg hsmall]
      simp only [hsmall, hcut, Nat.not_le.2 hsize, not_false_eq_true, and_true, and_false, false_or,
        Except.error.injEq]
      exact eq_comm

end LineCol

end ClosureWrap
