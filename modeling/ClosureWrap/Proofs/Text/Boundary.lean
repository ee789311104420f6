import ClosureWrap.Text.LineCol

/-!
# Offsets inside a character

An offset that does not lie past the end of a text falls between two characters or strictly inside
one, and never both. The first is what `isBoundary` tests. The second is said here by the character
itself: the text is cut before and after it, and the offset lies between the two cuts.

## Main definitions

* `Text.InsideCharacter` — an offset strictly inside a character

## Main results

* `Text.isSome_slice?` — slices are cut out at boundaries
* `Text.isBoundary_eq_false_iff` — an offset of the text that is no boundary is inside a character
* `LineCol.ofOffset_eq_error_iff` — the offsets without a line and column
-/

namespace ClosureWrap

namespace Text

/-- The offset lies strictly inside a character of the text. -/
def InsideCharacter (s : String) (offset : Nat) : Prop :=
  ∃ before c after, s = before ++ String.singleton c ++ after ∧
    byteLength before < offset ∧ offset < byteLength before + c.utf8Size

theorem byteLength_append (s t : String) : byteLength (s ++ t) = byteLength s + byteLength t :=
  String.utf8ByteSize_append

theorem byteLength_singleton (c : Char) : byteLength (String.singleton c) = c.utf8Size :=
  String.utf8ByteSize_singleton

/-- The boundaries of a text are the lengths of its beginnings. -/
theorem isBoundary_iff {s : String} {offset : Nat} :
    isBoundary s offset = true ↔
      ∃ before after, s = before ++ after ∧ byteLength before = offset := by
  rw [isBoundary, String.Pos.Raw.isValid_eq_true_iff, String.Pos.Raw.isValid_iff_exists_append]
  constructor
  · rintro ⟨before, after, heq, hpos⟩
    exact ⟨before, after, heq, (congrArg String.Pos.Raw.byteIdx hpos).symm⟩
  · rintro ⟨before, after, heq, rfl⟩
    exact ⟨before, after, heq, rfl⟩

/-- There is a slice between two offsets exactly if they are boundaries in order. -/
theorem isSome_slice? {s : String} {start stop : Nat} :
    (slice? s start stop).isSome = true ↔
      start ≤ stop ∧ isBoundary s start = true ∧ isBoundary s stop = true := by
  rw [isBoundary, isBoundary, String.Pos.Raw.isValid_eq_true_iff,
    String.Pos.Raw.isValid_eq_true_iff]
  unfold slice?
  split
  next h => exact iff_of_true rfl h
  next h => exact iff_of_false Bool.false_ne_true h

theorem eq_append_of_toList {s t : String} {cs : List Char} (h : s.toList = t.toList ++ cs) :
    s = t ++ String.ofList cs := by
  rw [String.ext_iff, String.toList_append, String.toList_ofList, h]

/-- A text that is not empty is its first character and the rest. -/
theorem eq_singleton_append {s : String} {c : Char} {cs : List Char} (h : s.toList = c :: cs) :
    s = String.singleton c ++ String.ofList cs :=
  eq_append_of_toList (by rw [h, String.toList_singleton, List.singleton_append])

/-- An offset that is not past the end is a boundary or inside a character. -/
theorem isBoundary_or_insideCharacter {s : String} {offset : Nat} (h : offset ≤ byteLength s) :
    isBoundary s offset = true ∨ InsideCharacter s offset := by
  rw [isBoundary_iff]
  -- By induction on the characters: the first one is before the offset, at it, or around it.
  generalize hs : s.toList = cs
  induction cs generalizing s offset with
  | nil =>
    obtain rfl : s = "" := String.toList_eq_nil_iff.1 hs
    exact .inl ⟨"", "", rfl, (Nat.le_zero.1 h).symm⟩
  | cons c cs ih =>
    obtain rfl := eq_singleton_append hs
    rw [byteLength_append, byteLength_singleton] at h
    rcases Nat.lt_or_ge offset c.utf8Size with hfirst | hrest
    · rcases Nat.eq_zero_or_pos offset with rfl | hpos
      · exact .inl ⟨"", _, by rw [String.empty_append], rfl⟩
      · refine .inr ⟨"", c, String.ofList cs, by rw [String.empty_append], hpos, ?_⟩
        exact Nat.lt_of_lt_of_le hfirst (Nat.le_add_left _ _)
    · have hle : offset - c.utf8Size ≤ byteLength (String.ofList cs) := by omega
      rcases ih hle (String.toList_ofList) with ⟨before, after, heq, hlength⟩ |
        ⟨before, d, after, heq, hbefore, hafter⟩
      · refine .inl ⟨String.singleton c ++ before, after, by rw [heq, String.append_assoc], ?_⟩
        rw [byteLength_append, byteLength_singleton]
        omega
      · refine .inr ⟨String.singleton c ++ before, d, after, ?_, ?_, ?_⟩
        · rw [heq, String.append_assoc, String.append_assoc, String.append_assoc]
        · rw [byteLength_append, byteLength_singleton]
          omega
        · rw [byteLength_append, byteLength_singleton]
          omega

/-- An offset inside a character is no boundary: a cut there would be before or after the
character. -/
theorem not_isBoundary_of_insideCharacter {s : String} {offset : Nat}
    (h : InsideCharacter s offset) :
    isBoundary s offset = false := by
  obtain ⟨before, c, after, rfl, hbefore, hafter⟩ := h
  refine Bool.of_not_eq_true fun hcut => ?_
  obtain ⟨first, second, heq, rfl⟩ := isBoundary_iff.1 hcut
  have hlists : before.toList ++ c :: after.toList = first.toList ++ second.toList := by
    rw [← String.toList_append, ← heq, String.toList_append, String.toList_append,
      String.toList_singleton, List.append_assoc, List.singleton_append]
  rcases List.append_eq_append_iff.1 hlists with ⟨between, hfirst, hrest⟩ | ⟨between, hbetween, -⟩
  · have hlength := congrArg byteLength (eq_append_of_toList hfirst)
    rw [byteLength_append] at hlength
    cases between with
    | nil =>
      rw [String.ofList_nil] at hlength
      exact absurd hlength (Nat.ne_of_gt hbefore)
    | cons d between =>
      obtain ⟨rfl, -⟩ := List.cons.inj hrest
      rw [eq_singleton_append String.toList_ofList, byteLength_append,
        byteLength_singleton] at hlength
      omega
  · have hlength := congrArg byteLength (eq_append_of_toList hbetween)
    rw [byteLength_append] at hlength
    omega

/-- **An offset of the text that is no boundary** is inside a character. -/
theorem isBoundary_eq_false_iff {s : String} {offset : Nat} (h : offset ≤ byteLength s) :
    isBoundary s offset = false ↔ InsideCharacter s offset := by
  constructor
  · intro hnot
    rcases isBoundary_or_insideCharacter h with hcut | hinside
    · rw [hcut] at hnot
      cases hnot
    · exact hinside
  · exact not_isBoundary_of_insideCharacter

theorem InsideCharacter.lt_byteLength {s : String} {offset : Nat} (h : InsideCharacter s offset) :
    offset < byteLength s := by
  obtain ⟨before, c, after, rfl, -, hafter⟩ := h
  rw [byteLength_append, byteLength_append, byteLength_singleton]
  omega

end Text

/-- **The offsets without a line and column** are those of a text that is too long, and those inside
a character. -/
theorem LineCol.ofOffset_eq_error_iff {text : String} {offset : Nat} {fault : Fault} :
    ofOffset text offset = .error fault ↔
      (fault = .textTooLong ∧ lineLimit ≤ Text.byteLength text) ∨
        fault = .insideCharacter ∧ Text.byteLength text < lineLimit ∧
          Text.InsideCharacter text offset := by
  have hhere : Text.isBoundary text (min offset (Text.byteLength text)) = false ↔
      Text.InsideCharacter text offset := by
    rw [Text.isBoundary_eq_false_iff (Nat.min_le_right _ _)]
    rcases Nat.le_total offset (Text.byteLength text) with hle | hge
    · rw [Nat.min_eq_left hle]
    · rw [Nat.min_eq_right hge]
      exact iff_of_false (fun h => Nat.lt_irrefl _ h.lt_byteLength)
        fun h => Nat.not_lt_of_le hge h.lt_byteLength
  rw [← hhere, ofOffset]
  by_cases hlong : lineLimit ≤ Text.byteLength text
  · have hnot : ¬Text.byteLength text < lineLimit := Nat.not_lt.2 hlong
    simp only [hlong, hnot, if_true, Except.error.injEq, and_true, false_and, and_false, or_false]
    exact eq_comm
  · have hshort : Text.byteLength text < lineLimit := Nat.lt_of_not_le hlong
    cases Text.isBoundary text (min offset (Text.byteLength text)) with
    | true => simp [hlong]
    | false => simp [hlong, hshort, eq_comm]

end ClosureWrap
