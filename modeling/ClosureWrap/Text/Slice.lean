/-!
# Slices of a text

A slice is asked for by two byte offsets. It exists when both offsets fall between characters and
are in order; otherwise there is no such slice. What a slice is, in terms of the text alone, is
`slice?_eq_some_iff`: the middle of a three-part split whose outer lengths are the offsets.

## Main definitions

* `isBoundary` — whether an offset falls between two characters, or at an end
* `slice?` — the text between two offsets
* `byteLength` — the number of bytes of a text

## Main results

* `slice?_eq_some_iff` — slices are exactly the middles of splits
-/

namespace ClosureWrap

namespace Text

/-- The number of bytes that a text takes. -/
def byteLength (s : String) : Nat := s.utf8ByteSize

/-- Whether `offset` falls between two characters of `s`, or at one of its ends. -/
def isBoundary (s : String) (offset : Nat) : Bool := String.Pos.Raw.isValid s ⟨offset⟩

/-- The text of `s` from byte `start` up to byte `stop`, when both are boundaries in order. -/
def slice? (s : String) (start stop : Nat) : Option String :=
  if h : start ≤ stop ∧ String.Pos.Raw.IsValid s ⟨start⟩ ∧ String.Pos.Raw.IsValid s ⟨stop⟩ then
    some (s.extract ⟨⟨start⟩, h.2.1⟩ ⟨⟨stop⟩, h.2.2⟩)
  else
    none

/-- A slice is the middle of a split of the text whose parts have the lengths asked for. -/
theorem slice?_eq_some_iff {s m : String} {start stop : Nat} :
    slice? s start stop = some m ↔ ∃ before after, s = before ++ m ++ after ∧
      before.utf8ByteSize = start ∧ before.utf8ByteSize + m.utf8ByteSize = stop := by
  unfold slice?
  constructor
  · intro h
    split at h
    next hv =>
      cases h
      obtain ⟨hle, hs, he⟩ := hv
      have hbound : stop ≤ s.toByteArray.size := he.le_rawEndPos
      have hfirst : (s.extract s.startPos ⟨⟨start⟩, hs⟩).utf8ByteSize = start := by
        simp only [← String.size_toByteArray, String.toByteArray_extract, ByteArray.size_extract,
          String.offset_startPos, String.Pos.Raw.byteIdx_zero]
        omega
      refine ⟨s.extract s.startPos ⟨⟨start⟩, hs⟩, s.extract ⟨⟨stop⟩, he⟩ s.endPos, ?_, hfirst, ?_⟩
      · rw [← String.toByteArray_inj]
        simp only [String.toByteArray_append, String.toByteArray_extract, String.offset_startPos,
          String.Pos.Raw.byteIdx_zero, String.offset_endPos, String.byteIdx_rawEndPos,
          ByteArray.extract_append_extract, Nat.zero_min, Nat.max_eq_right hle]
        rw [Nat.max_eq_right (by simpa using hbound), ← String.size_toByteArray,
          ByteArray.extract_zero_size]
      · rw [hfirst]
        simp only [← String.size_toByteArray, String.toByteArray_extract, ByteArray.size_extract]
        omega
    next => cases h
  · rintro ⟨before, after, rfl, rfl, rfl⟩
    have hs : String.Pos.Raw.IsValid (before ++ m ++ after) ⟨before.utf8ByteSize⟩ :=
      String.Pos.Raw.isValid_iff_exists_append.2
        ⟨before, m ++ after, by rw [String.append_assoc], rfl⟩
    have he : String.Pos.Raw.IsValid (before ++ m ++ after)
        ⟨before.utf8ByteSize + m.utf8ByteSize⟩ :=
      String.Pos.Raw.isValid_iff_exists_append.2
        ⟨before ++ m, after, rfl, by simp [String.Pos.Raw.ext_iff]⟩
    rw [dif_pos ⟨Nat.le_add_right _ _, hs, he⟩, Option.some.injEq, ← String.toByteArray_inj]
    simp only [String.toByteArray_extract, String.toByteArray_append, ByteArray.append_assoc,
      ← String.size_toByteArray]
    exact (@ByteArray.extract_append_size_add before.toByteArray
      (m.toByteArray ++ after.toByteArray) 0 m.toByteArray.size).trans
      (ByteArray.extract_append_eq_left rfl)

end Text

end ClosureWrap
