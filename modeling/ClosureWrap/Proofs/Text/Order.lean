import ClosureWrap.Text.LineCol

/-!
# The order of texts

Texts are ordered character by character, and characters by their code points. On disk a text is a
sequence of bytes, and other programs order texts by these. UTF-8 is made such that the two orders
are one. A character that takes more bytes starts with a larger one, and among characters that take
the same number of bytes the code point is spread over them from the highest digit to the lowest. So
the first character that differs shows in the bytes before anything that comes later does.

## Main results

* `Text.bytes_eq` — the bytes of a text, character by character
* `Text.utf8EncodeChar_lt` — a smaller character has smaller bytes, whatever comes after it
* `Text.bytes_lt_bytes` — a smaller text has smaller bytes
-/

namespace ClosureWrap

namespace Text

theorem bytes_eq (s : String) : bytes s = s.toList.flatMap String.utf8EncodeChar := by
  rw [bytes, ← String.utf8Encode_toList, List.utf8Encode, List.toList_data_toByteArray]

theorem cons_ofNat_lt {x y : Nat} {bs bs' : List UInt8} (hx : x < 256) (hy : y < 256) :
    UInt8.ofNat x :: bs < UInt8.ofNat y :: bs' ↔ x < y ∨ x = y ∧ bs < bs' := by
  rw [List.cons_lt_cons_iff, UInt8.lt_iff_toNat_lt, ← UInt8.toNat_inj, UInt8.toNat_ofNat_of_lt' hx,
    UInt8.toNat_ofNat_of_lt' hy]

/-- Numbers are ordered by their digits to the base 64, the highest first. -/
theorem digits_lt {v w : Nat} (h : v < w) :
    v / 262144 < w / 262144 ∨ v / 262144 = w / 262144 ∧
      (v / 4096 % 64 < w / 4096 % 64 ∨ v / 4096 % 64 = w / 4096 % 64 ∧
        (v / 64 % 64 < w / 64 % 64 ∨ v / 64 % 64 = w / 64 % 64 ∧ v % 64 < w % 64)) := by
  have digits (x : Nat) :
      x = 262144 * (x / 262144) + 4096 * (x / 4096 % 64) + 64 * (x / 64 % 64) + x % 64 := by
    omega
  have hv := digits v
  have hw := digits w
  have bound (x : Nat) : x % 64 < 64 := Nat.mod_lt x (by decide)
  have := bound (v / 4096)
  have := bound (v / 64)
  have := bound v
  have := bound (w / 4096)
  have := bound (w / 64)
  have := bound w
  generalize v / 262144 = v₃, v / 4096 % 64 = v₂, v / 64 % 64 = v₁, v % 64 = v₀ at *
  generalize w / 262144 = w₃, w / 4096 % 64 = w₂, w / 64 % 64 = w₁, w % 64 = w₀ at *
  omega

/-- **A smaller character has smaller bytes**, whatever comes after the two. -/
theorem utf8EncodeChar_lt {c d : Char} (h : c < d) (bs bs' : List UInt8) :
    String.utf8EncodeChar c ++ bs < String.utf8EncodeChar d ++ bs' := by
  rw [Char.lt_def, UInt32.lt_iff_toNat_lt] at h
  have hd : d.val.toNat < 1114112 := by
    have hvalid := d.valid
    simp only [UInt32.isValidChar, Nat.isValidChar] at hvalid
    omega
  have hdigits := digits_lt h
  have hlead (x : Nat) (hx : x < 1114112) : x / 262144 % 8 = x / 262144 := by omega
  have hc := hlead c.val.toNat (by omega)
  have hd' := hlead d.val.toNat hd
  unfold String.utf8EncodeChar
  simp only [hc, hd']
  -- One goal for each pair of lengths; if the lengths differ, the first bytes settle it.
  repeat' split
  all_goals simp (disch := omega) only [List.cons_append, List.nil_append, cons_ofNat_lt]
  all_goals omega

theorem flatMap_utf8EncodeChar_lt {cs ds : List Char} (h : cs < ds) :
    cs.flatMap String.utf8EncodeChar < ds.flatMap String.utf8EncodeChar := by
  induction h with
  | @nil d ds =>
    have hne : String.utf8EncodeChar d ≠ [] := String.utf8EncodeChar_ne_nil
    obtain ⟨b, bs, hbytes⟩ := List.exists_cons_of_ne_nil hne
    rw [List.flatMap_nil, List.flatMap_cons, hbytes]
    exact List.nil_lt_cons _ _
  | rel hlt =>
    rw [List.flatMap_cons, List.flatMap_cons]
    exact utf8EncodeChar_lt hlt _ _
  | cons _ ih =>
    rw [List.flatMap_cons, List.flatMap_cons]
    exact List.append_left_lt ih

/-- **A smaller text has smaller bytes.** -/
theorem bytes_lt_bytes {s t : String} (h : s < t) : bytes s < bytes t := by
  rw [bytes_eq, bytes_eq]
  exact flatMap_utf8EncodeChar_lt (String.lt_iff.1 h)

end Text

end ClosureWrap
