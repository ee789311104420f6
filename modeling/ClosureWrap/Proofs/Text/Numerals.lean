import ClosureWrap.Text.Blank
import ClosureWrap.Text.Numeral

/-!
# Numerals read back

A number is written in one way, but it may be read from many texts: with a sign, with leading zeros,
and with blanks around it. Among the texts without any of these there is one for each number, the
one in which the number is written. Its characters are digits, so that no blank, sign or separator
is ever found in it.

## Main definitions

* `Text.IsNumeral` — a numeral without sign and leading zeros

## Main results

* `Text.numeral?_toDigits` — reading finds the number that was written, if it is below the bound
* `Text.IsNumeral.exists_eq_decimal` — such a numeral is a number as it is written
* `Text.splitOnce?_of_notMem`, `Text.splitOnce?_append` — where a text is cut at a separator
-/

namespace ClosureWrap

namespace Text

/-! ### Digits -/

theorem isDigit_iff {c : Char} : c.isDigit = true ↔ 48 ≤ c.toNat ∧ c.toNat ≤ 57 := by
  rw [Char.isDigit, Bool.and_eq_true, decide_eq_true_eq, decide_eq_true_eq, ge_iff_le,
    UInt32.le_iff_toNat_le, UInt32.le_iff_toNat_le]
  rfl

theorem digitValue?_of_isDigit {c : Char} (h : c.isDigit = true) :
    digitValue? c = some (c.toNat - '0'.toNat) := by
  obtain ⟨hlow, hhigh⟩ := isDigit_iff.1 h
  exact if_pos ⟨hlow, hhigh⟩

/-- Every digit of a numeral is read, the highest first. -/
theorem digitsAfter?_of_isDigit {cs : List Char} (h : ∀ c ∈ cs, c.isDigit = true) (acc : Nat) :
    digitsAfter? acc cs = some (Nat.ofDigitChars 10 cs acc) := by
  induction cs generalizing acc with
  | nil => rw [digitsAfter?, Nat.ofDigitChars_nil]
  | cons c cs ih =>
    rw [digitsAfter?, digitValue?_of_isDigit (h c List.mem_cons_self), Option.bind_some,
      ih fun d hd => h d (List.mem_cons_of_mem _ hd), Nat.ofDigitChars_cons]

theorem isDigit_of_mem_toDigits {n : Nat} {c : Char} (h : c ∈ Nat.toDigits 10 n) :
    c.isDigit = true :=
  Nat.isDigit_of_mem_toDigits (by decide) (by decide) h

/-- A character that is no digit is not in a numeral. -/
theorem notMem_toDigits {c : Char} (h : c.isDigit = false) (n : Nat) : c ∉ Nat.toDigits 10 n := by
  intro hmem
  rw [isDigit_of_mem_toDigits hmem] at h
  cases h

theorem digits?_toDigits (n : Nat) : digits? (Nat.toDigits 10 n) = some n := by
  have hvalue := digitsAfter?_of_isDigit (fun c => isDigit_of_mem_toDigits (n := n)) 0
  rw [Nat.ofDigitChars_ten_toDigits] at hvalue
  obtain ⟨c, cs, hcons⟩ := List.exists_cons_of_ne_nil (Nat.toDigits_ne_nil (n := n) (b := 10))
  rw [hcons] at hvalue ⊢
  exact hvalue

/-- **A number that is written is read back**, if it is below the bound. -/
theorem numeral?_toDigits (bound n : Nat) :
    numeral? bound (Nat.toDigits 10 n) = if n < bound then some n else none := by
  have hsign : '+' ∉ Nat.toDigits 10 n := notMem_toDigits rfl n
  unfold numeral?
  split
  · rename_i rest hplus
    rw [hplus] at hsign
    exact absurd List.mem_cons_self hsign
  · simp only [digits?_toDigits, Option.filter_some, decide_eq_true_eq]

/-! ### Numerals without sign and leading zeros -/

/-- A decimal numeral without a sign and without leading zeros. -/
structure IsNumeral (s : String) : Prop where
  nonempty : s.toList ≠ []
  digits : ∀ c ∈ s.toList, c.isDigit = true
  noLeadingZero : s.toList.head? = some '0' → s.toList.length = 1

instance (s : String) : Decidable (IsNumeral s) :=
  decidable_of_iff (s.toList ≠ [] ∧ s.toList.all Char.isDigit = true ∧
      (s.toList.head? = some '0' → s.toList.length = 1))
    ⟨fun h => ⟨h.1, List.all_eq_true.1 h.2.1, h.2.2⟩,
      fun h => ⟨h.nonempty, List.all_eq_true.2 h.digits, h.noLeadingZero⟩⟩

theorem value_lt_ten {c : Char} (h : c.isDigit = true) : c.toNat - '0'.toNat < 10 := by
  obtain ⟨-, hhigh⟩ := isDigit_iff.1 h
  rw [show '0'.toNat = 48 from rfl]
  omega

/-- A digit is the numeral of its value. -/
theorem toDigits_value {c : Char} (h : c.isDigit = true) :
    Nat.toDigits 10 (c.toNat - '0'.toNat) = [c] := by
  obtain ⟨hlow, -⟩ := isDigit_iff.1 h
  rw [Nat.toDigits_of_lt_base (value_lt_ten h), List.singleton_inj, ← Char.toNat_inj,
    Nat.toNat_digitChar_of_lt_ten (value_lt_ten h), show '0'.toNat = 48 from rfl]
  omega

/-- Digits that follow a number other than zero make up a longer numeral. -/
theorem toDigits_append {acc : Nat} (hacc : 0 < acc) {cs : List Char}
    (h : ∀ c ∈ cs, c.isDigit = true) :
    Nat.toDigits 10 acc ++ cs = Nat.toDigits 10 (Nat.ofDigitChars 10 cs acc) := by
  induction cs generalizing acc with
  | nil => rw [List.append_nil, Nat.ofDigitChars_nil]
  | cons c cs ih =>
    have hc := h c List.mem_cons_self
    have hstep := Nat.toDigits_append_toDigits (by decide) hacc (value_lt_ten hc)
    rw [toDigits_value hc] at hstep
    rw [Nat.ofDigitChars_cons, ← ih (by omega) fun d hd => h d (List.mem_cons_of_mem _ hd), ← hstep,
      List.append_assoc, List.singleton_append]

/-- **A numeral without sign and leading zeros is a number as it is written.** -/
theorem IsNumeral.exists_eq_decimal {s : String} (h : IsNumeral s) : ∃ n, s = decimal n := by
  obtain ⟨hne, hdigits, hzero⟩ := h
  obtain ⟨c, cs, hcons⟩ := List.exists_cons_of_ne_nil hne
  rw [hcons] at hdigits hzero
  have hc := hdigits c List.mem_cons_self
  refine ⟨Nat.ofDigitChars 10 cs (c.toNat - '0'.toNat), ?_⟩
  rw [decimal, ← String.toList_inj, String.toList_ofList, hcons]
  rcases Nat.eq_zero_or_pos (c.toNat - '0'.toNat) with hvalue | hpos
  · -- The first digit is zero, so it is the only one.
    have hchar : ['0'] = [c] := by
      rw [← toDigits_value hc, hvalue, Nat.toDigits_zero]
    obtain rfl : cs = [] := by
      rw [← List.singleton_inj.1 hchar] at hzero
      simpa using hzero rfl
    rw [Nat.ofDigitChars_nil, toDigits_value hc]
  · rw [← toDigits_append hpos fun d hd => hdigits d (List.mem_cons_of_mem _ hd), toDigits_value hc,
      List.singleton_append]

/-! ### Blanks and separators -/

theorem isBlank_of_isDigit {c : Char} (h : c.isDigit = true) : isBlank c = false := by
  obtain ⟨hlow, hhigh⟩ := isDigit_iff.1 h
  simp only [isBlank, Bool.or_eq_false_iff, Bool.and_eq_false_iff, decide_eq_false_iff_not,
    beq_eq_false_iff_ne]
  omega

/-- Nothing is trimmed where there are no blanks. -/
theorem trim_of_notBlank {cs : List Char} (h : ∀ c ∈ cs, isBlank c = false) : trim cs = cs := by
  have hdrop {ds : List Char} (hds : ∀ c ∈ ds, isBlank c = false) : ds.dropWhile isBlank = ds := by
    cases ds with
    | nil => rfl
    | cons d ds => rw [List.dropWhile_cons, hds d List.mem_cons_self, if_neg Bool.false_ne_true]
  rw [trim, trimEnd, dropEndWhile, hdrop h,
    hdrop fun c hc => h c (List.mem_reverse.1 hc), List.reverse_reverse]

/-- A text without the first character of a separator is not cut. -/
theorem splitOnce?_of_notMem {a : Char} {sep cs : List Char} (h : a ∉ cs) :
    splitOnce? (a :: sep) cs = none := by
  induction cs with
  | nil => rfl
  | cons c cs ih =>
    rw [List.mem_cons, not_or] at h
    rw [splitOnce?, stripLead?, if_neg h.1, ih h.2]
    rfl

/-- A text is cut at the first separator. -/
theorem splitOnce?_append {a : Char} {before : List Char} (h : a ∉ before) (after : List Char) :
    splitOnce? [a] (before ++ a :: after) = some (before, after) := by
  induction before with
  | nil => rw [List.nil_append, splitOnce?, stripLead?, if_pos rfl, stripLead?]
  | cons b before ih =>
    rw [List.mem_cons, not_or] at h
    rw [List.cons_append, splitOnce?, stripLead?, if_neg h.1, ih h.2]
    rfl

end Text

end ClosureWrap
