/-!
# Spans of bytes

Every position in this library counts UTF-8 bytes. A span is a start and a length, the form that
editors exchange; the end is derived. Positions are machine addresses, so the end of a span has to
fit in 64 bits, and a span whose end does not fit has no end at all: that is a `Fault`, not a
number.

## Main definitions

* `Fault` — the conditions under which an operation has no answer
* `Span`, `Span.ofRange`, `Span.stop`

## Main results

* `Span.stop_ofRange` — a span taken from a range inside the address space always has its end
-/

namespace ClosureWrap

/-- Addresses are the numbers below this bound. -/
def addressLimit : Nat := Nat.pow 2 64

/-- The conditions under which an operation stops without any answer. -/
inductive Fault where
  /-- The end of a span does not fit in an address. -/
  | addressOverflow
  /-- Lines were asked for in a text whose offsets do not fit in 32 bits. -/
  | textTooLong
  /-- A line and column were asked for at an offset strictly inside a character. -/
  | insideCharacter
  /-- A line or a column, counted from one, does not fit in 32 bits. -/
  | countOverflow
  deriving DecidableEq, Repr

/-- A half-open run of bytes, given by its first byte and its length. -/
structure Span where
  /-- Offset of the first byte. -/
  start : Nat
  /-- Number of bytes. -/
  length : Nat
  deriving DecidableEq, Repr

namespace Span

/-- The span of the range from `start` to `stop`. A reversed range is empty and keeps its start. -/
def ofRange (start stop : Nat) : Span := ⟨start, stop - start⟩

/-- Offset just past the last byte. -/
def stop (s : Span) : Except Fault Nat :=
  if s.start + s.length < addressLimit then .ok (s.start + s.length) else .error .addressOverflow

theorem stop_eq_ok_iff {s : Span} {e : Nat} :
    s.stop = .ok e ↔ s.start + s.length = e ∧ e < addressLimit := by
  unfold stop
  split
  · simp only [Except.ok.injEq]
    constructor
    · rintro rfl; exact ⟨rfl, by assumption⟩
    · exact fun h => h.1
  · simp only [reduceCtorEq, false_iff]
    rintro ⟨rfl, h⟩
    contradiction

/-- A range inside the address space has its end, the larger of its two ends. -/
theorem stop_ofRange {start stop : Nat} (hs : start < addressLimit) (he : stop < addressLimit) :
    (ofRange start stop).stop = .ok (max start stop) := by
  rw [stop_eq_ok_iff]
  simp only [ofRange]
  omega

end Span

end ClosureWrap
