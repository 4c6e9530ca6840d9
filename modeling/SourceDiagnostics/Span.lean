import SourceDiagnostics.Fault
import SourceDiagnostics.Numbering

/-!
# Locations and spans

A location is a place in a named file, a span the text from one place up to another. A span
built by `Span.between` begins no later than it ends; one filled in field by field, as when it
is read back from bytes, need not.
-/

namespace SourceDiagnostics

/-- A place in a named file. -/
structure Location where
  place : Place
  file : String
  deriving DecidableEq, Repr

/-- The text of a file from `start` up to, but without, `stop`. -/
structure Span where
  start : Place
  stop : Place
  file : String
  deriving DecidableEq, Repr

namespace Span

/-- The file name of a span that lies in no file. -/
def noFile : String := "<no-file>"

/-- The span that lies nowhere in particular. -/
def nowhere : Span := ⟨⟨1, 1⟩, ⟨1, 1⟩, noFile⟩

instance : Inhabited Span := ⟨nowhere⟩

/-- Whether the span begins no later than it ends. -/
def Ordered (s : Span) : Prop := (compare s.start s.stop).isLE = true

instance (s : Span) : Decidable s.Ordered := inferInstanceAs (Decidable (_ = true))

/-- The span from `start` up to `stop`; it may not begin after it ends. -/
def between (start stop : Place) (file : String) : Except Fault Span :=
  if (compare start stop).isLE then .ok ⟨start, stop, file⟩ else .error (.reversedSpan start stop)

/-- The span of one character at a location. At the greatest column it is empty. -/
def point (location : Location) : Span :=
  ⟨location.place,
    ⟨location.place.line, Numbering.nextOrGreatest location.place.column⟩, location.file⟩

/-- The order of two spans: by their starts, then by their stops. The files are left out, so
equally placed spans of two files compare equal without being equal. -/
def order (a b : Span) : Ordering := (compare a.start b.start).then (compare a.stop b.stop)

/-- Whether the span ends on another line than the one it begins on. -/
def crossesLines (s : Span) : Bool := s.start.line != s.stop.line

/-- Whether the span lies in a file. -/
def hasFile (s : Span) : Bool := s.file != noFile

/-- The span as one line of text: its file, then its two places. -/
def toText (s : Span) : String := s.file ++ "@" ++ s.start.toText ++ "-" ++ s.stop.toText

/-- A span is refused exactly when it would begin after it ends. -/
theorem between_eq_ok_iff {start stop : Place} {file : String} {s : Span} :
    between start stop file = .ok s ↔ s = ⟨start, stop, file⟩ ∧ s.Ordered := by
  unfold between
  split
  · next h =>
    simp only [Except.ok.injEq]
    exact ⟨fun he ↦ he ▸ ⟨rfl, h⟩, fun he ↦ he.1.symm⟩
  · next h =>
    simp only [reduceCtorEq, false_iff, not_and]
    rintro rfl ho
    exact h ho

/-- The span of one character begins no later than it ends. -/
theorem ordered_point (location : Location) : (point location).Ordered := by
  rw [Ordered, Place.isLE_compare_iff]
  refine .inr ⟨rfl, ?_⟩
  have := location.place.column.toNat_lt_size
  simp only [point, UInt32.le_iff_toNat_le, Numbering.toNat_nextOrGreatest]
  omega

/-- The span of one character is never refused. -/
theorem between_point (location : Location) :
    between (point location).start (point location).stop (point location).file =
      .ok (point location) :=
  between_eq_ok_iff.mpr ⟨rfl, ordered_point location⟩

end Span

end SourceDiagnostics
