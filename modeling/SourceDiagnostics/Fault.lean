import SourceDiagnostics.Place

/-!
# Faults

The ways in which an operation of the library can be refused. A fault is a mistake of the
caller or a limit of the number formats, never a finding about the text at hand.
-/

namespace SourceDiagnostics

/-- The reason for which an operation has no answer. -/
inductive Fault where
  /-- A span would begin after it ends. -/
  | reversedSpan (start stop : Place)
  /-- A line has a number beyond the greatest one. -/
  | lineOverflow
  /-- The bytes from `start` to `stop` are not all within the `size` bytes there are. -/
  | cutOutOfRange (start stop size : Nat)
  deriving DecidableEq, Repr

/-- The text that tells of a fault. -/
def Fault.message : Fault → String
  | .reversedSpan start stop =>
    "position begins after it ends: " ++ start.toPairText ++ " > " ++ stop.toPairText
  | .lineOverflow => "attempt to add with overflow"
  | .cutOutOfRange start stop size =>
    "bytes " ++ toString start ++ " to " ++ toString stop ++ " are out of range for " ++
      toString size ++ " bytes"

end SourceDiagnostics
