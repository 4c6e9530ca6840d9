import SourceDiagnostics.Diagnostic.Basic
import SourceDiagnostics.Failure.Item
import SourceDiagnostics.Payload

/-!
# Failures of a parser

A failure happens at a byte offset. Either the input did not match, and the items met and
expected are known, or the parser gave up for reasons of its own. Equal reasons count once and
their order does not matter, as they are always put into order before they are shown.
-/

namespace SourceDiagnostics

/-- A reason for which a parser gave up, with payloads of type `ε`. -/
inductive Reason (ε : Type) where
  /-- A message that the parser wrote itself. -/
  | message (text : String)
  /-- A line begins in column `actual`, which should have the given relation to `reference`. -/
  | indentation (expected : Ordering) (reference actual : UInt32)
  /-- An error of the parser's own kind. -/
  | payload (error : ε)
  /-- The finished diagnostic of a parser that ran inside this one. -/
  | nested (diagnostic : Diagnostic)
  deriving DecidableEq

/-- Why a parser failed. -/
inductive Cause (ε : Type) where
  /-- The input did not match: what was met, if that is known, and what was expected. -/
  | mismatch (unexpected : Option Item) (expected : ItemSet)
  /-- The parser gave up for the reasons in the list. -/
  | gaveUp (reasons : List (Reason ε))
  deriving DecidableEq

/-- A failure at a byte offset of the input. -/
structure Failure (ε : Type) where
  offset : Nat
  cause : Cause ε
  deriving DecidableEq

namespace Failure

variable {ε : Type}

/-- The input did not match at `offset`; of equal expected items one counts. -/
def mismatch (offset : Nat) (unexpected : Option Item) (expected : List Item) : Failure ε :=
  ⟨offset, .mismatch unexpected (.ofList expected)⟩

/-- The parser gave up at `offset`. -/
def gaveUp (offset : Nat) (reasons : List (Reason ε)) : Failure ε := ⟨offset, .gaveUp reasons⟩

/-- The parser gave up with a message. -/
def message (offset : Nat) (text : String) : Failure ε := gaveUp offset [.message text]

/-- The parser gave up with an error of its own kind. -/
def payload (offset : Nat) (error : ε) : Failure ε := gaveUp offset [.payload error]

/-- The parser gave up as one inside it did. -/
def nested (offset : Nat) (diagnostic : Diagnostic) : Failure ε :=
  gaveUp offset [.nested diagnostic]

/-- Whether the input did not match. -/
def isMismatch (failure : Failure ε) : Bool :=
  match failure.cause with
  | .mismatch .. => true
  | .gaveUp _ => false

/-- Two mismatches are equal when they expect the same items, however often and in whatever
order these are given. -/
theorem mismatch_congr {offset : Nat} {unexpected : Option Item} {first second : List Item}
    (h : ∀ item, item ∈ first ↔ item ∈ second) :
    (mismatch offset unexpected first : Failure ε) = mismatch offset unexpected second := by
  have : (.ofList first : ItemSet) = .ofList second :=
    Std.ExtTreeSet.ext_mem fun item ↦ by simp [Std.ExtTreeSet.mem_ofList, h item]
  simp [mismatch, this]

end Failure

end SourceDiagnostics
