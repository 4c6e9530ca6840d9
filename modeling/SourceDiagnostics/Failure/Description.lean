import SourceDiagnostics.Failure.Basic
import SourceDiagnostics.Text.Lines

/-!
# Failures in words

The description of a failure is a list of lines. A mismatch has a line for what was met and
one for what was expected. A parser that gave up has the lines of its reasons, once the reasons
are put into order: messages first, then indentations, then the rest, each kind by its text.
-/

namespace SourceDiagnostics

/-- The relation that an ordering asks for. -/
def relationName : Ordering → String
  | .lt => "less than"
  | .eq => "equal to"
  | .gt => "greater than"

namespace Reason

variable {ε : Type} [Payload ε]

/-- The place of the kind of reason in the order of reasons. -/
def rank : Reason ε → Nat
  | .message _ => 0
  | .indentation .. => 1
  | .payload _ => 2
  | .nested _ => 2

/-- The reason in words. -/
def toText : Reason ε → String
  | .message text => text
  | .indentation expected reference actual =>
    "incorrect indentation (got " ++ toString actual ++ ", should be " ++
      relationName expected ++ " " ++ toString reference ++ ")"
  | .payload error => Payload.text error
  | .nested diagnostic =>
    "nested diagnostic with " ++ toString diagnostic.size ++ " report" ++
      if diagnostic.size = 1 then "" else "s"

/-- The order in which reasons are shown: by kind, then by their words. Different reasons may be
of one kind and have the same words. -/
def order (a b : Reason ε) : Ordering := (compare a.rank b.rank).then (compare a.toText b.toText)

/-- The different reasons in order. Of equal reasons the first one stays, and reasons that neither
kind nor words tell apart stay in the order in which they first occur. -/
def arrange [DecidableEq ε] (reasons : List (Reason ε)) : List (Reason ε) :=
  reasons.eraseDups.mergeSort fun a b ↦ (a.order b).isLE

end Reason

/-- The items as the choices of a sentence. -/
def alternatives : List String → String
  | [] => ""
  | [only] => only
  | [first, last] => first ++ " or " ++ last
  | items => ", ".intercalate items.dropLast ++ ", or " ++ items.getLastD ""

/-- The lines about an input that did not match. -/
def mismatchLines (unexpected : Option Item) (expected : ItemSet) : List String :=
  match unexpected, expected.toList with
  | none, [] => ["unknown parse error"]
  | some item, [] => ["unexpected " ++ item.toText]
  | none, items => ["expecting " ++ alternatives (items.map Item.toText)]
  | some item, items =>
    ["unexpected " ++ item.toText, "expecting " ++ alternatives (items.map Item.toText)]

/-- The lines about a parser that gave up. -/
def gaveUpLines {ε : Type} [Payload ε] [DecidableEq ε] (reasons : List (Reason ε)) : List String :=
  if reasons.isEmpty then ["unknown fancy parse error"]
  else (Reason.arrange reasons).flatMap fun reason ↦ Text.lines reason.toText

/-- The lines that describe a failure. -/
def Failure.description {ε : Type} [Payload ε] [DecidableEq ε] (failure : Failure ε) :
    List String :=
  match failure.cause with
  | .mismatch unexpected expected => mismatchLines unexpected expected
  | .gaveUp reasons => gaveUpLines reasons

/-- A mismatch is described in one or two lines. -/
theorem length_mismatchLines (unexpected : Option Item) (expected : ItemSet) :
    (mismatchLines unexpected expected).length = 1 ∨
      (mismatchLines unexpected expected).length = 2 := by
  unfold mismatchLines
  split <;> simp

end SourceDiagnostics
