import BearerRole.Text.Basic

/-!
Case mappings as data: runs of code points that move together, and the few code points that become
several. A mapping works on each code point by itself, whatever stands around it.
-/

namespace BearerRole.Text

set_option autoImplicit false

/-- The code points `first`, `first + stride`, … `last` go to `image`, `image + stride`, … in order. -/
structure CaseRun where
  first : CodePoint
  last : CodePoint
  stride : Nat
  image : CodePoint
  deriving Repr, DecidableEq

def CaseRun.covers (run : CaseRun) (c : CodePoint) : Bool :=
  run.first ≤ c && c ≤ run.last && (c - run.first) % run.stride == 0

structure CaseMap where
  runs : List CaseRun
  expansions : List (CodePoint × Text)
  deriving Repr, DecidableEq

namespace CaseMap

def point (m : CaseMap) (c : CodePoint) : Text :=
  match m.expansions.lookup c with
  | some image => image
  | none =>
      match m.runs.find? (·.covers c) with
      | some run => [run.image + (c - run.first)]
      | none => [c]

def apply (m : CaseMap) (t : Text) : Text := t.flatMap m.point

end CaseMap

end BearerRole.Text
