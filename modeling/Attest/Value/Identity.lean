import Attest.Value.Kind

/-!
# Identity of values

Two pointers are the same when they point to the same location. A value without parts has no
identity apart from what it is, so it is the same as another when nothing tells them apart: for
floating-point numbers every bit counts. Values held in place with parts of their own are never the
same.
-/

namespace Attest.Kind

/-- Whether two values of one kind are the same, and not only equal. -/
def same : (kind : Kind) → kind.Value → kind.Value → Bool
  | .unit, _, _ => true
  | .bool, a, b => a == b
  | .char, c, d => c == d
  | .int, m, n => m == n
  | .float _, x, y => x == y
  | .option item, v, w => match v, w with
    | none, none => true
    | some a, some b => same item a b
    | _, _ => false
  | .pointer .owned target, p, q => same target p.target q.target
  | .pointer _ _, p, q => p.location == q.location
  | _, _, _ => false

end Attest.Kind
