/-! Sets of code points, written as the points at which membership changes. -/

namespace Endpoints.Text

/-- The set that holds a code point when an odd number of `flips` are at most that point. The points
ascend. -/
structure CodeSet where
  flips : List Nat

namespace CodeSet

def ofFlips (flips : List Nat) : CodeSet := ⟨flips⟩

/-- Membership of `code`, where `inside` says whether the points passed so far are an odd number. -/
def within (code : Nat) (inside : Bool) : List Nat → Bool
  | [] => inside
  | flip :: rest => if code < flip then inside else within code (!inside) rest

def contains (set : CodeSet) (c : Char) : Bool :=
  within c.toNat false set.flips

end CodeSet

end Endpoints.Text
