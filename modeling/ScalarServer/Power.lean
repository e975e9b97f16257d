/-!
# Powers of two and of ten

The scales of binary and decimal numbers.
-/

namespace ScalarServer

/-- Two to a power. -/
def twoPow (k : Nat) : Nat :=
  Nat.pow 2 k

/-- Ten to a power. -/
def tenPow (k : Nat) : Nat :=
  Nat.pow 10 k

end ScalarServer
