/-!
# Walks

Everything that can be reached from some starts by following steps, each state once, in the order in
which a depth-first walk first meets it.
-/

namespace Chatflow

variable {σ : Type} [BEq σ]

/-- Follows steps from the states on a stack. The fuel bounds how many states are taken from the
stack; states in `seen`, newest first, are not met again. -/
def walkFrom (next : σ → List σ) : Nat → List σ → List σ → List σ
  | 0, seen, _ => seen
  | _ + 1, seen, [] => seen
  | fuel + 1, seen, s :: stack =>
    if seen.contains s then walkFrom next fuel seen stack
    else walkFrom next fuel (s :: seen) (next s ++ stack)

/-- The states that a walk meets, in order. -/
def walk (next : σ → List σ) (fuel : Nat) (starts : List σ) : List σ :=
  (walkFrom next fuel [] starts).reverse

end Chatflow
