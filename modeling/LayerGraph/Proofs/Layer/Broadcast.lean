import LayerGraph.Layer.Basic
import LayerGraph.Proofs.Layer.Words
import Mathlib.Data.List.Forall2

/-! Sums as least common expansions.

An extent of one may be any extent, another one only itself. Two shapes are placed into the rank of the longer one, and
their sum has the least shape that both expand to, if there is one. It is found axis by axis, and on every axis by the
order of a few cases.
-/

set_option autoImplicit false

namespace LayerGraph

open Attempt Text

/-! ### One axis -/

section
variable {x y z w : Int}

end

/-! ### Axes in line -/

section
variable {xs ys zs ws : Shape}

end

/-! ### Shapes of different ranks -/

namespace Shape

section
variable {rank offset : Nat} {shape expanded : Shape}

end

/-- Where the extents of the second shape of a sum begin: at the axis, if it has a lower rank and the axis is not
negative, and otherwise where it ends with the first one. -/
def summandOffset (a b : Shape) (axis : Int) : Nat :=
  if b.length < a.length ∧ 0 ≤ axis then axis.toNat else max a.length b.length - b.length

/-- The second shape of a sum does not reach beyond the first one from an axis that applies to it. -/
def FitsAt (a b : Shape) (axis : Int) : Prop := b.length < a.length → 0 ≤ axis → axis + b.length ≤ a.length

section
variable {a b : Shape} {axis : Int}

theorem FitsAt.room (fits : FitsAt a b axis) : summandOffset a b axis + b.length ≤ max a.length b.length := by
  unfold summandOffset
  split
  · next applies =>
    have := fits applies.1 applies.2
    omega
  · omega

end

end Shape

/-! ### Sums -/

section
variable {a b : Shape} {axis : Int}

open Shape

end

namespace Layer

open Shape

section
variable {a b : Shape} {axis : Int}

end

end Layer

end LayerGraph
