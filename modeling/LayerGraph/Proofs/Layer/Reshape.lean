import LayerGraph.Proofs.Layer.Known
import LayerGraph.Proofs.Layer.Words

/-! Reshapes as solutions.

A target fixes some of the extents of an output, and the number of elements has to stay. A reshape is built exactly if
one shape alone meets this, and then it has that shape. Where an extent is free, it solves an equation: it is the only
solution if the other extents have elements, and their number divides that of the input.
-/

set_option autoImplicit false

namespace LayerGraph

open Attempt Text

/-- What meets a wanted extent. -/
def Meets (input : Shape) (wanted : Int × Nat) (extent : Int) : Prop :=
  if wanted.1 = 0 then input[wanted.2]? = some extent else wanted.1 = unknown ∨ extent = wanted.1

section
variable {input target extents shape : Shape} {position : Nat}

end

/-! ### The open extent -/

namespace Shape

variable {extents shape : Shape}

end Shape

/-! ### Solutions -/

section
variable {input target extents shape : Shape}

section
variable {among : Int → Prop} (inputs : ∀ n ∈ input, among n)

include inputs

end

end

namespace Layer

section
variable {input target : Shape}

end

end Layer

end LayerGraph
