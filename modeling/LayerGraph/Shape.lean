import LayerGraph.Text.CodePoints

/-! Shapes: lists of extents, outermost first. The extent -1 is unknown.
-/

set_option autoImplicit false

namespace LayerGraph

abbrev Shape := List Int

/-- The extent of a dimension whose size is not known. -/
def unknown : Int := -1

namespace Shape

/-- The number of elements of a shape with known extents. -/
def count (shape : Shape) : Int := shape.foldr (· * ·) 1

def text (shape : Shape) : String := Text.integers shape

@[simp] theorem count_nil : count [] = 1 := rfl

@[simp] theorem count_cons (extent : Int) (shape : Shape) :
    count (extent :: shape) = extent * count shape := rfl

/-- Two extents agree when they are equal or one of them is unknown. -/
def agree (a b : Int) : Bool := a = b || a = unknown || b = unknown

/-- Two shapes agree when they have one rank and agree at every position. -/
def compatible : Shape → Shape → Bool
  | [], [] => true
  | a :: as, b :: bs => agree a b && compatible as bs
  | _, _ => false

end Shape

end LayerGraph
