import LayerGraph.Layer.Kind
import LayerGraph.Shape
import LayerGraph.Text.Quoted

/-! References to ports, and the connections that a graph refuses.

A reference is the number of a node and a slot among its inputs or outputs.
-/

set_option autoImplicit false

namespace LayerGraph

structure PortRef where
  node : Int
  slot : Int := 0
  deriving DecidableEq, Repr, Inhabited

namespace PortRef

/-- Shift the node number. -/
def rebase (ref : PortRef) (offset : Int) : PortRef := ⟨ref.node + offset, ref.slot⟩

/-- The order by node, then by slot. -/
def le (a b : PortRef) : Bool := a.node < b.node || (a.node = b.node && a.slot ≤ b.slot)

def sort (refs : List PortRef) : List PortRef := refs.mergeSort le

def text (ref : PortRef) : String :=
  "PortRef(node=" ++ toString ref.node ++ ", slot=" ++ toString ref.slot ++ ")"

@[simp] theorem rebase_zero (ref : PortRef) : ref.rebase 0 = ref := by
  simp [rebase]

theorem rebase_rebase (ref : PortRef) (a b : Int) : (ref.rebase a).rebase b = ref.rebase (a + b) := by
  simp [rebase, Int.add_assoc]

end PortRef

/-- What is said of a shape that differs from the declared one. -/
def Shape.mismatchText (inferred declared : Shape) : String :=
  "Inferred shape " ++ inferred.text ++ " does not match declared shape " ++ declared.text

inductive GraphDefect where
  | bound (port : String) (source : PortRef)
  | replacement (old : LayerKind) (index : Int) (new : LayerKind)
  | boundary (inferred declared : Shape)
  deriving DecidableEq, Repr

def GraphDefect.message : GraphDefect → String
  | .bound port source => "Input port '" ++ port ++ "' is already bound to " ++ source.text
  | .replacement old index new =>
    "Cannot replace " ++ old.name ++ " node " ++ toString index ++ " with " ++ new.name
  | .boundary inferred declared => inferred.mismatchText declared

end LayerGraph
