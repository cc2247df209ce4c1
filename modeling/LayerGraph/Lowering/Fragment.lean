import LayerGraph.Layer.Basic

/-! Fragments: the layers that one operator becomes, before they are wired to those of others.

References inside a fragment count from its own first layer. A pending port waits for a variable, a
produced port supplies one.
-/

set_option autoImplicit false

namespace LayerGraph

structure Fragment where
  layers : List Layer := []
  links : List (PortRef × PortRef) := []
  pending : List (PortRef × String) := []
  produced : List (String × PortRef) := []
  boundaryInputs : List Nat := []
  boundaryOutputs : List Nat := []
  provisional : List (String × Nat) := []
  deriving DecidableEq, Repr

namespace Fragment

/-- One layer that reads variables in slot order and writes one. -/
def ofLayer (layer : Layer) (reads : List String) (write : String) : Fragment where
  layers := [layer]
  pending := reads.zipIdx.map fun (name, slot) => (⟨0, slot⟩, name)
  produced := [(write, ⟨0, 0⟩)]

/-- A boundary layer that takes a variable in; a stored payload may take its place. -/
def feed (shape : Shape) (name : String) : Fragment where
  layers := [Layer.input shape]
  produced := [(name, ⟨0, 0⟩)]
  boundaryInputs := [0]
  provisional := [(name, 0)]

/-- A boundary layer that hands a variable out. -/
def fetch (shape : Shape) (name : String) : Fragment where
  layers := [Layer.output shape]
  pending := [(⟨0, 0⟩, name)]
  boundaryOutputs := [0]

/-- Two layers in a row: the first reads a variable, the second writes one. -/
def chain (first second : Layer) (read write : String) : Fragment where
  layers := [first, second]
  links := [(⟨0, 0⟩, ⟨1, 0⟩)]
  pending := [(⟨0, 0⟩, read)]
  produced := [(write, ⟨1, 0⟩)]

end Fragment

end LayerGraph
