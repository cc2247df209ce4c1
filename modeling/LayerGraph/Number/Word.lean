/-! Machine words: integers of 64 bits with a sign.
-/

set_option autoImplicit false

namespace LayerGraph.Number

/-- Words reach from the negative of this number up to the number before it. -/
def wordHalf : Nat := 0x8000000000000000

def isWord (n : Int) : Bool := -wordHalf ≤ n && n < wordHalf

end LayerGraph.Number
