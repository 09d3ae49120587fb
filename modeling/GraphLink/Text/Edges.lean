/-! # Classes of characters by their edges

    A class of characters that only a table can describe is kept as its **edges**: the code points
    at which it begins or ends, in ascending order.  Going up through the code points one starts
    outside the class and changes sides at every edge. -/

namespace GraphLink.Text

/-- Whether a character is in the class with these edges. -/
def withinEdges : List Nat → Char → Bool
  | [], _ => false
  | edge :: rest, c => if c.toNat < edge then false else !withinEdges rest c

end GraphLink.Text
