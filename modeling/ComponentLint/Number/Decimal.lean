/-!
The bound on decimal texts of whole numbers. A number is neither written nor read with more digits;
other bases have no such bound.
-/

namespace ComponentLint.Number

/-- The most digits of a whole number in decimal. -/
def digitLimit : Nat := 4300

/-- Whether a whole number has a decimal text. -/
def isWritable (n : Int) : Bool := n.natAbs < Nat.pow 10 digitLimit

end ComponentLint.Number
