/-!
Powers of two and of ten, the scales of floats and of decimals.
-/

namespace Rulebook

def twoTo (k : Nat) : Nat := Nat.pow 2 k

def tenTo (k : Nat) : Nat := Nat.pow 10 k

end Rulebook
