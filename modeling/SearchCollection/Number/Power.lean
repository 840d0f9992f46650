/-! # Powers of two and ten

The places of a number are powers of two in memory and powers of ten in text.
-/

namespace SearchCollection

/-- Two to the given power. -/
abbrev twoTo (places : Nat) : Nat := Nat.pow 2 places

/-- Ten to the given power. -/
abbrev tenTo (places : Nat) : Nat := Nat.pow 10 places

end SearchCollection
