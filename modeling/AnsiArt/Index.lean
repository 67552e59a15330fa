/-!
# Indices

The members of a list are counted and numbered by integers of 64 bits. An integer beyond that is
refused wherever it would be such a number, in whichever direction it is too large.
-/

namespace AnsiArt

/-- Whether an integer has 64 bits, so that it can count or number the members of a list. -/
def isIndex (n : Int) : Bool := -0x8000000000000000 ≤ n && n ≤ 0x7fffffffffffffff

/-- The wording of an integer that is refused as an index. -/
def notIndexMessage : String := "cannot fit 'int' into an index-sized integer"

end AnsiArt
