import AnsiArt.Index

/-!
# Room

A canvas grows on demand. How far it can grow is a matter of the room it has: the number of slots to
be added has to be an index, and there has to be memory for all of them.

Main statement: `Room.shortage?_unlimited`, without a limit there is no shortage.
-/

namespace AnsiArt

/-- The room for slots: none too many, or as many as there is memory for. -/
inductive Room
  | unlimited
  | limited (available : Nat)
  deriving DecidableEq

/-- Why slots cannot be added, or why a slot to be filled is not there. -/
inductive Shortage
  | notIndex
  | exhausted
  | noSlot
  deriving DecidableEq

/-- The wording of a shortage. Nothing is said when memory is exhausted. -/
def Shortage.message : Shortage → String
  | notIndex => notIndexMessage
  | exhausted => ""
  | noSlot => "'NoneType' object has no attribute 'update'"

namespace Room

/-- The room of the program. -/
def standard : Room := .limited 0x100000000

/-- What keeps `more` slots from being added to `present` ones. A negative number of slots adds none,
but has to be an index as well. -/
def shortage? (r : Room) (present : Nat) (more : Int) : Option Shortage :=
  match r with
  | .unlimited => none
  | .limited available =>
    if !isIndex more then some .notIndex
    else if available < present + more then some .exhausted
    else none

@[simp] theorem shortage?_unlimited (present : Nat) (more : Int) :
    unlimited.shortage? present more = none := rfl

end Room

end AnsiArt
