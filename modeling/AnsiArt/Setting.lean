/-!
# Settings

A setting is something that was asked for: a value, or, if it was emptied, nothing at all. What an
emptied setting comes to is decided where the setting is used; most uses refuse it.
-/

namespace AnsiArt

/-- A value that was asked for, or a setting that was emptied. -/
inductive Setting (α : Type)
  | value (a : α)
  | void
  deriving DecidableEq

namespace Setting

variable {α : Type}

/-- The value, unless the setting was emptied. -/
def toOption : Setting α → Option α
  | value a => some a
  | void => none

/-- A setting as text; one that was emptied is an empty pair of brackets. -/
def toString [ToString α] : Setting α → String
  | value a => s!"{a}"
  | void => "[]"

instance [ToString α] : ToString (Setting α) := ⟨toString⟩

end Setting

end AnsiArt
