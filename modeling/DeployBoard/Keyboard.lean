/-!
# `Keyboard` — keys as they are pressed
-/

namespace DeployBoard

/-- **A key.** `other` stands for every key that nothing is bound to. -/
inductive Key where
  | char (c : Char)
  | enter | tab | escape | backspace | delete
  | up | down | left | right | home | end | pageUp | pageDown
  | function (n : Nat)
  | other
  deriving DecidableEq, Repr

/-- **A key with its modifiers.** -/
structure KeyPress where
  key : Key
  ctrl : Bool := false
  alt : Bool := false
  shift : Bool := false
  deriving DecidableEq, Repr

/-- A plain key. -/
def Key.press (key : Key) : KeyPress := { key }

end DeployBoard
