import DeployBoard.Http.Message

/-!
# `Http.Library` — what the library that sends requests decides

Three things are left to the library that sends requests: which addresses it takes, how a body is unpacked that was
compressed, and how a text is read that is in none of the usual character sets. A `Library` says how it does them.
-/

namespace DeployBoard.Http

/-- **What can be had of a body.** -/
inductive Content where
  | whole (bytes : List Nat)
  /-- More of the body is needed. -/
  | unfinished
  /-- No body in this form begins so. -/
  | spoilt
  deriving DecidableEq, Repr

/-- **The library that sends requests**, as far as it is left open. -/
structure Library where
  /-- A request is sent to an address that is read so, and written so. The library refuses addresses that are too long, and
      hosts with characters that it does not send. -/
  takes : Url → String → Bool := fun _ _ => true
  /-- What a compressed body is unpacked to. -/
  unpack : List Nat → Content := fun _ => .spoilt
  /-- How texts in the character set of a name are read, beside the usual ones. -/
  charset? : String → Option (List Nat → List Char) := fun _ => none

end DeployBoard.Http
