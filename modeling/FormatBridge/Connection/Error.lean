set_option autoImplicit false

/-! # Why a connection fails -/

namespace FormatBridge

/-- Why a request was refused or a connection ended. -/
inductive TransportError where
  /-- The connection is over and takes no more requests. -/
  | stopped
  /-- Reading or writing failed with this text. -/
  | io (text : String)
  /-- The other side closed its stream while requests were waiting for a reply. -/
  | inputEnded (pending : Nat)
  deriving DecidableEq, Repr

/-- The wording of an error. -/
def TransportError.message : TransportError → String
  | .stopped => "service stopped"
  | .io text => text
  | .inputEnded pending =>
    "the underlying channel reached EOF with " ++ toString pending ++ " request(s) in flight"

end FormatBridge
