import Tenancy.Server

/-!
# A server that cannot be reached

Where there is no way to a server, every attempt to log in fails, and nothing else can happen.
-/

namespace Tenancy

/-- A server that nobody gets to. -/
structure UnreachableServer where
  deriving DecidableEq, Repr

instance : Server UnreachableServer where
  logIn _ s := (none, s)
  send _ _ s := (.error .closed, s)
  run _ _ _ s := (.error .closed, s)
  leave _ s := s
  isClosed _ _ := true

end Tenancy
