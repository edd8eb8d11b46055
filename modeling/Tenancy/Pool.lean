import Tenancy.World

/-!
# Pools

A pool keeps the clients of one address. A client is taken for use and given back, or discarded; the
one that has rested longest is taken first, and those whose connections were closed meanwhile are
passed over. Pools are part of the world and known by their numbers in it.
-/

namespace Tenancy.Pool
variable {σ : Type} [Server σ]

/-- The pool of a number. -/
def get? (number : Nat) : Action σ (Option Pool) := return (← get).pools[number]?

/-- Changes the pool of a number. -/
def update (number : Nat) (f : Pool → Pool) : Action σ Unit :=
  modify fun w => { w with pools := w.pools.modify number f }

/-- A new client for a pool. -/
def openClient (p : Pool) : Action σ Client := do
  match ← p.address.logIn? p.tls with
  | some c => return c
  | none => throw (.pool .unavailable)

/-- The clients at rest, without those at the front whose connections are closed. -/
def dropClosed (idle : List Client) (server : σ) : List Client :=
  idle.dropWhile fun c => Server.isClosed c server

/-- Takes a client for use. -/
def take (number : Nat) : Action σ Client := do
  match ← get? number with
  | none => throw (.pool .unavailable)
  | some p =>
    if p.max ≤ p.lent then throw (.pool .unavailable)
    match dropClosed p.idle (← get).server with
    | c :: idle =>
      update number fun p => { p with idle, lent := p.lent + 1 }
      return c
    | [] =>
      update number fun p => { p with idle := [] }
      let c ← p.openClient
      update number fun p => { p with lent := p.lent + 1 }
      return c

/-- Gives a client back. -/
def giveBack (number : Nat) (c : Client) : Action σ Unit :=
  update number fun p => { p with idle := p.idle ++ [c], lent := p.lent - 1 }

/-- Takes a client out of use that is not to be used again, and closes its connection. -/
def discard (number : Nat) (c : Client) : Action σ Unit := do
  c.leave
  update number fun p => { p with lent := p.lent - 1 }

/-- Takes some clients one after the other. -/
def takeMany (number : Nat) : (count : Nat) → Action σ (List Client)
  | 0 => return []
  | count + 1 => do
    let c ← take number
    return c :: (← takeMany number count)

/-- Makes a pool with the least number of clients at rest, and gives its number. -/
def create (address : Address) (min max : Nat) : Action σ Nat := do
  if max = 0 ∨ max < min then throw (.pool (.bounds min max))
  let tls ← address.protection
  let number := (← get).pools.length
  modify fun w => { w with pools := w.pools ++ [{ address, tls, max }] }
  for c in ← takeMany number min do
    giveBack number c
  return number

end Tenancy.Pool
