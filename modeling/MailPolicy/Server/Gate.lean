/-
The gate: how many connections are served at a time.

The gate has a permit for each connection that may be inside.  Whoever finds no permit is sent away.  At the
end of the service the gate is asked for all its permits, or for as many as can be asked for at once.

* `Gate.ofSettings?` is the gate for a configured limit, if there can be one;
* `Gate.enter?` and `Gate.leave` take and give back a permit;
* `Gate.releasesService` says when the service may end.
-/
import MailPolicy.Text.Basic

namespace MailPolicy

/-- A gate. -/
structure Gate where
  /-- How many permits there are. -/
  limit : Nat
  /-- How many of them are taken. -/
  inside : Nat := 0
deriving DecidableEq, Repr

namespace Gate

/-- The most permits that a gate can have. -/
def maxLimit : Nat := 0x1FFFFFFFFFFFFFFF

/-- The most permits that can be asked for at once. -/
def maxAsked : Nat := 0xFFFFFFFF

/-- The gate for a configured limit; no limit at all is taken as one. -/
def ofSettings? (maxConnections : Nat) : Option Gate :=
  if max maxConnections 1 ≤ maxLimit then some { limit := max maxConnections 1 } else none

/-- How many permits are left. -/
def free (g : Gate) : Nat := g.limit - g.inside

/-- Takes a permit, if one is left. -/
def enter? (g : Gate) : Option Gate := if 0 < g.free then some { g with inside := g.inside + 1 } else none

/-- Gives back a permit. -/
def leave (g : Gate) : Gate := { g with inside := g.inside - 1 }

/-- How many permits the end of the service asks for. -/
def asked (g : Gate) : Nat := min g.limit maxAsked

/-- Whether the service may end without waiting any longer: nobody is inside, or the permits that it asks for
are there. -/
def releasesService (g : Gate) : Bool := g.inside = 0 || g.asked ≤ g.free

end Gate
end MailPolicy
