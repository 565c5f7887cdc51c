/-
A server at work on a clock.

Whatever can go on without time passing goes on at once: connections up to the point where their engine has to
wait, the workers of every engine, and those who retire engines.  Then time passes to the next timer: the end
of the time for reading, of a wait or of a look-up.  All that connections and engines do is made of the
actions of `Server.step`.

* `Service.start?` sets up a server, `Service.replace` installs another engine;
* `Service.connect`, `Service.receive` and `Service.finish` are what peers do;
* `Service.passTime` lets time pass;
* `Service.stop` tells the service to end.
-/
import MailPolicy.Engine.Progress
import MailPolicy.Server.Basic

namespace MailPolicy

/-- What a service can ask. -/
structure Surroundings where
  network : Network
  files : Files

/-- A decision under way. -/
structure Errand where
  connection : Nat
  engine : Nat
  suspended : Suspended

/-- A shutdown under way, with the kinds of checks whose pools are left. -/
structure Shutdown where
  retirer : Nat
  engine : Nat
  left : List CheckKind

/-- A server at work. -/
structure Service where
  server : Server Float
  /-- Every engine ever installed, by number. -/
  engines : List (Engine × EngineState)
  errands : List Errand := []
  shutdowns : List Shutdown := []
  clock : Nat

namespace Service

/-- A service with an engine, unless its server cannot be made. -/
def start? (settings : ServerSettings) (engine : Engine) (state : EngineState) : Option Service :=
  (Server.make? settings engine.responses).map fun server =>
    { server := server, engines := [(engine, state)], clock := state.clock }

/-- The service with the state of an engine changed. -/
def setState (s : Service) (engine : Nat) (state : EngineState) : Service :=
  { s with engines := s.engines.modify engine fun (e, _) => (e, state) }

/-- The service at another instant. -/
def setClock (s : Service) (now : Nat) : Service :=
  { s with
    clock := now
    engines := s.engines.map fun (e, state) =>
      (e, { state with clock := now, bench := { state.bench with now := now } }) }

/-- What was sent on a connection. -/
def sent (s : Service) (connection : Nat) : Text := (s.server.connections[connection]?.bind (·.reply?)).getD []

/-- Whether a connection has come to its end. -/
def isGone (s : Service) (connection : Nat) : Bool := (s.server.connections[connection]?.map (·.isGone)).getD true

/-! ### What goes on at once -/

/-- What becomes of a decision: its connection goes on to its end, or it is left waiting. -/
def follow (around : Surroundings) (connection engine : Nat) (s : Service) :
    Progress × EngineState → Service
  | (.over outcome, state) =>
    let server := s.server.attempt (.decide connection outcome)
    { s.setState engine (state.syncFiles around.files) with
      server := server.runConnection s.clock connection
      errands := s.errands.filter (·.connection != connection) }
  | (.waits p, state) =>
    { s.setState engine state with
      errands := s.errands.filter (·.connection != connection) ++ [⟨connection, engine, p⟩] }

/-- Lets a connection go on, and its engine begin to decide. -/
def runConnection (around : Surroundings) (s : Service) (connection : Nat) : Service :=
  let s : Service := { s with server := s.server.runConnection s.clock connection }
  match s.server.connections[connection]? with
  | some (.leased _ engine (.ok (some r))) =>
    if s.errands.any (·.connection == connection) then s
    else
      match s.engines[engine]? with
      | some (e, state) => s.follow around connection engine (e.start r state)
      | none => s
  | _ => s

/-- Lets the workers of all engines go on. -/
def runEngines (around : Surroundings) (s : Service) : Service :=
  { s with engines := s.engines.map fun (e, state) => (e, state.settle around.network) }

/-- Carries on a decision under way. -/
def runErrand (around : Surroundings) (s : Service) (errand : Errand) : Service :=
  match s.engines[errand.engine]? with
  | some (e, state) =>
    s.follow around errand.connection errand.engine (e.resume errand.suspended state)
  | none => s

/-- Goes on with the shutdown that a retirer has begun, if it has. -/
def runShutdown (around : Surroundings) (s : Service) (retirer : Nat) : Service :=
  match s.server.succession.retirers[retirer]? with
  | some (.closing engine _ _ _) =>
    match s.engines[engine]? with
    | some (_, state) =>
      let underWay := (s.shutdowns.find? (·.retirer == retirer)).map (·.left)
      let (left, state) := state.closePools around.network (underWay.getD state.poolKinds)
      let others := s.shutdowns.filter (·.retirer != retirer)
      let s := s.setState engine state
      if left.isEmpty then
        { s with server := s.server.attempt (.retire (.finish retirer)), shutdowns := others }
      else { s with shutdowns := others ++ [⟨retirer, engine, left⟩] }
    | none => s
  | _ => s

/-- Lets a retirer go on. -/
def runRetirer (around : Surroundings) (s : Service) (retirer : Nat) : Service :=
  { s with server := s.server.runRetirer retirer }.runShutdown around retirer

/-- Lets everyone go on once. -/
def runAll (around : Surroundings) (s : Service) : Service :=
  let s := (List.range s.server.connections.length).foldl (runConnection around) s
  let s := s.runEngines around
  let s := s.errands.foldl (runErrand around) s
  (List.range s.server.succession.retirers.length).foldl (runRetirer around) s

/-- So many times is enough for everyone to get to a point where he has to wait: each time somebody gets on by
a stage, a shutdown or to his end. -/
def enough (s : Service) : Nat :=
  (s.engines.flatMap fun (e, _) => e.stages).length * s.server.connections.length +
    s.server.connections.length + (s.engines.length + 1) * s.server.succession.retirers.length + 2

/-- Lets everyone go on until all have to wait. -/
def settle (around : Surroundings) (s : Service) : Service :=
  (List.range s.enough).foldl (fun s _ => s.runAll around) s

/-! ### Time -/

/-- The instants at which somebody stops to wait. -/
def timers (s : Service) : List Nat :=
  s.server.connections.filterMap (fun
    | .reading _ _ due => some due
    | _ => none) ++
  s.errands.map (·.suspended.due) ++
  s.engines.filterMap fun (_, state) => state.nextTimer?

/-- The next instant at which somebody stops to wait. -/
def nextTimer? (s : Service) : Option Nat := (s.timers.filter (s.clock < ·)).min?

/-- Lets time pass from timer to timer until the instant `due`. -/
def passTime (around : Surroundings) (due : Nat) (s : Service) : Service :=
  let settled := s.settle around
  let next := settled.nextTimer?.getD due
  if s.clock < next ∧ next < due then passTime around due (settled.setClock next)
  else (settled.setClock (max s.clock due)).settle around
termination_by due - s.clock
decreasing_by
  show due - next < due - s.clock
  omega

/-- Lets the time for reading pass, at most `fuel` times, until a connection has come to its end. -/
def passPatience (around : Surroundings) (connection : Nat) : Nat → Service → Service
  | 0, s => s
  | fuel + 1, s =>
    if s.isGone connection then s
    else passPatience around connection fuel (s.passTime around (s.clock + s.server.patience))

/-- The names that reputation lists were asked for. -/
def queries (s : Service) : List Text := s.engines.flatMap fun (_, state) => state.bench.queries

/-- The service with no record of what was asked. -/
def forgetAsked (s : Service) : Service :=
  { s with engines := s.engines.map fun (e, state) => (e, state.forgetAsked) }

/-! ### Peers -/

/-- A peer connects: the number of the connection, unless it is refused. -/
def connect (s : Service) : Option Nat × Service :=
  match s.server.step (.accept s.clock) with
  | some server => (some s.server.connections.length, { s with server := server })
  | none => (none, s)

/-- Octets arrive on a connection. -/
def receive (s : Service) (connection : Nat) (octets : List UInt8) : Service :=
  { s with server := s.server.attempt (.receive connection octets) }

/-- The peer of a connection is done. -/
def finish (s : Service) (connection : Nat) : Service :=
  { s with server := s.server.attempt (.finish connection) }

/-! ### Engines and the end -/

/-- Installs another engine. -/
def replace (s : Service) (engine : Engine) (state : EngineState) : Service :=
  { s with server := s.server.replace engine.responses, engines := s.engines ++ [(engine, state)] }

/-- Calls for the retirement of replaced engines. -/
def retire (s : Service) : Service := { s with server := s.server.attempt (.retire .call) }

/-- Which of those called to retire engines are done. -/
def retired (s : Service) : List Bool := s.server.succession.retirers.map (· == .done)

/-- The engine that serves new requests. -/
def current? (s : Service) : Option Engine := (s.engines[s.server.succession.installed]?).map (·.1)

/-- Tells the service to end.  The flag says whether it ends at once. -/
def stop (s : Service) : Bool × Service :=
  let server := s.server.attemptAll [.stop s.clock, .close]
  (server.stage == .closed, { s with server := server })

end Service
end MailPolicy
