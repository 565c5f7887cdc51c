/-
The server: connections, engines and the end of the service.

A connection is for one request.  Its octets are read until a request is complete, reading fails or the time
for it is up; then the installed engine is leased, decides on the request and words the reply.  The
connection leaves once the lease is given back.

* `Server.step` performs an action of a connection, of the engines or of the service if it is possible;
* `Server.Reachable` holds of what can come about;
* `Connection.reply?` is all that was sent on a connection, once it is known.
-/
import MailPolicy.Engine.Decision
import MailPolicy.Server.Gate
import MailPolicy.Server.Succession
import MailPolicy.Wire.Arrival

namespace MailPolicy

/-- What was read on a connection: a request, or none if the peer sent nothing but blank lines. -/
abbrev Reading := Except Wire.ReadError (Option Request)

/-- Where a connection stands. -/
inductive Connection (α : Type) where
  /-- Octets arrive, until the peer is done or the instant `due` comes. -/
  | reading (arrived : List UInt8) (ended : Bool) (due : Nat)
  /-- Everything has been read, and the engine of a lease is to answer. -/
  | leased (lease engine : Nat) (read : Reading)
  /-- The engine of the lease came to an outcome. -/
  | decided (lease engine : Nat) (outcome : Except Fault (Decision α))
  /-- A reply was sent, or none if it is empty. -/
  | answered (lease : Nat) (reply : Text)
  /-- The reference of the lease is gone. -/
  | released (lease : Nat) (reply : Text)
  /-- All is done but for giving back the permit. -/
  | leaving (reply : Text)
  | gone (reply : Text)

namespace Connection

variable {α : Type}

/-- All that is sent on a connection, as far as that is settled. -/
def reply? : Connection α → Option Text
  | answered _ reply => some reply
  | released _ reply => some reply
  | leaving reply => some reply
  | gone reply => some reply
  | _ => none

/-- Whether the connection has given back its permit. -/
def isGone : Connection α → Bool
  | gone _ => true
  | _ => false

/-- What was read on a connection whose reading is settled. -/
def read? : Connection α → Option Reading
  | reading arrived ended _ => Wire.readArrived? arrived ended
  | _ => none

end Connection

/-- Where the service stands. -/
inductive ServiceStage where
  /-- Connections are accepted. -/
  | open
  /-- No connection is accepted any more; those inside may finish until the instant `due`. -/
  | closing (due : Nat)
  | closed
deriving DecidableEq, Repr

/-- A server. -/
structure Server (α : Type) where
  settings : ServerSettings
  /-- The wording of replies, by engine. -/
  responses : List Responses
  succession : Succession := {}
  gate : Gate
  /-- Every connection ever accepted, by number. -/
  connections : List (Connection α) := []
  stage : ServiceStage := .open

/-- What can happen to a server. -/
inductive ServerAction (α : Type) where
  /-- A connection is accepted at the instant `now`. -/
  | accept (now : Nat)
  /-- Octets arrive on a connection. -/
  | receive (connection : Nat) (octets : List UInt8)
  /-- The peer says that it is done. -/
  | finish (connection : Nat)
  /-- The time for reading is up at the instant `now`. -/
  | expire (connection now : Nat)
  /-- Reading is settled and the installed engine is leased. -/
  | lease (connection : Nat)
  /-- The engine of the lease comes to an outcome on the request. -/
  | decide (connection : Nat) (outcome : Except Fault (Decision α))
  /-- The reply is sent, if there is to be one. -/
  | answer (connection : Nat)
  /-- The reference of the lease is dropped. -/
  | drop (connection : Nat)
  /-- The signal for the dropped reference is given. -/
  | notify (connection : Nat)
  /-- The permit is given back. -/
  | leave (connection : Nat)
  /-- A fresh engine with the given wording is installed. -/
  | install (responses : Responses)
  /-- An action that concerns replaced engines. -/
  | retire (a : SuccessionAction)
  /-- The service is told at the instant `now` to end. -/
  | stop (now : Nat)
  /-- The service ends because the gate lets it. -/
  | close
  /-- The service ends at the instant `now` because it has waited long enough. -/
  | giveUp (now : Nat)

/-- Whether an action concerns replaced engines and those who retire them. -/
def SuccessionAction.isRetirement : SuccessionAction → Bool
  | .push _ => true
  | .call => true
  | .register _ => true
  | .look _ => true
  | .count _ => true
  | .putBack _ => true
  | .begin _ => true
  | .finish _ => true
  | .conclude _ => true
  | .wake _ => true
  | _ => false

namespace Server

variable {α : Type}

/-- A server with a single engine, unless its gate cannot be made. -/
def make? (settings : ServerSettings) (responses : Responses) : Option (Server α) :=
  (Gate.ofSettings? settings.maxConnections).map fun gate =>
    { settings := settings, responses := [responses], gate := gate }

/-- The server with a connection changed. -/
def setConnection (s : Server α) (connection : Nat) (c : Connection α) : Server α :=
  { s with connections := s.connections.set connection c }

/-- Milliseconds within which a request must have been sent, and connections must have finished at the end. -/
def patience (s : Server α) : Nat := s.settings.readTimeout * 1000

/-- The wording of an engine's replies. -/
def wording (s : Server α) (engine : Nat) : Responses := (s.responses[engine]?).getD {}

/-- The state after an action, if the action is possible. -/
def step (s : Server α) : ServerAction α → Option (Server α)
  | .accept now =>
    if s.stage = .open then
      s.gate.enter?.map fun gate =>
        { s with gate := gate, connections := s.connections ++ [.reading [] false (now + s.patience)] }
    else none
  | .receive connection octets =>
    match s.connections[connection]? with
    | some (.reading arrived false due) =>
      some (s.setConnection connection (.reading (arrived ++ octets) false due))
    | _ => none
  | .finish connection =>
    match s.connections[connection]? with
    | some (.reading arrived false due) => some (s.setConnection connection (.reading arrived true due))
    | _ => none
  | .expire connection now =>
    match s.connections[connection]? with
    | some (.reading arrived ended due) =>
      if due ≤ now ∧ Wire.readArrived? arrived ended = none then
        some (s.setConnection connection (.leaving []))
      else none
    | _ => none
  | .lease connection =>
    match s.connections[connection]? with
    | some (.reading arrived ended _) =>
      match Wire.readArrived? arrived ended with
      | some read =>
        let lease := s.succession.leases.length
        (s.succession.step .lease).map fun succession =>
          { s.setConnection connection (.leased lease s.succession.installed read) with
            succession := succession }
      | none => none
    | _ => none
  | .decide connection outcome =>
    match s.connections[connection]? with
    | some (.leased lease engine (.ok (some _))) =>
      (s.succession.step (.decide lease)).map fun succession =>
        { s.setConnection connection (.decided lease engine outcome) with succession := succession }
    | _ => none
  | .answer connection =>
    match s.connections[connection]? with
    | some (.leased lease _ (.ok none)) => some (s.setConnection connection (.answered lease []))
    | some (.leased lease engine (.error e)) =>
      let outcome : Except Fault (Decision α) := .error e.fault
      some (s.setConnection connection
        (.answered lease (Wire.reply ((s.wording engine).answer outcome))))
    | some (.decided lease engine outcome) =>
      some (s.setConnection connection
        (.answered lease (Wire.reply ((s.wording engine).answer outcome))))
    | _ => none
  | .drop connection =>
    match s.connections[connection]? with
    | some (.answered lease reply) =>
      (s.succession.step (.drop lease)).map fun succession =>
        { s.setConnection connection (.released lease reply) with succession := succession }
    | _ => none
  | .notify connection =>
    match s.connections[connection]? with
    | some (.released lease reply) =>
      (s.succession.step (.notify lease)).map fun succession =>
        { s.setConnection connection (.leaving reply) with succession := succession }
    | _ => none
  | .leave connection =>
    match s.connections[connection]? with
    | some (.leaving reply) => some { s.setConnection connection (.gone reply) with gate := s.gate.leave }
    | _ => none
  | .install responses =>
    (s.succession.step .install).map fun succession =>
      { s with succession := succession, responses := s.responses ++ [responses] }
  | .retire a =>
    if a.isRetirement then (s.succession.step a).map fun succession => { s with succession := succession }
    else none
  | .stop now => if s.stage = .open then some { s with stage := .closing (now + s.patience) } else none
  | .close =>
    match s.stage with
    | .closing _ => if s.gate.releasesService then some { s with stage := .closed } else none
    | _ => none
  | .giveUp now =>
    match s.stage with
    | .closing due => if due ≤ now then some { s with stage := .closed } else none
    | _ => none

/-- What can come about in a server with the given settings and the given wording of its first engine. -/
inductive Reachable (settings : ServerSettings) (responses : Responses) : Server α → Prop where
  | start {s : Server α} : make? settings responses = some s → Reachable settings responses s
  | step {s t : Server α} (a : ServerAction α) :
      Reachable settings responses s → s.step a = some t → Reachable settings responses t

/-- Performs an action if it is possible. -/
def attempt (s : Server α) (a : ServerAction α) : Server α := (s.step a).getD s

/-- Performs the actions one after the other, each if it is possible. -/
def attemptAll (s : Server α) (as : List (ServerAction α)) : Server α := as.foldl attempt s

variable {settings : ServerSettings} {responses : Responses}

theorem Reachable.attempt {s : Server α} (h : Reachable settings responses s) (a : ServerAction α) :
    Reachable settings responses (s.attempt a) := by
  unfold Server.attempt
  cases hs : s.step a with
  | none => exact h
  | some t => exact .step a h hs

theorem Reachable.attemptAll {s : Server α} (h : Reachable settings responses s)
    (as : List (ServerAction α)) : Reachable settings responses (s.attemptAll as) := by
  induction as generalizing s with
  | nil => exact h
  | cons a rest ih => exact ih (h.attempt a)

/-- Installs a fresh engine and puts the one before on the list of replaced engines. -/
def replace (s : Server α) (responses : Responses) : Server α :=
  s.attemptAll [.install responses, .retire (.push s.succession.installed)]

/-- Lets a connection go on as far as it can without its engine: up to its lease, and from the outcome to its
end. -/
def runConnection (now : Nat) (s : Server α) (connection : Nat) : Server α :=
  s.attemptAll [.lease connection, .expire connection now, .answer connection, .drop connection,
    .notify connection, .leave connection]

/-- Lets a retirer go on until it begins a shutdown, parks or is done. -/
def runRetirer (s : Server α) (retirer : Nat) : Server α :=
  s.attemptAll ((Succession.retirerRun s.succession.retiring.length retirer).map ServerAction.retire)

end Server
end MailPolicy
