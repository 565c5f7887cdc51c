/-
What the actions of a server do, one case after the other.

* `Server.Happens` — each way in which an action can go, with what the connection was doing;
* `Server.happens_of_step` — every step is one of the cases;
* `Server.Leads` — what a server can come to from where it is.
-/
import MailPolicy.Server.Basic

namespace MailPolicy.Server

variable {α : Type} {s t : Server α} {a : ServerAction α}

/-- What can happen to a server, and what it leads to. -/
inductive Happens (s : Server α) : ServerAction α → Server α → Prop
  | accept (now : Nat) (gate : Gate) : s.stage = .open → s.gate.enter? = some gate →
      Happens s (.accept now)
        { s with gate := gate, connections := s.connections ++ [.reading [] false (now + s.patience)] }
  | receive (connection : Nat) (octets arrived : List UInt8) (due : Nat) :
      s.connections[connection]? = some (.reading arrived false due) →
      Happens s (.receive connection octets)
        (s.setConnection connection (.reading (arrived ++ octets) false due))
  | finish (connection : Nat) (arrived : List UInt8) (due : Nat) :
      s.connections[connection]? = some (.reading arrived false due) →
      Happens s (.finish connection) (s.setConnection connection (.reading arrived true due))
  | expire (connection now : Nat) (arrived : List UInt8) (ended : Bool) (due : Nat) :
      s.connections[connection]? = some (.reading arrived ended due) → due ≤ now →
      Wire.readArrived? arrived ended = none →
      Happens s (.expire connection now) (s.setConnection connection (.leaving []))
  | lease (connection : Nat) (arrived : List UInt8) (ended : Bool) (due : Nat) (read : Reading) :
      s.connections[connection]? = some (.reading arrived ended due) →
      Wire.readArrived? arrived ended = some read →
      Happens s (.lease connection)
        { s.setConnection connection
            (.leased s.succession.leases.length s.succession.installed read) with
          succession := { s.succession with
            leases := s.succession.leases ++ [.held s.succession.installed] } }
  | decide (connection lease engine : Nat) (r : Request) (outcome : Except Fault (Decision α)) :
      s.connections[connection]? = some (.leased lease engine (.ok (some r))) →
      Happens s (.decide connection outcome)
        (s.setConnection connection (.decided lease engine outcome))
  | answerNone (connection lease engine : Nat) :
      s.connections[connection]? = some (.leased lease engine (.ok none)) →
      Happens s (.answer connection) (s.setConnection connection (.answered lease []))
  | answerError (connection lease engine : Nat) (e : Wire.ReadError) :
      s.connections[connection]? = some (.leased lease engine (.error e)) →
      Happens s (.answer connection)
        (s.setConnection connection
          (.answered lease (Wire.reply ((s.wording engine).answer
            (.error e.fault : Except Fault (Decision α))))))
  | answer (connection lease engine : Nat) (outcome : Except Fault (Decision α)) :
      s.connections[connection]? = some (.decided lease engine outcome) →
      Happens s (.answer connection)
        (s.setConnection connection
          (.answered lease (Wire.reply ((s.wording engine).answer outcome))))
  | drop (connection lease : Nat) (reply : Text) (succession : Succession) :
      s.connections[connection]? = some (.answered lease reply) →
      s.succession.step (.drop lease) = some succession →
      Happens s (.drop connection)
        { s.setConnection connection (.released lease reply) with succession := succession }
  | notify (connection lease : Nat) (reply : Text) (succession : Succession) :
      s.connections[connection]? = some (.released lease reply) →
      s.succession.step (.notify lease) = some succession →
      Happens s (.notify connection)
        { s.setConnection connection (.leaving reply) with succession := succession }
  | leave (connection : Nat) (reply : Text) :
      s.connections[connection]? = some (.leaving reply) →
      Happens s (.leave connection)
        { s.setConnection connection (.gone reply) with gate := s.gate.leave }
  | install (responses : Responses) :
      Happens s (.install responses)
        { s with
          succession := { s.succession with
            installed := s.succession.installed + 1
            displaced := s.succession.displaced ++ [s.succession.installed] }
          responses := s.responses ++ [responses] }
  | retire (a : SuccessionAction) (succession : Succession) : a.isRetirement = true →
      s.succession.step a = some succession →
      Happens s (.retire a) { s with succession := succession }
  | stop (now : Nat) : s.stage = .open →
      Happens s (.stop now) { s with stage := .closing (now + s.patience) }
  | close (due : Nat) : s.stage = .closing due → s.gate.releasesService = true →
      Happens s .close { s with stage := .closed }
  | giveUp (now due : Nat) : s.stage = .closing due → due ≤ now →
      Happens s (.giveUp now) { s with stage := .closed }

theorem happens_of_decide {connection : Nat} {outcome : Except Fault (Decision α)}
    (h : s.step (.decide connection outcome) = some t) : Happens s (.decide connection outcome) t := by
  simp only [step] at h
  split at h
  · rename_i lease engine r hc
    simp only [Succession.step] at h
    split at h
    · cases h
      exact .decide connection lease engine r outcome hc
    · cases h
  · cases h

theorem happens_of_answer {connection : Nat} (h : s.step (.answer connection) = some t) :
    Happens s (.answer connection) t := by
  simp only [step] at h
  split at h
  · cases h
    exact .answerNone connection _ _ ‹_›
  · cases h
    exact .answerError connection _ _ _ ‹_›
  · cases h
    exact .answer connection _ _ _ ‹_›
  · cases h

theorem happens_of_lease {connection : Nat} (h : s.step (.lease connection) = some t) :
    Happens s (.lease connection) t := by
  simp only [step] at h
  split at h
  · rename_i hc
    split at h
    · cases h
      exact .lease connection _ _ _ _ hc ‹_›
    · cases h
  · cases h

/-- Every step is one of the cases. -/
theorem happens_of_step (h : s.step a = some t) : Happens s a t := by
  cases a with
  | decide connection outcome => exact happens_of_decide h
  | answer connection => exact happens_of_answer h
  | lease connection => exact happens_of_lease h
  | install responses =>
    cases h
    exact .install responses
  | accept now =>
    simp only [step] at h
    split at h
    · obtain ⟨gate, hgate, rfl⟩ := Option.map_eq_some_iff.mp h
      exact .accept now gate ‹_› hgate
    · cases h
  | receive connection octets =>
    simp only [step] at h
    split at h
    · cases h
      exact .receive connection octets _ _ ‹_›
    · cases h
  | finish connection =>
    simp only [step] at h
    split at h
    · cases h
      exact .finish connection _ _ ‹_›
    · cases h
  | expire connection now =>
    simp only [step] at h
    split at h
    · obtain ⟨⟨hdue, hread⟩, rfl⟩ := by simpa using h
      exact .expire connection now _ _ _ ‹_› hdue hread
    · cases h
  | drop connection =>
    simp only [step] at h
    split at h
    · obtain ⟨succession, hstep, rfl⟩ := Option.map_eq_some_iff.mp h
      exact .drop connection _ _ succession ‹_› hstep
    · cases h
  | notify connection =>
    simp only [step] at h
    split at h
    · obtain ⟨succession, hstep, rfl⟩ := Option.map_eq_some_iff.mp h
      exact .notify connection _ _ succession ‹_› hstep
    · cases h
  | leave connection =>
    simp only [step] at h
    split at h
    · cases h
      exact .leave connection _ ‹_›
    · cases h
  | retire a =>
    simp only [step] at h
    split at h
    · obtain ⟨succession, hstep, rfl⟩ := Option.map_eq_some_iff.mp h
      exact .retire a succession ‹_› hstep
    · cases h
  | stop now =>
    simp only [step] at h
    split at h
    · cases h
      exact .stop now ‹_›
    · cases h
  | close =>
    simp only [step] at h
    split at h
    · split at h
      · cases h
        exact .close _ ‹_› ‹_›
      · cases h
    · cases h
  | giveUp now =>
    simp only [step] at h
    split at h
    · split at h
      · cases h
        exact .giveUp now _ ‹_› ‹_›
      · cases h
    · cases h

/-! ### Many actions -/

/-- What a server can come to. -/
inductive Leads (s : Server α) : Server α → Prop
  | refl : Leads s s
  | step {t u : Server α} (a : ServerAction α) : Leads s t → t.step a = some u → Leads s u

theorem Reachable.leads {settings : ServerSettings} {responses : Responses}
    (hs : s.Reachable settings responses) (h : s.Leads t) : t.Reachable settings responses := by
  induction h with
  | refl => exact hs
  | step a _ hstep ih => exact .step a ih hstep

theorem Leads.trans {u : Server α} (hst : s.Leads t) (htu : t.Leads u) : s.Leads u := by
  induction htu with
  | refl => exact hst
  | step a _ hstep ih => exact .step a ih hstep

theorem Leads.attempt (s : Server α) (a : ServerAction α) : s.Leads (s.attempt a) := by
  unfold Server.attempt
  cases hstep : s.step a with
  | none => exact .refl
  | some t => exact .step a .refl hstep

end MailPolicy.Server
