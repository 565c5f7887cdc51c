/-
Which engine a connection decides on.

A connection leases the installed engine when its request has been read, and refers to that engine
until it has been answered.  Connections come and go on their own leases, so an engine that a
connection still needs is leased, and a retirer does not shut it down.

* `Server.Leasing` — each connection has a lease of its own, and its engine is the one leased;
* `Server.Happens.leasing`, `Server.Reachable.leasing` — every action keeps that;
* `Server.Reachable.not_begun` — **no connection is on an engine whose shutdown was begun**.
-/
import MailPolicy.Proofs.Server.Happens
import MailPolicy.Proofs.Server.Succession

namespace MailPolicy

namespace Succession

variable {s t : Succession} {a : SuccessionAction}

/-- Retirers leave leases alone. -/
theorem Happens.leases_eq (h : Happens s a t) (ha : a.isRetirement = true) : t.leases = s.leases := by
  cases h with
  | lease | decide | drop | notify | install => cases ha
  | _ => rfl

theorem Happens.begun_grows (h : Happens s a t) : s.begun <+: t.begun := by
  cases h with
  | begin retirer engine => exact List.prefix_append s.begun [engine]
  | _ => exact List.prefix_refl s.begun

end Succession

namespace Connection

variable {α : Type}

/-- The lease that a connection has not given back. -/
def lease? : Connection α → Option Nat
  | leased lease _ _ => some lease
  | decided lease _ _ => some lease
  | answered lease _ => some lease
  | released lease _ => some lease
  | _ => none

/-- The lease by which a connection refers to an engine, and the engine. -/
def engine? : Connection α → Option (Nat × Nat)
  | leased lease engine _ => some (lease, engine)
  | decided lease engine _ => some (lease, engine)
  | _ => none

theorem lease?_of_engine? {x : Connection α} {lease engine : Nat}
    (h : x.engine? = some (lease, engine)) : x.lease? = some lease := by
  cases x with
  | leased | decided =>
    cases h
    rfl
  | _ => cases h

end Connection

namespace Server

variable {α : Type} {s t : Server α} {a : ServerAction α} {settings : ServerSettings}
  {responses : Responses}

/-! ### Engines and leases -/

/-- What happens to the engines of a server is what can happen to engines. -/
theorem Happens.succession (h : Happens s a t) :
    t.succession = s.succession ∨ ∃ b, s.succession.step b = some t.succession := by
  cases h with
  | lease => exact .inr ⟨.lease, rfl⟩
  | drop connection lease reply succession _ hstep => exact .inr ⟨.drop lease, hstep⟩
  | notify connection lease reply succession _ hstep => exact .inr ⟨.notify lease, hstep⟩
  | install => exact .inr ⟨.install, rfl⟩
  | retire b succession _ hstep => exact .inr ⟨b, hstep⟩
  | _ => exact .inl rfl

theorem make?_eq {s : Server α} (h : make? settings responses = some s) :
    s.succession = {} ∧ s.connections = [] := by
  obtain ⟨gate, -, rfl⟩ := Option.map_eq_some_iff.mp h
  exact ⟨rfl, rfl⟩

theorem Reachable.succession (h : s.Reachable settings responses) : s.succession.Reachable := by
  induction h with
  | start hmake =>
    rw [(make?_eq hmake).1]
    exact .start
  | step a _ hstep ih =>
    rcases (happens_of_step hstep).succession with heq | ⟨b, hb⟩
    · rwa [heq]
    · exact .step b ih hb

theorem Leads.begun_grows (h : s.Leads t) : s.succession.begun <+: t.succession.begun := by
  induction h with
  | refl => exact List.prefix_refl _
  | step a _ hstep ih =>
    rcases (happens_of_step hstep).succession with heq | ⟨b, hb⟩
    · rwa [heq]
    · exact ih.trans (Succession.happens_of_step hb).begun_grows

/-- Each connection has a lease of its own, which refers to the engine that it is to decide on. -/
structure Leasing (s : Server α) : Prop where
  held : ∀ (c : Nat) x lease engine, s.connections[c]? = some x → x.engine? = some (lease, engine) →
    s.succession.leases[lease]? = some (.held engine)
  taken : ∀ (c : Nat) x lease, s.connections[c]? = some x → x.lease? = some lease →
    lease < s.succession.leases.length
  apart : ∀ (c d : Nat) x y lease, s.connections[c]? = some x → s.connections[d]? = some y →
    x.lease? = some lease → y.lease? = some lease → c = d

namespace Leasing

variable {connection : Nat} {x y : Connection α}

theorem eq_or_of_set {c : Nat} {z : Connection α}
    (h : (s.connections.set connection y)[c]? = some z) :
    (c = connection ∧ z = y) ∨ (c ≠ connection ∧ s.connections[c]? = some z) := by
  by_cases hc : connection = c
  · subst hc
    obtain ⟨_, hz⟩ := List.getElem?_eq_some_iff.mp h
    exact .inl ⟨rfl, by simpa using hz.symm⟩
  · rw [List.getElem?_set_ne hc] at h
    exact .inr ⟨Ne.symm hc, h⟩

/-- One connection goes on, and only its own lease changes or a lease is new. -/
theorem setConnection (h : s.Leasing) (hx : s.connections[connection]? = some x)
    (succession : Succession)
    (hlength : s.succession.leases.length ≤ succession.leases.length)
    (hothers : ∀ lease l, s.succession.leases[lease]? = some l → x.lease? ≠ some lease →
      succession.leases[lease]? = some l)
    (hlease : ∀ lease, y.lease? = some lease → lease < succession.leases.length ∧
      (x.lease? = some lease ∨ s.succession.leases.length ≤ lease))
    (hheld : ∀ lease engine, y.engine? = some (lease, engine) →
      succession.leases[lease]? = some (.held engine)) :
    Leasing { s.setConnection connection y with succession := succession } where
  held c z lease engine hz hengine := by
    rcases eq_or_of_set hz with ⟨rfl, rfl⟩ | ⟨hc, hold⟩
    · exact hheld lease engine hengine
    · -- The lease is not that of the connection that goes on.
      refine hothers lease _ (h.held c z lease engine hold hengine) fun hlease => hc ?_
      exact h.apart c connection z x lease hold hx (Connection.lease?_of_engine? hengine) hlease
  taken c z lease hz hl := by
    rcases eq_or_of_set hz with ⟨rfl, rfl⟩ | ⟨-, hold⟩
    · exact (hlease lease hl).1
    · exact Nat.lt_of_lt_of_le (h.taken c z lease hold hl) hlength
  apart c d z w lease hz hw hzl hwl := by
    have hnew {c : Nat} {z : Connection α} (hc : c ≠ connection) (hold : s.connections[c]? = some z)
        (hzl : z.lease? = some lease) (hyl : y.lease? = some lease) : False := by
      -- A lease that the connection has only now is newer than those of all others.
      rcases (hlease lease hyl).2 with hxl | hge
      · exact hc (h.apart c connection z x lease hold hx hzl hxl)
      · exact absurd (h.taken c z lease hold hzl) (Nat.not_lt.mpr hge)
    rcases eq_or_of_set hz with ⟨rfl, rfl⟩ | ⟨hc, hold⟩ <;>
      rcases eq_or_of_set hw with ⟨rfl, rfl⟩ | ⟨hd, hold'⟩
    · rfl
    · exact (hnew hd hold' hwl hzl).elim
    · exact (hnew hc hold hzl hwl).elim
    · exact h.apart c d z w lease hold hold' hzl hwl

/-- A connection goes on that takes no lease and gives none back. -/
theorem advance (h : s.Leasing) (hx : s.connections[connection]? = some x)
    (hlease : ∀ lease, y.lease? = some lease → x.lease? = some lease)
    (hheld : ∀ held, y.engine? = some held → x.engine? = some held) :
    (s.setConnection connection y).Leasing := by
  refine h.setConnection hx s.succession (Nat.le_refl _) (fun _ _ hl _ => hl) (fun lease hl => ?_)
    (fun lease engine hy => ?_)
  · exact ⟨h.taken connection x lease hx (hlease lease hl), .inl (hlease lease hl)⟩
  · exact h.held connection x lease engine hx (hheld _ hy)

/-- A connection that has not been read has no lease. -/
theorem accept (h : s.Leasing) (due : Nat) (gate : Gate) :
    Leasing { s with gate := gate, connections := s.connections ++ [.reading [] false due] } := by
  have hold {c : Nat} {z : Connection α} {lease : Nat}
      (hz : (s.connections ++ [.reading [] false due])[c]? = some z) (hl : z.lease? = some lease) :
      s.connections[c]? = some z := by
    rw [List.getElem?_append] at hz
    split at hz
    · exact hz
    · obtain rfl := List.mem_singleton.mp (List.mem_of_getElem? hz)
      cases hl
  refine ⟨fun c z lease engine hz hengine => ?_, fun c z lease hz hl => ?_,
    fun c d z w lease hz hw hzl hwl => ?_⟩
  · exact h.held c z lease engine (hold hz (Connection.lease?_of_engine? hengine)) hengine
  · exact h.taken c z lease (hold hz hl) hl
  · exact h.apart c d z w lease (hold hz hzl) (hold hw hwl) hzl hwl

/-- Nothing happens to connections and leases. -/
theorem of_eq (h : s.Leasing) (hconnections : t.connections = s.connections)
    (hleases : t.succession.leases = s.succession.leases) : t.Leasing where
  held := by simpa only [hconnections, hleases] using h.held
  taken := by simpa only [hconnections, hleases] using h.taken
  apart := by simpa only [hconnections] using h.apart

end Leasing

theorem Happens.leasing (ha : Happens s a t) (h : s.Leasing) : t.Leasing := by
  cases ha with
  | accept now gate hopen hgate => exact h.accept _ gate
  | receive connection octets arrived due hc => exact h.advance hc nofun nofun
  | finish connection arrived due hc => exact h.advance hc nofun nofun
  | expire connection now arrived ended due hc => exact h.advance hc nofun nofun
  | lease connection arrived ended due read hc hread =>
    -- The new lease has the next number and is of the installed engine.
    refine h.setConnection hc _ (by simp) (fun lease l hl _ => ?_) (fun lease hl => ?_)
      (fun lease engine hy => ?_)
    · rw [← hl]
      exact List.getElem?_append_left (List.getElem?_eq_some_iff.mp hl).1
    · obtain rfl := Option.some.inj hl
      exact ⟨by simp, .inr (Nat.le_refl _)⟩
    · obtain ⟨rfl, rfl⟩ := Prod.mk.inj (Option.some.inj hy)
      exact List.getElem?_concat_length
  | decide connection lease engine r outcome hc => exact h.advance hc (fun _ => id) (fun _ => id)
  | answerNone connection lease engine hc => exact h.advance hc (fun _ => id) nofun
  | answerError connection lease engine e hc => exact h.advance hc (fun _ => id) nofun
  | answer connection lease engine outcome hc => exact h.advance hc (fun _ => id) nofun
  | drop connection lease reply succession hc hstep =>
    cases Succession.happens_of_step hstep with
    | drop _ engine _ =>
      refine h.setConnection hc _ (by simp [Succession.setLease]) (fun other l hl hne => ?_)
        (fun other hother => ?_) nofun
      · rw [← hl]
        exact List.getElem?_set_ne fun heq => hne (congrArg some heq)
      · obtain rfl := Option.some.inj hother
        exact ⟨by simpa [Succession.setLease] using h.taken connection _ lease hc rfl, .inl rfl⟩
  | notify connection lease reply succession hc hstep =>
    cases Succession.happens_of_step hstep with
    | notify _ _ =>
      refine h.setConnection hc _ (by simp [Succession.setLease]) (fun other l hl hne => ?_)
        nofun nofun
      rw [← hl]
      exact List.getElem?_set_ne fun heq => hne (congrArg some heq)
  | leave connection reply hc =>
    have hleft : (s.setConnection connection (.gone reply)).Leasing := h.advance hc nofun nofun
    exact hleft.of_eq rfl rfl
  | install responses => exact h.of_eq rfl rfl
  | retire b succession hb hstep =>
    exact h.of_eq rfl ((Succession.happens_of_step hstep).leases_eq hb)
  | stop | close | giveUp => exact h.of_eq rfl rfl

theorem Reachable.leasing (h : s.Reachable settings responses) : s.Leasing := by
  induction h with
  | start hmake =>
    obtain ⟨-, hnone⟩ := make?_eq hmake
    constructor <;> simp [hnone]
  | step a _ hstep ih => exact (happens_of_step hstep).leasing ih

/-- **No connection is on an engine whose shutdown was begun.** -/
theorem Reachable.not_begun (h : s.Reachable settings responses) {connection lease engine : Nat}
    {x : Connection α} (hx : s.connections[connection]? = some x)
    (hengine : x.engine? = some (lease, engine)) : engine ∉ s.succession.begun := by
  intro hbegun
  have hheld := h.leasing.held connection x lease engine hx hengine
  exact h.succession.sound.not_leased hbegun (List.mem_of_getElem? hheld)

end Server
end MailPolicy
