/-
Engines are swapped without harm to requests.

A service closes the pools of an engine when a retirer shuts it down, and never else.  An engine that
a connection is to decide on is not shut down, so its pools are open for all of the decision.

* `Service.Lives` — what a service can come to, move by move;
* `Service.Lives.settle`, `Service.Lives.passTime` — letting time pass is made of these moves;
* `Service.Sound` — an engine whose shutdown was not begun has open pools, and whoever waits for a
  decision waits on the engine that it leased;
* `Server.ShutsDownSafely`, `Service.Unrefused` — what is to be shown of servers and of services;
* `Server.swap_safe` — **engines are shut down once, when replaced and no longer leased, and no request
  is decided on them or refused by their pools after that**.
-/
import MailPolicy.Proofs.Engine.Openness
import MailPolicy.Proofs.Server.Leases
import MailPolicy.Server.Service

namespace MailPolicy

/-! ### What moves of a server leave alone -/

theorem Succession.Happens.installed_eq {s t : Succession} {a : SuccessionAction}
    (h : Succession.Happens s a t) (ha : a ≠ .install) : t.installed = s.installed := by
  cases h with
  | install => exact absurd rfl ha
  | _ => rfl

/-- Whether an action installs an engine. -/
def ServerAction.installs {α : Type} : ServerAction α → Bool
  | install _ => true
  | _ => false

namespace Server

variable {α : Type} {s t u : Server α} {a : ServerAction α} {out : List Nat}

theorem Happens.installed_eq (h : Happens s a t) (ha : a.installs = false) :
    t.succession.installed = s.succession.installed := by
  cases h with
  | install => cases ha
  | drop connection lease reply succession _ hstep =>
    exact (Succession.happens_of_step hstep).installed_eq nofun
  | notify connection lease reply succession _ hstep =>
    exact (Succession.happens_of_step hstep).installed_eq nofun
  | retire b succession hb hstep =>
    exact (Succession.happens_of_step hstep).installed_eq (by rintro rfl; cases hb)
  | _ => rfl

/-- A connection that is to decide waits for the outcome. -/
theorem Happens.leased {connection lease engine : Nat} {r : Request} (h : Happens s a t)
    (hc : s.connections[connection]? = some (.leased lease engine (.ok (some r))))
    (ha : ∀ outcome, a ≠ .decide connection outcome) :
    t.connections[connection]? = some (.leased lease engine (.ok (some r))) := by
  have hother {other : Nat} {x y : Connection α} (hx : s.connections[other]? = some x)
      (hne : x ≠ .leased lease engine (.ok (some r))) :
      (s.connections.set other y)[connection]? = some (.leased lease engine (.ok (some r))) := by
    rw [List.getElem?_set_ne, hc]
    rintro rfl
    exact hne (Option.some.inj (hx.symm.trans hc))
  cases h with
  | accept now gate =>
    exact (List.getElem?_append_left (List.getElem?_eq_some_iff.mp hc).1).trans hc
  | decide other lease' engine' r' outcome hx =>
    have hne : other ≠ connection := by
      rintro rfl
      exact ha outcome rfl
    exact (List.getElem?_set_ne hne).trans hc
  -- What else a connection does, it does while reading or once it has an outcome.
  | receive _ _ _ _ hx | finish _ _ _ hx | expire _ _ _ _ _ hx | lease _ _ _ _ _ hx => exact hother hx nofun
  | answerNone _ _ _ hx | answerError _ _ _ _ hx | answer _ _ _ _ hx => exact hother hx nofun
  | drop _ _ _ _ hx | notify _ _ _ _ hx | leave _ _ hx => exact hother hx nofun
  | install | retire | stop | close | giveUp => exact hc

/-- Whether moves lead from one server to another that install no engine, and have engines decide for
the given connections only. -/
structure Onward (out : List Nat) (s t : Server α) : Prop where
  leads : s.Leads t
  installed : t.succession.installed = s.succession.installed
  leased : ∀ (c : Nat) lease engine r, c ∉ out →
    s.connections[c]? = some (.leased lease engine (.ok (some r))) →
      t.connections[c]? = some (.leased lease engine (.ok (some r)))

namespace Onward

theorem refl : Onward out s s := ⟨.refl, rfl, fun _ _ _ _ _ => id⟩

theorem trans (hst : Onward out s t) (htu : Onward out t u) : Onward out s u where
  leads := hst.leads.trans htu.leads
  installed := htu.installed.trans hst.installed
  leased c lease engine r hc hs := htu.leased c lease engine r hc (hst.leased c lease engine r hc hs)

theorem attempt (s : Server α) (ha : a.installs = false)
    (hout : ∀ c outcome, a = .decide c outcome → c ∈ out) : Onward out s (s.attempt a) := by
  unfold Server.attempt
  cases hstep : s.step a with
  | none => exact .refl
  | some t =>
    have hs := happens_of_step hstep
    refine ⟨.step a .refl hstep, hs.installed_eq ha, fun c lease engine r hc hleased => ?_⟩
    exact hs.leased hleased fun outcome heq => hc (hout c outcome heq)

theorem attemptAll {as : List (ServerAction α)} (has : ∀ a ∈ as, a.installs = false)
    (hout : ∀ a ∈ as, ∀ c outcome, a = .decide c outcome → c ∈ out) (s : Server α) :
    Onward out s (s.attemptAll as) := by
  induction as generalizing s with
  | nil => exact .refl
  | cons a rest ih =>
    obtain ⟨ha, hrest⟩ := List.forall_mem_cons.mp has
    obtain ⟨hfirst, hothers⟩ := List.forall_mem_cons.mp hout
    exact (attempt s ha hfirst).trans (ih hrest hothers (s.attempt a))

theorem runConnection (s : Server α) (now connection : Nat) :
    Onward out s (s.runConnection now connection) :=
  attemptAll (by simp [ServerAction.installs]) (by simp) s

theorem runRetirer (s : Server α) (retirer : Nat) : Onward out s (s.runRetirer retirer) := by
  refine attemptAll (fun a ha => ?_) (fun a ha c outcome heq => ?_) s
  · obtain ⟨b, -, rfl⟩ := List.mem_map.mp ha
    rfl
  · obtain ⟨b, -, rfl⟩ := List.mem_map.mp ha
    cases heq

end Onward

end Server

/-! ### What a service can come to -/

namespace Service

/-- What a service can come to from its start with an engine whose pools are open, one move at a time.
Engines that are installed later have open pools as well. -/
inductive Lives : Service → Prop
  | start {settings : ServerSettings} {engine : Engine} {state : EngineState} {s : Service} :
      start? settings engine state = some s → state.IsOpen → Lives s
  | connect {s : Service} : Lives s → Lives s.connect.2
  | receive {s : Service} (connection : Nat) (octets : List UInt8) : Lives s →
      Lives (s.receive connection octets)
  | finish {s : Service} (connection : Nat) : Lives s → Lives (s.finish connection)
  | runConnection {s : Service} (around : Surroundings) (connection : Nat) : Lives s →
      Lives (s.runConnection around connection)
  | runEngines {s : Service} (around : Surroundings) : Lives s → Lives (s.runEngines around)
  | runErrand {s : Service} (around : Surroundings) {errand : Errand} : Lives s →
      errand ∈ s.errands → Lives (s.runErrand around errand)
  | runRetirer {s : Service} (around : Surroundings) (retirer : Nat) : Lives s →
      Lives (s.runRetirer around retirer)
  | setClock {s : Service} (now : Nat) : Lives s → Lives (s.setClock now)
  | forgetAsked {s : Service} : Lives s → Lives s.forgetAsked
  | replace {s : Service} (engine : Engine) (state : EngineState) : Lives s → state.IsOpen →
      Lives (s.replace engine state)
  | retire {s : Service} : Lives s → Lives s.retire
  | stop {s : Service} : Lives s → Lives s.stop.2

/-- What always holds of a service. -/
structure Sound (s : Service) : Prop where
  reachable : ∃ settings responses, s.server.Reachable settings responses
  length_engines : s.engines.length = s.server.succession.installed + 1
  /-- The pools of an engine are open unless its shutdown was begun. -/
  isOpen : ∀ (n : Nat) engine state, s.engines[n]? = some (engine, state) →
    n ∉ s.server.succession.begun → state.IsOpen
  nodup_errands : (s.errands.map Errand.connection).Nodup
  /-- Whoever waits for a decision waits on the engine that the connection has leased. -/
  leased : ∀ errand ∈ s.errands, ∃ lease r,
    s.server.connections[errand.connection]? = some (.leased lease errand.engine (.ok (some r)))

variable {s : Service}

namespace Sound

/-- The server goes on, and some of those who waited wait no longer. -/
theorem onward (h : s.Sound) (out : List Nat) {server : Server Float} {errands : List Errand}
    (hon : Server.Onward out s.server server) (herrands : errands.Sublist s.errands)
    (hout : ∀ errand ∈ errands, errand.connection ∉ out) :
    Sound { s with server := server, errands := errands } where
  reachable := by
    obtain ⟨settings, responses, hreachable⟩ := h.reachable
    exact ⟨settings, responses, hreachable.leads hon.leads⟩
  length_engines := h.length_engines.trans (congrArg (· + 1) hon.installed.symm)
  isOpen n engine state hn hbegun :=
    h.isOpen n engine state hn fun hold => hbegun (hon.leads.begun_grows.subset hold)
  nodup_errands := h.nodup_errands.sublist (herrands.map _)
  leased errand herrand := by
    obtain ⟨lease, r, hleased⟩ := h.leased errand (herrands.subset herrand)
    exact ⟨lease, r, hon.leased errand.connection lease errand.engine r (hout errand herrand) hleased⟩

theorem of_server (h : s.Sound) {server : Server Float} (hon : Server.Onward [] s.server server) :
    Sound { s with server := server } :=
  h.onward [] hon (List.Sublist.refl _) fun _ _ => List.not_mem_nil

theorem of_shutdowns (h : s.Sound) (shutdowns : List Shutdown) :
    Sound { s with shutdowns := shutdowns } :=
  ⟨h.reachable, h.length_engines, h.isOpen, h.nodup_errands, h.leased⟩

/-- The engines change their states, and none closes a pool whose shutdown was not begun. -/
theorem of_engines (h : s.Sound) {engines : List (Engine × EngineState)}
    (hlength : engines.length = s.engines.length)
    (hopen : ∀ (n : Nat) engine state, engines[n]? = some (engine, state) →
      n ∉ s.server.succession.begun → state.IsOpen) : Sound { s with engines := engines } where
  reachable := h.reachable
  length_engines := hlength.trans h.length_engines
  isOpen := hopen
  nodup_errands := h.nodup_errands
  leased := h.leased

theorem setState (h : s.Sound) (engine : Nat) {state : EngineState}
    (hstate : engine ∉ s.server.succession.begun → state.IsOpen) : (s.setState engine state).Sound := by
  refine h.of_engines (List.length_modify ..) fun n e old hn hbegun => ?_
  by_cases hne : engine = n
  · subst hne
    rw [List.getElem?_modify_eq] at hn
    obtain ⟨⟨e', old'⟩, -, heq⟩ := Option.map_eq_some_iff.mp hn
    obtain ⟨rfl, rfl⟩ := Prod.mk.inj heq
    exact hstate hbegun
  · rw [List.getElem?_modify_ne _ _ hne] at hn
    exact h.isOpen n e old hn hbegun

/-- Every engine changes in a way that keeps its pools open. -/
theorem mapStates (h : s.Sound) (f : EngineState → EngineState)
    (hf : ∀ state, state.IsOpen → (f state).IsOpen) :
    Sound { s with engines := s.engines.map fun (e, state) => (e, f state) } := by
  refine h.of_engines (List.length_map _) fun n e state hn hbegun => ?_
  rw [List.getElem?_map] at hn
  obtain ⟨⟨e', old⟩, hold, heq⟩ := Option.map_eq_some_iff.mp hn
  obtain ⟨rfl, rfl⟩ := Prod.mk.inj heq
  exact hf old (h.isOpen n e' old hold hbegun)

/-- An engine that a connection is to decide on has open pools. -/
theorem isOpen_of_leased (h : s.Sound) {connection lease engine : Nat} {r : Request} {e : Engine}
    {state : EngineState}
    (hc : s.server.connections[connection]? = some (.leased lease engine (.ok (some r))))
    (hengine : s.engines[engine]? = some (e, state)) : state.IsOpen := by
  obtain ⟨settings, responses, hreachable⟩ := h.reachable
  exact h.isOpen engine e state hengine (hreachable.not_begun hc rfl)

/-- A connection that waits is noted, if it was not. -/
theorem wait (h : s.Sound) {errand : Errand}
    (hnew : ∀ other ∈ s.errands, other.connection ≠ errand.connection)
    (hleased : ∃ lease r, s.server.connections[errand.connection]? =
      some (.leased lease errand.engine (.ok (some r)))) :
    Sound { s with errands := s.errands ++ [errand] } where
  reachable := h.reachable
  length_engines := h.length_engines
  isOpen := h.isOpen
  nodup_errands := by
    rw [List.map_append, List.nodup_append_comm, List.map_singleton, List.singleton_append]
    refine List.nodup_cons.mpr ⟨fun hmem => ?_, h.nodup_errands⟩
    obtain ⟨other, hother, heq⟩ := List.mem_map.mp hmem
    exact hnew other hother heq
  leased other hother := by
    rcases List.mem_append.mp hother with hold | hlast
    · exact h.leased other hold
    · rw [List.mem_singleton.mp hlast]
      exact hleased

/-- A decision goes on: it is over, or the connection waits. -/
theorem follow (h : s.Sound) (around : Surroundings) {connection lease engine : Nat} {r : Request}
    (hc : s.server.connections[connection]? = some (.leased lease engine (.ok (some r))))
    {result : Progress × EngineState} (hresult : result.2.IsOpen) :
    (s.follow around connection engine result).Sound := by
  have hothers : ∀ errand ∈ s.errands.filter (·.connection != connection),
      errand.connection ≠ connection := fun errand herrand => by
    simpa using (List.mem_filter.mp herrand).2
  obtain ⟨progress, state⟩ := result
  cases progress with
  | «over» outcome =>
    have hset := h.setState engine (fun _ => hresult.syncFiles around.files)
    refine hset.onward [connection] ?_ List.filter_sublist fun errand herrand => ?_
    · have hdecided : Server.Onward [connection] s.server
          (s.server.attempt (.decide connection outcome)) := by
        refine .attempt s.server rfl fun c outcome' heq => ?_
        cases heq
        exact List.mem_singleton_self connection
      exact hdecided.trans (.runConnection _ s.clock connection)
    · exact fun hmem => hothers errand herrand (List.mem_singleton.mp hmem)
  | waits p =>
    have hset := h.setState engine (fun _ => hresult)
    have hleft := hset.onward [] .refl (List.filter_sublist (p := (·.connection != connection)))
      (fun _ _ => List.not_mem_nil)
    exact hleft.wait hothers ⟨lease, r, hc⟩

theorem runConnection (h : s.Sound) (around : Surroundings) (connection : Nat) :
    (s.runConnection around connection).Sound := by
  have hran : Sound { s with server := s.server.runConnection s.clock connection } :=
    h.of_server (.runConnection s.server s.clock connection)
  unfold Service.runConnection
  dsimp only
  split
  · next lease engine r hc =>
    split
    · exact hran
    · split
      · next e state hengine =>
        exact hran.follow around hc ((hran.isOpen_of_leased hc hengine).start e r)
      · exact hran
  · exact hran

theorem runErrand (h : s.Sound) (around : Surroundings) {errand : Errand}
    (herrand : errand ∈ s.errands) : (s.runErrand around errand).Sound := by
  obtain ⟨lease, r, hc⟩ := h.leased errand herrand
  unfold Service.runErrand
  split
  · next e state hengine =>
    exact h.follow around hc ((h.isOpen_of_leased hc hengine).resume e errand.suspended)
  · exact h

/-- The pools that a retirer closes are those of an engine whose shutdown it has begun. -/
theorem runShutdown (h : s.Sound) (around : Surroundings) (retirer : Nat) :
    (s.runShutdown around retirer).Sound := by
  obtain ⟨settings, responses, hreachable⟩ := h.reachable
  unfold Service.runShutdown
  split
  · next engine rest left signalled hr =>
    -- Nothing is asked of the state of an engine whose shutdown has begun.
    have hbegun := hreachable.succession.sound.mem_begun hr
    split
    · next e state hengine =>
      dsimp only
      have hset {state : EngineState} : (s.setState engine state).Sound :=
        h.setState engine fun hnot => absurd hbegun hnot
      split
      · have hon : Server.Onward [] s.server (s.server.attempt (.retire (.finish retirer))) :=
          .attempt _ rfl nofun
        exact (hset.of_server hon).of_shutdowns _
      · exact hset.of_shutdowns _
    · exact h
  · exact h

theorem runRetirer (h : s.Sound) (around : Surroundings) (retirer : Nat) :
    (s.runRetirer around retirer).Sound :=
  (h.of_server (.runRetirer s.server retirer)).runShutdown around retirer

theorem setClock (h : s.Sound) (now : Nat) : (s.setClock now).Sound := by
  have hstates := h.mapStates
    (fun state => { state with clock := now, bench := { state.bench with now := now } })
    (fun _ hopen => hopen.of_crews rfl)
  exact ⟨hstates.reachable, hstates.length_engines, hstates.isOpen, hstates.nodup_errands,
    hstates.leased⟩

theorem start {settings : ServerSettings} {engine : Engine} {state : EngineState}
    (hstart : start? settings engine state = some s) (hopen : state.IsOpen) : s.Sound := by
  obtain ⟨server, hmake, rfl⟩ := Option.map_eq_some_iff.mp hstart
  refine ⟨⟨settings, engine.responses, .start hmake⟩, ?_, fun n e state' hn _ => ?_, List.nodup_nil,
    fun errand herrand => absurd herrand List.not_mem_nil⟩
  · show 1 = server.succession.installed + 1
    rw [(Server.make?_eq hmake).1]
  · obtain ⟨rfl, rfl⟩ := Prod.mk.inj (List.mem_singleton.mp (List.mem_of_getElem? hn))
    exact hopen

theorem install (h : s.Sound) (engine : Engine) {state : EngineState} (hopen : state.IsOpen) :
    Sound { s with
      server := s.server.attempt (.install engine.responses)
      engines := s.engines ++ [(engine, state)] } where
  reachable := by
    obtain ⟨settings, responses, hreachable⟩ := h.reachable
    exact ⟨settings, responses, hreachable.attempt (.install engine.responses)⟩
  length_engines := by
    rw [List.length_append, h.length_engines]
    rfl
  isOpen n e old hn hbegun := by
    rw [List.getElem?_append] at hn
    split at hn
    · exact h.isOpen n e old hn hbegun
    · obtain ⟨rfl, rfl⟩ := Prod.mk.inj (List.mem_singleton.mp (List.mem_of_getElem? hn))
      exact hopen
  nodup_errands := h.nodup_errands
  leased := h.leased

theorem replace (h : s.Sound) (engine : Engine) {state : EngineState} (hopen : state.IsOpen) :
    (s.replace engine state).Sound := by
  have hpush : Server.Onward [] (s.server.attempt (.install engine.responses))
      (s.server.replace engine.responses) := .attempt _ rfl nofun
  exact (h.install engine hopen).of_server hpush

theorem connect (h : s.Sound) : s.connect.2.Sound := by
  unfold Service.connect
  split
  · next server hstep =>
    have hon : Server.Onward [] s.server (s.server.attempt (.accept s.clock)) := .attempt _ rfl nofun
    rw [Server.attempt, hstep] at hon
    exact h.of_server hon
  · exact h

end Sound

theorem Lives.sound (h : s.Lives) : s.Sound := by
  induction h with
  | start hstart hopen => exact .start hstart hopen
  | connect _ ih => exact ih.connect
  | receive connection octets _ ih =>
    exact ih.of_server (.attempt _ (a := .receive connection octets) rfl nofun)
  | finish connection _ ih => exact ih.of_server (.attempt _ (a := .finish connection) rfl nofun)
  | runConnection around connection _ ih => exact ih.runConnection around connection
  | runEngines around _ ih => exact ih.mapStates (·.settle around.network) fun _ hopen => hopen.settle _
  | runErrand around _ herrand ih => exact ih.runErrand around herrand
  | runRetirer around retirer _ ih => exact ih.runRetirer around retirer
  | setClock now _ ih => exact ih.setClock now
  | forgetAsked _ ih => exact ih.mapStates EngineState.forgetAsked fun _ hopen => hopen.of_crews rfl
  | replace engine state _ hopen ih => exact ih.replace engine hopen
  | retire _ ih => exact ih.of_server (.attempt _ (a := .retire .call) rfl nofun)
  | stop _ ih =>
    exact ih.of_server (.attemptAll (by simp [ServerAction.installs]) (by simp) _)

/-! ### Time -/

namespace Lives

theorem foldl {ι : Type} {move : Service → ι → Service} (hmove : ∀ {s} i, Lives s → Lives (move s i))
    (l : List ι) (h : s.Lives) : (l.foldl move s).Lives := by
  induction l generalizing s with
  | nil => exact h
  | cons i rest ih => exact ih (hmove i h)

/-- Other connections wait on. -/
theorem mem_errands_runErrand {around : Surroundings} {errand other : Errand} (hmem : other ∈ s.errands)
    (hne : other.connection ≠ errand.connection) : other ∈ (s.runErrand around errand).errands := by
  have hkept : other ∈ s.errands.filter (·.connection != errand.connection) :=
    List.mem_filter.mpr ⟨hmem, by simpa using hne⟩
  unfold Service.runErrand
  split
  · next e state _ =>
    obtain ⟨progress, state'⟩ := e.resume errand.suspended state
    cases progress with
    | «over» outcome => exact hkept
    | waits p => exact List.mem_append_left _ hkept
  · exact hmem

theorem runErrands (around : Surroundings) {errands : List Errand} (h : s.Lives)
    (hmem : ∀ errand ∈ errands, errand ∈ s.errands) (hnodup : (errands.map Errand.connection).Nodup) :
    (errands.foldl (Service.runErrand around) s).Lives := by
  induction errands generalizing s with
  | nil => exact h
  | cons errand rest ih =>
    -- Each carries on its own decision, so all behind it are still to be found among the errands.
    obtain ⟨hfirst, hrest⟩ := List.forall_mem_cons.mp hmem
    obtain ⟨hnew, hnodup⟩ := List.nodup_cons.mp hnodup
    refine ih (h.runErrand around hfirst) (fun other hother => ?_) hnodup
    refine mem_errands_runErrand (hrest other hother) fun heq => hnew ?_
    exact heq ▸ List.mem_map_of_mem hother

theorem runAll (around : Surroundings) (h : s.Lives) : (s.runAll around).Lives := by
  have hconnections := h.foldl (fun connection hs => hs.runConnection around connection)
    (List.range s.server.connections.length)
  have hengines := hconnections.runEngines around
  have herrands := hengines.runErrands around (fun _ => id) hengines.sound.nodup_errands
  exact herrands.foldl (fun retirer hs => hs.runRetirer around retirer) _

theorem settle (around : Surroundings) (h : s.Lives) : (s.settle around).Lives :=
  h.foldl (fun _ hs => hs.runAll around) _

/-- Whatever goes on while time passes is made of moves. -/
theorem passTime (around : Surroundings) (due : Nat) (h : s.Lives) : (s.passTime around due).Lives := by
  fun_induction Service.passTime around due s with
  | case1 s settled next _ ih => exact ih ((h.settle around).setClock next)
  | case2 s settled next _ => exact ((h.settle around).setClock _).settle around

theorem passPatience (around : Surroundings) (connection fuel : Nat) (h : s.Lives) :
    (s.passPatience around connection fuel).Lives := by
  induction fuel generalizing s with
  | zero => exact h
  | succ fuel ih =>
    unfold Service.passPatience
    split
    · exact h
    · exact ih (h.passTime around _)

end Lives

end Service

/-! ### Swapping engines -/

theorem Succession.Sound.exists_of_begin {s t : Succession} {retirer : Nat} (h : s.Sound)
    (hstep : s.step (.begin retirer) = some t) :
    ∃ engine, t.begun = s.begun ++ [engine] ∧ engine < s.installed ∧ .held engine ∉ s.leases := by
  have ht := (Succession.happens_of_step hstep).sound h
  cases Succession.happens_of_step hstep with
  | begin _ engine rest left signalled hr =>
    have hbegun : engine ∈ s.begun ++ [engine] := by simp
    exact ⟨engine, rfl, ht.lt_installed hbegun, ht.not_leased hbegun⟩

/-- Whether a server shuts engines down safely. -/
structure Server.ShutsDownSafely {α : Type} (s : Server α) : Prop where
  /-- No shutdown is begun twice. -/
  nodup_begun : s.succession.begun.Nodup
  /-- One is begun only of an engine that was replaced and that no request leases. -/
  begins : ∀ retirer t, s.step (.retire (.begin retirer)) = some t →
    ∃ engine, t.succession.begun = s.succession.begun ++ [engine] ∧
      engine < s.succession.installed ∧ .held engine ∉ s.succession.leases
  /-- After that no request decides on the engine. -/
  decides : ∀ t u connection outcome, s.Leads t → t.step (.decide connection outcome) = some u →
    ∃ x lease engine, t.connections[connection]? = some x ∧ x.engine? = some (lease, engine) ∧
      engine ∉ s.succession.begun

/-- Whether no connection of a service is refused by the pools of the engine that it leases. -/
structure Service.Unrefused (s : Service) : Prop where
  /-- Whoever goes on with a decision leases the engine that decides. -/
  leased : ∀ errand ∈ s.errands, ∃ lease r, s.server.connections[errand.connection]? =
    some (.leased lease errand.engine (.ok (some r)))
  /-- The pools of an engine that is leased for a request are open, and take every check. -/
  accepts : ∀ (connection lease engine : Nat) (r : Request),
    s.server.connections[connection]? = some (.leased lease engine (.ok (some r))) →
      ∃ e state, s.engines[engine]? = some (e, state) ∧ state.IsOpen ∧
        ∀ request slot checks,
          EngineState.Accepts (EngineState.evaluateAll request slot r checks state)

theorem Server.Reachable.shutsDownSafely {α : Type} {settings : ServerSettings}
    {responses : Responses} {s : Server α} (hs : s.Reachable settings responses) :
    s.ShutsDownSafely where
  nodup_begun := hs.succession.sound.nodup_begun
  begins retirer t hstep := by
    cases happens_of_step hstep with
    | retire _ succession _ hbegin => exact hs.succession.sound.exists_of_begin hbegin
  decides t u connection outcome hlater hstep := by
    cases happens_of_step hstep with
    | decide _ lease engine r _ hx =>
      refine ⟨_, lease, engine, hx, rfl, fun hbegun => ?_⟩
      exact (hs.leads hlater).not_begun hx rfl (hlater.begun_grows.subset hbegun)

theorem Service.Lives.unrefused {s : Service} (hs : s.Lives) : s.Unrefused where
  leased := hs.sound.leased
  accepts connection lease engine r hc := by
    have hsound := hs.sound
    obtain ⟨settings, responses, hreachable⟩ := hsound.reachable
    have hheld := hreachable.leasing.held connection _ lease engine hc rfl
    have hle := (hreachable.succession.sound.leased engine (List.mem_of_getElem? hheld)).1
    have hlt : engine < s.engines.length := by
      rw [hsound.length_engines]
      exact Nat.lt_succ_of_le hle
    have hengine := List.getElem?_eq_getElem hlt
    have hopen := hsound.isOpen_of_leased hc hengine
    refine ⟨_, _, hengine, hopen, fun request slot checks => ?_⟩
    exact hopen.evaluateAll request slot r checks

/-- **Engines are swapped safely.**  However connections, installations and retirers take turns: no
shutdown is begun twice; one is begun only of an engine that was replaced and that no request leases;
after that no request decides on the engine.  So whenever a connection of a service is to decide, or
to go on with its decision, the pools of its engine are open, and refuse no check because of a
shutdown. -/
theorem Server.swap_safe :
    (∀ {α : Type} {settings : ServerSettings} {responses : Responses} {s : Server α},
      s.Reachable settings responses → s.ShutsDownSafely) ∧
    ∀ {s : Service}, s.Lives → s.Unrefused :=
  ⟨Reachable.shutsDownSafely, Service.Lives.unrefused⟩

/-- An engine with one check, which has to ask a reputation list. -/
def Engine.asking : Engine where
  stages := [⟨⟨[], [.blockList ⟨[], [], .address, ⟨[]⟩⟩]⟩, 0, ⟨0, 0⟩, ⟨0, 0⟩⟩]
  policy := { shortCircuit := false }
  responses := {}

/-- The first state of that engine. -/
def EngineState.asking : EngineState where
  bench := ⟨[.blockList ⟨[], [], .address, ⟨[]⟩⟩], [.nothing], [], 0, [], []⟩
  crews := [(.dnsbl, { pool := Pool.ofSettings "" {} true })]
  clock := 0

/-- An engine is replaced while one connection reads; a retirer finds it idle and begins its shutdown.
Elsewhere a connection waits for its engine to decide on `a=b`. -/
theorem Server.swap_safe_of_idle :
    (∃ s : Server Nat, s.Reachable {} {} ∧ s.succession.begun = [0] ∧ s.succession.installed = 1 ∧
      s.succession.begun.Nodup) ∧
    ∃ s : Service, s.Lives ∧ ∃ errand ∈ s.errands, ∃ e state,
      s.engines[errand.engine]? = some (e, state) ∧ state.IsOpen := by
  obtain ⟨first, hmake⟩ : ∃ first : Server Nat, make? {} {} = some first := ⟨_, rfl⟩
  have hreachable : first.Reachable {} {} := .start hmake
  cases hmake
  have hlater := hreachable.attemptAll [.accept 0, .install {}, .retire (.push 0), .retire .call,
    .retire (.register 0), .retire (.look 0), .retire (.count 0), .retire (.putBack 0),
    .retire (.begin 0)]
  obtain ⟨s, hlives, hwaits⟩ : ∃ s : Service, s.Lives ∧ s.errands.map Errand.connection = [0] := by
    have hstart : Service.start? {} .asking .asking = some _ := rfl
    have hopen : EngineState.asking.IsOpen := by
      intro crew hcrew
      rw [List.mem_singleton.mp hcrew]
      rfl
    have hread := ((Service.Lives.start hstart hopen).connect.receive 0 [97, 61, 98, 10, 10]).finish 0
    let network : Network := { listed := fun _ => .after 0 .failed, policy := fun _ _ => .temperror }
    exact ⟨_, hread.runConnection ⟨network, {}⟩ 0, by decide +kernel⟩
  obtain ⟨errand, herrand⟩ : ∃ errand, errand ∈ s.errands :=
    List.exists_mem_of_ne_nil _ fun hnil => by simp [hnil] at hwaits
  have hunrefused := swap_safe.2 hlives
  obtain ⟨lease, r, hc⟩ := hunrefused.leased errand herrand
  obtain ⟨e, state, hengine, hopen, -⟩ :=
    hunrefused.accepts errand.connection lease errand.engine r hc
  exact ⟨⟨_, hlater, rfl, rfl, (swap_safe.1 hlater).nodup_begun⟩, s, hlives, errand, herrand, e, state,
    hengine, hopen⟩

end MailPolicy
