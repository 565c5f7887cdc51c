/-
Each request is answered by the engine that decides it.

A connection that has leased an engine stays with it.  Whoever carries on its decision carries on
that of its engine on its request, from the first stage to the outcome, and the reply is worded as
that engine was told to, whatever is installed in the meantime.

* `Engine.Pursues`, `Engine.ComesTo`, `Engine.HasAnswered` — how far an engine may come with a
  request, its outcomes, and its answer;
* `Server.reply?_of_decide` — an outcome is replied to at once;
* `Service.Move` — the moves that a service is made of;
* `Service.Minded` — whoever waits for a decision waits for his engine's, on the request that was
  read;
* `Service.Answers`, `Service.Move.answers` — what no move takes back: who was installed, what was
  replied, and the engine of a connection that waits;
* `Server.RepliesOnce`, `Service.IsFaithful` — what is to be shown of runs and of services;
* `Server.replied_once` — **a connection is sent nothing or one reply, and one to a request is the
  word of the engine that decided**.
-/
import Mathlib.Logic.Relation
import MailPolicy.Proofs.Server.History
import MailPolicy.Proofs.Wire.Arrival

namespace MailPolicy

namespace Engine

/-- How far an engine may come with a request, in whatever states it goes on. -/
inductive Pursues (e : Engine) (r : Request) : Progress → Prop
  | start (state : EngineState) : Pursues e r (e.start r state).1
  | resume {p : Suspended} (state : EngineState) : Pursues e r (.waits p) →
      Pursues e r (e.resume p state).1

/-- Whether an engine may come to an outcome on a request. -/
def ComesTo (e : Engine) (r : Request) (outcome : Except Fault (Decision Float)) : Prop :=
  e.Pursues r (.over outcome)

/-- Whether all that is sent on a connection is an engine's answer to a request: the one that its
outcome calls for, in its own words. -/
def HasAnswered (e : Engine) (r : Request) (s : Server Float) (connection : Nat) : Prop :=
  ∃ outcome answer reply, e.ComesTo r outcome ∧ Answer.Fits answer outcome ∧
    e.responses.Writes answer reply ∧ s.reply? connection = some reply

theorem HasAnswered.leads {e : Engine} {r : Request} {s t : Server Float} {connection : Nat}
    (h : e.HasAnswered r s connection) (hleads : s.Leads t) : e.HasAnswered r t connection := by
  obtain ⟨outcome, answer, reply, hcomes, hfits, hwrites, hreply⟩ := h
  exact ⟨outcome, answer, reply, hcomes, hfits, hwrites, hleads.reply?_eq hreply⟩

end Engine

/-! ### Words and outcomes -/

namespace Server

variable {α : Type} {s t : Server α} {connection lease engine : Nat}

theorem Leads.responses_grow (h : s.Leads t) : s.responses <+: t.responses := by
  induction h with
  | refl => exact List.prefix_refl _
  | step a _ hstep ih => exact ih.trans (happens_of_step hstep).responses_grow

theorem Leads.length_responses (h : s.Leads t)
    (hs : s.responses.length = s.succession.installed + 1) :
    t.responses.length = t.succession.installed + 1 := by
  induction h with
  | refl => exact hs
  | step a _ hstep ih => exact (happens_of_step hstep).length_responses ih

/-- Where no engine is installed the wording is the same. -/
theorem Onward.responses_eq {out : List Nat} (h : Onward out s t)
    (hs : s.responses.length = s.succession.installed + 1) : t.responses = s.responses := by
  have ht := h.leads.length_responses hs
  rw [h.installed, ← hs] at ht
  exact (h.leads.responses_grow.eq_of_length ht.symm).symm

theorem Leads.attemptAll (s : Server α) (as : List (ServerAction α)) :
    s.Leads (s.attemptAll as) := by
  induction as generalizing s with
  | nil => exact .refl
  | cons a rest ih => exact (Leads.attempt s a).trans (ih (s.attempt a))

theorem attempt_of_none {a : ServerAction α} (h : s.step a = none) : s.attempt a = s := by
  rw [attempt, h]
  rfl

theorem attempt_of_some {a : ServerAction α} (h : s.step a = some t) : s.attempt a = t := by
  rw [attempt, h]
  rfl

/-- An outcome is replied to at once, in the words of the engine that came to it. -/
theorem reply?_of_decide {r : Request}
    (hx : s.connections[connection]? = some (.leased lease engine (.ok (some r))))
    (hheld : s.succession.leases[lease]? = some (.held engine)) (now : Nat)
    (outcome : Except Fault (Decision α)) :
    ((s.attempt (.decide connection outcome)).runConnection now connection).reply? connection =
      some (Wire.reply ((s.wording engine).answer outcome)) := by
  have hlt := (List.getElem?_eq_some_iff.mp hx).1
  let decided := s.setConnection connection (.decided lease engine outcome)
  have hdecided : decided.connections[connection]? = some (.decided lease engine outcome) :=
    List.getElem?_set_self hlt
  have hdecide : s.attempt (.decide connection outcome) = decided := by
    refine attempt_of_some ?_
    simp only [step, hx, Succession.step, hheld, Option.map_some]
    rfl
  -- Nothing is left to read, so the reply is the next that can happen.
  have hlease : decided.attempt (.lease connection) = decided := by
    refine attempt_of_none ?_
    simp only [step, hdecided]
  have hexpire : decided.attempt (.expire connection now) = decided := by
    refine attempt_of_none ?_
    simp only [step, hdecided]
  let reply := Wire.reply ((s.wording engine).answer outcome)
  have hanswer : decided.attempt (.answer connection) =
      decided.setConnection connection (.answered lease reply) := by
    refine attempt_of_some ?_
    simp only [step, hdecided]
    rfl
  have hanswered : (decided.setConnection connection (.answered lease reply)).reply? connection =
      some reply := by
    refine reply?_eq (x := .answered lease reply) (List.getElem?_set_self ?_)
    rwa [show decided.connections.length = s.connections.length from List.length_set ..]
  rw [hdecide, runConnection, attemptAll, List.foldl_cons, hlease, List.foldl_cons, hexpire,
    List.foldl_cons, hanswer]
  exact (Leads.attemptAll _ _).reply?_eq hanswered

end Server

namespace Service

variable {s t u : Service}

/-! ### Moves -/

/-- The moves that a service is made of. -/
inductive Move (s : Service) : Service → Prop
  | connect : Move s s.connect.2
  | receive (connection : Nat) (octets : List UInt8) : Move s (s.receive connection octets)
  | finish (connection : Nat) : Move s (s.finish connection)
  | runConnection (around : Surroundings) (connection : Nat) :
      Move s (s.runConnection around connection)
  | runEngines (around : Surroundings) : Move s (s.runEngines around)
  | runErrand (around : Surroundings) {errand : Errand} : errand ∈ s.errands →
      Move s (s.runErrand around errand)
  | runRetirer (around : Surroundings) (retirer : Nat) : Move s (s.runRetirer around retirer)
  | setClock (now : Nat) : Move s (s.setClock now)
  | forgetAsked : Move s s.forgetAsked
  | replace (engine : Engine) (state : EngineState) : state.IsOpen → Move s (s.replace engine state)
  | retire : Move s s.retire
  | stop : Move s s.stop.2

theorem Lives.move (h : s.Lives) (hmove : s.Move t) : t.Lives := by
  cases hmove with
  | connect => exact h.connect
  | receive connection octets => exact h.receive connection octets
  | finish connection => exact h.finish connection
  | runConnection around connection => exact h.runConnection around connection
  | runEngines around => exact h.runEngines around
  | runErrand around herrand => exact h.runErrand around herrand
  | runRetirer around retirer => exact h.runRetirer around retirer
  | setClock now => exact h.setClock now
  | forgetAsked => exact h.forgetAsked
  | replace engine state hopen => exact h.replace engine state hopen
  | retire => exact h.retire
  | stop => exact h.stop

/-! ### What moves keep -/

/-- The engine of a connection that waits was installed. -/
theorem Sound.exists_engine (hs : s.Sound) {connection lease n : Nat} {r : Request}
    (hc : s.server.connections[connection]? = some (.leased lease n (.ok (some r)))) :
    ∃ e state, s.engines[n]? = some (e, state) := by
  obtain ⟨settings, responses, hreachable⟩ := hs.reachable
  have hheld := hreachable.leasing.held connection _ lease n hc rfl
  have hle := (hreachable.succession.sound.leased n (List.mem_of_getElem? hheld)).1
  have hlt : n < s.engines.length := by
    rw [hs.length_engines]
    exact Nat.lt_succ_of_le hle
  exact ⟨_, _, List.getElem?_eq_getElem hlt⟩

/-- Every engine ever installed, in whatever state. -/
def lineage (s : Service) : List Engine := s.engines.map (·.1)

theorem lineage_of_engines {n : Nat} {e : Engine} {state : EngineState}
    (h : s.engines[n]? = some (e, state)) : s.lineage[n]? = some e := by
  rw [lineage, List.getElem?_map, h]
  rfl

theorem lineage_setState (s : Service) (n : Nat) (state : EngineState) :
    (s.setState n state).lineage = s.lineage := by
  refine List.ext_getElem? fun i => ?_
  simp only [lineage, setState, List.getElem?_map, List.getElem?_modify]
  split
  · cases s.engines[i]? <;> rfl
  · cases s.engines[i]? <;> rfl

/-- Whether replies are worded as the engines were told to, and whoever waits for a decision waits
for his engine's, on the request that was read. -/
structure Minded (s : Service) : Prop where
  responses_eq : s.server.responses = s.lineage.map Engine.responses
  pursues : ∀ errand ∈ s.errands, ∀ lease r e,
    s.server.connections[errand.connection]? = some (.leased lease errand.engine (.ok (some r))) →
      s.lineage[errand.engine]? = some e → e.Pursues r (.waits errand.suspended)

/-- What a service keeps on its way: engines have their numbers for good, replies stand, and a
connection that has leased an engine for its request waits for that engine or has its answer. -/
structure Answers (s t : Service) : Prop where
  lineage : s.lineage <+: t.lineage
  leads : s.server.Leads t.server
  answered : ∀ (c : Nat) lease n r e,
    s.server.connections[c]? = some (.leased lease n (.ok (some r))) → s.lineage[n]? = some e →
      t.server.connections[c]? = some (.leased lease n (.ok (some r))) ∨ e.HasAnswered r t.server c

theorem Answers.refl : Answers s s := ⟨List.prefix_refl _, .refl, fun _ _ _ _ _ hc _ => .inl hc⟩

theorem Answers.trans (hst : Answers s t) (htu : Answers t u) : Answers s u where
  lineage := hst.lineage.trans htu.lineage
  leads := hst.leads.trans htu.leads
  answered c lease n r e hc he := by
    rcases hst.answered c lease n r e hc he with hwaits | hanswered
    · exact htu.answered c lease n r e hwaits (Server.getElem?_of_grown hst.lineage he)
    · exact .inr (hanswered.leads htu.leads)

namespace Minded

theorem length_responses (h : s.Minded) (hs : s.Sound) :
    s.server.responses.length = s.server.succession.installed + 1 := by
  rw [h.responses_eq, List.length_map, lineage, List.length_map, hs.length_engines]

theorem wording_eq (h : s.Minded) {n : Nat} {e : Engine} (he : s.lineage[n]? = some e) :
    s.server.wording n = e.responses := by
  rw [Server.wording, h.responses_eq, List.getElem?_map, he]
  rfl

/-- The server goes on, and those who wait are among those who waited. -/
theorem onward (h : s.Minded) (hs : s.Sound) (out : List Nat)
    (hon : Server.Onward out s.server t.server) (hlineage : t.lineage = s.lineage)
    (herrands : ∀ errand ∈ t.errands, errand ∈ s.errands ∧ errand.connection ∉ out) :
    t.Minded where
  responses_eq := by
    rw [hon.responses_eq (h.length_responses hs), hlineage, h.responses_eq]
  pursues errand herrand lease r e hc he := by
    obtain ⟨hold, hout⟩ := herrands errand herrand
    -- The request is the one that the connection waited with before.
    obtain ⟨lease', r', hleased⟩ := hs.leased errand hold
    have hkept := hon.leased errand.connection lease' errand.engine r' hout hleased
    cases hkept.symm.trans hc
    exact h.pursues errand hold lease r e hleased (hlineage ▸ he)

/-- Nobody decides. -/
theorem quietly (h : s.Minded) (hs : s.Sound) (hon : Server.Onward [] s.server t.server)
    (hlineage : t.lineage = s.lineage) (herrands : t.errands = s.errands) :
    t.Minded ∧ s.Answers t := by
  refine ⟨h.onward hs [] hon hlineage fun errand herrand => ?_, ?_, hon.leads, ?_⟩
  · exact ⟨herrands ▸ herrand, List.not_mem_nil⟩
  · exact hlineage ▸ List.prefix_refl _
  · intro c lease n r e hc _
    exact .inl (hon.leased c lease n r List.not_mem_nil hc)

/-- The engine of a connection comes to an outcome, and the connection has its answer. -/
theorem decide (h : s.Minded) (hs : s.Sound) {connection lease n : Nat} {r : Request} {e : Engine}
    {outcome : Except Fault (Decision Float)}
    (hc : s.server.connections[connection]? = some (.leased lease n (.ok (some r))))
    (he : s.lineage[n]? = some e) (hcomes : e.ComesTo r outcome) (hlineage : t.lineage = s.lineage)
    (hserver : t.server =
      (s.server.attempt (.decide connection outcome)).runConnection s.clock connection)
    (herrands : t.errands = s.errands.filter (·.connection != connection)) :
    t.Minded ∧ s.Answers t := by
  have hdecided : Server.Onward [connection] s.server
      (s.server.attempt (.decide connection outcome)) := by
    refine .attempt s.server rfl fun c outcome' heq => ?_
    cases heq
    exact List.mem_singleton_self connection
  have hon : Server.Onward [connection] s.server t.server :=
    hserver ▸ hdecided.trans (.runConnection _ s.clock connection)
  refine ⟨h.onward hs [connection] hon hlineage fun errand herrand => ?_, ?_, hon.leads, ?_⟩
  · rw [herrands] at herrand
    obtain ⟨hold, hne⟩ := List.mem_filter.mp herrand
    exact ⟨hold, by simpa using hne⟩
  · exact hlineage ▸ List.prefix_refl _
  · intro c lease' n' r' e' hc' he'
    by_cases heq : c = connection
    · subst heq
      cases hc.symm.trans hc'
      cases he.symm.trans he'
      obtain ⟨settings, responses, hreachable⟩ := hs.reachable
      have hheld := hreachable.leasing.held c _ lease n hc rfl
      obtain ⟨answer, hfits⟩ := Answer.exists_fits outcome
      refine .inr ⟨outcome, answer, _, hcomes, hfits, hfits.writes e.responses, ?_⟩
      rw [hserver, ← h.wording_eq he]
      exact Server.reply?_of_decide hc hheld s.clock outcome
    · exact .inl (hon.leased c lease' n' r' (fun hmem => heq (List.mem_singleton.mp hmem)) hc')

/-- The engine of a connection has to wait, and so does the connection. -/
theorem wait (h : s.Minded) {connection lease n : Nat} {r : Request} {e : Engine} {p : Suspended}
    (hc : s.server.connections[connection]? = some (.leased lease n (.ok (some r))))
    (he : s.lineage[n]? = some e) (hpursues : e.Pursues r (.waits p))
    (hlineage : t.lineage = s.lineage) (hserver : t.server = s.server)
    (herrands : t.errands = s.errands.filter (·.connection != connection) ++ [⟨connection, n, p⟩]) :
    t.Minded ∧ s.Answers t := by
  refine ⟨⟨?_, fun errand herrand lease' r' e' hc' he' => ?_⟩, ?_, hserver ▸ .refl, ?_⟩
  · rw [hserver, hlineage, h.responses_eq]
  · rw [hserver] at hc'
    rw [hlineage] at he'
    rw [herrands] at herrand
    rcases List.mem_append.mp herrand with hold | hlast
    · exact h.pursues errand (List.mem_filter.mp hold).1 lease' r' e' hc' he'
    · obtain rfl := List.mem_singleton.mp hlast
      cases hc.symm.trans hc'
      cases he.symm.trans he'
      exact hpursues
  · exact hlineage ▸ List.prefix_refl _
  · exact fun _ _ _ _ _ hc' _ => .inl (hserver ▸ hc')

theorem follow (h : s.Minded) (hs : s.Sound) (around : Surroundings) {connection lease n : Nat}
    {r : Request} {e : Engine}
    (hc : s.server.connections[connection]? = some (.leased lease n (.ok (some r))))
    (he : s.lineage[n]? = some e) {result : Progress × EngineState}
    (hresult : e.Pursues r result.1) :
    (s.follow around connection n result).Minded ∧
      s.Answers (s.follow around connection n result) := by
  obtain ⟨progress, state⟩ := result
  cases progress with
  | «over» outcome =>
    refine h.decide hs hc he hresult (lineage_setState s n (state.syncFiles around.files)) ?_ rfl
    dsimp only [Service.follow]
  | waits p => exact h.wait hc he hresult (lineage_setState s n state) rfl rfl

theorem runConnection (h : s.Minded) (hs : s.Sound) (around : Surroundings) (connection : Nat) :
    (s.runConnection around connection).Minded ∧ s.Answers (s.runConnection around connection) := by
  have hon : Server.Onward [] s.server (s.server.runConnection s.clock connection) :=
    .runConnection s.server s.clock connection
  have hran : Sound { s with server := s.server.runConnection s.clock connection } :=
    hs.of_server hon
  obtain ⟨hminded, hanswers⟩ :=
    h.quietly hs (t := { s with server := s.server.runConnection s.clock connection }) hon rfl rfl
  unfold Service.runConnection
  dsimp only
  split
  · next lease n r hc =>
    split
    · exact ⟨hminded, hanswers⟩
    · split
      · next e state hengine =>
        obtain ⟨hfollow, hthen⟩ :=
          hminded.follow hran around hc (lineage_of_engines hengine) (.start state)
        exact ⟨hfollow, hanswers.trans hthen⟩
      · exact ⟨hminded, hanswers⟩
  · exact ⟨hminded, hanswers⟩

theorem runErrand (h : s.Minded) (hs : s.Sound) (around : Surroundings) {errand : Errand}
    (herrand : errand ∈ s.errands) :
    (s.runErrand around errand).Minded ∧ s.Answers (s.runErrand around errand) := by
  obtain ⟨lease, r, hc⟩ := hs.leased errand herrand
  unfold Service.runErrand
  split
  · next e state hengine =>
    have he := lineage_of_engines hengine
    have hpursues := h.pursues errand herrand lease r e hc he
    exact h.follow hs around hc he (.resume state hpursues)
  · exact ⟨h, .refl⟩

/-- Who retires engines decides nothing and installs nothing. -/
theorem runShutdown (s : Service) (around : Surroundings) (retirer : Nat) :
    Server.Onward [] s.server (s.runShutdown around retirer).server ∧
      (s.runShutdown around retirer).lineage = s.lineage ∧
      (s.runShutdown around retirer).errands = s.errands := by
  unfold Service.runShutdown
  split
  · split
    · dsimp only
      split
      · exact ⟨.attempt _ rfl nofun, lineage_setState .., rfl⟩
      · exact ⟨.refl, lineage_setState .., rfl⟩
    · exact ⟨.refl, rfl, rfl⟩
  · exact ⟨.refl, rfl, rfl⟩

theorem runRetirer (h : s.Minded) (hs : s.Sound) (around : Surroundings) (retirer : Nat) :
    (s.runRetirer around retirer).Minded ∧ s.Answers (s.runRetirer around retirer) := by
  have hran : Server.Onward [] s.server (s.server.runRetirer retirer) :=
    .runRetirer s.server retirer
  obtain ⟨hon, hlineage, herrands⟩ :=
    runShutdown { s with server := s.server.runRetirer retirer } around retirer
  exact h.quietly hs (hran.trans hon) hlineage herrands

/-- An engine that is installed comes after all others, and its wording with it. -/
theorem replace (h : s.Minded) (hs : s.Sound) (engine : Engine) {state : EngineState}
    (hopen : state.IsOpen) :
    (s.replace engine state).Minded ∧ s.Answers (s.replace engine state) := by
  let next : Service :=
    { s with
      server := s.server.attempt (.install engine.responses)
      engines := s.engines ++ [(engine, state)] }
  have hlineage : next.lineage = s.lineage ++ [engine] := List.map_append ..
  have hgrown : s.lineage <+: next.lineage := hlineage ▸ List.prefix_append ..
  have hminded : next.Minded := by
    refine ⟨?_, fun errand herrand lease r e hc he => ?_⟩
    · rw [hlineage, List.map_append, ← h.responses_eq]
      rfl
    · -- The engine of someone who waits is an old one.
      obtain ⟨lease', r', hleased⟩ := hs.leased errand herrand
      cases hleased.symm.trans hc
      obtain ⟨old, oldState, hengine⟩ := hs.exists_engine hleased
      have hold := lineage_of_engines hengine
      cases (Server.getElem?_of_grown hgrown hold).symm.trans he
      exact h.pursues errand herrand lease r e hleased hold
  have hleads : s.server.Leads next.server := .attempt s.server (.install engine.responses)
  have hanswers : s.Answers next := ⟨hgrown, hleads, fun _ _ _ _ _ hc _ => .inl hc⟩
  have hpush : Server.Onward [] next.server (s.server.replace engine.responses) :=
    .attempt _ rfl nofun
  obtain ⟨hlast, hthen⟩ :=
    hminded.quietly (t := s.replace engine state) (hs.install engine hopen) hpush rfl rfl
  exact ⟨hlast, hanswers.trans hthen⟩

end Minded

/-! ### One move, and many -/

theorem Move.answers (h : s.Minded) (hs : s.Sound) (hmove : s.Move t) : t.Minded ∧ s.Answers t := by
  cases hmove with
  | connect =>
    unfold Service.connect
    split
    · next server hstep =>
      have hon : Server.Onward [] s.server (s.server.attempt (.accept s.clock)) :=
        .attempt _ rfl nofun
      rw [Server.attempt_of_some hstep] at hon
      exact h.quietly hs hon rfl rfl
    · exact ⟨h, .refl⟩
  | receive connection octets =>
    exact h.quietly hs (.attempt _ (a := .receive connection octets) rfl nofun) rfl rfl
  | finish connection => exact h.quietly hs (.attempt _ (a := .finish connection) rfl nofun) rfl rfl
  | runConnection around connection => exact h.runConnection hs around connection
  | runEngines around => exact h.quietly hs .refl (List.map_map ..) rfl
  | runErrand around herrand => exact h.runErrand hs around herrand
  | runRetirer around retirer => exact h.runRetirer hs around retirer
  | setClock now => exact h.quietly hs .refl (List.map_map ..) rfl
  | forgetAsked => exact h.quietly hs .refl (List.map_map ..) rfl
  | replace engine state hopen => exact h.replace hs engine hopen
  | retire => exact h.quietly hs (.attempt _ (a := .retire .call) rfl nofun) rfl rfl
  | stop =>
    exact h.quietly hs (.attemptAll (by simp [ServerAction.installs]) (by simp) _) rfl rfl

theorem Lives.minded (h : s.Lives) : s.Minded := by
  have hnext {s t : Service} (hs : s.Lives) (h : s.Minded) (hmove : s.Move t) : t.Minded :=
    (hmove.answers h hs.sound).1
  induction h with
  | start hstart _ =>
    obtain ⟨server, hmake, rfl⟩ := Option.map_eq_some_iff.mp hstart
    refine ⟨?_, nofun⟩
    obtain ⟨gate, -, rfl⟩ := Option.map_eq_some_iff.mp hmake
    rfl
  | connect hs ih => exact hnext hs ih .connect
  | receive connection octets hs ih => exact hnext hs ih (.receive connection octets)
  | finish connection hs ih => exact hnext hs ih (.finish connection)
  | runConnection around connection hs ih => exact hnext hs ih (.runConnection around connection)
  | runEngines around hs ih => exact hnext hs ih (.runEngines around)
  | runErrand around hs herrand ih => exact hnext hs ih (.runErrand around herrand)
  | runRetirer around retirer hs ih => exact hnext hs ih (.runRetirer around retirer)
  | setClock now hs ih => exact hnext hs ih (.setClock now)
  | forgetAsked hs ih => exact hnext hs ih .forgetAsked
  | replace engine state hs hopen ih => exact hnext hs ih (.replace engine state hopen)
  | retire hs ih => exact hnext hs ih .retire
  | stop hs ih => exact hnext hs ih .stop

/-- Whatever moves are made, a connection that has leased an engine has its answer from that one. -/
theorem Lives.answers (h : s.Lives) (hmoves : Relation.ReflTransGen Move s t) :
    t.Lives ∧ s.Answers t := by
  induction hmoves with
  | refl => exact ⟨h, .refl⟩
  | tail _ hmove ih =>
    obtain ⟨hlives, hanswers⟩ := ih
    exact ⟨hlives.move hmove, hanswers.trans (hmove.answers hlives.minded hlives.sound).2⟩

/-- Whether a connection that has leased an engine for a request stays with that engine: whatever
moves are made, it waits until it has been sent the engine's answer. -/
structure StaysWith (s : Service) (connection lease n : Nat) (r : Request) (e : Engine) : Prop where
  engine : ∃ state, s.engines[n]? = some (e, state)
  wording : s.server.responses[n]? = some e.responses
  answered : ∀ t, Relation.ReflTransGen Move s t →
    t.server.connections[connection]? = some (.leased lease n (.ok (some r))) ∨
      e.HasAnswered r t.server connection

/-- Whether a service follows a run of its server, in which every connection that has leased an
engine for a request stays with it. -/
structure IsFaithful (s : Service) : Prop where
  exists_run : ∃ settings responses start as,
    Server.make? settings responses = some start ∧ start.run as = some s.server
  stays : ∀ (connection lease n : Nat) (r : Request),
    s.server.connections[connection]? = some (.leased lease n (.ok (some r))) →
      ∃ e, s.StaysWith connection lease n r e

theorem Lives.isFaithful (h : s.Lives) : s.IsFaithful where
  exists_run := by
    obtain ⟨settings, responses, hreachable⟩ := h.sound.reachable
    obtain ⟨start, as, hmake, hrun⟩ := hreachable.exists_run
    exact ⟨settings, responses, start, as, hmake, hrun⟩
  stays connection lease n r hc := by
    obtain ⟨e, state, hengine⟩ := h.sound.exists_engine hc
    have he := lineage_of_engines hengine
    refine ⟨e, ⟨state, hengine⟩, ?_, fun t hmoves => ?_⟩
    · rw [h.minded.responses_eq, List.getElem?_map, he]
      rfl
    · exact (h.answers hmoves).2.answered connection lease n r e hc he

end Service

/-! ### Replies -/

/-- Whether a connection in a run from `start` to `s` is sent nothing or one reply. -/
structure Server.RepliesOnce {α : Type} (start : Server α) (as : List (ServerAction α))
    (s : Server α) (connection : Nat) : Prop where
  /-- All that is sent is the reply. -/
  sentIn_eq : sentIn connection start as = (s.reply? connection).getD []
  /-- The reply is what happened on the connection calls for, in the words of the engine that was
  installed at the time of the lease. -/
  replied : ∀ reply, s.reply? connection = some reply →
    ∃ answer, Replied start as s connection answer reply ∧ Apt as connection answer reply
  /-- The peer cannot keep the connection from its reply. -/
  exists_reply : ∀ x outcome, s.connections[connection]? = some x →
    ∃ bs t reply, s.run bs = some t ∧ t.reply? connection = some reply ∧
      ∀ b ∈ bs, b.connection? = some connection ∧ b.isPeers = false ∧
        (b.outcome? = none ∨ b.outcome? = some outcome)

/-- **A connection is sent nothing or one reply, and a request is answered by the engine that was
leased for it.**  Whatever peers send and whenever, and whatever engines are installed in between: all
that is sent is the one reply.  It is empty if no request came, in time or at all; it is the error of
the engine that was installed at the time of the lease if reading failed or that engine did, and else
the text of that engine for the verdict.  What is read is what would be read off any stream that
begins with what has arrived.  In a service that engine is the one that decides on the request, and
its own words are sent. -/
theorem Server.replied_once :
    (∀ {α : Type} {settings : ServerSettings} {responses : Responses} {start s : Server α}
      {as : List (ServerAction α)}, make? settings responses = some start → start.run as = some s →
        ∀ connection, RepliesOnce start as s connection) ∧
    (∀ {octets : List UInt8} {ended : Bool} {read : Reading},
      Wire.readArrived? octets ended = some read → Wire.Settles octets ended read) ∧
    ∀ {s : Service}, s.Lives → s.IsFaithful := by
  refine ⟨fun {α settings responses start s as} hmake hrun connection => ?_,
    Wire.settles_of_arrived, Service.Lives.isFaithful⟩
  refine ⟨sentIn_eq hmake hrun, fun reply hreply => ?_, fun x outcome hx => ?_⟩
  · obtain ⟨answer, hreplied⟩ := (along_of_run hmake hrun).replied hreply
    exact ⟨answer, hreplied, hreplied.apt⟩
  · exact (reachable_of_run hmake hrun).exists_reply hx outcome

/-- An engine is replaced between lease and outcome by one with other words, and the words are still
its own, for each verdict and for an error.  Elsewhere the engine that a connection waits for is
replaced, and the connection waits on. -/
theorem Server.replied_once_of_swap :
    let words : Responses :=
      { allow := "DUNNO".toList, delay := "DEFER".toList, block := "REJECT".toList,
        error := "ERROR".toList }
    let as (outcome : Except Fault (Decision Nat)) : List (ServerAction Nat) :=
      [.accept 0, .receive 0 [97, 61, 98, 10, 10], .lease 0, .install {}, .decide 0 outcome,
        .answer 0]
    (∀ p ∈ ([(.ok ⟨.allow, 0, 1⟩, "action=DUNNO\n\n"), (.ok ⟨.delay, 5, 1⟩, "action=DEFER\n\n"),
        (.ok ⟨.block, 9, 1⟩, "action=REJECT\n\n"), (.error ⟨.timeout, ""⟩, "action=ERROR\n\n")] :
        List (Except Fault (Decision Nat) × String)),
      ∃ start s, make? {} words = some start ∧ start.run (as p.1) = some s ∧
        s.succession.installed = 1 ∧ sentIn 0 start (as p.1) = p.2.toList ∧
        RepliesOnce start (as p.1) s 0) ∧
    (∃ read, Wire.readArrived? [97, 61, 98, 10, 10] false = some read ∧
      Wire.Settles [97, 61, 98, 10, 10] false read) ∧
    ∃ s t : Service, s.Lives ∧ Relation.ReflTransGen Service.Move s t ∧
      ∃ (connection lease n : Nat) (r : Request) (e : Engine),
        s.server.connections[connection]? = some (.leased lease n (.ok (some r))) ∧
        n < t.server.succession.installed ∧ s.StaysWith connection lease n r e := by
  intro words as
  refine ⟨?_, ?_, ?_⟩
  · obtain ⟨start, hmake⟩ : ∃ start : Server Nat, make? {} words = some start := ⟨_, rfl⟩
    have hcase (outcome : Except Fault (Decision Nat)) (text : String)
        (hend : (start.run (as outcome)).map (fun s => (s.succession.installed, s.reply? 0)) =
          some (1, some text.toList)) :
        ∃ start s, make? {} words = some start ∧ start.run (as outcome) = some s ∧
          s.succession.installed = 1 ∧ sentIn 0 start (as outcome) = text.toList ∧
          RepliesOnce start (as outcome) s 0 := by
      obtain ⟨s, hrun, hs⟩ := Option.map_eq_some_iff.mp hend
      obtain ⟨hinstalled, hreply⟩ := Prod.mk.inj hs
      have honce := replied_once.1 hmake hrun 0
      refine ⟨start, s, hmake, hrun, hinstalled, ?_, honce⟩
      rw [honce.sentIn_eq, hreply]
      rfl
    cases hmake
    refine List.forall_mem_cons.mpr ⟨hcase _ _ ?_, List.forall_mem_cons.mpr ⟨hcase _ _ ?_,
      List.forall_mem_cons.mpr ⟨hcase _ _ ?_, List.forall_mem_singleton.mpr (hcase _ _ ?_)⟩⟩⟩ <;>
      decide +kernel
  · obtain ⟨read, hread⟩ : ∃ read, Wire.readArrived? [97, 61, 98, 10, 10] false = some read :=
      Option.isSome_iff_exists.mp (by decide +kernel)
    exact ⟨read, hread, replied_once.2.1 hread⟩
  · have hstart : Service.start? {} .asking .asking = some _ := rfl
    have hopen : EngineState.asking.IsOpen := by
      intro crew hcrew
      rw [List.mem_singleton.mp hcrew]
      rfl
    let network : Network := { listed := fun _ => .after 0 .failed, policy := fun _ _ => .temperror }
    have hread := (Service.Lives.start hstart hopen).connect.receive 0 [97, 61, 98, 10, 10]
    obtain ⟨s, hlives, hs⟩ : ∃ s : Service, s.Lives ∧ s.server.succession.installed = 0 ∧
        s.errands.map Errand.engine = [0] :=
      ⟨_, hread.runConnection ⟨network, {}⟩ 0, by decide +kernel⟩
    obtain ⟨hinstalled, herrands⟩ := hs
    obtain ⟨errand, herrand, hengine⟩ := List.mem_map.mp (herrands.symm ▸ List.mem_singleton_self 0)
    obtain ⟨lease, r, hc⟩ := hlives.sound.leased errand herrand
    obtain ⟨e, hstays⟩ := (replied_once.2.2 hlives).stays _ lease _ r hc
    have hmoves := Relation.ReflTransGen.single (Service.Move.replace (s := s) .asking .asking hopen)
    have hpush : Onward [] (s.server.attempt (.install Engine.asking.responses))
        (s.server.replace Engine.asking.responses) := .attempt _ rfl nofun
    have hnext : (s.server.replace Engine.asking.responses).succession.installed = 1 :=
      hpush.installed.trans (congrArg (· + 1) hinstalled)
    refine ⟨s, _, hlives, hmoves, errand.connection, lease, errand.engine, r, e, hc, ?_, hstays⟩
    exact hengine ▸ hnext ▸ Nat.one_pos

end MailPolicy
