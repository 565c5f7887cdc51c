/-
How a service ends.

A service that is told to end accepts no connection any more and gives those that are open the time in
which a request must have been sent.  It waits for them by asking the gate for all its permits at once.
A gate cannot be made with more than `Gate.maxLimit` permits, nor asked for more than `Gate.maxAsked`;
a service with more permits than that does not wait for all of its connections.

* `Server.openCount` — how many connections are open;
* `Server.Graceful` — what a service with given settings should be: it can be set up, never serves more
  connections than configured, and does not end before its time while any is open;
* `Server.Counted`, `Server.Reachable.counted` — the gate knows how many connections are open;
* `Server.exists_stop_of_closing` — a service is about to end because it was told to;
* `Server.graceful_iff` — **which settings make a service graceful**.
-/
import MailPolicy.Config.Reading
import MailPolicy.Proofs.Server.History

namespace MailPolicy

/-! ### The gate -/

namespace Gate

variable {g : Gate} {maxConnections : Nat}

theorem ofSettings?_eq_some_iff :
    ofSettings? maxConnections = some g ↔
      max maxConnections 1 ≤ maxLimit ∧ g = { limit := max maxConnections 1 } := by
  rw [ofSettings?, Option.ite_none_right_eq_some, Option.some.injEq, eq_comm (a := g)]

/-- The permits that the end of a service asks for are there if they are there beside those taken. -/
theorem releasesService_iff (h : g.inside ≤ g.limit) :
    g.releasesService = true ↔ g.inside + g.asked ≤ g.limit := by
  have hasked : g.asked ≤ g.limit := Nat.min_le_left g.limit maxAsked
  rw [releasesService, free, Bool.or_eq_true, decide_eq_true_eq, decide_eq_true_eq]
  constructor
  · rintro (hnone | hfree) <;> omega
  · intro hroom
    exact .inr (by omega)

theorem enter?_eq_some {g' : Gate} (h : g.enter? = some g') :
    g.inside < g.limit ∧ g' = { g with inside := g.inside + 1 } := by
  obtain ⟨hfree, rfl⟩ : 0 < g.free ∧ { g with inside := g.inside + 1 } = g' := by
    simpa [enter?] using h
  exact ⟨Nat.lt_of_sub_pos hfree, rfl⟩

end Gate

/-! ### Time -/

/-- The instant that an action reads off the clock, if it reads one. -/
def ServerAction.clock? {α : Type} : ServerAction α → Option Nat
  | accept now | expire _ now | stop now | giveUp now => some now
  | _ => none

namespace Server

variable {α : Type} {s t start : Server α} {a : ServerAction α} {log : List (Nat × ServerAction α)}
  {settings : ServerSettings} {responses : Responses} {now : Nat}

/-- Whether time does not go back from one action to the next, and every action that reads the clock
reads the instant at which it happens. -/
structure OnClock (log : List (Nat × ServerAction α)) : Prop where
  sorted : log.Pairwise fun x y => x.1 ≤ y.1
  read : ∀ x ∈ log, ∀ now ∈ x.2.clock?, now = x.1

theorem OnClock.of_append {later : List (Nat × ServerAction α)} (h : OnClock (log ++ later)) :
    OnClock log where
  sorted := (List.pairwise_append.mp h.sorted).1
  read x hx := h.read x (List.mem_append_left _ hx)

theorem OnClock.le_last (h : OnClock (log ++ [(now, a)])) {x : Nat × ServerAction α} (hx : x ∈ log) :
    x.1 ≤ now :=
  (List.pairwise_append.mp h.sorted).2.2 x hx _ (List.mem_singleton_self _)

theorem OnClock.last_eq (h : OnClock (log ++ [(now, a)])) {instant : Nat}
    (ha : a.clock? = some instant) : instant = now :=
  h.read (now, a) List.mem_concat_self instant ha

/-! ### What a service should be -/

/-- How many connections are open. -/
def openCount (s : Server α) : Nat := s.connections.countP fun c => !c.isGone

/-- Whether a server with given settings can be set up, never serves more connections than these say,
and ends, after it was told to, only when no connection is open or their time is up. -/
structure Graceful (α : Type) (settings : ServerSettings) (responses : Responses) : Prop where
  made : (make? settings responses : Option (Server α)).isSome = true
  within : ∀ s : Server α, Reachable settings responses s →
    s.openCount ≤ max settings.maxConnections 1
  waits : ∀ (start s t : Server α) (log : List (Nat × ServerAction α)) (now : Nat)
    (a : ServerAction α), make? settings responses = some start → OnClock (log ++ [(now, a)]) →
    start.run (log.map Prod.snd) = some s → s.step a = some t →
    s.stage ≠ .closed → t.stage = .closed →
    ∃ stopped, (stopped, .stop stopped) ∈ log ∧
      (t.openCount = 0 ∨ stopped + settings.readTimeout * 1000 ≤ now)

/-! ### Connections and permits -/

/-- Whether the gate of a server is that of its settings and knows how many connections are open. -/
structure Counted (settings : ServerSettings) (s : Server α) : Prop where
  settings_eq : s.settings = settings
  limit_eq : s.gate.limit = max settings.maxConnections 1
  inside_eq : s.gate.inside = s.openCount
  inside_le : s.gate.inside ≤ s.gate.limit

theorem make?_eq_some_iff :
    make? settings responses = some start ↔ max settings.maxConnections 1 ≤ Gate.maxLimit ∧
      start = { settings := settings, responses := [responses],
                gate := { limit := max settings.maxConnections 1 } } := by
  simp only [make?, Option.map_eq_some_iff, Gate.ofSettings?_eq_some_iff]
  constructor
  · rintro ⟨gate, ⟨hfits, rfl⟩, rfl⟩
    exact ⟨hfits, rfl⟩
  · rintro ⟨hfits, rfl⟩
    exact ⟨_, ⟨hfits, rfl⟩, rfl⟩

theorem counted_of_make? (h : make? settings responses = some start) : start.Counted settings := by
  obtain ⟨-, rfl⟩ := make?_eq_some_iff.mp h
  exact ⟨rfl, rfl, rfl, Nat.zero_le _⟩

theorem openCount_setConnection {connection : Nat} {x : Connection α}
    (hx : s.connections[connection]? = some x) (y : Connection α) :
    (s.setConnection connection y).openCount + (!x.isGone).toNat =
      s.openCount + (!y.isGone).toNat :=
  countP_set_add (fun c : Connection α => !c.isGone) y hx

namespace Counted

/-- A connection goes on and is still open. -/
theorem advance (h : s.Counted settings) {connection : Nat} {x y : Connection α}
    (hx : s.connections[connection]? = some x) (hopen : x.isGone = false) (hstays : y.isGone = false)
    (succession : Succession) :
    Counted settings { s.setConnection connection y with succession := succession } where
  settings_eq := h.settings_eq
  limit_eq := h.limit_eq
  inside_eq := by
    have hcount := openCount_setConnection hx y
    rw [hopen, hstays, Nat.add_right_cancel_iff, ← h.inside_eq] at hcount
    exact hcount.symm
  inside_le := h.inside_le

theorem accept (h : s.Counted settings) {gate : Gate} (hgate : s.gate.enter? = some gate) (due : Nat) :
    Counted settings
      { s with gate := gate, connections := s.connections ++ [.reading [] false due] } := by
  obtain ⟨hroom, rfl⟩ := Gate.enter?_eq_some hgate
  refine ⟨h.settings_eq, h.limit_eq, ?_, hroom⟩
  show s.gate.inside + 1 =
    (s.connections ++ [Connection.reading [] false due]).countP fun c : Connection α => !c.isGone
  rw [List.countP_append, h.inside_eq]
  rfl

/-- A connection that is through gives its permit back. -/
theorem leave (h : s.Counted settings) {connection : Nat} {reply : Text}
    (hx : s.connections[connection]? = some (.leaving reply)) :
    Counted settings
      { s.setConnection connection (.gone reply) with gate := s.gate.leave } where
  settings_eq := h.settings_eq
  limit_eq := h.limit_eq
  inside_eq := by
    have hcount : (s.setConnection connection (.gone reply)).openCount + 1 = s.openCount :=
      openCount_setConnection hx (.gone reply)
    show s.gate.inside - 1 = (s.setConnection connection (.gone reply)).openCount
    rw [h.inside_eq, ← hcount, Nat.add_sub_cancel]
  inside_le := Nat.le_trans (Nat.sub_le _ _) h.inside_le

/-- Nothing happens to connections and permits. -/
theorem of_eq (h : s.Counted settings) (hsettings : t.settings = s.settings) (hgate : t.gate = s.gate)
    (hconnections : t.connections = s.connections) : t.Counted settings where
  settings_eq := hsettings.trans h.settings_eq
  limit_eq := hgate ▸ h.limit_eq
  inside_eq := by rw [hgate, openCount, hconnections, h.inside_eq, openCount]
  inside_le := hgate ▸ h.inside_le

end Counted

theorem Happens.counted (ha : Happens s a t) (h : s.Counted settings) : t.Counted settings := by
  cases ha with
  | accept now gate hopen hgate => exact h.accept hgate _
  | receive c octets arrived due hx => exact h.advance hx rfl rfl s.succession
  | finish c arrived due hx => exact h.advance hx rfl rfl s.succession
  | expire c now arrived ended due hx => exact h.advance hx rfl rfl s.succession
  | lease c arrived ended due read hx => exact h.advance hx rfl rfl _
  | decide c lease engine r outcome hx => exact h.advance hx rfl rfl s.succession
  | answerNone c lease engine hx => exact h.advance hx rfl rfl s.succession
  | answerError c lease engine e hx => exact h.advance hx rfl rfl s.succession
  | answer c lease engine outcome hx => exact h.advance hx rfl rfl s.succession
  | drop c lease reply succession hx => exact h.advance hx rfl rfl succession
  | notify c lease reply succession hx => exact h.advance hx rfl rfl succession
  | leave c reply hx => exact h.leave hx
  | install | retire | stop | close | giveUp => exact h.of_eq rfl rfl rfl

/-- **The gate knows how many connections are open**, and they are never too many. -/
theorem Reachable.counted (h : s.Reachable settings responses) : s.Counted settings := by
  induction h with
  | start hmake => exact counted_of_make? hmake
  | step a _ hstep ih => exact (happens_of_step hstep).counted ih

/-- The end of a service, before its time is up, when `openCount` connections are open. -/
theorem Counted.releasesService_iff (h : s.Counted settings) :
    s.gate.releasesService = true ↔
      s.openCount + min (max settings.maxConnections 1) Gate.maxAsked ≤
        max settings.maxConnections 1 := by
  rw [Gate.releasesService_iff h.inside_le, Gate.asked, h.limit_eq, h.inside_eq]

/-! ### The end -/

/-- A service goes from stage to stage only when it is told to end and when it ends. -/
theorem Happens.stage (h : Happens s a t) :
    t.stage = s.stage ∨ t.stage = .closed ∨
      ∃ now, a = .stop now ∧ t.stage = .closing (now + s.patience) := by
  cases h with
  | stop now => exact .inr (.inr ⟨now, rfl, rfl⟩)
  | close | giveUp => exact .inr (.inl rfl)
  | _ => exact .inl rfl

/-- A service ends because the gate lets it, or because its time is up. -/
theorem Happens.of_closed (h : Happens s a t) (hbefore : s.stage ≠ .closed)
    (hafter : t.stage = .closed) :
    t.connections = s.connections ∧ ∃ due, s.stage = .closing due ∧
      (s.gate.releasesService = true ∨ ∃ now, a = .giveUp now ∧ due ≤ now) := by
  cases h with
  | close due hstage hreleases => exact ⟨rfl, due, hstage, .inl hreleases⟩
  | giveUp now due hstage hdue => exact ⟨rfl, due, hstage, .inr ⟨now, rfl, hdue⟩⟩
  | stop now hstage => cases hafter
  | _ => exact absurd hafter hbefore

/-- A service is about to end because it was told to, and its time runs from then. -/
theorem exists_stop_of_closing (hmake : make? settings responses = some start) (hlog : OnClock log)
    (hrun : start.run (log.map Prod.snd) = some s) {due : Nat} (hstage : s.stage = .closing due) :
    ∃ stopped, (stopped, .stop stopped) ∈ log ∧ due = stopped + settings.readTimeout * 1000 := by
  -- By the last action: the service was about to end before it, or it is the one that told it to.
  induction log using List.reverseRecOn generalizing s with
  | nil =>
    obtain ⟨-, rfl⟩ := make?_eq_some_iff.mp hmake
    cases hrun
    cases hstage
  | append_singleton log x ih =>
    rw [List.map_append] at hrun
    obtain ⟨r, hr, hstep⟩ := run_concat_iff.mp hrun
    rcases (happens_of_step hstep).stage with hsame | hclosed | ⟨now, ha, hnow⟩
    · obtain ⟨stopped, hmem, hdue⟩ := ih hlog.of_append hr (hsame.symm.trans hstage)
      exact ⟨stopped, List.mem_append_left _ hmem, hdue⟩
    · rw [hclosed] at hstage
      cases hstage
    · have hread : now = x.1 := hlog.last_eq (by rw [ha]; rfl)
      have hx : x = (now, .stop now) := Prod.ext hread.symm ha
      refine ⟨now, hx ▸ List.mem_concat_self, ?_⟩
      rw [hnow, patience, (reachable_of_run hmake hr).counted.settings_eq] at hstage
      cases hstage
      rfl

/-- With more permits than can be asked for at once, a service that is told to end with one connection
open ends at the same instant. -/
theorem exists_hasty_run (hmake : make? settings responses = some start)
    (hwide : Gate.maxAsked < max settings.maxConnections 1) :
    ∃ s t : Server α, start.run [.accept 0, .stop 0] = some s ∧ s.step .close = some t ∧
      s.stage ≠ .closed ∧ t.stage = .closed ∧ t.openCount = 1 := by
  obtain ⟨-, rfl⟩ := make?_eq_some_iff.mp hmake
  let gate : Gate := { limit := max settings.maxConnections 1, inside := 1 }
  let s : Server α :=
    { settings := settings, responses := [responses], gate := gate
      connections := [.reading [] false (0 + settings.readTimeout * 1000)]
      stage := .closing (0 + settings.readTimeout * 1000) }
  have hreleases : gate.releasesService = true := by
    refine (Gate.releasesService_iff (Nat.le_max_right _ _)).mpr ?_
    show 1 + min (max settings.maxConnections 1) Gate.maxAsked ≤ max settings.maxConnections 1
    omega
  refine ⟨s, { s with stage := .closed }, ?_, ?_, nofun, rfl, rfl⟩
  · have henter : Gate.enter? { limit := max settings.maxConnections 1 } = some gate :=
      if_pos (Nat.lt_of_lt_of_le Nat.one_pos (Nat.le_max_right _ _))
    simp only [run, List.foldlM_cons, List.foldlM_nil, step, henter]
    rfl
  · show (if gate.releasesService then some { s with stage := .closed } else none) = _
    rw [if_pos hreleases]

/-- **A service is graceful exactly if the gate can be made with as many permits as connections are
configured, and can be asked for all of them at once, unless there is no time to wait anyway.** -/
theorem graceful_iff (α : Type) (settings : ServerSettings) (responses : Responses) :
    Graceful α settings responses ↔ max settings.maxConnections 1 ≤ Gate.maxLimit ∧
      (max settings.maxConnections 1 ≤ Gate.maxAsked ∨ settings.readTimeout = 0) := by
  constructor
  · intro h
    obtain ⟨start, hmake⟩ := Option.isSome_iff_exists.mp h.made
    refine ⟨(make?_eq_some_iff.mp hmake).1, ?_⟩
    -- With too many permits and time to wait there is the run that ends too early.
    by_contra hnot
    obtain ⟨hwide, htime⟩ := not_or.mp hnot
    obtain ⟨s, t, hrun, hstep, hbefore, hafter, hopen⟩ :=
      exists_hasty_run hmake (Nat.lt_of_not_le hwide)
    have hlog : OnClock (α := α) ([(0, .accept 0), (0, .stop 0)] ++ [(0, .close)]) :=
      ⟨by simp, by simp [ServerAction.clock?]⟩
    obtain ⟨stopped, -, hnone | hlate⟩ := h.waits start s t _ 0 _ hmake hlog hrun hstep hbefore hafter
    · omega
    · omega
  · rintro ⟨hfits, hasked⟩
    refine ⟨?_, fun s hs => ?_, fun start s t log now a hmake hlog hrun hstep hbefore hafter => ?_⟩
    · exact Option.isSome_iff_exists.mpr ⟨_, make?_eq_some_iff.mpr ⟨hfits, rfl⟩⟩
    · have hcounted := hs.counted
      exact hcounted.inside_eq ▸ hcounted.limit_eq ▸ hcounted.inside_le
    · obtain ⟨hsame, due, hstage, hends⟩ := (happens_of_step hstep).of_closed hbefore hafter
      obtain ⟨stopped, hmem, rfl⟩ := exists_stop_of_closing hmake hlog.of_append hrun hstage
      refine ⟨stopped, hmem, ?_⟩
      rcases hends with hreleases | ⟨instant, rfl, hdue⟩
      · rcases hasked with hall | hnone
        · -- All permits are there, so nobody holds one.
          have hcounted := (reachable_of_run hmake hrun).counted
          rw [hcounted.releasesService_iff, Nat.min_eq_left hall] at hreleases
          refine .inl ?_
          rw [openCount, hsame, ← openCount]
          omega
        · rw [hnone]
          exact .inr (hlog.le_last hmem)
      · exact .inr (hlog.last_eq rfl ▸ hdue)

/-- **Not every configuration makes a service graceful**: with the largest number of connections that a
configuration can ask for, the server cannot be set up at all. -/
theorem not_graceful_of_config :
    ¬ ∀ (text : Text) (c : Config), Config.read text = .ok c →
      Graceful Float c.server c.responses := by
  intro h
  let text : Text := "[server]\nmax_connections = 9223372036854775807\n[[stages]]\n".toList
  have hmany : (Config.read text).toOption.map (·.server.maxConnections) =
      some 9223372036854775807 := by decide +kernel
  obtain ⟨c, hread, hc⟩ := Option.map_eq_some_iff.mp hmany
  cases hok : Config.read text with
  | error e =>
    rw [hok] at hread
    cases hread
  | ok d =>
    rw [hok] at hread
    obtain rfl : d = c := Option.some.inj hread
    obtain ⟨start, hmake⟩ := Option.isSome_iff_exists.mp (h text d hok).made
    have hfits := (make?_eq_some_iff.mp hmake).1
    rw [hc] at hfits
    revert hfits
    decide

end Server
end MailPolicy
