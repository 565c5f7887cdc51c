/-
How often a check in the background asks, when every look-up fails.

Requests come to the check one after the other.  It is evaluated for each of them, and unless it is
left alone a pool runs its probe, which asks and counts a failure, before the next request comes.
The clock is read when the check is evaluated and again when the failure is counted; the question is
asked at some instant between the two.

* `Network.Fails` — no look-up succeeds;
* `Bench.Visits` — requests have visited a check one after the other;
* `Bench.Visits.tracked` — what its memory and the instants at which it asked have to do with each
  other;
* `Bench.Visits.countP_asked_le` — **in no interval shorter than a window and a back-off does it
  ask often**.
-/
import MailPolicy.Proofs.Backoff.Allowance
import MailPolicy.Proofs.Check.Build
import MailPolicy.Proofs.Engine.Simulation

namespace MailPolicy

/-- Whether every look-up fails. -/
structure Network.Fails (net : Network) : Prop where
  listed : ∀ name, ∃ delay, net.listed name = .after delay .failed
  policy : ∀ evaluations subject, net.policy evaluations subject = .temperror

theorem Check.omits_of_atOnce? {c : Check} {m : Memory} {now : Nat} {r : Request}
    (h : c.atOnce? m now r = none) : m.omits now = false := by
  rw [atOnce?_of_isBackground (isBackground_of_atOnce? h)] at h
  cases homits : m.omits now with
  | true => simp [homits] at h
  | false => rfl

/-- How often something was asked. -/
def Bench.asks (b : Bench) : Nat := b.queries.length + b.subjects.length

/-! ### A probe from its start to its end -/

namespace Probe

variable {net : Network} {b : Bench} {p : Probe} {c : Check} {asked ended : Nat}

/-- The bench after a probe that asks at one instant and ends at another. -/
def run (net : Network) (b : Bench) (asked ended : Nat) (p : Probe) : Bench :=
  (p.finish net { (p.start net { b with now := asked } asked).2 with now := ended }).2

/-- Whether a probe has asked nothing, or has asked and counted a failure. -/
inductive Fares (b : Bench) (slot ended : Nat) (b' : Bench) : Prop
  | quiet : b'.checks = b.checks → b'.asks = b.asks → b'.memories = b.memories →
      Fares b slot ended b'
  | failed : b'.checks = b.checks → b'.asks = b.asks + 1 →
      b'.memories = b.memories.set slot ((b.memory slot).fail ended) → Fares b slot ended b'

theorem fares_blockList {l : BlockList} (hfails : net.Fails)
    (hc : b.checks[p.slot]? = some (.blockList l)) :
    Fares b p.slot ended (p.run net b asked ended) := by
  cases hq : l.query? p.attributes with
  | none =>
    have hstart : (p.start net { b with now := asked } asked).2 = { b with now := asked } := by
      simp only [start, hc, hq]
    have hfind : p.find net { b with now := ended } = (.neutral, { b with now := ended }) := by
      simp only [find, hc, hq, Option.map_none]
    rw [run, hstart, finish, hfind]
    exact .quiet rfl rfl rfl
  | some name =>
    obtain ⟨delay, hlisted⟩ := hfails.listed name
    have hstart : (p.start net { b with now := asked } asked).2 =
        { b with now := asked, queries := b.queries ++ [name] } := by
      simp only [start, hc, hq, hlisted]
      cases delay <;> rfl
    have hfind : p.find net { b with now := ended, queries := b.queries ++ [name] } =
        (.failure, { b with now := ended, queries := b.queries ++ [name] }) := by
      simp only [find, hc, hq, Option.map_some, hlisted]
      rfl
    rw [run, hstart, finish, hfind]
    refine .failed rfl ?_ rfl
    show (b.queries ++ [name]).length + b.subjects.length = _
    rw [List.length_append, Bench.asks]
    exact Nat.add_right_comm _ _ _

theorem fares_senderPolicy {l : SenderPolicy} (hfails : net.Fails)
    (hc : b.checks[p.slot]? = some (.senderPolicy l)) :
    Fares b p.slot ended (p.run net b asked ended) := by
  have hstart : (p.start net { b with now := asked } asked).2 = { b with now := asked } := by
    simp only [start, hc]
  rw [run, hstart, finish]
  cases hsubject : SenderPolicy.subject? p.attributes with
  | none =>
    have hfind : p.find net { b with now := ended } = (.neutral, { b with now := ended }) := by
      simp only [find, hc, hsubject]
    rw [hfind]
    exact .quiet rfl rfl rfl
  | some subject =>
    obtain ⟨sender, helo, client⟩ := subject
    have hfind : p.find net { b with now := ended } =
        (.failure, { b with now := ended, subjects := b.subjects ++ [⟨sender, helo, client⟩] }) := by
      simp only [find, hc, hsubject, hfails.policy]
      rfl
    rw [hfind]
    refine .failed rfl ?_ rfl
    show b.queries.length + (b.subjects ++ [_]).length = _
    rw [List.length_append, Bench.asks]
    exact (Nat.add_assoc _ _ _).symm

/-- A probe asks if and only if it counts a failure. -/
theorem fares_run (p : Probe) (asked ended : Nat) (hfails : net.Fails)
    (hc : b.checks[p.slot]? = some c) (hback : c.kind.isBackground = true) :
    Fares b p.slot ended (p.run net b asked ended) := by
  cases c with
  | blockList l => exact fares_blockList hfails hc
  | senderPolicy l => exact fares_senderPolicy hfails hc
  | valueList l | pattern l | keyFile l => cases hback

end Probe
/-! ### Requests one after the other -/

namespace Bench

/-- Requests visit the check `c` in a slot one after the other, from a bench on: the bench that
they leave, the last reading of the clock, and the instants at which the check asked. -/
inductive Visits (net : Network) (c : Check) (slot : Nat) (b₀ : Bench) :
    Bench → Nat → List Nat → Prop
  | start (clock : Nat) : Visits net c slot b₀ b₀ clock []
  /-- Time passes, and anything but the check and its memory changes. -/
  | outside {b b' : Bench} {clock now : Nat} {asked : List Nat} :
      Visits net c slot b₀ b clock asked → clock ≤ now → b'.checks = b.checks →
      b'.memories[slot]? = b.memories[slot]? → Visits net c slot b₀ b' now asked
  /-- The check is left alone. -/
  | answer (request : Nat) (r : Request) {b : Bench} {clock now : Nat} {asked : List Nat}
      {points : Option Float} :
      Visits net c slot b₀ b clock asked → clock ≤ now →
      c.atOnce? (b.memory slot) now r = some points →
      Visits net c slot b₀ (b.record request slot points) now asked
  /-- No pool takes the probe. -/
  | refuse (request : Nat) (r : Request) {b : Bench} {clock now : Nat} {asked : List Nat} :
      Visits net c slot b₀ b clock asked → clock ≤ now → c.atOnce? (b.memory slot) now r = none →
      Visits net c slot b₀ ((b.lock request slot).unlock request slot) now asked
  /-- A probe runs to its end. -/
  | probe (request : Nat) (r : Request) {b : Bench} {clock now asks ended : Nat} {asked : List Nat} :
      Visits net c slot b₀ b clock asked → clock ≤ now → now ≤ asks → asks ≤ ended →
      c.atOnce? (b.memory slot) now r = none →
      Visits net c slot b₀ ((Probe.mk request slot r).run net (b.lock request slot) asks ended) ended
        (asked ++ List.replicate
          (((Probe.mk request slot r).run net (b.lock request slot) asks ended).asks - b.asks) asks)

variable {net : Network} {c : Check} {slot : Nat} {b₀ b : Bench} {clock : Nat} {asked : List Nat}
  {s : BackoffSettings} {owner : Text} {first length : Nat}

/-- Whether a bench has a check with its failures in a slot, and the check has asked within the
bound in the interval of the given length, as far as the clock sufficed. -/
structure Tracked (s : BackoffSettings) (c : Check) (slot first length : Nat) (b : Bench)
    (clock : Nat) (asked : List Nat) : Prop where
  check : b.checks[slot]? = some c
  asked_le : ∀ q ∈ asked, q ≤ clock
  failures : ∃ t, b.memories[slot]? = some (.failures t) ∧ (t.overflowed = false →
    t.Stems s ∧ asked.countP (fun q => first ≤ q ∧ q < first + length) +
      t.allowance (first + length) clock ≤ max 1 (2 * t.maxErrors - 2))

namespace Tracked

variable {b' : Bench} {now asks ended : Nat}

theorem outside (h : Tracked s c slot first length b clock asked) (hclock : clock ≤ now)
    (hchecks : b'.checks = b.checks) (hmemory : b'.memories[slot]? = b.memories[slot]?) :
    Tracked s c slot first length b' now asked := by
  obtain ⟨hcheck, hasked, t, ht, hbound⟩ := h
  refine ⟨hchecks ▸ hcheck, fun q hq => Nat.le_trans (hasked q hq) hclock, t, hmemory ▸ ht, ?_⟩
  intro hsuffices
  obtain ⟨hstems, hcount⟩ := hbound hsuffices
  have hanti := t.allowance_anti (first + length) hclock
  exact ⟨hstems, by omega⟩

/-- A probe that asks while the check is not left alone takes one of the failures that are left. -/
theorem fares {r : Request} (h : Tracked s c slot first length b clock asked)
    (hvalid : s.flaw? owner = none) (hlength : length ≤ 1000 * min s.timeFrame s.base)
    (hnow : clock ≤ now) (hasks : now ≤ asks) (hended : asks ≤ ended)
    (htakes : c.atOnce? (b.memory slot) now r = none) (hfares : Probe.Fares b slot ended b') :
    Tracked s c slot first length b' ended (asked ++ List.replicate (b'.asks - b.asks) asks) := by
  cases hfares with
  | quiet hchecks hnone hmemories =>
    rw [hnone, Nat.sub_self, List.replicate_zero, List.append_nil]
    exact h.outside (by omega) hchecks (by rw [hmemories])
  | failed hchecks hone hmemories =>
    rw [hone, Nat.add_sub_cancel_left, List.replicate_one]
    obtain ⟨hcheck, hasked, t, ht, hbound⟩ := h
    have hmemory : b.memory slot = .failures t := by
      rw [memory, ht]
      rfl
    have hopen : t.omits asks = false := by
      have homits := Check.omits_of_atOnce? htakes
      rw [hmemory] at homits
      exact Tracker.omits_of_le homits hasks
    obtain ⟨hlt, -⟩ := List.getElem?_eq_some_iff.mp ht
    refine ⟨hchecks ▸ hcheck, fun q hq => ?_, (t.record ended).1, ?_, fun hsuffices => ?_⟩
    · rcases List.mem_append.mp hq with hq | hq
      · have := hasked q hq
        omega
      · rw [List.mem_singleton.mp hq]
        exact hended
    · rw [hmemories, List.getElem?_set_self hlt, hmemory]
      rfl
    · obtain ⟨hbefore, started, hr⟩ := Tracker.of_overflowed_record hsuffices
      obtain ⟨hstems, hcount⟩ := hbound hbefore
      obtain ⟨hframe, -, hbase⟩ := hstems.limits_of_flaw? hvalid
      rw [(Tracker.sameLimits_record? hr).maxErrors_eq]
      exact ⟨hstems.record? hr, hstems.countP_add_allowance_le hopen hasked (by omega) hended
        (by omega) (by omega) hr hcount⟩

end Tracked

theorem Visits.tracked (first : Nat) (h : Visits net c slot b₀ b clock asked) (hfails : net.Fails)
    (hback : c.kind.isBackground = true) (hvalid : s.flaw? owner = none)
    (hlength : length ≤ 1000 * min s.timeFrame s.base) (hcheck : b₀.checks[slot]? = some c)
    (hmemory : b₀.memories[slot]? = some (.failures (.ofSettings s))) :
    Tracked s c slot first length b clock asked := by
  induction h with
  | start clock =>
    have hstems := Tracker.stems_ofSettings s
    refine ⟨hcheck, fun q hq => absurd hq List.not_mem_nil, _, hmemory, fun _ => ⟨hstems, ?_⟩⟩
    rw [List.countP_nil, Nat.zero_add]
    exact hstems.allowance_le _ _
  | outside _ hclock hchecks hsame ih => exact ih.outside hclock hchecks hsame
  | @answer request r b _ _ _ points _ hclock _ ih =>
    have heq := b.record_eq request slot points
    exact ih.outside hclock (by rw [heq]; rfl) (by rw [heq]; rfl)
  | refuse request r _ hclock _ ih => exact ih.outside hclock rfl rfl
  | @probe request r b clock now asks ended asked _ hnow hasks hended htakes ih =>
    -- Handing out a guard changes neither the check nor its memory.
    have hlocked : Tracked s c slot first length (b.lock request slot) clock asked :=
      ih.outside (Nat.le_refl clock) rfl rfl
    have hfares := Probe.fares_run ⟨request, slot, r⟩ asks ended hfails hlocked.check hback
    exact hlocked.fares hvalid hlength hnow hasks hended htakes hfares

/-- **A dead resource is not asked often**, as far as the clock suffices: in an interval that is no
longer than a window and than the first back-off, a check in the background whose every look-up
fails asks at most twice as often as a window can have failures without being full, or once if it
can have none. -/
theorem Visits.countP_asked_le {settings : CheckSettings} {backoff : BackoffSettings} {built : Nat}
    {files : Files} {m : Memory} (hbuild : Check.build settings backoff built files = .ok (c, m))
    (hback : settings.kind.isBackground = true)
    (hvalid : (settings.backoff.getD backoff).flaw? owner = none) (hfails : net.Fails)
    (hcheck : b₀.checks[slot]? = some c) (hmemory : b₀.memories[slot]? = some m)
    (h : Visits net c slot b₀ b clock asked)
    (hsuffices : (b.memory slot).tracker?.any (·.overflowed) = false)
    (hlength : length ≤ 1000 * min (settings.backoff.getD backoff).timeFrame
      (settings.backoff.getD backoff).base) (first : Nat) :
    asked.countP (fun q => first ≤ q ∧ q < first + length) ≤
      max 1 (2 * (settings.backoff.getD backoff).maxErrors - 2) := by
  rw [← Check.kind_of_build hbuild] at hback
  rw [Check.memory_of_build hbuild (Check.kind_of_build hbuild ▸ hback)] at hmemory
  obtain ⟨-, -, t, ht, hbound⟩ := h.tracked first hfails hback hvalid hlength hcheck hmemory
  rw [memory, ht] at hsuffices
  obtain ⟨hstems, hcount⟩ := hbound hsuffices
  obtain ⟨-, hmax, -⟩ := hstems.limits_of_flaw? hvalid
  rw [hmax] at hcount
  omega

end Bench

/-- Settings of a list of addresses that is left alone after two failures. -/
def oneList : BlockListSettings where
  name := "list".toList
  zone := "list.example".toList
  field := none
  weight := some 1
  weights := []
  backoff := some { maxErrors := 2 }

/-- The check of these settings. -/
def oneListCheck : BlockList where
  name := oneList.name
  zone := BlockList.zoneOf oneList.zone
  target := .address
  table := .ofEntries [⟨WeightTable.loopback, 1⟩]

theorem make_oneList : BlockList.make BlockList.addressTarget oneList = .ok oneListCheck := by
  have hbare : WeightTable.bareEntry 1 = .ok ⟨WeightTable.loopback, 1⟩ :=
    if_pos (by decide +kernel)
  have htable : WeightTable.make oneList.weights oneList.weight = .ok oneListCheck.table := by
    show WeightTable.make [] (some 1) = _
    rw [WeightTable.make]
    simp only [List.mapM_nil, Option.toList_some, List.mapM_cons, hbare]
    rfl
  have hzone : ((BlockList.zoneOf oneList.zone).isEmpty ||
      (BlockList.zoneOf oneList.zone).any Text.isBlank) = false := by decide
  have hbuild : BlockList.build .address oneList = .ok oneListCheck := by
    unfold BlockList.build
    simp only [hzone, htable, Bool.false_eq_true, if_false]
    rfl
  have hwanted : BlockList.addressTarget oneList.field = .ok .address := rfl
  rw [BlockList.make, hwanted]
  simp only [hbuild]

namespace Bench

/-- The bound is met: of three requests within one window, two ask and the third is left out. -/
theorem countP_asked_le_two :
    let net : Network := { listed := fun _ => .after 0 .failed, policy := fun _ _ => .temperror }
    let c : Check := .blockList oneListCheck
    let m : Memory := Check.freshFailures oneList.backoff {}
    ∃ b, Check.build (.dnsbl oneList) {} 0 {} = .ok (c, m) ∧
      Visits net c 0 { checks := [c], memories := [m], now := 0 } b 20000 [0, 10000] ∧
      [0, 10000].countP (fun q => 0 ≤ q ∧ q < 0 + 30000) ≤ max 1 (2 * 2 - 2) := by
  intro net c m
  let r : Request := .ofList [("client_address".toList, "192.0.2.1".toList)]
  have hbuild : Check.build (.dnsbl oneList) {} 0 {} = .ok (c, m) := by
    rw [Check.build, make_oneList]
    rfl
  have hfails : net.Fails := ⟨fun _ => ⟨0, rfl⟩, fun _ _ => rfl⟩
  have hvalid : (oneList.backoff.getD {}).flaw? oneList.name = none := rfl
  have hfirst : Visits net c 0 { checks := [c], memories := [m], now := 0 } _ 0 [0] :=
    .probe 0 r (.start 0) (Nat.le_refl 0) (Nat.le_refl 0) (Nat.le_refl 0) rfl
  have hsecond : Visits net c 0 _ _ 10000 [0, 10000] :=
    .probe 1 r hfirst (Nat.zero_le _) (Nat.le_refl _) (Nat.le_refl _) rfl
  have hthird : Visits net c 0 _ _ 20000 [0, 10000] :=
    .answer 2 r hsecond (by decide)
      ((Check.atOnce?_of_isBackground rfl).trans (if_pos (by decide +kernel)))
  exact ⟨_, hbuild, hthird, hthird.countP_asked_le hbuild rfl hvalid hfails rfl rfl (by decide +kernel)
    (by decide) 0⟩

end Bench
end MailPolicy
