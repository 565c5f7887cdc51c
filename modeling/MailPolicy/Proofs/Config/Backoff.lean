/-
The back-off settings of a configuration.

A configuration has settings for all checks, and checks may have settings of their own.  The numbers in
them are read from a document, each within the range of its kind, and tested once they are all read.

* `BackoffSettings.Fits` — numbers within the ranges of their kinds;
* `Config.backoffs` — all back-off settings that a configuration has;
* `Settings.fits_of_backoffOf` — what is read fits;
* `Config.sound_of_read` — **the back-off settings of a configuration that was read fit and have no flaw**.
-/
import Mathlib.Algebra.Group.Nat.Defs
import MailPolicy.Config.Reading

namespace MailPolicy

/-- Whether the numbers of back-off settings are within the ranges of their kinds. -/
structure BackoffSettings.Fits (s : BackoffSettings) : Prop where
  timeFrame_lt : s.timeFrame < 2 ^ 64
  maxErrors_lt : s.maxErrors < 2 ^ 32
  base_lt : s.base < 2 ^ 64
  ceiling_lt : s.ceiling < 2 ^ 64

/-- All back-off settings of a configuration: those for all checks, and those of single checks. -/
def Config.backoffs (c : Config) : List BackoffSettings :=
  c.backoff :: (c.stages.flatMap (·.checks)).filterMap (·.backoff)

namespace Settings

open Toml (Value)

variable {α β : Type} {p : α → Prop} {read : Reader α} {place : Nat} {name : String} {r : Record}
  {v : Value}

/-! ### Parts of records -/

theorem of_partOr (hread : ∀ v x, read v = some x → p x) {d : α} (hdefault : p d) {x : α}
    (h : r.partOr read place name d = some x) : p x := by
  unfold Record.partOr at h
  split at h
  · exact hread _ x h
  · cases h
    exact hdefault

theorem of_optional (hread : ∀ v x, read v = some x → p x) {o : Option α}
    (h : r.optional read place name = some o) : ∀ x, o = some x → p x := by
  rintro x rfl
  unfold Record.optional at h
  split at h
  · obtain ⟨y, hy, hyx⟩ := Option.map_eq_some_iff.mp h
    cases hyx
    exact hread _ _ hy
  · cases h
  · cases h

theorem exists_of_mapM_eq_some {f : β → Option α} {l : List β} {l' : List α} (h : l.mapM f = some l') :
    ∀ y ∈ l', ∃ x ∈ l, f x = some y := by
  induction l generalizing l' with
  | nil =>
    cases h
    exact nofun
  | cons x rest ih =>
    rw [List.mapM_cons] at h
    obtain ⟨z, hz, h⟩ := Option.bind_eq_some_iff.mp h
    obtain ⟨zs, hzs, h⟩ := Option.bind_eq_some_iff.mp h
    cases h
    intro y hy
    rcases List.mem_cons.mp hy with rfl | hy
    · exact ⟨x, List.mem_cons_self, hz⟩
    · obtain ⟨w, hw, hwy⟩ := ih hzs y hy
      exact ⟨w, List.mem_cons_of_mem _ hw, hwy⟩

theorem of_many (hread : ∀ v x, read v = some x → p x) {l : List α} (h : many read v = some l) :
    ∀ x ∈ l, p x := by
  unfold many at h
  split at h
  · intro x hx
    obtain ⟨w, -, hw⟩ := exists_of_mapM_eq_some h x hx
    exact hread w x hw
  · cases h

theorem lt_of_naturalBelow {limit n : Nat} (h : naturalBelow limit v = some n) : n < limit := by
  unfold naturalBelow at h
  split at h
  · split at h
    · cases h
      omega
    · cases h
  · cases h

/-! ### Back-off settings -/

variable {s : BackoffSettings} {c : CheckSettings}

/-- What is read fits. -/
theorem fits_of_backoffOf (h : backoffOf r = some s) : s.Fits := by
  unfold backoffOf at h
  simp only [Option.pure_def, Option.bind_eq_bind, Option.bind_eq_some_iff, Option.some.injEq] at h
  obtain ⟨timeFrame, htime, maxErrors, hmax, base, hbase, ceiling, hceiling, rfl⟩ := h
  refine ⟨?_, ?_, ?_, ?_⟩
  · exact of_partOr (fun _ _ => lt_of_naturalBelow) (by decide) htime
  · exact of_partOr (fun _ _ => lt_of_naturalBelow) (by decide) hmax
  · exact of_partOr (fun _ _ => lt_of_naturalBelow) (by decide) hbase
  · exact of_partOr (fun _ _ => lt_of_naturalBelow) (by decide) hceiling

theorem fits_of_backoff (h : backoff v = some s) : s.Fits := by
  obtain ⟨r, -, hr⟩ := Option.bind_eq_some_iff.mp h
  exact fits_of_backoffOf hr

theorem fits_of_ownBackoff (h : ownBackoff v = some s) : s.Fits := by
  obtain ⟨r, -, hr⟩ := Option.bind_eq_some_iff.mp h
  exact fits_of_backoffOf hr

theorem fits_of_blockList {l : BlockListSettings} (h : blockList r = some l) :
    ∀ s, l.backoff = some s → s.Fits := by
  unfold blockList at h
  simp only [Option.pure_def, Option.bind_eq_bind, Option.bind_eq_some_iff, Option.some.injEq] at h
  obtain ⟨r', -, name, -, zone, -, field, -, weight, -, weights, -, own, hown, rfl⟩ := h
  exact of_optional (fun _ _ => fits_of_ownBackoff) hown

theorem fits_of_spf {l : SpfSettings} (h : spf r = some l) : ∀ s, l.backoff = some s → s.Fits := by
  unfold spf at h
  simp only [Option.pure_def, Option.bind_eq_bind, Option.bind_eq_some_iff, Option.some.injEq] at h
  obtain ⟨r', -, name, -, pass, -, fail, -, softfail, -, neutral, -, nothing, -, permerror, -, own, hown,
    rfl⟩ := h
  exact of_optional (fun _ _ => fits_of_ownBackoff) hown

theorem fits_of_keyFile {l : KeyFileSettings} (h : keyFile r = some l) :
    ∀ s, l.backoff = some s → s.Fits := by
  unfold keyFile at h
  simp only [Option.pure_def, Option.bind_eq_bind, Option.bind_eq_some_iff, Option.some.injEq] at h
  obtain ⟨r', -, name, -, field, -, path, -, weights, -, own, hown, rfl⟩ := h
  exact of_optional (fun _ _ => fits_of_ownBackoff) hown

theorem fits_of_checkOf {kind : CheckKind} (h : checkOf kind r = some c) :
    ∀ s, c.backoff = some s → s.Fits := by
  cases kind with
  | dnsbl | rhsbl =>
    obtain ⟨l, hl, rfl⟩ := Option.map_eq_some_iff.mp h
    exact fits_of_blockList hl
  | spf =>
    obtain ⟨l, hl, rfl⟩ := Option.map_eq_some_iff.mp h
    exact fits_of_spf hl
  | hash =>
    obtain ⟨l, hl, rfl⟩ := Option.map_eq_some_iff.mp h
    exact fits_of_keyFile hl
  | str | pcre =>
    obtain ⟨l, -, rfl⟩ := Option.map_eq_some_iff.mp h
    exact nofun

theorem fits_of_check (h : check v = some c) : ∀ s, c.backoff = some s → s.Fits := by
  unfold check at h
  obtain ⟨r, -, h⟩ := Option.bind_eq_some_iff.mp h
  split at h
  · obtain ⟨kind, -, h⟩ := Option.bind_eq_some_iff.mp h
    exact fits_of_checkOf h
  · obtain ⟨kind, -, h⟩ := Option.bind_eq_some_iff.mp h
    exact fits_of_checkOf h
  · cases h

theorem fits_of_stage {stage : StageSettings} (h : Settings.stage v = some stage) :
    ∀ c ∈ stage.checks, ∀ s, c.backoff = some s → s.Fits := by
  unfold Settings.stage at h
  simp only [Option.pure_def, Option.bind_eq_bind, Option.bind_eq_some_iff, Option.some.injEq] at h
  obtain ⟨r, -, name, -, checks, hchecks, rfl⟩ := h
  exact of_partOr (p := fun l => ∀ c ∈ l, ∀ s, CheckSettings.backoff c = some s → s.Fits)
    (fun _ _ => of_many fun _ _ => fits_of_check) (fun c hc => absurd hc List.not_mem_nil) hchecks

theorem fits_of_config {entries : Toml.Entries} {c : Config} (h : config entries = some c) :
    ∀ s ∈ c.backoffs, s.Fits := by
  unfold config at h
  simp only [Option.pure_def, Option.bind_eq_bind, Option.bind_eq_some_iff, Option.some.injEq] at h
  obtain ⟨server, -, logging, -, policy, -, responses, -, common, hcommon, pools, -, stages, hstages,
    rfl⟩ := h
  have hdefault : BackoffSettings.Fits {} := ⟨by decide, by decide, by decide, by decide⟩
  have hall : ∀ stage ∈ stages, ∀ c ∈ stage.checks, ∀ s, c.backoff = some s → s.Fits :=
    of_partOr (p := fun l => ∀ stage ∈ l, ∀ c ∈ StageSettings.checks stage, ∀ s,
      CheckSettings.backoff c = some s → s.Fits) (fun _ _ => of_many fun _ _ => fits_of_stage)
      (fun stage hstage => absurd hstage List.not_mem_nil) hstages
  intro s hs
  rcases List.mem_cons.mp hs with rfl | hs
  · exact of_partOr (fun _ _ => fits_of_backoff) hdefault hcommon
  · obtain ⟨c, hc, hown⟩ := List.mem_filterMap.mp hs
    obtain ⟨stage, hstage, hmem⟩ := List.mem_flatMap.mp hc
    exact hall stage hstage c hmem s hown

end Settings

/-! ### Configurations -/

theorem StageSettings.flaw?_of_mem {stages : List StageSettings} {number : Nat}
    (h : StageSettings.flaw? number stages = none) :
    ∀ stage ∈ stages, ∀ c ∈ stage.checks, ∃ n, c.flaw? n = none := by
  induction stages generalizing number with
  | nil => exact nofun
  | cons stage rest ih =>
    rw [StageSettings.flaw?, Option.or_eq_none_iff, List.findSome?_eq_none_iff] at h
    intro stage' hmem c hc
    rcases List.mem_cons.mp hmem with rfl | hmem
    · exact ⟨number, h.1 c hc⟩
    · exact ih h.2 stage' hmem c hc

theorem CheckSettings.backoff_of_flaw? {c : CheckSettings} {number : Nat} (h : c.flaw? number = none) :
    ∀ s, c.backoff = some s → s.flaw? c.name = none := by
  intro s hs
  unfold CheckSettings.flaw? at h
  split at h
  · cases h
  · rw [hs] at h
    exact h

theorem Config.flaw?_of_mem_backoffs {c : Config} (h : c.flaw? = none) :
    ∀ s ∈ c.backoffs, ∃ owner, s.flaw? owner = none := by
  simp only [Config.flaw?, Option.or_eq_none_iff] at h
  obtain ⟨⟨⟨⟨-, hcommon⟩, -⟩, -⟩, hstages⟩ := h
  intro s hs
  rcases List.mem_cons.mp hs with rfl | hs
  · exact ⟨_, hcommon⟩
  · obtain ⟨check, hcheck, hown⟩ := List.mem_filterMap.mp hs
    obtain ⟨stage, hstage, hmem⟩ := List.mem_flatMap.mp hcheck
    obtain ⟨number, hnone⟩ := StageSettings.flaw?_of_mem hstages stage hstage check hmem
    exact ⟨_, CheckSettings.backoff_of_flaw? hnone s hown⟩

theorem Config.exists_of_read {text : Text} {s : BackoffSettings}
    (h : (Config.read text).toOption.map (·.backoff) = some s) :
    ∃ c, Config.read text = .ok c ∧ s ∈ c.backoffs := by
  cases hread : Config.read text with
  | error e =>
    rw [hread] at h
    cases h
  | ok c =>
    rw [hread] at h
    cases h
    exact ⟨c, rfl, List.mem_cons_self⟩

/-- **The back-off settings of a configuration that was read fit and have no flaw.** -/
theorem Config.sound_of_read {text : Text} {c : Config} (h : Config.read text = .ok c) :
    ∀ s ∈ c.backoffs, s.Fits ∧ ∃ owner, s.flaw? owner = none := by
  unfold Config.read at h
  split at h
  · next d hd =>
    obtain ⟨entries, -, hentries⟩ := Option.bind_eq_some_iff.mp hd
    obtain ⟨rfl, hflaw⟩ := Config.flaw?_of_validate h
    exact fun s hs => ⟨Settings.fits_of_config hentries s hs, Config.flaw?_of_mem_backoffs hflaw s hs⟩
  · cases h

end MailPolicy
