/-
How often a file of keys is asked for its stamp by many look-ups beside each other.

A look-up decides twice whether the last comparison is long enough ago, and only the second decision
counts: it is made in the section that takes the comparison.  So whatever the instants are with which
the look-ups come, and whoever comes in between, each comparison is taken later than the one before,
by the interval at least, and the time of the last one never goes back.

* `KeyVisitor.through_arriving`, `KeyVisitor.through_loading` — a look-up or a load that is alone does
  what `KeyFile.claim?` and `KeyLoader.advance` say;
* `KeyVisitor.claim?_cases` — what a section does to the time of the last comparison;
* `KeyRace.Spaced` — claims that lie apart, the last of them recorded;
* `KeyRace.Paid` — every comparison, made or to come, has a claim of its own;
* `KeyRace.run_spaced` — **in no second is the file compared twice, however look-ups, loads and
  reloads go on beside each other**.
-/
import Mathlib.Data.List.Perm.Basic
import Mathlib.Data.List.Perm.Subperm
import MailPolicy.Check.KeyRace
import MailPolicy.Proofs.Check.KeySession

namespace MailPolicy

/-! ### Sections -/

namespace KeyLoader

variable {l : KeyLoader} {e : Entry} {f : KeyFile} {now : Nat}

/-- An access that goes wrong counts the failure and ends the load. -/
theorem advance_of_failure? (h : l.failure? e = some now) (f : KeyFile) :
    l.advance (some f) e = (some (f.fail now), done) := by
  cases l with
  | comparing claimed known =>
    unfold failure? at h
    unfold advance
    cases hstamp : e.stamp with
    | ok stamp => simp only [hstamp] at h; cases h
    | error reason =>
      simp only [hstamp] at h
      cases h
      rfl
  | reading cause =>
    cases cause with
    | moved claimed =>
      unfold failure? at h
      unfold advance
      cases hread : e.read with
      | ok text => simp only [hread] at h; cases h
      | error reason =>
        simp only [hread] at h
        cases h
        rfl
    | first _ _ | asked => cases h
  | called _ | stamping _ _ | recording _ _ | done => cases h

/-- Whether a load does not make the check, which is there already. -/
def isLater : KeyLoader → Bool
  | reading cause | stamping cause _ | recording cause _ => !cause.isFirst
  | _ => true

theorem isLater_advance (h : l.isLater = true) (file : Option KeyFile) (e : Entry) :
    (l.advance file e).2.isLater = true := by
  cases l with
  | comparing claimed known =>
    unfold advance
    cases e.stamp with
    | error reason => rfl
    | ok stamp =>
      dsimp only
      split <;> rfl
  | reading cause =>
    unfold advance
    cases e.read with
    | error reason => rfl
    | ok text => exact h
  | stamping cause keys => exact h
  | called _ | recording _ _ | done => rfl

/-- A later load records keys and failures, but no comparison. -/
theorem checkedAt_advance (h : l.isLater = true) (f : KeyFile) (e : Entry) :
    ((l.advance (some f) e).1.getD f).checkedAt = f.checkedAt := by
  cases l with
  | comparing claimed known =>
    unfold advance
    cases e.stamp with
    | error reason | ok stamp => rfl
  | reading cause =>
    unfold advance
    cases e.read with
    | error reason => cases cause <;> rfl
    | ok text => rfl
  | recording cause set =>
    cases cause with
    | first made tracker => cases h
    | moved _ | asked => rfl
  | called _ | stamping _ _ | done => rfl

end KeyLoader

namespace KeyVisitor

variable {f : KeyFile} {e : Entry} {v : KeyVisitor} {now : Nat}

theorem advance_taking (f : KeyFile) (e : Entry) (now : Nat) :
    (taking now).advance f e = if f.isStale now then
      ({ f with checkedAt := now }, loading (.called now)) else (f, refused) := by
  simp only [advance, KeyFile.take?]
  cases f.isStale now <;> rfl

theorem advance_loading_of_failure? {l : KeyLoader} (h : l.failure? e = some now) (f : KeyFile) :
    (loading l).advance f e = (f, failing now) := by
  simp only [advance, h]

theorem advance_loading {l : KeyLoader} (h : l.failure? e = none) (f : KeyFile) :
    (loading l).advance f e =
      ((l.advance (some f) e).1.getD f, loading (l.advance (some f) e).2) := by
  simp only [advance, h]

/-- A look-up that nobody comes in between gets the comparison if it can be claimed. -/
theorem through_arriving (f : KeyFile) (e : Entry) (now : Nat) :
    (arriving now).through f e 3 =
      match f.claim? now with
      | some g => (g, loading (.called now))
      | none => (f, refused) := by
  rw [KeyFile.claim?_eq]
  cases hstale : f.isStale now with
  | false => simp [through, advance, hstale]
  | true =>
    cases homits : f.tracker.omits now with
    | true => simp [through, advance, hstale, homits]
    | false => simp [through, advance, hstale, homits, KeyFile.take?]

/-- A load that nobody comes in between counts its failure as part of the access that goes wrong. -/
theorem through_loading {l : KeyLoader} (h : l.failure? e = some now) (f : KeyFile) :
    (loading l).through f e 2 =
      (((l.advance (some f) e).1).getD f, loading (l.advance (some f) e).2) := by
  rw [KeyLoader.advance_of_failure? h]
  simp only [through, advance, h, Option.getD_some]

/-- Whether nobody makes the check, which is there already. -/
def isLater : KeyVisitor → Bool
  | loading l => l.isLater
  | _ => true

theorem isLater_advance (h : v.isLater = true) (f : KeyFile) (e : Entry) :
    (v.advance f e).2.isLater = true := by
  cases v with
  | arriving now | asking now =>
    dsimp only [advance]
    split <;> rfl
  | taking now =>
    rw [advance_taking]
    split <;> rfl
  | loading l =>
    cases hfailure : l.failure? e with
    | some now =>
      rw [advance_loading_of_failure? hfailure]
      rfl
    | none =>
      rw [advance_loading hfailure]
      exact KeyLoader.isLater_advance h (some f) e
  | refused | failing _ => rfl

/-- A section takes a comparison that is due, or leaves the time of the last one alone. -/
theorem claim?_cases (h : v.isLater = true) (f : KeyFile) (e : Entry) :
    (∃ now, v.claim? f = some now ∧ f.checkedAt + KeyFile.interval ≤ now ∧
      (v.advance f e).1.checkedAt = now) ∨
    v.claim? f = none ∧ (v.advance f e).1.checkedAt = f.checkedAt := by
  cases v with
  | taking now =>
    rw [advance_taking]
    by_cases hstale : f.isStale now = true
    · have hpast : KeyFile.interval ≤ now - f.checkedAt := of_decide_eq_true hstale
      have hpos : 0 < KeyFile.interval := by decide
      exact .inl ⟨now, if_pos hstale, by omega, by rw [if_pos hstale]⟩
    · exact .inr ⟨if_neg hstale, by rw [if_neg hstale]⟩
  | loading l =>
    refine .inr ⟨rfl, ?_⟩
    cases hfailure : l.failure? e with
    | some now => rw [advance_loading_of_failure? hfailure]
    | none =>
      rw [advance_loading hfailure]
      exact KeyLoader.checkedAt_advance h f e
  | arriving _ | asking _ | refused | failing _ => exact .inr ⟨rfl, rfl⟩

/-- A comparison that is claimed and not made yet, by the instant of its claim. -/
def due? : KeyVisitor → Option Nat
  | loading (.called now) | loading (.comparing now _) => some now
  | _ => none

/-- Only a load that has not compared yet has a comparison due. -/
theorem due?_loading_advance (l : KeyLoader) (f : KeyFile) (e : Entry) :
    (loading l).comparison?.toList ++ (loading (l.advance (some f) e).2).due?.toList =
      (loading l).due?.toList := by
  cases l with
  | comparing now known =>
    unfold KeyLoader.advance
    cases e.stamp with
    | error reason => rfl
    | ok stamp =>
      dsimp only
      split <;> rfl
  | reading cause =>
    unfold KeyLoader.advance
    cases e.read with
    | error reason | ok text => rfl
  | called _ | stamping _ _ | recording _ _ | done => rfl

/-- A section makes a comparison that was due, or a claim that makes one due. -/
theorem due?_advance (v : KeyVisitor) (f : KeyFile) (e : Entry) :
    v.comparison?.toList ++ (v.advance f e).2.due?.toList = v.due?.toList ++ (v.claim? f).toList := by
  cases v with
  | arriving now | asking now =>
    dsimp only [advance]
    split <;> rfl
  | taking now =>
    rw [advance_taking, claim?]
    split <;> rfl
  | refused | failing now => rfl
  | loading l =>
    have hnone : (loading l).claim? f = none := rfl
    rw [hnone, Option.toList_none, List.append_nil]
    have hdue := due?_loading_advance l f e
    cases hfailure : l.failure? e with
    | some now =>
      rw [KeyLoader.advance_of_failure? hfailure] at hdue
      rw [advance_loading_of_failure? hfailure]
      exact hdue
    | none =>
      rw [advance_loading hfailure]
      exact hdue

end KeyVisitor

namespace KeyRace

open scoped List

variable {r r' : KeyRace} {a : RaceAction} {as : List RaceAction} {first : Nat}

/-! ### Steps -/

/-- What can happen in a state `r`, and what it leads to. -/
inductive Happens (r : KeyRace) : RaceAction → KeyRace → Prop
  | replace (e : Entry) : Happens r (.replace e) { r with entry := e }
  | call (now : Nat) :
      Happens r (.call now) { r with visitors := r.visitors ++ [.arriving now] }
  | ask : Happens r .ask { r with visitors := r.visitors ++ [.loading (.reading .asked)] }
  | advance (visitor : Nat) (v : KeyVisitor) : r.visitors[visitor]? = some v →
      Happens r (.advance visitor) (r.advance visitor v)

theorem happens_of_step (h : r.step a = some r') : Happens r a r' := by
  cases a with
  | replace e =>
    cases h
    exact .replace e
  | call now =>
    cases h
    exact .call now
  | ask =>
    cases h
    exact .ask
  | advance visitor =>
    cases hv : r.visitors[visitor]? with
    | none => simp [step, hv] at h
    | some v =>
      simp only [step, hv] at h
      obtain ⟨-, heq⟩ := Option.ite_none_left_eq_some.mp h
      cases heq
      exact .advance visitor v hv

/-- Whether the claims lie apart, and the time of the last comparison is that of the last claim, or
`first` if there was none. -/
structure Spaced (first : Nat) (r : KeyRace) : Prop where
  isLater : ∀ v ∈ r.visitors, v.isLater = true
  pairwise : r.claims.Pairwise fun earlier later => earlier + KeyFile.interval ≤ later
  first_le : ∀ now ∈ r.claims, first + KeyFile.interval ≤ now
  le_checkedAt : ∀ now ∈ first :: r.claims, now ≤ r.file.checkedAt
  checkedAt_eq : r.file.checkedAt = r.claims.getLast?.getD first

/-- Whether each comparison, made or due, has a claim of its own. -/
def Paid (r : KeyRace) : Prop :=
  (r.comparisons ++ r.visitors.filterMap KeyVisitor.due?).Perm r.claims

theorem spaced_start (e : Entry) (f : KeyFile) : (start e f).Spaced f.checkedAt where
  isLater := nofun
  pairwise := .nil
  first_le := nofun
  le_checkedAt := by
    intro now hnow
    exact Nat.le_of_eq (List.mem_singleton.mp hnow)
  checkedAt_eq := rfl

theorem paid_start (e : Entry) (f : KeyFile) : (start e f).Paid := .nil

/-- Claims lie apart as long as there are no others. -/
theorem Spaced.keep (hr : r.Spaced first) (hvisitors : ∀ v ∈ r'.visitors, v.isLater = true)
    (hclaims : r'.claims = r.claims) (hchecked : r'.file.checkedAt = r.file.checkedAt) :
    r'.Spaced first where
  isLater := hvisitors
  pairwise := hclaims ▸ hr.pairwise
  first_le := hclaims ▸ hr.first_le
  le_checkedAt := by
    rw [hclaims, hchecked]
    exact hr.le_checkedAt
  checkedAt_eq := by
    rw [hclaims, hchecked]
    exact hr.checkedAt_eq

/-- A claim that is due lies apart from all before, since none of them was later than the last. -/
theorem Spaced.claim {now : Nat} (hr : r.Spaced first)
    (hvisitors : ∀ v ∈ r'.visitors, v.isLater = true) (hclaims : r'.claims = r.claims ++ [now])
    (hchecked : r'.file.checkedAt = now) (hdue : r.file.checkedAt + KeyFile.interval ≤ now) :
    r'.Spaced first := by
  refine ⟨hvisitors, ?_, ?_, ?_, ?_⟩
  · rw [hclaims, List.pairwise_append]
    refine ⟨hr.pairwise, List.pairwise_singleton _ _, fun earlier hearlier later hlater => ?_⟩
    have hle := hr.le_checkedAt earlier (List.mem_cons_of_mem _ hearlier)
    rw [List.mem_singleton.mp hlater]
    omega
  · rw [hclaims]
    intro t ht
    rcases List.mem_append.mp ht with ht | ht
    · exact hr.first_le t ht
    · have hle := hr.le_checkedAt first List.mem_cons_self
      rw [List.mem_singleton.mp ht]
      omega
  · rw [hclaims, hchecked]
    intro t ht
    rw [← List.cons_append, List.mem_append] at ht
    rcases ht with ht | ht
    · have hle := hr.le_checkedAt t ht
      omega
    · exact Nat.le_of_eq (List.mem_singleton.mp ht)
  · rw [hclaims, hchecked, List.getLast?_concat, Option.getD_some]

/-- One step keeps the claims apart, and the time of the last comparison does not go back. -/
theorem Happens.spaced (h : Happens r a r') (hr : r.Spaced first) :
    r'.Spaced first ∧ r.file.checkedAt ≤ r'.file.checkedAt := by
  have hnew {v : KeyVisitor} (hv : v.isLater = true) : ∀ w ∈ r.visitors ++ [v], w.isLater = true := by
    intro w hw
    rcases List.mem_append.mp hw with hw | hw
    · exact hr.isLater w hw
    · exact List.mem_singleton.mp hw ▸ hv
  cases h with
  | replace e => exact ⟨hr.keep hr.isLater rfl rfl, Nat.le_refl _⟩
  | call now => exact ⟨hr.keep (hnew rfl) rfl rfl, Nat.le_refl _⟩
  | ask => exact ⟨hr.keep (hnew rfl) rfl rfl, Nat.le_refl _⟩
  | advance visitor v hv =>
    have hlater := hr.isLater v (List.mem_of_getElem? hv)
    have hvisitors : ∀ w ∈ (r.advance visitor v).visitors, w.isLater = true := by
      intro w hw
      rcases List.mem_or_eq_of_mem_set hw with hw | rfl
      · exact hr.isLater w hw
      · exact KeyVisitor.isLater_advance hlater r.file r.entry
    rcases KeyVisitor.claim?_cases hlater r.file r.entry with ⟨now, hclaim, hdue, hnow⟩ | ⟨hclaim, hsame⟩
    · have hclaims : (r.advance visitor v).claims = r.claims ++ [now] := by
        rw [KeyRace.advance, hclaim]
        rfl
      have hchecked : (r.advance visitor v).file.checkedAt = now := hnow
      refine ⟨hr.claim hvisitors hclaims hchecked hdue, ?_⟩
      omega
    · have hclaims : (r.advance visitor v).claims = r.claims := by
        rw [KeyRace.advance, hclaim]
        exact List.append_nil _
      have hchecked : (r.advance visitor v).file.checkedAt = r.file.checkedAt := hsame
      exact ⟨hr.keep hvisitors hclaims hchecked, Nat.le_of_eq hchecked.symm⟩

/-- One step makes no comparison that has no claim of its own. -/
theorem Happens.paid (h : Happens r a r') (hr : r.Paid) : r'.Paid := by
  have hnew {v : KeyVisitor} (hv : v.due? = none) :
      (r.comparisons ++ (r.visitors ++ [v]).filterMap KeyVisitor.due?).Perm r.claims := by
    rw [List.filterMap_append, List.filterMap_cons_none hv, List.filterMap_nil, List.append_nil]
    exact hr
  cases h with
  | replace e => exact hr
  | call now => exact hnew (v := .arriving now) rfl
  | ask => exact hnew (v := .loading (.reading .asked)) rfl
  | advance visitor v hv =>
    obtain ⟨hin, hget⟩ := List.getElem?_eq_some_iff.mp hv
    -- Only the visitor who goes on may have something else due afterwards.
    let others := (r.visitors.eraseIdx visitor).filterMap KeyVisitor.due?
    have hsplit (w : KeyVisitor) :
        (w :: r.visitors.eraseIdx visitor).filterMap KeyVisitor.due? = w.due?.toList ++ others := by
      cases hw : w.due? <;> simp [hw, others]
    have hbefore : (r.visitors.filterMap KeyVisitor.due?).Perm (v.due?.toList ++ others) := by
      rw [← hsplit, ← hget]
      exact (List.getElem_cons_eraseIdx_perm hin).symm.filterMap _
    have hafter : ((r.advance visitor v).visitors.filterMap KeyVisitor.due?).Perm
        ((v.advance r.file r.entry).2.due?.toList ++ others) := by
      rw [← hsplit]
      exact (List.set_perm_cons_eraseIdx hin _).filterMap _
    show r.comparisons ++ v.comparison?.toList ++ _ ~ r.claims ++ (v.claim? r.file).toList
    calc r.comparisons ++ v.comparison?.toList ++
          (r.advance visitor v).visitors.filterMap KeyVisitor.due?
      _ ~ r.comparisons ++ v.comparison?.toList ++
          ((v.advance r.file r.entry).2.due?.toList ++ others) := hafter.append_left _
      _ = r.comparisons ++ (v.due?.toList ++ (v.claim? r.file).toList ++ others) := by
        rw [← v.due?_advance r.file r.entry]
        simp only [List.append_assoc]
      _ ~ r.comparisons ++ (v.due?.toList ++ others ++ (v.claim? r.file).toList) := by
        simp only [List.append_assoc]
        exact (List.perm_append_comm.append_left _).append_left _
      _ = r.comparisons ++ (v.due?.toList ++ others) ++ (v.claim? r.file).toList :=
        (List.append_assoc ..).symm
      _ ~ r.claims ++ (v.claim? r.file).toList :=
        ((hbefore.symm.append_left _).trans hr).append_right _

/-! ### Runs -/

theorem run_append_iff {bs : List RaceAction} :
    r.run (as ++ bs) = some r' ↔ ∃ u, r.run as = some u ∧ u.run bs = some r' := by
  rw [run, List.foldlM_append]
  exact Option.bind_eq_some_iff

theorem run_cons_iff :
    r.run (a :: as) = some r' ↔ ∃ u, r.step a = some u ∧ u.run as = some r' := by
  rw [run, List.foldlM_cons]
  exact Option.bind_eq_some_iff

/-- Several steps keep the claims apart, and the time of the last comparison does not go back. -/
theorem spaced_of_run (h : r.run as = some r') (hr : r.Spaced first) :
    r'.Spaced first ∧ r.file.checkedAt ≤ r'.file.checkedAt := by
  induction as generalizing r with
  | nil => exact Option.some.inj h ▸ ⟨hr, Nat.le_refl _⟩
  | cons a rest ih =>
    obtain ⟨u, hstep, hrest⟩ := run_cons_iff.mp h
    obtain ⟨hu, hle⟩ := (happens_of_step hstep).spaced hr
    obtain ⟨hr', hle'⟩ := ih hrest hu
    exact ⟨hr', Nat.le_trans hle hle'⟩

theorem paid_of_run (h : r.run as = some r') (hr : r.Paid) : r'.Paid := by
  induction as generalizing r with
  | nil => exact Option.some.inj h ▸ hr
  | cons a rest ih =>
    obtain ⟨u, hstep, hrest⟩ := run_cons_iff.mp h
    exact ih hrest ((happens_of_step hstep).paid hr)

/-- Of instants that lie apart, no window holds two. -/
theorem countP_window_le_one {times : List Nat}
    (h : times.Pairwise fun earlier later => earlier + KeyFile.interval ≤ later) (since : Nat) :
    times.countP (fun now => since ≤ now ∧ now < since + KeyFile.interval) ≤ 1 := by
  rw [List.countP_eq_length_filter]
  generalize hwindow : times.filter _ = window
  have hwithin : ∀ now ∈ window, since ≤ now ∧ now < since + KeyFile.interval := by
    intro now hnow
    rw [← hwindow] at hnow
    exact of_decide_eq_true (List.mem_filter.mp hnow).2
  have happart : window.Pairwise fun earlier later => earlier + KeyFile.interval ≤ later :=
    hwindow ▸ h.filter _
  match window with
  | [] => exact Nat.zero_le 1
  | [_] => exact Nat.le_refl 1
  | earlier :: later :: _ =>
    have hle := List.rel_of_pairwise_cons happart List.mem_cons_self
    have hfrom := (hwithin earlier List.mem_cons_self).1
    have hto := (hwithin later (List.mem_cons_of_mem _ List.mem_cons_self)).2
    omega

/-- However look-ups, loads and reloads go on beside each other, and whatever the instants of the
look-ups: each claim that succeeds lies later than the one before and than the first comparison, by
the interval at least; every comparison, made or due, has a claim of its own, and no interval holds
two; and the time of the last comparison, which is that of the last claim, never goes back. -/
theorem run_spaced (e : Entry) (f : KeyFile) (as : List RaceAction)
    (h : (start e f).run as = some r) :
    r.claims.Pairwise (fun earlier later => earlier + KeyFile.interval ≤ later) ∧
      (∀ now ∈ r.claims, f.checkedAt + KeyFile.interval ≤ now) ∧
      r.file.checkedAt = r.claims.getLast?.getD f.checkedAt ∧
      (r.comparisons ++ r.visitors.filterMap KeyVisitor.due?).Perm r.claims ∧
      (∀ since, r.comparisons.countP (fun now => since ≤ now ∧ now < since + KeyFile.interval) ≤ 1) ∧
      ∀ before after u, as = before ++ after → (start e f).run before = some u →
        u.file.checkedAt ≤ r.file.checkedAt := by
  have hspaced := (spaced_of_run h (spaced_start e f)).1
  have hpaid := paid_of_run h (paid_start e f)
  refine ⟨hspaced.pairwise, hspaced.first_le, hspaced.checkedAt_eq, hpaid, fun since => ?_, ?_⟩
  · have hsub : r.comparisons.Subperm r.claims :=
      (List.sublist_append_left _ _).subperm.trans hpaid.subperm
    exact Nat.le_trans (hsub.countP_le _) (countP_window_le_one hspaced.pairwise since)
  · rintro before after u rfl hbefore
    obtain ⟨u', hbefore', hafter⟩ := run_append_iff.mp h
    cases hbefore.symm.trans hbefore'
    exact (spaced_of_run hafter (spaced_of_run hbefore (spaced_start e f)).1).2

/-- Two look-ups of one instant, an older one and a later one have all seen that the stamps may be
compared before any of them takes the comparison: the first and the last get one. -/
theorem run_spaced_four :
    let f : KeyFile := { set := ⟨[['a']], some (.file 1)⟩, checkedAt := 5000, tracker := .ofSettings {} }
    let e : Entry := .file [97, 10] 1
    let as : List RaceAction := [.call 7000, .call 7000, .call 6500, .call 8000, .advance 0, .advance 1,
      .advance 2, .advance 3, .advance 0, .advance 1, .advance 2, .advance 3, .advance 0, .advance 1,
      .advance 2, .advance 3, .advance 3, .advance 3]
    ∃ r, (start e f).run as = some r ∧ r.claims = [7000, 8000] ∧ r.comparisons = [8000] ∧
      r.visitors.map KeyVisitor.due? = [some 7000, none, none, none] ∧ r.file.checkedAt = 8000 ∧
      r.claims.Pairwise fun earlier later => earlier + KeyFile.interval ≤ later := by
  intro f e as
  have hend : ((start e f).run as).map (fun r =>
      (r.claims, r.comparisons, r.visitors.map KeyVisitor.due?, r.file.checkedAt)) =
      some ([7000, 8000], [8000], [some 7000, none, none, none], 8000) := by decide +kernel
  obtain ⟨r, hrun, hparts⟩ := Option.map_eq_some_iff.mp hend
  obtain ⟨hclaims, hparts⟩ := Prod.mk.inj hparts
  obtain ⟨hcomparisons, hparts⟩ := Prod.mk.inj hparts
  obtain ⟨hdue, hchecked⟩ := Prod.mk.inj hparts
  exact ⟨r, hrun, hclaims, hcomparisons, hdue, hchecked, (run_spaced e f as hrun).1⟩

end KeyRace
end MailPolicy
