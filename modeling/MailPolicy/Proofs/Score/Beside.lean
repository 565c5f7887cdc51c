/-
A check among others at a shared score.

What a check does at a score is little.  One that answers at once writes its slot or does nothing;
one that takes a guard for a probe gives it back in the end, with the signal that may be due, and
writes its slot at most once before that.  Whoever else is at the score acts in between as it likes,
with other guards.

The score of such a run is compared with that of another, in which the check takes no guard and only
writes; the two differ in the guard while it is out, and in nothing after it is back.  And a run with
a write differs from the one without in that slot only.

* `Interleaves` — the actions of two parties come in some order;
* `Conduct` — what a check can do at a score;
* `Board.Beside` — a score beside one without the guard;
* `Board.Remains.beside` — **a check with a guard does what one without does**;
* `Board.AlikeBut.of_interleaves` — **a write touches its slot and nothing else**;
* `Board.footprint_of_conduct` — **a check leaves a write behind and nothing else**.
-/
import Mathlib.Data.List.Perm.Basic
import MailPolicy.Proofs.Score.Board

namespace MailPolicy

variable {α : Type}

/-- Whether a list consists of two others, each in its order. -/
inductive Interleaves {β : Type} : List β → List β → List β → Prop where
  | nil : Interleaves [] [] []
  | left (x : β) {xs ys zs : List β} : Interleaves xs ys zs → Interleaves (x :: xs) ys (x :: zs)
  | right (y : β) {xs ys zs : List β} : Interleaves xs ys zs → Interleaves xs (y :: ys) (y :: zs)

theorem Interleaves.append_left {β : Type} {xs ys zs : List β} (front : List β)
    (h : Interleaves xs ys zs) : Interleaves (front ++ xs) ys (front ++ zs) := by
  induction front with
  | nil => exact h
  | cons x _ ih => exact .left x ih

namespace BoardAction

/-- The guard that an action is about. -/
def guard? : BoardAction α → Option Nat
  | lock guard | write guard _ _ | release guard => some guard
  | _ => none

/-- What a check does that takes no probe. -/
def answering (slot : Nat) (points : Option α) : List (BoardAction α) :=
  points.toList.map (update slot)

/-- What is done with a guard at last: something may be written under it, and it is given back with
the signal that may be due. -/
def concluding (guard slot : Nat) (points : Option α) : List (BoardAction α) :=
  points.toList.map (write guard slot) ++ [release guard, signal]

/-- What a check does that takes a guard for a probe. -/
def probing (guard slot : Nat) (points : Option α) : List (BoardAction α) :=
  lock guard :: concluding guard slot points

/-- An action about another guard finds it out or not, as it would without the guard. -/
theorem fits_append {a : BoardAction α} {held guards : List Nat}
    (ha : ∀ guard ∈ held, a.guard? ≠ some guard) : a.Fits (held ++ guards) ↔ a.Fits guards := by
  have hnew (guard : Nat) (hguard : a.guard? = some guard) : guard ∉ held :=
    fun hmem => ha guard hmem hguard
  cases a with
  | lock guard => simp [Fits, hnew guard rfl]
  | write guard index points => simp [Fits, hnew guard rfl]
  | release guard => simp [Fits, hnew guard rfl]
  | _ => rfl

theorem fits_perm (a : BoardAction α) {guards guards' : List Nat} (h : guards.Perm guards') :
    a.Fits guards ↔ a.Fits guards' := by
  cases a with
  | lock guard => exact not_congr h.mem_iff
  | write guard index points => exact h.mem_iff
  | release guard => exact h.mem_iff
  | _ => rfl

end BoardAction

/-- What a check can do at a score with one guard and one slot, and what it writes. -/
inductive Conduct (guard slot : Nat) : List (BoardAction α) → Option α → Prop where
  | answers (points : Option α) :
      Conduct guard slot (BoardAction.answering slot points) points
  | probes (points : Option α) :
      Conduct guard slot (BoardAction.probing guard slot points) points

namespace Board

variable {b b' b₀ : Board α} {a : BoardAction α} {guard slot : Nat} {held : List Nat}

/-! ### Attempts -/

theorem attempt_of_not_fits (h : ¬a.Fits b.guards) : b.attempt a = b := by
  rcases attempt_eq_or b a with heq | hstep
  · exact heq
  · exact absurd (of_step hstep).1 h

/-- The score, the guards and the counter after an action that the guards allow. -/
theorem attempt_of_fits (h : a.Fits b.guards) : (b.attempt a).score = a.onScore b.score ∧
    (b.attempt a).guards = a.onGuards b.guards ∧
    (b.attempt a).writers = a.onWriters b.writers := by
  cases hstep : b.step a with
  | some b' =>
    rw [attempt, hstep]
    exact (of_step hstep).2
  | none =>
    -- What is impossible though the guards allow it concerns those who wait.
    rw [attempt, hstep, Option.getD_none]
    cases a with
    | lock guard => exact absurd ((if_neg h).symm.trans hstep) (Option.some_ne_none _)
    | write guard index points => exact absurd ((if_pos h).symm.trans hstep) (Option.some_ne_none _)
    | release guard => exact absurd ((if_pos h).symm.trans hstep) (Option.some_ne_none _)
    | update index points | reset => cases hstep
    | _ => exact ⟨rfl, rfl, rfl⟩

theorem score_attempt_of_onScore (b : Board α) (ha : a.onScore b.score = b.score) :
    (b.attempt a).score = b.score := by
  by_cases hfit : a.Fits b.guards
  · rw [(attempt_of_fits hfit).1, ha]
  · rw [attempt_of_not_fits hfit]

/-- A guard that comes and goes leaves the score alone. -/
theorem score_probing_none (b : Board α) (guard slot : Nat) :
    (b.attemptAll (BoardAction.probing guard slot none)).score = b.score :=
  calc (b.attemptAll (BoardAction.probing guard slot none)).score
    _ = (((b.attempt (.lock guard)).attempt (.release guard)).attempt .signal).score := rfl
    _ = ((b.attempt (.lock guard)).attempt (.release guard)).score := score_attempt_of_onScore _ rfl
    _ = (b.attempt (.lock guard)).score := score_attempt_of_onScore _ rfl
    _ = b.score := score_attempt_of_onScore b rfl

theorem Consistent.attempt (h : b.Consistent) (a : BoardAction α) : (b.attempt a).Consistent := by
  rcases attempt_eq_or b a with heq | hstep
  · rwa [heq]
  · exact h.step hstep

/-! ### With a guard and without -/

/-- Whether a score stands as another does, apart from guards that are out at it alone; `guard` is
one that may be. -/
structure Beside (guard : Nat) (held : List Nat) (b b₀ : Board α) : Prop where
  score_eq : b.score = b₀.score
  writers_eq : b.writers = held.length + b₀.writers
  guards_perm : b.guards.Perm (held ++ b₀.guards)
  consistent : b₀.Consistent
  free : guard ∉ b₀.guards
  eq_guard : ∀ other ∈ held, other = guard

namespace Beside

/-- Whoever uses other guards can do the same at both, and does the same to both. -/
theorem attempt (h : Beside guard held b b₀) (ha : a.guard? ≠ some guard) :
    Beside guard held (b.attempt a) (b₀.attempt a) := by
  have hspare : ∀ other ∈ held, a.guard? ≠ some other := fun other hmem =>
    h.eq_guard other hmem ▸ ha
  have hfits : a.Fits b.guards ↔ a.Fits b₀.guards :=
    (a.fits_perm h.guards_perm).trans (BoardAction.fits_append hspare)
  by_cases hfit : a.Fits b₀.guards
  · obtain ⟨hscore, hguards, hwriters⟩ := attempt_of_fits (hfits.mpr hfit)
    obtain ⟨hscore₀, hguards₀, hwriters₀⟩ := attempt_of_fits hfit
    refine ⟨?_, ?_, ?_, h.consistent.attempt a, ?_, h.eq_guard⟩
    · rw [hscore, hscore₀, h.score_eq]
    · rw [hwriters, hwriters₀, h.writers_eq]
      cases a with
      | lock other => rfl
      | release other =>
        -- There is one to take away, since the guard is out.
        have hpos : 0 < b₀.writers := by
          rw [h.consistent.writers_eq]
          exact List.length_pos_of_mem hfit
        exact Nat.add_sub_assoc hpos _
      | _ => rfl
    · rw [hguards, hguards₀]
      cases a with
      | lock other =>
        show (b.guards ++ [other]).Perm (held ++ (b₀.guards ++ [other]))
        rw [← List.append_assoc]
        exact h.guards_perm.append_right [other]
      | release other =>
        have hnew : other ∉ held := fun hmem => hspare other hmem rfl
        show (b.guards.erase other).Perm (held ++ b₀.guards.erase other)
        rw [← List.erase_append_right _ hnew]
        exact h.guards_perm.erase other
      | _ => exact h.guards_perm
    · rw [hguards₀]
      cases a with
      | lock other =>
        have hne : guard ≠ other := fun heq => ha (congrArg some heq.symm)
        exact fun hmem => (List.mem_append.mp hmem).elim h.free fun hlast =>
          hne (List.mem_singleton.mp hlast)
      | release other => exact fun hmem => h.free (List.mem_of_mem_erase hmem)
      | _ => exact h.free
  · rw [attempt_of_not_fits hfit, attempt_of_not_fits fun hfit' => hfit (hfits.mp hfit')]
    exact h

/-- The guard is handed out at one of the two. -/
theorem lock (h : Beside guard [] b b₀) : Beside guard [guard] (b.attempt (.lock guard)) b₀ := by
  have hfit : (BoardAction.lock guard : BoardAction α).Fits b.guards := fun hmem =>
    h.free (h.guards_perm.mem_iff.mp hmem)
  obtain ⟨hscore, hguards, hwriters⟩ := attempt_of_fits hfit
  refine ⟨hscore.trans h.score_eq, ?_, ?_, h.consistent, h.free, fun _ => List.mem_singleton.mp⟩
  · rw [hwriters, BoardAction.onWriters, h.writers_eq, List.length_nil, Nat.zero_add,
      List.length_singleton, Nat.add_comm]
  · rw [hguards]
    exact (List.perm_append_singleton guard b.guards).trans (h.guards_perm.cons guard)

theorem mem_guards (h : Beside guard [guard] b b₀) : guard ∈ b.guards :=
  h.guards_perm.mem_iff.mpr List.mem_cons_self

/-- The slot is written at both, under the guard and without. -/
theorem write (h : Beside guard [guard] b b₀) (points : α) :
    Beside guard [guard] (b.attempt (.write guard slot points))
      (b₀.attempt (.update slot points)) := by
  have hfit : (BoardAction.write guard slot points).Fits b.guards := h.mem_guards
  obtain ⟨hscore, hguards, hwriters⟩ := attempt_of_fits hfit
  refine ⟨?_, hwriters.trans h.writers_eq, ?_, h.consistent.attempt _, h.free, h.eq_guard⟩
  · rw [hscore, BoardAction.onScore, h.score_eq]
    rfl
  · rw [hguards]
    exact h.guards_perm

/-- The guard is given back. -/
theorem release (h : Beside guard [guard] b b₀) :
    Beside guard [] (b.attempt (.release guard)) b₀ := by
  have hfit : (BoardAction.release guard : BoardAction α).Fits b.guards := h.mem_guards
  obtain ⟨hscore, hguards, hwriters⟩ := attempt_of_fits hfit
  refine ⟨hscore.trans h.score_eq, ?_, ?_, h.consistent, h.free, nofun⟩
  · rw [hwriters, BoardAction.onWriters, h.writers_eq, List.length_nil, List.length_singleton,
      Nat.add_sub_cancel_left, Nat.zero_add]
  · rw [hguards]
    have herase := h.guards_perm.erase guard
    rwa [List.singleton_append, List.erase_cons_head] at herase

/-- A signal, given or not, is none of this. -/
theorem signal (h : Beside guard held b b₀) : Beside guard held (b.attempt .signal) b₀ := by
  obtain ⟨hscore, hguards, hwriters⟩ :=
    attempt_of_fits (b := b) (a := .signal) trivial
  exact ⟨hscore.trans h.score_eq, hwriters.trans h.writers_eq, hguards ▸ h.guards_perm,
    h.consistent, h.free, h.eq_guard⟩

end Beside

/-- What a check that holds the given guards may have left to do, and what it has left to write. -/
inductive Remains (guard slot : Nat) : List Nat → List (BoardAction α) → Option α → Prop where
  | answers (points : Option α) :
      Remains guard slot [] (BoardAction.answering slot points) points
  | probes (points : Option α) :
      Remains guard slot [] (BoardAction.probing guard slot points) points
  | concludes (points : Option α) :
      Remains guard slot [guard] (BoardAction.concluding guard slot points) points
  | signals : Remains guard slot [] [.signal] none

namespace Remains

variable {own others all : List (BoardAction α)} {points : Option α}

/-- The check does what comes next; without the guard it does what of that is a write. -/
theorem step (h : Remains guard slot held (a :: own) points) (hb : Beside guard held b b₀) :
    ∃ held' points' first, Remains guard slot held' own points' ∧
      BoardAction.answering slot points = first ++ BoardAction.answering slot points' ∧
      Beside guard held' (b.attempt a) (b₀.attemptAll first) := by
  generalize hleft : a :: own = left at h
  cases h with
  | answers points =>
    cases points with
    | none => cases hleft
    | some x =>
      cases hleft
      exact ⟨[], none, [.update slot x], .answers none, rfl, hb.attempt nofun⟩
  | probes points =>
    cases hleft
    exact ⟨[guard], points, [], .concludes points, rfl, hb.lock⟩
  | concludes points =>
    cases points with
    | none =>
      cases hleft
      exact ⟨[], none, [], .signals, rfl, hb.release⟩
    | some x =>
      cases hleft
      exact ⟨[guard], none, [.update slot x], .concludes none, rfl, hb.write x⟩
  | signals =>
    cases hleft
    exact ⟨[], none, [], .answers none, rfl, hb.signal⟩

/-- A check that has nothing left to do holds no guard and has nothing left to write. -/
theorem of_nil (h : Remains guard slot held ([] : List (BoardAction α)) points) :
    held = [] ∧ points = none := by
  generalize hleft : ([] : List (BoardAction α)) = left at h
  cases h with
  | answers points =>
    cases points with
    | none => exact ⟨rfl, rfl⟩
    | some x => cases hleft
  | concludes points => cases points <;> cases hleft
  | probes | signals => cases hleft

/-- What is left is done while others come in between. -/
theorem beside (h : Remains guard slot held own points) (hb : Beside guard held b b₀)
    (hall : Interleaves own others all) (hothers : ∀ a ∈ others, a.guard? ≠ some guard) :
    ∃ plain, Interleaves (BoardAction.answering slot points) others plain ∧
      Beside guard [] (b.attemptAll all) (b₀.attemptAll plain) := by
  induction hall generalizing held points b b₀ with
  | nil =>
    obtain ⟨rfl, rfl⟩ := h.of_nil
    exact ⟨[], .nil, hb⟩
  | left a _ ih =>
    obtain ⟨held', points', first, hrest, hpoints, hnext⟩ := h.step hb
    obtain ⟨plain, hplain, hlast⟩ := ih hrest hnext hothers
    refine ⟨first ++ plain, hpoints ▸ hplain.append_left first, ?_⟩
    rw [attemptAll, attemptAll, List.foldl_append]
    exact hlast
  | right a _ ih =>
    obtain ⟨ha, hrest⟩ := List.forall_mem_cons.mp hothers
    obtain ⟨plain, hplain, hlast⟩ := ih h (hb.attempt ha) hrest
    exact ⟨a :: plain, .right a hplain, hlast⟩

end Remains

/-! ### With a write and without -/

/-- Whether two scores are alike, apart from what one slot holds. -/
structure AlikeBut (slot : Nat) (b b' : Board α) : Prop where
  size_eq : b.score.size = b'.score.size
  slot_eq : ∀ i, i ≠ slot → b.score.slot? i = b'.score.slot? i
  guards_eq : b.guards = b'.guards
  writers_eq : b.writers = b'.writers

namespace AlikeBut

theorem refl (slot : Nat) (b : Board α) : AlikeBut slot b b :=
  ⟨rfl, fun _ _ => rfl, rfl, rfl⟩

/-- The same done to both keeps them so. -/
theorem attempt (h : AlikeBut slot b b') (a : BoardAction α) :
    AlikeBut slot (b.attempt a) (b'.attempt a) := by
  by_cases hfit : a.Fits b.guards
  · obtain ⟨hscore, hguards, hwriters⟩ := attempt_of_fits hfit
    obtain ⟨hscore', hguards', hwriters'⟩ := attempt_of_fits (h.guards_eq ▸ hfit)
    have hupdate (index i : Nat) (points : α) (hi : i ≠ slot) :
        (b.score.update index points).slot? i = (b'.score.update index points).slot? i := by
      have hsame : b.score.slots[i]? = b'.score.slots[i]? := h.slot_eq i hi
      rcases eq_or_ne index i with rfl | hne
      · simp only [Score.update, Score.slot?, List.getElem?_set_self', hsame]
      · rw [Score.slot?_update_of_ne _ hne, Score.slot?_update_of_ne _ hne, h.slot_eq i hi]
    refine ⟨?_, fun i hi => ?_, ?_, ?_⟩
    · rw [hscore, hscore']
      cases a with
      | write | update => simp only [BoardAction.onScore, Score.size_update, h.size_eq]
      | reset => simp only [BoardAction.onScore, Score.reset, h.size_eq]
      | _ => exact h.size_eq
    · rw [hscore, hscore']
      cases a with
      | write _ index points | update index points => exact hupdate index i points hi
      | reset => simp only [BoardAction.onScore, Score.reset, h.size_eq]
      | _ => exact h.slot_eq i hi
    · rw [hguards, hguards', h.guards_eq]
    · rw [hwriters, hwriters', h.writers_eq]
  · rw [attempt_of_not_fits hfit, attempt_of_not_fits (h.guards_eq ▸ hfit)]
    exact h

/-- One of them has the slot written. -/
theorem update (h : AlikeBut slot b b') (points : α) :
    AlikeBut slot (b.attempt (.update slot points)) b' where
  size_eq := (Score.size_update b.score slot points).trans h.size_eq
  slot_eq := fun i hi => (Score.slot?_update_of_ne b.score hi.symm points).trans (h.slot_eq i hi)
  guards_eq := h.guards_eq
  writers_eq := h.writers_eq

/-- **A write that comes in between touches its slot and nothing else.** -/
theorem of_interleaves (points : Option α) {others all : List (BoardAction α)}
    (h : AlikeBut slot b b')
    (hall : Interleaves (BoardAction.answering slot points) others all) :
    AlikeBut slot (b.attemptAll all) (b'.attemptAll others) := by
  generalize hown : BoardAction.answering slot points = own at hall
  induction hall generalizing points b b' with
  | nil => exact h
  | left a _ ih =>
    cases points with
    | none => cases hown
    | some x =>
      cases hown
      exact ih none (h.update x) rfl
  | right a _ ih => exact ih points (h.attempt a) hown

end AlikeBut

/-! ### What is left behind -/

/-- What a check leaves behind at a score when it comes among others, compared with what these alone
do: guards and counter are the same, and so is every slot but its own; that slot was written once at
most, as if the check had held no guard. -/
structure Footprint (slot : Nat) (points : Option α) (others all : List (BoardAction α))
    (b : Board α) : Prop where
  writers_eq : (b.attemptAll all).writers = (b.attemptAll others).writers
  guards_perm : (b.attemptAll all).guards.Perm (b.attemptAll others).guards
  slot_eq : ∀ i, i ≠ slot → (b.attemptAll all).score.slot? i = (b.attemptAll others).score.slot? i
  score_eq : ∃ plain, Interleaves (BoardAction.answering slot points) others plain ∧
    (b.attemptAll all).score = (b.attemptAll plain).score

/-- **A check leaves a write behind and nothing else**, whatever comes in between. -/
theorem footprint_of_conduct {own others all : List (BoardAction α)} {points : Option α}
    (hown : Conduct guard slot own points) (hb : b.Consistent) (hfree : guard ∉ b.guards)
    (hothers : ∀ a ∈ others, a.guard? ≠ some guard) (hall : Interleaves own others all) :
    b.Footprint slot points others all := by
  have hleft : Remains guard slot [] own points := by
    cases hown with
    | answers => exact .answers points
    | probes => exact .probes points
  have hstart : Beside guard [] b b :=
    ⟨rfl, (Nat.zero_add b.writers).symm, .refl _, hb, hfree, nofun⟩
  obtain ⟨plain, hplain, hlast⟩ := hleft.beside hstart hall hothers
  have halike := (AlikeBut.refl slot b).of_interleaves points hplain
  refine ⟨?_, ?_, fun i hi => ?_, plain, hplain, hlast.score_eq⟩
  · rw [hlast.writers_eq, List.length_nil, Nat.zero_add, halike.writers_eq]
  · rw [← halike.guards_eq]
    exact hlast.guards_perm
  · rw [hlast.score_eq, halike.slot_eq i hi]

end Board
end MailPolicy
