/-
What it means that a retirer returns.

A retirer returns when it has left no engine on the list.  By then every engine that had been replaced
before it was called is off the list; but it may be off the list because another retirer took it, and
that one may still wait for the shutdown to end.

* `Succession.IsHandled` — an engine is in the hands of a retirer or shut down, and stays so;
* `Succession.Cleared` — what a retirer that has looked at the list may have left there;
* `Succession.retire_complete_iff` — **when a retirer has returned, an engine replaced before it was
  called is shut down exactly if no retirer has it in its hands**;
* `Succession.retire_incomplete` — a retirer returns while another one waits for a shutdown.
-/
import MailPolicy.Proofs.Server.Succession

namespace MailPolicy

namespace Retirer

/-- The engines that a retirer which has looked at the list may find busy or has left there. -/
def leaves? : Retirer → Option (List Nat)
  | sorting unread _ busy _ => some (unread ++ busy)
  | holding _ left _ => some left
  | closing _ _ left _ => some left
  | done => some []
  | _ => none

@[simp] theorem leaves?_signal (r : Retirer) : r.signal.leaves? = r.leaves? := by
  cases r <;> rfl

/-- Whoever does not hold the lock refers to the engines only that it has taken. -/
theorem taken_eq_references {r : Retirer} (h : r.locks = false) : r.taken = r.references := by
  cases r with
  | sorting => cases h
  | _ => rfl

end Retirer

namespace Succession

variable {s t u : Succession} {a : SuccessionAction} {engine retirer : Nat}

/-- What the engines and those who refer to them can come to. -/
inductive Leads (s : Succession) : Succession → Prop
  | refl : Leads s s
  | step {t u : Succession} (a : SuccessionAction) : Leads s t → t.step a = some u → Leads s u

theorem Reachable.leads (hs : s.Reachable) (h : s.Leads t) : t.Reachable := by
  induction h with
  | refl => exact hs
  | step a _ hstep ih => exact .step a ih hstep

theorem Leads.trans (hst : s.Leads t) (htu : t.Leads u) : s.Leads u := by
  induction htu with
  | refl => exact hst
  | step a _ hstep ih => exact .step a ih hstep

theorem Leads.attemptAll (s : Succession) (as : List SuccessionAction) : s.Leads (s.attemptAll as) := by
  induction as generalizing s with
  | nil => exact .refl
  | cons a rest ih =>
    refine Leads.trans ?_ (ih (s.attempt a))
    unfold Succession.attempt
    cases hstep : s.step a with
    | none => exact .refl
    | some t => exact .step a .refl hstep

/-! ### Engines that a retirer has taken -/

/-- Whether an engine was taken off the list for its shutdown. -/
def IsHandled (s : Succession) (engine : Nat) : Prop :=
  engine ∈ s.retirers.flatMap Retirer.taken ∨ engine ∈ s.ended

theorem mem_flatMap_set {i : Nat} {r r' : Retirer} (hr : s.retirers[i]? = some r)
    (h : engine ∈ r'.taken) : engine ∈ (s.retirers.set i r').flatMap Retirer.taken := by
  obtain ⟨hlt, -⟩ := List.getElem?_eq_some_iff.mp hr
  exact List.mem_flatMap.mpr ⟨r', List.mem_set hlt r', h⟩

theorem isHandled_setRetirer {i : Nat} {r r' : Retirer} (hr : s.retirers[i]? = some r)
    (retiring begun ended : List Nat) (h : s.IsHandled engine)
    (hkeeps : engine ∈ r.taken ∨ engine ∈ s.ended → engine ∈ r'.taken ∨ engine ∈ ended) :
    IsHandled { s.setRetirer i r' with retiring := retiring, begun := begun, ended := ended }
      engine := by
  by_cases hmine : engine ∈ r.taken ∨ engine ∈ s.ended
  · rcases hkeeps hmine with htaken | hended
    · exact .inl (mem_flatMap_set hr htaken)
    · exact .inr hended
  · -- Another retirer has taken it.
    rw [not_or] at hmine
    rcases h with hothers | hended
    · have hset := count_flatMap_set_add Retirer.taken r' hr engine
      have hpos := List.count_pos_iff.mpr hothers
      rw [List.count_eq_zero.mpr hmine.1] at hset
      exact .inl (List.count_pos_iff.mp (by dsimp only [setRetirer]; omega))
    · exact absurd hended hmine.2

/-- An engine that was taken is shut down; nobody puts it back. -/
theorem Happens.isHandled (ha : Happens s a t) (h : s.IsHandled engine) : t.IsHandled engine := by
  cases ha with
  | notify =>
    rcases h with htaken | hended
    · exact .inl (by simpa [List.flatMap_map] using htaken)
    · exact .inr hended
  | call =>
    rcases h with htaken | hended
    · exact .inl (by simpa [Retirer.taken] using htaken)
    · exact .inr hended
  | register retirer hr => exact isHandled_setRetirer hr s.retiring s.begun s.ended h id
  | look retirer signalled hr => exact isHandled_setRetirer hr [] s.begun s.ended h id
  | countIdle retirer other unread idle busy signalled hr =>
    exact isHandled_setRetirer hr s.retiring s.begun s.ended h (.imp_left (List.mem_append_left _))
  | countBusy retirer other unread idle busy signalled hr =>
    exact isHandled_setRetirer hr s.retiring s.begun s.ended h id
  | putBack retirer idle busy signalled hr => exact isHandled_setRetirer hr busy s.begun s.ended h id
  | begin retirer other rest left signalled hr =>
    exact isHandled_setRetirer hr s.retiring (s.begun ++ [other]) s.ended h id
  | finish retirer other rest left signalled hr =>
    refine isHandled_setRetirer hr s.retiring s.begun (s.ended ++ [other]) h fun htaken => ?_
    simp only [Retirer.taken, List.mem_cons, List.mem_append] at htaken ⊢
    tauto
  | leave retirer signalled hr => exact isHandled_setRetirer hr s.retiring s.begun s.ended h id
  | park retirer other left signalled hr =>
    exact isHandled_setRetirer hr s.retiring s.begun s.ended h id
  | wake retirer left hr => exact isHandled_setRetirer hr s.retiring s.begun s.ended h id
  | _ => exact h

/-- While the list is not locked, a replaced engine that is on its way neither to the list nor on it
was taken. -/
theorem Sound.mem_retiring_or (h : s.Sound) (hfree : s.isLocked = false) (hold : engine < s.installed)
    (hlisted : engine ∉ s.displaced) : engine ∈ s.retiring ∨ s.IsHandled engine := by
  have hplaced := h.placed engine
  rw [if_pos hold, List.count_eq_zero.mpr hlisted] at hplaced
  have htaken : s.retirers.flatMap Retirer.taken = s.retirers.flatMap Retirer.references := by
    refine List.flatMap_congr fun r hr => Retirer.taken_eq_references ?_
    exact Bool.not_eq_true _ ▸ List.any_eq_false.mp hfree r hr
  by_contra hnone
  simp only [IsHandled, htaken, not_or, ← List.count_eq_zero] at hnone
  omega

/-! ### What a retirer leaves -/

/-- Whether an engine was taken, unless a retirer has still to count it or has left it on the list. -/
def Cleared (s : Succession) (retirer engine : Nat) : Prop :=
  ∀ r left, s.retirers[retirer]? = some r → r.leaves? = some left → engine ∈ left ∨ s.IsHandled engine

/-- One retirer goes on. -/
theorem Cleared.of_set (h : s.Cleared retirer engine)
    (hhandled : s.IsHandled engine → t.IsHandled engine) {i : Nat} {r' : Retirer}
    (ht : t.retirers = s.retirers.set i r')
    (hown : i = retirer → ∀ left, r'.leaves? = some left → engine ∈ left ∨ t.IsHandled engine) :
    t.Cleared retirer engine := by
  intro r left hr hleft
  rw [ht] at hr
  by_cases hi : i = retirer
  · subst hi
    obtain ⟨_, hr'⟩ := List.getElem?_eq_some_iff.mp hr
    obtain rfl : r' = r := by simpa using hr'
    exact hown rfl left hleft
  · rw [List.getElem?_set_ne hi] at hr
    exact (h r left hr hleft).imp_right hhandled

theorem Happens.cleared (ha : Happens s a t) (hs : s.Sound) (hold : engine < s.installed)
    (hlisted : engine ∉ s.displaced) (h : s.Cleared retirer engine) : t.Cleared retirer engine := by
  have hhandled (hh : s.IsHandled engine) : t.IsHandled engine := ha.isHandled hh
  have hkept {i : Nat} {r : Retirer} {left : List Nat} (hr : s.retirers[i]? = some r)
      (hleft : r.leaves? = some left) (hi : i = retirer) : engine ∈ left ∨ t.IsHandled engine := by
    subst hi
    exact (h r left hr hleft).imp_right hhandled
  cases ha with
  | notify lease hlease =>
    intro r' left hr' hleft
    obtain ⟨r, hr, rfl⟩ : ∃ r, s.retirers[retirer]? = some r ∧ r.signal = r' := by simpa using hr'
    rw [Retirer.leaves?_signal] at hleft
    exact hkept hr hleft rfl
  | call =>
    intro r left hr hleft
    rw [List.getElem?_append] at hr
    split at hr
    · exact hkept hr hleft rfl
    · obtain rfl := List.mem_singleton.mp (List.mem_of_getElem? hr)
      cases hleft
  | register i hr => exact h.of_set hhandled rfl nofun
  | look i signalled hr hfree =>
    refine h.of_set hhandled rfl fun _ left hleft => ?_
    cases hleft
    rw [List.append_nil]
    exact (hs.mem_retiring_or hfree hold hlisted).imp_right hhandled
  | countIdle i other unread idle busy signalled hr hidle =>
    refine h.of_set hhandled rfl fun hi left hleft => ?_
    cases hleft
    rcases hkept hr rfl hi with hmem | hh
    · rcases List.mem_cons.mp hmem with rfl | hrest
      · exact .inr (.inl (mem_flatMap_set hr (List.mem_append_right idle (List.mem_singleton_self _))))
      · exact .inl hrest
    · exact .inr hh
  | countBusy i other unread idle busy signalled hr hbusy =>
    refine h.of_set hhandled rfl fun hi left hleft => ?_
    cases hleft
    refine (hkept hr rfl hi).imp_left fun hmem => ?_
    simp only [List.mem_append, List.mem_cons] at hmem ⊢
    tauto
  | putBack i idle busy signalled hr =>
    refine h.of_set hhandled rfl fun hi left hleft => ?_
    cases hleft
    exact hkept hr rfl hi
  | begin i other rest _ signalled hr | finish i other rest _ signalled hr | leave i signalled hr =>
    refine h.of_set hhandled rfl fun hi left hleft => ?_
    cases hleft
    exact hkept hr rfl hi
  | park i other left signalled hr => exact h.of_set hhandled rfl nofun
  | wake i left hr => exact h.of_set hhandled rfl nofun
  | _ => exact h

/-! ### The return -/

/-- An engine that was replaced and is not on its way to the list any more stays so. -/
theorem Happens.listed (ha : Happens s a t) (h : engine < s.installed ∧ engine ∉ s.displaced) :
    engine < t.installed ∧ engine ∉ t.displaced := by
  obtain ⟨hold, hlisted⟩ := h
  cases ha with
  | install =>
    refine ⟨Nat.lt_succ_of_lt hold, fun hmem => ?_⟩
    rcases List.mem_append.mp hmem with hmem | hlast
    · exact hlisted hmem
    · exact Nat.ne_of_lt hold (List.mem_singleton.mp hlast)
  | push other => exact ⟨hold, fun hmem => hlisted (List.mem_of_mem_erase hmem)⟩
  | _ => exact ⟨hold, hlisted⟩

theorem Leads.cleared (hrun : s.Leads t) (hs : s.Reachable)
    (hlisted : engine < s.installed ∧ engine ∉ s.displaced) (h : s.Cleared retirer engine) :
    (engine < t.installed ∧ engine ∉ t.displaced) ∧ t.Cleared retirer engine := by
  induction hrun with
  | refl => exact ⟨hlisted, h⟩
  | step a hu hstep ih =>
    obtain ⟨⟨hold, hout⟩, hcleared⟩ := ih
    have ha := happens_of_step hstep
    exact ⟨ha.listed ⟨hold, hout⟩, ha.cleared (hs.leads hu).sound hold hout hcleared⟩

/-- An engine in the hands of a retirer is not shut down yet. -/
theorem Sound.not_ended (h : s.Sound) {r : Retirer} (hr : r ∈ s.retirers) (htaken : engine ∈ r.taken) :
    engine ∉ s.ended := by
  intro hended
  have hplaced := h.placed engine
  have htook : 0 < (s.retirers.flatMap Retirer.taken).count engine :=
    List.count_pos_iff.mpr (List.mem_flatMap.mpr ⟨r, hr, htaken⟩)
  have hle := count_flatMap_le (fun r => Retirer.count_taken_le r engine) s.retirers
  have hpos := List.count_pos_iff.mpr hended
  split at hplaced <;> omega

/-- **When a retirer has returned, an engine replaced before it was called is shut down exactly if no
other retirer has it in its hands.** -/
theorem retire_complete_iff {s s' t : Succession} (hs : s.Reachable) (hcall : s.step .call = some s')
    (hrun : s'.Leads t) (hdone : t.isDone s.retirers.length = true) (engine : Nat)
    (hold : engine < s.installed) (hlisted : engine ∉ s.displaced) :
    engine ∈ t.ended ↔ ∀ r ∈ t.retirers, engine ∉ r.taken := by
  have hcalled : s'.Cleared s.retirers.length engine := by
    cases hcall
    intro r left hr hleft
    obtain rfl : .called = r := Option.some.inj (List.getElem?_concat_length.symm.trans hr)
    cases hleft
  have hs' : s'.Reachable := .step .call hs hcall
  have hstart : engine < s'.installed ∧ engine ∉ s'.displaced :=
    (happens_of_step hcall).listed ⟨hold, hlisted⟩
  obtain ⟨-, hcleared⟩ := hrun.cleared hs' hstart hcalled
  constructor
  · intro hended r hr htaken
    exact (hs'.leads hrun).sound.not_ended hr htaken hended
  · intro hfree
    -- A retirer that is done has left nothing.
    rcases hcleared .done [] (by simpa [isDone] using hdone) rfl with hnone | htaken | hended
    · exact absurd hnone List.not_mem_nil
    · obtain ⟨r, hr, hmem⟩ := List.mem_flatMap.mp htaken
      exact absurd hmem (hfree r hr)
    · exact hended

/-- A single retirer shuts down the engine that was replaced before. -/
theorem retire_complete_alone :
    0 ∈ (attemptAll {} [.install, .push 0, .call, .register 0, .look 0, .count 0, .putBack 0,
      .begin 0, .finish 0, .conclude 0]).ended := by
  have hs : Reachable (attemptAll {} [.install, .push 0]) := Reachable.start.attemptAll _
  refine (retire_complete_iff hs rfl (.attemptAll _ [.register 0, .look 0, .count 0, .putBack 0,
    .begin 0, .finish 0, .conclude 0]) rfl 0 (by decide) (by decide)).mpr ?_
  decide

/-- **A retirer returns although an engine replaced before it was called is not shut down**: another one
has taken the engine off the list and still waits for the shutdown to end. -/
theorem retire_incomplete :
    ¬ ∀ s s' t : Succession, s.Reachable → s.step .call = some s' → s'.Leads t →
      t.isDone s.retirers.length = true →
        ∀ engine, engine < s.installed → engine ∉ s.displaced → engine ∈ t.ended := by
  intro h
  have hs : Reachable (attemptAll {} [.install, .push 0, .call, .register 0, .look 0, .count 0,
    .putBack 0, .begin 0]) := Reachable.start.attemptAll _
  have hended := h _ _ _ hs rfl (.attemptAll _ [.register 1, .look 1, .putBack 1, .conclude 1]) rfl 0
    (by decide) (by decide)
  revert hended
  decide

end Succession
end MailPolicy
