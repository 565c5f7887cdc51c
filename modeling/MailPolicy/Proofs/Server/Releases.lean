/-
Why no release is missed.

A retirer registers for the signal, counts the references to the engines on the list, shuts down those
that nobody else refers to, which takes as long as it takes, and only then parks.  A lease drops its
reference first and gives the signal afterwards.  So an engine that was counted as leased either is
leased still, or its last lease has given the signal after the retirer had registered, or is just about
to give it.

* `Retirer.spared` — the engines that a retirer has counted as leased and leaves on the list;
* `Succession.Heard` — whoever has heard nothing since it registered spares engines that are leased,
  unless a signal is about to be given;
* `Succession.Happens.heard`, `Succession.Reachable.heard` — every action keeps that, so it always holds;
* `Succession.parked_leased` — **a parked retirer without a signal left only engines that are leased
  still**, once every signal has been given.
-/
import MailPolicy.Proofs.Server.Retirement

namespace MailPolicy

namespace Retirer

/-- The engines that a retirer has counted as leased since it last looked at the list. -/
def spared : Retirer → List Nat
  | sorting _ _ busy _ => busy
  | holding _ left _ => left
  | closing _ _ left _ => left
  | parked left _ => left
  | _ => []

/-- Whether the signal has reached a retirer since it registered. -/
def isSignalled : Retirer → Bool
  | registered signalled => signalled
  | sorting _ _ _ signalled => signalled
  | holding _ _ signalled => signalled
  | closing _ _ _ signalled => signalled
  | parked _ signalled => signalled
  | _ => false

@[simp] theorem spared_signal (r : Retirer) : r.signal.spared = r.spared := by
  cases r <;> rfl

theorem isSignalled_signal {r : Retirer} {engine : Nat} (h : engine ∈ r.spared) :
    r.signal.isSignalled = true := by
  cases r with
  | called | registered | done => cases h
  | _ => rfl

end Retirer

namespace Succession

variable {s t : Succession} {a : SuccessionAction} {engine retirer : Nat}

/-! ### What a count tells -/

/-- Whoever refers to an engine off the list while it looks at it is the only one but for leases. -/
theorem Sound.of_mem_references (h : s.Sound) {r : Retirer} (hr : r ∈ s.retirers)
    (hengine : engine ∈ r.references) :
    engine < s.installed ∧ engine ∉ s.displaced ∧
      s.references engine = 1 + s.leases.count (.held engine) := by
  have hplaced := h.placed engine
  have hrefers : 0 < (s.retirers.flatMap Retirer.references).count engine :=
    List.count_pos_iff.mpr (List.mem_flatMap.mpr ⟨r, hr, hengine⟩)
  have hold : engine < s.installed := by
    by_contra hge
    rw [if_neg hge] at hplaced
    omega
  rw [if_pos hold] at hplaced
  refine ⟨hold, List.count_eq_zero.mp (by omega), ?_⟩
  rw [references, if_neg (Nat.ne_of_gt hold)]
  omega

/-- A replaced engine that a retirer counts as busy is leased. -/
theorem Sound.leased_of_busy (h : s.Sound) {r : Retirer} (hr : r ∈ s.retirers)
    (hengine : engine ∈ r.references) (hbusy : s.references engine ≠ 1) : .held engine ∈ s.leases := by
  obtain ⟨-, -, hcount⟩ := h.of_mem_references hr hengine
  exact List.count_pos_iff.mp (by omega)

/-! ### What is heard -/

/-- What always holds of the engines that retirers spare. -/
structure Heard (s : Succession) : Prop where
  /-- They were replaced and have come to the list. -/
  listed : ∀ r ∈ s.retirers, ∀ engine ∈ r.spared, engine < s.installed ∧ engine ∉ s.displaced
  /-- They are leased, unless their retirer was signalled or a signal is about to be given. -/
  leased : ∀ r ∈ s.retirers, r.isSignalled = false → ∀ engine ∈ r.spared,
    .held engine ∈ s.leases ∨ .dropped ∈ s.leases

theorem heard_start : Heard {} where
  listed _ hr := absurd hr List.not_mem_nil
  leased _ hr := absurd hr List.not_mem_nil

namespace Heard

/-- What happens to leases does not matter as long as a signal is about to be given for each engine that
is not leased any more. -/
theorem of_leases (h : s.Heard) {leases : List Lease}
    (hleases : ∀ engine, .held engine ∈ s.leases ∨ .dropped ∈ s.leases →
      .held engine ∈ leases ∨ .dropped ∈ leases) : Heard { s with leases := leases } where
  listed := h.listed
  leased r hr hsignal engine hengine := hleases engine (h.leased r hr hsignal engine hengine)

/-- The signal reaches everyone who spares an engine. -/
theorem signal (h : s.Heard) (leases : List Lease) :
    Heard { s with leases := leases, retirers := s.retirers.map Retirer.signal } where
  listed q hq engine hengine := by
    obtain ⟨r, hr, rfl⟩ := List.mem_map.mp hq
    rw [Retirer.spared_signal] at hengine
    exact h.listed r hr engine hengine
  leased q hq hsignal engine hengine := by
    obtain ⟨r, -, rfl⟩ := List.mem_map.mp hq
    rw [Retirer.spared_signal] at hengine
    rw [Retirer.isSignalled_signal hengine] at hsignal
    cases hsignal

theorem install (h : s.Heard) :
    Heard { s with installed := s.installed + 1, displaced := s.displaced ++ [s.installed] } where
  listed r hr engine hengine := Happens.install.listed (h.listed r hr engine hengine)
  leased := h.leased

theorem push (h : s.Heard) (hmem : engine ∈ s.displaced) (hfree : s.isLocked = false) :
    Heard { s with displaced := s.displaced.erase engine, retiring := s.retiring ++ [engine] } where
  listed r hr other hother := (Happens.push engine hmem hfree).listed (h.listed r hr other hother)
  leased := h.leased

theorem call (h : s.Heard) : Heard { s with retirers := s.retirers ++ [.called] } where
  listed r hr engine hengine := by
    rcases List.mem_append.mp hr with hr | hnew
    · exact h.listed r hr engine hengine
    · obtain rfl := List.mem_singleton.mp hnew
      cases hengine
  leased r hr hsignal engine hengine := by
    rcases List.mem_append.mp hr with hr | hnew
    · exact h.leased r hr hsignal engine hengine
    · obtain rfl := List.mem_singleton.mp hnew
      cases hengine

/-- One retirer goes on.  An engine that it spares is one that it spared before, without having lost a
signal, or one that is leased. -/
theorem setRetirer (h : s.Heard) {i : Nat} {r r' : Retirer} (hr : s.retirers[i]? = some r)
    (retiring begun ended : List Nat)
    (hspared : ∀ engine ∈ r'.spared,
      engine ∈ r.spared ∧ (r'.isSignalled = false → r.isSignalled = false) ∨
      engine < s.installed ∧ engine ∉ s.displaced ∧ .held engine ∈ s.leases) :
    Heard { s.setRetirer i r' with retiring := retiring, begun := begun, ended := ended } where
  listed q hq engine hengine := by
    rcases List.mem_or_eq_of_mem_set hq with hq | rfl
    · exact h.listed q hq engine hengine
    · rcases hspared engine hengine with ⟨hbefore, -⟩ | ⟨hold, hout, -⟩
      · exact h.listed r (List.mem_of_getElem? hr) engine hbefore
      · exact ⟨hold, hout⟩
  leased q hq hsignal engine hengine := by
    rcases List.mem_or_eq_of_mem_set hq with hq | rfl
    · exact h.leased q hq hsignal engine hengine
    · rcases hspared engine hengine with ⟨hbefore, hkeeps⟩ | ⟨-, -, hleased⟩
      · exact h.leased r (List.mem_of_getElem? hr) (hkeeps hsignal) engine hbefore
      · exact .inl hleased

/-- One retirer goes on and spares what it spared. -/
theorem keep (h : s.Heard) {i : Nat} {r r' : Retirer} (hr : s.retirers[i]? = some r)
    (retiring begun ended : List Nat) (hspared : r'.spared = r.spared)
    (hsignal : r'.isSignalled = r.isSignalled) :
    Heard { s.setRetirer i r' with retiring := retiring, begun := begun, ended := ended } :=
  h.setRetirer hr retiring begun ended fun _ hengine =>
    .inl ⟨hspared ▸ hengine, fun hnone => hsignal ▸ hnone⟩

/-- One retirer goes on and spares nothing. -/
theorem forget (h : s.Heard) {i : Nat} {r r' : Retirer} (hr : s.retirers[i]? = some r)
    (retiring : List Nat) (hspared : r'.spared = []) :
    Heard { s.setRetirer i r' with retiring := retiring } :=
  h.setRetirer hr retiring s.begun s.ended fun _ hengine =>
    absurd (hspared ▸ hengine) List.not_mem_nil

end Heard

/-- **Every action keeps it**: what a retirer counts as busy is leased, and whoever stops to lease an
engine signals all who had registered by then. -/
theorem Happens.heard (ha : Happens s a t) (hs : s.Sound) (h : s.Heard) : t.Heard := by
  cases ha with
  | lease =>
    exact h.of_leases fun engine => Or.imp (List.mem_append_left _) (List.mem_append_left _)
  | decide => exact h
  | drop lease engine hlease =>
    -- The signal for this lease is about to be given, whatever was leased before.
    obtain ⟨hlt, -⟩ := List.getElem?_eq_some_iff.mp hlease
    exact h.of_leases fun _ _ => .inr (List.mem_set hlt _)
  | notify lease hlease => exact h.signal _
  | install => exact h.install
  | push engine hmem hfree => exact h.push hmem hfree
  | call => exact h.call
  | register i hr => exact h.forget hr s.retiring rfl
  | look i signalled hr hfree => exact h.forget hr [] rfl
  | countIdle i other unread idle busy signalled hr hidle =>
    exact h.keep hr s.retiring s.begun s.ended rfl rfl
  | countBusy i other unread idle busy signalled hr hbusy =>
    refine h.setRetirer hr s.retiring s.begun s.ended fun engine hengine => ?_
    rcases List.mem_append.mp hengine with hbefore | hlast
    · exact .inl ⟨hbefore, id⟩
    · obtain rfl := List.mem_singleton.mp hlast
      have hr' := List.mem_of_getElem? hr
      have hown : engine ∈ (Retirer.sorting (engine :: unread) idle busy signalled).references := by
        simp [Retirer.references]
      obtain ⟨hold, hout, -⟩ := hs.of_mem_references hr' hown
      exact .inr ⟨hold, hout, hs.leased_of_busy hr' hown hbusy⟩
  | putBack i idle busy signalled hr => exact h.keep hr busy s.begun s.ended rfl rfl
  | begin i other rest left signalled hr =>
    exact h.keep hr s.retiring (s.begun ++ [other]) s.ended rfl rfl
  | finish i other rest left signalled hr =>
    exact h.keep hr s.retiring s.begun (s.ended ++ [other]) rfl rfl
  | leave i signalled hr => exact h.forget hr s.retiring rfl
  | park i other left signalled hr => exact h.keep hr s.retiring s.begun s.ended rfl rfl
  | wake i left hr => exact h.forget hr s.retiring rfl

theorem Reachable.heard (h : s.Reachable) : s.Heard := by
  induction h with
  | start => exact heard_start
  | step a hs hstep ih => exact (happens_of_step hstep).heard hs.sound ih

/-! ### Whoever is parked -/

/-- An engine that is leased and has come to the list is still there, or a retirer that holds the lock
is counting. -/
theorem Sound.listed_of_leased (h : s.Sound) (hold : engine < s.installed) (hout : engine ∉ s.displaced)
    (hleased : .held engine ∈ s.leases) :
    engine ∈ s.retiring ∨ ∃ (i : Nat) (r : Retirer), s.retirers[i]? = some r ∧ r.locks = true ∧
      engine ∈ r.references := by
  have hplaced := h.placed engine
  obtain ⟨-, htaken, hended⟩ := h.leased engine hleased
  rw [if_pos hold, List.count_eq_zero.mpr hout, hended] at hplaced
  by_cases hlist : engine ∈ s.retiring
  · exact .inl hlist
  · rw [List.count_eq_zero.mpr hlist] at hplaced
    have hrefers : engine ∈ s.retirers.flatMap Retirer.references :=
      List.count_pos_iff.mp (by omega)
    obtain ⟨r, hr, hmem⟩ := List.mem_flatMap.mp hrefers
    obtain ⟨i, hi⟩ := List.mem_iff_getElem?.mp hr
    refine .inr ⟨i, r, hi, ?_, hmem⟩
    -- What a retirer without the lock refers to it has taken, and nobody takes a leased engine.
    by_contra hfree
    rw [← Retirer.taken_eq_references (Bool.not_eq_true _ ▸ hfree)] at hmem
    exact List.count_eq_zero.mp htaken (List.mem_flatMap.mpr ⟨r, hr, hmem⟩)

/-- **A parked retirer without a signal left only engines that are leased still**, once every lease
that dropped its reference has given its signal.  Each of them is still on the list, or another retirer
has taken the list and is counting the references just then. -/
theorem parked_leased (h : s.Reachable) {left : List Nat}
    (hparked : s.retirers[retirer]? = some (.parked left false)) (hgiven : .dropped ∉ s.leases) :
    ∀ engine ∈ left, .held engine ∈ s.leases ∧
      (engine ∈ s.retiring ∨ ∃ (other : Nat) (r : Retirer), other ≠ retirer ∧
        s.retirers[other]? = some r ∧ r.locks = true ∧ engine ∈ r.references) := by
  intro engine hengine
  have hr := List.mem_of_getElem? hparked
  have hleased := (h.heard.leased _ hr rfl engine hengine).resolve_right hgiven
  obtain ⟨hold, hout⟩ := h.heard.listed _ hr engine hengine
  refine ⟨hleased, (h.sound.listed_of_leased hold hout hleased).imp_right ?_⟩
  rintro ⟨other, r, hother, hlocks, hmem⟩
  refine ⟨other, r, ?_, hother, hlocks, hmem⟩
  rintro rfl
  rw [hparked] at hother
  cases hother
  cases hlocks

/-- A retirer shuts down one engine and parks for the sake of another, that a request leases still. -/
theorem parked_leased_after_shutdown :
    let s := attemptAll {} [.install, .push 0, .lease, .install, .push 1, .call, .register 0, .look 0,
      .count 0, .count 0, .putBack 0, .begin 0, .finish 0, .conclude 0]
    s.retirers[0]? = some (.parked [1] false) ∧ 0 ∈ s.ended ∧ .held 1 ∈ s.leases := by
  intro s
  have hs : s.Reachable := Reachable.start.attemptAll _
  have hparked : s.retirers[0]? = some (.parked [1] false) := rfl
  exact ⟨hparked, by decide, (parked_leased hs hparked (by decide) 1 (by decide)).1⟩

end Succession
end MailPolicy
