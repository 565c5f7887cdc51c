/-
Where every engine is.

A replaced engine is in one place at a time: on its way to the list, on the list, in the hands of one
retirer, or shut down.  Leases are taken of the installed engine alone, so once a retirer has seen
that nobody else refers to a replaced engine, nobody will.  Counting the references takes its time,
and leases end meanwhile; but the count of a replaced engine can only fall.

* `Succession.Happens` — what each action does, one case after the other;
* `Succession.Sound` — each replaced engine is in one place, and is not leased once it was found idle;
* `Succession.Happens.sound`, `Succession.Reachable.sound` — every action keeps that, so it always
  holds;
* `Succession.Sound.nodup_begun`, `Succession.Sound.not_leased` — **no engine is shut down twice, and
  none that a request still leases**.
-/
import MailPolicy.Proofs.Pool.Invariant
import MailPolicy.Server.Succession

namespace MailPolicy

/-! ### Lists of retirers -/

section Lists

variable {α : Type} {l : List α} {i : Nat} {x : α}

/-- The count in the parts together when one part is exchanged. -/
theorem count_flatMap_set_add (f : α → List Nat) (y : α) (h : l[i]? = some x) (n : Nat) :
    ((l.set i y).flatMap f).count n + (f x).count n = (l.flatMap f).count n + (f y).count n := by
  induction l generalizing i with
  | nil => cases h
  | cons z rest ih =>
    cases i with
    | zero =>
      obtain rfl := Option.some.inj h
      simp only [List.set_cons_zero, List.flatMap_cons, List.count_append]
      omega
    | succ i =>
      have hrest := ih h
      simp only [List.set_cons_succ, List.flatMap_cons, List.count_append]
      omega

theorem count_flatMap_le {f g : α → List Nat} {n : Nat} (h : ∀ x, (f x).count n ≤ (g x).count n)
    (l : List α) : (l.flatMap f).count n ≤ (l.flatMap g).count n := by
  induction l with
  | nil => exact Nat.le_refl _
  | cons x rest ih =>
    rw [List.flatMap_cons, List.flatMap_cons, List.count_append, List.count_append]
    exact Nat.add_le_add (h x) ih

end Lists

namespace Retirer

/-- The engine whose shutdown a retirer waits for. -/
def underWay : Retirer → List Nat
  | closing engine _ _ _ => [engine]
  | _ => []

/-- The engines of which a retirer has seen that nobody else refers to them. -/
def taken : Retirer → List Nat
  | sorting _ idle _ _ => idle
  | holding taken _ _ => taken
  | closing engine taken _ _ => engine :: taken
  | _ => []

theorem count_underWay_le (r : Retirer) (engine : Nat) :
    r.underWay.count engine ≤ r.taken.count engine := by
  cases r with
  | closing other rest left signalled =>
    exact List.Sublist.count_le engine (List.sublist_append_left [other] rest)
  | _ => exact Nat.zero_le _

theorem count_taken_le (r : Retirer) (engine : Nat) :
    r.taken.count engine ≤ r.references.count engine := by
  cases r with
  | sorting unread idle busy signalled =>
    simp only [taken, references, List.count_append]
    omega
  | _ => exact Nat.le_refl _

@[simp] theorem references_signal (r : Retirer) : r.signal.references = r.references := by
  cases r <;> rfl

@[simp] theorem underWay_signal (r : Retirer) : r.signal.underWay = r.underWay := by
  cases r <;> rfl

@[simp] theorem taken_signal (r : Retirer) : r.signal.taken = r.taken := by
  cases r <;> rfl

@[simp] theorem locks_signal (r : Retirer) : r.signal.locks = r.locks := by
  cases r <;> rfl

end Retirer

namespace Succession

/-! ### What an action does -/

/-- What can happen to the engines, and what it leads to. -/
inductive Happens (s : Succession) : SuccessionAction → Succession → Prop
  | lease : Happens s .lease { s with leases := s.leases ++ [.held s.installed] }
  | decide (lease engine : Nat) : s.leases[lease]? = some (.held engine) → Happens s (.decide lease) s
  | drop (lease engine : Nat) : s.leases[lease]? = some (.held engine) →
      Happens s (.drop lease) (s.setLease lease .dropped)
  | notify (lease : Nat) : s.leases[lease]? = some .dropped →
      Happens s (.notify lease)
        { s.setLease lease .over with retirers := s.retirers.map Retirer.signal }
  | install : Happens s .install
      { s with installed := s.installed + 1, displaced := s.displaced ++ [s.installed] }
  | push (engine : Nat) : engine ∈ s.displaced → s.isLocked = false →
      Happens s (.push engine)
        { s with displaced := s.displaced.erase engine, retiring := s.retiring ++ [engine] }
  | call : Happens s .call { s with retirers := s.retirers ++ [.called] }
  | register (retirer : Nat) : s.retirers[retirer]? = some .called →
      Happens s (.register retirer) (s.setRetirer retirer (.registered false))
  | look (retirer : Nat) (signalled : Bool) : s.retirers[retirer]? = some (.registered signalled) →
      s.isLocked = false →
      Happens s (.look retirer)
        { s.setRetirer retirer (.sorting s.retiring [] [] signalled) with retiring := [] }
  | countIdle (retirer engine : Nat) (unread idle busy : List Nat) (signalled : Bool) :
      s.retirers[retirer]? = some (.sorting (engine :: unread) idle busy signalled) →
      s.references engine = 1 →
      Happens s (.count retirer)
        (s.setRetirer retirer (.sorting unread (idle ++ [engine]) busy signalled))
  | countBusy (retirer engine : Nat) (unread idle busy : List Nat) (signalled : Bool) :
      s.retirers[retirer]? = some (.sorting (engine :: unread) idle busy signalled) →
      s.references engine ≠ 1 →
      Happens s (.count retirer)
        (s.setRetirer retirer (.sorting unread idle (busy ++ [engine]) signalled))
  | putBack (retirer : Nat) (idle busy : List Nat) (signalled : Bool) :
      s.retirers[retirer]? = some (.sorting [] idle busy signalled) →
      Happens s (.putBack retirer)
        { s.setRetirer retirer (.holding idle busy signalled) with retiring := busy }
  | begin (retirer engine : Nat) (rest left : List Nat) (signalled : Bool) :
      s.retirers[retirer]? = some (.holding (engine :: rest) left signalled) →
      Happens s (.begin retirer)
        { s.setRetirer retirer (.closing engine rest left signalled) with begun := s.begun ++ [engine] }
  | finish (retirer engine : Nat) (rest left : List Nat) (signalled : Bool) :
      s.retirers[retirer]? = some (.closing engine rest left signalled) →
      Happens s (.finish retirer)
        { s.setRetirer retirer (.holding rest left signalled) with ended := s.ended ++ [engine] }
  | leave (retirer : Nat) (signalled : Bool) :
      s.retirers[retirer]? = some (.holding [] [] signalled) →
      Happens s (.conclude retirer) (s.setRetirer retirer .done)
  | park (retirer engine : Nat) (left : List Nat) (signalled : Bool) :
      s.retirers[retirer]? = some (.holding [] (engine :: left) signalled) →
      Happens s (.conclude retirer) (s.setRetirer retirer (.parked (engine :: left) signalled))
  | wake (retirer : Nat) (left : List Nat) : s.retirers[retirer]? = some (.parked left true) →
      Happens s (.wake retirer) (s.setRetirer retirer .called)

variable {s t : Succession} {a : SuccessionAction}

/-- Every step is one of the cases. -/
theorem happens_of_step (h : s.step a = some t) : Happens s a t := by
  cases a with
  | lease =>
    cases h
    exact .lease
  | install =>
    cases h
    exact .install
  | call =>
    cases h
    exact .call
  | decide lease =>
    simp only [step] at h
    split at h
    · cases h
      exact .decide lease _ ‹_›
    · cases h
  | drop lease =>
    simp only [step] at h
    split at h
    · cases h
      exact .drop lease _ ‹_›
    · cases h
  | notify lease =>
    simp only [step] at h
    split at h
    · cases h
      exact .notify lease ‹_›
    · cases h
  | push engine =>
    simp only [step] at h
    split at h
    · rename_i hpush
      cases h
      exact .push engine hpush.1 hpush.2
    · cases h
  | register retirer =>
    simp only [step] at h
    split at h
    · cases h
      exact .register retirer ‹_›
    · cases h
  | look retirer =>
    simp only [step] at h
    split at h
    · split at h
      · cases h
      · rename_i hfree
        cases h
        exact .look retirer _ ‹_› (Bool.not_eq_true _ ▸ hfree)
    · cases h
  | count retirer =>
    simp only [step] at h
    split at h
    · cases h
      split
      · rename_i hidle
        exact .countIdle retirer _ _ _ _ _ ‹_› (by simpa [isIdle] using hidle)
      · rename_i hbusy
        exact .countBusy retirer _ _ _ _ _ ‹_› (by simpa [isIdle] using hbusy)
    · cases h
  | putBack retirer =>
    simp only [step] at h
    split at h
    · cases h
      exact .putBack retirer _ _ _ ‹_›
    · cases h
  | begin retirer =>
    simp only [step] at h
    split at h
    · cases h
      exact .begin retirer _ _ _ _ ‹_›
    · cases h
  | finish retirer =>
    simp only [step] at h
    split at h
    · cases h
      exact .finish retirer _ _ _ _ ‹_›
    · cases h
  | conclude retirer =>
    simp only [step] at h
    split at h
    · rename_i left signalled hr
      cases h
      cases left with
      | nil => exact .leave retirer signalled hr
      | cons engine left => exact .park retirer engine left signalled hr
    · cases h
  | wake retirer =>
    simp only [step] at h
    split at h
    · cases h
      exact .wake retirer _ ‹_›
    · cases h

/-! ### Where every engine is -/

/-- What always holds of the engines and of those who refer to them. -/
structure Sound (s : Succession) : Prop where
  /-- Each replaced engine is in one place, and no other engine is in any. -/
  placed : ∀ e, s.displaced.count e + s.retiring.count e +
      (s.retirers.flatMap Retirer.references).count e + s.ended.count e =
    if e < s.installed then 1 else 0
  /-- A shutdown that was begun is under way or has ended. -/
  begun : ∀ e, s.begun.count e =
    (s.retirers.flatMap Retirer.underWay).count e + s.ended.count e
  /-- No engine is leased that was found idle. -/
  leased : ∀ e, .held e ∈ s.leases → e ≤ s.installed ∧
    (s.retirers.flatMap Retirer.taken).count e = 0 ∧ s.ended.count e = 0
  /-- One retirer at a time holds the lock of the list, and the list is empty then. -/
  one_lock : s.retirers.countP Retirer.locks ≤ 1
  emptied : 0 < s.retirers.countP Retirer.locks → s.retiring = []

theorem isLocked_iff : s.isLocked = true ↔ 0 < s.retirers.countP Retirer.locks := by
  rw [isLocked, List.any_eq_true, List.countP_pos_iff]

theorem isLocked_eq_false_iff : s.isLocked = false ↔ s.retirers.countP Retirer.locks = 0 := by
  rw [← Bool.not_eq_true, isLocked_iff, Nat.not_lt, Nat.le_zero]

theorem sound_start : Sound {} where
  placed _ := rfl
  begun _ := rfl
  leased _ h := absurd h List.not_mem_nil
  one_lock := Nat.zero_le 1
  emptied _ := rfl

namespace Sound

/-- What happens to leases does not matter as long as no engine is leased that was not. -/
theorem of_leases (h : s.Sound) {leases : List Lease}
    (hleases : ∀ e, .held e ∈ leases → .held e ∈ s.leases) : Sound { s with leases := leases } where
  placed := h.placed
  begun := h.begun
  leased e he := h.leased e (hleases e he)
  one_lock := h.one_lock
  emptied := h.emptied

theorem lease (h : s.Sound) : Sound { s with leases := s.leases ++ [.held s.installed] } where
  placed := h.placed
  begun := h.begun
  leased e he := by
    rcases List.mem_append.mp he with hold | hnew
    · exact h.leased e hold
    · obtain rfl : e = s.installed := by simpa using hnew
      -- The installed engine is in no place where replaced engines are.
      have hplaced := h.placed s.installed
      have htaken := count_flatMap_le (fun r => Retirer.count_taken_le r s.installed) s.retirers
      rw [if_neg (Nat.lt_irrefl _)] at hplaced
      dsimp only
      exact ⟨Nat.le_refl _, by omega, by omega⟩
  one_lock := h.one_lock
  emptied := h.emptied

theorem signal (h : s.Sound) : Sound { s with retirers := s.retirers.map Retirer.signal } where
  placed e := by simpa [List.flatMap_map] using h.placed e
  begun e := by simpa [List.flatMap_map] using h.begun e
  leased e he := by simpa [List.flatMap_map] using h.leased e he
  one_lock := by simpa [List.countP_map, Function.comp_def] using h.one_lock
  emptied := by simpa [List.countP_map, Function.comp_def] using h.emptied

theorem install (h : s.Sound) :
    Sound { s with installed := s.installed + 1, displaced := s.displaced ++ [s.installed] } where
  placed e := by
    have hplaced := h.placed e
    rw [List.count_append, List.count_singleton]
    dsimp only
    by_cases he : e = s.installed
    · subst he
      simp at hplaced ⊢
      omega
    · have hne : (s.installed == e) = false := by simpa using Ne.symm he
      have hlt : e < s.installed + 1 ↔ e < s.installed := by omega
      simp only [hne, hlt]
      simpa using hplaced
  begun := h.begun
  leased e he := by
    obtain ⟨hle, hrest⟩ := h.leased e he
    exact ⟨Nat.le_succ_of_le hle, hrest⟩
  one_lock := h.one_lock
  emptied := h.emptied

theorem push (h : s.Sound) {engine : Nat} (hmem : engine ∈ s.displaced) (hfree : s.isLocked = false) :
    Sound { s with displaced := s.displaced.erase engine, retiring := s.retiring ++ [engine] } where
  placed e := by
    have hplaced := h.placed e
    have hpos := List.count_pos_iff.mpr hmem
    dsimp only
    rw [List.count_erase, List.count_append, List.count_singleton, ← hplaced]
    by_cases he : engine = e
    · subst he
      simp only [beq_self_eq_true, if_true]
      omega
    · simp only [beq_eq_false_iff_ne.mpr he, Bool.false_eq_true, if_false]
      omega
  begun := h.begun
  leased := h.leased
  one_lock := h.one_lock
  emptied hpos := absurd hpos (by rw [isLocked_eq_false_iff.mp hfree]; exact Nat.lt_irrefl 0)

theorem call (h : s.Sound) : Sound { s with retirers := s.retirers ++ [.called] } where
  placed e := by simpa [Retirer.references] using h.placed e
  begun e := by simpa [Retirer.underWay] using h.begun e
  leased e he := by simpa [Retirer.taken] using h.leased e he
  one_lock := by simpa [Retirer.locks] using h.one_lock
  emptied := by simpa [Retirer.locks] using h.emptied

/-- One retirer goes on.  An engine that comes into its hands or leaves them is on the list before or
after, or was shut down; only an engine that is not leased is found idle. -/
theorem setRetirer (h : s.Sound) {i : Nat} {r r' : Retirer} (hr : s.retirers[i]? = some r)
    (retiring begun ended : List Nat)
    (hplaced : ∀ e, retiring.count e + r'.references.count e + ended.count e =
      s.retiring.count e + r.references.count e + s.ended.count e)
    (hbegun : ∀ e, begun.count e + r.underWay.count e + s.ended.count e =
      s.begun.count e + r'.underWay.count e + ended.count e)
    (hleased : ∀ e, .held e ∈ s.leases →
      r'.taken.count e + ended.count e ≤ r.taken.count e + s.ended.count e)
    (hlock : r'.locks = true → retiring = [] ∧ (r.locks = true ∨ s.isLocked = false))
    (hlist : r.locks = false → r'.locks = false → retiring = s.retiring) :
    Sound { s.setRetirer i r' with retiring := retiring, begun := begun, ended := ended } where
  placed e := by
    have hset := count_flatMap_set_add Retirer.references r' hr e
    have hnew := hplaced e
    refine Eq.trans ?_ (h.placed e)
    dsimp only [Succession.setRetirer]
    omega
  begun e := by
    have hset := count_flatMap_set_add Retirer.underWay r' hr e
    have hold := h.begun e
    have hnew := hbegun e
    dsimp only [Succession.setRetirer]
    omega
  leased e he := by
    have hset := count_flatMap_set_add Retirer.taken r' hr e
    obtain ⟨hle, htaken, hended⟩ := h.leased e he
    have hnew := hleased e he
    dsimp only [Succession.setRetirer]
    exact ⟨hle, by omega, by omega⟩
  one_lock := by
    have hset := countP_set_add Retirer.locks r' hr
    have hold := h.one_lock
    dsimp only [Succession.setRetirer]
    cases hr' : r'.locks with
    | false =>
      rw [hr', Bool.toNat_false] at hset
      omega
    | true =>
      -- Whoever holds the lock has held it before, or took it when nobody did.
      rw [hr', Bool.toNat_true] at hset
      rcases (hlock hr').2 with hlocks | hfree
      · rw [hlocks, Bool.toNat_true] at hset
        omega
      · rw [isLocked_eq_false_iff] at hfree
        omega
  emptied hpos := by
    have hset := countP_set_add Retirer.locks r' hr
    have hold := h.one_lock
    dsimp only [Succession.setRetirer] at hpos ⊢
    cases hr' : r'.locks with
    | true => exact (hlock hr').1
    | false =>
      rw [hr', Bool.toNat_false] at hset
      cases hlocks : r.locks with
      | false =>
        rw [hlocks, Bool.toNat_false] at hset
        rw [hlist hlocks hr']
        exact h.emptied (by omega)
      | true =>
        -- Nobody else holds the lock that is given back.
        rw [hlocks, Bool.toNat_true] at hset
        omega

/-- One retirer goes on without the lock of the list. -/
theorem setRetirer_unlocked (h : s.Sound) {i : Nat} {r r' : Retirer} (hr : s.retirers[i]? = some r)
    (hfree : r'.locks = false) (begun ended : List Nat)
    (hplaced : ∀ e, r'.references.count e + ended.count e = r.references.count e + s.ended.count e)
    (hbegun : ∀ e, begun.count e + r.underWay.count e + s.ended.count e =
      s.begun.count e + r'.underWay.count e + ended.count e)
    (hleased : ∀ e, .held e ∈ s.leases →
      r'.taken.count e + ended.count e ≤ r.taken.count e + s.ended.count e) :
    Sound { s.setRetirer i r' with begun := begun, ended := ended } := by
  refine h.setRetirer hr s.retiring begun ended (fun e => ?_) hbegun hleased (fun hlock => ?_)
    (fun _ _ => rfl)
  · have hkept := hplaced e
    omega
  · rw [hfree] at hlock
    cases hlock

theorem retiring_eq_nil (h : s.Sound) {i : Nat} {r : Retirer} (hr : s.retirers[i]? = some r)
    (hlocks : r.locks = true) : s.retiring = [] :=
  h.emptied (List.countP_pos_iff.mpr ⟨r, List.mem_of_getElem? hr, hlocks⟩)

end Sound

/-- An engine that is leased is not idle. -/
theorem references_ne_one {i engine : Nat} {r : Retirer} (hr : s.retirers[i]? = some r)
    (hengine : engine ∈ r.references) (hlease : .held engine ∈ s.leases) : s.references engine ≠ 1 := by
  have hheld := List.count_pos_iff.mpr hlease
  have hrefers : 0 < (s.retirers.flatMap Retirer.references).count engine :=
    List.count_pos_iff.mpr (List.mem_flatMap.mpr ⟨r, List.mem_of_getElem? hr, hengine⟩)
  unfold references
  omega

/-- Every action keeps each replaced engine in one place. -/
theorem Happens.sound (ha : Happens s a t) (h : s.Sound) : t.Sound := by
  cases ha with
  | lease => exact h.lease
  | decide => exact h
  | drop lease engine hlease =>
    refine h.of_leases fun e he => ?_
    rcases List.mem_or_eq_of_mem_set he with hold | hnew
    · exact hold
    · cases hnew
  | notify lease hlease =>
    refine h.signal.of_leases fun e he => ?_
    rcases List.mem_or_eq_of_mem_set he with hold | hnew
    · exact hold
    · cases hnew
  | install => exact h.install
  | push engine hmem hfree => exact h.push hmem hfree
  | call => exact h.call
  | register retirer hr =>
    exact h.setRetirer_unlocked hr rfl s.begun s.ended (fun _ => rfl) (fun _ => rfl)
      (fun _ _ => Nat.le_refl _)
  | look retirer signalled hr hfree =>
    refine h.setRetirer hr [] s.begun s.ended (fun e => ?_) (fun _ => rfl) (fun _ _ => Nat.le_refl _)
      (fun _ => ⟨rfl, .inr hfree⟩) (fun _ hunlocked => by cases hunlocked)
    simp [Retirer.references]
  | countIdle retirer engine unread idle busy signalled hr hidle =>
    have hempty := h.retiring_eq_nil hr rfl
    refine h.setRetirer hr s.retiring s.begun s.ended (fun e => ?_) (fun _ => rfl) (fun e he => ?_)
      (fun _ => ⟨hempty, .inl rfl⟩) (fun _ _ => rfl)
    · simp only [Retirer.references, List.count_append, List.count_cons, List.count_nil]
      omega
    · -- The one reference that was counted is the retirer's own, not that of a lease.
      have hne : engine ≠ e := by
        rintro rfl
        exact references_ne_one hr (by simp [Retirer.references]) he hidle
      simp [Retirer.taken, hne]
  | countBusy retirer engine unread idle busy signalled hr hbusy =>
    have hempty := h.retiring_eq_nil hr rfl
    refine h.setRetirer hr s.retiring s.begun s.ended (fun e => ?_) (fun _ => rfl)
      (fun _ _ => Nat.le_refl _) (fun _ => ⟨hempty, .inl rfl⟩) (fun _ _ => rfl)
    simp only [Retirer.references, List.count_append, List.count_cons, List.count_nil]
    omega
  | putBack retirer idle busy signalled hr =>
    have hempty := h.retiring_eq_nil hr rfl
    refine h.setRetirer hr busy s.begun s.ended (fun e => ?_) (fun _ => rfl)
      (fun _ _ => Nat.le_refl _) (fun hlock => by cases hlock) (fun hunlocked => by cases hunlocked)
    simp only [Retirer.references, hempty, List.count_append, List.count_nil]
    omega
  | begin retirer engine rest left signalled hr =>
    refine h.setRetirer_unlocked hr rfl (s.begun ++ [engine]) s.ended (fun _ => rfl) (fun e => ?_)
      (fun _ _ => Nat.le_refl _)
    simp [Retirer.underWay]
  | finish retirer engine rest left signalled hr =>
    refine h.setRetirer_unlocked hr rfl s.begun (s.ended ++ [engine]) (fun e => ?_) (fun e => ?_)
      (fun e _ => ?_)
    · simp only [Retirer.references, List.count_append, List.count_cons, List.count_nil]
      omega
    · simp only [Retirer.underWay, List.count_append, List.count_cons, List.count_nil]
      omega
    · simp only [Retirer.taken, List.count_append, List.count_cons, List.count_nil]
      omega
  | leave retirer signalled hr =>
    exact h.setRetirer_unlocked hr rfl s.begun s.ended (fun _ => rfl) (fun _ => rfl)
      (fun _ _ => Nat.le_refl _)
  | park retirer engine left signalled hr =>
    exact h.setRetirer_unlocked hr rfl s.begun s.ended (fun _ => rfl) (fun _ => rfl)
      (fun _ _ => Nat.le_refl _)
  | wake retirer left hr =>
    exact h.setRetirer_unlocked hr rfl s.begun s.ended (fun _ => rfl) (fun _ => rfl)
      (fun _ _ => Nat.le_refl _)

theorem Reachable.sound (h : s.Reachable) : s.Sound := by
  induction h with
  | start => exact sound_start
  | step a _ hstep ih => exact (happens_of_step hstep).sound ih

/-! ### Shutdowns -/

namespace Sound

theorem count_begun_le (h : s.Sound) (engine : Nat) :
    s.begun.count engine ≤ if engine < s.installed then 1 else 0 := by
  have hplaced := h.placed engine
  have hbegun := h.begun engine
  have hway := count_flatMap_le
    (fun r => Nat.le_trans (Retirer.count_underWay_le r engine) (Retirer.count_taken_le r engine))
    s.retirers
  omega

theorem nodup_begun (h : s.Sound) : s.begun.Nodup := by
  refine List.nodup_iff_count_le_one.mpr fun engine => Nat.le_trans (h.count_begun_le engine) ?_
  split <;> omega

theorem mem_begun (h : s.Sound) {i engine : Nat} {rest left : List Nat} {signalled : Bool}
    (hr : s.retirers[i]? = some (.closing engine rest left signalled)) : engine ∈ s.begun := by
  have hway : 0 < (s.retirers.flatMap Retirer.underWay).count engine :=
    List.count_pos_iff.mpr
      (List.mem_flatMap.mpr ⟨_, List.mem_of_getElem? hr, List.mem_singleton_self engine⟩)
  have hcount := h.begun engine
  exact List.count_pos_iff.mp (by omega)

/-- Only replaced engines are shut down. -/
theorem lt_installed (h : s.Sound) {engine : Nat} (hbegun : engine ∈ s.begun) :
    engine < s.installed := by
  by_contra hge
  have hcount := h.count_begun_le engine
  rw [if_neg hge, Nat.le_zero] at hcount
  exact List.count_eq_zero.mp hcount hbegun

theorem not_leased (h : s.Sound) {engine : Nat} (hbegun : engine ∈ s.begun) :
    .held engine ∉ s.leases := by
  intro hlease
  obtain ⟨-, htaken, hended⟩ := h.leased engine hlease
  have hcount := h.begun engine
  have hway := count_flatMap_le (fun r => Retirer.count_underWay_le r engine) s.retirers
  have hpos := List.count_pos_iff.mpr hbegun
  omega

end Sound

end Succession
end MailPolicy
