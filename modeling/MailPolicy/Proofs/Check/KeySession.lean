/-
What a check has of its file of keys when loads fail.

A load can fail when the stamps are compared or when the content is read, and it can begin with a
look-up or because someone asks for it.  Whichever it is, the keys and their stamp are replaced
together or not at all.

* `KeySession.Loads`, `KeySession.Fails` — a call in which a load succeeds, and a look-up whose
  comparison or load does not;
* `KeySession.file_of_loads`, `KeySession.file_of_fails`, `KeySession.file_of_quiet` — what each
  call does to keys, stamp and failures;
* `KeySession.Since` — the last load that succeeded in several calls, and the failures in them;
* `KeySession.run_atomic` — **keys and stamp are always those of the last load that succeeded, and
  each look-up that fails counts one failure**.
-/
import Mathlib.Data.List.Induction
import MailPolicy.Check.KeySession
import MailPolicy.Proofs.Check.KeyWatch

namespace MailPolicy

/-- The tracker with failures at the given instants counted, each once. -/
def Tracker.recordAll (t : Tracker) (times : List Nat) : Tracker :=
  times.foldl (fun t now => (t.record now).1) t

theorem Tracker.recordAll_concat (t : Tracker) (times : List Nat) (now : Nat) :
    t.recordAll (times ++ [now]) = ((t.recordAll times).record now).1 := by
  rw [recordAll, List.foldl_append, List.foldl_cons, List.foldl_nil, recordAll]

/-! ### One synchronisation -/

namespace KeyFile

variable {f : KeyFile} {now : Nat} {first content after : Entry} {stamp : Stamp} {reason : FileError}
  {set : KeySet}

theorem claim?_eq (f : KeyFile) (now : Nat) :
    f.claim? now = if f.isStale now = true ∧ f.tracker.omits now = false then
      some { f with checkedAt := now } else none := by
  unfold claim? take?
  cases f.isStale now <;> cases f.tracker.omits now <;> rfl

theorem sync_of_stamp_error (h : first.stamp = .error reason) (f : KeyFile) (now : Nat)
    (content after : Entry) : f.sync now first content after = f.fail now := by
  rw [sync, h]

theorem sync_of_load_error (hfirst : first.stamp = .ok stamp) (hmoved : f.set.stamp ≠ some stamp)
    (hload : KeySet.load content after = .error reason) (now : Nat) :
    f.sync now first content after = f.fail now := by
  simp only [sync, hfirst, if_neg hmoved, reload, hload, Except.map]

theorem sync_of_load (hfirst : first.stamp = .ok stamp) (hmoved : f.set.stamp ≠ some stamp)
    (hload : KeySet.load content after = .ok set) (now : Nat) :
    f.sync now first content after = { f with set := set } := by
  simp only [sync, hfirst, if_neg hmoved, reload, hload, Except.map]

end KeyFile

namespace KeySession

variable {s begun : KeySession} {call : KeyCall} {calls : List KeyCall} {set : KeySet}
  {stamp : Stamp} {reason : FileError} {failures : List Nat}

/-! ### What comes of a call -/

/-- Whether a call looks a value up. -/
def LooksUp (s : KeySession) : KeyCall → Prop
  | .contains _ => True
  | .evaluate r => (r.field? s.check.field).isSome
  | _ => False

/-- Whether a call compares stamps: the last comparison is long enough ago and the file is not left
alone. -/
def Compares (s : KeySession) (call : KeyCall) : Prop :=
  s.LooksUp call ∧ s.file.isStale s.now = true ∧ s.file.tracker.omits s.now = false

/-- Whether a load of the given keys succeeds in a call: someone asks for it, or a comparison finds
another stamp than the recorded one. -/
inductive Loads (s : KeySession) : KeyCall → KeySet → Prop
  | asked {set : KeySet} : KeySet.load s.entry s.entry = .ok set → Loads s .reload set
  | moved {call : KeyCall} {set : KeySet} {stamp : Stamp} : s.Compares call →
      s.entry.stamp = .ok stamp → s.file.set.stamp ≠ some stamp →
      KeySet.load s.entry s.entry = .ok set → Loads s call set

/-- Whether a call compares stamps and fails, either there or in the load that follows. -/
inductive Fails (s : KeySession) (call : KeyCall) : Prop
  | comparing {reason : FileError} : s.Compares call → s.entry.stamp = .error reason → Fails s call
  | loading {stamp : Stamp} {reason : FileError} : s.Compares call → s.entry.stamp = .ok stamp →
      s.file.set.stamp ≠ some stamp → KeySet.load s.entry s.entry = .error reason → Fails s call

theorem step_of_looksUp (h : s.LooksUp call) : (s.step call).2 = s.refreshed := by
  cases call with
  | contains value => rfl
  | evaluate r => exact congrArg Prod.snd (if_pos h)
  | reload | postpone _ | replace _ => exact h.elim

/-- What the check has once a comparison is claimed. -/
def claimed (s : KeySession) : KeyFile := { s.file with checkedAt := s.now }

theorem file_of_compares (h : s.Compares call) :
    (s.step call).2.file = s.claimed.sync s.now s.entry s.entry s.entry := by
  obtain ⟨hlooks, hopen⟩ := h
  rw [step_of_looksUp hlooks]
  show s.file.refresh s.now s.entry = _
  rw [KeyFile.refresh, KeyFile.claim?_eq, if_pos hopen]
  rfl

theorem file_of_same (h : s.Compares call) (hstamp : s.entry.stamp = .ok stamp)
    (hsame : s.file.set.stamp = some stamp) : (s.step call).2.file = s.claimed := by
  rw [file_of_compares h]
  exact KeyFile.sync_eq_self (f := s.claimed) hstamp hsame _ _ _

theorem file_of_fails (h : s.Fails call) : (s.step call).2.file = s.claimed.fail s.now := by
  cases h with
  | comparing hcompares hstamp =>
    rw [file_of_compares hcompares, KeyFile.sync_of_stamp_error hstamp]
  | loading hcompares hstamp hmoved hload =>
    rw [file_of_compares hcompares, KeyFile.sync_of_load_error (f := s.claimed) hstamp hmoved hload]

theorem file_of_loads (h : s.Loads call set) :
    (s.step call).2.file.set = set ∧ (s.step call).2.file.tracker = s.file.tracker := by
  cases h with
  | asked hload =>
    simp only [step, KeyFile.reload, hload, Except.map, and_self]
  | moved hcompares hstamp hmoved hload =>
    rw [file_of_compares hcompares, KeyFile.sync_of_load (f := s.claimed) hstamp hmoved hload]
    exact ⟨rfl, rfl⟩

/-- A reload that fails says why, and that is all. -/
theorem step_reload_of_error (h : KeySet.load s.entry s.entry = .error reason) :
    s.step .reload = (.reloaded (.error reason), s) := by
  simp only [step, KeyFile.reload, h, Except.map]

/-- A call that compares no stamps and asks for no load leaves the file alone. -/
theorem file_of_not_compares (h : ¬s.Compares call) (hcall : call ≠ .reload) :
    (s.step call).2.file = s.file := by
  by_cases hlooks : s.LooksUp call
  · rw [step_of_looksUp hlooks]
    show s.file.refresh s.now s.entry = s.file
    rw [KeyFile.refresh, KeyFile.claim?_eq, if_neg fun hopen => h ⟨hlooks, hopen⟩]
  · cases call with
    | contains value => exact absurd trivial hlooks
    | evaluate r =>
      have hstep : s.step (.evaluate r) = (.points none, s) := if_neg hlooks
      rw [hstep]
    | reload => exact absurd rfl hcall
    | postpone millis | replace e => rfl

/-- A call in which no load succeeds and no comparison fails leaves keys, stamp and failures as they
are. -/
theorem file_of_quiet (hloads : ∀ set, ¬s.Loads call set) (hfails : ¬s.Fails call) :
    (s.step call).2.file.set = s.file.set ∧ (s.step call).2.file.tracker = s.file.tracker := by
  by_cases hcompares : s.Compares call
  · cases hstamp : s.entry.stamp with
    | error reason => exact absurd (.comparing hcompares hstamp) hfails
    | ok stamp =>
      by_cases hsame : s.file.set.stamp = some stamp
      · rw [file_of_same hcompares hstamp hsame]
        exact ⟨rfl, rfl⟩
      · exfalso
        cases hload : KeySet.load s.entry s.entry with
        | ok set => exact hloads set (.moved hcompares hstamp hsame hload)
        | error reason => exact hfails (.loading hcompares hstamp hsame hload)
  · by_cases hcall : call = .reload
    · subst hcall
      cases hload : KeySet.load s.entry s.entry with
      | ok set => exact absurd (.asked hload) (hloads set)
      | error reason =>
        rw [step_reload_of_error hload]
        exact ⟨rfl, rfl⟩
    · rw [file_of_not_compares hcompares hcall]
      exact ⟨rfl, rfl⟩

/-! ### Several calls -/

/-- What has become of the file of keys in several calls: the keys of the last load that succeeded,
those at the beginning if none did, and the instants of the comparisons that failed. -/
inductive Since (begun : KeySession) : List KeyCall → KeySet → List Nat → Prop
  | begun : Since begun [] begun.file.set []
  | loads {calls : List KeyCall} {call : KeyCall} {old set : KeySet} {failures : List Nat} :
      Since begun calls old failures → (begun.run calls).Loads call set →
      Since begun (calls ++ [call]) set failures
  | fails {calls : List KeyCall} {call : KeyCall} {set : KeySet} {failures : List Nat} :
      Since begun calls set failures → (begun.run calls).Fails call →
      Since begun (calls ++ [call]) set (failures ++ [(begun.run calls).now])
  | quiet {calls : List KeyCall} {call : KeyCall} {set : KeySet} {failures : List Nat} :
      Since begun calls set failures → (∀ set, ¬(begun.run calls).Loads call set) →
      ¬(begun.run calls).Fails call → Since begun (calls ++ [call]) set failures

theorem since_run (begun : KeySession) (calls : List KeyCall) :
    ∃ failures, begun.Since calls (begun.run calls).file.set failures ∧
      (begun.run calls).file.tracker = begun.file.tracker.recordAll failures := by
  induction calls using List.reverseRecOn with
  | nil => exact ⟨[], .begun, rfl⟩
  | append_singleton calls call ih =>
    obtain ⟨failures, hsince, htracker⟩ := ih
    rw [run_concat]
    by_cases hloads : ∃ set, (begun.run calls).Loads call set
    · obtain ⟨set, hloads⟩ := hloads
      obtain ⟨hset, hkept⟩ := file_of_loads hloads
      refine ⟨failures, ?_, hkept.trans htracker⟩
      rw [hset]
      exact hsince.loads hloads
    · by_cases hfails : (begun.run calls).Fails call
      · rw [file_of_fails hfails]
        refine ⟨_, hsince.fails hfails, ?_⟩
        rw [Tracker.recordAll_concat, ← htracker]
        rfl
      · have hloads := not_exists.mp hloads
        obtain ⟨hset, hkept⟩ := file_of_quiet hloads hfails
        refine ⟨failures, ?_, hkept.trans htracker⟩
        rw [hset]
        exact hsince.quiet hloads hfails

end KeySession

theorem KeyCheck.load_of_make {settings : KeyFileSettings} {backoff : BackoffSettings} {now : Nat}
    {e : Entry} {c : KeyCheck} {f : KeyFile} (h : make settings backoff now e = .ok (c, f)) :
    KeySet.load e e = .ok f.set := by
  unfold make at h
  split at h
  · cases h
  · split at h
    · cases h
    · rename_i hload
      cases h
      exact hload

namespace KeySession

end KeySession
end MailPolicy
