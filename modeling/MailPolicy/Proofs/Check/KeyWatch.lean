/-
Whether a check keeps up with its file of keys.

A comparison of stamps skips the load when the recorded stamp is that of the file, and is right to
do so if the recorded keys are those of the file then.  A load reads the content first and asks for
the stamp afterwards.  When the file is replaced in between, the load records the keys of the old
content beside the stamp of the new one, and no comparison notices until the file is replaced once
more.  This is the only way: a stamp that is new to the path is none that a check has recorded.

* `KeyLoader.through_called`, `KeyLoader.through_reading` — a load on its own does what
  `KeyFile.sync` and `KeySet.load` say;
* `KeyWatch.Whole` — all keys that are recorded, or will be, are those of the file if the stamp is;
* `KeyWatch.Tears` — a replacement comes between the two accesses of a load;
* `KeyWatch.run_faithful_iff` — **the check has the keys of the file whenever it has its stamp and
  no load is in progress, exactly if no replacement tears a load**.
-/
import MailPolicy.Check.KeyWatch

namespace MailPolicy

/-- Whether keys are those of the text under a path. -/
def Entry.Holds (e : Entry) (keys : List Text) : Prop :=
  ∃ text, e.read = .ok text ∧ ∀ key, key ∈ keys ↔ key ∈ KeySet.parse text

/-- Whether keys that are recorded with the stamp of an entry are those of its text. -/
def KeySet.Fits (set : KeySet) (e : Entry) : Prop :=
  ∀ stamp, e.stamp = .ok stamp → set.stamp = some stamp → e.Holds set.keys

/-- A comparison that finds the recorded stamp changes nothing. -/
theorem KeyFile.sync_eq_self {f : KeyFile} {first : Entry} {stamp : Stamp}
    (hfirst : first.stamp = .ok stamp) (hset : f.set.stamp = some stamp) (now : Nat)
    (content after : Entry) : f.sync now first content after = f := by
  rw [sync, hfirst]
  exact if_pos hset

/-! ### One load -/

namespace LoadCause

variable {file : Option KeyFile} {cause : LoadCause}

/-- Whether a load makes the check. -/
def isFirst : LoadCause → Bool
  | first _ _ => true
  | _ => false

theorem set_of_fail {f : KeyFile} (h : cause.fail file = some f) :
    ∃ g, file = some g ∧ g.set = f.set := by
  cases cause with
  | first now tracker => exact ⟨f, h, rfl⟩
  | asked => exact ⟨f, h, rfl⟩
  | moved now =>
    obtain ⟨g, hg, rfl⟩ := Option.map_eq_some_iff.mp h
    exact ⟨g, hg, rfl⟩

theorem set_of_record {set : KeySet} {f : KeyFile} (h : cause.record file set = some f) :
    f.set = set := by
  cases cause with
  | first now tracker =>
    cases h
    rfl
  | moved now | asked =>
    obtain ⟨g, -, rfl⟩ := Option.map_eq_some_iff.mp h
    rfl

/-- Keys are recorded, either in the check there is or in the one that is made. -/
theorem exists_record (h : file = none → cause.isFirst = true) (set : KeySet) :
    ∃ f, cause.record file set = some f ∧ f.set = set := by
  cases cause with
  | first now tracker => exact ⟨_, rfl, rfl⟩
  | moved now | asked =>
    cases file with
    | none => cases h rfl
    | some f => exact ⟨_, rfl, rfl⟩

end LoadCause

namespace KeyLoader

variable {file : Option KeyFile} {e : Entry} {l : KeyLoader}

/-- A load that begins with the content, whatever it is for. -/
theorem through_reading (cause : LoadCause) (file : Option KeyFile) (content after last : Entry) :
    (reading cause).through file [content, after, last] =
      match KeySet.load content after with
      | .ok set => (cause.record file set, done)
      | .error _ => (cause.fail file, done) := by
  cases hread : content.read with
  | error reason => simp only [through, advance, KeySet.load, hread, Except.map]
  | ok text => simp only [through, advance, KeySet.load, hread, Except.map]

theorem through_called (f : KeyFile) (now : Nat) (begun first content after last : Entry) :
    (called now).through (some f) [begun, first, content, after, last] =
      (some (f.sync now first content after), done) := by
  have hbegun : (called now).through (some f) [begun, first, content, after, last] =
      (comparing now f.set.stamp).through (some f) [first, content, after, last] := rfl
  rw [hbegun, through, KeyFile.sync]
  cases hfirst : first.stamp with
  | error reason => simp only [advance, hfirst, through, Option.map_some]
  | ok stamp =>
    simp only [advance, hfirst]
    split
    · rfl
    · rw [through_reading, KeyFile.reload]
      cases KeySet.load content after with
      | error reason => rfl
      | ok set => rfl

/-- Whether a load is over or makes the check. -/
def isMaking : KeyLoader → Bool
  | reading cause | stamping cause _ | recording cause _ => cause.isFirst
  | done => true
  | _ => false

/-- The keys that a load will record if the entry under the path stays. -/
def set? (e : Entry) : KeyLoader → Option KeySet
  | stamping _ keys => some ⟨keys, e.stamp.toOption⟩
  | recording _ set => some set
  | _ => none

theorem isMaking_advance (h : l.isMaking = true) : (l.advance file e).2.isMaking = true := by
  cases l with
  | called now | comparing now known => cases h
  | reading cause =>
    unfold advance
    cases e.read with
    | error reason => rfl
    | ok text => exact h
  | stamping cause keys => exact h
  | recording cause set | done => rfl

theorem file_eq_none_of_advance (h : (l.advance file e).1 = none) : file = none := by
  cases file with
  | none => rfl
  | some f =>
    exfalso
    cases l with
    | called now | stamping cause keys | done => cases h
    | comparing now known =>
      unfold advance at h
      cases hstamp : e.stamp with
      | error reason | ok stamp =>
        rw [hstamp] at h
        cases h
    | reading cause =>
      unfold advance at h
      cases hread : e.read with
      | error reason =>
        rw [hread] at h
        cases cause <;> cases h
      | ok text =>
        rw [hread] at h
        cases h
    | recording cause set => cases cause <;> cases h

/-- An access brings no keys into play but those of the text that it reads. -/
theorem set_of_advance {set : KeySet}
    (h : (∃ f, (l.advance file e).1 = some f ∧ f.set = set) ∨ (l.advance file e).2.set? e = some set) :
    (∃ f, file = some f ∧ f.set = set) ∨ l.set? e = some set ∨
      ∃ text, e.read = .ok text ∧ set = ⟨KeySet.parse text, e.stamp.toOption⟩ := by
  cases l with
  | called now | done =>
    rcases h with h | h
    · exact .inl h
    · cases h
  | comparing now known =>
    unfold advance at h
    cases hstamp : e.stamp with
    | error reason =>
      simp only [hstamp] at h
      rcases h with ⟨f, hf, rfl⟩ | h
      · have hfail : (LoadCause.moved now).fail file = some f := hf
        exact .inl (LoadCause.set_of_fail hfail)
      · cases h
    | ok stamp =>
      simp only [hstamp] at h
      rcases h with h | h
      · exact .inl h
      · split at h <;> cases h
  | reading cause =>
    unfold advance at h
    cases hread : e.read with
    | error reason =>
      simp only [hread] at h
      rcases h with ⟨f, hf, rfl⟩ | h
      · exact .inl (LoadCause.set_of_fail hf)
      · cases h
    | ok text =>
      simp only [hread] at h
      rcases h with h | h
      · exact .inl h
      · exact .inr (.inr ⟨text, rfl, (Option.some.inj h).symm⟩)
  | stamping cause keys =>
    rcases h with h | h
    · exact .inl h
    · exact .inr (.inl h)
  | recording cause recorded =>
    rcases h with ⟨f, hf, rfl⟩ | h
    · exact .inr (.inl (congrArg some (LoadCause.set_of_record hf).symm))
    · cases h

def stepsLeft : KeyLoader → Nat
  | called _ => 5
  | comparing _ _ => 4
  | reading _ => 3
  | stamping _ _ => 2
  | recording _ _ => 1
  | done => 0

theorem stepsLeft_advance (file : Option KeyFile) (e : Entry) (h : l ≠ done) :
    (l.advance file e).2.stepsLeft < l.stepsLeft := by
  cases l with
  | called now | stamping cause keys | recording cause set => exact Nat.lt_succ_self _
  | comparing now known =>
    unfold advance
    cases e.stamp with
    | error reason => exact Nat.succ_pos 3
    | ok stamp =>
      dsimp only
      split
      · exact Nat.succ_pos 3
      · exact Nat.lt_succ_self 3
  | reading cause =>
    unfold advance
    cases e.read with
    | error reason => exact Nat.succ_pos 2
    | ok text => exact Nat.lt_succ_self 2
  | done => exact absurd rfl h

end KeyLoader

/-- Whether an action is one of a load in progress. -/
def WatchAction.isAdvance : WatchAction → Bool
  | advance _ => true
  | _ => false

namespace KeyWatch

variable {w v : KeyWatch} {a : WatchAction}

/-! ### Steps -/

/-- What can happen in a state `w`, and what it leads to. -/
inductive Happens (w : KeyWatch) : WatchAction → KeyWatch → Prop
  | replace (e : Entry) : (∀ stamp, e.stamp = .ok stamp → stamp ∉ w.stamps) →
      Happens w (.replace e) { w with entry := e, stamps := e.stamp.toOption.toList ++ w.stamps }
  | claim (now : Nat) (f : KeyFile) : w.file = some f →
      Happens w (.claim now)
        { w with file := some { f with checkedAt := now }, loaders := w.loaders ++ [.called now] }
  | ask : w.file ≠ none → Happens w .ask { w with loaders := w.loaders ++ [.reading .asked] }
  | advance (loader : Nat) (l : KeyLoader) : w.loaders[loader]? = some l → l ≠ .done →
      Happens w (.advance loader)
        { w with
          file := (l.advance w.file w.entry).1
          loaders := w.loaders.set loader (l.advance w.file w.entry).2 }

theorem happens_of_step (h : w.step a = some v) : Happens w a v := by
  cases a with
  | replace e =>
    obtain ⟨hfresh, hv⟩ := Option.ite_none_right_eq_some.mp h
    cases hv
    refine .replace e fun stamp hstamp => ?_
    rw [isFresh, hstamp] at hfresh
    exact of_decide_eq_true hfresh
  | claim now =>
    obtain ⟨g, hg, hv⟩ := Option.map_eq_some_iff.mp h
    obtain ⟨f, hf, htake⟩ := Option.bind_eq_some_iff.mp hg
    obtain ⟨-, heq⟩ := Option.ite_none_right_eq_some.mp htake
    cases heq
    cases hv
    exact .claim now f hf
  | ask =>
    obtain ⟨hmade, hv⟩ := Option.ite_none_right_eq_some.mp h
    cases hv
    refine .ask ?_
    rintro hnone
    rw [hnone] at hmade
    cases hmade
  | advance loader =>
    simp only [step] at h
    split at h
    · cases h
    · rename_i l hdone hl
      cases h
      exact .advance loader l hl fun heq => hdone (heq ▸ rfl)
    · cases h

theorem step_advance {loader : Nat} {l : KeyLoader} (hl : w.loaders[loader]? = some l)
    (hbusy : l ≠ .done) :
    w.step (.advance loader) = some { w with
      file := (l.advance w.file w.entry).1
      loaders := w.loaders.set loader (l.advance w.file w.entry).2 } := by
  rw [step, hl]
  cases l with
  | done => exact absurd rfl hbusy
  | _ => rfl

/-! ### Keys in play -/

/-- Whether keys are recorded, or will be if the entry under the path stays. -/
def InPlay (w : KeyWatch) (set : KeySet) : Prop :=
  (∃ f, w.file = some f ∧ f.set = set) ∨ ∃ l ∈ w.loaders, l.set? w.entry = some set

/-- Whether all stamps in play were under the path once, and nothing but its making goes on before
there is a check. -/
structure Kept (w : KeyWatch) : Prop where
  mem_stamps : ∀ stamp, w.entry.stamp = .ok stamp → stamp ∈ w.stamps
  mem_stamps_of_inPlay : ∀ set stamp, w.InPlay set → set.stamp = some stamp → stamp ∈ w.stamps
  isMaking : w.file = none → ∀ l ∈ w.loaders, l.isMaking = true

/-- Whether all keys in play are those of the file if they are recorded with its stamp. -/
def Whole (w : KeyWatch) : Prop := ∀ set, w.InPlay set → set.Fits w.entry

/-- Whether a replacement comes between the two accesses of a load and gives the file other keys. -/
def Tears (w : KeyWatch) : WatchAction → Prop
  | .replace e => ∃ cause keys stamp, KeyLoader.stamping cause keys ∈ w.loaders ∧
      e.stamp = .ok stamp ∧ ¬e.Holds keys
  | _ => False

/-- Whether the check has the keys of the file if it has its stamp. -/
def Faithful (w : KeyWatch) : Prop :=
  ∀ f stamp, w.file = some f → w.entry.stamp = .ok stamp → f.set.stamp = some stamp →
    w.entry.Holds f.set.keys

/-- Whether no load is in progress. -/
def IsResting (w : KeyWatch) : Prop := ∀ l ∈ w.loaders, l = .done

/-- Keys that come into play have the stamp of the file.  They are those of its text, or were read
before the file was replaced. -/
theorem Happens.inPlay (h : Happens w a v) {set : KeySet} (hset : v.InPlay set) :
    w.InPlay set ∨ set.stamp = v.entry.stamp.toOption ∧
      ((∃ text, v.entry.read = .ok text ∧ set.keys = KeySet.parse text) ∨
        ∃ cause, a = .replace v.entry ∧ KeyLoader.stamping cause set.keys ∈ w.loaders) := by
  cases h with
  | replace e _ =>
    rcases hset with hfile | ⟨l, hl, hlset⟩
    · exact .inl (.inl hfile)
    · cases l with
      | stamping cause keys =>
        obtain rfl := Option.some.inj hlset
        exact .inr ⟨rfl, .inr ⟨cause, rfl, hl⟩⟩
      | recording cause set => exact .inl (.inr ⟨_, hl, hlset⟩)
      | called _ | comparing _ _ | reading _ | done => cases hlset
  | claim now f hf =>
    left
    rcases hset with ⟨g, hg, rfl⟩ | ⟨l, hl, hlset⟩
    · cases hg
      exact .inl ⟨f, hf, rfl⟩
    · rcases List.mem_append.mp hl with hl | hl
      · exact .inr ⟨l, hl, hlset⟩
      · obtain rfl := List.mem_singleton.mp hl
        cases hlset
  | ask _ =>
    left
    rcases hset with hfile | ⟨l, hl, hlset⟩
    · exact .inl hfile
    · rcases List.mem_append.mp hl with hl | hl
      · exact .inr ⟨l, hl, hlset⟩
      · obtain rfl := List.mem_singleton.mp hl
        cases hlset
  | advance loader l hl _ =>
    have hmem := List.mem_of_getElem? hl
    -- Keys in play are those of another load, or those of this one and of the check.
    have hcases : w.InPlay set ∨ (∃ f, (l.advance w.file w.entry).1 = some f ∧ f.set = set) ∨
        (l.advance w.file w.entry).2.set? w.entry = some set := by
      rcases hset with hfile | ⟨l', hl', hlset⟩
      · exact .inr (.inl hfile)
      · rcases List.mem_or_eq_of_mem_set hl' with hother | rfl
        · exact .inl (.inr ⟨l', hother, hlset⟩)
        · exact .inr (.inr hlset)
    rcases hcases with hother | hthis
    · exact .inl hother
    · rcases KeyLoader.set_of_advance hthis with hfile | hload | ⟨text, hread, rfl⟩
      · exact .inl (.inl hfile)
      · exact .inl (.inr ⟨l, hmem, hload⟩)
      · exact .inr ⟨rfl, .inl ⟨text, hread, rfl⟩⟩

theorem eq_ok_of_toOption {e : Entry} {stamp : Stamp} (h : e.stamp.toOption = some stamp) :
    e.stamp = .ok stamp := by
  cases hentry : e.stamp with
  | error reason =>
    rw [hentry] at h
    cases h
  | ok other =>
    rw [hentry] at h
    exact congrArg Except.ok (Option.some.inj h)

theorem Happens.kept (h : Happens w a v) (hw : w.Kept) : v.Kept := by
  have hmem : ∀ stamp, v.entry.stamp = .ok stamp → stamp ∈ v.stamps := by
    intro stamp hstamp
    cases h with
    | replace e _ =>
      have he : e.stamp = .ok stamp := hstamp
      refine List.mem_append_left _ ?_
      rw [he]
      exact List.mem_singleton_self stamp
    | claim _ _ _ | ask _ | advance _ _ _ _ => exact hw.mem_stamps stamp hstamp
  refine ⟨hmem, fun set stamp hset hstamp => ?_, fun hnone l hl => ?_⟩
  · rcases h.inPlay hset with hold | ⟨hnew, -⟩
    · have hknown := hw.mem_stamps_of_inPlay set stamp hold hstamp
      cases h with
      | replace e _ => exact List.mem_append_right _ hknown
      | claim _ _ _ | ask _ | advance _ _ _ _ => exact hknown
    · exact hmem stamp (eq_ok_of_toOption (hnew ▸ hstamp))
  · cases h with
    | replace e _ => exact hw.isMaking hnone l hl
    | claim now f hf => cases hnone
    | ask hmade => exact absurd hnone hmade
    | advance loader l' hl' _ =>
      have hbefore := hw.isMaking (KeyLoader.file_eq_none_of_advance hnone)
      rcases List.mem_or_eq_of_mem_set hl with hother | rfl
      · exact hbefore l hother
      · exact KeyLoader.isMaking_advance (hbefore l' (List.mem_of_getElem? hl'))

/-- Whatever happens without tearing a load leaves the keys in play those of the file. -/
theorem Happens.whole (h : Happens w a v) (hkept : w.Kept) (hw : w.Whole) (ha : ¬w.Tears a) :
    v.Whole := by
  intro set hset stamp hstamp hrecorded
  rcases h.inPlay hset with hold | ⟨-, ⟨text, hread, hkeys⟩ | ⟨cause, rfl, hl⟩⟩
  · cases h with
    | replace e hfresh =>
      -- The new stamp is none that was there before.
      exact absurd (hkept.mem_stamps_of_inPlay set stamp hold hrecorded) (hfresh stamp hstamp)
    | claim _ _ _ | ask _ | advance _ _ _ _ => exact hw set hold stamp hstamp hrecorded
  · refine ⟨text, hread, fun key => ?_⟩
    rw [hkeys]
  · by_cases hholds : v.entry.Holds set.keys
    · exact hholds
    · exact absurd ⟨cause, set.keys, stamp, hl, hstamp, hholds⟩ ha

theorem Whole.faithful (hw : w.Whole) : w.Faithful :=
  fun f stamp hf hstamp => hw f.set (.inl ⟨f, hf, rfl⟩) stamp hstamp

theorem kept_start (e : Entry) (now : Nat) (tracker : Tracker) : (start e now tracker).Kept where
  mem_stamps := by
    intro stamp hstamp
    have he : e.stamp = .ok stamp := hstamp
    show stamp ∈ e.stamp.toOption.toList
    rw [he]
    exact List.mem_singleton_self stamp
  mem_stamps_of_inPlay := by
    rintro set stamp (⟨f, hf, -⟩ | ⟨l, hl, hset⟩) _
    · cases hf
    · obtain rfl := List.mem_singleton.mp hl
      cases hset
  isMaking := by
    intro _ l hl
    obtain rfl := List.mem_singleton.mp hl
    rfl

theorem whole_start (e : Entry) (now : Nat) (tracker : Tracker) : (start e now tracker).Whole := by
  rintro set (⟨f, hf, -⟩ | ⟨l, hl, hset⟩)
  · cases hf
  · obtain rfl := List.mem_singleton.mp hl
    cases hset

/-! ### Loads that go on -/

theorem run_append_iff {as bs : List WatchAction} :
    w.run (as ++ bs) = some v ↔ ∃ u, w.run as = some u ∧ u.run bs = some v := by
  rw [run, List.foldlM_append]
  exact Option.bind_eq_some_iff

theorem run_cons_iff {as : List WatchAction} :
    w.run (a :: as) = some v ↔ ∃ u, w.step a = some u ∧ u.run as = some v := by
  rw [run, List.foldlM_cons]
  exact Option.bind_eq_some_iff

theorem kept_of_run {as : List WatchAction} (h : w.run as = some v) (hw : w.Kept) : v.Kept := by
  induction as generalizing w with
  | nil => exact Option.some.inj h ▸ hw
  | cons a rest ih =>
    obtain ⟨u, hstep, hrest⟩ := run_cons_iff.mp h
    exact ih hrest ((happens_of_step hstep).kept hw)

/-- Whether loads in progress can bring a state about, and nothing else is needed. -/
def GoesOn (w v : KeyWatch) : Prop :=
  ∃ as, (∀ a ∈ as, WatchAction.isAdvance a = true) ∧ w.run as = some v

theorem GoesOn.refl (w : KeyWatch) : w.GoesOn w := ⟨[], fun _ ha => absurd ha List.not_mem_nil, rfl⟩

theorem GoesOn.trans {u : KeyWatch} (h : w.GoesOn u) (h' : u.GoesOn v) : w.GoesOn v := by
  obtain ⟨as, has, hrun⟩ := h
  obtain ⟨bs, hbs, hrun'⟩ := h'
  refine ⟨as ++ bs, fun a ha => ?_, ?_⟩
  · exact (List.mem_append.mp ha).elim (has a) (hbs a)
  · exact run_append_iff.mpr ⟨u, hrun, hrun'⟩

theorem goesOn_advance {loader : Nat} {l : KeyLoader} (hl : w.loaders[loader]? = some l)
    (hbusy : l ≠ .done) :
    w.GoesOn { w with
      file := (l.advance w.file w.entry).1
      loaders := w.loaders.set loader (l.advance w.file w.entry).2 } := by
  refine ⟨[.advance loader], fun a ha => ?_, ?_⟩
  · rw [List.mem_singleton.mp ha]
    rfl
  · exact run_cons_iff.mpr ⟨_, step_advance hl hbusy, rfl⟩

/-- Any load can go on to its end, and the others stay where they are. -/
theorem exists_end {loader : Nat} {l : KeyLoader} (hl : w.loaders[loader]? = some l) :
    ∃ file, w.GoesOn { w with file := file, loaders := w.loaders.set loader .done } := by
  -- By induction on the accesses that are left.
  induction hn : l.stepsLeft using Nat.strongRecOn generalizing w l with
  | ind n ih =>
    obtain ⟨hin, hget⟩ := List.getElem?_eq_some_iff.mp hl
    by_cases hdone : l = .done
    · refine ⟨w.file, ?_⟩
      have hset := List.set_getElem_self hin
      rw [hget, hdone] at hset
      rw [hset]
      exact .refl w
    · have hstep := goesOn_advance hl hdone
      have hlt := KeyLoader.stepsLeft_advance w.file w.entry hdone
      have hnext := List.getElem?_set_self (a := (l.advance w.file w.entry).2) hin
      obtain ⟨file, hrest⟩ := ih _ (hn ▸ hlt) (w := { w with
        file := (l.advance w.file w.entry).1
        loaders := w.loaders.set loader (l.advance w.file w.entry).2 }) hnext rfl
      refine ⟨file, hstep.trans ?_⟩
      rw [List.set_set] at hrest
      exact hrest

/-- So can several, one after the other. -/
theorem exists_ends (w : KeyWatch) (loaders : List Nat) :
    ∃ v, w.GoesOn v ∧ v.entry = w.entry ∧
      (∀ i ∉ loaders, v.loaders[i]? = w.loaders[i]?) ∧
      ∀ i ∈ loaders, ∀ l, v.loaders[i]? = some l → l = .done := by
  induction loaders generalizing w with
  | nil => exact ⟨w, .refl w, rfl, fun _ _ => rfl, fun _ hi => absurd hi List.not_mem_nil⟩
  | cons loader rest ih =>
    -- The first of them is over after its turn, if there is such a load.
    obtain ⟨u, hgo, hentry, hothers, hover⟩ : ∃ u, w.GoesOn u ∧ u.entry = w.entry ∧
        (∀ i ≠ loader, u.loaders[i]? = w.loaders[i]?) ∧
        ∀ l, u.loaders[loader]? = some l → l = .done := by
      cases hl : w.loaders[loader]? with
      | none =>
        refine ⟨w, .refl w, rfl, fun _ _ => rfl, fun l hsome => ?_⟩
        rw [hl] at hsome
        cases hsome
      | some l =>
        obtain ⟨file, hgo⟩ := exists_end hl
        refine ⟨_, hgo, rfl, fun i hi => List.getElem?_set_ne hi.symm, fun l' hsome => ?_⟩
        obtain ⟨hin, -⟩ := List.getElem?_eq_some_iff.mp hl
        rw [List.getElem?_set_self hin] at hsome
        exact (Option.some.inj hsome).symm
    obtain ⟨v, hgo', hentry', hsame, hdone⟩ := ih u
    refine ⟨v, hgo.trans hgo', hentry'.trans hentry, fun i hi => ?_, fun i hi l hl => ?_⟩
    · obtain ⟨hne, hrest⟩ := not_or.mp fun h => hi (List.mem_cons.mpr h)
      rw [hsame i hrest, hothers i hne]
    · by_cases hrest : i ∈ rest
      · exact hdone i hrest l hl
      · obtain rfl := (List.mem_cons.mp hi).resolve_right hrest
        rw [hsame i hrest] at hl
        exact hover l hl

/-- A load that was torn can leave other keys than those of the file beside its stamp. -/
theorem exists_unfaithful (hw : w.Kept) {cause : LoadCause} {keys : List Text} {stamp : Stamp}
    (hl : KeyLoader.stamping cause keys ∈ w.loaders) (hstamp : w.entry.stamp = .ok stamp)
    (hkeys : ¬w.entry.Holds keys) : ∃ v, w.GoesOn v ∧ v.IsResting ∧ ¬v.Faithful := by
  obtain ⟨loader, hloader⟩ := List.mem_iff_getElem?.mp hl
  -- All others come to their end first, so that this one is the last to record its keys.
  obtain ⟨u, hgo, hentry, hsame, hdone⟩ :=
    w.exists_ends ((List.range w.loaders.length).filter (· ≠ loader))
  have hnot : loader ∉ (List.range w.loaders.length).filter (· ≠ loader) := by
    intro hmem
    exact of_decide_eq_true (List.mem_filter.mp hmem).2 rfl
  have hthis : u.loaders[loader]? = some (.stamping cause keys) := (hsame loader hnot).trans hloader
  obtain ⟨hin, -⟩ := List.getElem?_eq_some_iff.mp hthis
  have hmade : u.file = none → cause.isFirst = true := by
    obtain ⟨as, -, hrun⟩ := hgo
    exact fun hnone => (kept_of_run hrun hw).isMaking hnone _ (List.mem_of_getElem? hthis)
  obtain ⟨f, hf, hset⟩ := LoadCause.exists_record hmade ⟨keys, u.entry.stamp.toOption⟩
  have hstamped := goesOn_advance hthis nofun
  have hrecorded := hstamped.trans (goesOn_advance (List.getElem?_set_self hin) nofun)
  refine ⟨_, hgo.trans hrecorded, ?_, fun hfaithful => ?_⟩
  · intro l hmem
    obtain ⟨i, hi⟩ := List.mem_iff_getElem?.mp hmem
    simp only [List.set_set] at hi
    by_cases heq : i = loader
    · subst heq
      rw [List.getElem?_set_self hin] at hi
      exact (Option.some.inj hi).symm
    · rw [List.getElem?_set_ne (Ne.symm heq)] at hi
      by_cases hmem : i ∈ (List.range w.loaders.length).filter (· ≠ loader)
      · exact hdone i hmem l hi
      · -- There are no more loads than there were.
        exfalso
        refine hmem (List.mem_filter.mpr ⟨List.mem_range.mpr ?_, decide_eq_true heq⟩)
        rw [hsame i hmem] at hi
        exact (List.getElem?_eq_some_iff.mp hi).1
  · have hnow : u.entry.stamp = .ok stamp := hentry ▸ hstamp
    have hholds := hfaithful f stamp hf hnow (by rw [hset, hnow]; rfl)
    rw [hset] at hholds
    exact hkeys (hentry ▸ hholds)

/-! ### Runs -/

/-- Keys in play are those of the file all through a run in which no replacement tears a load. -/
theorem whole_of_run (hkept : w.Kept) (hw : w.Whole) {as : List WatchAction}
    (has : ∀ pre a post u, as = pre ++ a :: post → w.run pre = some u → ¬u.Tears a)
    (h : w.run as = some v) : v.Whole := by
  induction as generalizing w with
  | nil => exact Option.some.inj h ▸ hw
  | cons a rest ih =>
    obtain ⟨u, hstep, hrest⟩ := run_cons_iff.mp h
    have hhappens := happens_of_step hstep
    refine ih (hhappens.kept hkept) (hhappens.whole hkept hw (has [] a rest w rfl rfl)) ?_ hrest
    intro pre b post r heq hr
    refine has (a :: pre) b post r (congrArg (a :: ·) heq) ?_
    exact run_cons_iff.mpr ⟨u, hstep, hr⟩

theorem GoesOn.whole (h : w.GoesOn v) (hkept : w.Kept) (hw : w.Whole) : v.Whole := by
  obtain ⟨as, has, hrun⟩ := h
  refine whole_of_run hkept hw (fun pre a post u heq _ htears => ?_) hrun
  have hadvance := has a (heq ▸ List.mem_append_right pre List.mem_cons_self)
  cases a with
  | advance loader => exact htears
  | replace _ | claim _ | ask => cases hadvance

/-- **When a check has the keys of its file.**  However the loads in progress go on from a state of
a run, once all of them are over the check has the keys of the file if it has its stamp, exactly if
no replacement in the run tears a load: none comes between the reading of the content and the
question for the stamp and gives the file other keys than those that were read. -/
theorem run_faithful_iff (e : Entry) (now : Nat) (tracker : Tracker) (as : List WatchAction)
    (h : (start e now tracker).run as = some w) :
    (∀ pre post u v, as = pre ++ post → (start e now tracker).run pre = some u → u.GoesOn v →
        v.IsResting → v.Faithful) ↔
      ∀ pre a post u, as = pre ++ a :: post → (start e now tracker).run pre = some u →
        ¬u.Tears a := by
  have hkept := kept_start e now tracker
  have hwhole := whole_start e now tracker
  constructor
  · intro hall pre a post u heq hu htears
    -- The torn load can be the last to come to its end.
    obtain ⟨u', hu', hrest⟩ := run_append_iff.mp (heq ▸ h)
    obtain rfl := Option.some.inj (hu.symm.trans hu')
    obtain ⟨v, hstep, hpost⟩ := run_cons_iff.mp hrest
    have hhappens := happens_of_step hstep
    have hkept' := hhappens.kept (kept_of_run hu hkept)
    cases hhappens with
    | claim _ _ _ | ask _ | advance _ _ _ _ => exact htears
    | replace e' _ =>
      obtain ⟨cause, keys, stamp, hl, hstamp, hkeys⟩ := htears
      obtain ⟨v', hgo, hrests, hunfaithful⟩ := exists_unfaithful hkept' hl hstamp hkeys
      have hpre : (start e now tracker).run (pre ++ [.replace e']) = some _ :=
        run_append_iff.mpr ⟨u, hu, run_cons_iff.mpr ⟨_, hstep, rfl⟩⟩
      refine hunfaithful (hall (pre ++ [.replace e']) post _ v' ?_ hpre hgo hrests)
      rw [heq, List.append_assoc]
      rfl
  · intro hnone pre post u v heq hu hgo _
    have hbefore : ∀ pre' a post' r, pre = pre' ++ a :: post' →
        (start e now tracker).run pre' = some r → ¬r.Tears a := by
      intro pre' a post' r hpre
      refine hnone pre' a (post' ++ post) r ?_
      rw [heq, hpre, List.append_assoc, List.cons_append]
    have hwhole' := whole_of_run hkept hwhole hbefore hu
    exact (hgo.whole (kept_of_run hu hkept) hwhole').faithful

/-- A file of one key that is replaced between two loads. -/
theorem run_faithful_reload :
    let begun := start (.file [97, 10] 1) 0 (.ofSettings {})
    let as : List WatchAction := [.advance 0, .advance 0, .advance 0, .replace (.file [98, 10] 2),
      .claim 1000, .advance 1, .advance 1, .advance 1, .advance 1, .advance 1]
    (∃ w, begun.run as = some w ∧ w.file.map (·.set) = some ⟨[['b']], some (.file 2)⟩) ∧
      ∀ pre post u v, as = pre ++ post → begun.run pre = some u → u.GoesOn v → v.IsResting →
        v.Faithful := by
  intro begun as
  have hrun : (begun.run as).map (·.file.map (·.set)) = some (some ⟨[['b']], some (.file 2)⟩) := by
    decide +kernel
  obtain ⟨w, hw, hset⟩ := Option.map_eq_some_iff.mp hrun
  refine ⟨⟨w, hw, hset⟩, (run_faithful_iff _ _ _ as hw).mpr ?_⟩
  intro pre a post u heq hu htears
  have hpre : pre = as.take pre.length := by rw [heq, List.take_left]
  have ha : as[pre.length]? = some a := by
    rw [heq, List.getElem?_append_right (Nat.le_refl _), Nat.sub_self]
    rfl
  generalize pre.length = n at hpre ha
  subst hpre
  match n with
  | 3 =>
    -- The first load is over when the file is replaced.
    cases ha
    obtain ⟨cause, keys, stamp, hl, -⟩ := htears
    have hover : (begun.run (as.take 3)).map (·.loaders) = some [.done] := by decide +kernel
    rw [hu] at hover
    have hloaders : u.loaders = [.done] := Option.some.inj hover
    rw [hloaders] at hl
    cases List.mem_singleton.mp hl
  | 0 | 1 | 2 | 4 | 5 | 6 | 7 | 8 | 9 =>
    cases ha
    exact htears
  | n + 10 => cases ha

/-- A file that is replaced after its content was read and before its stamp is asked for: the check
has the old keys beside the new stamp, and no comparison changes this. -/
theorem torn_load_stays :
    ∃ w f, (start (.file [97, 10] 1) 0 (.ofSettings {})).run
        [.advance 0, .replace (.file [98, 10] 2), .advance 0, .advance 0] = some w ∧
      w.IsResting ∧ w.file = some f ∧ f.set = ⟨[['a']], some (.file 2)⟩ ∧ ¬w.Faithful ∧
      ∀ now, f.sync now w.entry w.entry w.entry = f := by
  have hend : ((start (.file [97, 10] 1) 0 (.ofSettings {})).run
      [.advance 0, .replace (.file [98, 10] 2), .advance 0, .advance 0]).map
        (fun w => (w.entry, w.loaders, w.file.map (·.set))) =
      some (.file [98, 10] 2, [.done], some ⟨[['a']], some (.file 2)⟩) := by decide +kernel
  obtain ⟨w, hrun, hw⟩ := Option.map_eq_some_iff.mp hend
  obtain ⟨hentry, hloaders, hfile⟩ : w.entry = .file [98, 10] 2 ∧ w.loaders = [.done] ∧
      w.file.map (·.set) = some ⟨[['a']], some (.file 2)⟩ := by simpa using hw
  obtain ⟨f, hf, hset⟩ := Option.map_eq_some_iff.mp hfile
  have hstamp : w.entry.stamp = .ok (.file 2) := hentry ▸ rfl
  have hsame : f.set.stamp = some (.file 2) := hset ▸ rfl
  refine ⟨w, f, hrun, ?_, hf, hset, ?_, fun now => KeyFile.sync_eq_self hstamp hsame now _ _⟩
  · intro l hl
    rw [hloaders] at hl
    exact List.mem_singleton.mp hl
  · intro hfaithful
    obtain ⟨text, hread, hkeys⟩ := hfaithful f (.file 2) hf hstamp hsame
    have hdecode : Utf8.decode? [98, 10] = some ['b', '\n'] := by decide +kernel
    have htext : w.entry.read = .ok ['b', '\n'] := by rw [hentry, Entry.read, hdecode]
    cases htext.symm.trans hread
    have hparse : ['a'] ∉ KeySet.parse ['b', '\n'] := by decide +kernel
    refine hparse ((hkeys ['a']).mp ?_)
    rw [hset]
    exact List.mem_cons_self

end KeyWatch
end MailPolicy
