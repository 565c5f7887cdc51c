/-
What a check changes.

A check is evaluated in a state with any scores, memories and pools.  It answers at once, or it takes
a guard of its score and hands a probe to the pool of its kind; a pool that refuses the probe is left
as it was, and the guard is given back.  The probe ends with what it found, with nothing, or by a
panic, and its guard is given back all the same.

So there are few things that a check does at a score, and whatever they are, and whoever acts in
between, its guard is back in the end and no slot but its own is touched.  In the engine the guard
goes by the name of the slot; nothing depends on that.

* `Bench.perform` — actions at the score of a request;
* `EngineState.Evaluates` — what can come of the evaluation of a check;
* `EngineState.evaluates` — nothing else does;
* `Probe.boards_finish` — what the end of a probe does at a score;
* `EngineState.evaluate_footprint` — **a check writes its slot at most once, touches no other, and
  gives back its guard**.
-/
import MailPolicy.Proofs.Engine.Simulation
import MailPolicy.Proofs.Pool.Order
import MailPolicy.Proofs.Score.Beside

namespace MailPolicy

/-! ### Actions at a score -/

/-- Actions at the score of a request, each if it is possible. -/
def Bench.perform (b : Bench) (request : Nat) (as : List (BoardAction Float)) : Bench :=
  b.setBoard request ((b.board request).attemptAll as)

namespace Bench

variable {b b' : Bench}

theorem perform_nil (b : Bench) (request : Nat) : b.perform request [] = b :=
  b.setBoard_board request

theorem perform_append (b : Bench) (request : Nat) (as as' : List (BoardAction Float)) :
    b.perform request (as ++ as') = (b.perform request as).perform request as' := by
  rcases Nat.lt_or_ge request b.boards.length with hlt | hge
  · unfold perform
    rw [board_setBoard_self hlt, setBoard_setBoard, Board.attemptAll, List.foldl_append]
    rfl
  · -- There is no such score.
    have hsame (b' : Bench) (s : Board Float) (h : b'.boards.length ≤ request) :
        b'.setBoard request s = b' := by
      rw [setBoard, List.set_eq_of_length_le h]
    unfold perform
    rw [hsame b _ hge, hsame b _ hge, hsame b _ hge]

/-- What becomes of the scores depends on nothing else. -/
theorem boards_perform (h : b.boards = b'.boards) (request : Nat) (as : List (BoardAction Float)) :
    (b.perform request as).boards = (b'.perform request as).boards := by
  simp only [perform, setBoard, board, h]

/-- What a check comes to at once is written, if it is anything. -/
theorem record_eq_perform (b : Bench) (request slot : Nat) (points : Option Float) :
    b.record request slot points = b.perform request (BoardAction.answering slot points) := by
  cases points with
  | none => exact (b.perform_nil request).symm
  | some x => rfl

end Bench

/-! ### A probe -/

namespace Probe

/-- A probe that starts leaves all scores alone. -/
theorem boards_start (net : Network) (b : Bench) (now : Nat) (p : Probe) :
    (p.start net b now).2.boards = b.boards := by
  obtain ⟨queries, heq⟩ := p.start_eq net b now
  rw [heq]

/-- What a probe found is written, if it is worth anything. -/
theorem boards_settleFinding (b : Bench) (request slot : Nat) (f : Finding) :
    (b.settleFinding request slot f).boards =
      (b.perform request (f.points?.toList.map (.write slot slot))).boards := by
  cases f with
  | points x => rfl
  | neutral | failure =>
    show b.boards = (b.perform request []).boards
    rw [Bench.perform_nil]

/-- **A probe writes what it found at most, and gives its guard back**, whether or not it panics. -/
theorem boards_finish (net : Network) (b : Bench) (p : Probe) :
    (p.finish net b).2.boards = (b.perform p.request
      (BoardAction.concluding p.slot p.slot (p.find net b).1.points?)).boards := by
  obtain ⟨subjects, hfind⟩ := p.find_eq net b
  have hfound : (p.find net b).2.boards = b.boards := by rw [hfind]
  have hwritten := boards_settleFinding (p.find net b).2 p.request p.slot (p.find net b).1
  rw [BoardAction.concluding, Bench.perform_append]
  calc (p.finish net b).2.boards
    _ = (((p.find net b).2.settleFinding p.request p.slot (p.find net b).1).perform p.request
          [.release p.slot, .signal]).boards := rfl
    _ = _ := Bench.boards_perform (hwritten.trans (Bench.boards_perform hfound _ _)) _ _

end Probe

/-! ### An evaluation -/

/-- A crew that takes a task accepts just that; the wake-ups accept nothing. -/
theorem Crew.accepted_of_submit {T : Type} {c c' : Crew T} {task : T}
    (h : c.submit task = .ok c') : c'.pool.accepted = c.pool.accepted ++ [task] := by
  obtain ⟨q, hq, hpool⟩ := exists_of_submit h
  have hquiet (count : Nat) (p : Pool T) :
      (p.attemptAll (List.replicate count .notify)).accepted = p.accepted := by
    induction count generalizing p with
    | zero => rfl
    | succ count ih =>
      refine (ih (p.attempt .notify)).trans ?_
      rw [Pool.accepted_attempt]
      exact List.append_nil p.accepted
  rw [hpool, hquiet, Pool.accepted_submit hq]

namespace EngineState

variable {s : EngineState} {request slot : Nat} {c : Check} {r : Request}

/-- What can come of the evaluation of a check.  It answers at once, with nothing if its resource is to
be left alone; otherwise its probe is queued, or is refused, and then the state is as before but for
the guard that was out meanwhile.  Without a pool of its kind nothing is done. -/
inductive Evaluates (s : EngineState) (request slot : Nat) (c : Check) (r : Request) :
    Except CheckError Unit × EngineState → Prop where
  | answers {points : Option Float} (memories : List Memory) (claims : List (Nat × Nat)) :
      c.atOnce? (s.bench.memory slot) s.bench.now r = some points →
      (∀ i, i ≠ slot → memories[i]? = s.bench.memories[i]?) →
      Evaluates s request slot c r (.ok (), { s with
        bench := { s.bench.perform request (BoardAction.answering slot points) with
          memories := memories }
        claims := claims })
  | queues {crew crew' : Crew Probe} : c.atOnce? (s.bench.memory slot) s.bench.now r = none →
      s.crews.lookup c.kind = some crew → crew.submit ⟨request, slot, r⟩ = .ok crew' →
      crew'.pool.accepted = crew.pool.accepted ++ [⟨request, slot, r⟩] →
      Evaluates s request slot c r
        (.ok (), { s with bench := s.bench.perform request [.lock slot] }.setCrew c.kind crew')
  | refuses {crew : Crew Probe} {reason : PoolError} :
      c.atOnce? (s.bench.memory slot) s.bench.now r = none →
      s.crews.lookup c.kind = some crew → crew.pool.submit ⟨request, slot, r⟩ = .error reason →
      Evaluates s request slot c r (.error (.rejected c.name reason), { s with
        bench := s.bench.perform request (BoardAction.probing slot slot none) })
  | unmanned : c.atOnce? (s.bench.memory slot) s.bench.now r = none →
      s.crews.lookup c.kind = none → Evaluates s request slot c r (.ok (), s)

/-- What a check comes to at once is all there is to it. -/
theorem Evaluates.record (request : Nat) {points : Option Float}
    (h : c.atOnce? (s.bench.memory slot) s.bench.now r = some points) :
    s.Evaluates request slot c r (.ok (), s.record request slot points) := by
  rw [record_eq, Bench.record_eq_perform]
  exact .answers s.bench.memories s.claims h fun _ _ => rfl

/-- A look-up in a file of keys answers at once, and may claim a comparison of stamps. -/
theorem evaluates_keyFile (s : EngineState) (request slot : Nat) (c : KeyCheck) (r : Request) :
    s.Evaluates request slot (.keyFile c) r (.ok (), s.evaluateKeyFile request slot c r) := by
  have hanswers {points : Option Float}
      (h : (Check.keyFile c).atOnce? (s.bench.memory slot) s.bench.now r = some points) :=
    Evaluates.record request h
  unfold evaluateKeyFile
  cases hmemory : s.bench.memory slot with
  | keys file =>
    rw [hmemory] at hanswers
    cases hfield : r.field? c.field with
    | none =>
      have hnone : c.weight? file r = none := by rw [KeyCheck.weight?, hfield, Option.bind_none]
      exact hanswers (congrArg some hnone)
    | some value =>
      cases hclaim : file.claim? s.bench.now with
      | none =>
        simp only [hclaim]
        exact hanswers rfl
      | some claimed =>
        simp only [hclaim, record_eq, Bench.record_eq_perform]
        refine .answers (s.bench.memories.set slot (.keys claimed)) _ ?_ fun i hi =>
          List.getElem?_set_ne hi.symm
        rw [hmemory]
        rfl
  | nothing | failures _ =>
    rw [hmemory] at hanswers
    exact hanswers rfl

/-- A probe is queued, or refused by the pool of its kind. -/
theorem evaluates_dispatch (hprobe : c.atOnce? (s.bench.memory slot) s.bench.now r = none) :
    s.Evaluates request slot c r (s.dispatch c.name c.kind ⟨request, slot, r⟩) := by
  rw [dispatch]
  cases hcrew : s.crews.lookup c.kind with
  | none => exact .unmanned hprobe hcrew
  | some crew =>
    cases hsubmit : crew.submit ⟨request, slot, r⟩ with
    | ok crew' =>
      simp only [hsubmit]
      exact .queues hprobe hcrew hsubmit (Crew.accepted_of_submit hsubmit)
    | error reason =>
      simp only [hsubmit]
      have hback : (s.bench.lock request slot).unlock request slot =
          s.bench.perform request (BoardAction.probing slot slot none) :=
        (s.bench.perform_append request [.lock slot] _).symm
      rw [hback]
      exact .refuses hprobe hcrew (Crew.submit_eq_error hsubmit)

/-- **A check answers at once, or hands a probe to its pool, or is refused by it.** -/
theorem evaluates (s : EngineState) (request slot : Nat) (c : Check) (r : Request) :
    s.Evaluates request slot c r (s.evaluate request slot c r) := by
  by_cases hback : c.kind.isBackground = true
  · have hatOnce : c.atOnce? (s.bench.memory slot) s.bench.now r = _ :=
      Check.atOnce?_of_isBackground hback
    rw [evaluate_of_isBackground hback]
    split at hatOnce
    · rw [if_pos ‹_›]
      exact Evaluates.record request hatOnce
    · rw [if_neg ‹_›]
      exact evaluates_dispatch hatOnce
  · cases c with
    | valueList c | pattern c => exact Evaluates.record request rfl
    | keyFile c => exact s.evaluates_keyFile request slot c r
    | blockList c => exact absurd c.isBackground_kind hback
    | senderPolicy c => exact absurd rfl hback

/-- A refusal changes no pool and no slot of any score. -/
theorem Evaluates.unchanged_of_error {out : Except CheckError Unit × EngineState}
    (h : s.Evaluates request slot c r out) {error : CheckError} (herror : out.1 = .error error) :
    out.2.crews = s.crews ∧
      ∀ other, (out.2.bench.board other).score = (s.bench.board other).score := by
  cases h with
  | answers | queues | unmanned => cases herror
  | refuses =>
    refine ⟨rfl, fun other => ?_⟩
    show ((s.bench.perform request (BoardAction.probing slot slot none)).board other).score = _
    rcases eq_or_ne other request with rfl | hne
    · rcases Nat.lt_or_ge other s.bench.boards.length with hlt | hge
      · rw [Bench.perform, Bench.board_setBoard_self hlt]
        exact Board.score_probing_none (s.bench.board other) slot slot
      · rw [Bench.perform, Bench.setBoard, List.set_eq_of_length_le hge]
    · rw [Bench.perform, Bench.board_setBoard_of_ne hne]

/-- **A check writes its slot at most once, touches no other slot, and gives back its guard.**  Its
evaluation answers at once, queues one probe or is refused, and a refusal leaves pools and slots as
they were.  The probe does nothing at a score when it starts, and when it ends, by a panic or not, it
writes what it found at most and gives its guard back; so it does when it is dropped.  Whatever a
check does of all this, and whoever acts at the score in between with other guards, the counter, the
guards and all other slots are in the end what they are without the check. -/
theorem evaluate_footprint (s : EngineState) (request slot : Nat) (c : Check) (r : Request) :
    s.Evaluates request slot c r (s.evaluate request slot c r) ∧
    (∀ error, (s.evaluate request slot c r).1 = .error error →
      (s.evaluate request slot c r).2.crews = s.crews ∧
      ∀ other, ((s.evaluate request slot c r).2.bench.board other).score =
        (s.bench.board other).score) ∧
    (∀ net b now, ((Probe.mk request slot r).start net b now).2.boards = b.boards) ∧
    (∀ net b, ((Probe.mk request slot r).finish net b).2.boards = (b.perform request
      (BoardAction.concluding slot slot ((Probe.mk request slot r).find net b).1.points?)).boards) ∧
    (∀ b : Bench, b.unlock request slot =
      b.perform request (BoardAction.concluding slot slot none)) ∧
    ∀ (guard : Nat) (b : Board Float) (own others all : List (BoardAction Float))
      (points : Option Float), b.Consistent → guard ∉ b.guards → Conduct guard slot own points →
      (∀ a ∈ others, a.guard? ≠ some guard) → Interleaves own others all →
      b.Footprint slot points others all := by
  refine ⟨s.evaluates request slot c r, fun error herror => ?_, fun net b now => ?_,
    fun net b => ?_, fun b => rfl, ?_⟩
  · exact (s.evaluates request slot c r).unchanged_of_error herror
  · exact Probe.boards_start net b now _
  · exact Probe.boards_finish net b _
  · exact fun guard b own others all points hb hfree hown hothers hall =>
      Board.footprint_of_conduct hown hb hfree hothers hall

/-- A probe is refused by a pool that shuts down; and a probe writes while another check gives back
its guard. -/
theorem evaluate_footprint_two :
    let c : Check := .senderPolicy { name := "spf".toList, weights := ⟨-1, 5, 2, 0, 0, 0⟩ }
    let s : EngineState :=
      { bench := { checks := [c, c], memories := [], boards := [.blank 2], now := 0 }
        crews := [(.spf, { pool := { name := "spf", settings := {}, closed := true } })]
        clock := 0 }
    let b : Board Float := { score := .blank 2, writers := 1, guards := [0] }
    let all : List (BoardAction Float) :=
      [.lock 1, .write 1 1 5, .release 0, .release 1, .signal, .signal]
    ((s.evaluate 0 1 c {}).1 = .error (.rejected "spf".toList (.shuttingDown "spf")) ∧
      (s.evaluate 0 1 c {}).2.crews = s.crews ∧
      ((s.evaluate 0 1 c {}).2.bench.board 0).score = .blank 2) ∧
    (b.attemptAll all).writers = 0 ∧ (b.attemptAll all).score.slot? 0 = some none ∧
      b.Footprint 1 (some 5) [.release 0, .signal] all := by
  intro c s b all
  have hrefused : (s.evaluate 0 1 c {}).1 =
      .error (.rejected "spf".toList (.shuttingDown "spf")) := rfl
  obtain ⟨-, hunchanged, -, -, -, hfootprint⟩ := evaluate_footprint s 0 1 c {}
  obtain ⟨hcrews, hscores⟩ := hunchanged _ hrefused
  have hothers : ∀ a ∈ ([.release 0, .signal] : List (BoardAction Float)), a.guard? ≠ some 1 := by
    simp [BoardAction.guard?]
  have hconsistent : b.Consistent := ⟨rfl, List.nodup_singleton 0⟩
  have hfree : 1 ∉ b.guards := by simp [b]
  refine ⟨⟨hrefused, hcrews, hscores 0⟩, rfl, rfl, ?_⟩
  exact hfootprint 1 b _ _ _ (some 5) hconsistent hfree (.probes (some 5)) hothers
    (.left _ (.left _ (.right _ (.left _ (.left _ (.right _ .nil))))))

end EngineState
end MailPolicy
