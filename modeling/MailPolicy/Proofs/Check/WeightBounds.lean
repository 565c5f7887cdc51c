/-
Whether what a check writes lies in its range.

The range of a check is that of its weights, and a weight that is no number widens it on neither
side.  All checks but one refuse any weight that is not finite; a sender policy check looks at its
range alone, so it can be built with a weight that is no number, which it then writes.

* `Bounds.low_le_of_mem`, `Bounds.le_high_of_mem` — no number among the weights lies outside their
  range;
* `Check.Writes` — a value comes to stand in a slot by an evaluation of the check, or by one of
  its probes;
* `Check.mem_weights_of_writes` — only weights of the check are written;
* `Check.writes_within_bounds_iff` — a check that could be built keeps within its finite range,
  unless it is a sender policy check with a weight that is no number.
-/
import MailPolicy.Engine.Basic
import MailPolicy.Proofs.Check.Build
import MailPolicy.Proofs.Check.WeightRows
import MailPolicy.Proofs.DoubleOrder
import MailPolicy.Proofs.Score.Board

namespace MailPolicy

/-! ### Ranges of double weights -/

namespace Bounds

variable {b : Bounds Float} {w : Float} {ws : List Float}

theorem widen_low_le (hb : b.low.isNaN = false) : (b.widen w).low ≤ b.low := by
  unfold widen
  by_cases h : w < b.low
  · rw [if_pos h]
    exact Float.le_of_lt h
  · rw [if_neg h]
    exact Float.le_rfl_of_isNaN hb

theorem widen_low_le_weight (hb : b.low.isNaN = false) (hw : w.isNaN = false) :
    (b.widen w).low ≤ w := by
  unfold widen
  by_cases h : w < b.low
  · rw [if_pos h]
    exact Float.le_rfl_of_isNaN hw
  · rw [if_neg h]
    exact Float.le_of_not_lt hw hb h

theorem le_widen_high (hb : b.high.isNaN = false) : b.high ≤ (b.widen w).high := by
  unfold widen
  by_cases h : b.high < w
  · rw [if_pos h]
    exact Float.le_of_lt h
  · rw [if_neg h]
    exact Float.le_rfl_of_isNaN hb

theorem weight_le_widen_high (hb : b.high.isNaN = false) (hw : w.isNaN = false) :
    w ≤ (b.widen w).high := by
  unfold widen
  by_cases h : b.high < w
  · rw [if_pos h]
    exact Float.le_rfl_of_isNaN hw
  · rw [if_neg h]
    exact Float.le_of_not_lt hb hw h

/-- Widening never raises the low end, and brings it down to every number on the way. -/
theorem foldl_widen_low_le (hb : b.low.isNaN = false) :
    (ws.foldl widen b).low ≤ b.low ∧
      ∀ w ∈ ws, w.isNaN = false → (ws.foldl widen b).low ≤ w := by
  induction ws generalizing b with
  | nil => exact ⟨Float.le_rfl_of_isNaN hb, fun w hw => absurd hw List.not_mem_nil⟩
  | cons v rest ih =>
    have hv := widen_low_le (w := v) hb
    obtain ⟨hlow, hrest⟩ := ih (Float.le_iff_rank_le.mp hv).1
    refine ⟨Float.le_trans hlow hv, fun w hw hnum => ?_⟩
    rcases List.mem_cons.mp hw with rfl | hw
    · exact Float.le_trans hlow (widen_low_le_weight hb hnum)
    · exact hrest w hw hnum

/-- Widening never lowers the high end, and brings it up to every number on the way. -/
theorem le_foldl_widen_high (hb : b.high.isNaN = false) :
    b.high ≤ (ws.foldl widen b).high ∧
      ∀ w ∈ ws, w.isNaN = false → w ≤ (ws.foldl widen b).high := by
  induction ws generalizing b with
  | nil => exact ⟨Float.le_rfl_of_isNaN hb, fun w hw => absurd hw List.not_mem_nil⟩
  | cons v rest ih =>
    have hv := le_widen_high (w := v) hb
    obtain ⟨hhigh, hrest⟩ := ih (Float.le_iff_rank_le.mp hv).2.1
    refine ⟨Float.le_trans hv hhigh, fun w hw hnum => ?_⟩
    rcases List.mem_cons.mp hw with rfl | hw
    · exact Float.le_trans (weight_le_widen_high hb hnum) hhigh
    · exact hrest w hw hnum

/-- Each end of a widened range is an end of the range before, or one of the weights. -/
theorem foldl_widen_ends (b : Bounds Float) (ws : List Float) :
    ((ws.foldl widen b).low = b.low ∨ (ws.foldl widen b).low ∈ ws) ∧
    ((ws.foldl widen b).high = b.high ∨ (ws.foldl widen b).high ∈ ws) := by
  induction ws generalizing b with
  | nil => exact ⟨.inl rfl, .inl rfl⟩
  | cons v rest ih =>
    rw [List.foldl_cons]
    have hlow : (b.widen v).low = b.low ∨ (b.widen v).low = v := by
      unfold widen
      by_cases h : v < b.low
      · exact .inr (if_pos h)
      · exact .inl (if_neg h)
    have hhigh : (b.widen v).high = b.high ∨ (b.widen v).high = v := by
      unfold widen
      by_cases h : b.high < v
      · exact .inr (if_pos h)
      · exact .inl (if_neg h)
    have hends := ih (b.widen v)
    constructor
    · rcases hends.1 with heq | hmem
      · rw [heq]
        exact hlow.imp_right fun h => List.mem_cons.mpr (.inl h)
      · exact .inr (List.mem_cons_of_mem _ hmem)
    · rcases hends.2 with heq | hmem
      · rw [heq]
        exact hhigh.imp_right fun h => List.mem_cons.mpr (.inl h)
      · exact .inr (List.mem_cons_of_mem _ hmem)

theorem isFinite_zero : (zero : Bounds Float).low.isFinite = true ∧
    (zero : Bounds Float).high.isFinite = true :=
  ⟨by decide +kernel, by decide +kernel⟩

theorem low_le_zero (ws : List Float) : (ofWeights ws).low ≤ 0 :=
  (foldl_widen_low_le (b := zero) (Float.isNaN_of_isFinite isFinite_zero.1)).1

theorem zero_le_high (ws : List Float) : 0 ≤ (ofWeights ws).high :=
  (le_foldl_widen_high (b := zero) (Float.isNaN_of_isFinite isFinite_zero.2)).1

theorem low_le_of_mem (h : w ∈ ws) (hw : w.isNaN = false) : (ofWeights ws).low ≤ w :=
  (foldl_widen_low_le (b := zero) (Float.isNaN_of_isFinite isFinite_zero.1)).2 w h hw

theorem le_high_of_mem (h : w ∈ ws) (hw : w.isNaN = false) : w ≤ (ofWeights ws).high :=
  (le_foldl_widen_high (b := zero) (Float.isNaN_of_isFinite isFinite_zero.2)).2 w h hw

/-- The range of finite weights is finite. -/
theorem isFinite_ofWeights (h : ∀ w ∈ ws, w.isFinite = true) : (ofWeights ws).isFinite = true := by
  obtain ⟨hlow, hhigh⟩ := foldl_widen_ends zero ws
  rw [isFinite, Bool.and_eq_true]
  constructor
  · rcases hlow with heq | hmem
    · rw [ofWeights, heq]
      exact isFinite_zero.1
    · exact h _ hmem
  · rcases hhigh with heq | hmem
    · rw [ofWeights, heq]
      exact isFinite_zero.2
    · exact h _ hmem

end Bounds

/-! ### What comes to stand in a slot -/

namespace Bench

variable {b : Bench} {request slot : Nat}

/-- Whether a slot of the score of a request holds a value. -/
def Holds (b : Bench) (request slot : Nat) (x : Float) : Prop :=
  (b.board request).score.slot? slot = some (some x)

theorem holds_congr {b' : Bench} (h : b'.boards = b.boards) {x : Float} :
    b'.Holds request slot x ↔ b.Holds request slot x := by
  rw [Holds, Holds, board, board, h]

theorem setBoard_of_length_le {s : Board Float} (h : b.boards.length ≤ request) :
    b.setBoard request s = b := by
  simp [setBoard, List.set_eq_of_length_le h]

theorem holds_setBoard {s : Board Float} {other i : Nat} {x : Float}
    (h : (b.setBoard request s).Holds other i x) :
    b.Holds other i x ∨ other = request ∧ s.score.slot? i = some (some x) := by
  unfold Holds at h ⊢
  rcases Nat.lt_or_ge request b.boards.length with hlt | hge
  · rcases eq_or_ne other request with rfl | hne
    · rw [board_setBoard_self hlt] at h
      exact .inr ⟨rfl, h⟩
    · rw [board_setBoard_of_ne hne] at h
      exact .inl h
  · rw [setBoard_of_length_le hge] at h
    exact .inl h

/-- After an action at a score a value is where it was before, or the action wrote it. -/
theorem holds_attempt {a : BoardAction Float} {other i : Nat} {x : Float}
    (h : (b.setBoard request ((b.board request).attempt a)).Holds other i x) :
    b.Holds other i x ∨ (∃ guard, a = .write guard i x) ∨ a = .update i x := by
  rcases holds_setBoard h with hold | ⟨rfl, hslot⟩
  · exact .inl hold
  · exact Board.slot?_attempt hslot

theorem holds_lock {other i : Nat} {x : Float} (h : (b.lock request slot).Holds other i x) :
    b.Holds other i x := by
  rcases holds_attempt h with hold | ⟨_, hw⟩ | hw
  · exact hold
  · cases hw
  · cases hw

theorem holds_unlock {other i : Nat} {x : Float} (h : (b.unlock request slot).Holds other i x) :
    b.Holds other i x := by
  rcases holds_setBoard h with hold | ⟨rfl, hslot⟩
  · exact hold
  · rcases Board.slot?_attempt hslot with hslot | ⟨_, hw⟩ | hw
    · rcases Board.slot?_attempt hslot with hslot | ⟨_, hw⟩ | hw
      · exact hslot
      · cases hw
      · cases hw
    · cases hw
    · cases hw

theorem holds_update {other i : Nat} {x y : Float} (h : (b.update request slot y).Holds other i x) :
    b.Holds other i x ∨ x = y := by
  rcases holds_attempt h with hold | ⟨_, hw⟩ | hw
  · exact .inl hold
  · cases hw
  · cases hw
    exact .inr rfl

theorem holds_settleFinding {other i : Nat} {x : Float} {f : Finding}
    (h : (b.settleFinding request slot f).Holds other i x) : b.Holds other i x ∨ f = .points x := by
  cases f with
  | points y =>
    rcases holds_attempt h with hold | ⟨_, hw⟩ | hw
    · exact .inl hold
    · cases hw
      exact .inr rfl
    · cases hw
  | neutral => exact .inl h
  | failure => exact .inl h

end Bench

/-! ### What checks write -/

namespace Check

/-- The weights of a check. -/
def weights : Check → List Float
  | blockList c => c.table.entries.map (·.weight)
  | senderPolicy c => c.weights.all
  | valueList c => c.weights.weights
  | pattern c => c.weights.weights
  | keyFile c => c.weights.weights

theorem bounds_eq_ofWeights (c : Check) : c.bounds = .ofWeights c.weights := by
  cases c <;> rfl

/-- Whether a check ever writes a value: it comes to stand in some slot of some score when the
check is evaluated for a request, or when a probe of the check ends. -/
inductive Writes (c : Check) (x : Float) : Prop
  | evaluating (s : EngineState) (request slot : Nat) (r : Request) (other i : Nat) :
      ¬s.bench.Holds other i x → (s.evaluate request slot c r).2.bench.Holds other i x → Writes c x
  | probing (net : Network) (b : Bench) (p : Probe) (other i : Nat) : b.checks[p.slot]? = some c →
      ¬b.Holds other i x → (p.finish net b).2.Holds other i x → Writes c x

end Check

theorem WeightTable.foldl_heavier_mem (w : Float) (ws : List Float) :
    ws.foldl heavier w ∈ w :: ws := by
  induction ws generalizing w with
  | nil => exact List.mem_singleton_self w
  | cons v rest ih =>
    rw [List.foldl_cons]
    have hv : heavier w v = w ∨ heavier w v = v := by
      unfold heavier
      by_cases h : w < v
      · exact .inr (if_pos h)
      · exact .inl (if_neg h)
    rcases List.mem_cons.mp (ih (heavier w v)) with heq | hmem
    · rw [heq]
      rcases hv with hv | hv
      · rw [hv]
        exact List.mem_cons_self
      · rw [hv]
        exact List.mem_cons_of_mem _ List.mem_cons_self
    · exact List.mem_cons_of_mem _ (List.mem_cons_of_mem _ hmem)

/-- The greatest weight of some answers is the weight of a row. -/
theorem WeightTable.mem_of_heaviest? {t : WeightTable Float} {answers : List Ipv4} {x : Float}
    (h : t.heaviest? answers = some x) : x ∈ t.entries.map (·.weight) := by
  have hmatching : ∀ y ∈ t.matching answers, y ∈ t.entries.map (·.weight) := by
    intro y hy
    obtain ⟨-, -, e, he, -, rfl⟩ := mem_matching_iff.mp hy
    exact List.mem_map_of_mem he
  apply hmatching
  unfold heaviest? at h
  cases hm : t.matching answers with
  | nil => simp [hm] at h
  | cons w ws =>
    rw [hm] at h
    obtain rfl := Option.some.inj h
    exact foldl_heavier_mem w ws

theorem Finding.mem_of_ofListing {t : WeightTable Float} {listing : Listing} {x : Float}
    (h : ofListing t listing = .points x) : x ∈ t.entries.map (·.weight) := by
  cases listing with
  | addresses answers =>
    unfold ofListing at h
    cases hw : t.heaviest? answers with
    | none => simp [hw] at h
    | some w =>
      simp only [hw] at h
      obtain rfl := points.inj h
      exact WeightTable.mem_of_heaviest? hw
  | unlisted => cases h
  | failed => cases h

theorem Finding.mem_of_ofResult {w : SpfWeights Float} {r : SpfResult} {x : Float}
    (h : ofResult w r = .points x) : x ∈ w.all := by
  unfold ofResult at h
  cases hw : w.weight? r with
  | none => simp [hw] at h
  | some y =>
    simp only [hw] at h
    obtain rfl := points.inj h
    exact SpfWeights.mem_all_of_weight? hw

namespace Probe

variable {net : Network} {b : Bench} {p : Probe} {c : Check}

/-- What a probe finds is a weight of its check. -/
theorem mem_weights_of_find {x : Float} (hc : b.checks[p.slot]? = some c)
    (h : (p.find net b).1 = .points x) : x ∈ c.weights := by
  unfold find at h
  rw [hc] at h
  cases c with
  | blockList c =>
    dsimp only at h
    split at h
    · exact Finding.mem_of_ofListing h
    · cases h
    · cases h
  | senderPolicy c =>
    dsimp only at h
    split at h
    · exact Finding.mem_of_ofResult h
    · cases h
  | valueList c => cases h
  | pattern c => cases h
  | keyFile c => cases h

/-- To find something changes no score. -/
theorem boards_find (net : Network) (b : Bench) (p : Probe) :
    (p.find net b).2.boards = b.boards := by
  unfold find
  split
  · split <;> rfl
  · split <;> rfl
  · rfl

/-- A value that comes to stand in a slot when a probe ends is what the probe found. -/
theorem holds_finish {other i : Nat} {x : Float} (h : (p.finish net b).2.Holds other i x) :
    b.Holds other i x ∨ (p.find net b).1 = .points x := by
  have hend : (p.finish net b).2 =
      ((p.find net b).2.settleFinding p.request p.slot (p.find net b).1).unlock p.request p.slot := rfl
  rw [hend] at h
  rcases Bench.holds_settleFinding (Bench.holds_unlock h) with hold | hfound
  · exact .inl ((Bench.holds_congr (boards_find net b p)).mp hold)
  · exact .inr hfound

end Probe

namespace EngineState

variable {s : EngineState} {request slot : Nat} {other i : Nat} {x : Float}

theorem holds_record {points : Option Float}
    (h : (s.record request slot points).bench.Holds other i x) :
    s.bench.Holds other i x ∨ points = some x := by
  cases points with
  | none => exact .inl h
  | some y => exact (Bench.holds_update h).imp_right fun hxy => by rw [hxy]

theorem holds_evaluateKeyFile {c : KeyCheck} {r : Request}
    (h : (s.evaluateKeyFile request slot c r).bench.Holds other i x) :
    s.bench.Holds other i x ∨ ∃ file, c.weight? file r = some x := by
  unfold evaluateKeyFile at h
  split at h
  · split at h
    · -- Claiming a comparison of stamps changes the memory of the check only.
      rcases holds_record h with hold | hw
      · left
        split at hold <;> exact hold
      · exact .inr ⟨_, hw⟩
    · exact .inl h
  · exact .inl h

theorem holds_dispatch {name : Text} {kind : CheckKind} {p : Probe}
    (h : (s.dispatch name kind p).2.bench.Holds other i x) : s.bench.Holds other i x := by
  unfold dispatch at h
  split at h
  · exact h
  · split at h
    · exact Bench.holds_lock h
    · exact Bench.holds_lock (Bench.holds_unlock h)

/-- A value that comes to stand in a slot when a check is evaluated is a weight of the check. -/
theorem holds_evaluate {c : Check} {r : Request}
    (h : (s.evaluate request slot c r).2.bench.Holds other i x) :
    s.bench.Holds other i x ∨ x ∈ c.weights := by
  have hpick {w : HitMiss Float} {field : Option Text} {test : Text → Bool}
      (hw : (field.bind fun value => w.pick (test value)) = some x) : x ∈ w.weights := by
    obtain ⟨value, -, hw⟩ := Option.bind_eq_some_iff.mp hw
    exact HitMiss.mem_weights_of_pick hw
  cases c with
  | valueList c => exact (holds_record h).imp_right hpick
  | pattern c => exact (holds_record h).imp_right hpick
  | keyFile c => exact (holds_evaluateKeyFile h).imp_right fun ⟨_, hw⟩ => hpick hw
  | blockList c | senderPolicy c =>
    simp only [evaluate] at h
    split at h
    · exact .inl h
    · exact .inl (holds_dispatch h)

end EngineState

/-- Only weights of a check are ever written by it. -/
theorem Check.mem_weights_of_writes {c : Check} {x : Float} (h : c.Writes x) : x ∈ c.weights := by
  cases h with
  | evaluating s request slot r other i hbefore hafter =>
    exact (EngineState.holds_evaluate hafter).resolve_left hbefore
  | probing net b p other i hc hbefore hafter =>
    exact Probe.mem_weights_of_find hc ((Probe.holds_finish hafter).resolve_left hbefore)

/-! ### What can be built -/

theorem SenderPolicy.make_spec {s : SpfSettings} {c : SenderPolicy} (h : make s = .ok c) :
    c.weights = s.weights ∧ c.bounds.isFinite = true := by
  unfold make at h
  dsimp only at h
  split at h
  · cases h
    exact ⟨rfl, by assumption⟩
  · cases h

theorem HitMiss.isFinite_iff (w : HitMiss Float) :
    w.isFinite = true ↔ ∀ x ∈ w.weights, x.isFinite = true :=
  List.all_eq_true

theorem ValueList.isFinite_of_make {s : ValueListSettings} {c : ValueList} (h : make s = .ok c) :
    c.weights.isFinite = true := by
  unfold make at h
  split at h
  · cases h
  · split at h
    · cases h
    · rename_i hfinite
      cases h
      simpa using hfinite

theorem PatternCheck.isFinite_of_make {s : PatternSettings} {c : PatternCheck}
    (h : make s = .ok c) :
    c.weights.isFinite = true := by
  unfold make at h
  split at h
  · cases h
  · split at h
    · cases h
    · rename_i hfinite
      cases h
      simpa using hfinite

theorem KeyCheck.isFinite_of_make {s : KeyFileSettings} {backoff : BackoffSettings} {now : Nat}
    {e : Entry}
    {c : KeyCheck} {f : KeyFile} (h : make s backoff now e = .ok (c, f)) :
    c.weights.isFinite = true := by
  unfold make at h
  split at h
  · cases h
  · rename_i hfinite
    split at h
    · cases h
    · cases h
      simpa using hfinite

namespace Check

variable {s : CheckSettings} {backoff : BackoffSettings} {now : Nat} {files : Files} {c : Check}
  {m : Memory}

/-- A check that can be built has finite weights, or is a sender policy check whose range is
finite. -/
theorem build_spec (h : build s backoff now files = .ok (c, m)) :
    (∀ w ∈ c.weights, w.isFinite = true) ∨
      ∃ t : SpfSettings, s = .spf t ∧ c.weights = t.weights.all ∧ c.bounds.isFinite = true := by
  have hrows {t : WeightTable Float} (ht : ∀ e ∈ t.entries, e.weight.isFinite = true) :
      ∀ w ∈ t.entries.map (·.weight), w.isFinite = true := by
    intro w hw
    obtain ⟨e, he, rfl⟩ := List.mem_map.mp hw
    exact ht e he
  cases s with
  | dnsbl s | rhsbl s =>
    obtain ⟨l, hl, heq⟩ := exists_of_map_eq_ok h
    cases heq
    exact .inl (hrows (WeightTable.isFinite_of_make (BlockList.make_spec hl).2))
  | spf s =>
    obtain ⟨p, hp, heq⟩ := exists_of_map_eq_ok h
    cases heq
    obtain ⟨hweights, hbounds⟩ := SenderPolicy.make_spec hp
    refine .inr ⟨s, rfl, ?_, hbounds⟩
    rw [weights, hweights]
  | str s =>
    obtain ⟨l, hl, heq⟩ := exists_of_map_eq_ok h
    cases heq
    exact .inl (l.weights.isFinite_iff.mp (ValueList.isFinite_of_make hl))
  | pcre s =>
    obtain ⟨l, hl, heq⟩ := exists_of_map_eq_ok h
    cases heq
    exact .inl (l.weights.isFinite_iff.mp (PatternCheck.isFinite_of_make hl))
  | hash s =>
    obtain ⟨⟨l, f⟩, hl, heq⟩ := exists_of_map_eq_ok h
    cases heq
    exact .inl (l.weights.isFinite_iff.mp (KeyCheck.isFinite_of_make hl))

/-- The range of a check that can be built is finite. -/
theorem isFinite_bounds (h : build s backoff now files = .ok (c, m)) :
    c.bounds.isFinite = true := by
  rcases build_spec h with hfinite | ⟨t, -, -, hbounds⟩
  · rw [bounds_eq_ofWeights]
    exact Bounds.isFinite_ofWeights hfinite
  · exact hbounds

/-- A sender policy check writes each of its weights: some evaluation has the result that it
stands for. -/
theorem writes_of_weight? {p : SenderPolicy} {r : SpfResult} {w : Float}
    (h : p.weights.weight? r = some w) :
    (senderPolicy p).Writes w := by
  obtain ⟨q, a, hq⟩ : ∃ q : Request, ∃ a, q.clientAddress? = some a :=
    ⟨⟨[("client_address".toList, "192.0.2.1".toList)]⟩,
      .v4 (Ipv4.ofOctets [192, 0, 2, 1]), by decide +kernel⟩
  -- One score of one slot, whose guard the probe holds.
  let b : Bench :=
    { checks := [senderPolicy p], memories := [], boards := [(Board.blank 1).attempt (.lock 0)], now := 0 }
  let net : Network := ⟨fun _ => .never, fun _ _ => r⟩
  refine .probing net b ⟨0, 0, q⟩ 0 0 rfl (fun hold => by cases hold) ?_
  have hfind : (Probe.find net b ⟨0, 0, q⟩).1 = .points w := by
    simp only [Probe.find, b, List.getElem?_cons_zero, SenderPolicy.subject?, hq, Option.map_some,
      Finding.ofResult, net, h]
  have hend : (Probe.finish net b ⟨0, 0, q⟩).2 =
      ((Probe.find net b ⟨0, 0, q⟩).2.settleFinding 0 0 (.points w)).unlock 0 0 := by
    rw [← hfind]
    rfl
  have hboards := Probe.boards_find net b ⟨0, 0, q⟩
  rw [hend]
  generalize (Probe.find net b ⟨0, 0, q⟩).2 = found at hboards ⊢
  cases found
  cases hboards
  rfl

theorem exists_weight?_of_mem {α : Type} {w : SpfWeights α} {x : α} (h : x ∈ w.all) :
    ∃ r, w.weight? r = some x := by
  simp only [SpfWeights.all, List.mem_cons, List.not_mem_nil, or_false] at h
  rcases h with rfl | rfl | rfl | rfl | rfl | rfl
  · exact ⟨.pass, rfl⟩
  · exact ⟨.fail, rfl⟩
  · exact ⟨.softfail, rfl⟩
  · exact ⟨.neutral, rfl⟩
  · exact ⟨.none, rfl⟩
  · exact ⟨.permerror, rfl⟩

/-- **A check that can be built has a finite range with zero in it, and keeps within that range
exactly if it is no sender policy check with a weight that is no number.** -/
theorem writes_within_bounds_iff (h : build s backoff now files = .ok (c, m)) :
    c.bounds.isFinite = true ∧ c.bounds.low ≤ 0 ∧ 0 ≤ c.bounds.high ∧
      ((∀ x, c.Writes x → x.isFinite = true ∧ c.bounds.low ≤ x ∧ x ≤ c.bounds.high) ↔
        ∀ t, s = .spf t → ∀ w ∈ t.weights.all, w.isNaN = false) := by
  have hbounds := isFinite_bounds h
  have hfinite := hbounds
  rw [Bounds.isFinite, Bool.and_eq_true] at hfinite
  rw [bounds_eq_ofWeights] at hfinite ⊢
  refine ⟨by rwa [bounds_eq_ofWeights] at hbounds, Bounds.low_le_zero _, Bounds.zero_le_high _, ?_, ?_⟩
  · rintro hsound t rfl w hw
    obtain ⟨p, hp, heq⟩ := exists_of_map_eq_ok h
    cases heq
    rw [← (SenderPolicy.make_spec hp).1] at hw
    obtain ⟨r, hr⟩ := exists_weight?_of_mem hw
    exact Float.isNaN_of_isFinite (hsound w (writes_of_weight? hr)).1
  · intro hnumbers x hx
    have hmem := mem_weights_of_writes hx
    have hx : x.isNaN = false := by
      rcases build_spec h with hall | ⟨t, rfl, hweights, -⟩
      · exact Float.isNaN_of_isFinite (hall x hmem)
      · rw [hweights] at hmem
        exact hnumbers t rfl x hmem
    have hlow := Bounds.low_le_of_mem hmem hx
    have hhigh := Bounds.le_high_of_mem hmem hx
    exact ⟨Float.isFinite_of_mem hfinite.1 hfinite.2 hlow hhigh, hlow, hhigh⟩

theorem build_spf {name : Text} {w : SpfWeights Float} (own : Option BackoffSettings)
    (hfinite : (Bounds.ofWeights w.all).isFinite = true) :
    build (.spf ⟨name, w, own⟩) backoff now files =
      .ok (senderPolicy ⟨name, w⟩, freshFailures own backoff) := by
  have hmake : SenderPolicy.make ⟨name, w, own⟩ = .ok ⟨name, w⟩ := if_pos hfinite
  rw [build, hmake]
  rfl

/-- A sender policy check with numbers for weights, which keeps within its range. -/
theorem writes_within_bounds_of_numbers :
    let w : SpfWeights Float := ⟨-1, 4, 2, 0, 0, 1⟩
    build (.spf ⟨[], w, none⟩) {} 0 {} = .ok (senderPolicy ⟨[], w⟩, freshFailures none {}) ∧
      ∀ x, (senderPolicy ⟨[], w⟩).Writes x →
        x.isFinite = true ∧ (Bounds.ofWeights w.all).low ≤ x ∧
          x ≤ (Bounds.ofWeights w.all).high := by
  intro w
  have hbuild : build (.spf ⟨[], w, none⟩) {} 0 {} =
      .ok (senderPolicy ⟨[], w⟩, freshFailures none {}) := build_spf none (by decide +kernel)
  have hnumbers : ∀ v ∈ w.all, v.isNaN = false := by
    decide +kernel
  refine ⟨hbuild, (writes_within_bounds_iff hbuild).2.2.2.mpr ?_⟩
  rintro t ht
  cases ht
  exact hnumbers

/-- With the weight of a soft failure no number, the check can be built and writes it. -/
theorem writes_nan :
    let w : SpfWeights Float := ⟨0, 0, 0 / 0, 0, 0, 0⟩
    build (.spf ⟨[], w, none⟩) {} 0 {} = .ok (senderPolicy ⟨[], w⟩, freshFailures none {}) ∧
      (senderPolicy ⟨[], w⟩).Writes w.softfail ∧ w.softfail.isFinite = false ∧
      ¬w.softfail ≤ (Bounds.ofWeights w.all).high := by
  intro w
  refine ⟨build_spf none ?_, writes_of_weight? (r := .softfail) rfl, ?_, ?_⟩
  · decide +kernel
  · decide +kernel
  · decide +kernel

end Check

end MailPolicy
