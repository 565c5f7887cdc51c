/-
The weight of a listing.

A weight table keeps its rows by falling length of the network, and goes through all of them for each
answer of a list.  Neither order matters: what comes out is the greatest of the weights that some row
gives some answer, and rows and answers count as sets.

* `WeightTable.Weighs` — the weights that the rows of a configuration give an answer;
* `Greatest` — a number, or none, as the greatest with a property;
* `WeightTable.greatest_heaviest?` — the weight of a listing is the greatest that is given;
* `WeightTable.heaviest_exact` — **the weight of a listing, whatever the order and the number of
  times in which rows and answers come**.
-/
import MailPolicy.Proofs.Check.WeightBounds

namespace MailPolicy

/-! ### The loopback network -/

theorem WeightTable.contains_loopback_iff (a : Ipv4) :
    loopback.contains a = true ↔ a >>> 24 = 127 := by
  rw [Prefix.contains, beq_iff_eq]
  exact Iff.rfl

/-! ### Greatest numbers -/

/-- Whether a number is the greatest with a property; nothing is if no number has it. -/
def Greatest (P : Float → Prop) : Option Float → Prop
  | none => ∀ w, ¬P w
  | some w => P w ∧ ∀ v, P v → v ≤ w

namespace Greatest

variable {P Q : Float → Prop} {x y : Option Float}

/-- The greatest with a property is at most the greatest with a weaker one. -/
theorem le_of_imp (hx : Greatest P x) (hy : Greatest Q y) (h : ∀ w, P w → Q w) : x ≤ y := by
  cases x with
  | none => cases y <;> trivial
  | some w =>
    cases y with
    | none => exact absurd (h w hx.1) (hy w)
    | some v => exact hy.2 w (h w hx.1)

/-- There is one greatest number with a property. -/
theorem beq_of_iff (hx : Greatest P x) (hy : Greatest Q y) (h : ∀ w, P w ↔ Q w) :
    (x == y) = true := by
  have hle := hx.le_of_imp hy fun w => (h w).mp
  have hge := hy.le_of_imp hx fun w => (h w).mpr
  cases x with
  | none =>
    cases y with
    | none => rfl
    | some v => exact absurd ((h v).mpr hy.1) (hx v)
  | some w =>
    cases y with
    | none => exact absurd ((h w).mp hx.1) (hy w)
    | some v => exact Float.beq_of_le_of_le hle hge

end Greatest

namespace WeightTable

variable {rows rows' : List WeightRow} {weight weight' : Option Float} {t : WeightTable Float}
  {a : Ipv4} {w v : Float}

/-! ### The greatest weight -/

theorem le_heavier_left (hw : w.isNaN = false) : w ≤ heavier w v := by
  unfold heavier
  split
  · rename_i hlt
    exact Float.le_of_lt hlt
  · exact Float.le_rfl_of_isNaN hw

theorem le_heavier_right (hw : w.isNaN = false) (hv : v.isNaN = false) : v ≤ heavier w v := by
  unfold heavier
  split
  · exact Float.le_rfl_of_isNaN hv
  · rename_i hlt
    exact Float.le_of_not_lt hw hv hlt

/-- The fold comes to a weight that is at least each of them. -/
theorem le_foldl_heavier {ws : List Float} (h : ∀ v ∈ w :: ws, v.isNaN = false) :
    ∀ v ∈ w :: ws, v ≤ ws.foldl heavier w := by
  induction ws generalizing w with
  | nil =>
    intro v hv
    obtain rfl := List.mem_singleton.mp hv
    exact Float.le_rfl_of_isNaN (h v hv)
  | cons u rest ih =>
    have hw := h w List.mem_cons_self
    have hu := h u (List.mem_cons_of_mem _ List.mem_cons_self)
    have hfirst : (heavier w u).isNaN = false := by
      unfold heavier
      split <;> assumption
    have hmore := ih (w := heavier w u) (List.forall_mem_cons.mpr ⟨hfirst, fun v hv =>
      h v (List.mem_cons_of_mem _ (List.mem_cons_of_mem _ hv))⟩)
    have hstep : heavier w u ≤ rest.foldl heavier (heavier w u) := hmore _ List.mem_cons_self
    rw [List.foldl_cons]
    intro v hv
    rcases List.mem_cons.mp hv with rfl | hv
    · exact Float.le_trans (le_heavier_left hw) hstep
    · rcases List.mem_cons.mp hv with rfl | hv
      · exact Float.le_trans (le_heavier_right hw hu) hstep
      · exact hmore v (List.mem_cons_of_mem _ hv)

theorem greatest_heaviest? (h : ∀ e ∈ t.entries, e.weight.isFinite = true) (answers : List Ipv4) :
    Greatest (fun w => ∃ a ∈ answers, ∃ e ∈ t.entries, e.network.contains a = true ∧ e.weight = w)
      (t.heaviest? answers) := by
  have hnumber : ∀ w ∈ t.matching answers, w.isNaN = false := by
    intro w hw
    obtain ⟨-, -, e, he, -, rfl⟩ := mem_matching_iff.mp hw
    exact Float.isNaN_of_isFinite (h e he)
  simp only [← mem_matching_iff]
  unfold heaviest?
  generalize t.matching answers = ws at hnumber
  cases ws with
  | nil => exact fun w => List.not_mem_nil
  | cons w ws => exact ⟨foldl_heavier_mem w ws, le_foldl_heavier hnumber⟩

/-! ### What a configuration says -/

/-- The weights that rows and a weight for all answers give an answer: that of each row whose network
it lies in, by the leading bits of the address that is written there, and the weight for all answers
if it lies in 127.0.0.0/8. -/
inductive Weighs (rows : List WeightRow) (weight : Option Float) (a : Ipv4) : Float → Prop
  | row {row : WeightRow} {network : Prefix 32} : row ∈ rows → row.written? = some network →
      (∀ i < network.length, a.getMsbD i = network.address.getMsbD i) →
      Weighs rows weight a row.weight
  | bare {w : Float} : weight = some w → a >>> 24 = 127 → Weighs rows weight a w

theorem Weighs.mono (h : Weighs rows weight a w) (hrows : rows ⊆ rows')
    (hweight : weight.toList ⊆ weight'.toList) : Weighs rows' weight' a w := by
  cases h with
  | row hrow hwritten hbits => exact .row (hrows hrow) hwritten hbits
  | bare hbare hbits =>
    exact .bare (Option.mem_toList.mp (hweight (Option.mem_toList.mpr hbare))) hbits

/-- The entries say what the configuration does, although their networks are truncated. -/
theorem weighs_iff (h : make rows weight = .ok t) : Weighs rows weight a w ↔
    ∃ e ∈ t.entries, e.network.contains a = true ∧ e.weight = w := by
  obtain ⟨-, rfl⟩ := make_eq_ok_iff.mp h
  simp only [(entries_ofEntries _).1.mem_iff, listed, List.mem_append, List.mem_filterMap,
    List.mem_map]
  constructor
  · intro hweighs
    cases hweighs with
    | @row row network hrow hwritten hbits =>
      refine ⟨⟨network.truncate, row.weight⟩, .inl ⟨row, hrow, ?_⟩, ?_, rfl⟩
      · rw [WeightRow.entry?, hwritten]
        rfl
      · rw [Prefix.contains_truncate, Prefix.contains_iff]
        exact hbits
    | bare hbare hbits =>
      exact ⟨⟨loopback, w⟩, .inr ⟨w, Option.mem_toList.mpr hbare, rfl⟩,
        (contains_loopback_iff a).mpr hbits, rfl⟩
  · rintro ⟨e, ⟨row, hrow, hentry⟩ | ⟨v, hv, rfl⟩, hcontains, rfl⟩
    · obtain ⟨network, hwritten, rfl⟩ := Option.map_eq_some_iff.mp hentry
      rw [Prefix.contains_truncate, Prefix.contains_iff] at hcontains
      exact .row hrow hwritten hcontains
    · exact .bare (Option.mem_toList.mp hv) ((contains_loopback_iff a).mp hcontains)

theorem greatest_of_make (h : make rows weight = .ok t) (answers : List Ipv4) :
    Greatest (fun w => ∃ a ∈ answers, Weighs rows weight a w) (t.heaviest? answers) := by
  simp only [weighs_iff h]
  exact greatest_heaviest? (isFinite_of_make h) answers

/-- Rows make a table together with others that come to the same rows. -/
theorem exists_make_of_same (h : make rows weight = .ok t) (hrows : ∀ row, row ∈ rows' ↔ row ∈ rows) :
    ∃ t', make rows' weight = .ok t' := by
  obtain ⟨haccepted, -⟩ := make_eq_ok_iff.mp h
  refine ⟨_, make_eq_ok_iff.mpr ⟨⟨fun row hrow => haccepted.readable row ((hrows row).mp hrow),
    haccepted.finite, haccepted.nonempty.imp_left fun hne => ?_⟩, rfl⟩⟩
  obtain ⟨row, hrow⟩ := List.exists_mem_of_ne_nil rows hne
  exact List.ne_nil_of_mem ((hrows row).mpr hrow)

/-- **The weight of a listing.**  The table has an entry for each row, with the network truncated, and
for the weight of all answers, by falling length of the network.  An answer list has a weight exactly if
some row gives some answer a weight, and then it is the greatest of them all.  The same rows and
answers in another order, or more often, come to the same number, and more of them do not to less,
no weight being the least. -/
theorem heaviest_exact (h : make rows weight = .ok t) :
    (∀ row ∈ rows, row.written?.isSome = true) ∧
    t.entries.Perm (rows.filterMap WeightRow.entry? ++ weight.toList.map fun w => ⟨loopback, w⟩) ∧
    t.entries.Pairwise (fun a b => b.network.length ≤ a.network.length) ∧
    ∀ answers,
      (t.heaviest? answers = none ↔ ∀ a ∈ answers, ∀ w, ¬Weighs rows weight a w) ∧
      (∀ w, t.heaviest? answers = some w → (∃ a ∈ answers, Weighs rows weight a w) ∧
        ∀ a ∈ answers, ∀ v, Weighs rows weight a v → v ≤ w) ∧
      (∀ rows' answers', (∀ row, row ∈ rows' ↔ row ∈ rows) → (∀ a, a ∈ answers' ↔ a ∈ answers) →
        ∃ t', make rows' weight = .ok t' ∧ (t'.heaviest? answers' == t.heaviest? answers) = true) ∧
      ∀ rows' weight' t' answers', make rows' weight' = .ok t' → rows ⊆ rows' →
        weight.toList ⊆ weight'.toList → answers ⊆ answers' →
        t.heaviest? answers ≤ t'.heaviest? answers' := by
  obtain ⟨haccepted, ht⟩ := make_eq_ok_iff.mp h
  obtain ⟨hperm, hsorted⟩ := entries_ofEntries (listed rows weight)
  refine ⟨fun row hrow => (haccepted.readable row hrow).1, ht ▸ hperm, ht ▸ hsorted, fun answers => ?_⟩
  have hgreatest := greatest_of_make h answers
  refine ⟨⟨fun hnone a ha w hw => ?_, fun hnothing => ?_⟩, fun w hw => ?_, ?_, ?_⟩
  · rw [hnone] at hgreatest
    exact hgreatest w ⟨a, ha, hw⟩
  · cases hw : t.heaviest? answers with
    | none => rfl
    | some w =>
      rw [hw] at hgreatest
      obtain ⟨a, ha, hweighs⟩ := hgreatest.1
      exact absurd hweighs (hnothing a ha w)
  · rw [hw] at hgreatest
    exact ⟨hgreatest.1, fun a ha v hv => hgreatest.2 v ⟨a, ha, hv⟩⟩
  · intro rows' answers' hrows hanswers
    obtain ⟨t', ht'⟩ := exists_make_of_same h hrows
    refine ⟨t', ht', (greatest_of_make ht' answers').beq_of_iff hgreatest fun w => ?_⟩
    refine exists_congr fun a => and_congr (hanswers a) ⟨fun hw => ?_, fun hw => ?_⟩
    · exact hw.mono (fun row => (hrows row).mp) (List.Subset.refl _)
    · exact hw.mono (fun row => (hrows row).mpr) (List.Subset.refl _)
  · intro rows' weight' t' answers' ht' hrows hweight hanswers
    refine hgreatest.le_of_imp (greatest_of_make ht' answers') ?_
    rintro w ⟨a, ha, hw⟩
    exact ⟨a, hanswers ha, hw.mono hrows hweight⟩

/-- Three networks hold one answer, the second of them written with host bits; all weights are
negative. -/
theorem heaviest_exact_overlapping :
    let rows : List WeightRow := [⟨"0.0.0.0/0".toList, -7⟩, ⟨"127.1.2.3/8".toList, -5⟩,
      ⟨"127.0.0.2".toList, -3⟩]
    let answers := [Ipv4.ofOctets [10, 0, 0, 1], Ipv4.ofOctets [127, 0, 0, 2]]
    ∃ t, make rows none = .ok t ∧ t.heaviest? answers = some (-3) := by
  intro rows answers
  have haccepted : Accepted rows none :=
    { readable := by decide +kernel
      finite := nofun
      nonempty := .inl (List.cons_ne_nil _ _) }
  have hmake := make_eq_ok_iff.mpr ⟨haccepted, rfl⟩
  obtain ⟨-, -, -, hlisting⟩ := heaviest_exact hmake
  obtain ⟨hnone, hsome, -⟩ := hlisting answers
  have hwritten : (WeightRow.mk "127.0.0.2".toList (-3)).written? =
      some ⟨Ipv4.ofOctets [127, 0, 0, 2], 32, Nat.le_refl _⟩ := by decide +kernel
  have hthird : Weighs rows none (Ipv4.ofOctets [127, 0, 0, 2]) (-3) :=
    .row (by simp [rows]) hwritten fun _ _ => rfl
  refine ⟨_, hmake, ?_⟩
  cases hw : (ofEntries (listed rows none)).heaviest? answers with
  | none => exact absurd hthird (hnone.mp hw _ (by simp [answers]) _)
  | some w =>
    obtain ⟨⟨a, -, hweighs⟩, hgreatest⟩ := hsome w hw
    have hle : -3 ≤ w := hgreatest _ (by simp [answers]) _ hthird
    cases hweighs with
    | row hrow _ _ =>
      simp only [rows, List.mem_cons, List.not_mem_nil, or_false] at hrow
      rcases hrow with rfl | rfl | rfl
      · exact absurd hle (by decide +kernel)
      · exact absurd hle (by decide +kernel)
      · rfl
    | bare hbare _ => cases hbare

end WeightTable
end MailPolicy
