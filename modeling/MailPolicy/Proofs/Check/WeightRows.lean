/-
Weight tables and the rows that they are made of.

* `mapM_eq_ok_iff` — a list is read if each of its parts is;
* `WeightTable.make_eq_ok_iff` — which rows make which table;
* `WeightTable.entries_ofEntries` — a table has its rows by falling length of the network;
* `WeightTable.isFinite_of_make` — every weight in a table that was made is a finite number;
* `WeightTable.mem_matching_iff` — the weights that a table gives some answers.
-/
import Mathlib.Data.List.Basic
import Mathlib.Tactic.ByContra
import MailPolicy.Check.WeightTable

namespace MailPolicy

/-! ### Rows -/

/-- Everything is read, or nothing is. -/
theorem mapM_eq_ok_iff {ε α β : Type} {f : α → Except ε β} {l : List α} {r : List β} :
    l.mapM f = .ok r ↔ (∀ x ∈ l, ∃ y, f x = .ok y) ∧ r = l.filterMap fun x => (f x).toOption := by
  induction l generalizing r with
  | nil =>
    rw [List.mapM_nil, List.filterMap_nil]
    constructor
    · intro h
      cases h
      exact ⟨nofun, rfl⟩
    · rintro ⟨-, rfl⟩
      rfl
  | cons x rest ih =>
    rw [List.mapM_cons, List.forall_mem_cons, List.filterMap_cons]
    cases hx : f x with
    | error e => exact iff_of_false nofun fun ⟨⟨⟨y, hy⟩, _⟩, _⟩ => nomatch hy
    | ok y =>
      cases hrest : rest.mapM f with
      | error e =>
        refine iff_of_false nofun fun ⟨⟨_, hall⟩, _⟩ => ?_
        cases hrest.symm.trans (ih.mpr ⟨hall, rfl⟩)
      | ok ys =>
        obtain ⟨hall, hys⟩ := ih.mp hrest
        subst hys
        exact ⟨fun h => by cases h; exact ⟨⟨⟨y, rfl⟩, hall⟩, rfl⟩, fun ⟨_, h⟩ => by rw [h]; rfl⟩

/-- The network of a row as it is written, or that of the one address that stands there. -/
def WeightRow.written? (row : WeightRow) : Option (Prefix 32) :=
  let text := Text.trim row.network
  Prefix.parseIpv4? (if text.contains '/' then text else text ++ "/32".toList)

/-- The entry for a row. -/
def WeightRow.entry? (row : WeightRow) : Option (WeightEntry Float) :=
  row.written?.map fun network => ⟨network.truncate, row.weight⟩

namespace WeightTable

variable {rows : List WeightRow} {row : WeightRow} {weight : Option Float} {t : WeightTable Float}
  {answers : List Ipv4} {e : WeightEntry Float} {w : Float}

theorem entry_eq_ok_iff :
    entry row = .ok e ↔ row.entry? = some e ∧ row.weight.isFinite = true := by
  have hnetwork : network? (Text.trim row.network) = row.written?.map Prefix.truncate := rfl
  unfold entry WeightRow.entry?
  dsimp only
  rw [hnetwork]
  cases row.written? with
  | none => simp
  | some network => cases hfinite : row.weight.isFinite <;> simp

theorem bareEntry_eq_ok_iff :
    bareEntry w = .ok e ↔ e = ⟨loopback, w⟩ ∧ w.isFinite = true := by
  unfold bareEntry
  cases hfinite : w.isFinite <;> simp [eq_comm]

/-- The entries for the rows of a configuration and the weight of all answers, in this order. -/
def listed (rows : List WeightRow) (weight : Option Float) : List (WeightEntry Float) :=
  rows.filterMap WeightRow.entry? ++ weight.toList.map fun w => ⟨loopback, w⟩

/-- Whether rows and a weight make a table: every row has a network, the weights are finite numbers,
and there is one. -/
structure Accepted (rows : List WeightRow) (weight : Option Float) : Prop where
  readable : ∀ row ∈ rows, row.written?.isSome = true ∧ row.weight.isFinite = true
  finite : ∀ w ∈ weight.toList, w.isFinite = true
  nonempty : rows ≠ [] ∨ weight.toList ≠ []

theorem mapM_entry_eq_ok_iff {entries : List (WeightEntry Float)} :
    rows.mapM entry = .ok entries ↔
      (∀ row ∈ rows, row.written?.isSome = true ∧ row.weight.isFinite = true) ∧
        entries = rows.filterMap WeightRow.entry? := by
  have hread (row : WeightRow) : (∃ e, entry row = .ok e) ↔
      row.written?.isSome = true ∧ row.weight.isFinite = true := by
    simp only [entry_eq_ok_iff, exists_and_right, WeightRow.entry?, ← Option.isSome_iff_exists,
      Option.isSome_map]
  simp only [mapM_eq_ok_iff, hread]
  refine and_congr_right fun hrows => ?_
  have hsame : rows.filterMap (fun row => (entry row).toOption) = rows.filterMap WeightRow.entry? := by
    refine List.filterMap_congr fun row hrow => ?_
    obtain ⟨e, he⟩ := (hread row).mpr (hrows row hrow)
    rw [he, (entry_eq_ok_iff.mp he).1]
    rfl
  rw [hsame]

theorem mapM_bareEntry_eq_ok_iff {weights : List Float} {entries : List (WeightEntry Float)} :
    weights.mapM bareEntry = .ok entries ↔ (∀ w ∈ weights, w.isFinite = true) ∧
      entries = weights.map fun w => ⟨loopback, w⟩ := by
  have hread (w : Float) : (∃ e, bareEntry w = .ok e) ↔ w.isFinite = true := by
    simp only [bareEntry_eq_ok_iff, exists_eq_left]
  simp only [mapM_eq_ok_iff, hread]
  refine and_congr_right fun hweights => ?_
  have hsame : weights.filterMap (fun w => (bareEntry w).toOption) =
      weights.map fun w => ⟨loopback, w⟩ := by
    rw [← List.filterMap_eq_map]
    refine List.filterMap_congr fun w hw => ?_
    rw [bareEntry_eq_ok_iff.mpr ⟨rfl, hweights w hw⟩]
    rfl
  rw [hsame]

theorem listed_eq_nil_iff (hrows : ∀ row ∈ rows, row.written?.isSome = true)
    (weight : Option Float) :
    listed rows weight = [] ↔ rows = [] ∧ weight.toList = [] := by
  rw [listed, List.append_eq_nil_iff, List.map_eq_nil_iff, List.filterMap_eq_nil_iff]
  refine and_congr_left fun _ => ⟨fun h => ?_, fun h => by simp [h]⟩
  refine List.eq_nil_iff_forall_not_mem.mpr fun row hrow => ?_
  have hnone : row.written? = none := Option.map_eq_none_iff.mp (h row hrow)
  have hsome := hrows row hrow
  rw [hnone] at hsome
  cases hsome

/-- What becomes of rows and a weight that can be read. -/
theorem make_of_read {read bare : List (WeightEntry Float)} (hread : rows.mapM entry = .ok read)
    (hbare : weight.toList.mapM bareEntry = .ok bare) : make rows weight =
      if (read ++ bare).isEmpty then .error .noWeights else .ok (ofEntries (read ++ bare)) := by
  simp only [make, hread, hbare, bind, Except.bind]
  generalize read ++ bare = entries
  cases entries <;> rfl

/-- Which rows make which table. -/
theorem make_eq_ok_iff :
    make rows weight = .ok t ↔ Accepted rows weight ∧ t = ofEntries (listed rows weight) := by
  constructor
  · intro h
    cases hrows : rows.mapM entry with
    | error reason => simp [make, hrows, bind, Except.bind] at h
    | ok read =>
      cases hbare : weight.toList.mapM bareEntry with
      | error reason => simp [make, hrows, hbare, bind, Except.bind] at h
      | ok bare =>
        rw [make_of_read hrows hbare] at h
        obtain ⟨hread, rfl⟩ := mapM_entry_eq_ok_iff.mp hrows
        obtain ⟨hfinite, rfl⟩ := mapM_bareEntry_eq_ok_iff.mp hbare
        rw [← listed] at h
        split at h
        · cases h
        · rename_i hlisted
          rw [List.isEmpty_iff, listed_eq_nil_iff fun row hrow => (hread row hrow).1] at hlisted
          cases h
          exact ⟨⟨hread, hfinite, not_and_or.mp hlisted⟩, rfl⟩
  · rintro ⟨haccepted, rfl⟩
    rw [make_of_read (mapM_entry_eq_ok_iff.mpr ⟨haccepted.readable, rfl⟩)
      (mapM_bareEntry_eq_ok_iff.mpr ⟨haccepted.finite, rfl⟩), ← listed, if_neg]
    rw [List.isEmpty_iff, listed_eq_nil_iff fun row hrow => (haccepted.readable row hrow).1]
    exact fun hempty => haccepted.nonempty.elim (· hempty.1) (· hempty.2)

/-! ### Tables -/

theorem entries_ofEntries (entries : List (WeightEntry Float)) :
    (ofEntries entries).entries.Perm entries ∧
      (ofEntries entries).entries.Pairwise fun a b => b.network.length ≤ a.network.length := by
  refine ⟨List.mergeSort_perm _ _, ?_⟩
  have hsorted : (ofEntries entries).entries.Pairwise fun a b =>
      decide (b.network.length ≤ a.network.length) = true := List.pairwise_mergeSort
    (fun a b c hab hbc => by simp only [decide_eq_true_eq] at hab hbc ⊢; omega)
    (fun a b => by simp only [Bool.or_eq_true, decide_eq_true_eq]; omega) entries
  exact hsorted.imp of_decide_eq_true

theorem isFinite_of_make (h : make rows weight = .ok t) : ∀ e ∈ t.entries, e.weight.isFinite = true := by
  obtain ⟨haccepted, rfl⟩ := make_eq_ok_iff.mp h
  intro e he
  rcases List.mem_append.mp ((entries_ofEntries _).1.mem_iff.mp he) with he | he
  · obtain ⟨row, hrow, hentry⟩ := List.mem_filterMap.mp he
    obtain ⟨network, -, rfl⟩ := Option.map_eq_some_iff.mp hentry
    exact (haccepted.readable row hrow).2
  · obtain ⟨w, hw, rfl⟩ := List.mem_map.mp he
    exact haccepted.finite w hw

theorem mem_matching_iff : w ∈ t.matching answers ↔
    ∃ a ∈ answers, ∃ e ∈ t.entries, e.network.contains a = true ∧ e.weight = w := by
  simp only [matching, List.mem_flatMap, List.mem_map, List.mem_filter, and_assoc]

end WeightTable
end MailPolicy
