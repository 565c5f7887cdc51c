/-
The labels of a text.

* `Dns.parts_append_dot`, `Dns.parts_of_notMem` — labels are what stands between dots;
* `Dns.parts_intercalate` — labels that are written with dots between them are found again;
* `Dns.nil_mem_parts_iff` — **a label is empty where a dot stands at an end or beside another**.
-/
import Mathlib.Data.List.Infix
import MailPolicy.Dns.Name

namespace MailPolicy.Dns

variable {s : Text} {c : Char} {labels : List Text}

theorem parts_ne_nil (s : Text) : parts s ≠ [] := by
  cases s with
  | nil => exact List.cons_ne_nil _ _
  | cons c s =>
    rw [parts]
    split
    · exact List.cons_ne_nil _ _
    · split <;> exact List.cons_ne_nil _ _

theorem parts_cons_dot (s : Text) : parts ('.' :: s) = [] :: parts s := by
  rw [parts]
  split
  · exact absurd ‹_› (parts_ne_nil s)
  · rw [if_pos rfl, ‹parts s = _›]

/-- Any other character goes to the first label. -/
theorem exists_parts_cons (hc : c ≠ '.') (s : Text) :
    ∃ first others, parts s = first :: others ∧ parts (c :: s) = (c :: first) :: others := by
  obtain ⟨first, others, h⟩ := List.exists_cons_of_ne_nil (parts_ne_nil s)
  refine ⟨first, others, h, ?_⟩
  rw [parts, h]
  simp only [hc, if_false]

/-- A dot between two texts ends the last label of the first. -/
theorem parts_append_dot (s t : Text) : parts (s ++ '.' :: t) = parts s ++ parts t := by
  induction s with
  | nil => exact parts_cons_dot t
  | cons c s ih =>
    by_cases hc : c = '.'
    · rw [hc, List.cons_append, parts_cons_dot, parts_cons_dot, ih, List.cons_append]
    · obtain ⟨first, others, hrest, hparts⟩ := exists_parts_cons hc s
      obtain ⟨first', others', hrest', hparts'⟩ := exists_parts_cons hc (s ++ '.' :: t)
      rw [ih, hrest, List.cons_append] at hrest'
      obtain ⟨rfl, rfl⟩ := List.cons.inj hrest'
      rw [List.cons_append, hparts', hparts, List.cons_append]

theorem parts_of_notMem (hs : '.' ∉ s) : parts s = [s] := by
  induction s with
  | nil => rfl
  | cons c s ih =>
    rw [List.mem_cons, not_or] at hs
    obtain ⟨first, others, hrest, hparts⟩ := exists_parts_cons (Ne.symm hs.1) s
    obtain ⟨rfl, rfl⟩ := List.cons.inj (hrest.symm.trans (ih hs.2))
    exact hparts

/-- Labels that are written with dots between them are found again. -/
theorem parts_intercalate (hne : labels ≠ []) (h : ∀ label ∈ labels, '.' ∉ label) :
    parts (List.intercalate ['.'] labels) = labels := by
  induction labels with
  | nil => exact absurd rfl hne
  | cons label labels ih =>
    obtain ⟨hlabel, hlabels⟩ := List.forall_mem_cons.mp h
    cases labels with
    | nil => simpa [List.intercalate] using parts_of_notMem hlabel
    | cons next labels =>
      rw [List.intercalate_cons_cons, List.append_assoc, List.singleton_append,
        parts_append_dot, parts_of_notMem hlabel, ih (List.cons_ne_nil _ _) hlabels,
        List.singleton_append]

/-- A map that leaves the dots alone maps the labels. -/
theorem parts_map {f : Char → Char} (hf : ∀ c, f c = '.' ↔ c = '.') (s : Text) :
    parts (s.map f) = (parts s).map (List.map f) := by
  induction s with
  | nil => rfl
  | cons c s ih =>
    by_cases hc : c = '.'
    · rw [hc, List.map_cons, (hf '.').mpr rfl, parts_cons_dot, parts_cons_dot, ih, List.map_cons,
        List.map_nil]
    · obtain ⟨first, others, hrest, hparts⟩ := exists_parts_cons hc s
      obtain ⟨first', others', hrest', hparts'⟩ := exists_parts_cons (mt (hf c).mp hc) (s.map f)
      rw [ih, hrest, List.map_cons] at hrest'
      obtain ⟨rfl, rfl⟩ := List.cons.inj hrest'
      rw [List.map_cons, hparts', hparts, List.map_cons, List.map_cons]

/-- Whether two dots stand side by side. -/
def HasDots (s : Text) : Prop := ['.', '.'] <:+: s

instance (s : Text) : Decidable (HasDots s) := inferInstanceAs (Decidable (['.', '.'] <:+: s))

theorem hasDots_cons_iff : HasDots (c :: s) ↔ (c = '.' ∧ s.head? = some '.') ∨ HasDots s := by
  rw [HasDots, List.infix_cons_iff, List.cons_prefix_cons, HasDots, eq_comm]
  cases s with
  | nil => simp
  | cons d s => simp [eq_comm]

theorem getLast?_cons_eq_dot_iff :
    (c :: s).getLast? = some '.' ↔ (c = '.' ∧ s = []) ∨ s.getLast? = some '.' := by
  cases s with
  | nil => simp
  | cons d s => simp [List.getLast?_cons_cons]

/-- The first label is empty if a dot stands in front, and another one if a dot stands at the end or
beside another. -/
theorem nil_mem_tail_parts_iff :
    ((parts s).head? = some [] ↔ s = [] ∨ s.head? = some '.') ∧
      ([] ∈ (parts s).tail ↔ s.getLast? = some '.' ∨ HasDots s) := by
  induction s with
  | nil => simp [parts, HasDots]
  | cons c s ih =>
    by_cases hc : c = '.'
    · subst hc
      obtain ⟨first, others, hparts⟩ := List.exists_cons_of_ne_nil (parts_ne_nil s)
      rw [parts_cons_dot, getLast?_cons_eq_dot_iff, hasDots_cons_iff]
      rw [hparts] at ih ⊢
      simp only [List.head?_cons, List.tail_cons, Option.some.injEq, List.mem_cons] at ih ⊢
      grind
    · obtain ⟨first, others, hrest, hparts⟩ := exists_parts_cons hc s
      rw [hrest] at ih
      rw [hparts, getLast?_cons_eq_dot_iff, hasDots_cons_iff]
      simp only [List.head?_cons, List.tail_cons] at ih ⊢
      grind

/-- A label is empty where a dot stands at an end or beside another, and in the empty text. -/
theorem nil_mem_parts_iff :
    [] ∈ parts s ↔ s = [] ∨ s.head? = some '.' ∨ s.getLast? = some '.' ∨ HasDots s := by
  obtain ⟨first, others, hparts⟩ := List.exists_cons_of_ne_nil (parts_ne_nil s)
  have hcases := nil_mem_tail_parts_iff (s := s)
  rw [hparts] at hcases ⊢
  simp only [List.head?_cons, List.tail_cons, Option.some.injEq] at hcases
  rw [List.mem_cons, eq_comm, hcases.1, hcases.2, or_assoc]

end MailPolicy.Dns
