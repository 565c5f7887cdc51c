/-
A list of values and a file of keys that hold the same.

Both checks compare in lower case, but only the look-up in the file takes the blanks off the value that
it is given.  The fields of a request come without blanks around them, all but the domains of the
mail addresses: what follows the at sign may have blanks at either end.

* `SameValues` — settings that hold the same values;
* `SameValues.contains_eq` — the list has a value if the file has it and nothing is to be taken off;
* `SameValues.outcomes_eq_iff` — **the two checks add the same unless a listed domain is set in
  blanks**.
-/
import MailPolicy.Proofs.Check.KeySession
import MailPolicy.Proofs.Check.KeyText
import MailPolicy.Proofs.Request
import MailPolicy.Proofs.Text.Casing

namespace MailPolicy

/-- Whether a request has a listed value in its field once the blanks around it are taken off, but
not before. -/
def ValueListSettings.InBlanks (s : ValueListSettings) (r : Request) : Prop :=
  ∃ value, r.field? s.field = some value ∧ Text.trim value ≠ value ∧
    Text.lower (Text.trim value) ∈ s.values.map Text.lower

theorem ValueListSettings.InBlanks.field_eq {s : ValueListSettings} {r : Request}
    (h : s.InBlanks r) : s.field = .senderDomain ∨ s.field = .recipientDomain := by
  obtain ⟨value, hfield, hblanks, -⟩ := h
  by_contra hother
  obtain ⟨hsender, hrecipient⟩ := not_or.mp hother
  exact hblanks (Request.trim_of_field? hfield hsender hrecipient)

/-- The keys stay while the file does, look-ups at any time included. -/
theorem KeyFile.set_refresh {f : KeyFile} {e : Entry} {stamp : Stamp} (hstamp : e.stamp = .ok stamp)
    (hset : f.set.stamp = some stamp) (now : Nat) : (f.refresh now e).set = f.set := by
  rw [refresh, claim?_eq]
  split
  · rename_i g hclaim
    obtain ⟨-, hg⟩ := Option.ite_none_right_eq_some.mp hclaim
    cases hg
    rw [sync_eq_self (f := { f with checkedAt := now }) hstamp hset]
  · rfl

/-- Settings of a list of values and of a file of keys, which are to hold the same values, and the
file: values that a file of keys can hold, written into it in any order and any number of times. -/
structure SameValues (s : ValueListSettings) (k : KeyFileSettings) (e : Entry) : Prop where
  nonempty : s.values ≠ []
  plain : ∀ v ∈ s.values, v ≠ [] ∧ ∀ c ∈ v, Text.isBlank c = false ∧ c ≠ '#'
  foldsCase : s.caseSensitive = false
  field_eq : k.field = s.field
  weights_eq : k.weights = s.weights
  written : ∃ text keys, e.read = .ok text ∧ KeyText text keys ∧ ∀ v, v ∈ keys ↔ v ∈ s.values

namespace SameValues

variable {s : ValueListSettings} {k : KeyFileSettings} {e : Entry} {r : Request}

/-- What is made of the settings of a list. -/
def list (s : ValueListSettings) : ValueList where
  name := s.name
  field := s.field
  caseSensitive := false
  values := s.values.map Text.lower
  weights := s.weights

/-- What is made of the settings of a file, the keys apart. -/
def check (k : KeyFileSettings) : KeyCheck where
  name := k.name
  field := k.field
  path := k.path
  weights := k.weights

/-! ### What is made -/

theorem make_list (h : SameValues s k e) (hfinite : s.weights.isFinite = true) :
    ValueList.make s = .ok (list s) := by
  have hnonempty : s.values.isEmpty = false := by simpa using h.nonempty
  have hvalues : s.values.map (ValueList.normalize false) = s.values.map Text.lower := rfl
  simp only [ValueList.make, hnonempty, hfinite, hvalues, h.foldsCase, list, Bool.not_true,
    Bool.false_eq_true, if_false]

/-- The file that is made has the keys of the list, and keeps them while the file stays. -/
theorem make_file (h : SameValues s k e) (hfinite : s.weights.isFinite = true)
    (backoff : BackoffSettings) (made : Nat) :
    ∃ f, KeyCheck.make k backoff made e = .ok (check k, f) ∧ ∀ now key,
      key ∈ (f.refresh now e).set.keys ↔ key ∈ s.values.map Text.lower := by
  obtain ⟨text, keys, hread, htext, hsame⟩ := h.written
  have hload : KeySet.load e e = .ok ⟨KeySet.parse text, e.stamp.toOption⟩ := by
    rw [KeySet.load, hread]
    rfl
  have hmake : KeyCheck.make k backoff made e = .ok (check k,
      ⟨⟨KeySet.parse text, e.stamp.toOption⟩, made, .ofSettings (k.backoff.getD backoff)⟩) := by
    simp only [KeyCheck.make, h.weights_eq, hfinite, hload, check, Bool.not_true,
      Bool.false_eq_true, if_false]
  refine ⟨_, hmake, fun now key => ?_⟩
  obtain ⟨stamp, hstamp⟩ : ∃ stamp, e.stamp = .ok stamp := by
    cases e with
    | absent | directory => cases hread
    | file content time => exact ⟨_, rfl⟩
  rw [KeyFile.set_refresh hstamp (by rw [hstamp]; rfl), htext.mem_parse_iff]
  simp only [List.mem_map, hsame]

/-- Weights that are not finite numbers are refused by both. -/
theorem make_of_not_finite (h : SameValues s k e) (hfinite : s.weights.isFinite = false)
    (backoff : BackoffSettings) (made : Nat) :
    ValueList.make s = .error (.unusable s.name .weightNotFinite) ∧
      KeyCheck.make k backoff made e = .error (.unusable k.name .weightNotFinite) := by
  have hnonempty : s.values.isEmpty = false := by simpa using h.nonempty
  constructor
  · simp only [ValueList.make, hnonempty, hfinite, Bool.false_eq_true, if_false, Bool.not_false,
      if_true]
  · simp only [KeyCheck.make, h.weights_eq, hfinite, Bool.not_false, if_true]

/-! ### What is found -/

/-- A value with blanks at its ends is not in the list. -/
theorem contains_list_of_blanks (h : SameValues s k e) {value : Text}
    (hblanks : Text.trim value ≠ value) : (list s).contains value = false := by
  obtain ⟨c, hc, hblank⟩ := Text.exists_mem_of_dropEnds_ne hblanks
  rw [Bool.eq_false_iff]
  intro hlisted
  obtain ⟨v, hv, hsame⟩ := List.mem_map.mp (List.contains_iff_mem.mp hlisted)
  have hsolid := Text.forall_lower_isBlank_iff.mpr fun d hd => ((h.plain v hv).2 d hd).1
  have hin : c ∈ Text.lower v := by
    rw [hsame]
    exact (Text.mem_lower_iff_of_isBlank hblank).mpr hc
  exact absurd hblank (Bool.eq_false_iff.mp (hsolid c hin))

/-- The list has a value if the file has it and nothing is to be taken off. -/
theorem contains_eq (h : SameValues s k e) {f : KeyFile}
    (hkeys : ∀ key, key ∈ f.set.keys ↔ key ∈ s.values.map Text.lower) (value : Text) :
    (list s).contains value = (f.contains value && decide (Text.trim value = value)) := by
  by_cases hblanks : Text.trim value = value
  · rw [decide_eq_true hblanks, Bool.and_true, KeyFile.contains, hblanks, Bool.eq_iff_iff,
      List.contains_iff_mem, hkeys]
    exact List.contains_iff_mem
  · rw [decide_eq_false hblanks, Bool.and_false, h.contains_list_of_blanks hblanks]

theorem weights_of_inBlanks (h : SameValues s k e) {f : KeyFile}
    (hkeys : ∀ key, key ∈ f.set.keys ↔ key ∈ s.values.map Text.lower) (hr : s.InBlanks r) :
    (list s).weight? r = s.weights.miss ∧ (check k).weight? f r = some s.weights.hit := by
  obtain ⟨value, hfield, hblanks, hlisted⟩ := hr
  have hfile : f.contains value = true := List.contains_iff_mem.mpr ((hkeys _).mpr hlisted)
  have hkeyField : r.field? (check k).field = some value := by
    rw [← hfield, ← h.field_eq]
    rfl
  constructor
  · have hmissed := h.contains_list_of_blanks hblanks
    have hlistField : r.field? (list s).field = some value := hfield
    rw [ValueList.weight?, hlistField, Option.bind_some, hmissed]
    rfl
  · rw [KeyCheck.weight?, hkeyField, Option.bind_some, hfile, ← h.weights_eq]
    rfl

theorem weights_eq_of_not_inBlanks (h : SameValues s k e) {f : KeyFile}
    (hkeys : ∀ key, key ∈ f.set.keys ↔ key ∈ s.values.map Text.lower) (hr : ¬s.InBlanks r) :
    (list s).weight? r = (check k).weight? f r := by
  unfold ValueList.weight? KeyCheck.weight?
  show (r.field? s.field).bind (fun value => s.weights.pick ((list s).contains value)) =
    (r.field? k.field).bind fun value => k.weights.pick (f.contains value)
  rw [h.field_eq, h.weights_eq]
  refine Option.bind_congr fun value hfield => ?_
  rw [h.contains_eq hkeys]
  by_cases hblanks : Text.trim value = value
  · rw [decide_eq_true hblanks, Bool.and_true]
  · have hmissed : f.contains value = false := by
      rw [Bool.eq_false_iff]
      intro hfound
      exact hr ⟨value, hfield, hblanks, (hkeys _).mp (List.contains_iff_mem.mp hfound)⟩
    rw [hmissed, Bool.false_and]

/-- **A list of values and a file of keys with the same values.**  Both checks can be made if the
weights are finite numbers, and neither can otherwise, for that reason.  At any time, they add the same
for a request, or both add nothing, exactly if the field of the request is not a listed value set in
blanks, or a miss counts like a hit.  Only the domains of the sender and of the recipient can be set in
blanks; the list misses them then, and the file does not. -/
theorem outcomes_eq_iff (h : SameValues s k e) (backoff : BackoffSettings) (made : Nat) :
    (s.weights.isFinite = false →
      ValueList.make s = .error (.unusable s.name .weightNotFinite) ∧
        KeyCheck.make k backoff made e = .error (.unusable k.name .weightNotFinite)) ∧
    (s.weights.isFinite = true → ∃ c d f, ValueList.make s = .ok c ∧
      KeyCheck.make k backoff made e = .ok (d, f) ∧ ∀ now r,
        (c.weight? r = d.weight? (f.refresh now e) r ↔
          (s.InBlanks r → s.weights.miss = some s.weights.hit)) ∧
        (s.InBlanks r → (s.field = .senderDomain ∨ s.field = .recipientDomain) ∧
          c.weight? r = s.weights.miss ∧ d.weight? (f.refresh now e) r = some s.weights.hit)) := by
  refine ⟨fun hfinite => h.make_of_not_finite hfinite backoff made, fun hfinite => ?_⟩
  obtain ⟨f, hmake, hkeys⟩ := h.make_file hfinite backoff made
  refine ⟨list s, check k, f, h.make_list hfinite, hmake, fun now r => ⟨⟨?_, ?_⟩, ?_⟩⟩
  · intro hsame hr
    obtain ⟨hlist, hfile⟩ := h.weights_of_inBlanks (hkeys now) hr
    rw [← hlist, hsame, hfile]
  · intro hmiss
    by_cases hr : s.InBlanks r
    · obtain ⟨hlist, hfile⟩ := h.weights_of_inBlanks (hkeys now) hr
      rw [hlist, hfile, hmiss hr]
    · exact h.weights_eq_of_not_inBlanks (hkeys now) hr
  · exact fun hr => ⟨hr.field_eq, h.weights_of_inBlanks (hkeys now) hr⟩

/-- A file with both kinds of line ends, a key in other company, and a comment. -/
theorem outcomes_eq_of_mixed_lines :
    let s : ValueListSettings := { name := [], field := .senderDomain, values := ["A".toList, "B.c".toList],
                                   caseSensitive := false, weights := ⟨4, none⟩ }
    let k : KeyFileSettings := { name := [], field := .senderDomain, path := [], weights := ⟨4, none⟩,
                                 backoff := none }
    let e : Entry := .file [13, 10, 66, 46, 99, 32, 100, 10, 32, 65, 35, 101] 1
    let r : Request := Request.empty.insert "sender".toList "u@b.C".toList
    e.read = .ok "\r\nB.c d\n A#e".toList ∧ SameValues s k e ∧ s.weights.isFinite = true ∧
      ∃ c d f, ValueList.make s = .ok c ∧ KeyCheck.make k {} 0 e = .ok (d, f) ∧
        ∀ now, c.weight? r = d.weight? (f.refresh now e) r := by
  intro s k e r
  have hread : e.read = .ok "\r\nB.c d\n A#e".toList := by
    have hdecode : Utf8.decode? [13, 10, 66, 46, 99, 32, 100, 10, 32, 65, 35, 101] =
        some "\r\nB.c d\n A#e".toList := by decide +kernel
    rw [Entry.read, hdecode]
  have hsame : SameValues s k e :=
    { nonempty := List.cons_ne_nil _ _
      plain := by simp [s, Text.isBlank]
      foldsCase := rfl
      field_eq := rfl
      weights_eq := rfl
      written := by
        refine ⟨_, ["B.c".toList, "A".toList], hread, keyText_iff.mpr (by decide +kernel), fun v => ?_⟩
        exact (List.Perm.swap "A".toList "B.c".toList []).mem_iff }
  have hfinite : s.weights.isFinite = true := by decide +kernel
  obtain ⟨c, d, f, hlist, hfile, hsaid⟩ := (outcomes_eq_iff hsame {} 0).2 hfinite
  have hr : ¬s.InBlanks r := by
    rintro ⟨value, hfield, hblanks, -⟩
    have hvalue : r.field? s.field = some "b.c".toList := by decide +kernel
    cases hvalue.symm.trans hfield
    exact hblanks (by decide +kernel)
  exact ⟨hread, hsame, hfinite, c, d, f, hlist, hfile, fun now =>
    (hsaid now r).1.mpr fun hin => absurd hin hr⟩

/-- A blank behind the domain of the sender: the list misses it. -/
theorem outcomes_ne_in_blanks :
    let s : ValueListSettings := { name := [], field := .senderDomain, values := ["a.b".toList],
                                   caseSensitive := false, weights := ⟨4, none⟩ }
    let k : KeyFileSettings := { name := [], field := .senderDomain, path := [], weights := ⟨4, none⟩,
                                 backoff := none }
    let e : Entry := .file [97, 46, 98] 1
    let r : Request := Request.empty.insert "sender".toList "<u@a.b >".toList
    e.read = .ok "a.b".toList ∧ SameValues s k e ∧
      ∃ c d f, ValueList.make s = .ok c ∧ KeyCheck.make k {} 0 e = .ok (d, f) ∧
        c.weight? r = none ∧ d.weight? (f.refresh 0 e) r = some 4 := by
  intro s k e r
  have hread : e.read = .ok "a.b".toList := by
    have hdecode : Utf8.decode? [97, 46, 98] = some "a.b".toList := by decide +kernel
    rw [Entry.read, hdecode]
  have hsame : SameValues s k e :=
    { nonempty := List.cons_ne_nil _ _
      plain := by simp [s, Text.isBlank]
      foldsCase := rfl
      field_eq := rfl
      weights_eq := rfl
      written := ⟨_, ["a.b".toList], hread, keyText_iff.mpr (by decide +kernel), fun _ => Iff.rfl⟩ }
  have hfinite : s.weights.isFinite = true := by decide +kernel
  have hr : s.InBlanks r :=
    ⟨"a.b ".toList, by decide +kernel, by decide +kernel, by decide +kernel⟩
  obtain ⟨f, hfile, hkeys⟩ := hsame.make_file hfinite {} 0
  exact ⟨hread, hsame, list s, check k, f, hsame.make_list hfinite, hfile,
    hsame.weights_of_inBlanks (hkeys 0) hr⟩

end SameValues
end MailPolicy
