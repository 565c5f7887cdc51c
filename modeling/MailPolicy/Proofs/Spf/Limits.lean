/-
What the evaluation of a sender policy costs at most.

Only a term that was counted leads into another policy, and the count never exceeds the limit.  So
the terms bound both how many policies are fetched and how deep they are nested, whatever the
domain name system says.

* `Spf.Evaluates.countP_isTerm` — the terms on the way are those by which the count grew;
* `Spf.Evaluates.countP_isFetch_le` — one policy more than terms is fetched;
* `Spf.Evaluates.depth_le` — the nesting never exceeds the terms that were left;
* `Spf.verify_within_limits` — **every evaluation ends within ten terms and eleven policies**.
-/
import MailPolicy.Proofs.Spf.Derivation

namespace MailPolicy.Spf

variable {dns : Resolver} {client : IpAddress} {depth count after : Nat} {task : Task}
  {r : SpfResult} {events : List Event}

/-! ### Mechanisms other than inclusions -/

theorem countP_isTerm_counted (m : Mechanism) (depth : Nat) :
    (counted m depth).countP Event.isTerm = cost m := by
  simp [counted, List.countP_replicate, Event.isTerm]

theorem countP_isTerm_looked (depth : Nat) (asked : List (RecordKind × Text)) :
    (looked depth asked).countP Event.isTerm = 0 := by
  simp [looked, List.countP_map, List.countP_eq_zero, Event.isTerm]

theorem countP_isFetch_counted (m : Mechanism) (depth : Nat) :
    (counted m depth).countP Event.isFetch = 0 := by
  simp [counted, List.countP_replicate, Event.isFetch]

/-- No mechanism but an inclusion fetches a policy. -/
theorem ne_txt_of_mem_compare {domain name : Text} {kind : RecordKind} {m : Mechanism}
    (h : (kind, name) ∈ (compare dns client domain m).2) : kind ≠ .txt := by
  have haddress : addressKind client ≠ .txt := by cases client <;> nofun
  have hhosts (lengths : DualLength) (hosts : List Text)
      (hmem : (kind, name) ∈ (anyHostMatches dns client lengths hosts).2) : kind ≠ .txt := by
    induction hosts with
    | nil => cases hmem
    | cons host rest ih =>
      rw [anyHostMatches] at hmem
      split at hmem
      · rcases List.mem_cons.mp hmem with heq | hrest
        · obtain ⟨rfl, -⟩ := Prod.mk.inj heq
          exact haddress
        · exact ih hrest
      · obtain ⟨rfl, -⟩ := Prod.mk.inj (List.mem_singleton.mp hmem)
        exact haddress
  cases m with
  | all | included _ | ip4 _ | ip6 _ | clientName => cases h
  | host target lengths =>
    obtain ⟨rfl, -⟩ := Prod.mk.inj (List.mem_singleton.mp h)
    exact haddress
  | existing host =>
    obtain ⟨rfl, -⟩ := Prod.mk.inj (List.mem_singleton.mp h)
    nofun
  | mailHosts target lengths =>
    rw [compare] at h
    dsimp only at h
    split at h
    · obtain ⟨rfl, -⟩ := Prod.mk.inj (List.mem_singleton.mp h)
      nofun
    · rcases List.mem_cons.mp h with heq | hrest
      · obtain ⟨rfl, -⟩ := Prod.mk.inj heq
        nofun
      · exact hhosts lengths _ hrest

theorem countP_isFetch_looked {domain : Text} {m : Mechanism} {answer : Option Bool}
    {asked : List (RecordKind × Text)} (h : compare dns client domain m = (answer, asked)) :
    (looked depth asked).countP Event.isFetch = 0 := by
  rw [List.countP_eq_zero]
  intro e he
  obtain ⟨⟨kind, name⟩, hmem, rfl⟩ := List.mem_map.mp he
  have hkind : kind ≠ .txt := by
    rw [show asked = (compare dns client domain m).2 by rw [h]] at hmem
    exact ne_txt_of_mem_compare hmem
  simpa [Event.isFetch] using hkind

theorem depth_of_mem_counted {m : Mechanism} {e : Event} (h : e ∈ counted m depth) :
    e.depth = depth := by
  rw [List.eq_of_mem_replicate h]
  rfl

theorem depth_of_mem_looked {asked : List (RecordKind × Text)} {e : Event}
    (h : e ∈ looked depth asked) : e.depth = depth := by
  obtain ⟨⟨kind, name⟩, -, rfl⟩ := List.mem_map.mp h
  rfl

/-! ### Bounds on derivations -/

/-- A mechanism that is allowed costs as many terms as it takes from those that are left. -/
theorem cost_add_left {m : Mechanism} (h : cost m = 1 → count < maxTerms) :
    cost m + (maxTerms - (count + cost m)) = maxTerms - count := by
  rcases cost_eq_zero_or_one m with hm | hm
  · omega
  · have hlt := h hm
    omega

/-- The terms on the way are those by which the count grew, as far as the limit. -/
theorem Evaluates.countP_isTerm (h : Evaluates dns client depth count task r after events) :
    events.countP Event.isTerm + (maxTerms - after) = maxTerms - count := by
  induction h with
  | failed _ | missing _ | malformed _ _ | undecided => exact Nat.zero_add _
  | found _ _ _ ih => exact ih
  | redirectRefused hfull | refused _ hfull =>
    rw [List.countP_nil]
    omega
  | redirect hlt _ ih | includeStops hlt _ _ ih | includeMatches hlt _ _ ih =>
    rw [List.countP_cons_of_pos rfl]
    omega
  | includePasses hlt _ _ _ ih ih' =>
    rw [List.countP_cons_of_pos rfl, List.countP_append]
    omega
  | compareFails _ hallowed _ | compareMatches _ hallowed _ =>
    rw [List.countP_append, countP_isTerm_counted, countP_isTerm_looked]
    exact cost_add_left hallowed
  | comparePasses _ hallowed _ _ ih =>
    have hcost := cost_add_left hallowed
    rw [List.countP_append, List.countP_append, countP_isTerm_counted, countP_isTerm_looked]
    omega

/-- How many policies a task fetches itself. -/
def Task.fetches : Task → Nat
  | .policy _ => 1
  | .rest _ _ _ => 0

/-- A policy is fetched at the start, or because a term led to it. -/
theorem Evaluates.countP_isFetch_le (h : Evaluates dns client depth count task r after events) :
    events.countP Event.isFetch ≤ events.countP Event.isTerm + task.fetches := by
  induction h with
  | failed _ | missing _ | malformed _ _ => exact Nat.le_refl 1
  | undecided | redirectRefused _ | refused _ _ => exact Nat.le_refl 0
  | found _ _ _ ih =>
    rw [List.countP_cons_of_pos rfl, List.countP_cons_of_neg Bool.false_ne_true]
    exact Nat.succ_le_succ ih
  | redirect _ _ ih | includeStops _ _ _ ih | includeMatches _ _ _ ih =>
    rw [List.countP_cons_of_neg Bool.false_ne_true, List.countP_cons_of_pos rfl]
    exact ih
  | includePasses _ _ _ _ ih ih' =>
    rw [List.countP_cons_of_neg Bool.false_ne_true, List.countP_cons_of_pos rfl,
      List.countP_append, List.countP_append]
    simp only [Task.fetches] at ih ih' ⊢
    omega
  | compareFails _ _ hcompare | compareMatches _ _ hcompare =>
    rw [List.countP_append, countP_isFetch_counted, countP_isFetch_looked hcompare]
    exact Nat.zero_le _
  | comparePasses _ _ hcompare _ ih =>
    simp only [List.countP_append, countP_isFetch_counted, countP_isFetch_looked hcompare,
      Task.fetches] at ih ⊢
    omega

/-- Every policy deeper takes one of the terms that were left. -/
theorem Evaluates.depth_le (h : Evaluates dns client depth count task r after events) :
    ∀ e ∈ events, e.depth ≤ depth + (maxTerms - count) := by
  induction h with
  | failed _ | missing _ | malformed _ _ =>
    intro e he
    rw [List.mem_singleton.mp he]
    exact Nat.le_add_right _ _
  | undecided | redirectRefused _ | refused _ _ =>
    intro e he
    cases he
  | found _ _ _ ih =>
    intro e he
    rcases List.mem_cons.mp he with rfl | he
    · exact Nat.le_add_right _ _
    · exact ih e he
  | redirect hlt _ ih | includeStops hlt _ _ ih | includeMatches hlt _ _ ih =>
    intro e he
    rcases List.mem_cons.mp he with rfl | he
    · exact Nat.le_add_right _ _
    · have := ih e he
      omega
  | includePasses hlt hother _ _ ih ih' =>
    intro e he
    have hcount := hother.count_le
    rcases List.mem_cons.mp he with rfl | he
    · exact Nat.le_add_right _ _
    · rcases List.mem_append.mp he with he | he
      · have := ih e he
        omega
      · have := ih' e he
        omega
  | compareFails _ _ _ | compareMatches _ _ _ =>
    intro e he
    have hdepth := (List.mem_append.mp he).elim depth_of_mem_counted depth_of_mem_looked
    omega
  | comparePasses _ _ _ _ ih =>
    intro e he
    rcases List.mem_append.mp he with he | he
    · have hdepth := (List.mem_append.mp he).elim depth_of_mem_counted depth_of_mem_looked
      omega
    · have := ih e he
      omega

/-! ### A sender and a client -/

/-- **The evaluation for a sender and a client ends, and keeps within its limits**, whatever the
domain name system answers.  There is a course that it takes, and every such course has the result
and the look-ups of the evaluation, fetches at most eleven policies, has at most eleven of them
under evaluation at a time, and evaluates at most ten terms that ask. -/
theorem verify_within_limits (dns : Resolver) (sender helo : Option Text) (client : IpAddress) :
    (∃ events, Verifies dns sender helo client (verify dns sender helo client) events) ∧
      ∀ r events, Verifies dns sender helo client r events →
        r = verify dns sender helo client ∧
          (∀ domain, domain? sender helo = some domain →
            (evaluate dns client 0 domain maxTerms).lookups = events.filterMap Event.lookup?) ∧
          events.countP Event.isFetch ≤ 11 ∧ (∀ e ∈ events, e.depth + 1 ≤ 11) ∧
          events.countP Event.isTerm ≤ 10 := by
  refine ⟨exists_verifies dns sender helo client, fun r events hverifies => ?_⟩
  refine ⟨hverifies.verify_eq.symm, fun domain hdomain => hverifies.lookups_eq hdomain, ?_⟩
  cases hverifies with
  | noDomain _ => exact ⟨by decide, fun e he => absurd he List.not_mem_nil, by decide⟩
  | domain _ h =>
    have hterms := h.countP_isTerm
    have hfetches := h.countP_isFetch_le
    simp only [maxTerms, Task.fetches] at hterms hfetches
    refine ⟨by omega, fun e he => ?_, by omega⟩
    have hdepth := h.depth_le e he
    simp only [maxTerms] at hdepth
    omega

end MailPolicy.Spf
