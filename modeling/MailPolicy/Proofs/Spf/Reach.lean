/-
What the evaluation of a sender policy depends on.

An evaluation sees the policy of its domain and those that it leads to by inclusions and
redirections, and in each of them how the mechanisms that stand there compare with the client.
Which records there are beside, or in what way a comparison comes to its answer, makes no
difference.

* `Spf.Publishes`, `Spf.LeadsTo`, `Spf.Reaches` — what stands in a policy, and where it leads;
* `Spf.Alike` — a policy and its mechanisms are the same in two settings;
* `Spf.Evaluates.transfer` — what is derived in one setting is derived in another one like it;
* `Spf.verify_congr` — **settings that are alike in all that can be reached give one result**.
-/
import Mathlib.Logic.Relation
import MailPolicy.Proofs.Spf.Derivation

namespace MailPolicy.Spf

/-- Whether a domain has a well-formed policy, and this is the record. -/
def HasPolicy (dns : Resolver) (domain : Text) (record : SpfRecord) : Prop :=
  ∃ text, policy? dns domain = some (some text) ∧ SpfRecord.parse? text = some record

/-- Whether a mechanism stands in the policy of a domain. -/
def Publishes (dns : Resolver) (domain : Text) (m : Mechanism) : Prop :=
  ∃ record, HasPolicy dns domain record ∧ ∃ d ∈ record.directives, d.mechanism = m

/-- Whether the policy of a domain includes that of another one, or redirects to it. -/
def LeadsTo (dns : Resolver) (domain other : Text) : Prop :=
  Publishes dns domain (.included other) ∨
    ∃ record, HasPolicy dns domain record ∧ record.redirect = some other

/-- Whether the evaluation of one domain's policy may come to that of another. -/
def Reaches (dns : Resolver) : Text → Text → Prop := Relation.ReflTransGen (LeadsTo dns)

/-- Whether a domain has the same policy in two settings, and its mechanisms compare with the
clients alike. -/
structure Alike (dns dns' : Resolver) (client client' : IpAddress) (domain : Text) : Prop where
  policy_eq : policy? dns' domain = policy? dns domain
  compare_eq : ∀ m, Publishes dns domain m →
    (compare dns' client' domain m).1 = (compare dns client domain m).1

/-- Whether what a task evaluates can be reached from a domain. -/
def Task.Within (dns : Resolver) (start : Text) : Task → Prop
  | .policy domain => Reaches dns start domain
  | .rest domain directives redirect => Reaches dns start domain ∧
      (∀ d ∈ directives, Publishes dns domain d.mechanism) ∧
      ∀ target, redirect = some target → LeadsTo dns domain target

variable {dns dns' : Resolver} {client client' : IpAddress} {start domain : Text}
  {depth count after : Nat} {task : Task} {r : SpfResult} {events : List Event}
  {sender helo : Option Text}

theorem HasPolicy.unique {record record' : SpfRecord} (h : HasPolicy dns domain record)
    (h' : HasPolicy dns domain record') : record = record' := by
  obtain ⟨text, hp, hparse⟩ := h
  obtain ⟨text', hp', hparse'⟩ := h'
  obtain rfl := Option.some.inj (Option.some.inj (hp.symm.trans hp'))
  exact Option.some.inj (hparse.symm.trans hparse')

theorem HasPolicy.publishes_iff {record : SpfRecord} {m : Mechanism}
    (h : HasPolicy dns domain record) :
    Publishes dns domain m ↔ ∃ d ∈ record.directives, d.mechanism = m :=
  ⟨fun ⟨_, h', hm⟩ => h.unique h' ▸ hm, fun hm => ⟨record, h, hm⟩⟩

/-- A policy that includes none and redirects to none leads nowhere else. -/
theorem HasPolicy.eq_of_reaches {record : SpfRecord} {other : Text}
    (h : HasPolicy dns domain record)
    (hinclude : ∀ d ∈ record.directives, d.mechanism.isInclusion = false)
    (hredirect : record.redirect = none) (hreach : Reaches dns domain other) : other = domain := by
  rcases hreach.cases_head with rfl | ⟨next, ⟨record', h', d, hd, heq⟩ | ⟨record', h', heq⟩, -⟩
  · rfl
  · obtain rfl := h.unique h'
    have hnot := hinclude d hd
    rw [heq] at hnot
    cases hnot
  · obtain rfl := h.unique h'
    cases heq.symm.trans hredirect

theorem HasPolicy.within {record : SpfRecord} (h : HasPolicy dns domain record)
    (hreach : Reaches dns start domain) :
    (Task.rest domain record.directives record.redirect).Within dns start :=
  ⟨hreach, fun d hd => ⟨record, h, d, hd, rfl⟩, fun _ htarget => .inr ⟨record, h, htarget⟩⟩

theorem within_tail {d : Directive} {ds : List Directive} {redirect : Option Text}
    (h : (Task.rest domain (d :: ds) redirect).Within dns start) :
    (Task.rest domain ds redirect).Within dns start :=
  ⟨h.1, fun d' hd' => h.2.1 d' (List.mem_cons_of_mem d hd'), h.2.2⟩

theorem within_included {other : Text} {qualifier : Qualifier} {ds : List Directive}
    {redirect : Option Text}
    (h : (Task.rest domain (⟨qualifier, .included other⟩ :: ds) redirect).Within dns start) :
    (Task.policy other).Within dns start :=
  h.1.tail (.inl (h.2.1 _ List.mem_cons_self))

theorem within_redirected {target : Text} {ds : List Directive}
    (h : (Task.rest domain ds (some target)).Within dns start) :
    (Task.policy target).Within dns start :=
  h.1.tail (h.2.2 target rfl)

theorem Alike.exists_compare_eq (h : Alike dns dns' client client' domain) {m : Mechanism}
    {answer : Option Bool} {asked : List (RecordKind × Text)} (hm : Publishes dns domain m)
    (hcompare : compare dns client domain m = (answer, asked)) :
    ∃ asked', compare dns' client' domain m = (answer, asked') := by
  have hanswer : (compare dns' client' domain m).1 = answer := by rw [h.compare_eq m hm, hcompare]
  exact ⟨_, Prod.ext hanswer rfl⟩

/-- **What is derived in one setting is derived in another one like it**, with look-ups of its own.
-/
theorem Evaluates.transfer (h : Evaluates dns client depth count task r after events)
    (halike : ∀ d, Reaches dns start d → Alike dns dns' client client' d) :
    task.Within dns start → ∃ events', Evaluates dns' client' depth count task r after events' := by
  induction h with
  | failed hp =>
    intro hwithin
    exact ⟨_, .failed ((halike _ hwithin).policy_eq.trans hp)⟩
  | missing hp =>
    intro hwithin
    exact ⟨_, .missing ((halike _ hwithin).policy_eq.trans hp)⟩
  | malformed hp hparse =>
    intro hwithin
    exact ⟨_, .malformed ((halike _ hwithin).policy_eq.trans hp) hparse⟩
  | found hp hparse _ ih =>
    intro hwithin
    have hpolicy : HasPolicy dns _ _ := ⟨_, hp, hparse⟩
    obtain ⟨events', h'⟩ := ih (hpolicy.within hwithin)
    exact ⟨_, .found ((halike _ hwithin).policy_eq.trans hp) hparse h'⟩
  | undecided => exact fun _ => ⟨_, .undecided⟩
  | redirectRefused hfull => exact fun _ => ⟨_, .redirectRefused hfull⟩
  | redirect hlt _ ih =>
    intro hwithin
    obtain ⟨events', h'⟩ := ih (within_redirected hwithin)
    exact ⟨_, .redirect hlt h'⟩
  | refused hasks hfull => exact fun _ => ⟨_, .refused hasks hfull⟩
  | includeStops hlt _ hinclusion ih =>
    intro hwithin
    obtain ⟨events', h'⟩ := ih (within_included hwithin)
    exact ⟨_, .includeStops hlt h' hinclusion⟩
  | includeMatches hlt _ hinclusion ih =>
    intro hwithin
    obtain ⟨events', h'⟩ := ih (within_included hwithin)
    exact ⟨_, .includeMatches hlt h' hinclusion⟩
  | includePasses hlt _ hinclusion _ ih ihrest =>
    intro hwithin
    obtain ⟨events', h'⟩ := ih (within_included hwithin)
    obtain ⟨events'', h''⟩ := ihrest (within_tail hwithin)
    exact ⟨_, .includePasses hlt h' hinclusion h''⟩
  | compareFails hm hallowed hcompare =>
    intro hwithin
    have hpublished := hwithin.2.1 _ List.mem_cons_self
    obtain ⟨asked', hcompare'⟩ := (halike _ hwithin.1).exists_compare_eq hpublished hcompare
    exact ⟨_, .compareFails hm hallowed hcompare'⟩
  | compareMatches hm hallowed hcompare =>
    intro hwithin
    have hpublished := hwithin.2.1 _ List.mem_cons_self
    obtain ⟨asked', hcompare'⟩ := (halike _ hwithin.1).exists_compare_eq hpublished hcompare
    exact ⟨_, .compareMatches hm hallowed hcompare'⟩
  | comparePasses hm hallowed hcompare _ ih =>
    intro hwithin
    have hpublished := hwithin.2.1 _ List.mem_cons_self
    obtain ⟨asked', hcompare'⟩ := (halike _ hwithin.1).exists_compare_eq hpublished hcompare
    obtain ⟨events', h'⟩ := ih (within_tail hwithin)
    exact ⟨_, .comparePasses hm hallowed hcompare' h'⟩

/-- **Settings that are alike in all that can be reached from the domain give one result.** -/
theorem verify_congr (halike : ∀ domain, domain? sender helo = some domain →
      ∀ d, Reaches dns domain d → Alike dns dns' client client' d) :
    verify dns' sender helo client' = verify dns sender helo client := by
  obtain ⟨events, h⟩ := exists_verifies dns sender helo client
  generalize verify dns sender helo client = r at h
  cases h with
  | noDomain hd => exact Verifies.verify_eq (.noDomain hd)
  | domain hd h =>
    obtain ⟨events', h'⟩ := h.transfer (halike _ hd) .refl
    exact Verifies.verify_eq (.domain hd h')

end MailPolicy.Spf
