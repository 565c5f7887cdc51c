/-
What a sender policy means, without a limit.

The rules below say what the policy of a domain comes to when nobody counts: directives are taken
from left to right, the first that matches decides, and behind them the policy of the redirect
target holds.  They say when a mechanism matches by what the domain name system answers, not by how
the answers are gone through, and with which result each qualifier decides.  Records are those of
the grammar.  Beside the result a derivation has the number of terms that it evaluates and that ask
the domain name system; nothing depends on that number.

* `Spf.Matches`, `Spf.Fails` — when a mechanism matches, and when that cannot be told;
* `Spf.Decides` — the results of the qualifiers;
* `Spf.Means` — the rules;
* `Spf.not_means_of_circular` — policies that lead back to each other have no derivation;
* `Spf.Means.evaluates` — a derivation with few enough terms goes through under the limit;
* `Spf.Evaluates.means_or_over` — the evaluation follows a derivation or runs over the limit;
* `Spf.evaluate_result_iff` — **the evaluation gives what a policy means within ten terms, and a
  permanent error if that is nothing**.
-/
import MailPolicy.Proofs.Dns.Zone
import MailPolicy.Proofs.Spf.Derivation
import MailPolicy.Proofs.Spf.Grammar

namespace MailPolicy.Spf

variable {dns : Resolver} {client : IpAddress} {domain : Text}

/-! ### Mechanisms -/

/-- Whether a client has the leading bits of an address, as many as count. -/
def Agree {w : Nat} (length : Nat) (a client : BitVec w) : Prop :=
  ∀ i < length, client.getMsbD i = a.getMsbD i

/-- Whether a host has an address that agrees with the client in as many bits as count. -/
def HostCovers (dns : Resolver) (client : IpAddress) (lengths : DualLength) (host : Text) : Prop :=
  match client with
  | .v4 c => ∃ found, dns.a host = some found ∧ ∃ a ∈ found, Agree lengths.v4.1 a c
  | .v6 c => ∃ found, dns.aaaa host = some found ∧ ∃ a ∈ found, Agree lengths.v6.1 a c

/-- Whether the addresses of a host that the client would be compared with cannot be had. -/
def HostFails (dns : Resolver) (client : IpAddress) (host : Text) : Prop :=
  match client with
  | .v4 _ => dns.a host = none
  | .v6 _ => dns.aaaa host = none

/-- Whether the hosts that take mail for a domain can be had, and one of them decides: all before it can
be looked up and do not cover the client. -/
def MailHostDecides (dns : Resolver) (client : IpAddress) (lengths : DualLength) (name host : Text) :
    Prop :=
  ∃ before after, dns.mx name = some (before ++ host :: after) ∧
    ∀ h ∈ before, ¬ HostFails dns client h ∧ ¬ HostCovers dns client lengths h

/-- Whether a mechanism other than an inclusion matches in the policy of a domain. -/
def Matches (dns : Resolver) (client : IpAddress) (domain : Text) : Mechanism → Prop
  | .all => True
  | .ip4 network => ∃ c, client = .v4 c ∧ Agree network.length network.address c
  | .ip6 network => ∃ c, client = .v6 c ∧ Agree network.length network.address c
  | .host target lengths => HostCovers dns client lengths (target.getD domain)
  | .mailHosts target lengths => ∃ host,
      MailHostDecides dns client lengths (target.getD domain) host ∧
        HostCovers dns client lengths host
  | .existing name => ∃ a found, dns.a name = some (a :: found)
  | .clientName => False
  | .included _ => False

/-- Whether a look-up fails on which it depends whether such a mechanism matches. -/
def Fails (dns : Resolver) (client : IpAddress) (domain : Text) : Mechanism → Prop
  | .host target _ => HostFails dns client (target.getD domain)
  | .mailHosts target lengths => dns.mx (target.getD domain) = none ∨ ∃ host,
      MailHostDecides dns client lengths (target.getD domain) host ∧ HostFails dns client host
  | .existing name => dns.a name = none
  | _ => False

theorem matches_ip4_iff {c : Ipv4} {network : Prefix 32} :
    Matches dns (.v4 c) domain (.ip4 network) ↔ network.contains c = true := by
  simp [Matches, Agree, Prefix.contains_iff]

theorem hostMatches_eq_none_iff (lengths : DualLength) {host : Text} :
    hostMatches dns client lengths host = none ↔ HostFails dns client host := by
  cases client <;> simp [hostMatches, HostFails]

theorem hostMatches_eq_true_iff {lengths : DualLength} {host : Text} :
    hostMatches dns client lengths host = some true ↔ HostCovers dns client lengths host := by
  cases client <;> simp [hostMatches, HostCovers, Agree, Prefix.contains_iff]

theorem hostMatches_eq_false_iff {lengths : DualLength} {host : Text} :
    hostMatches dns client lengths host = some false ↔
      ¬ HostFails dns client host ∧ ¬ HostCovers dns client lengths host := by
  rw [← hostMatches_eq_none_iff lengths, ← hostMatches_eq_true_iff]
  rcases hostMatches dns client lengths host with _ | _ | _ <;> simp

theorem anyHostMatches_cons_fst (lengths : DualLength) (host : Text) (hosts : List Text) :
    (anyHostMatches dns client lengths (host :: hosts)).1 =
      if hostMatches dns client lengths host = some false then
        (anyHostMatches dns client lengths hosts).1
      else hostMatches dns client lengths host := by
  rw [anyHostMatches]
  rcases hostMatches dns client lengths host with _ | _ | _ <;> simp

/-- The first host that matches or fails decides. -/
theorem anyHostMatches_eq_iff {lengths : DualLength} {hosts : List Text} {answer : Option Bool}
    (hanswer : answer ≠ some false) :
    (anyHostMatches dns client lengths hosts).1 = answer ↔ ∃ before host after,
      hosts = before ++ host :: after ∧
        (∀ h ∈ before, hostMatches dns client lengths h = some false) ∧
        hostMatches dns client lengths host = answer := by
  induction hosts with
  | nil => simpa [anyHostMatches] using hanswer.symm
  | cons first rest ih =>
    rw [anyHostMatches_cons_fst]
    constructor
    · intro h
      by_cases hfirst : hostMatches dns client lengths first = some false
      · rw [if_pos hfirst] at h
        obtain ⟨before, host, after, rfl, hbefore, hhost⟩ := ih.mp h
        exact ⟨first :: before, host, after, rfl, by simpa [hfirst] using hbefore, hhost⟩
      · rw [if_neg hfirst] at h
        exact ⟨[], first, rest, rfl, by simp, h⟩
    · rintro ⟨before, host, after, heq, hbefore, hhost⟩
      rcases before with _ | ⟨b, before⟩
      · obtain ⟨rfl, rfl⟩ := List.cons.inj heq
        rw [if_neg (hhost ▸ hanswer), hhost]
      · obtain ⟨rfl, rfl⟩ := List.cons.inj heq
        rw [if_pos (hbefore _ List.mem_cons_self)]
        exact ih.mpr
          ⟨before, host, after, rfl, fun h hm => hbefore h (List.mem_cons_of_mem _ hm), hhost⟩

theorem compare_mailHosts_fst {target : Option Text} {lengths : DualLength} {hosts : List Text}
    (h : dns.mx (target.getD domain) = some hosts) :
    (compare dns client domain (.mailHosts target lengths)).1 =
      (anyHostMatches dns client lengths hosts).1 := by
  simp only [compare, h]

/-- A host decides for all if the hosts can be had. -/
theorem exists_mailHostDecides_iff {lengths : DualLength} {name : Text} {hosts : List Text}
    {answer : Option Bool} (hmx : dns.mx name = some hosts) (hanswer : answer ≠ some false) :
    (anyHostMatches dns client lengths hosts).1 = answer ↔ ∃ host,
      MailHostDecides dns client lengths name host ∧
        hostMatches dns client lengths host = answer := by
  rw [anyHostMatches_eq_iff hanswer]
  simp only [MailHostDecides, hmx, Option.some.injEq, ← hostMatches_eq_false_iff]
  constructor
  · rintro ⟨before, host, after, heq, hbefore, hhost⟩
    exact ⟨host, ⟨before, after, heq, hbefore⟩, hhost⟩
  · rintro ⟨host, ⟨before, after, heq, hbefore⟩, hhost⟩
    exact ⟨before, host, after, heq, hbefore, hhost⟩

/-- A comparison comes to nothing exactly when a look-up fails. -/
theorem compare_eq_none_iff {m : Mechanism} :
    (compare dns client domain m).1 = none ↔ Fails dns client domain m := by
  cases m with
  | all | ip4 _ | ip6 _ | clientName | included _ => simp [compare, Fails]
  | host target lengths => exact hostMatches_eq_none_iff lengths
  | existing name => simp [compare, Fails]
  | mailHosts target lengths =>
    rcases hmx : dns.mx (target.getD domain) with _ | hosts
    · simp [compare, Fails, hmx]
    · rw [compare_mailHosts_fst hmx, exists_mailHostDecides_iff hmx (by simp)]
      simp [Fails, hmx, hostMatches_eq_none_iff]

/-- A comparison says yes exactly when the mechanism matches. -/
theorem compare_eq_true_iff {m : Mechanism} :
    (compare dns client domain m).1 = some true ↔ Matches dns client domain m := by
  cases m with
  | all | clientName | included _ => simp [compare, Matches]
  | ip4 network | ip6 network => cases client <;> simp [compare, Matches, Agree, Prefix.contains_iff]
  | host target lengths => exact hostMatches_eq_true_iff
  | existing name =>
    rcases ha : dns.a name with _ | _ | _ <;> simp [compare, Matches, ha]
  | mailHosts target lengths =>
    rcases hmx : dns.mx (target.getD domain) with _ | hosts
    · simp [compare, Matches, MailHostDecides, hmx]
    · rw [compare_mailHosts_fst hmx, exists_mailHostDecides_iff hmx (by simp)]
      simp [Matches, hostMatches_eq_true_iff]

theorem compare_eq_false_iff {m : Mechanism} :
    (compare dns client domain m).1 = some false ↔
      ¬ Fails dns client domain m ∧ ¬ Matches dns client domain m := by
  rw [← compare_eq_none_iff, ← compare_eq_true_iff]
  rcases (compare dns client domain m).1 with _ | _ | _ <;> simp

/-! ### The rules -/

/-- Whether a text counts as a policy: the version alone, or the version and a space. -/
def IsPolicy (text : Text) : Prop :=
  text = "v=spf1".toList ∨ ∃ rest, text = "v=spf1 ".toList ++ rest

/-- Whether the text records of a domain can be had, and none of them is a policy. -/
def NoPolicy (dns : Resolver) (domain : Text) : Prop :=
  ∃ found, dns.txt domain = some found ∧ ∀ t ∈ found, ¬ IsPolicy t

/-- Whether a text is the first record of a domain that is a policy. -/
def FirstPolicy (dns : Resolver) (domain text : Text) : Prop :=
  ∃ before after, dns.txt domain = some (before ++ text :: after) ∧ IsPolicy text ∧
    ∀ t ∈ before, ¬ IsPolicy t

/-- The result that a directive decides with, by its qualifier. -/
inductive Decides : Qualifier → SpfResult → Prop
  | pass : Decides .pass .pass
  | fail : Decides .fail .fail
  | softfail : Decides .softfail .softfail
  | neutral : Decides .neutral .neutral

/-- What a task comes to when nobody counts, and how many terms that ask are evaluated on the way. -/
inductive Means (dns : Resolver) (client : IpAddress) : Task → SpfResult → Nat → Prop
  | failed {domain : Text} : dns.txt domain = none → Means dns client (.policy domain) .temperror 0
  | missing {domain : Text} : NoPolicy dns domain → Means dns client (.policy domain) .none 0
  | malformed {domain text : Text} : FirstPolicy dns domain text →
      (∀ record : SpfRecord, ¬ record.Spells text) → Means dns client (.policy domain) .permerror 0
  | found {domain text : Text} {record : SpfRecord} {r : SpfResult} {n : Nat} :
      FirstPolicy dns domain text → record.Spells text →
      Means dns client (.rest domain record.directives record.redirect) r n →
      Means dns client (.policy domain) r n
  | undecided {domain : Text} : Means dns client (.rest domain [] none) .neutral 0
  | redirect {domain target : Text} {r : SpfResult} {n : Nat} :
      Means dns client (.policy target) r n → r ≠ .none →
      Means dns client (.rest domain [] (some target)) r (n + 1)
  | redirectMissing {domain target : Text} {n : Nat} : Means dns client (.policy target) .none n →
      Means dns client (.rest domain [] (some target)) .permerror (n + 1)
  | includeMatches {domain other : Text} {qualifier : Qualifier} {ds : List Directive}
      {redirect : Option Text} {r : SpfResult} {n : Nat} : Means dns client (.policy other) .pass n →
      Decides qualifier r →
      Means dns client (.rest domain (⟨qualifier, .included other⟩ :: ds) redirect) r (n + 1)
  | includePasses {domain other : Text} {qualifier : Qualifier} {ds : List Directive}
      {redirect : Option Text} {r r' : SpfResult} {n n' : Nat} :
      Means dns client (.policy other) r n → r = .fail ∨ r = .softfail ∨ r = .neutral →
      Means dns client (.rest domain ds redirect) r' n' →
      Means dns client (.rest domain (⟨qualifier, .included other⟩ :: ds) redirect) r' (n + n' + 1)
  | includeBroken {domain other : Text} {qualifier : Qualifier} {ds : List Directive}
      {redirect : Option Text} {r : SpfResult} {n : Nat} :
      Means dns client (.policy other) r n → r = .none ∨ r = .permerror →
      Means dns client (.rest domain (⟨qualifier, .included other⟩ :: ds) redirect)
        .permerror (n + 1)
  | includeFails {domain other : Text} {qualifier : Qualifier} {ds : List Directive}
      {redirect : Option Text} {n : Nat} : Means dns client (.policy other) .temperror n →
      Means dns client (.rest domain (⟨qualifier, .included other⟩ :: ds) redirect)
        .temperror (n + 1)
  | compareFails {domain : Text} {qualifier : Qualifier} {m : Mechanism} {ds : List Directive}
      {redirect : Option Text} : m.isInclusion = false → Fails dns client domain m →
      Means dns client (.rest domain (⟨qualifier, m⟩ :: ds) redirect) .temperror (cost m)
  | compareMatches {domain : Text} {qualifier : Qualifier} {m : Mechanism} {ds : List Directive}
      {redirect : Option Text} {r : SpfResult} : m.isInclusion = false →
      Matches dns client domain m → Decides qualifier r →
      Means dns client (.rest domain (⟨qualifier, m⟩ :: ds) redirect) r (cost m)
  | comparePasses {domain : Text} {qualifier : Qualifier} {m : Mechanism} {ds : List Directive}
      {redirect : Option Text} {r : SpfResult} {n : Nat} : m.isInclusion = false →
      ¬ Fails dns client domain m → ¬ Matches dns client domain m →
      Means dns client (.rest domain ds redirect) r n →
      Means dns client (.rest domain (⟨qualifier, m⟩ :: ds) redirect) r (cost m + n)

theorem isPolicy_eq_true_iff {text : Text} : SpfRecord.isPolicy text = true ↔ IsPolicy text := by
  simp [SpfRecord.isPolicy, IsPolicy, Option.isSome_iff_exists, Text.stripStart_eq_some_iff,
    SpfRecord.version]

theorem decides_iff {qualifier : Qualifier} {r : SpfResult} :
    Decides qualifier r ↔ qualifier.result = r := by
  constructor
  · rintro (_ | _ | _ | _) <;> rfl
  · rintro rfl
    cases qualifier <;> constructor

theorem policy?_eq_none_iff : policy? dns domain = none ↔ dns.txt domain = none := by
  simp [policy?]

theorem policy?_eq_missing_iff : policy? dns domain = some none ↔ NoPolicy dns domain := by
  simp [policy?, NoPolicy, ← isPolicy_eq_true_iff]

theorem policy?_eq_found_iff {text : Text} :
    policy? dns domain = some (some text) ↔ FirstPolicy dns domain text := by
  simp only [policy?, Option.map_eq_some_iff, List.find?_eq_some_iff_append, FirstPolicy,
    ← isPolicy_eq_true_iff]
  constructor
  · rintro ⟨found, htxt, hpolicy, before, after, rfl, hbefore⟩
    exact ⟨before, after, htxt, hpolicy, by simpa using hbefore⟩
  · rintro ⟨before, after, htxt, hpolicy, hbefore⟩
    exact ⟨_, htxt, hpolicy, before, after, rfl, by simpa using hbefore⟩

/-! ### Policies without a meaning -/

/-- Whether the policy of a domain begins with what the policy of another one comes to. -/
def BeginsWith (dns : Resolver) (domain other : Text) : Prop :=
  ∃ text, ∃ record : SpfRecord, FirstPolicy dns domain text ∧ record.Spells text ∧
    ((∃ qualifier ds, record.directives = ⟨qualifier, .included other⟩ :: ds) ∨
      (record.directives = [] ∧ record.redirect = some other))

/-- A derivation for such a policy holds a smaller one for the other. -/
theorem Means.exists_of_beginsWith {other : Text} {r : SpfResult} {n : Nat}
    (h : Means dns client (.policy domain) r n) (hbegins : BeginsWith dns domain other) :
    ∃ r', ∃ n' < n, Means dns client (.policy other) r' n' := by
  obtain ⟨text, record, hfirst, hspells, hother⟩ := hbegins
  have hpolicy := policy?_eq_found_iff.mpr hfirst
  cases h with
  | failed htxt => cases hpolicy.symm.trans (policy?_eq_none_iff.mpr htxt)
  | missing hno => cases hpolicy.symm.trans (policy?_eq_missing_iff.mpr hno)
  | malformed hfirst' hnone =>
    cases hpolicy.symm.trans (policy?_eq_found_iff.mpr hfirst')
    exact absurd hspells (hnone record)
  | found hfirst' hspells' hrest =>
    cases hpolicy.symm.trans (policy?_eq_found_iff.mpr hfirst')
    obtain rfl := hspells.unique hspells'
    rcases hother with ⟨qualifier, ds, hds⟩ | ⟨hds, hredirect⟩
    · rw [hds] at hrest
      cases hrest with
      | includeMatches hmeans | includeBroken hmeans | includeFails hmeans =>
        exact ⟨_, _, Nat.lt_succ_self _, hmeans⟩
      | includePasses hmeans => exact ⟨_, _, by omega, hmeans⟩
      | compareFails hm | compareMatches hm | comparePasses hm => cases hm
    · rw [hds, hredirect] at hrest
      cases hrest with
      | redirect hmeans | redirectMissing hmeans => exact ⟨_, _, Nat.lt_succ_self _, hmeans⟩

/-- Policies that lead back to each other have no derivation. -/
theorem not_means_of_circular {circular : Text → Prop}
    (hcircular : ∀ d, circular d → ∃ other, circular other ∧ BeginsWith dns d other)
    (hdomain : circular domain) (r : SpfResult) (n : Nat) :
    ¬ Means dns client (.policy domain) r n := by
  induction n using Nat.strongRecOn generalizing domain r with
  | _ n ih =>
    intro h
    obtain ⟨other, hother, hbegins⟩ := hcircular domain hdomain
    obtain ⟨r', n', hn', hmeans⟩ := h.exists_of_beginsWith hbegins
    exact ih n' hn' hother r' hmeans

/-! ### Under the limit -/

variable {task : Task} {r : SpfResult} {n depth count after : Nat} {events : List Event}

theorem add_cost_le_iff {m : Mechanism} (hcount : count ≤ maxTerms) :
    count + cost m ≤ maxTerms ↔ (cost m = 1 → count < maxTerms) := by
  rcases cost_eq_zero_or_one m with hm | hm <;> omega

theorem inclusion_eq_true_iff : inclusion r = .ok true ↔ r = .pass := by
  cases r <;> simp [inclusion]

theorem inclusion_eq_false_iff :
    inclusion r = .ok false ↔ r = .fail ∨ r = .softfail ∨ r = .neutral := by
  cases r <;> simp [inclusion]

theorem inclusion_eq_error_iff {r' : SpfResult} :
    inclusion r = .error r' ↔ (r = .none ∨ r = .permerror) ∧ r' = .permerror ∨
      r = .temperror ∧ r' = .temperror := by
  cases r <;> simp [inclusion, eq_comm]

/-- A derivation that evaluates few enough terms goes through under the limit. -/
theorem Means.evaluates (h : Means dns client task r n) :
    ∀ depth count after, after = count + n → after ≤ maxTerms →
      ∃ events, Evaluates dns client depth count task r after events := by
  induction h with
  | failed htxt =>
    rintro depth count _ rfl -
    exact ⟨_, .failed (policy?_eq_none_iff.mpr htxt)⟩
  | missing hno =>
    rintro depth count _ rfl -
    exact ⟨_, .missing (policy?_eq_missing_iff.mpr hno)⟩
  | malformed hfirst hnone =>
    rintro depth count _ rfl -
    exact ⟨_, .malformed (policy?_eq_found_iff.mpr hfirst) (SpfRecord.parse?_eq_none_iff.mpr hnone)⟩
  | found hfirst hspells _ ih =>
    intro depth count after hafter hle
    obtain ⟨events, h⟩ := ih depth count after hafter hle
    exact ⟨_, .found (policy?_eq_found_iff.mpr hfirst) (SpfRecord.parse?_eq_iff.mpr hspells) h⟩
  | undecided =>
    rintro depth count _ rfl -
    exact ⟨_, .undecided⟩
  | @redirect domain target r _ _ hr ih =>
    -- Nothing but a missing policy is changed by a redirection.
    intro depth count after hafter hle
    obtain ⟨events, h⟩ := ih (depth + 1) (count + 1) after (by omega) hle
    have hr' : redirected r = r := if_neg hr
    have hstep : Evaluates dns client depth count (.rest domain [] (some target)) (redirected r)
        after (.redirection target depth :: events) := .redirect (by omega) h
    exact ⟨_, hr' ▸ hstep⟩
  | redirectMissing _ ih =>
    intro depth count after hafter hle
    obtain ⟨events, h⟩ := ih (depth + 1) (count + 1) after (by omega) hle
    exact ⟨_, .redirect (by omega) h⟩
  | includeMatches _ hdecides ih =>
    intro depth count after hafter hle
    obtain rfl := decides_iff.mp hdecides
    obtain ⟨events, h⟩ := ih (depth + 1) (count + 1) after (by omega) hle
    exact ⟨_, .includeMatches (by omega) h rfl⟩
  | @includePasses _ _ _ _ _ _ _ n _ _ hr _ ih ih' =>
    -- The terms of the included policy come first, and those behind it go on from there.
    intro depth count after hafter hle
    obtain ⟨events, h⟩ := ih (depth + 1) (count + 1) (count + 1 + n) rfl (by omega)
    obtain ⟨events', h'⟩ := ih' depth (count + 1 + n) after (by omega) hle
    exact ⟨_, .includePasses (by omega) h (inclusion_eq_false_iff.mpr hr) h'⟩
  | includeBroken _ hr ih =>
    intro depth count after hafter hle
    obtain ⟨events, h⟩ := ih (depth + 1) (count + 1) after (by omega) hle
    exact ⟨_, .includeStops (by omega) h (inclusion_eq_error_iff.mpr (.inl ⟨hr, rfl⟩))⟩
  | includeFails _ ih =>
    intro depth count after hafter hle
    obtain ⟨events, h⟩ := ih (depth + 1) (count + 1) after (by omega) hle
    exact ⟨_, .includeStops (by omega) h rfl⟩
  | compareFails hm hfails =>
    rintro depth count _ rfl hle
    exact ⟨_, .compareFails hm ((add_cost_le_iff (by omega)).mp hle)
      (Prod.ext (compare_eq_none_iff.mpr hfails) rfl)⟩
  | compareMatches hm hmatches hdecides =>
    rintro depth count _ rfl hle
    obtain rfl := decides_iff.mp hdecides
    exact ⟨_, .compareMatches hm ((add_cost_le_iff (by omega)).mp hle)
      (Prod.ext (compare_eq_true_iff.mpr hmatches) rfl)⟩
  | @comparePasses _ _ m _ _ _ _ hm hfails hmatches _ ih =>
    intro depth count after hafter hle
    obtain ⟨events, h⟩ := ih depth (count + cost m) after (by omega) hle
    exact ⟨_, .comparePasses hm ((add_cost_le_iff (by omega)).mp (by omega))
      (Prod.ext (compare_eq_false_iff.mpr ⟨hfails, hmatches⟩) rfl) h⟩

/-- The evaluation follows a derivation or runs over the limit, which is a permanent error however
deep it happens. -/
theorem Evaluates.means_or_over (h : Evaluates dns client depth count task r after events) :
    count ≤ maxTerms →
      (∃ n, after = count + n ∧ after ≤ maxTerms ∧ Means dns client task r n) ∨
        (maxTerms < after ∧ r = .permerror) := by
  induction h with
  | failed hp =>
    intro hcount
    exact .inl ⟨0, rfl, hcount, .failed (policy?_eq_none_iff.mp hp)⟩
  | missing hp =>
    intro hcount
    exact .inl ⟨0, rfl, hcount, .missing (policy?_eq_missing_iff.mp hp)⟩
  | malformed hp hparse =>
    intro hcount
    exact .inl ⟨0, rfl, hcount,
      .malformed (policy?_eq_found_iff.mp hp) (SpfRecord.parse?_eq_none_iff.mp hparse)⟩
  | found hp hparse _ ih =>
    intro hcount
    rcases ih hcount with ⟨n, hn, hle, hmeans⟩ | hover
    · exact .inl ⟨n, hn, hle,
        .found (policy?_eq_found_iff.mp hp) (SpfRecord.parse?_eq_iff.mp hparse) hmeans⟩
    · exact .inr hover
  | undecided =>
    intro hcount
    exact .inl ⟨0, rfl, hcount, .undecided⟩
  | redirectRefused hfull | refused _ hfull =>
    intro _
    exact .inr ⟨by omega, rfl⟩
  | @redirect _ _ _ _ _ r _ hlt _ ih =>
    intro _
    rcases ih hlt with ⟨n, hn, hle, hmeans⟩ | ⟨hover, rfl⟩
    · refine .inl ⟨n + 1, by omega, hle, ?_⟩
      rw [redirected]
      split
      · next hr => exact .redirectMissing (hr ▸ hmeans)
      · next hr => exact .redirect hmeans hr
    · exact .inr ⟨hover, rfl⟩
  | includeStops hlt _ hinclusion ih =>
    intro _
    rcases ih hlt with ⟨n, hn, hle, hmeans⟩ | ⟨hover, rfl⟩
    · refine .inl ⟨n + 1, by omega, hle, ?_⟩
      rcases inclusion_eq_error_iff.mp hinclusion with ⟨hr, rfl⟩ | ⟨rfl, rfl⟩
      · exact .includeBroken hmeans hr
      · exact .includeFails hmeans
    · exact .inr ⟨hover, (Except.error.inj hinclusion).symm⟩
  | includeMatches hlt _ hinclusion ih =>
    intro _
    obtain rfl := inclusion_eq_true_iff.mp hinclusion
    rcases ih hlt with ⟨n, hn, hle, hmeans⟩ | ⟨-, hr⟩
    · exact .inl ⟨n + 1, by omega, hle, .includeMatches hmeans (decides_iff.mpr rfl)⟩
    · cases hr
  | includePasses hlt _ hinclusion _ ih ih' =>
    -- An included policy that ran over the limit would not let its inclusion pass.
    intro _
    rcases ih hlt with ⟨n, hn, hle, hmeans⟩ | ⟨-, rfl⟩
    · rcases ih' hle with ⟨n', hn', hle', hmeans'⟩ | hover
      · exact .inl ⟨n + n' + 1, by omega, hle',
          .includePasses hmeans (inclusion_eq_false_iff.mp hinclusion) hmeans'⟩
      · exact .inr hover
    · cases hinclusion
  | compareFails hm hallowed hcompare =>
    intro hcount
    exact .inl ⟨_, rfl, (add_cost_le_iff hcount).mpr hallowed, .compareFails hm
      (compare_eq_none_iff.mp (congrArg Prod.fst hcompare))⟩
  | compareMatches hm hallowed hcompare =>
    intro hcount
    exact .inl ⟨_, rfl, (add_cost_le_iff hcount).mpr hallowed, .compareMatches hm
      (compare_eq_true_iff.mp (congrArg Prod.fst hcompare)) (decides_iff.mpr rfl)⟩
  | comparePasses hm hallowed hcompare _ ih =>
    intro hcount
    rcases ih ((add_cost_le_iff hcount).mpr hallowed) with ⟨n, hn, hle, hmeans⟩ | hover
    · obtain ⟨hfails, hmatches⟩ := compare_eq_false_iff.mp (congrArg Prod.fst hcompare)
      exact .inl ⟨_, by omega, hle, .comparePasses hm hfails hmatches hmeans⟩
    · exact .inr hover

/-- **The evaluation gives what a policy means within ten terms, and a permanent error if that is
nothing.** -/
theorem evaluate_result_iff (dns : Resolver) (client : IpAddress) (domain : Text) (r : SpfResult) :
    (evaluate dns client 0 domain maxTerms).result = r ↔
      (∃ n ≤ 10, Means dns client (.policy domain) r n) ∨
        (r = .permerror ∧ ¬ ∃ r', ∃ n ≤ 10, Means dns client (.policy domain) r' n) := by
  have hwithin {r : SpfResult} {n : Nat} (hn : n ≤ 10)
      (hmeans : Means dns client (.policy domain) r n) :
      (evaluate dns client 0 domain maxTerms).result = r := by
    obtain ⟨events, h⟩ := hmeans.evaluates 0 0 n (Nat.zero_add n).symm hn
    exact (h.agrees maxTerms rfl).result_eq
  have hbeyond (hnone : ¬ ∃ r', ∃ n ≤ 10, Means dns client (.policy domain) r' n) :
      (evaluate dns client 0 domain maxTerms).result = .permerror := by
    -- The evaluation under the limit always has a derivation, also where the rules have none.
    obtain ⟨r', after, events, h⟩ := derivable dns client 0 0 (.policy domain)
    rw [show (evaluate dns client 0 domain maxTerms).result = r' from
      (h.agrees maxTerms rfl).result_eq]
    rcases h.means_or_over (Nat.zero_le _) with ⟨n, hn, hle, hmeans⟩ | ⟨-, hr⟩
    · obtain rfl : after = n := by omega
      exact absurd ⟨r', after, hle, hmeans⟩ hnone
    · exact hr
  constructor
  · intro hr
    by_cases hsome : ∃ r', ∃ n ≤ 10, Means dns client (.policy domain) r' n
    · obtain ⟨r', n, hn, hmeans⟩ := hsome
      obtain rfl := (hwithin hn hmeans).symm.trans hr
      exact .inl ⟨n, hn, hmeans⟩
    · exact .inr ⟨hr.symm.trans (hbeyond hsome), hsome⟩
  · rintro (⟨n, hn, hmeans⟩ | ⟨rfl, hnone⟩)
    · exact hwithin hn hmeans
    · exact hbeyond hnone

/-- Each of the four qualifiers decides, one of them behind an inclusion, and a policy that includes
itself is a permanent error. -/
theorem evaluate_result_of_qualifiers :
    let policy : Text := "v=spf1 -ip4:192.0.2.0/24 ?include:other.example ~all".toList
    let other : Text := "v=spf1 ip4:198.51.100.0/24 -all".toList
    let circular : Text := "v=spf1 include:circular.example -all".toList
    let dns := Zone.resolver
      ⟨[(["example".toList, "com".toList], { txt := [.ofText policy] }),
        (["other".toList, "example".toList], { txt := [.ofText other] }),
        (["circular".toList, "example".toList], { txt := [.ofText circular] })]⟩ .up
    let result (domain : Text) (client : Ipv4) := (evaluate dns (.v4 client) 0 domain maxTerms).result
    result "example.com".toList (Ipv4.ofOctets [192, 0, 2, 1]) = .fail ∧
      result "example.com".toList (Ipv4.ofOctets [198, 51, 100, 1]) = .neutral ∧
      result "example.com".toList (Ipv4.ofOctets [203, 0, 113, 1]) = .softfail ∧
      result "other.example".toList (Ipv4.ofOctets [198, 51, 100, 1]) = .pass ∧
      result "circular.example".toList (Ipv4.ofOctets [198, 51, 100, 1]) = .permerror := by
  intro policy other circular dns result
  let network : Prefix 32 := ⟨Ipv4.ofOctets [192, 0, 2, 0], 24, by decide⟩
  let network' : Prefix 32 := ⟨Ipv4.ofOctets [198, 51, 100, 0], 24, by decide⟩
  have hsource : Zone.source "example.com".toList = .servers ["example".toList, "com".toList] := by
    decide
  have hsource' : Zone.source "other.example".toList =
      .servers ["other".toList, "example".toList] := by decide
  have hsource'' : Zone.source "circular.example".toList =
      .servers ["circular".toList, "example".toList] := by decide
  have hfirst : FirstPolicy dns "example.com".toList policy :=
    ⟨[], [], Zone.txt_resolver_up hsource rfl rfl rfl rfl, .inr ⟨_, rfl⟩, nofun⟩
  have hfirst' : FirstPolicy dns "other.example".toList other :=
    ⟨[], [], Zone.txt_resolver_up hsource' rfl rfl rfl rfl, .inr ⟨_, rfl⟩, nofun⟩
  have hspells : SpfRecord.Spells policy { directives :=
      [⟨.fail, .ip4 network⟩, ⟨.neutral, .included "other.example".toList⟩, ⟨.softfail, .all⟩] } :=
    SpfRecord.parse?_eq_iff.mp (by decide)
  have hspells' : SpfRecord.Spells other { directives := [⟨.pass, .ip4 network'⟩, ⟨.fail, .all⟩] } :=
    SpfRecord.parse?_eq_iff.mp (by decide)
  -- The policy begins with its own inclusion, so it has no derivation.
  have hcircular : BeginsWith dns "circular.example".toList "circular.example".toList :=
    ⟨circular, { directives := [⟨.pass, .included "circular.example".toList⟩, ⟨.fail, .all⟩] },
      ⟨[], [], Zone.txt_resolver_up hsource'' rfl rfl rfl rfl, .inr ⟨_, rfl⟩, nofun⟩,
      SpfRecord.parse?_eq_iff.mp (by decide), .inl ⟨_, _, rfl⟩⟩
  have hall {c : IpAddress} {domain : Text} : Matches dns c domain .all := trivial
  have hpass : Means dns (.v4 (Ipv4.ofOctets [198, 51, 100, 1])) (.policy "other.example".toList)
      .pass 0 :=
    .found hfirst' hspells' (.compareMatches rfl (matches_ip4_iff.mpr (by decide)) .pass)
  have hfail : Means dns (.v4 (Ipv4.ofOctets [203, 0, 113, 1])) (.policy "other.example".toList)
      .fail 0 :=
    .found hfirst' hspells' (.comparePasses rfl id (mt matches_ip4_iff.mp (by decide))
      (.compareMatches rfl hall .fail))
  refine ⟨?_, ?_, ?_, ?_, ?_⟩
  · exact (evaluate_result_iff dns _ _ _).mpr (.inl ⟨0, by decide,
      .found hfirst hspells (.compareMatches rfl (matches_ip4_iff.mpr (by decide)) .fail)⟩)
  · exact (evaluate_result_iff dns _ _ _).mpr (.inl ⟨1, by decide,
      .found hfirst hspells (.comparePasses rfl id (mt matches_ip4_iff.mp (by decide))
        (.includeMatches hpass .neutral))⟩)
  · exact (evaluate_result_iff dns _ _ _).mpr (.inl ⟨1, by decide,
      .found hfirst hspells (.comparePasses rfl id (mt matches_ip4_iff.mp (by decide))
        (.includePasses hfail (.inl rfl) (.compareMatches rfl hall .softfail)))⟩)
  · exact (evaluate_result_iff dns _ _ _).mpr (.inl ⟨0, by decide, hpass⟩)
  · refine (evaluate_result_iff dns _ _ _).mpr (.inr ⟨rfl, ?_⟩)
    rintro ⟨r, n, -, hmeans⟩
    exact not_means_of_circular (by rintro _ rfl; exact ⟨_, rfl, hcircular⟩) rfl r n hmeans

end MailPolicy.Spf
