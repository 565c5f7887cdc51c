/-
Sender policies and clients that have an address in either family.

An IPv4 client may come with its address in the mapped range of IPv6. Reputation lists are asked
for the same name either way.  The evaluation of a sender policy takes the family of the address as
it comes: networks of the other family hold no client, and a host is looked up for addresses of one
family only.  So a policy treats both alike as far as its mechanisms do, and one mechanism that does
not is enough for another result.

* `Spf.Apart` — a mechanism treats a client and its mapped address differently;
* `Spf.compare_mapped_eq_iff` — what that means for a comparison;
* `Spf.apart_ip4_iff`, `Spf.apart_ip6_iff`, `Spf.Apart.cases` — which mechanisms do;
* `Spf.verify_mapped_iff` — **the result is the same if no mechanism on the way treats both
  differently, and a single one that does changes it**;
* `Spf.verify_mapped_ne` — a network of IPv4 addresses is one.
-/
import Mathlib.Data.List.Basic
import MailPolicy.Check.BlockList
import MailPolicy.Proofs.Dns.Zone
import MailPolicy.Proofs.Spf.Meaning
import MailPolicy.Proofs.Spf.Reach

namespace MailPolicy

/-- A reputation list is asked for the same name for a client and for its mapped address. -/
theorem IpAddress.reversed_ofMapped (x : Ipv4) :
    (IpAddress.v6 (Ipv6.ofMapped x)).reversed = (IpAddress.v4 x).reversed := by
  simp only [IpAddress.reversed, Ipv6.mapped?_ofMapped]

namespace Spf

variable {dns dns' : Resolver} {client client' : IpAddress} {domain : Text} {x : Ipv4}
  {m : Mechanism} {q : Qualifier} {sender helo : Option Text}

/-! ### Mechanisms -/

/-- Whether it makes a difference to a mechanism if a client comes with its mapped address: it
matches one of them alone, or fails for one alone. -/
def Apart (dns : Resolver) (x : Ipv4) (domain : Text) (m : Mechanism) : Prop :=
  ¬ ((Matches dns (.v6 (Ipv6.ofMapped x)) domain m ↔ Matches dns (.v4 x) domain m) ∧
    (Fails dns (.v6 (Ipv6.ofMapped x)) domain m ↔ Fails dns (.v4 x) domain m))

/-- Comparisons have one answer if the mechanism matches in both or neither, and fails in both or
neither. -/
theorem compare_eq_iff :
    (compare dns' client' domain m).1 = (compare dns client domain m).1 ↔
      (Matches dns' client' domain m ↔ Matches dns client domain m) ∧
        (Fails dns' client' domain m ↔ Fails dns client domain m) := by
  rw [← compare_eq_true_iff, ← compare_eq_true_iff, ← compare_eq_none_iff, ← compare_eq_none_iff]
  rcases (compare dns' client' domain m).1 with _ | _ | _ <;>
    rcases (compare dns client domain m).1 with _ | _ | _ <;> simp

theorem compare_mapped_eq_iff :
    (compare dns (.v6 (Ipv6.ofMapped x)) domain m).1 = (compare dns (.v4 x) domain m).1 ↔
      ¬ Apart dns x domain m := by
  rw [compare_eq_iff, Apart, Classical.not_not]

theorem apart_ip4_iff {network : Prefix 32} :
    Apart dns x domain (.ip4 network) ↔ network.contains x = true := by
  simp [Apart, Matches, Fails, Agree, Prefix.contains_iff]

theorem apart_ip6_iff {network : Prefix 128} :
    Apart dns x domain (.ip6 network) ↔ network.contains (Ipv6.ofMapped x) = true := by
  simp [Apart, Matches, Fails, Agree, Prefix.contains_iff]

/-- Only networks that hold the client, and hosts, treat the two differently. -/
theorem Apart.cases (h : Apart dns x domain m) :
    (∃ network, m = .ip4 network ∧ network.contains x = true) ∨
      (∃ network, m = .ip6 network ∧ network.contains (Ipv6.ofMapped x) = true) ∨
      (∃ target lengths, m = .host target lengths) ∨
      ∃ target lengths, m = .mailHosts target lengths := by
  cases m with
  | all | included _ | clientName | existing _ => simp [Apart, Matches, Fails] at h
  | ip4 network => exact .inl ⟨network, rfl, apart_ip4_iff.mp h⟩
  | ip6 network => exact .inr (.inl ⟨network, rfl, apart_ip6_iff.mp h⟩)
  | host target lengths => exact .inr (.inr (.inl ⟨target, lengths, rfl⟩))
  | mailHosts target lengths => exact .inr (.inr (.inr ⟨target, lengths, rfl⟩))

/-! ### Policies with one directive -/

/-- What a policy with one directive comes to, by the answer of its mechanism. -/
def decision (q : Qualifier) : Option Bool → SpfResult
  | none => .temperror
  | some true => q.result
  | some false => .neutral

theorem decision_injective (hq : q ≠ .neutral) : Function.Injective (decision q) := by
  intro a b h
  rcases a with _ | _ | _ <;> rcases b with _ | _ | _ <;> cases q <;>
    simp_all [decision, Qualifier.result]

theorem verify_eq_decision (hdomain : domain? sender helo = some domain)
    (hpolicy : HasPolicy dns domain { directives := [⟨q, m⟩] }) (hm : m.isInclusion = false) :
    verify dns sender helo client = decision q (compare dns client domain m).1 := by
  obtain ⟨text, hp, hparse⟩ := hpolicy
  have hallowed : cost m = 1 → 0 < maxTerms := fun _ => by decide
  rcases hcompare : compare dns client domain m with ⟨answer, asked⟩
  rcases answer with _ | _ | _
  · exact Verifies.verify_eq
      (.domain hdomain (.found hp hparse (.compareFails hm hallowed hcompare)))
  · exact Verifies.verify_eq
      (.domain hdomain (.found hp hparse (.comparePasses hm hallowed hcompare .undecided)))
  · exact Verifies.verify_eq
      (.domain hdomain (.found hp hparse (.compareMatches hm hallowed hcompare)))

/-! ### A sender and a client -/

/-- **When an IPv4 client may come with its mapped address.**  If no mechanism on the way treats
both differently, both have the same result; a policy with a single mechanism tells one from the
other exactly if the mechanism does.  Reputation lists never do. -/
theorem verify_mapped_iff (dns : Resolver) (sender helo : Option Text) (x : Ipv4) :
    ((∀ domain, domain? sender helo = some domain → ∀ d, Reaches dns domain d →
        ∀ m, Publishes dns d m → ¬ Apart dns x d m) →
      verify dns sender helo (.v6 (Ipv6.ofMapped x)) = verify dns sender helo (.v4 x)) ∧
    (∀ domain q m, domain? sender helo = some domain →
      HasPolicy dns domain { directives := [⟨q, m⟩] } → m.isInclusion = false → q ≠ .neutral →
      (verify dns sender helo (.v6 (Ipv6.ofMapped x)) = verify dns sender helo (.v4 x) ↔
        ¬ Apart dns x domain m)) ∧
    ∀ zone r r', r.clientAddress? = some (.v4 x) →
      r'.clientAddress? = some (.v6 (Ipv6.ofMapped x)) →
      BlockTarget.address.query? zone r' = BlockTarget.address.query? zone r := by
  refine ⟨fun h => ?_, fun domain q m hdomain hpolicy hm hq => ?_, fun zone r r' hr hr' => ?_⟩
  · refine verify_congr fun domain hdomain d hd => ⟨rfl, fun m hm => ?_⟩
    exact compare_mapped_eq_iff.mpr (h domain hdomain d hd m hm)
  · rw [verify_eq_decision hdomain hpolicy hm, verify_eq_decision hdomain hpolicy hm,
      (decision_injective hq).eq_iff, compare_mapped_eq_iff]
  · simp only [BlockTarget.query?, BlockTarget.key?, hr, hr', Option.map_some,
      IpAddress.reversed_ofMapped]

/-- A network that does not hold the client does not hold its mapped address either. -/
theorem verify_mapped_of_other_network :
    let policy : Text := "v=spf1 ip4:198.51.100.0/24 -all".toList
    let dns := Zone.resolver
      ⟨[(["example".toList, "com".toList], { txt := [.ofText policy] })]⟩ .up
    let sender : Option Text := some "user@example.com".toList
    let x := Ipv4.ofOctets [192, 0, 2, 1]
    (∀ domain, domain? sender none = some domain → ∀ d, Reaches dns domain d →
        ∀ m, Publishes dns d m → ¬ Apart dns x d m) ∧
      verify dns sender none (.v6 (Ipv6.ofMapped x)) = verify dns sender none (.v4 x) := by
  intro policy dns sender x
  let domain : Text := "example.com".toList
  let network : Prefix 32 := ⟨Ipv4.ofOctets [198, 51, 100, 0], 24, by decide⟩
  have hsource : Zone.source domain = .servers ["example".toList, "com".toList] := by decide
  have htxt : dns.txt domain = some [policy] := Zone.txt_resolver_up hsource rfl rfl rfl rfl
  have hpolicy : HasPolicy dns domain { directives := [⟨.pass, .ip4 network⟩, ⟨.fail, .all⟩] } := by
    refine ⟨policy, ?_, by decide⟩
    rw [policy?, htxt]
    decide
  have hdomain : domain? sender none = some domain := by decide
  have hnone : ∀ domain, domain? sender none = some domain → ∀ d, Reaches dns domain d →
      ∀ m, Publishes dns d m → ¬ Apart dns x d m := by
    intro domain' hdomain' d hd m hm
    obtain rfl := Option.some.inj (hdomain.symm.trans hdomain')
    obtain rfl := hpolicy.eq_of_reaches (by decide) rfl hd
    obtain ⟨directive, hdirective, rfl⟩ := hpolicy.publishes_iff.mp hm
    rcases List.mem_pair.mp hdirective with rfl | rfl
    · rw [apart_ip4_iff]
      decide
    · exact fun h => by simpa using h.cases
  exact ⟨hnone, (verify_mapped_iff dns sender none x).1 hnone⟩

/-- A network of IPv4 addresses passes a client by its own address and not by its mapped one,
although both are written for the same client. -/
theorem verify_mapped_ne :
    let policy : Text := "v=spf1 ip4:192.0.2.1 -all".toList
    let dns := Zone.resolver
      ⟨[(["example".toList, "com".toList], { txt := [.ofText policy] })]⟩ .up
    let sender : Option Text := some "user@example.com".toList
    let x := Ipv4.ofOctets [192, 0, 2, 1]
    IpAddress.parse? "192.0.2.1".toList = some (.v4 x) ∧
      IpAddress.parse? "::ffff:192.0.2.1".toList = some (.v6 (Ipv6.ofMapped x)) ∧
      verify dns sender none (.v4 x) = .pass ∧
      verify dns sender none (.v6 (Ipv6.ofMapped x)) = .fail := by
  intro policy dns sender x
  let domain : Text := "example.com".toList
  let network : Prefix 32 := ⟨x, 32, by decide⟩
  have hsource : Zone.source domain = .servers ["example".toList, "com".toList] := by decide
  have htxt : dns.txt domain = some [policy] := Zone.txt_resolver_up hsource rfl rfl rfl rfl
  have hpolicy : policy? dns domain = some (some policy) := by rw [policy?, htxt]; decide
  have hparse : SpfRecord.parse? policy =
      some { directives := [⟨.pass, .ip4 network⟩, ⟨.fail, .all⟩] } := by decide
  have hdomain : domain? sender none = some domain := by decide
  have hpass : compare dns (.v4 x) domain (.ip4 network) = (some true, []) := by decide
  refine ⟨by decide, by decide, ?_, ?_⟩
  · exact Verifies.verify_eq (.domain hdomain
      (.found hpolicy hparse (.compareMatches rfl (fun _ => by decide) hpass)))
  · exact Verifies.verify_eq (.domain hdomain
      (.found hpolicy hparse (.comparePasses rfl (fun _ => by decide) rfl
        (.compareMatches rfl (fun _ => by decide) rfl))))

end Spf
end MailPolicy
