/-
Sender policies when the records of a name come in another order.

Name servers give the records of a name in any order, and another one each time.  Whether a client
is among the addresses of a host does not depend on it.  Two choices do: of several policies of a
domain the first is taken, and of the hosts that take mail for a domain the first decides that
covers the client or cannot be looked up.  So the order of the records makes no difference as long
as each domain has one policy, and no set of mail hosts has one that covers the client beside one
that fails.

* `Spf.Unambiguous`, `Spf.forall_perm_find?_iff` — when the first element with a property does not
  depend on the order;
* `Resolver.Reordered` — the same records in another order;
* `Spf.Steady`, `Spf.forall_reordered_alike_iff` — when neither choice depends on the order;
* `Spf.verify_reordered_iff` — **the policies that a sender's leads to are taken alike in every
  order if and only if they are steady, and then the result is the same**;
* `Spf.verify_of_reordered` — with two policies, or a mail host that fails, it need not be.
-/
import Mathlib.Data.List.Perm.Basic
import MailPolicy.Proofs.Dns.Zone
import MailPolicy.Proofs.Spf.Meaning
import MailPolicy.Proofs.Spf.Reach

namespace MailPolicy

/-- Whether two resolvers find the same records under every name, in whatever order, and the
look-ups of one fail where those of the other do. -/
structure Resolver.Reordered (dns dns' : Resolver) : Prop where
  txt : ∀ name, Option.Rel List.Perm (dns.txt name) (dns'.txt name)
  a : ∀ name, Option.Rel List.Perm (dns.a name) (dns'.a name)
  aaaa : ∀ name, Option.Rel List.Perm (dns.aaaa name) (dns'.aaaa name)
  mx : ∀ name, Option.Rel List.Perm (dns.mx name) (dns'.mx name)

theorem rel_perm_refl {α : Type} (answer : DnsAnswer α) : Option.Rel List.Perm answer answer := by
  cases answer with
  | none => exact .none
  | some found => exact .some (.refl found)

/-- What does not depend on the order of the records is the same in both. -/
theorem map_eq_of_rel {α β : Type} {answer answer' : DnsAnswer α} {f : List α → β}
    (h : Option.Rel List.Perm answer answer')
    (hf : ∀ found found', answer = some found → found.Perm found' → f found' = f found) :
    answer'.map f = answer.map f := by
  cases h with
  | none => rfl
  | some hperm => exact congrArg some (hf _ _ rfl hperm)

theorem rel_perm_update {α : Type} {answers : Text → DnsAnswer α} {name : Text}
    {found found' : List α} (h : answers name = some found) (hperm : found.Perm found')
    (other : Text) :
    Option.Rel List.Perm (answers other) (Function.update answers name (some found') other) := by
  by_cases hother : other = name
  · subst hother
    rw [h, Function.update_self]
    exact .some hperm
  · rw [Function.update_of_ne hother]
    exact rel_perm_refl _

namespace Resolver

variable {dns : Resolver} {name : Text} {found found' : List Text}

theorem reordered_txt (h : dns.txt name = some found) (hperm : found.Perm found') :
    dns.Reordered { dns with txt := Function.update dns.txt name (some found') } where
  txt := rel_perm_update h hperm
  a _ := rel_perm_refl _
  aaaa _ := rel_perm_refl _
  mx _ := rel_perm_refl _

theorem reordered_mx (h : dns.mx name = some found) (hperm : found.Perm found') :
    dns.Reordered { dns with mx := Function.update dns.mx name (some found') } where
  txt _ := rel_perm_refl _
  a _ := rel_perm_refl _
  aaaa _ := rel_perm_refl _
  mx := rel_perm_update h hperm

end Resolver

namespace Spf

/-! ### The first of a list -/

section
variable {α β : Type} {p : α → Bool} {l l' : List α}

/-- Whether all elements of a list that pass a test are the same. -/
def Unambiguous (p : α → Bool) (l : List α) : Prop :=
  ∀ x ∈ l, ∀ y ∈ l, p x = true → p y = true → x = y

theorem find?_of_perm (h : l.Perm l') (hone : Unambiguous p l) : l'.find? p = l.find? p := by
  cases hfirst : l.find? p with
  | none =>
    rw [List.find?_eq_none] at hfirst ⊢
    exact fun x hx => hfirst x (h.mem_iff.mpr hx)
  | some x =>
    have hx := List.mem_of_find?_eq_some hfirst
    have hpx := List.find?_some hfirst
    have hsome : (l'.find? p).isSome := List.find?_isSome.mpr ⟨x, h.mem_iff.mp hx, hpx⟩
    obtain ⟨y, hy⟩ := Option.isSome_iff_exists.mp hsome
    rw [hy, hone y (h.mem_iff.mpr (List.mem_of_find?_eq_some hy)) x hx (List.find?_some hy) hpx]

/-- Any element can be made the first. -/
theorem exists_perm_cons {x : α} (hx : x ∈ l) : ∃ rest, l.Perm (x :: rest) := by
  obtain ⟨before, after, rfl⟩ := List.append_of_mem hx
  exact ⟨_, List.perm_middle⟩

/-- **The first image that passes a test is the same in every order if and only if all that pass
are the same.** -/
theorem forall_perm_find?_iff {f : β → α} {l : List β} :
    (∀ l', l.Perm l' → (l'.map f).find? p = (l.map f).find? p) ↔ Unambiguous p (l.map f) := by
  constructor
  · intro h x hx y hy hpx hpy
    have hfirst {z : α} (hz : z ∈ l.map f) (hpz : p z = true) : (l.map f).find? p = some z := by
      obtain ⟨b, hb, rfl⟩ := List.mem_map.mp hz
      obtain ⟨rest, hperm⟩ := exists_perm_cons hb
      rw [← h _ hperm, List.map_cons, List.find?_cons_of_pos hpz]
    exact Option.some.inj ((hfirst hx hpx).symm.trans (hfirst hy hpy))
  · exact fun hone l' hperm => find?_of_perm (hperm.map f) hone

end

/-! ### Hosts -/

variable {dns dns' : Resolver} {client : IpAddress} {domain : Text} {sender helo : Option Text}

theorem hostMatches_of_reordered (h : dns.Reordered dns') (lengths : DualLength) (host : Text) :
    hostMatches dns' client lengths host = hostMatches dns client lengths host := by
  cases client with
  | v4 c => exact map_eq_of_rel (h.a host) fun _ _ _ hperm => hperm.symm.any_eq
  | v6 c => exact map_eq_of_rel (h.aaaa host) fun _ _ _ hperm => hperm.symm.any_eq

/-- Whether an answer of a host decides for all. -/
def decides (answer : Option Bool) : Bool := answer != some false

theorem eq_none_or_of_decides {answer : Option Bool} (h : decides answer = true) :
    answer = none ∨ answer = some true := by
  rcases answer with _ | _ | _
  · exact .inl rfl
  · cases h
  · exact .inr rfl

/-- What decides is told from the answer that is given when nothing does. -/
theorem find?_decides_of_getD {answers answers' : List (Option Bool)}
    (h : (answers'.find? decides).getD (some false) = (answers.find? decides).getD (some false)) :
    answers'.find? decides = answers.find? decides := by
  have hdecides {answers : List (Option Bool)} : answers.find? decides ≠ some (some false) :=
    fun hfirst => Bool.false_ne_true (List.find?_some hfirst)
  rcases hfirst : answers.find? decides with _ | answer <;>
    rcases hfirst' : answers'.find? decides with _ | answer' <;> grind

/-- The first host that decides does so for all. -/
theorem anyHostMatches_fst_eq (lengths : DualLength) (hosts : List Text) :
    (anyHostMatches dns client lengths hosts).1 =
      ((hosts.map (hostMatches dns client lengths)).find? decides).getD (some false) := by
  induction hosts with
  | nil => rfl
  | cons host hosts ih =>
    rw [anyHostMatches_cons_fst, ih, List.map_cons, List.find?_cons]
    rcases hostMatches dns client lengths host with _ | _ | _ <;> rfl

/-! ### Policies -/

/-- Whether a policy is taken alike in every order of the records: no two policies compete for the
domain, and if one of the hosts that take mail cannot be looked up, no other covers the client. -/
structure Steady (dns : Resolver) (client : IpAddress) (domain : Text) : Prop where
  onePolicy : ∀ found, dns.txt domain = some found → Unambiguous SpfRecord.isPolicy found
  mailHosts : ∀ target lengths, Publishes dns domain (.mailHosts target lengths) →
    ∀ hosts, dns.mx (target.getD domain) = some hosts →
      (∃ h ∈ hosts, HostFails dns client h) → ∀ h ∈ hosts, ¬ HostCovers dns client lengths h

/-- Hosts decide without a doubt exactly if not one fails and another covers the client. -/
theorem unambiguous_hosts_iff {lengths : DualLength} {hosts : List Text} :
    Unambiguous decides (hosts.map (hostMatches dns client lengths)) ↔
      ((∃ h ∈ hosts, HostFails dns client h) → ∀ h ∈ hosts, ¬ HostCovers dns client lengths h) := by
  constructor
  · rintro hone ⟨f, hf, hfails⟩ c hc hcovers
    have hnone := (hostMatches_eq_none_iff lengths).mpr hfails
    have htrue := hostMatches_eq_true_iff.mpr hcovers
    have heq := hone _ (List.mem_map_of_mem hf) _ (List.mem_map_of_mem hc)
      (by rw [hnone]; rfl) (by rw [htrue]; rfl)
    rw [hnone, htrue] at heq
    cases heq
  · intro h x hx y hy hdx hdy
    obtain ⟨f, hf, rfl⟩ := List.mem_map.mp hx
    obtain ⟨c, hc, rfl⟩ := List.mem_map.mp hy
    have hnot {f c : Text} (hf : f ∈ hosts) (hc : c ∈ hosts)
        (hnone : hostMatches dns client lengths f = none)
        (htrue : hostMatches dns client lengths c = some true) : False :=
      h ⟨f, hf, (hostMatches_eq_none_iff lengths).mp hnone⟩ c hc (hostMatches_eq_true_iff.mp htrue)
    rcases eq_none_or_of_decides hdx with hfirst | hfirst <;>
      rcases eq_none_or_of_decides hdy with hsecond | hsecond
    · rw [hfirst, hsecond]
    · exact (hnot hf hc hfirst hsecond).elim
    · exact (hnot hc hf hsecond hfirst).elim
    · rw [hfirst, hsecond]

theorem compare_mailHosts_of_reordered (h : dns.Reordered dns') {target : Option Text}
    {lengths : DualLength} {hosts' : List Text} (hmx : dns'.mx (target.getD domain) = some hosts') :
    (compare dns' client domain (.mailHosts target lengths)).1 =
      ((hosts'.map (hostMatches dns client lengths)).find? decides).getD (some false) := by
  rw [compare_mailHosts_fst hmx, anyHostMatches_fst_eq,
    funext (hostMatches_of_reordered h lengths)]

theorem compare_of_reordered (h : dns.Reordered dns') (hsteady : Steady dns client domain)
    {m : Mechanism} (hm : Publishes dns domain m) :
    (compare dns' client domain m).1 = (compare dns client domain m).1 := by
  cases m with
  | all | included _ | ip4 _ | ip6 _ | clientName => rfl
  | host target lengths => exact hostMatches_of_reordered h lengths _
  | existing name =>
    exact map_eq_of_rel (h.a name) fun _ _ _ hperm => congrArg not hperm.symm.isEmpty_eq
  | mailHosts target lengths =>
    have hrel := h.mx (target.getD domain)
    rcases hmx : dns.mx (target.getD domain) with _ | hosts <;>
      rcases hmx' : dns'.mx (target.getD domain) with _ | hosts' <;> rw [hmx, hmx'] at hrel
    · simp only [compare, hmx, hmx']
    · cases hrel
    · cases hrel
    · obtain ⟨hperm⟩ := hrel
      have hone := unambiguous_hosts_iff.mpr (hsteady.mailHosts target lengths hm hosts hmx)
      rw [compare_mailHosts_of_reordered h hmx', forall_perm_find?_iff.mpr hone hosts' hperm,
        compare_mailHosts_fst hmx, anyHostMatches_fst_eq]

/-- **The policy of a domain is taken alike in every order if and only if it is steady.** -/
theorem forall_reordered_alike_iff :
    (∀ dns', dns.Reordered dns' → Alike dns dns' client client domain) ↔
      Steady dns client domain := by
  constructor
  · intro h
    refine ⟨fun found hfound => ?_, fun target lengths hm hosts hhosts => ?_⟩
    · rw [← List.map_id found]
      refine forall_perm_find?_iff.mp fun found' hperm => ?_
      have hpolicy := (h _ (Resolver.reordered_txt hfound hperm)).policy_eq
      simpa [policy?, hfound] using hpolicy
    · refine unambiguous_hosts_iff.mp (forall_perm_find?_iff.mp fun hosts' hperm => ?_)
      have hreordered := Resolver.reordered_mx hhosts hperm
      have hcompare := (h _ hreordered).compare_eq _ hm
      rw [compare_mailHosts_of_reordered hreordered (Function.update_self ..),
        compare_mailHosts_fst hhosts, anyHostMatches_fst_eq] at hcompare
      exact find?_decides_of_getD hcompare
  · intro hsteady dns' h
    refine ⟨?_, fun m hm => compare_of_reordered h hsteady hm⟩
    exact map_eq_of_rel (h.txt domain) fun found found' hfound hperm =>
      find?_of_perm hperm (hsteady.onePolicy found hfound)

/-- Whether all policies that a sender's leads to are steady. -/
def AllSteady (dns : Resolver) (sender helo : Option Text) (client : IpAddress) : Prop :=
  ∀ domain, domain? sender helo = some domain → ∀ d, Reaches dns domain d → Steady dns client d

/-- **When the order of the records makes no difference.**  All policies that a sender's leads to,
and the mechanisms in them, are taken alike in every order of the records if and only if they are
steady; and if they are, the result for the sender and the client is the same in every order. -/
theorem verify_reordered_iff (dns : Resolver) (sender helo : Option Text) (client : IpAddress) :
    ((∀ dns', dns.Reordered dns' → ∀ domain, domain? sender helo = some domain →
        ∀ d, Reaches dns domain d → Alike dns dns' client client d) ↔
      AllSteady dns sender helo client) ∧
    (AllSteady dns sender helo client → ∀ dns', dns.Reordered dns' →
      verify dns' sender helo client = verify dns sender helo client) := by
  have hiff : (∀ dns', dns.Reordered dns' → ∀ domain, domain? sender helo = some domain →
      ∀ d, Reaches dns domain d → Alike dns dns' client client d) ↔
        AllSteady dns sender helo client := by
    constructor
    · exact fun h domain hdomain d hd => forall_reordered_alike_iff.mp fun dns' hreordered =>
        h dns' hreordered domain hdomain d hd
    · exact fun h dns' hreordered domain hdomain d hd =>
        forall_reordered_alike_iff.mpr (h domain hdomain d hd) dns' hreordered
  exact ⟨hiff, fun h dns' hreordered => verify_congr (hiff.mpr h dns' hreordered)⟩

/-- Two mail hosts that can both be looked up may change places. -/
theorem verify_reordered_two_hosts :
    let policy : Text := "v=spf1 mx -all".toList
    let one : Text := "one.example".toList
    let two : Text := "two.example".toList
    let dns := Zone.resolver
      ⟨[(["example".toList, "com".toList], { txt := [.ofText policy], mx := [one, two] }),
        (["two".toList, "example".toList], { a := [Ipv4.ofOctets [192, 0, 2, 1]] })]⟩ .up
    let dns' := { dns with mx := Function.update dns.mx "example.com".toList (some [two, one]) }
    let sender : Option Text := some "user@example.com".toList
    let client : IpAddress := .v4 (Ipv4.ofOctets [192, 0, 2, 1])
    AllSteady dns sender none client ∧ dns.Reordered dns' ∧
      verify dns' sender none client = verify dns sender none client := by
  intro policy one two dns dns' sender client
  let domain : Text := "example.com".toList
  have hsource : Zone.source domain = .servers ["example".toList, "com".toList] := by decide
  have htxt : dns.txt domain = some [policy] := Zone.txt_resolver_up hsource rfl rfl rfl rfl
  have hmx : dns.mx domain = some [one, two] := by decide
  have hfound : ∀ h ∈ [one, two], ¬ HostFails dns client h := by
    intro h hh
    rw [← hostMatches_eq_none_iff {}]
    revert h
    decide
  have hpolicy : HasPolicy dns domain
      { directives := [⟨.pass, .mailHosts none {}⟩, ⟨.fail, .all⟩] } := by
    refine ⟨policy, ?_, by decide⟩
    rw [policy?, htxt]
    decide
  have hsteady : Steady dns client domain := by
    refine ⟨fun found hfound => ?_, fun target lengths hm hosts hhosts => ?_⟩
    · obtain rfl := Option.some.inj (htxt.symm.trans hfound)
      intro x hx y hy _ _
      rw [List.mem_singleton.mp hx, List.mem_singleton.mp hy]
    · obtain ⟨d, hd, heq⟩ := hpolicy.publishes_iff.mp hm
      obtain rfl : target = none := by
        rcases List.mem_pair.mp hd with rfl | rfl
        · exact ((Mechanism.mailHosts.inj heq).1).symm
        · cases heq
      obtain rfl := Option.some.inj (hmx.symm.trans hhosts)
      rintro ⟨h, hh, hfails⟩
      exact absurd hfails (hfound h hh)
  have hall : AllSteady dns sender none client := by
    intro domain' hdomain d hd
    have hdomain' : domain? sender none = some domain := by decide
    obtain rfl := Option.some.inj (hdomain'.symm.trans hdomain)
    obtain rfl := hpolicy.eq_of_reaches (by decide) rfl hd
    exact hsteady
  have hreordered := Resolver.reordered_mx hmx (.swap ..)
  exact ⟨hall, hreordered, (verify_reordered_iff dns sender none client).2 hall dns' hreordered⟩

/-- **Two policies are taken in turns, and a mail host that fails is passed over if another one that
covers the client comes before it.** -/
theorem verify_of_reordered :
    let domain : Text := "example.com".toList
    let sender : Option Text := some "user@example.com".toList
    let client : IpAddress := .v4 (Ipv4.ofOctets [192, 0, 2, 1])
    (let pass : Text := "v=spf1 +all".toList
     let fail : Text := "v=spf1 -all".toList
     let dns := Zone.resolver ⟨[(["example".toList, "com".toList],
      { txt := [.ofText pass, .ofText fail] })]⟩ .up
     let dns' := { dns with txt := Function.update dns.txt domain (some [fail, pass]) }
     dns.Reordered dns' ∧ verify dns sender none client = .pass ∧
      verify dns' sender none client = .fail) ∧
    (let good : Text := "good.example".toList
     let bad : Text := "bad.example".toList
     let dns := Zone.resolver
      ⟨[(["example".toList, "com".toList],
          { txt := [.ofText "v=spf1 mx -all".toList], mx := [good, bad] }),
        (["good".toList, "example".toList], { a := [Ipv4.ofOctets [192, 0, 2, 1]] }),
        (["bad".toList, "example".toList], { status := .fails })]⟩ .up
     let dns' := { dns with mx := Function.update dns.mx domain (some [bad, good]) }
     dns.Reordered dns' ∧ verify dns sender none client = .pass ∧
      verify dns' sender none client = .temperror) := by
  intro domain sender client
  have hdomain : domain? sender none = some domain := by decide
  have hsource : Zone.source domain = .servers ["example".toList, "com".toList] := by decide
  constructor
  · intro pass fail dns dns'
    have htxt : dns.txt domain = some [pass, fail] := Zone.txt_resolver_up hsource rfl rfl rfl rfl
    have htxt' : dns'.txt domain = some [fail, pass] := Function.update_self domain _ dns.txt
    have hpolicy : policy? dns domain = some (some pass) := by rw [policy?, htxt]; decide
    have hpolicy' : policy? dns' domain = some (some fail) := by rw [policy?, htxt']; decide
    have hparse : SpfRecord.parse? pass = some { directives := [⟨.pass, .all⟩] } := by decide
    have hparse' : SpfRecord.parse? fail = some { directives := [⟨.fail, .all⟩] } := by decide
    refine ⟨Resolver.reordered_txt htxt (.swap ..), ?_, ?_⟩
    · exact Verifies.verify_eq
        (.domain hdomain (.found hpolicy hparse (.compareMatches rfl (fun _ => by decide) rfl)))
    · exact Verifies.verify_eq
        (.domain hdomain (.found hpolicy' hparse' (.compareMatches rfl (fun _ => by decide) rfl)))
  · intro good bad dns dns'
    let policy : Text := "v=spf1 mx -all".toList
    have htxt : dns.txt domain = some [policy] := Zone.txt_resolver_up hsource rfl rfl rfl rfl
    have hmx : dns.mx domain = some [good, bad] := by decide
    have hpolicy : policy? dns domain = some (some policy) := by rw [policy?, htxt]; decide
    have hparse : SpfRecord.parse? policy =
        some { directives := [⟨.pass, .mailHosts none {}⟩, ⟨.fail, .all⟩] } := by decide
    have hcompare : compare dns client domain (.mailHosts none {}) =
        (some true, [(.mx, domain), (.a, good)]) := by decide
    have hcompare' : compare dns' client domain (.mailHosts none {}) =
        (none, [(.mx, domain), (.a, bad)]) := by decide
    refine ⟨Resolver.reordered_mx hmx (.swap ..), ?_, ?_⟩
    · exact Verifies.verify_eq (.domain hdomain
        (.found hpolicy hparse (.compareMatches rfl (fun _ => by decide) hcompare)))
    · exact Verifies.verify_eq (.domain hdomain
        (.found hpolicy hparse (.compareFails rfl (fun _ => by decide) hcompare')))

end Spf
end MailPolicy
