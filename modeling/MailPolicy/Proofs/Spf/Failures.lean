/-
Where temporary errors come from.

An evaluation goes on until a look-up fails.  The first failure ends it with a temporary error, and
nothing else does: a look-up that fails is the last of its evaluation and the only one that fails.
So a temporary error says as much about the domain name system as its last look-up does.  A
malformed name cannot be looked up, and no name is examined before it is; a sender, a client or a
policy that brings one in brings about a temporary error while the domain name system answers all
it is asked.

* `Spf.StopsAt` — a list that stops at its first element with a property;
* `Spf.stopsAt_compare`, `Spf.Evaluates.stopsAt` — the look-ups of a mechanism and of an evaluation
  stop at the first that fails;
* `Spf.verify_temporary_iff` — **a temporary error comes from a failed look-up, and from that of a
  well-formed name if only such names are looked up**;
* `Spf.verify_temporary_of_malformed` — with a malformed name there need not be any other.
-/
import MailPolicy.Engine.Probe
import MailPolicy.Proofs.Dns.Zone
import MailPolicy.Proofs.Spf.Meaning

namespace MailPolicy

namespace Spf

/-! ### Lists that stop -/

section
variable {α β : Type} {p : α → Prop} {stopped : Prop} {l l' : List α} {x y : α}

/-- Whether a list stops at its first element with a property; one that does not stop has none. -/
def StopsAt (p : α → Prop) (stopped : Prop) (l : List α) : Prop :=
  (stopped ∧ ∃ before last, l = before ++ [last] ∧ p last ∧ ∀ x ∈ before, ¬ p x) ∨
    (¬ stopped ∧ ∀ x ∈ l, ¬ p x)

theorem stopsAt_nil (h : ¬ stopped) : StopsAt p stopped [] := .inr ⟨h, nofun⟩

theorem stopsAt_singleton (h : stopped ↔ p x) : StopsAt p stopped [x] := by
  by_cases hx : p x
  · exact .inl ⟨h.mpr hx, [], x, rfl, hx, nofun⟩
  · exact .inr ⟨fun hs => hx (h.mp hs), by simpa using hx⟩

theorem StopsAt.append_left (h : StopsAt p stopped l') (hl : ∀ x ∈ l, ¬ p x) :
    StopsAt p stopped (l ++ l') := by
  rcases h with ⟨hs, before, last, rfl, hlast, hbefore⟩ | ⟨hs, hl'⟩
  · refine .inl ⟨hs, l ++ before, last, (List.append_assoc ..).symm, hlast, ?_⟩
    exact fun x hx => (List.mem_append.mp hx).elim (hl x) (hbefore x)
  · exact .inr ⟨hs, fun x hx => (List.mem_append.mp hx).elim (hl x) (hl' x)⟩

theorem StopsAt.cons (h : StopsAt p stopped l) (hx : ¬ p x) : StopsAt p stopped (x :: l) :=
  h.append_left (l := [x]) (by simpa using hx)

theorem StopsAt.map {q : β → Prop} {f : α → β} (h : StopsAt p stopped l) (hf : ∀ x, q (f x) ↔ p x) :
    StopsAt q stopped (l.map f) := by
  rcases h with ⟨hs, before, last, rfl, hlast, hbefore⟩ | ⟨hs, hl⟩
  · refine .inl ⟨hs, before.map f, f last, List.map_append, (hf last).mpr hlast, ?_⟩
    simpa [hf] using hbefore
  · exact .inr ⟨hs, by simpa [hf] using hl⟩

theorem StopsAt.congr {stopped' : Prop} (h : StopsAt p stopped l) (hs : stopped ↔ stopped') :
    StopsAt p stopped' l := propext hs ▸ h

/-- A list that does not stop has no element with the property. -/
theorem StopsAt.not_of_mem (h : StopsAt p stopped l) (hs : ¬ stopped) : ∀ x ∈ l, ¬ p x :=
  h.elim (fun h => absurd h.1 hs) (·.2)

theorem StopsAt.iff_exists (h : StopsAt p stopped l) : stopped ↔ ∃ x ∈ l, p x := by
  constructor
  · intro hs
    obtain ⟨-, before, last, rfl, hlast, -⟩ := h.resolve_right fun h => h.1 hs
    exact ⟨last, by simp, hlast⟩
  · rintro ⟨x, hx, hp⟩
    exact Classical.not_not.mp fun hs => h.not_of_mem hs x hx hp

/-- No two elements of such a list have the property. -/
theorem StopsAt.eq_of_mem (h : StopsAt p stopped l) (hx : x ∈ l) (hpx : p x) (hy : y ∈ l)
    (hpy : p y) : x = y := by
  rcases h with ⟨-, before, last, rfl, -, hbefore⟩ | ⟨-, hl⟩
  · have hlast {z : α} (hz : z ∈ before ++ [last]) (hpz : p z) : z = last :=
      (List.mem_append.mp hz).elim (fun hz => absurd hpz (hbefore z hz)) List.mem_singleton.mp
    rw [hlast hx hpx, hlast hy hpy]
  · exact absurd hpx (hl x hx)

end

/-! ### The look-ups of an evaluation -/

variable {dns : Resolver} {client : IpAddress} {domain : Text} {depth count after : Nat}
  {task : Task} {r : SpfResult} {events : List Event} {sender helo : Option Text}

theorem hostFails_iff {host : Text} :
    HostFails dns client host ↔ dns.Fails (addressKind client) host := by
  cases client <;> rfl

theorem stopsAt_anyHostMatches (lengths : DualLength) (hosts : List Text) :
    StopsAt (fun asked => dns.Fails asked.1 asked.2)
      ((anyHostMatches dns client lengths hosts).1 = none)
      (anyHostMatches dns client lengths hosts).2 := by
  have hfails (host : Text) :
      hostMatches dns client lengths host = none ↔ dns.Fails (addressKind client) host :=
    (hostMatches_eq_none_iff lengths).trans hostFails_iff
  induction hosts with
  | nil => exact stopsAt_nil (Option.some_ne_none false)
  | cons host rest ih =>
    rcases hhost : hostMatches dns client lengths host with _ | _ | _ <;>
      simp only [anyHostMatches, hhost]
    · exact stopsAt_singleton (iff_of_true trivial ((hfails host).mp hhost))
    · exact ih.cons fun hf => by simp [(hfails host).mpr hf] at hhost
    · exact stopsAt_singleton (iff_of_false (Option.some_ne_none true) fun hf => by
        simp [(hfails host).mpr hf] at hhost)

/-- The look-ups of a mechanism stop at the first that fails; if one does, the answer cannot be
told. -/
theorem stopsAt_compare (domain : Text) (m : Mechanism) :
    StopsAt (fun asked => dns.Fails asked.1 asked.2) ((compare dns client domain m).1 = none)
      (compare dns client domain m).2 := by
  cases m with
  | all | included _ | ip4 _ | ip6 _ | clientName => exact stopsAt_nil nofun
  | host target lengths =>
    exact stopsAt_singleton ((hostMatches_eq_none_iff lengths).trans hostFails_iff)
  | existing name => exact stopsAt_singleton Option.map_eq_none_iff
  | mailHosts target lengths =>
    rcases hmx : dns.mx (target.getD domain) with _ | hosts <;> simp only [compare, hmx]
    · exact stopsAt_singleton (iff_of_true trivial hmx)
    · refine (stopsAt_anyHostMatches lengths hosts).cons fun hf => ?_
      cases hmx.symm.trans hf

/-- Whether an event is a look-up that fails. -/
def Event.Fails (dns : Resolver) : Event → Prop
  | .lookup l => dns.Fails l.kind l.name
  | .mechanism _ _ => False
  | .redirection _ _ => False

theorem not_fails_counted (m : Mechanism) : ∀ e ∈ counted m depth, ¬ e.Fails dns := by
  intro e he
  rw [List.eq_of_mem_replicate he]
  exact not_false

theorem stopsAt_compared {m : Mechanism} {answer : Option Bool} {asked : List (RecordKind × Text)}
    (hcompare : compare dns client domain m = (answer, asked)) :
    StopsAt (Event.Fails dns) (answer = none) (counted m depth ++ looked depth asked) := by
  have h : StopsAt (fun asked => dns.Fails asked.1 asked.2)
      ((compare dns client domain m).1 = none) (compare dns client domain m).2 :=
    stopsAt_compare domain m
  rw [hcompare] at h
  exact (h.map fun _ => Iff.rfl).append_left (not_fails_counted m)

theorem redirected_eq_temperror_iff : redirected r = .temperror ↔ r = .temperror := by
  cases r <;> simp [redirected]

theorem result_ne_temperror (qualifier : Qualifier) : qualifier.result ≠ .temperror := by
  cases qualifier <;> nofun

/-- **The look-ups of an evaluation stop at the first that fails**, which is what makes the result a
temporary error. -/
theorem Evaluates.stopsAt (h : Evaluates dns client depth count task r after events) :
    StopsAt (Event.Fails dns) (r = .temperror) events := by
  induction h with
  | failed hp => exact stopsAt_singleton ⟨fun _ => policy?_eq_none_iff.mp hp, fun _ => rfl⟩
  | missing hp | malformed hp _ =>
    refine stopsAt_singleton ⟨nofun, fun hf => ?_⟩
    rw [policy?_eq_none_iff.mpr hf] at hp
    cases hp
  | found hp _ _ ih =>
    refine ih.cons fun hf => ?_
    rw [policy?_eq_none_iff.mpr hf] at hp
    cases hp
  | undecided | redirectRefused _ | refused _ _ => exact stopsAt_nil nofun
  | redirect _ _ ih => exact (ih.congr redirected_eq_temperror_iff.symm).cons not_false
  | @includeStops _ _ _ _ _ _ _ _ r r' _ _ _ hinclusion ih =>
    refine (ih.congr ?_).cons not_false
    rcases inclusion_eq_error_iff.mp hinclusion with ⟨rfl | rfl, rfl⟩ | ⟨rfl, rfl⟩ <;> simp
  | @includeMatches _ _ _ _ _ qualifier _ _ _ _ _ _ hinclusion ih =>
    obtain rfl := inclusion_eq_true_iff.mp hinclusion
    exact (ih.congr (by simp [result_ne_temperror])).cons not_false
  | includePasses _ _ hinclusion _ ih ihrest =>
    -- An included policy lets its inclusion pass only if none of its look-ups failed.
    refine (ihrest.append_left (ih.not_of_mem ?_)).cons not_false
    rintro rfl
    cases hinclusion
  | compareFails _ _ hcompare => exact (stopsAt_compared hcompare).congr (by simp)
  | compareMatches _ _ hcompare =>
    exact (stopsAt_compared hcompare).congr (by simp [result_ne_temperror])
  | comparePasses _ _ hcompare _ ih =>
    exact ih.append_left ((stopsAt_compared hcompare).not_of_mem (by simp))

/-! ### A sender and a client -/

/-- The look-ups that the evaluation for a sender and a client makes, in order. -/
def lookups (dns : Resolver) (sender helo : Option Text) (client : IpAddress) : List Lookup :=
  match domain? sender helo with
  | none => []
  | some domain => (evaluate dns client 0 domain maxTerms).lookups

theorem Verifies.lookups_eq_filterMap (h : Verifies dns sender helo client r events) :
    lookups dns sender helo client = events.filterMap Event.lookup? := by
  cases h with
  | noDomain hd => rw [lookups, hd]; rfl
  | domain hd h =>
    rw [lookups, hd]
    exact (h.agrees maxTerms rfl).lookups_eq

theorem Verifies.stopsAt (h : Verifies dns sender helo client r events) :
    StopsAt (Event.Fails dns) (r = .temperror) events := by
  cases h with
  | noDomain _ => exact stopsAt_nil nofun
  | domain _ h => exact h.stopsAt

theorem Verifies.mem_lookups_iff (h : Verifies dns sender helo client r events) {l : Lookup} :
    l ∈ lookups dns sender helo client ↔ Event.lookup l ∈ events := by
  rw [h.lookups_eq_filterMap, List.mem_filterMap]
  constructor
  · rintro ⟨e, he, heq⟩
    cases e with
    | lookup l' => exact Option.some.inj heq ▸ he
    | mechanism _ _ | redirection _ _ => cases heq
  · exact fun hl => ⟨_, hl, rfl⟩

theorem Verifies.eq_temperror_iff (h : Verifies dns sender helo client r events) :
    r = .temperror ↔ ∃ l ∈ lookups dns sender helo client, dns.Fails l.kind l.name := by
  rw [h.stopsAt.iff_exists]
  simp only [h.mem_lookups_iff]
  constructor
  · rintro ⟨e, he, hfails⟩
    cases e with
    | lookup l => exact ⟨l, he, hfails⟩
    | mechanism _ _ | redirection _ _ => cases hfails
  · rintro ⟨l, hl, hfails⟩
    exact ⟨_, hl, hfails⟩

/-- A temporary error is what a check of the sender policy counts as a failure. -/
theorem ofResult_eq_failure_iff (w : SpfWeights Float) :
    Finding.ofResult w r = .failure ↔ r = .temperror := by
  cases r <;> simp [Finding.ofResult, SpfWeights.weight?]

/-- **Where temporary errors come from.**  If malformed names cannot be looked up, the result is a
temporary error exactly if a look-up failed.  Some look-up of a well-formed name failed whenever it
is, if and only if no malformed name is looked up; and while all well-formed names can be looked
up, a check counts a failure exactly if a malformed one was. -/
theorem verify_temporary_iff (hdns : dns.RefusesMalformed) (sender helo : Option Text)
    (client : IpAddress) (w : SpfWeights Float) :
    (verify dns sender helo client = .temperror ↔
      ∃ l ∈ lookups dns sender helo client, dns.Fails l.kind l.name) ∧
    ((verify dns sender helo client = .temperror →
        ∃ l ∈ lookups dns sender helo client, Dns.isName l.name = true ∧ dns.Fails l.kind l.name) ↔
      ∀ l ∈ lookups dns sender helo client, Dns.isName l.name = true) ∧
    ((∀ l ∈ lookups dns sender helo client, Dns.isName l.name = true → ¬ dns.Fails l.kind l.name) →
      (Finding.ofResult w (verify dns sender helo client) = .failure ↔
        ∃ l ∈ lookups dns sender helo client, Dns.isName l.name = false)) := by
  obtain ⟨events, h⟩ := exists_verifies dns sender helo client
  have hiff := h.eq_temperror_iff
  refine ⟨hiff, ⟨fun hclaim l hl => ?_, fun hnames htemporary => ?_⟩, fun hanswers => ?_⟩
  · -- A malformed name fails, and then no other look-up does.
    refine Classical.not_not.mp fun hname => ?_
    have hfails := hdns l.kind l.name (Bool.eq_false_iff.mpr hname)
    obtain ⟨l', hl', hname', hfails'⟩ := hclaim (hiff.mpr ⟨l, hl, hfails⟩)
    have heq : Event.lookup l = .lookup l' := h.stopsAt.eq_of_mem (h.mem_lookups_iff.mp hl) hfails
      (h.mem_lookups_iff.mp hl') hfails'
    obtain rfl := Event.lookup.inj heq
    exact hname hname'
  · obtain ⟨l, hl, hfails⟩ := hiff.mp htemporary
    exact ⟨l, hl, hnames l hl, hfails⟩
  · rw [ofResult_eq_failure_iff, hiff]
    constructor
    · rintro ⟨l, hl, hfails⟩
      exact ⟨l, hl, Bool.eq_false_iff.mpr fun hname => hanswers l hl hname hfails⟩
    · rintro ⟨l, hl, hname⟩
      exact ⟨l, hl, hdns l.kind l.name hname⟩

/-- A domain can publish a term whose target is no name: its senders make a check count a failure
while every well-formed name can be looked up. -/
theorem verify_temporary_iff_of_published :
    let policy : Text := "v=spf1 exists:%\x7bi\x7d.example.net -all".toList
    let dns := Zone.resolver
      ⟨[(["example".toList, "com".toList], { txt := [.ofText policy] })]⟩ .up
    let sender : Option Text := some "user@example.com".toList
    let client : IpAddress := .v4 (Ipv4.ofOctets [192, 0, 2, 1])
    let w : SpfWeights Float := ⟨0, 0, 0, 0, 0, 0⟩
    dns.RefusesMalformed ∧
      (∀ l ∈ lookups dns sender none client,
        Dns.isName l.name = true → ¬ dns.Fails l.kind l.name) ∧
      Finding.ofResult w (verify dns sender none client) = .failure := by
  intro policy dns sender client w
  let domain : Text := "example.com".toList
  let target : Text := "%\x7bi\x7d.example.net".toList
  have hdns : dns.RefusesMalformed := Zone.refusesMalformed_resolver _ _
  have hsource : Zone.source domain = .servers ["example".toList, "com".toList] := by decide
  have htxt : dns.txt domain = some [policy] := Zone.txt_resolver_up hsource rfl rfl rfl rfl
  have hpolicy : policy? dns domain = some (some policy) := by
    rw [policy?, htxt]
    decide
  have hparse : SpfRecord.parse? policy =
      some { directives := [⟨.pass, .existing target⟩, ⟨.fail, .all⟩] } := by decide
  have hcompare : compare dns client domain (.existing target) = (none, [(.a, target)]) := by decide
  have h : Verifies dns sender none client .temperror
      [fetch domain 0, .mechanism (.existing target) 0, .lookup ⟨.a, target, 0⟩] :=
    .domain (by decide)
      (.found hpolicy hparse (.compareFails rfl (fun _ => by decide) hcompare))
  have hmalformed : Dns.isName target = false := by decide
  have hanswers : ∀ l ∈ lookups dns sender none client,
      Dns.isName l.name = true → ¬ dns.Fails l.kind l.name := by
    intro l hl hname
    rw [h.mem_lookups_iff] at hl
    simp only [fetch, List.mem_cons, Event.lookup.injEq, reduceCtorEq, List.not_mem_nil, or_false,
      false_or] at hl
    rcases hl with rfl | rfl
    · simp [Resolver.Fails, htxt]
    · cases hmalformed.symm.trans hname
  refine ⟨hdns, hanswers, ?_⟩
  refine ((verify_temporary_iff hdns sender none client w).2.2 hanswers).mpr ?_
  exact ⟨⟨.a, target, 0⟩, h.mem_lookups_iff.mpr (by simp), hmalformed⟩

/-- An empty label in the name of a sender's domain is enough. -/
theorem verify_temporary_of_malformed :
    let dns := ({} : Zone).resolver .up
    let sender : Option Text := some "user@a..b".toList
    let client : IpAddress := .v4 (Ipv4.ofOctets [192, 0, 2, 1])
    verify dns sender none client = .temperror ∧
      ¬ ∃ l ∈ lookups dns sender none client,
        Dns.isName l.name = true ∧ dns.Fails l.kind l.name := by
  intro dns sender client
  have hdomain : domain? sender none = some "a..b".toList := by decide
  have hpolicy : policy? dns "a..b".toList = none := by decide
  have h : Verifies dns sender none client .temperror [fetch "a..b".toList 0] :=
    .domain hdomain (.failed hpolicy)
  refine ⟨h.verify_eq, ?_⟩
  rintro ⟨l, hl, hname, -⟩
  rw [h.mem_lookups_iff] at hl
  obtain rfl := Event.lookup.inj (List.mem_singleton.mp hl)
  revert hname
  decide

end Spf
end MailPolicy
