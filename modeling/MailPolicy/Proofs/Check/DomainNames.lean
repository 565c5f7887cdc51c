/-
What lists of domains are asked for.

The name is a domain from the request, a dot, the zone and a dot.  The value of a field is stripped of
blanks and then of dots before it is cut behind its last at sign, and a domain with a blank is not asked
for.  So the domain has no at sign, no blank and no dot at its end.  Nothing is done about dots that the
cut uncovers or that stand side by side, and a value with such a domain makes a name with an empty label,
which no name server can be asked for.

* `BlockTarget.Bears` — which domain stands in a value;
* `BlockTarget.domainIn?_eq_some_iff` — which of them are asked for;
* `BlockList.Gives`, `BlockList.query?_domain_eq_some_iff` — the names that requests give;
* `BlockList.query?_domain_wellFormed_iff` — **they are well formed unless a domain starts with a dot or
  has two side by side**;
* `BlockList.query?_domain_dotted` — domains that do.
-/
import Mathlib.Data.List.Basic
import MailPolicy.Engine.Probe
import MailPolicy.Proofs.Check.Build
import MailPolicy.Proofs.Dns.Labels

namespace MailPolicy

namespace BlockTarget

variable {s value domain name : Text}

/-! ### The domain in a value -/

/-- The part of a text behind its last at sign, and all of it if there is none. -/
def behindAt (s : Text) : Text :=
  match Text.splitLast (· == '@') s with
  | some (_, domain) => domain
  | none => s

theorem behindAt_of_notMem (h : '@' ∉ s) : behindAt s = s := by
  have hnone : Text.splitLast (· == '@') s = none :=
    Text.splitLast_eq_none_iff.mpr fun x hx => by grind
  rw [behindAt, hnone]

theorem behindAt_append (front : Text) (h : '@' ∉ domain) :
    behindAt (front ++ '@' :: domain) = domain := by
  have hsome : Text.splitLast (· == '@') (front ++ '@' :: domain) = some (front, domain) :=
    Text.splitLast_append front rfl fun x hx => by grind
  rw [behindAt, hsome]

/-- What stands in front of the part behind the last at sign is nothing or ends in that sign. -/
theorem behindAt_eq_iff : behindAt s = domain ↔
    '@' ∉ domain ∧ ∃ front, s = front ++ domain ∧ ∀ x, front.getLast? = some x → x = '@' := by
  constructor
  · rintro rfl
    cases hcut : Text.splitLast (· == '@') s with
    | none =>
      have hnone := Text.splitLast_eq_none_iff.mp hcut
      have hat : '@' ∉ s := fun hmem => by simpa using hnone '@' hmem
      rw [behindAt_of_notMem hat]
      exact ⟨hat, [], rfl, nofun⟩
    | some parts =>
      obtain ⟨c, rfl, hc, hdomain⟩ := Text.splitLast_eq_some_iff.mp hcut
      obtain rfl := eq_of_beq hc
      have hat : '@' ∉ parts.2 := fun hmem => by simpa using hdomain '@' hmem
      rw [behindAt_append _ hat]
      exact ⟨hat, parts.1 ++ ['@'], by simp, by simp⟩
  · rintro ⟨hdomain, front, rfl, hfront⟩
    rcases List.eq_nil_or_concat front with rfl | ⟨front, x, rfl⟩
    · exact behindAt_of_notMem hdomain
    · obtain rfl := hfront x (by simp)
      simpa using behindAt_append front hdomain

theorem behindAt_lowerAscii (s : Text) :
    behindAt (Text.lowerAscii s) = Text.lowerAscii (behindAt s) := by
  obtain ⟨hdomain, front, hs, hfront⟩ := behindAt_eq_iff.mp (rfl : behindAt s = behindAt s)
  refine behindAt_eq_iff.mpr ⟨Text.still_at.mem_lowerAscii_iff.not.mpr hdomain,
    Text.lowerAscii front, ?_, fun x hx => ?_⟩
  · conv_lhs => rw [hs]
    exact List.map_append
  · rw [Text.lowerAscii, List.getLast?_map] at hx
    obtain ⟨y, hy, rfl⟩ := Option.map_eq_some_iff.mp hx
    exact (Text.still_at.lowerAsciiChar_eq_iff y).mpr (hfront y hy)

/-- Whether a domain stands in a value: it is what follows the last at sign, or all there is, once the
blanks and then the dots at the ends of the value are taken off. -/
def Bears (value domain : Text) : Prop :=
  '@' ∉ domain ∧ ∃ front, Text.dropEnds isDot (Text.trim value) = front ++ domain ∧
    ∀ x, front.getLast? = some x → x = '@'

theorem bears_iff :
    Bears value domain ↔ behindAt (Text.dropEnds isDot (Text.trim value)) = domain :=
  behindAt_eq_iff.symm

theorem Bears.unique {domain' : Text} (h : Bears value domain) (h' : Bears value domain') :
    domain = domain' := (bears_iff.mp h).symm.trans (bears_iff.mp h')

/-- The dots at the end of a value are not part of its domain. -/
theorem Bears.getLast? (h : Bears value domain) : domain.getLast? ≠ some '.' := by
  obtain ⟨-, front, hbare, -⟩ := h
  intro hlast
  have hbareLast : (Text.dropEnds isDot (Text.trim value)).getLast? = some '.' := by
    rw [hbare, List.getLast?_append, hlast]
    rfl
  exact absurd (Text.getLast?_dropEnds hbareLast) (by decide)

/-- Whether a domain is asked for: there is something in it, and no blank. -/
def Usable (domain : Text) : Prop := domain ≠ [] ∧ ∀ x ∈ domain, Text.isBlank x = false

theorem usable_lowerAscii_iff : Usable (Text.lowerAscii domain) ↔ Usable domain := by
  simp [Usable, Text.lowerAscii, Text.isBlank_lowerAsciiChar]

instance : Decidable (Usable domain) :=
  decidable_of_iff (domain ≠ [] ∧ domain.any Text.isBlank = false) (by simp [Usable])

theorem domainIn?_of_bears (h : Bears value domain) :
    domainIn? value = if Usable domain then some (Text.lowerAscii domain) else none := by
  have hdomain : domainIn? value =
      if (Text.lowerAscii domain).isEmpty || (Text.lowerAscii domain).any Text.isBlank then none
      else some (Text.lowerAscii domain) := by
    rw [← bears_iff.mp h, ← behindAt_lowerAscii]
    rfl
  rw [hdomain]
  by_cases husable : Usable domain
  · obtain ⟨hne, hsolid⟩ := usable_lowerAscii_iff.mpr husable
    simpa [husable, hne] using hsolid
  · rw [if_neg husable, if_pos]
    rw [← usable_lowerAscii_iff, Usable] at husable
    simpa [or_iff_not_imp_left] using husable

theorem domainIn?_eq_some_iff : domainIn? value = some name ↔
    ∃ domain, Bears value domain ∧ Usable domain ∧ Text.lowerAscii domain = name := by
  constructor
  · intro h
    rw [domainIn?_of_bears (bears_iff.mpr rfl)] at h
    obtain ⟨husable, hname⟩ := Option.ite_none_right_eq_some.mp h
    exact ⟨_, bears_iff.mpr rfl, husable, Option.some.inj hname⟩
  · rintro ⟨domain, hbears, husable, rfl⟩
    rw [domainIn?_of_bears hbears, if_pos husable]

end BlockTarget

/-! ### Names -/

namespace BlockList

open BlockTarget (Bears Usable)

variable {s : BlockListSettings} {c : BlockList} {field : Field} {r : Request} {domain name zone : Text}

/-- Whether a request gives a list of domains a domain to ask for. -/
def Gives (r : Request) (field : Field) (domain : Text) : Prop :=
  ∃ value, r.field? field = some value ∧ Bears value domain ∧ Usable domain

theorem Gives.unique {domain' : Text} (h : Gives r field domain) (h' : Gives r field domain') :
    domain = domain' := by
  obtain ⟨value, hvalue, hbears, -⟩ := h
  obtain ⟨value', hvalue', hbears', -⟩ := h'
  obtain rfl := Option.some.inj (hvalue.symm.trans hvalue')
  exact hbears.unique hbears'

/-- Whether a name can be asked of name servers: a domain without blanks and at signs, a dot, the zone and
a dot, and no label of it is empty. -/
def WellFormed (zone name : Text) : Prop :=
  ∃ domain, name = domain ++ '.' :: zone ++ ['.'] ∧ domain ≠ [] ∧
    (∀ x ∈ domain, Text.isBlank x = false ∧ x ≠ '@') ∧
    ∀ label ∈ Dns.parts (domain ++ '.' :: zone), label ≠ []

theorem query?_domain_eq_some_iff (hbuild : build (.domain field) s = .ok c) :
    c.query? r = some name ↔
      ∃ domain, Gives r field domain ∧ Text.lowerAscii domain ++ '.' :: c.zone ++ ['.'] = name := by
  have htarget := (build_spec hbuild).1
  rw [query?, htarget, BlockTarget.query?, dropEnds_zone hbuild, Option.map_eq_some_iff]
  simp only [BlockTarget.key?, Option.bind_eq_some_iff, BlockTarget.domainIn?_eq_some_iff, Gives]
  constructor
  · rintro ⟨key, ⟨value, hvalue, domain, hbears, husable, rfl⟩, rfl⟩
    exact ⟨domain, ⟨value, hvalue, hbears, husable⟩, rfl⟩
  · rintro ⟨domain, ⟨value, hvalue, hbears, husable⟩, rfl⟩
    exact ⟨_, ⟨value, hvalue, domain, hbears, husable, rfl⟩, rfl⟩

theorem query?_domain_eq_none_iff (hbuild : build (.domain field) s = .ok c) :
    c.query? r = none ↔ ∀ domain, ¬ Gives r field domain := by
  rw [Option.eq_none_iff_forall_ne_some]
  simp only [ne_eq, query?_domain_eq_some_iff hbuild]
  constructor
  · exact fun h domain hgives => h _ ⟨domain, hgives, rfl⟩
  · rintro h name ⟨domain, hgives, -⟩
    exact h domain hgives

/-- Of all that makes a name malformed only dots can be wrong with the domain of a request. -/
theorem wellFormed_iff_of_gives (hzone : ∀ label ∈ Dns.parts zone, label ≠ [])
    (h : Gives r field domain) :
    WellFormed zone (Text.lowerAscii domain ++ '.' :: zone ++ ['.']) ↔
      domain.head? ≠ some '.' ∧ ¬ Dns.HasDots domain := by
  obtain ⟨value, -, hbears, hne, hsolid⟩ := h
  have hlabels : (∀ label ∈ Dns.parts (Text.lowerAscii domain ++ '.' :: zone), label ≠ []) ↔
      domain.head? ≠ some '.' ∧ ¬ Dns.HasDots domain := by
    rw [Dns.parts_append_dot, List.forall_mem_append, and_iff_left hzone, Text.lowerAscii,
      Dns.parts_map Text.still_dot.lowerAsciiChar_eq_iff, List.forall_mem_map]
    simp only [ne_eq, List.map_eq_nil_iff]
    have hempty := Dns.nil_mem_parts_iff (s := domain)
    have hlast := hbears.getLast?
    grind
  rw [← hlabels]
  constructor
  · rintro ⟨domain', hname, -, -, hlabels'⟩
    obtain rfl : Text.lowerAscii domain = domain' := by
      simpa only [List.append_cancel_right_eq] using hname
    exact hlabels'
  · intro hlabels'
    refine ⟨_, rfl, by simpa [Text.lowerAscii] using hne, fun x hx => ?_, hlabels'⟩
    obtain ⟨y, hy, rfl⟩ := List.mem_map.mp hx
    refine ⟨(Text.isBlank_lowerAsciiChar y).trans (hsolid y hy), fun hat => hbears.1 ?_⟩
    rwa [← (Text.still_at.lowerAsciiChar_eq_iff y).mp hat]

/-! ### Probes -/

variable {net : Network} {b : Bench} {p : Probe} {now : Nat}

/-- A probe of a list without a name to ask for asks nothing and counts no failure. -/
theorem quiet_of_query?_eq_none (hcheck : b.checks[p.slot]? = some (.blockList c))
    (hquery : c.query? p.attributes = none) :
    (p.start net b now).2 = b ∧ (p.finish net b).2.queries = b.queries ∧
      (p.finish net b).2.memories = b.memories := by
  have hfind : p.find net b = (.neutral, b) := by simp [Probe.find, hcheck, hquery]
  refine ⟨by simp [Probe.start, hcheck, hquery], ?_, ?_⟩ <;>
    simp [Probe.finish, hfind, Bench.settleFinding, Bench.unlock, Bench.setBoard]

/-- **The names of a list of domains are well formed unless a domain starts with a dot or has two side by
side.**  No other request brings in an empty label, a blank or an at sign.  There is no name exactly if the
field gives no domain, or one that is empty or has a blank in it; then nothing is asked and nothing is
counted against the list. -/
theorem query?_domain_wellFormed_iff (hbuild : build (.domain field) s = .ok c)
    (hzone : ∀ label ∈ Dns.parts c.zone, label ≠ []) (r : Request) :
    ((∀ name, c.query? r = some name → WellFormed c.zone name) ↔
      ∀ domain, Gives r field domain → domain.head? ≠ some '.' ∧ ¬ Dns.HasDots domain) ∧
    (c.query? r = none ↔ ∀ domain, ¬ Gives r field domain) ∧
    (c.query? r = none → ∀ (net : Network) (b : Bench) (p : Probe) (now : Nat),
      p.attributes = r → b.checks[p.slot]? = some (.blockList c) →
        (p.start net b now).2 = b ∧ (p.finish net b).2.queries = b.queries ∧
          (p.finish net b).2.memories = b.memories) := by
  refine ⟨?_, query?_domain_eq_none_iff hbuild, ?_⟩
  · constructor
    · intro h domain hgives
      have hquery := (query?_domain_eq_some_iff hbuild).mpr ⟨domain, hgives, rfl⟩
      exact (wellFormed_iff_of_gives hzone hgives).mp (h _ hquery)
    · intro h name hquery
      obtain ⟨domain, hgives, rfl⟩ := (query?_domain_eq_some_iff hbuild).mp hquery
      exact (wellFormed_iff_of_gives hzone hgives).mpr (h domain hgives)
  · rintro hquery net b p now rfl hcheck
    exact quiet_of_query?_eq_none hcheck hquery

/-- An address with two at signs, with blanks and dots behind it. -/
theorem query?_domain_wellFormed_of_address :
    let r := Request.empty.insert "sender".toList " a@b@Mail.Example.. ".toList
    ∃ c, build (.domain .sender) ⟨"list.example".toList, "list.example".toList, none, some 1, [], none⟩ =
        .ok c ∧ (∀ label ∈ Dns.parts c.zone, label ≠ []) ∧
      c.query? r = some "mail.example.list.example.".toList ∧
      WellFormed c.zone "mail.example.list.example.".toList := by
  intro r
  obtain ⟨c, hbuild, hzone, htarget⟩ := exists_build_of_zone (.domain .sender)
    "list.example".toList 1 (by decide) (by decide) (by decide +kernel)
  have hlabels : ∀ label ∈ Dns.parts c.zone, label ≠ [] := by
    rw [hzone]
    decide +kernel
  have hquery : c.query? r = some "mail.example.list.example.".toList := by
    rw [query?, htarget, hzone]
    decide +kernel
  refine ⟨c, hbuild, hlabels, hquery, ?_⟩
  refine (query?_domain_wellFormed_iff hbuild hlabels r).1.mpr (fun domain hgives => ?_) _ hquery
  have hdomain : Gives r .sender "Mail.Example".toList :=
    ⟨"a@b@Mail.Example..".toList, by decide +kernel, BlockTarget.bears_iff.mpr (by decide +kernel),
      by decide +kernel⟩
  obtain rfl := hgives.unique hdomain
  exact ⟨by decide, by decide +kernel⟩

/-- A domain with two dots side by side, and one that starts with a dot behind the at sign: a list is asked
for names that are none. -/
theorem query?_domain_dotted :
    let r := Request.empty.insert "sender".toList "user@a..b".toList
    let r' := Request.empty.insert "sender".toList "user@.a.b".toList
    ∃ c, build (.domain .sender) ⟨"list.example".toList, "list.example".toList, none, some 1, [], none⟩ =
        .ok c ∧
      c.query? r = some "a..b.list.example.".toList ∧
      ¬ WellFormed c.zone "a..b.list.example.".toList ∧
      Dns.isName "a..b.list.example.".toList = false ∧
      c.query? r' = some ".a.b.list.example.".toList ∧
      ¬ WellFormed c.zone ".a.b.list.example.".toList ∧
      Dns.isName ".a.b.list.example.".toList = false := by
  intro r r'
  obtain ⟨c, hbuild, hzone, htarget⟩ := exists_build_of_zone (.domain .sender)
    "list.example".toList 1 (by decide) (by decide) (by decide +kernel)
  have hlabels : ∀ label ∈ Dns.parts (BlockList.zoneOf "list.example".toList), label ≠ [] := by
    decide +kernel
  have hdots : Gives r .sender "a..b".toList :=
    ⟨"user@a..b".toList, by decide +kernel, BlockTarget.bears_iff.mpr (by decide +kernel),
      by decide +kernel⟩
  have hfront : Gives r' .sender ".a.b".toList :=
    ⟨"user@.a.b".toList, by decide +kernel, BlockTarget.bears_iff.mpr (by decide +kernel),
      by decide +kernel⟩
  have hbad := (wellFormed_iff_of_gives hlabels hdots).not.mpr (by decide +kernel)
  have hbad' := (wellFormed_iff_of_gives hlabels hfront).not.mpr (by decide +kernel)
  refine ⟨c, hbuild, ?_, ?_, by decide +kernel, ?_, ?_, by decide +kernel⟩
  · rw [query?, htarget, hzone]
    decide +kernel
  · rw [hzone]
    exact hbad
  · rw [query?, htarget, hzone]
    decide +kernel
  · rw [hzone]
    exact hbad'

end BlockList
end MailPolicy
