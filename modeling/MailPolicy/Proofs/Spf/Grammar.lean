/-
The grammar of sender policies.

A record is read by three readers inside one another: one cuts the text into terms, one cuts a
mechanism at its first colon or slash, and one cuts lengths at a double slash and at a slash.  Here
the language is written down without them, by rules that put texts together, and the readers accept
it exactly.

* `WritesOctet`, `WritesLengths`, `WritesTarget` — numbers, lengths and what names a host;
* `Mechanism.Spells`, `Directive.Spells`, `SpfRecord.Terms`, `SpfRecord.Spells` — the language;
* `DualLength.parse?_eq_iff`, `Mechanism.parse?_eq_iff`, `Directive.parse?_eq_iff`,
  `SpfRecord.parse?_eq_iff` — what each reader accepts;
* `SpfRecord.exists_terms_of_foldlM_add`, `SpfRecord.foldlM_add_of_terms` — what the terms add to a
  record;
* `SpfRecord.parse?_eq_some_iff` — **a record is read exactly if its terms follow the grammar**.
-/
import MailPolicy.Proofs.Network.AddressText
import MailPolicy.Proofs.Text.Cuts
import MailPolicy.Spf.Record

namespace MailPolicy

/-! ### The language -/

/-- Digits that write a number below 256, with a plus sign in front or without. -/
def WritesOctet (s : Text) (n : Nat) : Prop :=
  ∃ digits, (s = digits ∨ s = '+' :: digits) ∧ digits ≠ [] ∧
    (∀ c ∈ digits, Text.isDigit c = true) ∧
    ofPlaces 10 (digits.map fun c => c.toNat - '0'.toNat) = n ∧ n < 256

/-- The length of a single address. -/
def PrefixLength.full (most : Nat) : PrefixLength most := ⟨most, Nat.le_refl most⟩

/-- A length behind slashes, or nothing, which writes that of a single address. -/
inductive WritesLength (slashes : Text) (most : Nat) : Text → PrefixLength most → Prop
  | missing : WritesLength slashes most [] (.full most)
  | given {s : Text} {n : Nat} (h : n ≤ most) :
      WritesOctet s n → WritesLength slashes most (slashes ++ s) ⟨n, h⟩

/-- Lengths for both families, either of which may be missing. -/
def WritesLengths (s : Text) (lengths : DualLength) : Prop :=
  ∃ s₄ s₆, s = s₄ ++ s₆ ∧ WritesLength ['/'] 32 s₄ lengths.v4 ∧
    WritesLength ['/', '/'] 128 s₆ lengths.v6

/-- A domain behind a colon, which may be missing, and lengths. -/
inductive WritesTarget : Text → Option Text → DualLength → Prop
  | missing {s : Text} {lengths : DualLength} :
      WritesLengths s lengths → WritesTarget s none lengths
  | given {domain s : Text} {lengths : DualLength} (nonempty : domain ≠ []) (solid : '/' ∉ domain) :
      WritesLengths s lengths → WritesTarget (':' :: domain ++ s) (some domain) lengths

/-- How mechanisms are written, in lower case.  An address is one by itself, and what has a slash is
a network. -/
inductive Mechanism.Spells : Text → Mechanism → Prop
  | all : Spells "all".toList .all
  | host {s : Text} {target : Option Text} {lengths : DualLength} :
      WritesTarget s target lengths → Spells ("a".toList ++ s) (.host target lengths)
  | mailHosts {s : Text} {target : Option Text} {lengths : DualLength} :
      WritesTarget s target lengths → Spells ("mx".toList ++ s) (.mailHosts target lengths)
  | clientName : Spells "ptr".toList .clientName
  | clientNameOf {c : Char} (s : Text) (ends : c = ':' ∨ c = '/') :
      Spells ("ptr".toList ++ c :: s) .clientName
  | included (domain : Text) : Spells ("include:".toList ++ domain) (.included domain)
  | existing (domain : Text) : Spells ("exists:".toList ++ domain) (.existing domain)
  | address4 {s : Text} {a : Ipv4} (h : AddressStyle.network.ipv4? s = some (a, [])) :
      Spells ("ip4:".toList ++ s) (.ip4 ⟨a, 32, Nat.le_refl 32⟩)
  | network4 {s : Text} {p : Prefix 32} (slash : '/' ∈ s) (h : Prefix.parseIpv4? s = some p) :
      Spells ("ip4:".toList ++ s) (.ip4 p)
  | address6 {s : Text} {a : Ipv6} (h : AddressStyle.network.ipv6? s = some (a, [])) :
      Spells ("ip6:".toList ++ s) (.ip6 ⟨a, 128, Nat.le_refl 128⟩)
  | network6 {s : Text} {p : Prefix 128} (slash : '/' ∈ s) (h : Prefix.parseIpv6? s = some p) :
      Spells ("ip6:".toList ++ s) (.ip6 p)

/-- The signs of the qualifiers; without one a directive passes. -/
inductive Qualifier.Sign : Text → Qualifier → Prop
  | missing : Sign [] .pass
  | plus : Sign ['+'] .pass
  | minus : Sign ['-'] .fail
  | tilde : Sign ['~'] .softfail
  | question : Sign ['?'] .neutral

/-- A sign and a mechanism, in which the case of letters does not matter. -/
structure Directive.Spells (term : Text) (d : Directive) : Prop where
  parts : ∃ sign mechanism, term = sign ++ mechanism ∧ d.qualifier.Sign sign ∧
    d.mechanism.Spells (Text.lowerAscii mechanism)

/-- The terms of a record, with the directives and the redirect that they give. -/
inductive SpfRecord.Terms : List Text → List Directive → Option Text → Prop
  | nil : Terms [] [] none
  | directive {term : Text} {d : Directive} {terms : List Text} {ds : List Directive}
      {redirect : Option Text} (plain : '=' ∉ term) (spells : d.Spells term)
      (tail : Terms terms ds redirect) : Terms (term :: terms) (d :: ds) redirect
  | modifier {name : Text} (value : Text) {terms : List Text} {ds : List Directive}
      {redirect : Option Text} (first : '=' ∉ name)
      (other : Text.lowerAscii name ≠ "redirect".toList)
      (tail : Terms terms ds redirect) : Terms ((name ++ '=' :: value) :: terms) ds redirect
  | redirect {name : Text} (value : Text) {terms : List Text} {ds : List Directive}
      (first : '=' ∉ name) (named : Text.lowerAscii name = "redirect".toList)
      (tail : Terms terms ds none) : Terms ((name ++ '=' :: value) :: terms) ds (some value)

/-- A record: the version, and behind it the terms between blanks. -/
structure SpfRecord.Spells (text : Text) (record : SpfRecord) : Prop where
  parts : ∃ rest terms, text = "v=spf1".toList ++ rest ∧ Text.Words rest terms ∧
    Terms terms record.directives record.redirect

/-! ### Numbers -/

theorem Text.digitValue?_ten (c : Char) :
    digitValue? 10 c = if isDigit c then some (c.toNat - '0'.toNat) else none := by
  by_cases hdigit : '0' ≤ c ∧ c ≤ '9'
  · have hle : c.toNat ≤ '9'.toNat := hdigit.2
    have hlt : c.toNat - 48 < 10 := by
      have h9 : '9'.toNat = 57 := rfl
      omega
    simp [digitValue?, isDigit, hdigit, hlt]
  · have hno : isDigit c = false := by simpa [isDigit] using hdigit
    simp only [digitValue?, hdigit, if_false, hno]
    split
    · simp
    split
    · simp
    · rfl

theorem Text.ofDigits_eq_iff {s : Text} {n : Nat} :
    ofDigits 10 s = some n ↔ (∀ c ∈ s, isDigit c = true) ∧
      ofPlaces 10 (s.map fun c => c.toNat - '0'.toNat) = n := by
  let step (acc : Option Nat) (c : Char) : Option Nat :=
    acc.bind fun n => (digitValue? 10 c).bind fun d => some (n * 10 + d)
  have hnone : ∀ s : Text, s.foldl step none = none := by
    intro s
    induction s with
    | nil => rfl
    | cons c s ih => exact ih
  -- what stands in front has been read into a number, which may be any
  have hsome : ∀ start : Nat, s.foldl step (some start) = some n ↔
      (∀ c ∈ s, isDigit c = true) ∧
        (s.map fun c => c.toNat - '0'.toNat).foldl (fun n d => n * 10 + d) start = n := by
    induction s with
    | nil => simp
    | cons c s ih =>
      intro start
      by_cases hc : isDigit c = true
      · have hstep : step (some start) c = some (start * 10 + (c.toNat - '0'.toNat)) := by
          simp [step, digitValue?_ten, hc]
        simp only [List.foldl_cons, hstep, ih, List.map_cons, List.forall_mem_cons, hc, true_and]
      · have hstep : step (some start) c = none := by simp [step, digitValue?_ten, hc]
        simp only [List.foldl_cons, hstep, hnone, reduceCtorEq, List.forall_mem_cons, hc, false_and,
          Bool.false_eq_true]
  exact hsome 0

theorem octetNumber?_eq_iff {s : Text} {n : Nat} : octetNumber? s = some n ↔ WritesOctet s n := by
  have hdigits : ∀ digits : Text,
      (if digits.isEmpty then none else (Text.ofDigits 10 digits).filter (· < 256)) = some n ↔
        digits ≠ [] ∧ (∀ c ∈ digits, Text.isDigit c = true) ∧
          ofPlaces 10 (digits.map fun c => c.toNat - '0'.toNat) = n ∧ n < 256 := by
    intro digits
    cases digits with
    | nil => simp
    | cons c digits => simp [Option.filter_eq_some_iff, Text.ofDigits_eq_iff, and_assoc]
  simp only [octetNumber?]
  split
  next rest =>
    rw [hdigits rest]
    constructor
    · exact fun h => ⟨rest, .inr rfl, h⟩
    · rintro ⟨digits, rfl | h, hrest⟩
      · exact absurd (hrest.2.1 '+' List.mem_cons_self) (by decide)
      · obtain rfl := List.tail_eq_of_cons_eq h
        exact hrest
  next hplus =>
    rw [hdigits s]
    constructor
    · exact fun h => ⟨s, .inl rfl, h⟩
    · rintro ⟨digits, rfl | h, hrest⟩
      · exact hrest
      · exact (hplus digits h).elim

theorem WritesOctet.ne_nil {s : Text} {n : Nat} (h : WritesOctet s n) : s ≠ [] := by
  obtain ⟨digits, rfl | rfl, hne, -⟩ := h
  · exact hne
  · exact List.cons_ne_nil _ _

theorem WritesOctet.slash_notMem {s : Text} {n : Nat} (h : WritesOctet s n) : '/' ∉ s := by
  obtain ⟨digits, hs, -, hdigits, -⟩ := h
  have hno : '/' ∉ digits := fun hmem => absurd (hdigits '/' hmem) (by decide)
  rcases hs with rfl | rfl
  · exact hno
  · exact List.not_mem_cons_of_ne_of_not_mem (by decide) hno

/-! ### Lengths -/

theorem PrefixLength.parse?_eq_iff {most : Nat} {s : Text} {length : PrefixLength most} :
    PrefixLength.parse? most s = some length ↔ WritesOctet s length.1 := by
  obtain ⟨n, hn⟩ := length
  simp only [PrefixLength.parse?, Option.bind_eq_some_iff, octetNumber?_eq_iff]
  constructor
  · rintro ⟨m, hm, h⟩
    split at h
    · cases h
      exact hm
    · cases h
  · exact fun h => ⟨n, h, dif_pos hn⟩

namespace DualLength

/-- What the second part of a cut adds to the first. -/
def behind : Option Text → Text
  | none => []
  | some rest => '/' :: '/' :: rest

theorem cut_cons {c : Char} {s : Text} (h : c ≠ '/' ∨ s.head? ≠ some '/') :
    cut (c :: s) = (c :: (cut s).1, (cut s).2) := by
  rw [cut]
  rintro rest rfl rfl
  simp at h

theorem cut_append_behind (s : Text) : (cut s).1 ++ behind (cut s).2 = s := by
  fun_induction cut s with
  | case1 rest => rfl
  | case2 c rest _ before after hcut ih =>
    rw [hcut] at ih
    rw [List.cons_append, ih]
  | case3 => rfl

theorem cut_of_notMem {s : Text} (h : '/' ∉ s) (second : Option Text) :
    cut (s ++ behind second) = (s, second) := by
  induction s with
  | nil => cases second <;> rfl
  | cons c s ih =>
    have hc : c ≠ '/' := (List.ne_of_not_mem_cons h).symm
    rw [List.cons_append, cut_cons (.inl hc), ih (List.not_mem_of_not_mem_cons h)]

/-- A length that is written in front of the double slash is all that stands there. -/
theorem cut_of_writesLength {most : Nat} {s : Text} {length : PrefixLength most}
    (h : WritesLength ['/'] most s length) (second : Option Text) :
    cut (s ++ behind second) = (s, second) := by
  cases h with
  | missing => exact cut_of_notMem List.not_mem_nil second
  | @given s n _ hs =>
    obtain ⟨c, s', rfl⟩ := List.exists_cons_of_ne_nil hs.ne_nil
    have hc : c ≠ '/' := fun h => hs.slash_notMem (h ▸ List.mem_cons_self)
    have htail : cut (c :: s' ++ behind second) = (c :: s', second) :=
      cut_of_notMem hs.slash_notMem second
    have hhead : (c :: s' ++ behind second).head? ≠ some '/' := by simpa using hc
    rw [List.append_assoc, List.singleton_append, cut_cons (.inr hhead), htail]
    rfl

/-- Reads what stands in front of a double slash. -/
def first? : Text → Option (PrefixLength 32)
  | '/' :: n => PrefixLength.parse? 32 n
  | [] => some (.full 32)
  | _ => none

/-- Reads what stands behind a double slash. -/
def second? : Option Text → Option (PrefixLength 128)
  | some m => PrefixLength.parse? 128 m
  | none => some (.full 128)

theorem parse?_eq (s : Text) : parse? s =
    (first? (cut s).1).bind fun v4 => (second? (cut s).2).bind fun v6 => some ⟨v4, v6⟩ := by
  rw [parse?]
  rcases cut s with ⟨first, second⟩
  fun_cases first? first with
  | case1 => cases second <;> rfl
  | case2 => cases second <;> rfl
  | case3 => cases second <;> simp

theorem first?_eq_iff {s : Text} {length : PrefixLength 32} :
    first? s = some length ↔ WritesLength ['/'] 32 s length := by
  constructor
  · intro h
    unfold first? at h
    split at h
    · exact .given length.2 (PrefixLength.parse?_eq_iff.mp h)
    · cases h
      exact .missing
    · cases h
  · rintro (_ | ⟨hn, hs⟩)
    · rfl
    · exact PrefixLength.parse?_eq_iff.mpr hs

theorem second?_eq_iff {second : Option Text} {length : PrefixLength 128} :
    second? second = some length ↔ WritesLength ['/', '/'] 128 (behind second) length := by
  cases second with
  | none =>
    constructor
    · intro h
      cases h
      exact .missing
    · intro h
      cases h
      rfl
  | some m =>
    constructor
    · exact fun h => .given length.2 (PrefixLength.parse?_eq_iff.mp h)
    · intro h
      cases h with
      | given hn hs => exact PrefixLength.parse?_eq_iff.mpr hs

theorem exists_behind {most : Nat} {s : Text} {length : PrefixLength most}
    (h : WritesLength ['/', '/'] most s length) : ∃ second, s = behind second := by
  cases h with
  | missing => exact ⟨none, rfl⟩
  | @given s => exact ⟨some s, rfl⟩

theorem parse?_eq_iff {s : Text} {lengths : DualLength} :
    parse? s = some lengths ↔ WritesLengths s lengths := by
  have hparts : parse? s = some lengths ↔ WritesLength ['/'] 32 (cut s).1 lengths.v4 ∧
      WritesLength ['/', '/'] 128 (behind (cut s).2) lengths.v6 := by
    obtain ⟨v4, v6⟩ := lengths
    simp [parse?_eq, Option.bind_eq_some_iff, ← first?_eq_iff, ← second?_eq_iff]
  rw [hparts]
  constructor
  · exact fun ⟨h₄, h₆⟩ => ⟨_, _, (cut_append_behind s).symm, h₄, h₆⟩
  · rintro ⟨s₄, s₆, rfl, h₄, h₆⟩
    obtain ⟨second, rfl⟩ := exists_behind h₆
    rw [cut_of_writesLength h₄]
    exact ⟨h₄, h₆⟩

end DualLength

theorem WritesLengths.head {s : Text} {lengths : DualLength} (h : WritesLengths s lengths)
    {c : Char} (hc : s.head? = some c) : c = '/' := by
  obtain ⟨s₄, s₆, rfl, h₄, h₆⟩ := h
  generalize lengths.v4 = v4, lengths.v6 = v6 at h₄ h₆
  cases h₄ <;> cases h₆ <;> simp_all [eq_comm]

/-! ### Mechanisms -/

theorem WritesTarget.head {s : Text} {target : Option Text} {lengths : DualLength}
    (h : WritesTarget s target lengths) {c : Char} (hc : s.head? = some c) :
    Mechanism.endsName c = true := by
  cases h with
  | missing hl => rw [hl.head hc]; rfl
  | given _ _ _ => cases hc; rfl

namespace Mechanism

theorem cut_target {front s : Text} {lengths : DualLength} (hfront : '/' ∉ front)
    (hs : WritesLengths s lengths) : (front ++ s).takeWhile (· != '/') = front ∧
      DualLength.parse? ((front ++ s).dropWhile (· != '/')) = some lengths := by
  have hslash : ∀ c ∈ front, (c != '/') = true := fun c hc => by
    simpa using ne_of_mem_of_not_mem hc hfront
  have hhead : ∀ c, s.head? = some c → (c != '/') = false := fun c hc => by
    simpa using hs.head hc
  obtain ⟨htake, hdrop⟩ := Text.takeWhile_dropWhile_append hslash hhead
  exact ⟨htake, by rw [hdrop, DualLength.parse?_eq_iff.mpr hs]⟩

/-- What stands behind the name of a mechanism starts with a colon or a slash, if there is
anything. -/
theorem target?_eq_iff {s : Text} (hs : ∀ c, s.head? = some c → endsName c = true)
    {target : Option Text} {lengths : DualLength} :
    target? s = some (target, lengths) ↔ WritesTarget s target lengths := by
  constructor
  · intro h
    obtain ⟨l, hl, h⟩ := Option.bind_eq_some_iff.mp h
    have hl := DualLength.parse?_eq_iff.mp hl
    have hcut := List.takeWhile_append_dropWhile (p := (· != '/')) (l := s)
    have hsolid : '/' ∉ s.takeWhile (· != '/') := fun hmem => by
      simpa using List.mem_takeWhile_imp hmem
    split at h
    next hnil =>
      cases h
      rw [hnil, List.nil_append] at hcut
      exact .missing (hcut ▸ hl)
    · cases h
    next name hname heq =>
      cases h
      rw [heq] at hcut hsolid
      rw [← hcut]
      refine .given ?_ (List.not_mem_of_not_mem_cons hsolid) hl
      rintro rfl
      exact hname rfl
    next hnil hcolon hname =>
      obtain ⟨c, rest, hfront⟩ := List.exists_cons_of_ne_nil hnil
      rw [hfront] at hcut hsolid hname
      have hc : endsName c = true := hs c (by rw [← hcut]; rfl)
      have hcolon : c ≠ ':' := fun h => hname rest (h ▸ rfl)
      have hslash : c ≠ '/' := fun h => hsolid (h ▸ List.mem_cons_self)
      simp [endsName, hcolon, hslash] at hc
  · intro h
    cases h with
    | missing hl =>
      obtain ⟨htake, hparse⟩ := cut_target List.not_mem_nil hl
      rw [List.nil_append] at htake hparse
      rw [target?, htake, hparse]
      rfl
    | @given domain s _ nonempty solid hl =>
      have hfront : '/' ∉ ':' :: domain :=
        List.not_mem_cons_of_ne_of_not_mem (by decide) solid
      obtain ⟨htake, hparse⟩ := cut_target hfront hl
      obtain ⟨c, domain, rfl⟩ := List.exists_cons_of_ne_nil nonempty
      rw [target?, htake, hparse]
      rfl

/-- The two parts of a mechanism, cut in front of its first colon or slash. -/
structure Parts (name rest : Text) : Prop where
  solid : ∀ c ∈ name, endsName c = false
  ends : ∀ c, rest.head? = some c → endsName c = true

theorem Parts.whole {name : Text} (solid : ∀ c ∈ name, endsName c = false) : Parts name [] :=
  ⟨solid, nofun⟩

theorem Parts.colon {name : Text} (solid : ∀ c ∈ name, endsName c = false) (s : Text) :
    Parts name (':' :: s) := by
  refine ⟨solid, fun c hc => ?_⟩
  cases hc
  rfl

theorem exists_parts (s : Text) : ∃ name rest : Text, s = name ++ rest ∧ Parts name rest := by
  refine ⟨s.takeWhile (!endsName ·), s.dropWhile (!endsName ·),
    List.takeWhile_append_dropWhile.symm, ?_, ?_⟩
  · exact fun c hc => by simpa using List.mem_takeWhile_imp hc
  · exact fun c hc => by simpa using Text.head?_dropWhile hc

theorem parse?_of_parts {s name rest : Text} (hs : Text.lowerAscii s = name ++ rest)
    (hparts : Parts name rest) : parse? s = ofParts? (String.ofList name) rest := by
  obtain ⟨htake, hdrop⟩ : (name ++ rest).takeWhile (!endsName ·) = name ∧
      (name ++ rest).dropWhile (!endsName ·) = rest :=
    Text.takeWhile_dropWhile_append (by simpa using hparts.solid) (by simpa using hparts.ends)
  simp only [parse?, hs, htake, hdrop]

/-- With the length of a single address where there is none, a text is a network if it is one with a
slash or an address by itself. -/
theorem finish?_withLength_iff {w most : Nat} {read : Text → Option (BitVec w × Text)}
    (hread : AddressStyle.StopsAtSlash read)
    (hdigits : Text.number? 10 most (w + 1) true (Text.decimal w) = some (w, [])) {s : Text}
    {p : Prefix w} :
    Prefix.finish? most (read (withLength w s)) = some p ↔
      '/' ∈ s ∧ Prefix.finish? most (read s) = some p ∨
        ∃ a, read s = some (a, []) ∧ p = ⟨a, w, Nat.le_refl w⟩ := by
  by_cases hs : '/' ∈ s
  · have hwhole : ∀ a, read s ≠ some (a, []) := fun a h => hread.notMem h hs
    simp [withLength, hs, hwhole]
  · simp [withLength, hs, Prefix.finish?_single hread hdigits]

theorem parseIpv4?_withLength_iff {s : Text} {p : Prefix 32} :
    Prefix.parseIpv4? (withLength 32 s) = some p ↔ '/' ∈ s ∧ Prefix.parseIpv4? s = some p ∨
      ∃ a, AddressStyle.network.ipv4? s = some (a, []) ∧ p = ⟨a, 32, Nat.le_refl 32⟩ :=
  finish?_withLength_iff (AddressStyle.stopsAtSlash_ipv4? _) (by decide)

theorem parseIpv6?_withLength_iff {s : Text} {p : Prefix 128} :
    Prefix.parseIpv6? (withLength 128 s) = some p ↔ '/' ∈ s ∧ Prefix.parseIpv6? s = some p ∨
      ∃ a, AddressStyle.network.ipv6? s = some (a, []) ∧ p = ⟨a, 128, Nat.le_refl 128⟩ :=
  finish?_withLength_iff (AddressStyle.stopsAtSlash_ipv6? _) (by decide)

theorem eq_toList_of_ofList {name : Text} {s : String} (h : String.ofList name = s) :
    name = s.toList := by
  rw [← h, String.toList_ofList]

/-- The name decides by which rule a mechanism is written. -/
theorem Parts.spells {name rest : Text} (hparts : Parts name rest) {m : Mechanism}
    (h : ofParts? (String.ofList name) rest = some m) : Spells (name ++ rest) m := by
  have hrest := hparts.ends
  unfold ofParts? at h
  split at h
  next hname =>
    rw [eq_toList_of_ofList hname]
    cases h
    exact .all
  next hname =>
    rw [eq_toList_of_ofList hname]
    obtain ⟨⟨target, lengths⟩, htarget, rfl⟩ := Option.map_eq_some_iff.mp h
    exact .host ((target?_eq_iff hrest).mp htarget)
  next hname =>
    rw [eq_toList_of_ofList hname]
    obtain ⟨⟨target, lengths⟩, htarget, rfl⟩ := Option.map_eq_some_iff.mp h
    exact .mailHosts ((target?_eq_iff hrest).mp htarget)
  next rest _ _ hname =>
    rw [eq_toList_of_ofList hname]
    cases h
    rcases rest with _ | ⟨c, rest⟩
    · exact .clientName
    · exact .clientNameOf rest (by simpa [endsName] using hrest c rfl)
  next domain hname =>
    rw [eq_toList_of_ofList hname]
    cases h
    exact .included domain
  next domain hname =>
    rw [eq_toList_of_ofList hname]
    cases h
    exact .existing domain
  next network hname =>
    rw [eq_toList_of_ofList hname]
    obtain ⟨p, hp, rfl⟩ := Option.map_eq_some_iff.mp h
    rcases parseIpv4?_withLength_iff.mp hp with ⟨slash, hp⟩ | ⟨a, ha, rfl⟩
    · exact .network4 slash hp
    · exact .address4 ha
  next network hname =>
    rw [eq_toList_of_ofList hname]
    obtain ⟨p, hp, rfl⟩ := Option.map_eq_some_iff.mp h
    rcases parseIpv6?_withLength_iff.mp hp with ⟨slash, hp⟩ | ⟨a, ha, rfl⟩
    · exact .network6 slash hp
    · exact .address6 ha
  next => cases h

theorem Spells.exists_parts {s : Text} {m : Mechanism} (h : Spells s m) :
    ∃ name rest : Text, s = name ++ rest ∧ Parts name rest ∧
      ofParts? (String.ofList name) rest = some m := by
  cases h with
  | all => exact ⟨"all".toList, [], rfl, .whole (by simp [endsName]), rfl⟩
  | @host s target lengths h =>
    have hs : target? s = some (target, lengths) := (target?_eq_iff fun c => h.head).mpr h
    exact ⟨"a".toList, s, rfl, ⟨by simp [endsName], fun c => h.head⟩, by simp [ofParts?, hs]⟩
  | @mailHosts s target lengths h =>
    have hs : target? s = some (target, lengths) := (target?_eq_iff fun c => h.head).mpr h
    exact ⟨"mx".toList, s, rfl, ⟨by simp [endsName], fun c => h.head⟩, by simp [ofParts?, hs]⟩
  | clientName => exact ⟨"ptr".toList, [], rfl, .whole (by simp [endsName]), rfl⟩
  | @clientNameOf c s ends =>
    have hc : ∀ d, (c :: s).head? = some d → endsName d = true := by simpa [endsName] using ends
    exact ⟨"ptr".toList, c :: s, rfl, ⟨by simp [endsName], hc⟩, rfl⟩
  | included domain =>
    exact ⟨"include".toList, ':' :: domain, rfl, .colon (by simp [endsName]) domain, rfl⟩
  | existing domain =>
    exact ⟨"exists".toList, ':' :: domain, rfl, .colon (by simp [endsName]) domain, rfl⟩
  | @address4 s a h =>
    have hs := parseIpv4?_withLength_iff.mpr (.inr ⟨a, h, rfl⟩)
    exact ⟨"ip4".toList, ':' :: s, rfl, .colon (by simp [endsName]) s, by simp [ofParts?, hs]⟩
  | @network4 s p slash h =>
    have hs := parseIpv4?_withLength_iff.mpr (.inl ⟨slash, h⟩)
    exact ⟨"ip4".toList, ':' :: s, rfl, .colon (by simp [endsName]) s, by simp [ofParts?, hs]⟩
  | @address6 s a h =>
    have hs := parseIpv6?_withLength_iff.mpr (.inr ⟨a, h, rfl⟩)
    exact ⟨"ip6".toList, ':' :: s, rfl, .colon (by simp [endsName]) s, by simp [ofParts?, hs]⟩
  | @network6 s p slash h =>
    have hs := parseIpv6?_withLength_iff.mpr (.inl ⟨slash, h⟩)
    exact ⟨"ip6".toList, ':' :: s, rfl, .colon (by simp [endsName]) s, by simp [ofParts?, hs]⟩

theorem parse?_eq_iff {s : Text} {m : Mechanism} :
    parse? s = some m ↔ Spells (Text.lowerAscii s) m := by
  constructor
  · intro h
    obtain ⟨name, rest, hs, hparts⟩ := exists_parts (Text.lowerAscii s)
    rw [parse?_of_parts hs hparts] at h
    rw [hs]
    exact hparts.spells h
  · intro h
    obtain ⟨name, rest, hs, hparts, hm⟩ := h.exists_parts
    rw [parse?_of_parts hs hparts, hm]

/-- A mechanism starts with a letter, so what is in front of it is a sign. -/
theorem Spells.exists_cons {s : Text} {m : Mechanism} (h : Spells s m) :
    ∃ c rest, s = c :: rest ∧ c ∈ "ampie".toList := by
  cases h <;> exact ⟨_, _, rfl, by decide⟩

end Mechanism

/-! ### Directives -/

theorem Qualifier.sign_iff {c : Char} {q : Qualifier} : q.Sign [c] ↔ ofSign? c = some q := by
  constructor
  · intro h
    cases h <;> rfl
  · intro h
    unfold ofSign? at h
    split at h
    · cases h; exact .plus
    · cases h; exact .minus
    · cases h; exact .tilde
    · cases h; exact .question
    · cases h

theorem Qualifier.ofSign?_eq_none {c : Char} (h : Text.lowerAsciiChar c ∈ "ampie".toList) :
    ofSign? c = none := by
  unfold ofSign?
  split
  all_goals first | exact absurd h (by decide) | rfl

theorem Directive.parse?_eq_iff {term : Text} {d : Directive} :
    Directive.parse? term = some d ↔ d.Spells term := by
  constructor
  · intro h
    unfold Directive.parse? at h
    split at h
    · cases h
    next c rest =>
      split at h
      next q hq =>
        obtain ⟨m, hm, rfl⟩ := Option.map_eq_some_iff.mp h
        exact ⟨[c], rest, rfl, Qualifier.sign_iff.mpr hq, Mechanism.parse?_eq_iff.mp hm⟩
      next =>
        obtain ⟨m, hm, rfl⟩ := Option.map_eq_some_iff.mp h
        exact ⟨[], c :: rest, rfl, .missing, Mechanism.parse?_eq_iff.mp hm⟩
  · obtain ⟨q, m⟩ := d
    rintro ⟨sign, mechanism, rfl, hsign, hm⟩
    have hparse : Mechanism.parse? mechanism = some m := Mechanism.parse?_eq_iff.mpr hm
    cases hsign with
    | missing =>
      obtain ⟨lower, _, hcons, hletter⟩ := hm.exists_cons
      obtain ⟨c, rest, rfl, rfl, -⟩ := List.map_eq_cons_iff.mp hcons
      have hq : Qualifier.ofSign? c = none := Qualifier.ofSign?_eq_none hletter
      simp [Directive.parse?, hq, hparse]
    | plus => simp [Directive.parse?, Qualifier.ofSign?, hparse]
    | minus => simp [Directive.parse?, Qualifier.ofSign?, hparse]
    | tilde => simp [Directive.parse?, Qualifier.ofSign?, hparse]
    | question => simp [Directive.parse?, Qualifier.ofSign?, hparse]

/-! ### Records -/

namespace SpfRecord

variable {r r' : SpfRecord} {redirect : Option Text}

/-- A term is a directive or has a name in front of its first equals sign. -/
theorem plain_or_modifier (term : Text) :
    '=' ∉ term ∨ ∃ name value, term = name ++ '=' :: value ∧ '=' ∉ name := by
  cases hsplit : Text.splitFirst (· == '=') term with
  | none => exact .inl fun hmem => by simpa using Text.splitFirst_eq_none_iff.mp hsplit '=' hmem
  | some parts =>
    obtain ⟨c, hterm, hc, hname⟩ := Text.splitFirst_eq_some_iff.mp hsplit
    obtain rfl : c = '=' := by simpa using hc
    exact .inr ⟨parts.1, parts.2, hterm, fun hmem => by simpa using hname '=' hmem⟩

theorem add_directive {term : Text} (plain : '=' ∉ term) :
    r.add term = (Directive.parse? term).map fun d =>
      { r with directives := r.directives ++ [d] } := by
  have hsplit : Text.splitFirst (· == '=') term = none :=
    Text.splitFirst_eq_none_iff.mpr fun c hc => by simpa using ne_of_mem_of_not_mem hc plain
  rw [add, hsplit]

theorem add_modifier {name : Text} (value : Text) (first : '=' ∉ name) :
    r.add (name ++ '=' :: value) =
      if Text.eqAsciiCase name "redirect".toList then
        if r.redirect.isSome then none else some { r with redirect := some value }
      else some r := by
  have hsplit : Text.splitFirst (· == '=') (name ++ '=' :: value) = some (name, value) :=
    Text.splitFirst_append value
      (fun c hc => by simpa using ne_of_mem_of_not_mem hc first) (by decide)
  rw [add, hsplit]

theorem eqAsciiCase_redirect_iff {name : Text} :
    Text.eqAsciiCase name "redirect".toList = true ↔ Text.lowerAscii name = "redirect".toList := by
  have hlower : Text.lowerAscii "redirect".toList = "redirect".toList := by decide
  rw [Text.eqAsciiCase, hlower, beq_iff_eq]

/-- A record with more terms: their directives come last, and at most one of all the terms is a
redirect. -/
structure Extends (r : SpfRecord) (ds : List Directive) (redirect : Option Text)
    (r' : SpfRecord) : Prop where
  directives : r'.directives = r.directives ++ ds
  redirect : redirect = none ∧ r'.redirect = r.redirect ∨ r.redirect = none ∧ r'.redirect = redirect

theorem extends_empty_iff {ds : List Directive} :
    ({} : SpfRecord).Extends ds redirect r ↔ r = ⟨ds, redirect⟩ := by
  constructor
  · rintro ⟨hds, hredirect⟩
    obtain ⟨directives, redirect'⟩ := r
    cases hds
    rcases hredirect with ⟨rfl, h⟩ | ⟨-, h⟩ <;> cases h <;> rfl
  · rintro rfl
    exact ⟨rfl, .inr ⟨rfl, rfl⟩⟩

/-- What is read has terms that follow the grammar. -/
theorem exists_terms_of_foldlM_add {terms : List Text} (h : terms.foldlM add r = some r') :
    ∃ ds redirect, Terms terms ds redirect ∧ r.Extends ds redirect r' := by
  induction terms generalizing r with
  | nil =>
    obtain rfl : r = r' := by simpa using h
    exact ⟨[], none, .nil, (List.append_nil _).symm, .inl ⟨rfl, rfl⟩⟩
  | cons term terms ih =>
    rw [List.foldlM_cons] at h
    obtain ⟨r₁, hadd, h⟩ := Option.bind_eq_some_iff.mp h
    obtain ⟨ds, redirect, hterms, hds, hredirect⟩ := ih h
    rcases plain_or_modifier term with plain | ⟨name, value, rfl, first⟩
    · rw [add_directive plain] at hadd
      obtain ⟨d, hd, rfl⟩ := Option.map_eq_some_iff.mp hadd
      have spells := Directive.parse?_eq_iff.mp hd
      exact ⟨d :: ds, redirect, .directive plain spells hterms, by simpa using hds, hredirect⟩
    · rw [add_modifier value first] at hadd
      split at hadd
      next named =>
        split at hadd
        · cases hadd
        next hfree =>
          have hnone : r.redirect = none := by simpa using hfree
          cases hadd
          -- behind a redirect there is no other
          obtain ⟨rfl, hvalue⟩ | ⟨hfalse, -⟩ := hredirect
          · exact ⟨ds, some value, .redirect value first (eqAsciiCase_redirect_iff.mp named) hterms,
              hds, .inr ⟨hnone, hvalue⟩⟩
          · cases hfalse
      next other =>
        cases hadd
        have other := mt eqAsciiCase_redirect_iff.mpr other
        exact ⟨ds, redirect, .modifier value first other hterms, hds, hredirect⟩

/-- Terms that follow the grammar are read.  There may be a redirect in front of them, so they are
added to any record that leaves room for theirs. -/
theorem foldlM_add_of_terms {terms : List Text} {ds : List Directive}
    (h : Terms terms ds redirect) (hr : r.Extends ds redirect r') :
    terms.foldlM add r = some r' := by
  obtain ⟨hds, hredirect⟩ := hr
  induction h generalizing r with
  | nil =>
    have hsame : r'.redirect = r.redirect := by
      rcases hredirect with ⟨-, h⟩ | ⟨hr, h⟩
      · exact h
      · rw [h, hr]
    have hdirectives : r'.directives = r.directives := by rw [hds, List.append_nil]
    cases r
    cases r'
    cases hsame
    cases hdirectives
    rfl
  | @directive term d terms ds _ plain spells tail ih =>
    rw [List.foldlM_cons, add_directive plain, Directive.parse?_eq_iff.mpr spells]
    exact ih (by simpa using hds) hredirect
  | @modifier name value terms ds _ first other tail ih =>
    have hother := mt eqAsciiCase_redirect_iff.mp other
    rw [List.foldlM_cons, add_modifier value first, if_neg hother]
    exact ih hds hredirect
  | @redirect name value terms ds first named tail ih =>
    obtain ⟨hfalse, -⟩ | ⟨hnone, hvalue⟩ := hredirect
    · cases hfalse
    have hfree : ¬r.redirect.isSome = true := by simp [hnone]
    rw [List.foldlM_cons, add_modifier value first,
      if_pos (eqAsciiCase_redirect_iff.mpr named), if_neg hfree]
    exact ih hds (.inl ⟨rfl, hvalue⟩)

theorem foldlM_add_words_eq_iff {rest : Text} :
    (Text.words rest).foldlM add {} = some r ↔
      ∃ terms, Text.Words rest terms ∧ Terms terms r.directives r.redirect := by
  constructor
  · intro h
    obtain ⟨ds, redirect, hterms, hrecord⟩ := exists_terms_of_foldlM_add h
    obtain rfl := extends_empty_iff.mp hrecord
    exact ⟨_, Text.words_eq_iff.mp rfl, hterms⟩
  · rintro ⟨terms, hwords, hterms⟩
    rw [Text.words_eq_iff.mpr hwords]
    exact foldlM_add_of_terms hterms (extends_empty_iff.mpr rfl)

theorem parse?_eq_iff {text : Text} : parse? text = some r ↔ r.Spells text := by
  simp only [parse?, Option.bind_eq_bind, Option.bind_eq_some_iff, foldlM_add_words_eq_iff,
    Text.stripStart_eq_some_iff, version]
  constructor
  · rintro ⟨rest, rfl, terms, hwords, hterms⟩
    exact ⟨rest, terms, rfl, hwords, hterms⟩
  · rintro ⟨rest, terms, rfl, hwords, hterms⟩
    exact ⟨rest, rfl, terms, hwords, hterms⟩

/-- A text is the record of one policy at most. -/
theorem Spells.unique {text : Text} (h : r.Spells text) (h' : r'.Spells text) : r = r' :=
  Option.some.inj ((parse?_eq_iff.mpr h).symm.trans (parse?_eq_iff.mpr h'))

theorem parse?_eq_none_iff {text : Text} : parse? text = none ↔ ∀ r : SpfRecord, ¬ r.Spells text := by
  simp only [Option.eq_none_iff_forall_ne_some, ne_eq, parse?_eq_iff]

/-- **A record is read exactly if its terms follow the grammar**, and then it has the directives of
its terms, in their order, and the redirect. -/
theorem parse?_eq_some_iff (rest : Text) (record : SpfRecord) :
    parse? (version ++ rest) = some record ↔
      ∃ terms, Text.Words rest terms ∧ Terms terms record.directives record.redirect := by
  have hstart : Text.stripStart version (version ++ rest) = some rest := rfl
  have hparse : parse? (version ++ rest) = (Text.words rest).foldlM add {} := by
    rw [parse?, hstart]
    rfl
  rw [hparse]
  exact foldlM_add_words_eq_iff

end SpfRecord

end MailPolicy
