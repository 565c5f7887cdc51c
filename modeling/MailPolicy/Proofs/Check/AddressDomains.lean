/-
The domain of an address, taken in two ways.

A list of domains is asked for what follows the last at sign of an address, or for the domain field that is
taken from the same address.  The first way strips dots, leaves closing brackets in the name and takes the
ASCII letters to lower case.  The second strips closing brackets, takes all letters to lower case, and blanks
and dots at both ends of the domain are stripped afterwards.

* `BlockTarget.bears_of_encloses`, `BlockTarget.bears_lower` — which domain each of them bears;
* `BlockTarget.Agrees` — when nothing of that makes a difference;
* `BlockTarget.query?_address_eq_iff_agrees` — **then, and only then, one name is asked for**;
* `BlockTarget.query?_address_ne` — addresses for which two are.
-/
import MailPolicy.Proofs.Check.DomainNames
import MailPolicy.Proofs.Request

namespace MailPolicy.BlockTarget

variable {address brackets domain zone : Text} {whole part : Field} {r : Request}

/-! ### The two domains -/

theorem isDot_iff {c : Char} : isDot c = true ↔ c = '.' := beq_iff_eq

/-- The closing brackets stay with the domain of an address. -/
theorem bears_of_encloses (htrim : Text.trim address = address)
    (h : Request.Encloses address domain brackets) :
    Bears address (Text.dropEnd isDot (domain ++ brackets)) := by
  obtain ⟨front, haddress⟩ := h.follows
  rw [bears_iff, htrim, haddress, Text.dropEnds_append_cons (by decide)]
  refine behindAt_append _ fun hat => ?_
  rw [Text.mem_dropEnd (by decide), List.mem_append] at hat
  rcases hat with hat | hat
  · exact h.last hat
  · exact absurd (h.brackets _ hat) (by decide)

/-- The domain of an address loses blanks and dots at its ends. -/
theorem bears_lower (h : '@' ∉ domain) :
    Bears (Text.lower domain) (Text.dropEnds isDot (Text.trim (Text.lower domain))) := by
  refine bears_iff.mpr (behindAt_of_notMem fun hat => h ?_)
  exact Text.still_at.mem_lower_iff.mp ((Text.dropEnds_sublist _ _).subset
    ((Text.dropEnds_sublist _ _).subset hat))

/-! ### Where they agree -/

/-- What the domain of an address and the brackets behind it must be like for one name to be asked for. -/
inductive Agrees (domain brackets : Text) : Prop
  /-- A blank in the domain keeps both from being asked for. -/
  | blank (within : ∃ x ∈ domain, Text.isBlank x = true)
      (unusable : ¬ Usable (Text.dropEnds isDot (Text.trim (Text.lower domain))))
  /-- Nothing is left of a domain of dots. -/
  | dots (bare : brackets = []) (all : ∀ x ∈ domain, x = '.')
  /-- The domain is as good as it stands. -/
  | plain (bare : brackets = []) (solid : ∀ x ∈ domain, Text.isBlank x = false)
      (starts : domain.head? ≠ some '.') (cased : Text.lower domain = Text.lowerAscii domain)

theorem not_usable_of_blank (h : ∃ x ∈ domain, Text.isBlank x = true) :
    ¬ Usable (Text.dropEnd isDot (domain ++ brackets)) := by
  rintro ⟨-, hsolid⟩
  obtain ⟨x, hx, hblank⟩ := h
  have hdot : isDot x = false := by
    refine Bool.eq_false_iff.mpr fun hdot => ?_
    rw [isDot_iff.mp hdot] at hblank
    cases hblank
  have hleft := hsolid x ((Text.mem_dropEnd hdot).mpr (List.mem_append_left _ hx))
  rw [hleft] at hblank
  cases hblank

/-- Without blanks the names are as equal as the domains in them. -/
theorem domainIn?_eq_domainIn?_iff {value value' domain' : Text} (h : Bears value domain)
    (h' : Bears value' domain') (hsolid : ∀ x ∈ domain, Text.isBlank x = false)
    (hsolid' : ∀ x ∈ domain', Text.isBlank x = false) :
    domainIn? value = domainIn? value' ↔ Text.lowerAscii domain = Text.lowerAscii domain' := by
  have hnil : ∀ s : Text, Text.lowerAscii s = [] ↔ s = [] := fun s => List.map_eq_nil_iff
  have hform : ∀ {v d : Text}, Bears v d → (∀ x ∈ d, Text.isBlank x = false) →
      domainIn? v = if Text.lowerAscii d = [] then none else some (Text.lowerAscii d) := by
    intro v d hbears hd
    have husable : Usable d ↔ d ≠ [] := and_iff_left hd
    simp [domainIn?_of_bears hbears, husable, hnil]
  rw [hform h hsolid, hform h' hsolid']
  split <;> split <;> simp_all

/-- Closing brackets in a name tell it apart: the other domain has those of the domain at most. -/
theorem lowerAscii_ne_of_brackets (hclosing : ∀ x ∈ brackets, x = '>') (hne : brackets ≠ []) :
    Text.lowerAscii (Text.dropEnd isDot (domain ++ brackets)) ≠
      Text.lowerAscii (Text.dropEnds isDot (Text.lower domain)) := by
  intro heq
  have hkept : Text.dropEnd isDot (domain ++ brackets) = domain ++ brackets := by
    refine Text.dropEnd_eq_iff.mpr ⟨[], (List.append_nil _).symm, nofun, fun x hx => ?_⟩
    rw [List.getLast?_append_of_ne_nil _ hne] at hx
    rw [hclosing x (List.mem_of_getLast? hx)]
    rfl
  have hcount := congrArg (List.count '>') heq
  rw [hkept, Text.still_bracket.count_lowerAscii, Text.still_bracket.count_lowerAscii,
    List.count_append, List.count_eq_length.mpr fun x hx => (hclosing x hx).symm] at hcount
  have hleft : (Text.dropEnds isDot (Text.lower domain)).count '>' ≤ domain.count '>' :=
    Text.still_bracket.count_lower domain ▸ (Text.dropEnds_sublist _ _).count_le '>'
  have hpos := List.length_pos_iff.mpr hne
  omega

theorem eq_of_dropEnd_eq {s t : Text} (h : Text.dropEnd isDot s = Text.dropEnd isDot t)
    (hcount : s.count '.' = t.count '.') : s = t := by
  obtain ⟨cut, hs, hcut, -⟩ := Text.dropEnd_eq_iff.mp h
  obtain ⟨cut', ht, hcut', -⟩ := Text.dropEnd_eq_iff.mp (rfl : Text.dropEnd isDot t = _)
  have hdots := List.eq_replicate_of_mem fun x hx => isDot_iff.mp (hcut x hx)
  have hdots' := List.eq_replicate_of_mem fun x hx => isDot_iff.mp (hcut' x hx)
  generalize Text.dropEnd isDot t = kept at hs ht
  rw [hs, ht, List.count_append, List.count_append, hdots, hdots', List.count_replicate_self,
    List.count_replicate_self, Nat.add_left_cancel_iff] at hcount
  rw [hs, ht, hdots, hdots', hcount]

theorem lowerAscii_dropEnds_lower (s : Text) :
    Text.lowerAscii (Text.dropEnds isDot (Text.lower s)) = Text.dropEnds isDot (Text.lower s) := by
  have hmap := Text.dropEnds_map BlockList.isDot_lowerAsciiChar (Text.lower s)
  rw [← Text.lowerAscii, Text.lowerAscii_lower] at hmap
  exact hmap.symm

theorem dropEnds_lower_of_head? (h : domain.head? ≠ some '.') :
    Text.dropEnds isDot (Text.lower domain) = Text.dropEnd isDot (Text.lower domain) :=
  Text.dropEnds_of_head? fun _ hc => Bool.eq_false_iff.mpr fun hdot =>
    h (Text.still_dot.head?_lower_iff.mp (isDot_iff.mp hdot ▸ hc))

theorem dropEnds_lower_eq_nil_iff :
    Text.dropEnds isDot (Text.lower domain) = [] ↔ ∀ x ∈ domain, x = '.' := by
  rw [Text.dropEnds_eq_nil_iff, ← Text.still_dot.forall_lower_eq_iff]
  simp only [isDot_iff]

/-- Domains without brackets give one name if they do not begin with a dot and no letter beyond ASCII is in
upper case, and those of dots alone give none. -/
theorem lowerAscii_dropEnd_eq_iff : Text.lowerAscii (Text.dropEnd isDot domain) =
      Text.lowerAscii (Text.dropEnds isDot (Text.lower domain)) ↔
    (∀ x ∈ domain, x = '.') ∨
      domain.head? ≠ some '.' ∧ Text.lower domain = Text.lowerAscii domain := by
  have hleft : Text.lowerAscii (Text.dropEnd isDot domain) =
      Text.dropEnd isDot (Text.lowerAscii domain) :=
    (Text.dropEnd_map BlockList.isDot_lowerAsciiChar domain).symm
  rw [lowerAscii_dropEnds_lower]
  constructor
  · intro heq
    refine or_iff_not_imp_left.mpr fun hdots => ?_
    have hne := dropEnds_lower_eq_nil_iff.not.mpr hdots
    have hhead : domain.head? ≠ some '.' := by
      intro hfirst
      have hkept : Text.dropEnd isDot domain ≠ [] := fun hnil => hne (heq ▸ congrArg _ hnil)
      have hdot : (Text.dropEnds isDot (Text.lower domain)).head? = some '.' := by
        rw [← heq, Text.lowerAscii, List.head?_map, Text.head?_dropEnd hkept, hfirst]
        rfl
      exact absurd (Text.head?_dropEnds hdot) (by decide)
    rw [hleft, dropEnds_lower_of_head? hhead] at heq
    refine ⟨hhead, (eq_of_dropEnd_eq heq ?_).symm⟩
    rw [Text.still_dot.count_lowerAscii, Text.still_dot.count_lower]
  · rintro (hdots | ⟨hhead, hcase⟩)
    · have hnil : Text.dropEnd isDot domain = [] :=
        Text.dropEnd_append [] fun x hx => isDot_iff.mpr (hdots x hx)
      rw [dropEnds_lower_eq_nil_iff.mpr hdots, hnil]
      rfl
    · rw [hleft, dropEnds_lower_of_head? hhead, hcase]

theorem agrees_iff_of_solid (hsolid : ∀ x ∈ domain, Text.isBlank x = false) :
    Agrees domain brackets ↔ brackets = [] ∧ ((∀ x ∈ domain, x = '.') ∨
      domain.head? ≠ some '.' ∧ Text.lower domain = Text.lowerAscii domain) := by
  constructor
  · rintro (⟨⟨x, hx, hblank⟩, -⟩ | ⟨rfl, hdots⟩ | ⟨rfl, -, hhead, hcase⟩)
    · rw [hsolid x hx] at hblank
      cases hblank
    · exact ⟨rfl, .inl hdots⟩
    · exact ⟨rfl, .inr ⟨hhead, hcase⟩⟩
  · rintro ⟨rfl, hdots | ⟨hhead, hcase⟩⟩
    · exact .dots rfl hdots
    · exact .plain rfl hsolid hhead hcase

theorem agrees_iff_of_blank (h : ∃ x ∈ domain, Text.isBlank x = true) :
    Agrees domain brackets ↔
      ¬ Usable (Text.dropEnds isDot (Text.trim (Text.lower domain))) := by
  refine ⟨?_, .blank h⟩
  obtain ⟨x, hx, hblank⟩ := h
  rintro (⟨-, hunusable⟩ | ⟨-, hdots⟩ | ⟨-, hsolid, -, -⟩)
  · exact hunusable
  · rw [hdots x hx] at hblank
    cases hblank
  · rw [hsolid x hx] at hblank
    cases hblank

theorem domainIn?_eq_iff_agrees (htrim : Text.trim address = address)
    (h : Request.Encloses address domain brackets) :
    domainIn? address = domainIn? (Text.lower domain) ↔ Agrees domain brackets := by
  have hwhole := bears_of_encloses htrim h
  have hpart := bears_lower h.last
  by_cases hblank : ∃ x ∈ domain, Text.isBlank x = true
  · rw [agrees_iff_of_blank hblank, domainIn?_of_bears hwhole, domainIn?_of_bears hpart,
      if_neg (not_usable_of_blank hblank)]
    simp
  · have hsolid : ∀ x ∈ domain, Text.isBlank x = false := by simpa using hblank
    have hlower := Text.forall_lower_isBlank_iff.mpr hsolid
    have htrimmed : Text.trim (Text.lower domain) = Text.lower domain :=
      Text.dropEnds_eq_self (fun c hc => hlower c (List.mem_of_head? hc))
        fun c hc => hlower c (List.mem_of_getLast? hc)
    rw [htrimmed] at hpart
    have hwholeSolid : ∀ x ∈ Text.dropEnd isDot (domain ++ brackets), Text.isBlank x = false := by
      intro x hx
      rcases List.mem_append.mp ((List.rdropWhile_prefix _ _).subset hx) with hx | hx
      · exact hsolid x hx
      · rw [h.brackets x hx]
        rfl
    rw [agrees_iff_of_solid hsolid, domainIn?_eq_domainIn?_iff hwhole hpart hwholeSolid
      fun x hx => hlower x ((Text.dropEnds_sublist _ _).subset hx)]
    by_cases hbare : brackets = []
    · rw [hbare, List.append_nil, lowerAscii_dropEnd_eq_iff, and_iff_right rfl]
    · exact iff_of_false (lowerAscii_ne_of_brackets h.brackets hbare) fun h => hbare h.1

/-! ### Names -/

theorem query?_eq_query?_iff {t t' : BlockTarget} :
    t.query? zone r = t'.query? zone r ↔ t.key? r = t'.key? r := by
  have hinj : Function.Injective fun key : Text => key ++ '.' :: Text.dropEnds isDot zone ++ ['.'] :=
    fun key key' h => by simpa using h
  exact (Option.map_injective hinj).eq_iff

/-- **A list is asked for one name, whether it takes an address or the domain of the address, exactly if
they agree on the domain.**  There is a domain field if and only if the address has a domain, with closing
brackets behind it or not. -/
theorem query?_address_eq_iff_agrees (hpart : part.address? = some whole) (zone : Text) (r : Request) :
    ((r.field? part).isSome ↔ ∃ address domain brackets,
      r.field? whole = some address ∧ Request.Encloses address domain brackets) ∧
    ∀ address domain brackets, r.field? whole = some address →
      Request.Encloses address domain brackets →
        ((BlockTarget.domain whole).query? zone r = (BlockTarget.domain part).query? zone r ↔
          Agrees domain brackets) := by
  have hfield := Request.field?_address hpart r
  constructor
  · rw [hfield, Option.isSome_iff_exists]
    simp only [Option.bind_eq_some_iff, Request.domainOf?_eq_some_iff]
    constructor
    · rintro ⟨-, address, haddress, domain, brackets, h, rfl⟩
      exact ⟨address, domain, brackets, haddress, h⟩
    · rintro ⟨address, domain, brackets, haddress, h⟩
      exact ⟨_, address, haddress, domain, brackets, h, rfl⟩
  · intro address domain brackets haddress h
    have hvalue : r.field? part = some (Text.lower domain) := by
      rw [hfield, haddress]
      exact Request.domainOf?_eq_some_iff.mpr ⟨domain, brackets, h, rfl⟩
    rw [query?_eq_query?_iff, key?, key?, haddress, hvalue]
    exact domainIn?_eq_iff_agrees (Request.trim_of_address hpart haddress) h

/-- An address with two at signs, of which the last counts on both ways. -/
theorem query?_address_eq_of_bare :
    let r := Request.empty.insert "sender".toList " a@b@Mail.Example. ".toList
    Field.senderDomain.address? = some .sender ∧
      (BlockTarget.domain .sender).query? "list.example".toList r =
        (BlockTarget.domain .senderDomain).query? "list.example".toList r ∧
      (BlockTarget.domain .sender).query? "list.example".toList r =
        some "mail.example.list.example.".toList := by
  intro r
  have henc : Request.Encloses "a@b@Mail.Example.".toList "Mail.Example.".toList [] :=
    ⟨⟨"a@b".toList, rfl⟩, by decide, by decide, by decide, nofun⟩
  have husable : Usable "Mail.Example.".toList := by decide +kernel
  have hagrees : Agrees "Mail.Example.".toList [] :=
    .plain rfl husable.2 (by decide) (by decide +kernel)
  refine ⟨rfl, ?_, by decide +kernel⟩
  have hpart : Field.senderDomain.address? = some .sender := rfl
  have haddress : r.field? .sender = some "a@b@Mail.Example.".toList := by decide +kernel
  obtain ⟨-, hall⟩ := query?_address_eq_iff_agrees hpart "list.example".toList r
  exact (hall _ _ _ haddress henc).mpr hagrees

/-- An address in angle brackets, a dot and a blank behind the at sign, and a letter in upper case beyond
ASCII: each has a domain, and a list is asked for two names. -/
theorem query?_address_ne :
    ["<user@example.com>", "user@.a.b", "user@ a.b", "user@\u00C9.b"].Forall fun address =>
      let r := Request.empty.insert "sender".toList address.toList
      (r.field? .senderDomain).isSome ∧
        (BlockTarget.domain .sender).query? "list.example".toList r ≠
          (BlockTarget.domain .senderDomain).query? "list.example".toList r := by
  decide +kernel

end MailPolicy.BlockTarget
