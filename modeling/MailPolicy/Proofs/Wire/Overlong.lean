/-
Lines beyond the limit, in streams of text.

All that can be wrong with a stream of text is wrong with its format.  But a line is cut off at its limit
before its octets are read as text, and the limit can fall inside a character.  Then the octets cut off are
no text, and the reading fails with another kind of error.

* `Wire.Reaches` — the lines that are read before a line;
* `Wire.Overlong` — lines beyond the limit;
* `Wire.takeLine_encode` — a line of a text is cut off as a text unless the limit falls inside a character;
* `Wire.readRequest_protocol_iff` — **a stream of text breaks the protocol or is read, unless the limit
  falls inside a character of an overlong line**;
* `Wire.readRequest_cut` — a line whose limit does.
-/
import MailPolicy.Proofs.Wire.Grammar

namespace MailPolicy.Wire

open Utf8 (encode Cuts)

variable {s rest : List UInt8} {t : Text} {count n : Nat}

/-! ### Lines that are read -/

/-- Whether the reading of a stream, with `count` attributes found so far, comes to `rest`: lines without
content are skipped before the first attribute, and no more attributes are read than a request may have. -/
inductive Reaches : Nat → List UInt8 → List UInt8 → Prop
  | here {count : Nat} {s : List UInt8} : Reaches count s s
  | skip {line s rest : List UInt8} : IsLine line [] → Reaches 0 s rest → Reaches 0 (line ++ s) rest
  | assign {count : Nat} {line s rest : List UInt8} {name value : Text} :
      IsAttribute line name value → count < 256 → Reaches (count + 1) s rest →
        Reaches count (line ++ s) rest

theorem Reaches.readFrom (h : Reaches count s rest) (r : Request) :
    ∃ r' count', readFrom r count s = readFrom r' count' rest := by
  induction h generalizing r with
  | here => exact ⟨r, _, rfl⟩
  | skip hline _ ih =>
    rw [readFrom_blank hline, if_pos rfl]
    exact ih r
  | assign hline hcount _ ih =>
    rw [readFrom_attribute hline r hcount]
    exact ih _

/-! ### Lines beyond the limit -/

/-- Whether the first line of a text is beyond the limit: it has no line feed within it. -/
def Overlong (t : Text) : Prop :=
  maxLine ≤ (encode t).length ∧ lineFeed ∉ (encode t).take maxLine

theorem takeLine_of_notMem {limit : Nat} (h : lineFeed ∉ s.take limit) :
    takeLine limit s = (s.take limit, s.drop limit) := by
  fun_induction takeLine limit s with
  | case1 => rfl
  | case2 => simp
  | case3 => simp at h
  | case4 limit b s hb line rest hcut ih =>
    rw [List.take_succ_cons, List.mem_cons, not_or] at h
    obtain ⟨rfl, rfl⟩ := Prod.mk.inj (hcut.symm.trans (ih h.2))
    simp

theorem overlong_append {u : Text} (hu : '\n' ∉ u) (hle : maxLine ≤ (encode u).length) (v : Text) :
    Overlong (u ++ v) := by
  have hfeed : lineFeed ∉ encode u := lineFeed_mem_encode_iff.not.mpr hu
  rw [Overlong, Utf8.encode_append, List.length_append, List.take_append_of_le_length hle]
  exact ⟨by omega, fun hmem => hfeed (List.mem_of_mem_take hmem)⟩

/-- A line within the limit is cut off a text as a text. -/
theorem takeLine_encode_of_not_overlong (h : ¬ Overlong t) :
    ∃ u, (takeLine maxLine (encode t)).1 = encode u := by
  by_cases hmem : '\n' ∈ t
  · obtain ⟨u, v, rfl, hu⟩ := List.eq_append_cons_of_mem hmem
    have hfeed : lineFeed ∉ encode u := lineFeed_mem_encode_iff.not.mpr hu
    have hlt : (encode u).length < maxLine := Nat.lt_of_not_le fun hle => h (overlong_append hu hle _)
    refine ⟨u ++ ['\n'], ?_⟩
    rw [← List.singleton_append, Utf8.encode_append, Utf8.encode_append, Utf8.encode_append,
      encode_lineFeed, List.singleton_append, takeLine_body _ hfeed hlt]
  · have hlt : (encode t).length < maxLine := by
      refine Nat.lt_of_not_le fun hle => h ?_
      simpa using overlong_append hmem hle []
    have hfeed : lineFeed ∉ (encode t).take maxLine :=
      fun hfeed => hmem (lineFeed_mem_encode_iff.mp (List.mem_of_mem_take hfeed))
    refine ⟨t, ?_⟩
    rw [takeLine_of_notMem hfeed, List.take_of_length_le hlt.le]

/-- Any line is, unless the limit falls inside a character of it. -/
theorem takeLine_encode (t : Text) :
    (∃ u, (takeLine maxLine (encode t)).1 = encode u) ∨ Overlong t ∧ ∃ n, Cuts maxLine t n := by
  by_cases hlong : Overlong t
  · rw [takeLine_of_notMem hlong.2]
    exact (Utf8.encode_take_or_cuts hlong.1).imp_right (⟨hlong, ·⟩)
  · exact .inl (takeLine_encode_of_not_overlong hlong)

/-- An overlong line is cut off at the limit, wherever that falls. -/
theorem readFrom_of_overlong (h : Overlong t) (r : Request) (count : Nat) :
    readFrom r count (encode t) =
      match Utf8.decode ((encode t).take maxLine) with
      | .error flaw => .error (.notUtf8 flaw)
      | .ok _ => .error .lineTooLong := by
  have hlength : ((encode t).take maxLine).length = maxLine := List.length_take_of_le h.1
  rw [readFrom, takeLine_of_notMem h.2]
  have hfeed := h.2
  generalize (encode t).take maxLine = octets at hlength hfeed ⊢
  have hne : octets ≠ [] := fun hnil => by simp [hnil, maxLine] at hlength
  have hlast : octets.getLast? ≠ some lineFeed := fun hlast => hfeed (List.mem_of_getLast? hlast)
  cases hdecode : Utf8.decode octets <;>
    simp [Line.ofOctets, hne, hlast, hdecode, hlength]

theorem readFrom_of_cuts (h : Overlong t) (hcuts : Cuts maxLine t n) (r : Request) (count : Nat) :
    readFrom r count (encode t) = .error (.notUtf8 ⟨n, none⟩) := by
  rw [readFrom_of_overlong h, hcuts.decode]

theorem readFrom_of_not_cuts (h : Overlong t) (hcuts : ∀ n, ¬ Cuts maxLine t n) (r : Request)
    (count : Nat) : readFrom r count (encode t) = .error .lineTooLong := by
  rcases Utf8.encode_take_or_cuts h.1 with ⟨u, hu⟩ | ⟨n, hn⟩
  · rw [readFrom_of_overlong h, hu, Utf8.decode_eq_ok_iff.mpr rfl]
  · exact absurd hn (hcuts n)

theorem decode_of_ofOctets {octets : List UInt8} {flaw : Utf8.Flaw}
    (h : Line.ofOctets octets = .notUtf8 flaw) : Utf8.decode octets = .error flaw := by
  unfold Line.ofOctets at h
  split at h
  · cases h
  split at h
  next flaw' hflaw =>
    cases h
    exact hflaw
  next =>
    split at h <;> cases h

theorem parseLine_ne_notUtf8 (content : Text) (flaw : Utf8.Flaw) :
    parseLine content ≠ .error (.notUtf8 flaw) := by
  unfold parseLine
  split
  · dsimp only
    split <;> nofun
  · nofun

/-- What is left of a text behind a line is a text. -/
theorem encode_of_isLine {line : List UInt8} {content : Text} (hline : IsLine line content)
    (h : ∃ t, line ++ rest = encode t) : ∃ u, rest = encode u := by
  obtain ⟨returns, rfl⟩ := hline.written
  obtain ⟨t, ht⟩ := h
  obtain ⟨u, -, hu⟩ := Utf8.exists_rest_of_encode_append ht.symm
  exact ⟨u, hu⟩

/-- Nothing but an overlong line makes octets of a text no text. -/
theorem reaches_of_notUtf8 {r : Request} {flaw : Utf8.Flaw} (hs : ∃ t, s = encode t)
    (h : readFrom r count s = .error (.notUtf8 flaw)) :
    ∃ u n, Reaches count s (encode u) ∧ Overlong u ∧ Cuts maxLine u n := by
  fun_induction Wire.readFrom r count s with
  | case4 r count s cut hne flaw' hflaw =>
    -- Octets that are no text have been cut off a text.
    obtain ⟨t, rfl⟩ := hs
    rcases takeLine_encode t with ⟨u, hu⟩ | ⟨hlong, n, hcuts⟩
    · have hdecode := decode_of_ofOctets hflaw
      rw [hu, Utf8.decode_eq_ok_iff.mpr rfl] at hdecode
      cases hdecode
    · exact ⟨t, n, .here, hlong, hcuts⟩
  | case5 _ _ _ _ _ full => cases full <;> cases h
  | case6 r s cut _ content hwhole hblank ih =>
    -- A line without content before the first attribute.
    obtain rfl := List.isEmpty_iff.mp hblank
    have hline := isLine_takeLine hwhole
    rw [← takeLine_append maxLine s] at hs ⊢
    obtain ⟨w, n, hreaches, hw⟩ := ih (encode_of_isLine hline hs) h
    exact ⟨w, n, .skip hline hreaches, hw⟩
  | case9 _ _ _ _ _ content _ _ _ e hparse =>
    cases h
    exact absurd hparse (parseLine_ne_notUtf8 content flaw)
  | case10 r count s cut _ content hwhole _ hfew name value hparse ih =>
    -- One more attribute.
    obtain ⟨full, rfl, hfirst, hnamed, rfl⟩ := parseLine_eq_ok_iff.mp hparse
    have hline : IsAttribute cut.1 full value := ⟨isLine_takeLine hwhole, hfirst, hnamed⟩
    rw [← takeLine_append maxLine s] at hs ⊢
    obtain ⟨w, n, hreaches, hw⟩ := ih (encode_of_isLine hline.isLine hs) h
    exact ⟨w, n, .assign hline (Nat.lt_of_not_le hfew) hreaches, hw⟩
  | _ => cases h

/-! ### Requests -/

theorem encode_of_blanks {blanks : List UInt8} (hblanks : Blanks blanks)
    (h : ∃ t, blanks ++ rest = encode t) : ∃ u, rest = encode u := by
  induction hblanks with
  | nil => exact h
  | cons hline _ ih =>
    rw [List.append_assoc] at h
    exact ih (encode_of_isLine hline h)

theorem encode_of_attributes {pairs : List (Text × Text)} {attributes : List UInt8}
    (hattributes : Attributes pairs attributes) (h : ∃ t, attributes ++ rest = encode t) :
    ∃ u, rest = encode u := by
  induction hattributes with
  | nil => exact h
  | cons hline _ ih =>
    rw [List.append_assoc] at h
    exact ih (encode_of_isLine hline.isLine h)

/-- A stream of text is one behind each of its requests. -/
theorem encode_of_readRequest {r : Request} (h : readRequest (encode t) = .ok (some r, rest)) :
    ∃ u, rest = encode u := by
  obtain ⟨pairs, octets, hs, hframes, -⟩ := readRequest_eq_some_iff.mp h
  obtain ⟨blanks, attributes, last, rfl, hblanks, hattributes, hlast⟩ := hframes.lines
  rw [List.append_assoc, List.append_assoc] at hs
  exact encode_of_isLine hlast (encode_of_attributes hattributes (encode_of_blanks hblanks ⟨t, hs.symm⟩))

/-- **A stream of text is read or breaks the protocol, unless the limit falls inside a character of an
overlong line.**  An overlong line that is come to is an error of the protocol if the limit falls between
two characters, and octets that end inside a character if not.  What is left behind a request is a stream
of text again. -/
theorem readRequest_protocol_iff (t : Text) :
    ((∀ e, readRequest (encode t) = .error e → e.kind = .protocol) ↔
      ∀ u n, Reaches 0 (encode t) (encode u) → Overlong u → ¬ Cuts maxLine u n) ∧
    (∀ u, Reaches 0 (encode t) (encode u) → Overlong u →
      (∀ n, Cuts maxLine u n → readRequest (encode t) = .error (.notUtf8 ⟨n, none⟩)) ∧
        ((∀ n, ¬ Cuts maxLine u n) → readRequest (encode t) = .error .lineTooLong)) ∧
    ∀ r rest, readRequest (encode t) = .ok (some r, rest) → ∃ u, rest = encode u := by
  have hlong : ∀ u, Reaches 0 (encode t) (encode u) → Overlong u →
      (∀ n, Cuts maxLine u n → readRequest (encode t) = .error (.notUtf8 ⟨n, none⟩)) ∧
        ((∀ n, ¬ Cuts maxLine u n) → readRequest (encode t) = .error .lineTooLong) := by
    intro u hreaches hu
    obtain ⟨r, count, hread⟩ := hreaches.readFrom .empty
    rw [readRequest, hread]
    exact ⟨fun n hn => readFrom_of_cuts hu hn r count, fun hn => readFrom_of_not_cuts hu hn r count⟩
  refine ⟨⟨fun h u n hreaches hu hn => ?_, fun h e he => ?_⟩, hlong, fun r rest => encode_of_readRequest⟩
  · cases h _ ((hlong u hreaches hu).1 n hn)
  · by_contra hkind
    cases e with
    | notUtf8 flaw =>
      obtain ⟨u, n, hreaches, hu, hn⟩ := reaches_of_notUtf8 ⟨t, rfl⟩ he
      exact h u n hreaches hu hn
    | _ => exact hkind rfl

/-- A line whose limit falls between two characters. -/
theorem readRequest_between :
    readRequest (encode ("a=".toList ++ List.replicate 4095 '\u00E9' ++ "\n\n".toList)) =
      .error .lineTooLong := by
  have hlength : (encode ("a=".toList ++ List.replicate 4095 '\u00E9')).length = maxLine := by
    rw [Utf8.encode_append, List.length_append, Utf8.length_encode_replicate]
    rfl
  have hfeed : '\n' ∉ "a=".toList ++ List.replicate 4095 '\u00E9' := by
    rw [List.mem_append, List.mem_replicate]
    decide
  refine ((readRequest_protocol_iff _).2.1 _ .here (overlong_append hfeed hlength.ge _)).2 fun n => ?_
  refine Utf8.not_cuts_of_take (u := "a=".toList ++ List.replicate 4095 '\u00E9') ?_
  rw [Utf8.encode_append, List.take_append_of_le_length hlength.ge, List.take_of_length_le hlength.le]

/-- One octet more, and the limit falls inside a character: the reading fails, and the protocol is not
broken. -/
theorem readRequest_cut :
    readRequest (encode ("aa=".toList ++ List.replicate 4094 '\u00E9' ++ "\u00E9\n\n".toList)) =
      .error (.notUtf8 ⟨8191, none⟩) ∧ (ReadError.notUtf8 ⟨8191, none⟩).kind ≠ .protocol := by
  refine ⟨?_, nofun⟩
  have hlength : (encode ("aa=".toList ++ List.replicate 4094 '\u00E9')).length = 8191 := by
    rw [Utf8.encode_append, List.length_append, Utf8.length_encode_replicate]
    rfl
  have hcuts : Cuts maxLine ("aa=".toList ++ List.replicate 4094 '\u00E9' ++ "\u00E9\n\n".toList) 8191 :=
    ⟨_, '\u00E9', "\n\n".toList, rfl, hlength, by decide, by decide⟩
  have hfeed : '\n' ∉ "aa=".toList ++ List.replicate 4094 '\u00E9' ++ ['\u00E9'] := by
    rw [List.mem_append, List.mem_append, List.mem_replicate]
    decide
  have hlong : Overlong ("aa=".toList ++ List.replicate 4094 '\u00E9' ++ "\u00E9\n\n".toList) := by
    have hle : maxLine ≤ (encode ("aa=".toList ++ List.replicate 4094 '\u00E9' ++ ['\u00E9'])).length := by
      rw [Utf8.encode_append, List.length_append, hlength]
      decide
    have hlong := overlong_append hfeed hle "\n\n".toList
    rwa [List.append_assoc] at hlong
  exact readFrom_of_cuts hlong hcuts .empty 0

end MailPolicy.Wire
