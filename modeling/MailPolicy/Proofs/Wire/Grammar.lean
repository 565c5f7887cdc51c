/-
The grammar of the wire.

A stream of requests is made of lines.  A line is a text whose only line feed is its last octet, and its
content is what stands before the carriage returns and the line feed at its end.  A line without content
separates; one with content sets an attribute.  The reader is a loop with two limits that consumes its
stream; what it accepts is nevertheless a language with three rules, and it stops exactly where a
request of that language does.

* `Wire.IsLine`, `Wire.Blanks`, `Wire.Attributes`, `Wire.Frames` — the language;
* `Wire.takeLine_append_of_isLine`, `Wire.isLine_takeLine` — a line is cut off as such, and nothing
  else is cut off as a line;
* `Wire.Follows.readFrom`, `Wire.follows_of_readFrom` — what is read on after some attributes;
* `Wire.readRequest_eq_some_iff`, `Wire.readRequest_eq_none_iff`, `Wire.readRequest_eq_error_iff` —
  what one reading gives, and what it leaves;
* `Wire.readRequest_language` — **the reader accepts the language and stops where a request does**.
-/
import Mathlib.Data.List.Nodup
import MailPolicy.Proofs.Text.Cuts
import MailPolicy.Proofs.Text.Utf8
import MailPolicy.Wire.Reader

namespace MailPolicy.Wire

/-! ### The language -/

/-- One line and its content. -/
structure IsLine (octets : List UInt8) (content : Text) : Prop where
  /-- The only line feed is the last octet. -/
  ends : ∃ body, octets = body ++ [lineFeed] ∧ lineFeed ∉ body
  short : octets.length ≤ 8192
  /-- The octets are a text, which the content begins. -/
  written : ∃ returns, octets = Utf8.encode (content ++ List.replicate returns '\r' ++ ['\n'])
  /-- All carriage returns at the end are cut off. -/
  bare : content.getLast? ≠ some '\r'

/-- Lines without content. -/
inductive Blanks : List UInt8 → Prop
  | nil : Blanks []
  | cons {line s : List UInt8} : IsLine line [] → Blanks s → Blanks (line ++ s)

/-- A line that gives a name, before its first equals sign, and a value, after it. -/
structure IsAttribute (line : List UInt8) (name value : Text) : Prop where
  isLine : IsLine line (name ++ '=' :: value)
  first : '=' ∉ name
  named : ∃ c ∈ name, Text.isBlank c = false

/-- Lines that give names and values, in their order. -/
inductive Attributes : List (Text × Text) → List UInt8 → Prop
  | nil : Attributes [] []
  | cons {line s : List UInt8} {name value : Text} {pairs : List (Text × Text)} :
      IsAttribute line name value → Attributes pairs s →
        Attributes ((name, value) :: pairs) (line ++ s)

/-- The octets of one request: lines without content, lines that give the names and values, and one
line without content. -/
structure Frames (pairs : List (Text × Text)) (octets : List UInt8) : Prop where
  lines : ∃ blanks attributes last, octets = blanks ++ attributes ++ last ∧ Blanks blanks ∧
    Attributes pairs attributes ∧ IsLine last []
  some_pair : 1 ≤ pairs.length
  few_pairs : pairs.length ≤ 256

/-- The request that sets the trimmed names one after another. -/
def requestOf (pairs : List (Text × Text)) : Request :=
  Request.ofList (pairs.map fun (name, value) => (Text.trim name, value))

/-- The request maps each trimmed name to the value of its last line, each name once, and has no other
attributes. -/
structure Maps (r : Request) (pairs : List (Text × Text)) : Prop where
  once : (r.attributes.map Prod.fst).Nodup
  value : ∀ name, r.get? name =
    ((pairs.filter fun pair => Text.trim pair.1 = name).getLast?).map Prod.snd

/-! ### Requests -/

theorem ofList_concat (l : List (Text × Text)) (name value : Text) :
    Request.ofList (l ++ [(name, value)]) = (Request.ofList l).insert name value := by
  simp [Request.ofList]

theorem get?_insert (r : Request) (name value other : Text) :
    (r.insert name value).get? other = if name = other then some value else r.get? other := by
  split
  next h => rw [h, Request.get?_insert_self]
  next h => exact r.get?_insert_of_ne value (Ne.symm h)

theorem get?_ofList (l : List (Text × Text)) (name : Text) :
    (Request.ofList l).get? name = ((l.filter (·.1 = name)).getLast?).map Prod.snd := by
  induction l using List.reverseRecOn with
  | nil => rfl
  | append_singleton l pair ih =>
    obtain ⟨n, v⟩ := pair
    rw [ofList_concat, get?_insert, ih]
    by_cases h : n = name <;> simp [h]

theorem map_fst_insertInto (name value : Text) (l : List (Text × Text)) :
    (Request.insertInto name value l).map Prod.fst =
      if name ∈ l.map Prod.fst then l.map Prod.fst else l.map Prod.fst ++ [name] := by
  induction l with
  | nil => simp [Request.insertInto]
  | cons pair l ih =>
    obtain ⟨n, v⟩ := pair
    by_cases h : n = name
    · simp [Request.insertInto, h]
    · simp only [Request.insertInto, h, if_false, List.map_cons, ih, List.mem_cons, Ne.symm h,
        false_or]
      split <;> simp

theorem nodup_ofList (l : List (Text × Text)) :
    ((Request.ofList l).attributes.map Prod.fst).Nodup := by
  induction l using List.reverseRecOn with
  | nil => exact List.nodup_nil
  | append_singleton l pair ih =>
    rw [ofList_concat, Request.insert, map_fst_insertInto]
    split
    next => exact ih
    next h => exact List.nodup_append_comm.mp (List.nodup_cons.mpr ⟨h, ih⟩)

theorem maps_requestOf (pairs : List (Text × Text)) : Maps (requestOf pairs) pairs where
  once := nodup_ofList _
  value name := by
    rw [requestOf, get?_ofList, List.filter_map, List.getLast?_map, Option.map_map]
    rfl

/-! ### One line -/

theorem getLast?_append_lineFeed (body : List UInt8) :
    (body ++ [lineFeed]).getLast? = some lineFeed := List.getLast?_concat ..

theorem takeLine_append (limit : Nat) (s : List UInt8) :
    (takeLine limit s).1 ++ (takeLine limit s).2 = s := by
  fun_induction takeLine limit s <;> simp_all

theorem length_takeLine_le (limit : Nat) (s : List UInt8) :
    (takeLine limit s).1.length ≤ limit := by
  fun_induction takeLine limit s <;> simp_all

theorem eq_nil_of_takeLine {limit : Nat} {s : List UInt8} (hlimit : 0 < limit)
    (h : (takeLine limit s).1 = []) : s = [] := by
  fun_cases takeLine limit s with
  | case1 => cases hlimit
  | case2 => rfl
  | case3 => simp [takeLine] at h
  | case4 _ _ _ hb => simp [takeLine, hb] at h

/-- A line feed ends what is cut off. -/
theorem lineFeed_notMem_of_takeLine {limit : Nat} {s body : List UInt8} {b : UInt8}
    (h : (takeLine limit s).1 = body ++ [b]) : lineFeed ∉ body := by
  fun_induction takeLine limit s generalizing body with
  | case1 => simp at h
  | case2 => simp at h
  | case3 limit s =>
    cases body with
    | nil => exact List.not_mem_nil
    | cons x body => simp at h
  | case4 limit x s hx line rest hcut ih =>
    cases body with
    | nil => exact List.not_mem_nil
    | cons y body =>
      simp only [List.cons_append, List.cons.injEq] at h
      rw [hcut] at ih
      grind

theorem takeLine_body {limit : Nat} {body : List UInt8} (s : List UInt8) (hbody : lineFeed ∉ body)
    (hlimit : body.length < limit) :
    takeLine limit (body ++ lineFeed :: s) = (body ++ [lineFeed], s) := by
  induction body generalizing limit with
  | nil =>
    obtain ⟨limit, rfl⟩ := Nat.exists_eq_succ_of_ne_zero (Nat.pos_iff_ne_zero.mp hlimit)
    simp [takeLine]
  | cons b body ih =>
    obtain ⟨limit, rfl⟩ := Nat.exists_eq_succ_of_ne_zero (Nat.ne_zero_of_lt hlimit)
    rw [List.mem_cons, not_or] at hbody
    have hcut : takeLine limit (body ++ lineFeed :: s) = (body ++ [lineFeed], s) :=
      ih hbody.2 (by simpa using hlimit)
    simp [takeLine, Ne.symm hbody.1, hcut]

theorem takeLine_append_of_isLine {line : List UInt8} {content : Text} (h : IsLine line content)
    (s : List UInt8) : takeLine maxLine (line ++ s) = (line, s) := by
  obtain ⟨body, rfl, hbody⟩ := h.ends
  have hshort := h.short
  rw [List.length_append, List.length_singleton] at hshort
  rw [List.append_assoc, List.singleton_append]
  exact takeLine_body s hbody (by unfold maxLine; omega)

theorem encode_lineFeed : Utf8.encode ['\n'] = [lineFeed] := by decide

theorem lineFeed_mem_encode_iff {t : Text} : lineFeed ∈ Utf8.encode t ↔ '\n' ∈ t :=
  Utf8.mem_encode_of_ascii_iff (by decide)

/-- A text is written with one line feed, its last octet, if it has one, its last character. -/
theorem eq_append_of_encode {t : Text} {body : List UInt8} (h : Utf8.encode t = body ++ [lineFeed])
    (hbody : lineFeed ∉ body) : ∃ u, t = u ++ ['\n'] ∧ '\n' ∉ u := by
  have hmem : '\n' ∈ t := lineFeed_mem_encode_iff.mp (h ▸ List.mem_append_right _ List.mem_cons_self)
  obtain ⟨u, v, rfl, hu⟩ := List.eq_append_cons_of_mem hmem
  rw [← List.singleton_append, Utf8.encode_append, Utf8.encode_append, encode_lineFeed,
    List.singleton_append] at h
  -- Both sides are cut at their first line feed.
  obtain ⟨-, -, hv⟩ := (List.append_cons_inj_of_notMem hbody List.not_mem_nil).mp h.symm
  obtain rfl : v = [] := Utf8.encode_injective hv.symm
  exact ⟨u, rfl, hu⟩

/-- What the end of a line may be cut down to. -/
theorem contentOf_append_eq_iff {u content : Text} (hu : '\n' ∉ u) :
    contentOf (u ++ ['\n']) = content ↔
      ∃ returns, u = content ++ List.replicate returns '\r' ∧ content.getLast? ≠ some '\r' := by
  rw [contentOf, Text.dropEnd_append u (by simp), Text.dropEnd_eq_iff]
  constructor
  · rintro ⟨cut, rfl, hcut, hlast⟩
    refine ⟨cut.length, ?_, fun h => by simpa using hlast _ h⟩
    congr 1
    rw [List.eq_replicate_iff]
    grind
  · rintro ⟨returns, rfl, hlast⟩
    refine ⟨_, rfl, by simp, fun c hc => ?_⟩
    have := List.mem_of_getLast? hc
    grind

theorem ofOctets_eq_whole_iff {octets : List UInt8} {content : Text} :
    Line.ofOctets octets = .whole content ↔
      octets.getLast? = some lineFeed ∧ ∃ t, octets = Utf8.encode t ∧ contentOf t = content := by
  constructor
  · intro h
    rw [Line.ofOctets] at h
    split at h
    next => cases h
    next =>
      split at h
      next => cases h
      next t ht =>
        split at h
        next hlast => exact ⟨hlast, t, Utf8.decode_eq_ok_iff.mp ht, Line.whole.inj h⟩
        next => cases h
  · rintro ⟨hlast, t, ht, hcontent⟩
    have hne : octets.isEmpty = false := by
      cases octets with
      | nil => cases hlast
      | cons => rfl
    rw [Line.ofOctets, hne, Utf8.decode_eq_ok_iff.mpr ht]
    simp [hlast, hcontent]

/-- Octets cut off a stream are a line exactly if they are one of the language. -/
theorem isLine_iff {octets : List UInt8} {content : Text} : IsLine octets content ↔
    (∃ body, octets = body ++ [lineFeed] ∧ lineFeed ∉ body) ∧ octets.length ≤ 8192 ∧
      Line.ofOctets octets = .whole content := by
  constructor
  · rintro ⟨⟨body, rfl, hbody⟩, hshort, ⟨returns, hwritten⟩, hbare⟩
    refine ⟨⟨body, rfl, hbody⟩, hshort, ?_⟩
    rw [ofOctets_eq_whole_iff]
    obtain ⟨u, hu, hfeed⟩ := eq_append_of_encode hwritten.symm hbody
    obtain rfl := List.append_cancel_right hu
    exact ⟨getLast?_append_lineFeed body, _, hwritten,
      (contentOf_append_eq_iff hfeed).mpr ⟨returns, rfl, hbare⟩⟩
  · rintro ⟨⟨body, rfl, hbody⟩, hshort, hwhole⟩
    obtain ⟨-, t, ht, hcontent⟩ := ofOctets_eq_whole_iff.mp hwhole
    obtain ⟨u, rfl, hu⟩ := eq_append_of_encode ht.symm hbody
    obtain ⟨returns, rfl, hbare⟩ := (contentOf_append_eq_iff hu).mp hcontent
    exact ⟨⟨body, rfl, hbody⟩, hshort, ⟨returns, ht⟩, hbare⟩

theorem isLine_takeLine {s : List UInt8} {content : Text}
    (h : Line.ofOctets (takeLine maxLine s).1 = .whole content) :
    IsLine (takeLine maxLine s).1 content := by
  obtain ⟨hlast, -⟩ := ofOctets_eq_whole_iff.mp h
  obtain ⟨body, hbody⟩ := List.getLast?_eq_some_iff.mp hlast
  exact isLine_iff.mpr ⟨⟨body, hbody, lineFeed_notMem_of_takeLine hbody⟩, length_takeLine_le _ s, h⟩

theorem IsLine.ne_nil {line : List UInt8} {content : Text} (h : IsLine line content) :
    line ≠ [] := by
  obtain ⟨body, rfl, -⟩ := h.ends
  simp

/-! ### One attribute -/

theorem trim_isEmpty_eq_false_iff {name : Text} :
    (Text.trim name).isEmpty = false ↔ ∃ c ∈ name, Text.isBlank c = false := by
  rw [← Bool.not_eq_true, List.isEmpty_iff, Text.trim, Text.dropEnds_eq_nil_iff]
  simp

theorem parseLine_eq_ok_iff {content name value : Text} :
    parseLine content = .ok (name, value) ↔ ∃ full, content = full ++ '=' :: value ∧ '=' ∉ full ∧
      (∃ c ∈ full, Text.isBlank c = false) ∧ Text.trim full = name := by
  constructor
  · intro h
    rw [parseLine] at h
    split at h
    next full _ hsplit =>
      dsimp only at h
      obtain ⟨c, rfl, hc, hfull⟩ := Text.splitFirst_eq_some_iff.mp hsplit
      obtain rfl := eq_of_beq hc
      split at h
      next => cases h
      next hnamed =>
        obtain ⟨rfl, rfl⟩ := Prod.mk.inj (Except.ok.inj h)
        refine ⟨full, rfl, fun hmem => by simpa using hfull _ hmem, ?_, rfl⟩
        exact trim_isEmpty_eq_false_iff.mp (Bool.not_eq_true _ ▸ hnamed)
    next => cases h
  · rintro ⟨full, rfl, hfirst, hnamed, rfl⟩
    have hsplit : Text.splitFirst (· == '=') (full ++ '=' :: value) = some (full, value) :=
      Text.splitFirst_append value (fun x hx => by grind) rfl
    rw [parseLine, hsplit]
    simp [trim_isEmpty_eq_false_iff.mpr hnamed]

/-! ### Reading on -/

theorem readFrom_nil (r : Request) (count : Nat) :
    readFrom r count [] = if count = 0 then .ok (none, []) else .error .cutShort := by
  rw [readFrom]
  rfl

theorem readFrom_blank {line : List UInt8} (h : IsLine line []) (r : Request) (count : Nat)
    (s : List UInt8) :
    readFrom r count (line ++ s) = if count = 0 then readFrom r count s else .ok (some r, s) := by
  rw [readFrom, takeLine_append_of_isLine h]
  simp [h.ne_nil, (isLine_iff.mp h).2.2]

theorem readFrom_attribute {line : List UInt8} {name value : Text} (h : IsAttribute line name value)
    (r : Request) {count : Nat} (hcount : count < 256) (s : List UInt8) :
    readFrom r count (line ++ s) = readFrom (r.insert (Text.trim name) value) (count + 1) s := by
  have hparse : parseLine (name ++ '=' :: value) = .ok (Text.trim name, value) :=
    parseLine_eq_ok_iff.mpr ⟨name, rfl, h.first, h.named, rfl⟩
  rw [readFrom, takeLine_append_of_isLine h.isLine]
  simp [h.isLine.ne_nil, (isLine_iff.mp h.isLine).2.2, hparse, maxAttributes, Nat.not_le.mpr hcount]

/-- The names and values set in a request, one after another. -/
def setAll (r : Request) (pairs : List (Text × Text)) : Request :=
  pairs.foldl (fun r (name, value) => r.insert (Text.trim name) value) r

theorem setAll_empty (pairs : List (Text × Text)) : setAll .empty pairs = requestOf pairs := by
  rw [requestOf, Request.ofList, List.foldl_map]
  rfl

/-- What may follow `count` attributes: lines without content only if there is no attribute yet. -/
structure Follows (count : Nat) (pairs : List (Text × Text)) (octets : List UInt8) : Prop where
  lines : ∃ blanks attributes last, octets = blanks ++ attributes ++ last ∧ Blanks blanks ∧
    Attributes pairs attributes ∧ IsLine last [] ∧ (0 < count → blanks = [])
  some_pair : 1 ≤ count + pairs.length
  few_pairs : count + pairs.length ≤ 256

theorem follows_zero_iff {pairs : List (Text × Text)} {octets : List UInt8} :
    Follows 0 pairs octets ↔ Frames pairs octets := by
  constructor
  · rintro ⟨⟨blanks, attributes, last, h, hblanks, hattributes, hlast, -⟩, hpos, hle⟩
    rw [Nat.zero_add] at hpos hle
    exact ⟨⟨blanks, attributes, last, h, hblanks, hattributes, hlast⟩, hpos, hle⟩
  · rintro ⟨⟨blanks, attributes, last, h, hblanks, hattributes, hlast⟩, hpos, hle⟩
    rw [← Nat.zero_add pairs.length] at hpos hle
    exact ⟨⟨blanks, attributes, last, h, hblanks, hattributes, hlast, nofun⟩, hpos, hle⟩

theorem Follows.blank {line s : List UInt8} {pairs : List (Text × Text)} (hline : IsLine line [])
    (h : Follows 0 pairs s) : Follows 0 pairs (line ++ s) := by
  obtain ⟨⟨blanks, attributes, last, rfl, hblanks, hattributes, hlast, -⟩, hpos, hle⟩ := h
  refine ⟨⟨line ++ blanks, attributes, last, ?_, hblanks.cons hline, hattributes, hlast, nofun⟩,
    hpos, hle⟩
  simp only [List.append_assoc]

theorem Follows.stop {line : List UInt8} {count : Nat} (hline : IsLine line []) (hpos : 0 < count)
    (hle : count ≤ 256) : Follows count [] line :=
  ⟨⟨[], [], line, rfl, .nil, .nil, hline, fun _ => rfl⟩, hpos, hle⟩

theorem Follows.attribute {line s : List UInt8} {name value : Text} {pairs : List (Text × Text)}
    {count : Nat} (hline : IsAttribute line name value) (h : Follows (count + 1) pairs s) :
    Follows count ((name, value) :: pairs) (line ++ s) := by
  obtain ⟨⟨blanks, attributes, last, rfl, -, hattributes, hlast, hnone⟩, hpos, hle⟩ := h
  obtain rfl := hnone (Nat.succ_pos count)
  refine ⟨⟨[], line ++ attributes, last, ?_, .nil, hattributes.cons hline, hlast, fun _ => rfl⟩,
    ?_, ?_⟩
  · simp only [List.nil_append, List.append_assoc]
  · rw [List.length_cons]
    omega
  · rw [List.length_cons]
    omega

theorem readFrom_of_blanks {blanks : List UInt8} (h : Blanks blanks) (r : Request) (s : List UInt8) :
    readFrom r 0 (blanks ++ s) = readFrom r 0 s := by
  induction h with
  | nil => rfl
  | cons hline _ ih => rw [List.append_assoc, readFrom_blank hline, if_pos rfl, ih]

theorem readFrom_of_attributes {pairs : List (Text × Text)} {attributes last : List UInt8}
    (h : Attributes pairs attributes) (hlast : IsLine last []) (r : Request) {count : Nat}
    (hpos : 1 ≤ count + pairs.length) (hle : count + pairs.length ≤ 256) (t : List UInt8) :
    readFrom r count (attributes ++ (last ++ t)) = .ok (some (setAll r pairs), t) := by
  induction h generalizing r count with
  | nil =>
    rw [List.length_nil] at hpos
    rw [List.nil_append, readFrom_blank hlast, if_neg (by omega)]
    rfl
  | cons hline _ ih =>
    rw [List.length_cons] at hle
    rw [List.append_assoc, readFrom_attribute hline r (by omega), ih _ (by omega) (by omega)]
    rfl

theorem Follows.readFrom {count : Nat} {pairs : List (Text × Text)} {octets : List UInt8}
    (h : Follows count pairs octets) (r : Request) (t : List UInt8) :
    readFrom r count (octets ++ t) = .ok (some (setAll r pairs), t) := by
  obtain ⟨⟨blanks, attributes, last, rfl, hblanks, hattributes, hlast, hnone⟩, hpos, hle⟩ := h
  have hread := readFrom_of_attributes hattributes hlast r hpos hle t
  rw [List.append_assoc, List.append_assoc]
  cases count with
  | zero => rw [readFrom_of_blanks hblanks, hread]
  | succ count => rw [hnone (Nat.succ_pos count), List.nil_append, hread]

/-- A request that is read stands at the beginning of the stream. -/
theorem follows_of_readFrom {r q : Request} {count : Nat} {s t : List UInt8}
    (h : readFrom r count s = .ok (some q, t)) (hcount : count ≤ 256) :
    ∃ pairs octets, s = octets ++ t ∧ Follows count pairs octets ∧ q = setAll r pairs := by
  fun_induction Wire.readFrom r count s with
  | case6 r s cut _ content hwhole hblank ih =>
    -- A line without content before the first attribute.
    obtain ⟨pairs, octets, hrest, hfollows, rfl⟩ := ih h hcount
    obtain rfl := List.isEmpty_iff.mp hblank
    refine ⟨pairs, cut.1 ++ octets, ?_, hfollows.blank (isLine_takeLine hwhole), rfl⟩
    rw [List.append_assoc, ← hrest, takeLine_append]
  | case7 r count s cut _ content hwhole hblank hpos =>
    -- A line without content after the last attribute.
    obtain ⟨rfl, rfl⟩ : r = q ∧ cut.2 = t := by simpa using h
    obtain rfl := List.isEmpty_iff.mp hblank
    have hstop := Follows.stop (isLine_takeLine hwhole) (Nat.pos_of_ne_zero hpos) hcount
    exact ⟨[], cut.1, (takeLine_append _ s).symm, hstop, rfl⟩
  | case10 r count s cut _ content hwhole _ hfew name value hparse ih =>
    -- One more attribute.
    obtain ⟨pairs, octets, hrest, hfollows, rfl⟩ := ih h (by unfold maxAttributes at hfew; omega)
    obtain ⟨full, rfl, hfirst, hnamed, rfl⟩ := parseLine_eq_ok_iff.mp hparse
    have hline : IsAttribute cut.1 full value := ⟨isLine_takeLine hwhole, hfirst, hnamed⟩
    refine ⟨(full, value) :: pairs, cut.1 ++ octets, ?_, hfollows.attribute hline, rfl⟩
    rw [List.append_assoc, ← hrest, takeLine_append]
  | _ => cases h

theorem blanks_of_readFrom {r : Request} {count : Nat} {s t : List UInt8}
    (h : readFrom r count s = .ok (none, t)) : count = 0 ∧ Blanks s ∧ t = [] := by
  fun_induction Wire.readFrom r count s with
  | case1 r s cut hnil =>
    -- The end of the stream.
    obtain rfl := eq_nil_of_takeLine (by decide) hnil
    obtain rfl : cut.2 = t := by simpa using h
    exact ⟨rfl, .nil, rfl⟩
  | case6 r s cut _ content hwhole hblank ih =>
    obtain ⟨-, hblanks, ht⟩ := ih h
    obtain rfl := List.isEmpty_iff.mp hblank
    have hline := hblanks.cons (isLine_takeLine hwhole)
    rw [takeLine_append] at hline
    exact ⟨rfl, hline, ht⟩
  | case10 _ _ _ _ _ _ _ _ _ _ _ _ ih =>
    cases (ih h).1
  | _ => cases h

/-! ### Requests and what is left -/

theorem readRequest_eq_some_iff {s t : List UInt8} {r : Request} :
    readRequest s = .ok (some r, t) ↔
      ∃ pairs octets, s = octets ++ t ∧ Frames pairs octets ∧ r = requestOf pairs := by
  constructor
  · intro h
    obtain ⟨pairs, octets, rfl, hfollows, rfl⟩ := follows_of_readFrom h (Nat.zero_le 256)
    exact ⟨pairs, octets, rfl, follows_zero_iff.mp hfollows, setAll_empty pairs⟩
  · rintro ⟨pairs, octets, rfl, hframes, rfl⟩
    rw [← setAll_empty]
    exact (follows_zero_iff.mpr hframes).readFrom .empty t

theorem readRequest_eq_none_iff {s t : List UInt8} :
    readRequest s = .ok (none, t) ↔ Blanks s ∧ t = [] := by
  constructor
  · intro h
    exact (blanks_of_readFrom h).2
  · rintro ⟨hblanks, rfl⟩
    have hread := readFrom_of_blanks hblanks .empty []
    rwa [List.append_nil, readFrom_nil] at hread

theorem readRequest_eq_error_iff {s : List UInt8} : (∃ e, readRequest s = .error e) ↔
    ¬ Blanks s ∧ ¬ ∃ pairs octets t, s = octets ++ t ∧ Frames pairs octets := by
  constructor
  · rintro ⟨e, he⟩
    constructor
    · intro hblanks
      cases he.symm.trans (readRequest_eq_none_iff.mpr ⟨hblanks, rfl⟩)
    · rintro ⟨pairs, octets, t, hs, hframes⟩
      cases he.symm.trans (readRequest_eq_some_iff.mpr ⟨pairs, octets, hs, hframes, rfl⟩)
  · rintro ⟨hblanks, hframes⟩
    match h : readRequest s with
    | .error e => exact ⟨e, rfl⟩
    | .ok (none, t) => exact absurd (readRequest_eq_none_iff.mp h).1 hblanks
    | .ok (some r, t) =>
      obtain ⟨pairs, octets, hs, hread, -⟩ := readRequest_eq_some_iff.mp h
      exact absurd ⟨pairs, octets, t, hs, hread⟩ hframes

theorem readAll_of_some {s t : List UInt8} {r : Request} (h : readRequest s = .ok (some r, t)) :
    readAll s = .ok (some r) :: readAll t := by
  rw [readAll]
  split <;> simp_all

theorem readAll_of_none {s t : List UInt8} (h : readRequest s = .ok (none, t)) :
    readAll s = [.ok none] := by
  rw [readAll]
  split <;> simp_all

theorem readAll_of_frames {rest : List UInt8} (hrest : Blanks rest)
    {requests : List (List (Text × Text) × List UInt8)}
    (h : ∀ request ∈ requests, Frames request.1 request.2) :
    readAll (requests.flatMap Prod.snd ++ rest) =
      requests.map (fun request => .ok (some (requestOf request.1))) ++ [.ok none] := by
  induction requests with
  | nil => exact readAll_of_none (readRequest_eq_none_iff.mpr ⟨hrest, rfl⟩)
  | cons request requests ih =>
    obtain ⟨hrequest, hrequests⟩ := List.forall_mem_cons.mp h
    have hfirst : readRequest (request.2 ++ (requests.flatMap Prod.snd ++ rest)) =
        .ok (some (requestOf request.1), requests.flatMap Prod.snd ++ rest) :=
      readRequest_eq_some_iff.mpr ⟨request.1, request.2, rfl, hrequest, rfl⟩
    rw [List.flatMap_cons, List.append_assoc, readAll_of_some hfirst, ih hrequests]
    rfl

/-- **The reader accepts exactly the language, and stops where a request ends.**  A request is read, and
`t` left, exactly of a stream that begins with the octets of a request and goes on with `t`; the request
that is read maps each trimmed name to its last value.  No request is read, without an error, exactly of
a stream of lines without content.  Of any other stream an error is read.  So requests that are sent
one after another are read one after another. -/
theorem readRequest_language :
    (∀ s t r, readRequest s = .ok (some r, t) ↔
      ∃ pairs octets, s = octets ++ t ∧ Frames pairs octets ∧ r = requestOf pairs) ∧
    (∀ pairs, Maps (requestOf pairs) pairs) ∧
    (∀ s t, readRequest s = .ok (none, t) ↔ Blanks s ∧ t = []) ∧
    (∀ s, (∃ e, readRequest s = .error e) ↔
      ¬ Blanks s ∧ ¬ ∃ pairs octets t, s = octets ++ t ∧ Frames pairs octets) ∧
    (∀ (requests : List (List (Text × Text) × List UInt8)) (rest : List UInt8),
      (∀ request ∈ requests, Frames request.1 request.2) → Blanks rest →
        readAll (requests.flatMap Prod.snd ++ rest) =
          requests.map (fun request => .ok (some (requestOf request.1))) ++ [.ok none]) := by
  refine ⟨fun s t r => readRequest_eq_some_iff, maps_requestOf, fun s t => readRequest_eq_none_iff,
    fun s => readRequest_eq_error_iff, ?_⟩
  intro requests rest hrequests hrest
  exact readAll_of_frames hrest hrequests

/-- A name given twice, once with a blank before it; after that a stray return. -/
theorem readRequest_language_twice :
    readAll [97, 61, 49, 10, 32, 97, 61, 61, 13, 13, 10, 10, 13, 10] =
      [.ok (some ⟨[(['a'], ['='])]⟩), .ok none] := by
  have hfirst : IsAttribute [97, 61, 49, 10] ['a'] ['1'] :=
    ⟨⟨⟨[97, 61, 49], rfl, by decide⟩, by decide, ⟨0, by decide⟩, by decide⟩, by decide,
      'a', by decide, by decide⟩
  have hsecond : IsAttribute [32, 97, 61, 61, 13, 13, 10] [' ', 'a'] ['='] :=
    ⟨⟨⟨[32, 97, 61, 61, 13, 13], rfl, by decide⟩, by decide, ⟨2, by decide⟩, by decide⟩, by decide,
      'a', by decide, by decide⟩
  have hstop : IsLine [10] [] := ⟨⟨[], rfl, by decide⟩, by decide, ⟨0, by decide⟩, by decide⟩
  have hstray : IsLine [13, 10] [] := ⟨⟨[13], rfl, by decide⟩, by decide, ⟨1, by decide⟩, by decide⟩
  have hframes : Frames [(['a'], ['1']), ([' ', 'a'], ['='])]
      [97, 61, 49, 10, 32, 97, 61, 61, 13, 13, 10, 10] :=
    ⟨⟨[], _, [10], rfl, .nil, .cons hfirst (.cons hsecond .nil), hstop⟩, by decide, by decide⟩
  have hvalue : requestOf [(['a'], ['1']), ([' ', 'a'], ['='])] = ⟨[(['a'], ['='])]⟩ := by decide
  obtain ⟨-, -, -, -, hall⟩ := readRequest_language
  have hread := hall [(_, _)] [13, 10] (List.forall_mem_singleton.mpr hframes) (.cons hstray .nil)
  rw [← hvalue]
  exact hread

end MailPolicy.Wire
