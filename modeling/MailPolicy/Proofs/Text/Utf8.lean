/-
What UTF-8 accepts.

The reader of octets goes by the table of well-formed sequences, the writer of a text by arithmetic
on the numbers of its characters.  They belong together: the reader accepts exactly what the writer
writes, and gives back the text.

* `Utf8.Writes` — the table, one rule for each length;
* `Utf8.writes_iff` — the table lists what is written for each character;
* `Utf8.decode_eq_ok_iff` — **octets are read as a text exactly if they are written for it**;
* `Utf8.decodeLossy_encode` — the lossy reader loses nothing of them;
* `Utf8.encode_take_or_cuts`, `Utf8.Cuts.decode` — octets that end inside a character are incomplete;
* `Utf8.mem_encode_of_ascii_iff` — an ASCII octet stands only for its own character.
-/
import MailPolicy.Text.Utf8

namespace MailPolicy.Utf8

/-! ### Classes of octets, by number -/

theorem isTail_iff {b : UInt8} : isTail b = true ↔ 0x80 ≤ b.toNat ∧ b.toNat ≤ 0xBF := by
  simp [isTail, UInt8.le_iff_toNat_le]

theorem width_eq (a : UInt8) : width a =
    if a.toNat < 0x80 then 1
    else if 0xC2 ≤ a.toNat ∧ a.toNat ≤ 0xDF then 2
    else if 0xE0 ≤ a.toNat ∧ a.toNat ≤ 0xEF then 3
    else if 0xF0 ≤ a.toNat ∧ a.toNat ≤ 0xF4 then 4
    else 0 := by
  simp [width, UInt8.lt_iff_toNat_lt, UInt8.le_iff_toNat_le]

theorem width_eq_one_iff {a : UInt8} : width a = 1 ↔ a.toNat < 0x80 := by
  grind [width_eq]

theorem width_eq_two_iff {a : UInt8} : width a = 2 ↔ 0xC2 ≤ a.toNat ∧ a.toNat ≤ 0xDF := by
  grind [width_eq]

theorem width_eq_three_iff {a : UInt8} : width a = 3 ↔ 0xE0 ≤ a.toNat ∧ a.toNat ≤ 0xEF := by
  grind [width_eq]

theorem width_eq_four_iff {a : UInt8} : width a = 4 ↔ 0xF0 ≤ a.toNat ∧ a.toNat ≤ 0xF4 := by
  grind [width_eq]

/-- A second octet is one that continues a character, less those that would write an overlong form,
a surrogate or a number beyond the last character. -/
theorem isSecond_iff {a b : UInt8} : isSecond a b = true ↔
    (0x80 ≤ b.toNat ∧ b.toNat ≤ 0xBF) ∧ (a.toNat = 0xE0 → 0xA0 ≤ b.toNat) ∧
      (a.toNat = 0xED → b.toNat ≤ 0x9F) ∧ (a.toNat = 0xF0 → 0x90 ≤ b.toNat) ∧
      (a.toNat = 0xF4 → b.toNat ≤ 0x8F) := by
  have h : isSecond a b = true ↔
      (if a.toNat = 0xE0 then 0xA0 else if a.toNat = 0xF0 then 0x90 else 0x80) ≤ b.toNat ∧
      b.toNat ≤ (if a.toNat = 0xED then 0x9F else if a.toNat = 0xF4 then 0x8F else 0xBF) := by
    simp only [isSecond, secondLow, secondHigh, UInt8.le_iff_toNat_le, Bool.and_eq_true,
      decide_eq_true_eq, ← UInt8.toNat_inj, apply_ite UInt8.toNat]
    rfl
  grind

/-! ### The table -/

/-- Whether octets write a character, by the table of well-formed sequences. -/
inductive Writes : List UInt8 → Char → Prop
  | one {a : UInt8} : width a = 1 → Writes [a] (Char.ofNat a.toNat)
  | two {a b : UInt8} : width a = 2 → isTail b = true → Writes [a, b] (char2 a b)
  | three {a b c : UInt8} : width a = 3 → isSecond a b = true → isTail c = true →
      Writes [a, b, c] (char3 a b c)
  | four {a b c d : UInt8} : width a = 4 → isSecond a b = true → isTail c = true →
      isTail d = true → Writes [a, b, c, d] (char4 a b c d)

theorem toNat_val_ofNat {n : Nat} (h : n.isValidChar) : (Char.ofNat n).val.toNat = n := by
  rw [Char.ofNat, dif_pos h]
  rfl

theorem ofNat_eq_of_toNat {n : Nat} {x : Char} (h : n = x.val.toNat) : Char.ofNat n = x := by
  subst h
  exact Char.ofNat_toNat x

theorem Writes.eq_encodeChar {octets : List UInt8} {x : Char} (h : Writes octets x) :
    octets = String.utf8EncodeChar x := by
  rw [String.utf8EncodeChar.eq_1]
  cases h with
  | @one a ha =>
    rw [width_eq_one_iff] at ha
    have hvalid : a.toNat.isValidChar := by left; omega
    rw [toNat_val_ofNat hvalid, if_pos (by omega), UInt8.ofNat_toNat]
  | @two a b ha hb =>
    rw [width_eq_two_iff] at ha
    rw [isTail_iff] at hb
    have hvalid : ((a.toNat - 0xC0) * 64 + (b.toNat - 0x80)).isValidChar := by left; omega
    rw [char2, toNat_val_ofNat hvalid, if_neg (by omega), if_pos (by omega)]
    simp only [List.cons.injEq, and_true, ← UInt8.toNat_inj, UInt8.toNat_ofNat']
    omega
  | @three a b c ha hb hc =>
    -- Neither an overlong form nor a surrogate is left by the bounds on the second octet.
    rw [width_eq_three_iff] at ha
    rw [isSecond_iff] at hb
    rw [isTail_iff] at hc
    have hvalid :
        (((a.toNat - 0xE0) * 64 + (b.toNat - 0x80)) * 64 + (c.toNat - 0x80)).isValidChar := by
      unfold Nat.isValidChar
      omega
    rw [char3, toNat_val_ofNat hvalid, if_neg (by omega), if_neg (by omega), if_pos (by omega)]
    simp only [List.cons.injEq, and_true, ← UInt8.toNat_inj, UInt8.toNat_ofNat']
    omega
  | @four a b c d ha hb hc hd =>
    rw [width_eq_four_iff] at ha
    rw [isSecond_iff] at hb
    rw [isTail_iff] at hc hd
    have hvalid : ((((a.toNat - 0xF0) * 64 + (b.toNat - 0x80)) * 64 + (c.toNat - 0x80)) * 64 +
        (d.toNat - 0x80)).isValidChar := by
      unfold Nat.isValidChar
      omega
    rw [char4, toNat_val_ofNat hvalid, if_neg (by omega), if_neg (by omega), if_neg (by omega)]
    simp only [List.cons.injEq, and_true, ← UInt8.toNat_inj, UInt8.toNat_ofNat']
    omega

theorem writes_encodeChar (x : Char) : Writes (String.utf8EncodeChar x) x := by
  have hvalid : x.val.toNat < 55296 ∨ 57343 < x.val.toNat ∧ x.val.toNat < 1114112 := x.valid
  rw [String.utf8EncodeChar.eq_1]
  generalize hn : x.val.toNat = n at hvalid
  split
  · have h := Writes.one (a := UInt8.ofNat n)
      (by rw [width_eq_one_iff, UInt8.toNat_ofNat']; omega)
    rwa [ofNat_eq_of_toNat (x := x) (by rw [UInt8.toNat_ofNat']; omega)] at h
  split
  · have h := Writes.two (a := UInt8.ofNat (n / 64 % 32 + 192)) (b := UInt8.ofNat (n % 64 + 128))
      (by rw [width_eq_two_iff, UInt8.toNat_ofNat']; omega)
      (by rw [isTail_iff, UInt8.toNat_ofNat']; omega)
    rwa [char2, ofNat_eq_of_toNat (x := x) (by simp only [UInt8.toNat_ofNat']; omega)] at h
  split
  · have h := Writes.three (a := UInt8.ofNat (n / 4096 % 16 + 224))
      (b := UInt8.ofNat (n / 64 % 64 + 128)) (c := UInt8.ofNat (n % 64 + 128))
      (by rw [width_eq_three_iff, UInt8.toNat_ofNat']; omega)
      (by simp only [isSecond_iff, UInt8.toNat_ofNat']; omega)
      (by rw [isTail_iff, UInt8.toNat_ofNat']; omega)
    rwa [char3, ofNat_eq_of_toNat (x := x) (by simp only [UInt8.toNat_ofNat']; omega)] at h
  · have h := Writes.four (a := UInt8.ofNat (n / 262144 % 8 + 240))
      (b := UInt8.ofNat (n / 4096 % 64 + 128)) (c := UInt8.ofNat (n / 64 % 64 + 128))
      (d := UInt8.ofNat (n % 64 + 128))
      (by rw [width_eq_four_iff, UInt8.toNat_ofNat']; omega)
      (by simp only [isSecond_iff, UInt8.toNat_ofNat']; omega)
      (by rw [isTail_iff, UInt8.toNat_ofNat']; omega)
      (by rw [isTail_iff, UInt8.toNat_ofNat']; omega)
    rwa [char4, ofNat_eq_of_toNat (x := x) (by simp only [UInt8.toNat_ofNat']; omega)] at h

/-- The table lists what is written for each character. -/
theorem writes_iff {octets : List UInt8} {x : Char} :
    Writes octets x ↔ octets = String.utf8EncodeChar x := by
  constructor
  · intro h
    exact h.eq_encodeChar
  · rintro rfl
    exact writes_encodeChar x

/-! ### Reading what is written -/

theorem encode_cons (x : Char) (t : Text) :
    encode (x :: t) = String.utf8EncodeChar x ++ encode t := List.flatMap_cons

theorem encode_append (s t : Text) : encode (s ++ t) = encode s ++ encode t :=
  List.flatMap_append

theorem length_encode_replicate (n : Nat) (x : Char) :
    (encode (List.replicate n x)).length = n * (String.utf8EncodeChar x).length := by
  rw [encode, List.length_flatMap, List.map_replicate, List.sum_replicate_nat]

theorem decodeFrom_append {octets : List UInt8} {x : Char} (h : Writes octets x) (index : Nat)
    (s : List UInt8) :
    decodeFrom index (octets ++ s) = (decodeFrom (index + octets.length) s).map (x :: ·) := by
  cases h with
  | one ha => simp [decodeFrom, ha]
  | two ha hb => simp [decodeFrom, ha, hb]
  | three ha hb hc => simp [decodeFrom, ha, hb, hc]
  | four ha hb hc hd => simp [decodeFrom, ha, hb, hc, hd]

theorem decodeFrom_encode (index : Nat) (t : Text) : decodeFrom index (encode t) = .ok t := by
  induction t generalizing index with
  | nil => simp [encode, decodeFrom]
  | cons x t ih =>
    rw [encode_cons, decodeFrom_append (writes_encodeChar x), ih]
    rfl

/-- A character that was read is written by the octets it was read from. -/
theorem Writes.append_eq_encode {octets s : List UInt8} {x : Char} {t : Text}
    {read : Except Flaw Text} (h : Writes octets x) (hread : read.map (x :: ·) = .ok t)
    (ih : ∀ {t : Text}, read = .ok t → s = encode t) : octets ++ s = encode t := by
  cases read with
  | error flaw => cases hread
  | ok rest =>
    obtain rfl := Except.ok.inj hread
    rw [encode_cons, ih rfl, h.eq_encodeChar]

theorem eq_encode_of_decodeFrom {index : Nat} {s : List UInt8} {t : Text}
    (h : decodeFrom index s = .ok t) : s = encode t := by
  -- One case for each length of a sequence; in all others nothing is read.
  fun_induction decodeFrom index s generalizing t with
  | case1 =>
    obtain rfl := Except.ok.inj h
    rfl
  | case2 _ _ _ ha ih => exact (Writes.one ha).append_eq_encode h ih
  | case3 _ _ _ _ ha hb ih => exact (Writes.two ha hb).append_eq_encode h ih
  | case5 _ _ _ ha hb _ _ hc ih => exact (Writes.three ha hb hc).append_eq_encode h ih
  | case9 _ _ _ ha hb _ hc _ _ hd ih => exact (Writes.four ha hb hc hd).append_eq_encode h ih
  | _ => cases h

/-- **Octets are read as a text exactly if they are written for it.** -/
theorem decode_eq_ok_iff {s : List UInt8} {t : Text} : decode s = .ok t ↔ s = encode t := by
  constructor
  · intro h
    exact eq_encode_of_decodeFrom h
  · rintro rfl
    exact decodeFrom_encode 0 t

theorem encode_injective {s t : Text} (h : encode s = encode t) : s = t := by
  have hs : decode (encode t) = .ok s := decode_eq_ok_iff.mpr h.symm
  have ht : decode (encode t) = .ok t := decode_eq_ok_iff.mpr rfl
  exact Except.ok.inj (hs.symm.trans ht)

theorem decodeLossy_append {octets : List UInt8} {x : Char} (h : Writes octets x) (s : List UInt8) :
    decodeLossy (octets ++ s) = x :: decodeLossy s := by
  cases h with
  | one ha => simp [decodeLossy, ha]
  | two ha hb => simp [decodeLossy, ha, hb]
  | three ha hb hc => simp [decodeLossy, ha, hb, hc]
  | four ha hb hc hd => simp [decodeLossy, ha, hb, hc, hd]

/-- What is written for a text is well formed, so nothing in it is replaced. -/
theorem decodeLossy_encode (t : Text) : decodeLossy (encode t) = t := by
  induction t with
  | nil => simp [encode, decodeLossy]
  | cons x t ih => rw [encode_cons, decodeLossy_append (writes_encodeChar x), ih]

/-! ### Cut texts -/

theorem decodeFrom_encode_append (index : Nat) (t : Text) (s : List UInt8) :
    decodeFrom index (encode t ++ s) =
      (decodeFrom (index + (encode t).length) s).map (t ++ ·) := by
  induction t generalizing index with
  | nil =>
    rw [encode, List.flatMap_nil, List.nil_append, List.length_nil, Nat.add_zero]
    cases decodeFrom index s <;> rfl
  | cons x t ih =>
    rw [encode_cons, List.append_assoc, decodeFrom_append (writes_encodeChar x), ih,
      List.length_append, Nat.add_assoc]
    cases decodeFrom (index + ((String.utf8EncodeChar x).length + (encode t).length)) s <;> rfl

/-- What follows a text in the octets of a text are the octets of a text. -/
theorem exists_rest_of_encode_append {t u : Text} {s : List UInt8} (h : encode t = encode u ++ s) :
    ∃ v, t = u ++ v ∧ s = encode v := by
  have hread := decodeFrom_encode 0 t
  rw [h, decodeFrom_encode_append] at hread
  cases hrest : decodeFrom (0 + (encode u).length) s with
  | error flaw =>
    rw [hrest] at hread
    cases hread
  | ok v =>
    rw [hrest] at hread
    exact ⟨v, (Except.ok.inj hread).symm, eq_encode_of_decodeFrom hrest⟩

/-- The beginning of a character, without its end, is an incomplete sequence. -/
theorem Writes.decodeFrom_take {octets : List UInt8} {x : Char} (h : Writes octets x) {n : Nat}
    (hpos : 0 < n) (hlt : n < octets.length) (index : Nat) :
    decodeFrom index (octets.take n) = .error ⟨index, none⟩ := by
  cases h with
  | one ha =>
    rw [List.length_singleton] at hlt
    omega
  | two ha hb =>
    obtain rfl : n = 1 := by change n < 2 at hlt; omega
    simp [decodeFrom, ha]
  | three ha hb hc =>
    obtain rfl | rfl : n = 1 ∨ n = 2 := by change n < 3 at hlt; omega
    all_goals simp [decodeFrom, ha, hb]
  | four ha hb hc hd =>
    obtain rfl | rfl | rfl : n = 1 ∨ n = 2 ∨ n = 3 := by change n < 4 at hlt; omega
    all_goals simp [decodeFrom, ha, hb, hc]

/-- Whether the place after `limit` octets of a text is inside the character that begins after `n`. -/
def Cuts (limit : Nat) (t : Text) (n : Nat) : Prop :=
  ∃ u x v, t = u ++ x :: v ∧ (encode u).length = n ∧ n < limit ∧
    limit < n + (String.utf8EncodeChar x).length

/-- Every place in the octets of a text is between two characters or inside one. -/
theorem encode_take_or_cuts {limit : Nat} {t : Text} (h : limit ≤ (encode t).length) :
    (∃ u, (encode t).take limit = encode u) ∨ ∃ n, Cuts limit t n := by
  induction t generalizing limit with
  | nil => exact .inl ⟨[], by simp [encode]⟩
  | cons x t ih =>
    rw [encode_cons, List.length_append] at h
    rcases Nat.lt_or_ge limit (String.utf8EncodeChar x).length with hlt | hge
    · rcases Nat.eq_zero_or_pos limit with rfl | hpos
      · exact .inl ⟨[], rfl⟩
      · exact .inr ⟨0, [], x, t, rfl, rfl, hpos, by omega⟩
    · have hle : limit - (String.utf8EncodeChar x).length ≤ (encode t).length := by omega
      rcases ih hle with ⟨u, hu⟩ | ⟨n, u, y, v, rfl, hn, hstart, hstop⟩
      · refine .inl ⟨x :: u, ?_⟩
        rw [encode_cons, encode_cons, List.take_append, List.take_of_length_le hge, hu]
      · refine .inr ⟨(String.utf8EncodeChar x).length + n, x :: u, y, v, rfl, ?_, ?_, ?_⟩
        · rw [encode_cons, List.length_append, hn]
        · omega
        · omega

/-- Octets that end inside a character of a text are an incomplete sequence. -/
theorem Cuts.decode {limit : Nat} {t : Text} {n : Nat} (h : Cuts limit t n) :
    decode ((encode t).take limit) = .error ⟨n, none⟩ := by
  obtain ⟨u, x, v, rfl, rfl, hstart, hstop⟩ := h
  have hcut : (encode (u ++ x :: v)).take limit =
      encode u ++ (String.utf8EncodeChar x).take (limit - (encode u).length) := by
    rw [encode_append, encode_cons, List.take_append, List.take_of_length_le (Nat.le_of_lt hstart),
      List.take_append_of_le_length (by omega)]
  rw [hcut, Utf8.decode, decodeFrom_encode_append,
    (writes_encodeChar x).decodeFrom_take (by omega) (by omega), Nat.zero_add]
  rfl

theorem not_cuts_of_take {limit n : Nat} {t u : Text} (h : (encode t).take limit = encode u) :
    ¬ Cuts limit t n := by
  intro hcuts
  have hdecode := hcuts.decode
  rw [h, decode_eq_ok_iff.mpr rfl] at hdecode
  cases hdecode

/-! ### ASCII -/

/-- Every octet of a longer sequence is beyond ASCII. -/
theorem Writes.eq_ofNat {octets : List UInt8} {x : Char} {a : UInt8} (h : Writes octets x)
    (ha : a.toNat < 0x80) (hmem : a ∈ octets) : x = Char.ofNat a.toNat := by
  cases h with
  | one _ => rw [List.mem_singleton.mp hmem]
  | two h hb =>
    rw [width_eq_two_iff] at h
    rw [isTail_iff] at hb
    grind
  | three h hb hc =>
    rw [width_eq_three_iff] at h
    rw [isSecond_iff] at hb
    rw [isTail_iff] at hc
    grind
  | four h hb hc hd =>
    rw [width_eq_four_iff] at h
    rw [isSecond_iff] at hb
    rw [isTail_iff] at hc hd
    grind

theorem mem_encodeChar_of_ascii_iff {a : UInt8} {x : Char} (ha : a.toNat < 0x80) :
    a ∈ String.utf8EncodeChar x ↔ x = Char.ofNat a.toNat := by
  constructor
  · exact (writes_encodeChar x).eq_ofNat ha
  · rintro rfl
    rw [← Writes.eq_encodeChar (.one (width_eq_one_iff.mpr ha))]
    exact List.mem_singleton_self a

theorem mem_encode_of_ascii_iff {a : UInt8} {t : Text} (ha : a.toNat < 0x80) :
    a ∈ encode t ↔ Char.ofNat a.toNat ∈ t := by
  simp only [encode, List.mem_flatMap, mem_encodeChar_of_ascii_iff ha, exists_eq_right]

end MailPolicy.Utf8
