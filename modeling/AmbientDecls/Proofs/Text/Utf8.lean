import AmbientDecls.Text.Utf8
import Mathlib.Data.List.Basic

/-!
# Bytes and texts

The decoders against the encoding of characters. What the decoders take for a character is encoded
so (`IsCharacter.utf8EncodeChar_character`), and every character is taken for one. So nothing is lost
of a sequence that is a text (`decodeLossy_encode`), and the first fault of any other is behind the
text that it starts with, where no character goes on (`exists_index_firstFault`).
-/

namespace AmbientDecls.Utf8

open String

variable {b low high : UInt8} {count size n : Nat} {following rest : List UInt8}

/-- So many bytes, the first between the bounds. -/
inductive Run : Nat → UInt8 → UInt8 → List UInt8 → Prop
  | nil {low high : UInt8} : Run 0 low high []
  | cons {count : Nat} {low high b : UInt8} {rest : List UInt8} (hlow : low ≤ b) (hhigh : b ≤ high)
      (h : Run count 0x80 0xBF rest) : Run (count + 1) low high (b :: rest)

lemma run_of_continues (h : continues size count low high rest = .whole n) :
    ∃ following later, rest = following ++ later ∧ Run count low high following := by
  induction count generalizing size low high rest with
  | zero => exact ⟨[], rest, rfl, .nil⟩
  | succ count ih =>
    cases rest with
    | nil => cases h
    | cons b rest =>
      rw [continues] at h
      split at h
      · next hb =>
        simp only [Bool.and_eq_true, decide_eq_true_eq] at hb
        obtain ⟨following, later, rfl, hrun⟩ := ih h
        exact ⟨b :: following, later, rfl, .cons hb.1 hb.2 hrun⟩
      · cases h

/-- The byte may stand inside a character. -/
def Follows (b : UInt8) : Prop := 0x80 ≤ b ∧ b ≤ 0xBF

/-- The bytes are those of a character. -/
inductive IsCharacter (b : UInt8) : List UInt8 → Prop
  | one (hb : b < 0x80) : IsCharacter b []
  | two {c : UInt8} (hb : 0xC2 ≤ b ∧ b ≤ 0xDF) (hc : Follows c) : IsCharacter b [c]
  | three {c d : UInt8} (hb : 0xE0 ≤ b ∧ b ≤ 0xEF) (hc : Follows c) (hd : Follows d)
      (hlow : b = 0xE0 → 0xA0 ≤ c) (hhigh : b = 0xED → c ≤ 0x9F) : IsCharacter b [c, d]
  | four {c d e : UInt8} (hb : 0xF0 ≤ b ∧ b ≤ 0xF4) (hc : Follows c) (hd : Follows d)
      (he : Follows e) (hlow : b = 0xF0 → 0x90 ≤ c) (hhigh : b = 0xF4 → c ≤ 0x8F) :
      IsCharacter b [c, d, e]

lemma IsCharacter.front_append (h : IsCharacter b following) (rest : List UInt8) :
    front b (following ++ rest) = .whole (following.length + 1) := by
  cases h with
  | one hb => grind [front, followers, continues]
  | two hb hc => grind [front, followers, continues, Follows]
  | three hb hc hd hlow hhigh => grind [front, followers, continues, Follows]
  | four hb hc hd he hlow hhigh => grind [front, followers, continues, Follows]

lemma Run.exists_two (h : Run 2 low high following) :
    ∃ c d, following = [c, d] ∧ (low ≤ c ∧ c ≤ high) ∧ Follows d := by
  obtain _ | ⟨hlow, hhigh, _ | ⟨hlow', hhigh', ⟨⟩⟩⟩ := h
  exact ⟨_, _, rfl, ⟨hlow, hhigh⟩, hlow', hhigh'⟩

lemma Run.exists_three (h : Run 3 low high following) :
    ∃ c d e, following = [c, d, e] ∧ (low ≤ c ∧ c ≤ high) ∧ Follows d ∧ Follows e := by
  obtain _ | ⟨hlow, hhigh, h⟩ := h
  obtain ⟨d, e, rfl, hd, he⟩ := h.exists_two
  exact ⟨_, d, e, rfl, ⟨hlow, hhigh⟩, hd, he⟩

lemma Run.isCharacter (h : Run count low high following)
    (hb : followers b = some (count, low, high)) : IsCharacter b following := by
  simp only [followers, Bool.and_eq_true, decide_eq_true_eq] at hb
  split_ifs at hb
  all_goals
    obtain ⟨rfl, rfl, rfl⟩ : count = _ ∧ low = _ ∧ high = _ := by simpa [eq_comm] using hb
    clear hb
  · cases h
    exact .one ‹_›
  · obtain _ | ⟨hlow, hhigh, ⟨⟩⟩ := h
    exact .two ‹_› ⟨hlow, hhigh⟩
  iterate 3
    obtain ⟨c, d, rfl, hc, hd⟩ := h.exists_two
    exact .three (by grind) (by grind [Follows]) hd (by grind) (by grind)
  iterate 3
    obtain ⟨c, d, e, rfl, hc, hd, he⟩ := h.exists_three
    exact .four (by grind) (by grind [Follows]) hd he (by grind) (by grind)

lemma isCharacter_of_front (h : front b rest = .whole n) :
    ∃ following later, rest = following ++ later ∧ IsCharacter b following := by
  unfold front at h
  split at h
  · cases h
  · next hb =>
    obtain ⟨following, later, rfl, hrun⟩ := run_of_continues h
    exact ⟨following, later, rfl, hrun.isCharacter hb⟩

lemma utf8EncodeChar_ofNat (h : n.isValidChar) : utf8EncodeChar (Char.ofNat n) =
    if n ≤ 0x7F then [.ofNat n]
    else if n ≤ 0x7FF then [.ofNat (n / 64 % 0x20 + 0xC0), .ofNat (n % 64 + 0x80)]
    else if n ≤ 0xFFFF then
      [.ofNat (n / 4096 % 0x10 + 0xE0), .ofNat (n / 64 % 64 + 0x80), .ofNat (n % 64 + 0x80)]
    else [.ofNat (n / 262144 % 8 + 0xF0), .ofNat (n / 4096 % 64 + 0x80),
      .ofNat (n / 64 % 64 + 0x80), .ofNat (n % 64 + 0x80)] := by
  have hn : (Char.ofNat n).val.toNat = n := by
    rw [Char.ofNat, dif_pos h]
    rfl
  simp only [utf8EncodeChar, hn]

lemma ofNat_eq_of_toNat (h : n = b.toNat) : UInt8.ofNat n = b := by
  rw [h, UInt8.ofNat_toNat]

/-- The bytes of a character are the encoding of the character that they are decoded to. -/
lemma IsCharacter.utf8EncodeChar_character (h : IsCharacter b following) :
    utf8EncodeChar (character b following) = b :: following := by
  cases h with
  | one hb =>
    have hb' : b.toNat < 0x80 := hb
    have hcode : character b [] = .ofNat b.toNat := rfl
    have hvalid : b.toNat.isValidChar := .inl (by omega)
    rw [hcode, utf8EncodeChar_ofNat hvalid, if_pos (by omega), UInt8.ofNat_toNat]
  | @two c hb hc =>
    obtain ⟨hb₁, hb₂⟩ : 0xC2 ≤ b.toNat ∧ b.toNat ≤ 0xDF := hb
    obtain ⟨hc₁, hc₂⟩ : 0x80 ≤ c.toNat ∧ c.toNat ≤ 0xBF := hc
    have hcode : character b [c] = .ofNat (b.toNat % 32 * 64 + c.toNat % 64) := rfl
    have hvalid : (b.toNat % 32 * 64 + c.toNat % 64).isValidChar := .inl (by omega)
    rw [hcode, utf8EncodeChar_ofNat hvalid, if_neg (by omega), if_pos (by omega),
      ofNat_eq_of_toNat (b := b) (by omega), ofNat_eq_of_toNat (b := c) (by omega)]
  | @three c d hb hc hd hlow hhigh =>
    obtain ⟨hb₁, hb₂⟩ : 0xE0 ≤ b.toNat ∧ b.toNat ≤ 0xEF := hb
    obtain ⟨hc₁, hc₂⟩ : 0x80 ≤ c.toNat ∧ c.toNat ≤ 0xBF := hc
    obtain ⟨hd₁, hd₂⟩ : 0x80 ≤ d.toNat ∧ d.toNat ≤ 0xBF := hd
    simp only [UInt8.le_iff_toNat_le, ← UInt8.toNat_inj, UInt8.reduceToNat] at hlow hhigh
    have hcode : character b [c, d] =
        .ofNat ((b.toNat % 16 * 64 + c.toNat % 64) * 64 + d.toNat % 64) := rfl
    have hvalid : ((b.toNat % 16 * 64 + c.toNat % 64) * 64 + d.toNat % 64).isValidChar := by
      unfold Nat.isValidChar
      omega
    rw [hcode, utf8EncodeChar_ofNat hvalid, if_neg (by omega), if_neg (by omega),
      if_pos (by omega), ofNat_eq_of_toNat (b := b) (by omega),
      ofNat_eq_of_toNat (b := c) (by omega), ofNat_eq_of_toNat (b := d) (by omega)]
  | @four c d e hb hc hd he hlow hhigh =>
    obtain ⟨hb₁, hb₂⟩ : 0xF0 ≤ b.toNat ∧ b.toNat ≤ 0xF4 := hb
    obtain ⟨hc₁, hc₂⟩ : 0x80 ≤ c.toNat ∧ c.toNat ≤ 0xBF := hc
    obtain ⟨hd₁, hd₂⟩ : 0x80 ≤ d.toNat ∧ d.toNat ≤ 0xBF := hd
    obtain ⟨he₁, he₂⟩ : 0x80 ≤ e.toNat ∧ e.toNat ≤ 0xBF := he
    simp only [UInt8.le_iff_toNat_le, ← UInt8.toNat_inj, UInt8.reduceToNat] at hlow hhigh
    have hcode : character b [c, d, e] = .ofNat
        (((b.toNat % 8 * 64 + c.toNat % 64) * 64 + d.toNat % 64) * 64 + e.toNat % 64) := rfl
    have hvalid : (((b.toNat % 8 * 64 + c.toNat % 64) * 64 + d.toNat % 64) * 64 +
        e.toNat % 64).isValidChar := .inr (by omega)
    rw [hcode, utf8EncodeChar_ofNat hvalid, if_neg (by omega), if_neg (by omega),
      if_neg (by omega), ofNat_eq_of_toNat (b := b) (by omega),
      ofNat_eq_of_toNat (b := c) (by omega), ofNat_eq_of_toNat (b := d) (by omega),
      ofNat_eq_of_toNat (b := e) (by omega)]

lemma follows_ofNat (n : Nat) : Follows (.ofNat (n % 64 + 0x80)) := by
  simp only [Follows, UInt8.le_iff_toNat_le, UInt8.toNat_ofNat', UInt8.reduceToNat]
  omega

lemma exists_utf8EncodeChar_eq (c : Char) :
    ∃ b following, utf8EncodeChar c = b :: following ∧ IsCharacter b following := by
  have hvalid : c.toNat.isValidChar := c.valid
  rw [← c.ofNat_toNat, utf8EncodeChar_ofNat hvalid]
  unfold Nat.isValidChar at hvalid
  split
  · refine ⟨_, _, rfl, .one ?_⟩
    simp only [UInt8.lt_iff_toNat_lt, UInt8.toNat_ofNat', UInt8.reduceToNat]
    omega
  · split
    · refine ⟨_, _, rfl, .two ?_ (follows_ofNat _)⟩
      simp only [UInt8.le_iff_toNat_le, UInt8.toNat_ofNat', UInt8.reduceToNat]
      omega
    · split
      -- The bounds of the second byte leave out surrogates and what fewer bytes could say.
      · refine ⟨_, _, rfl, .three ?_ (follows_ofNat _) (follows_ofNat _) ?_ ?_⟩
        all_goals
          simp only [UInt8.le_iff_toNat_le, ← UInt8.toNat_inj, UInt8.toNat_ofNat',
            UInt8.reduceToNat]
          omega
      · refine ⟨_, _, rfl, .four ?_ (follows_ofNat _) (follows_ofNat _) (follows_ofNat _) ?_ ?_⟩
        all_goals
          simp only [UInt8.le_iff_toNat_le, ← UInt8.toNat_inj, UInt8.toNat_ofNat',
            UInt8.reduceToNat]
          omega

lemma utf8EncodeChar_injective {c d : Char} (h : utf8EncodeChar c = utf8EncodeChar d) : c = d := by
  have hbytes : [c].utf8Encode = [d].utf8Encode := by
    rw [List.utf8Encode_singleton, List.utf8Encode_singleton, h]
  rw [← toByteArray_ofList, ← toByteArray_ofList, toByteArray_inj] at hbytes
  exact List.singleton_inj.mp (ofList_injective hbytes)

/-! ### The bytes of texts -/

/-- The bytes of a text. -/
def encode (t : Text) : List UInt8 := t.flatMap utf8EncodeChar

lemma encode_cons (c : Char) (t : Text) : encode (c :: t) = utf8EncodeChar c ++ encode t :=
  List.flatMap_cons

lemma decodeLossy_utf8EncodeChar_append (c : Char) (rest : List UInt8) :
    decodeLossy (utf8EncodeChar c ++ rest) = c :: decodeLossy rest := by
  obtain ⟨b, following, hbytes, hchar⟩ := exists_utf8EncodeChar_eq c
  have hc : character b following = c :=
    utf8EncodeChar_injective (hchar.utf8EncodeChar_character.trans hbytes.symm)
  rw [hbytes, List.cons_append, decodeLossy]
  simp only [hchar.front_append, Nat.add_sub_cancel, List.take_left', List.drop_left', hc]

lemma decodeLossy_encode (t : Text) : decodeLossy (encode t) = t := by
  induction t with
  | nil => simp [encode, decodeLossy]
  | cons c t ih => rw [encode_cons, decodeLossy_utf8EncodeChar_append, ih]

lemma firstFault_utf8EncodeChar_append (index : Nat) (c : Char) (rest : List UInt8) :
    firstFault index (utf8EncodeChar c ++ rest) =
      firstFault (index + (utf8EncodeChar c).length) rest := by
  obtain ⟨b, following, hbytes, hchar⟩ := exists_utf8EncodeChar_eq c
  rw [hbytes, List.cons_append, firstFault]
  simp only [hchar.front_append, Nat.add_sub_cancel, List.drop_left', List.length_cons]

lemma firstFault_encode_append (index : Nat) (t : Text) (rest : List UInt8) :
    firstFault index (encode t ++ rest) = firstFault (index + (encode t).length) rest := by
  induction t generalizing index with
  | nil => rfl
  | cons c t ih =>
    rw [encode_cons, List.append_assoc, firstFault_utf8EncodeChar_append, ih, List.length_append,
      Nat.add_assoc]

/-- No character starts the bytes. -/
def IsStuck (bytes : List UInt8) : Prop := ∀ c, ¬utf8EncodeChar c <+: bytes

/-- Every sequence of bytes is a text as far as it goes. -/
lemma exists_encode_append (bytes : List UInt8) :
    ∃ t rest, bytes = encode t ++ rest ∧ IsStuck rest := by
  induction hlen : bytes.length using Nat.strongRecOn generalizing bytes with
  | _ len ih =>
    subst hlen
    by_cases h : IsStuck bytes
    · exact ⟨[], bytes, rfl, h⟩
    · simp only [IsStuck, not_forall, not_not] at h
      obtain ⟨c, later, rfl⟩ := h
      have hpos := c.utf8Size_pos
      have hlt : later.length < (utf8EncodeChar c ++ later).length := by
        rw [List.length_append, length_utf8EncodeChar]
        omega
      obtain ⟨t, rest, rfl, hrest⟩ := ih _ hlt later rfl
      exact ⟨c :: t, rest, by rw [encode_cons, List.append_assoc], hrest⟩

lemma IsStuck.index_firstFault (h : IsStuck rest) (index : Nat) :
    (firstFault index rest).index = index := by
  cases rest with
  | nil => simp [firstFault]
  | cons b rest =>
    rw [firstFault]
    split
    · next hfront =>
      obtain ⟨following, later, rfl, hchar⟩ := isCharacter_of_front hfront
      refine absurd ?_ (h (character b following))
      rw [hchar.utf8EncodeChar_character]
      exact ⟨later, rfl⟩
    · rfl
    · rfl

/-- The first fault is where no character starts. -/
theorem exists_index_firstFault (bytes : List UInt8) :
    ∃ t rest, bytes = encode t ++ rest ∧ IsStuck rest ∧
      (firstFault 0 bytes).index = (encode t).length := by
  obtain ⟨t, rest, rfl, hrest⟩ := exists_encode_append bytes
  refine ⟨t, rest, rfl, hrest, ?_⟩
  rw [firstFault_encode_append, hrest.index_firstFault, Nat.zero_add]

end AmbientDecls.Utf8
