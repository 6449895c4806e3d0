import Pressroom.Flash.Cookie
import Pressroom.Proofs.TextCutting

/-!
What is written in form-urlencoded text is read back as it was. The bytes of a character decode to
that character, the bytes of a part survive their writing, and the separators never occur inside a
part, so pairs, and with them flash messages, come back whole and in order.
-/

set_option autoImplicit false
set_option relaxedAutoImplicit false

namespace Pressroom.Text.Utf8

private theorem toNat_toUInt8 {n : Nat} (h : n < 256) : n.toUInt8.toNat = n := by
  rw [Nat.toUInt8_eq, UInt8.toNat_ofNat']
  exact Nat.mod_eq_of_lt h

private theorem toNat_tail (n : Nat) : (0x80 + n % 64).toUInt8.toNat = 0x80 + n % 64 :=
  toNat_toUInt8 (by omega)

private theorem isTail_tail (n : Nat) : isTail (0x80 + n % 64).toUInt8 = true := by
  simp only [isTail, UInt8.le_iff_toNat_le, toNat_tail, Bool.and_eq_true, decide_eq_true_eq]
  simp
  omega

private theorem low_tail (n : Nat) : low (0x80 + n % 64).toUInt8 = n % 64 := by
  unfold low
  rw [toNat_tail]
  omega

private theorem lead?_two {a b : UInt8} (hleast : 0xC2 ≤ a.toNat) (hmost : a.toNat < 0xE0)
    (hb : isTail b = true) :
    ∃ least most, lead? a = some (1, least, most) ∧ (b < least || most < b) = false := by
  simp only [isTail, Bool.and_eq_true, decide_eq_true_eq, UInt8.le_iff_toNat_le] at hb
  have hlow : ¬a < 0xC2 := fun h => Nat.not_lt.2 hleast (UInt8.lt_iff_toNat_lt.1 h)
  refine ⟨0x80, 0xBF, ?_, by simpa [UInt8.lt_iff_toNat_lt] using hb⟩
  rw [lead?, if_neg hlow, if_pos (UInt8.lt_iff_toNat_lt.2 hmost)]

private theorem lead?_three {a b : UInt8} (hleast : 0xE0 ≤ a.toNat) (hmost : a.toNat < 0xF0)
    (hb : isTail b = true) (hshort : a.toNat = 0xE0 → 0xA0 ≤ b.toNat)
    (hsurrogate : a.toNat = 0xED → b.toNat ≤ 0x9F) :
    ∃ least most, lead? a = some (2, least, most) ∧ (b < least || most < b) = false := by
  simp only [isTail, Bool.and_eq_true, decide_eq_true_eq, UInt8.le_iff_toNat_le] at hb
  obtain ⟨hb₁, hb₂⟩ := hb
  by_cases hfirst : a = 0xE0
  · subst hfirst
    refine ⟨0xA0, 0xBF, rfl, ?_⟩
    simpa [UInt8.lt_iff_toNat_lt] using ⟨hshort rfl, hb₂⟩
  · by_cases hsecond : a = 0xED
    · subst hsecond
      refine ⟨0x80, 0x9F, rfl, ?_⟩
      simpa [UInt8.lt_iff_toNat_lt] using ⟨hb₁, hsurrogate rfl⟩
    · refine ⟨0x80, 0xBF, ?_, by simpa [UInt8.lt_iff_toNat_lt] using ⟨hb₁, hb₂⟩⟩
      have h₁ : ¬a < 0xC2 := by rw [UInt8.lt_iff_toNat_lt]; simp; omega
      have h₂ : ¬a < 0xE0 := by rw [UInt8.lt_iff_toNat_lt]; simp; omega
      rw [lead?, if_neg h₁, if_neg h₂, if_neg hfirst, if_neg hsecond,
        if_pos (UInt8.lt_iff_toNat_lt.2 hmost)]

private theorem lead?_four {a b : UInt8} (hleast : 0xF0 ≤ a.toNat) (hmost : a.toNat ≤ 0xF4)
    (hb : isTail b = true) (hshort : a.toNat = 0xF0 → 0x90 ≤ b.toNat)
    (hbeyond : a.toNat = 0xF4 → b.toNat ≤ 0x8F) :
    ∃ least most, lead? a = some (3, least, most) ∧ (b < least || most < b) = false := by
  simp only [isTail, Bool.and_eq_true, decide_eq_true_eq, UInt8.le_iff_toNat_le] at hb
  obtain ⟨hb₁, hb₂⟩ := hb
  by_cases hfirst : a = 0xF0
  · subst hfirst
    refine ⟨0x90, 0xBF, rfl, ?_⟩
    simpa [UInt8.lt_iff_toNat_lt] using ⟨hshort rfl, hb₂⟩
  · by_cases hlast : a = 0xF4
    · subst hlast
      refine ⟨0x80, 0x8F, rfl, ?_⟩
      simpa [UInt8.lt_iff_toNat_lt] using ⟨hb₁, hbeyond rfl⟩
    · refine ⟨0x80, 0xBF, ?_, by simpa [UInt8.lt_iff_toNat_lt] using ⟨hb₁, hb₂⟩⟩
      have hne : a.toNat ≠ 0xF4 := fun h => hlast (UInt8.toNat_inj.1 h)
      have hnf : ∀ n : UInt8, n.toNat ≤ 0xF0 → ¬a < n := by
        intro n hn
        rw [UInt8.lt_iff_toNat_lt]
        omega
      have hnE0 : a ≠ 0xE0 := by rintro rfl; simp at hleast
      have hnED : a ≠ 0xED := by rintro rfl; simp at hleast
      have hlt : a < 0xF4 := UInt8.lt_iff_toNat_lt.2 (lt_of_le_of_ne hmost hne)
      rw [lead?, if_neg (hnf _ (by decide)), if_neg (hnf _ (by decide)), if_neg hnE0, if_neg hnED,
        if_neg (hnf _ (by decide)), if_neg hfirst, if_pos hlt]

private theorem scan_ascii {a : UInt8} (ha : a.toNat < 0x80) (bs : List UInt8) :
    scan (a :: bs) = some (Char.ofNat a.toNat) :: scan bs := by
  have hascii : a < 0x80 := UInt8.lt_iff_toNat_lt.2 ha
  rw [scan.eq_def]
  simp only [hascii, if_true]

private theorem scan_two {a b : UInt8} (ha : 0x80 ≤ a.toNat) {least most : UInt8}
    (hlead : lead? a = some (1, least, most)) (hb : (b < least || most < b) = false)
    (bs : List UInt8) :
    scan (a :: b :: bs) = some (Char.ofNat ((a.toNat - 0xC0) * 64 + low b)) :: scan bs := by
  have hascii : ¬a < 0x80 := fun h => Nat.not_lt.2 ha (UInt8.lt_iff_toNat_lt.1 h)
  rw [scan.eq_def]
  simp only [hascii, hlead, hb, if_false, if_true, Bool.false_eq_true]

private theorem scan_three {a b c : UInt8} (ha : 0x80 ≤ a.toNat) {least most : UInt8}
    (hlead : lead? a = some (2, least, most)) (hb : (b < least || most < b) = false)
    (hc : isTail c = true) (bs : List UInt8) :
    scan (a :: b :: c :: bs) =
      some (Char.ofNat ((a.toNat - 0xE0) * 4096 + low b * 64 + low c)) :: scan bs := by
  have hascii : ¬a < 0x80 := fun h => Nat.not_lt.2 ha (UInt8.lt_iff_toNat_lt.1 h)
  rw [scan.eq_def]
  simp [hascii, hlead, hb, hc]

private theorem scan_four {a b c d : UInt8} (ha : 0x80 ≤ a.toNat) {least most : UInt8}
    (hlead : lead? a = some (3, least, most)) (hb : (b < least || most < b) = false)
    (hc : isTail c = true) (hd : isTail d = true) (bs : List UInt8) :
    scan (a :: b :: c :: d :: bs) =
      some (Char.ofNat ((a.toNat - 0xF0) * 262144 + low b * 4096 + low c * 64 + low d)) ::
        scan bs := by
  have hascii : ¬a < 0x80 := fun h => Nat.not_lt.2 ha (UInt8.lt_iff_toNat_lt.1 h)
  rw [scan.eq_def]
  simp [hascii, hlead, hb, hc, hd]

private theorem scan_encodeChar (c : Char) (bs : List UInt8) :
    scan (encodeChar c ++ bs) = some c :: scan bs := by
  have hvalid : c.toNat < 0xD800 ∨ 0xDFFF < c.toNat ∧ c.toNat < 0x110000 := c.valid
  have hc : Char.ofNat c.toNat = c := Char.ofNat_toNat c
  unfold encodeChar
  dsimp only
  generalize c.toNat = n at hvalid hc ⊢
  by_cases h₁ : n < 0x80
  · have ha : n.toUInt8.toNat = n := toNat_toUInt8 (by omega)
    rw [if_pos h₁, List.singleton_append, scan_ascii (by omega), ha, hc]
  · by_cases h₂ : n < 0x800
    · have ha : (0xC0 + n / 64).toUInt8.toNat = 0xC0 + n / 64 := toNat_toUInt8 (by omega)
      have hnumber : (0xC0 + n / 64 - 0xC0) * 64 + n % 64 = n := by omega
      obtain ⟨least, most, hlead, hb⟩ := lead?_two (a := (0xC0 + n / 64).toUInt8) (by omega)
        (by omega) (isTail_tail n)
      rw [if_neg h₁, if_pos h₂, List.cons_append, List.singleton_append,
        scan_two (by omega) hlead hb, ha, low_tail, hnumber, hc]
    · by_cases h₃ : n < 0x10000
      · have ha : (0xE0 + n / 4096).toUInt8.toNat = 0xE0 + n / 4096 := toNat_toUInt8 (by omega)
        have htail := toNat_tail (n / 64)
        have hnumber : (0xE0 + n / 4096 - 0xE0) * 4096 + n / 64 % 64 * 64 + n % 64 = n := by omega
        obtain ⟨least, most, hlead, hb⟩ := lead?_three (a := (0xE0 + n / 4096).toUInt8)
          (by omega) (by omega) (isTail_tail (n / 64)) (by omega) (by omega)
        rw [if_neg h₁, if_neg h₂, if_pos h₃, List.cons_append, List.cons_append,
          List.singleton_append, scan_three (by omega) hlead hb (isTail_tail n), ha, low_tail,
          low_tail, hnumber, hc]
      · have ha : (0xF0 + n / 262144).toUInt8.toNat = 0xF0 + n / 262144 := toNat_toUInt8 (by omega)
        have htail := toNat_tail (n / 4096)
        have hnumber : (0xF0 + n / 262144 - 0xF0) * 262144 + n / 4096 % 64 * 4096 +
            n / 64 % 64 * 64 + n % 64 = n := by omega
        obtain ⟨least, most, hlead, hb⟩ := lead?_four (a := (0xF0 + n / 262144).toUInt8)
          (by omega) (by omega) (isTail_tail (n / 4096)) (by omega) (by omega)
        have hc₃ := isTail_tail (n / 64)
        rw [if_neg h₁, if_neg h₂, if_neg h₃, List.cons_append, List.cons_append, List.cons_append,
          List.singleton_append, scan_four (by omega) hlead hb hc₃ (isTail_tail n), ha, low_tail,
          low_tail, low_tail, hnumber, hc]

private theorem scan_encode (cs : List Char) : scan (encode cs) = cs.map some := by
  induction cs with
  | nil => rfl
  | cons c cs ih =>
    rw [encode, List.flatMap_cons, scan_encodeChar, List.map_cons]
    exact congrArg (some c :: ·) ih

@[simp] private theorem decodeLossy_encode (cs : List Char) : decodeLossy (encode cs) = cs := by
  rw [decodeLossy, scan_encode, List.map_map]
  exact List.map_id cs

end Pressroom.Text.Utf8

namespace Pressroom.Form

def isWritten (c : Char) : Bool :=
  (c.toNat < 0x80 && isKept c.toNat.toUInt8) || c == '+' || c == '%'

private theorem digit?_hexDigit {n : Nat} (h : n < 16) : Text.digit? 16 (hexDigit n) = some n := by
  have hall : ∀ m < 16, Text.digit? 16 (hexDigit m) = some m := by decide
  exact hall n h

private theorem isWritten_hexDigit {n : Nat} (h : n < 16) : isWritten (hexDigit n) = true := by
  have hall : ∀ m < 16, isWritten (hexDigit m) = true := by decide
  exact hall n h

private theorem kept_bounds {b : UInt8} (h : isKept b = true) :
    b.toNat < 0x80 ∧ b.toNat ≠ '+'.toNat ∧ b.toNat ≠ '%'.toNat := by
  simp only [isKept, Bool.or_eq_true, Bool.and_eq_true, decide_eq_true_eq, beq_iff_eq,
    UInt8.le_iff_toNat_le, ← UInt8.toNat_inj] at h
  simp at h ⊢
  omega

private theorem toNat_ofNat_kept {b : UInt8} (h : isKept b = true) :
    (Char.ofNat b.toNat).toNat = b.toNat := by
  have hb := (kept_bounds h).1
  have hvalid : b.toNat.isValidChar := Or.inl (by omega)
  rw [Char.ofNat, dif_pos hvalid]
  rfl

private theorem isWritten_of_mem_encodeByte {b : UInt8} {c : Char} (h : c ∈ encodeByte b) :
    isWritten c = true := by
  unfold encodeByte at h
  by_cases hkept : isKept b = true
  · rw [if_pos hkept, List.mem_singleton] at h
    subst h
    have hb := (kept_bounds hkept).1
    simp [isWritten, toNat_ofNat_kept hkept, hb, hkept]
  · rw [if_neg hkept] at h
    by_cases hblank : b = 0x20
    · rw [if_pos hblank, List.mem_singleton] at h
      subst h
      rfl
    · have hb : b.toNat < 256 := b.toNat_lt
      simp only [hblank, if_false, List.mem_cons, List.not_mem_nil, or_false] at h
      rcases h with rfl | rfl | rfl
      · rfl
      · exact isWritten_hexDigit (by omega)
      · exact isWritten_hexDigit (by omega)

private theorem isWritten_of_mem_encodePart {s : String} {c : Char} (h : c ∈ encodePart s) :
    isWritten c = true := by
  obtain ⟨b, -, hc⟩ := List.mem_flatMap.1 h
  exact isWritten_of_mem_encodeByte hc

private theorem not_mem_encodePart {c : Char} (h : isWritten c = false) (s : String) :
    c ∉ encodePart s := by
  intro hc
  rw [isWritten_of_mem_encodePart hc] at h
  cases h

private theorem partBytes_encodeByte (b : UInt8) (cs : List Char) :
    partBytes (encodeByte b ++ cs) = b :: partBytes cs := by
  unfold encodeByte
  by_cases hkept : isKept b = true
  · obtain ⟨hb, hplus, hpercent⟩ := kept_bounds hkept
    have hnat := toNat_ofNat_kept hkept
    have hne : ∀ d : Char, b.toNat ≠ d.toNat → Char.ofNat b.toNat ≠ d := by
      rintro d hd rfl
      exact hd hnat.symm
    have hbytes : Text.Utf8.encodeChar (Char.ofNat b.toNat) = [b] := by
      simp [Text.Utf8.encodeChar, hnat, hb]
    rw [if_pos hkept, List.singleton_append, partBytes, hbytes, List.singleton_append]
    · exact hne '+' hplus
    · intro x y rest h
      exact absurd h (hne '%' hpercent)
  · rw [if_neg hkept]
    by_cases hblank : b = 0x20
    · subst hblank
      simp [partBytes]
    · have hb : b.toNat < 256 := b.toNat_lt
      have hnumber : b.toNat / 16 * 16 + b.toNat % 16 = b.toNat := by omega
      rw [if_neg hblank]
      simp only [List.cons_append, List.nil_append, partBytes]
      rw [digit?_hexDigit (by omega), digit?_hexDigit (by omega)]
      simp [hnumber]

private theorem partBytes_encodePart (s : String) :
    partBytes (encodePart s) = Text.Utf8.encode s.toList := by
  unfold encodePart
  induction Text.Utf8.encode s.toList with
  | nil => rfl
  | cons b bs ih => rw [List.flatMap_cons, partBytes_encodeByte, ih]

@[simp] private theorem decodePart_encodePart (s : String) : decodePart (encodePart s) = s := by
  simp [decodePart, partBytes_encodePart]

@[simp] private theorem decodePair_encodePair (pair : String × String) :
    decodePair (encodePair pair) = pair := by
  have hkey : '=' ∉ encodePart pair.1 := not_mem_encodePart rfl pair.1
  simp [decodePair, encodePair, Text.before_append_cons hkey, Text.after?_append_cons hkey]

private theorem not_mem_encodePair {c : Char} (h : isWritten c = false) (hc : c ≠ '=')
    (pair : String × String) : c ∉ encodePair pair := by
  intro hmem
  rcases List.mem_append.1 hmem with hkey | hvalue
  · exact not_mem_encodePart h pair.1 hkey
  · rcases List.mem_cons.1 hvalue with heq | hvalue
    · exact hc heq
    · exact not_mem_encodePart h pair.2 hvalue

@[simp] theorem decode_encode (pairs : List (String × String)) : decode (encode pairs) = pairs := by
  cases pairs with
  | nil => rfl
  | cons pair pairs =>
    have hsep : ∀ p ∈ (pair :: pairs).map encodePair, '&' ∉ p := by
      intro p hp
      obtain ⟨q, -, rfl⟩ := List.mem_map.1 hp
      exact not_mem_encodePair rfl (by decide) q
    have hfull : ∀ p ∈ (pair :: pairs).map encodePair, (!p.isEmpty) = true := by
      intro p hp
      obtain ⟨q, -, rfl⟩ := List.mem_map.1 hp
      simp [encodePair]
    rw [decode, encode, String.toList_ofList, Text.pieces_join (by simp) hsep,
      List.filter_eq_self.2 hfull]
    simp [Function.comp_def]

theorem not_mem_encode {c : Char} (h : isWritten c = false) (hequal : c ≠ '=') (hand : c ≠ '&')
    (pairs : List (String × String)) : c ∉ (encode pairs).toList := by
  rw [encode, String.toList_ofList]
  intro hc
  rcases Text.mem_join hc with heq | ⟨p, hp, hc⟩
  · exact hand heq
  · obtain ⟨pair, -, rfl⟩ := List.mem_map.1 hp
    exact not_mem_encodePair h hequal pair hc

theorem decode_append (a b : String) : decode (a ++ "&" ++ b) = decode a ++ decode b := by
  have htext : (a ++ "&" ++ b).toList = a.toList ++ '&' :: b.toList := by simp
  rw [decode, htext, Text.pieces_append_sep, List.filter_append, List.map_append]
  rfl

theorem decode_intercalate (texts : List String) :
    decode ("&".intercalate texts) = texts.flatMap decode := by
  induction texts with
  | nil => rfl
  | cons a texts ih =>
    cases texts with
    | nil => simp
    | cons b texts =>
      rw [String.intercalate_cons_cons, decode_append, ih]
      exact List.flatMap_cons.symm

theorem decode_eq_singleton {piece : String} (h : '&' ∉ piece.toList) (hne : piece ≠ "") :
    decode piece = [decodePair piece.toList] := by
  have hfull : [piece.toList].filter (!·.isEmpty) = [piece.toList] := by simpa using hne
  rw [decode, Text.pieces_eq_singleton h, hfull, List.map_singleton]

end Pressroom.Form

namespace Pressroom.Flash

@[simp] theorem decode_encode (messages : List Message) : decode (encode messages) = messages := by
  rw [decode, encode, Form.decode_encode, List.filterMap_map]
  calc messages.filterMap _ = messages.filterMap some := by
        refine List.filterMap_congr ?_
        intro m _
        simp
    _ = messages := List.filterMap_some

end Pressroom.Flash
