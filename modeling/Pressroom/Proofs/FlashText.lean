import Pressroom.Proofs.FormRoundTrip

/-!
The text of the cookie that carries messages. What the server writes into it is plain ASCII and is
read back as it was; what anyone else has written there is read piece by piece, each on its own.
-/

set_option autoImplicit false
set_option relaxedAutoImplicit false

namespace Pressroom.Form

private theorem isAlphanum_or_mem_of_isWritten {c : Char} (h : isWritten c = true) :
    c.isAlphanum = true ∨ c ∈ ['*', '-', '.', '_', '+', '%'] := by
  have hascii : ∀ n < 128, isKept n.toUInt8 = true →
      (Char.ofNat n).isAlphanum = true ∨ Char.ofNat n ∈ ['*', '-', '.', '_', '+', '%'] := by
    decide
  rw [isWritten, Bool.or_eq_true, Bool.or_eq_true, Bool.and_eq_true, decide_eq_true_eq] at h
  rcases h with (⟨hsmall, hkept⟩ | hplus) | hpercent
  · rw [← Char.ofNat_toNat c]
    exact hascii c.toNat hsmall hkept
  · rw [eq_of_beq hplus]
    decide
  · rw [eq_of_beq hpercent]
    decide

private theorem isAlphanum_or_mem_of_mem_encode {pairs : List (String × String)} {c : Char}
    (h : c ∈ (encode pairs).toList) :
    c.isAlphanum = true ∨ c ∈ ['*', '-', '.', '_', '+', '%', '=', '&'] := by
  by_cases hequal : c = '='
  · rw [hequal]
    decide
  by_cases hand : c = '&'
  · rw [hand]
    decide
  cases hwritten : isWritten c with
  | false => exact absurd h (not_mem_encode hwritten hequal hand pairs)
  | true =>
    rcases isAlphanum_or_mem_of_isWritten hwritten with halnum | hmark
    · exact Or.inl halnum
    · exact Or.inr (List.mem_append_left ['=', '&'] hmark)

end Pressroom.Form

namespace Pressroom.Flash

private theorem Level.ofName?_eq_some_iff {s : String} {l : Level} :
    ofName? s = some l ↔ s = l.name := by
  constructor
  · intro h
    have hname := List.find?_some h
    exact (eq_of_beq hname).symm
  · rintro rfl
    exact ofName?_name l

def namesLevel (piece : String) : Bool :=
  Level.all.any fun l => l.name == (Form.decodePair piece.toList).1

private theorem decode_append (a b : String) : decode (a ++ "&" ++ b) = decode a ++ decode b := by
  rw [decode, Form.decode_append, List.filterMap_append]
  rfl

private theorem decode_intercalate (texts : List String) :
    decode ("&".intercalate texts) = texts.flatMap decode := by
  rw [decode, Form.decode_intercalate, List.filterMap_flatMap]
  rfl

private theorem decode_piece {piece : String} (h : '&' ∉ piece.toList) :
    decode piece = ((Level.ofName? (Form.decodePair piece.toList).1).map
      fun l => (⟨l, (Form.decodePair piece.toList).2⟩ : Message)).toList := by
  by_cases hempty : piece = ""
  · rw [hempty]
    rfl
  · rw [decode, Form.decode_eq_singleton h hempty]
    obtain ⟨key, value⟩ := Form.decodePair piece.toList
    cases hl : Level.ofName? key with
    | none => simp [hl]
    | some l => simp [hl]

private theorem decode_of_not_namesLevel {piece : String} (h : '&' ∉ piece.toList)
    (hno : namesLevel piece = false) : decode piece = [] := by
  have hnone : Level.ofName? (Form.decodePair piece.toList).1 = none := by
    simpa [Level.ofName?, namesLevel] using hno
  rw [decode_piece h, hnone]
  rfl

private theorem flatMap_decode_filter {pieces : List String}
    (h : ∀ piece ∈ pieces, '&' ∉ piece.toList) :
    (pieces.filter namesLevel).flatMap decode = pieces.flatMap decode := by
  induction pieces with
  | nil => rfl
  | cons piece pieces ih =>
    have ih' := ih fun q hq => h q (List.mem_cons_of_mem piece hq)
    cases hname : namesLevel piece with
    | true => rw [List.filter_cons_of_pos hname, List.flatMap_cons, List.flatMap_cons, ih']
    | false =>
      have hdropped := decode_of_not_namesLevel (h piece List.mem_cons_self) hname
      rw [List.filter_cons_of_neg (by simp [hname]), List.flatMap_cons, hdropped, ih']
      rfl

/-- Messages survive their way through a cookie, and the text they travel in needs no quoting. Texts
joined by `&` are read one after the other, whatever they are. Of the pieces between two `&`, those
whose key is no level are as if they were not there, and each other one is a message. -/
theorem cookie_text_is_faithful :
    (∀ messages : List Message, decode (encode messages) = messages) ∧
    (∀ (messages : List Message) (c : Char), c ∈ (encode messages).toList →
      c.isAlphanum = true ∨ c ∈ ['*', '-', '.', '_', '+', '%', '=', '&']) ∧
    (∀ a b : String, decode (a ++ "&" ++ b) = decode a ++ decode b) ∧
    (∀ pieces : List String, (∀ piece ∈ pieces, '&' ∉ piece.toList) →
      decode ("&".intercalate pieces) = decode ("&".intercalate (pieces.filter namesLevel))) ∧
    (∀ (piece : String) (l : Level), '&' ∉ piece.toList →
      (Form.decodePair piece.toList).1 = l.name →
      decode piece = [⟨l, (Form.decodePair piece.toList).2⟩]) := by
  refine ⟨decode_encode, ?_, decode_append, ?_, ?_⟩
  · intro messages c hc
    exact Form.isAlphanum_or_mem_of_mem_encode hc
  · intro pieces hpieces
    rw [decode_intercalate, decode_intercalate, flatMap_decode_filter hpieces]
  · intro piece l hpiece hl
    rw [decode_piece hpiece, Level.ofName?_eq_some_iff.2 hl]
    rfl

/-- Pieces that no server has written: keys that are no level, or bytes that are no text, or nothing
at all, and a level and a message in escapes among them. -/
def strayPieces : List String :=
  ["bogus=1", "%FF=x", "", "%65rror=100%+%26", "info2=Saved"]

theorem cookie_text_is_faithful_stray :
    (∀ piece ∈ strayPieces, '&' ∉ piece.toList) ∧
    decode ("&".intercalate strayPieces) = [⟨.error, "100% &"⟩] ∧
    decode (encode [⟨.info, ""⟩, ⟨.error, "a&b=c;+%\n"⟩, ⟨.info, ""⟩] ++ "&" ++
      "&".intercalate strayPieces) =
      [⟨.info, ""⟩, ⟨.error, "a&b=c;+%\n"⟩, ⟨.info, ""⟩, ⟨.error, "100% &"⟩] ∧
    ';' ∉ (encode [⟨.error, "a&b=c;+%\n"⟩]).toList := by
  obtain ⟨hencode, hchars, happend, hfilter, hpiece⟩ := cookie_text_is_faithful
  have hclean : ∀ piece ∈ strayPieces, '&' ∉ piece.toList := by decide
  have hkept : strayPieces.filter namesLevel = ["%65rror=100%+%26"] := by
    simp only [strayPieces, List.filter, namesLevel, String.reduceToList]
    rfl
  have hpair : Form.decodePair "%65rror=100%+%26".toList = ("error", "100% &") := by
    simp only [String.reduceToList]
    rfl
  have hstray : decode ("&".intercalate strayPieces) = [⟨.error, "100% &"⟩] := by
    have hread := hpiece "%65rror=100%+%26" .error (by decide) (by rw [hpair]; rfl)
    rw [hfilter strayPieces hclean, hkept, String.intercalate_singleton, hread, hpair]
  refine ⟨hclean, hstray, ?_, ?_⟩
  · rw [happend, hencode, hstray]
    rfl
  · intro hc
    rcases hchars _ _ hc with halnum | hmark
    · cases halnum
    · revert hmark
      decide

end Pressroom.Flash
