import Mathlib.Data.List.DropRight
import Pressroom.Text.Blank

/-!
Cutting text, further: stripping a second time removes nothing, something without the separator put
in front of a text joins its first piece, a separator between two texts keeps their pieces apart,
and so the pieces of joined pieces are those pieces.
-/

set_option autoImplicit false
set_option relaxedAutoImplicit false

namespace Pressroom.Text

theorem dropWhile_strip (drop : Char → Bool) (cs : List Char) :
    (strip drop cs).dropWhile drop = strip drop cs := by
  have hprefix : strip drop cs <+: cs.dropWhile drop := by
    have hsuffix := List.dropWhile_suffix drop (l := (cs.dropWhile drop).reverse)
    simpa [strip] using List.reverse_prefix.2 hsuffix
  rw [List.dropWhile_eq_self_iff]
  intro hpos
  have hfirst := hprefix.getElem hpos
  have hkept := List.dropWhile_eq_self_iff.1 (List.dropWhile_idempotent drop cs)
    (lt_of_lt_of_le hpos hprefix.length_le)
  rw [hfirst]
  exact hkept

@[simp] private theorem strip_strip (drop : Char → Bool) (cs : List Char) :
    strip drop (strip drop cs) = strip drop cs := by
  have houter : strip drop (strip drop cs) =
      ((strip drop cs).reverse.dropWhile drop).reverse := by
    rw [strip, dropWhile_strip]
  rw [houter, strip, List.reverse_reverse, List.dropWhile_idempotent]

@[simp] theorem trim_trim (s : String) : trim (trim s) = trim s := by
  simp [trim]

theorem pieces_append {sep : Char} {front : List Char} (h : sep ∉ front) (cs : List Char) :
    pieces sep (front ++ cs) = (pieces sep cs).modifyHead (front ++ ·) := by
  induction front with
  | nil =>
    rw [List.nil_append]
    cases pieces sep cs with
    | nil => rfl
    | cons p ps => rfl
  | cons c front ih =>
    obtain ⟨hc, hfront⟩ := not_or.1 (List.mem_cons.not.1 h)
    rw [List.cons_append, pieces, if_neg (Ne.symm hc), ih hfront]
    cases hp : pieces sep cs with
    | nil => exact absurd hp (pieces_ne_nil sep cs)
    | cons p ps => rfl

theorem pieces_eq_singleton {sep : Char} {cs : List Char} (h : sep ∉ cs) :
    pieces sep cs = [cs] := by
  have hcut := pieces_append h []
  simpa [pieces] using hcut

theorem pieces_append_sep (sep : Char) (front cs : List Char) :
    pieces sep (front ++ sep :: cs) = pieces sep front ++ pieces sep cs := by
  induction front with
  | nil => simp [pieces]
  | cons c front ih =>
    rw [List.cons_append, pieces, pieces, ih]
    by_cases hc : c = sep
    · rw [if_pos hc, if_pos hc, List.cons_append]
    · rw [if_neg hc, if_neg hc]
      cases hp : pieces sep front with
      | nil => exact absurd hp (pieces_ne_nil sep front)
      | cons p ps => rfl

theorem pieces_append_cons {sep : Char} {front : List Char} (h : sep ∉ front) (cs : List Char) :
    pieces sep (front ++ sep :: cs) = front :: pieces sep cs := by
  rw [pieces_append_sep, pieces_eq_singleton h, List.singleton_append]

theorem pieces_join {sep : Char} {ps : List (List Char)} (hne : ps ≠ [])
    (h : ∀ p ∈ ps, sep ∉ p) : pieces sep (join sep ps) = ps := by
  induction ps with
  | nil => exact absurd rfl hne
  | cons p ps ih =>
    have hp : sep ∉ p := h p List.mem_cons_self
    have hps : ∀ q ∈ ps, sep ∉ q := fun q hq => h q (List.mem_cons_of_mem p hq)
    cases ps with
    | nil => simpa using pieces_eq_singleton hp
    | cons q qs =>
      rw [join_cons_cons, pieces_append_cons hp, ih (List.cons_ne_nil q qs) hps]

theorem mem_join {sep c : Char} {ps : List (List Char)} (h : c ∈ join sep ps) :
    c = sep ∨ ∃ p ∈ ps, c ∈ p := by
  induction ps with
  | nil => simp at h
  | cons p ps ih =>
    cases ps with
    | nil => exact Or.inr ⟨p, List.mem_singleton_self p, by simpa using h⟩
    | cons q qs =>
      rw [join_cons_cons, List.mem_append, List.mem_cons] at h
      rcases h with hp | rfl | hrest
      · exact Or.inr ⟨p, List.mem_cons_self, hp⟩
      · exact Or.inl rfl
      · rcases ih hrest with hsep | ⟨r, hr, hc⟩
        · exact Or.inl hsep
        · exact Or.inr ⟨r, List.mem_cons_of_mem p hr, hc⟩

theorem mem_of_mem_pieces {sep c : Char} {cs p : List Char} (hp : p ∈ pieces sep cs) (hc : c ∈ p) :
    c ∈ cs := by
  induction cs generalizing p with
  | nil =>
    rw [List.mem_singleton.1 hp] at hc
    cases hc
  | cons d cs ih =>
    unfold pieces at hp
    split at hp
    · rcases List.mem_cons.1 hp with rfl | hp
      · cases hc
      · exact List.mem_cons_of_mem d (ih hp hc)
    · split at hp
      · next hnil => exact absurd hnil (pieces_ne_nil sep cs)
      · next q qs hq =>
        rcases List.mem_cons.1 hp with rfl | hp
        · rcases List.mem_cons.1 hc with rfl | hc
          · exact List.mem_cons_self
          · exact List.mem_cons_of_mem d (ih (by simp [hq]) hc)
        · exact List.mem_cons_of_mem d (ih (by simp [hq, hp]) hc)

theorem exists_eq_before_append (stop : Char → Bool) (cs : List Char) :
    ∃ rest, cs = before stop cs ++ rest ∧ ∀ c ∈ rest.head?, stop c = true := by
  refine ⟨cs.dropWhile fun c => !stop c, List.takeWhile_append_dropWhile.symm, ?_⟩
  intro c hc
  have hstop := List.head?_dropWhile_not (fun c => !stop c) cs
  rw [Option.mem_def.1 hc] at hstop
  simpa using hstop

theorem before_eq_self_of_forall {stop : Char → Bool} {cs : List Char}
    (h : ∀ c ∈ cs, stop c = false) : before stop cs = cs := by
  rw [before, List.takeWhile_eq_self_iff]
  intro c hc
  simp [h c hc]

theorem eq_false_of_mem_before {stop : Char → Bool} {cs : List Char} {c : Char}
    (h : c ∈ before stop cs) : stop c = false := by
  simpa using List.mem_takeWhile_imp h

private theorem ne_of_mem {mark : Char} {cs : List Char} (h : mark ∉ cs) :
    ∀ c ∈ cs, c ≠ mark := by
  rintro c hc rfl
  exact h hc

theorem before_eq_self {mark : Char} {cs : List Char} (h : mark ∉ cs) :
    before (· == mark) cs = cs := by
  apply before_eq_self_of_forall
  intro c hc
  simpa using ne_of_mem h c hc

theorem before_append {stop : Char → Bool} {front rest : List Char}
    (hfront : ∀ c ∈ front, stop c = false) (hrest : ∀ c ∈ rest.head?, stop c = true) :
    before stop (front ++ rest) = front := by
  have hkept : ∀ c ∈ front, (!stop c) = true := by
    intro c hc
    simp [hfront c hc]
  rw [before, List.takeWhile_append_of_pos hkept]
  cases rest with
  | nil => simp
  | cons c rest => rw [List.takeWhile_cons_of_neg (by simp [hrest c rfl]), List.append_nil]

theorem before_append_cons {mark : Char} {front : List Char} (h : mark ∉ front) (cs : List Char) :
    before (· == mark) (front ++ mark :: cs) = front := by
  apply before_append
  · intro c hc
    simpa using ne_of_mem h c hc
  · simp

theorem after?_append_cons {mark : Char} {front : List Char} (h : mark ∉ front) (cs : List Char) :
    after? mark (front ++ mark :: cs) = some cs := by
  have hfront : ∀ c ∈ front, (c != mark) = true := by
    intro c hc
    simpa using ne_of_mem h c hc
  rw [after?, List.dropWhile_append_of_pos hfront, List.dropWhile_cons_of_neg (by simp)]

theorem after?_eq_none {mark : Char} {cs : List Char} (h : mark ∉ cs) : after? mark cs = none := by
  have hall : ∀ c ∈ cs, (c != mark) = true := by
    intro c hc
    simpa using ne_of_mem h c hc
  rw [after?, List.dropWhile_eq_nil_iff.2 hall]

theorem not_mem_of_after?_eq_none {mark : Char} {cs : List Char} (h : after? mark cs = none) :
    mark ∉ cs := by
  intro hmem
  unfold after? at h
  split at h
  · next hnil =>
    have hne := List.dropWhile_eq_nil_iff.1 hnil mark hmem
    simp at hne
  · cases h

theorem eq_before_append_of_after? {mark : Char} {cs rest : List Char}
    (h : after? mark cs = some rest) : cs = before (· == mark) cs ++ mark :: rest := by
  obtain ⟨back, hcs, hback⟩ := exists_eq_before_append (· == mark) cs
  have hfront : mark ∉ before (· == mark) cs := by
    intro hmem
    simpa using eq_false_of_mem_before hmem
  cases back with
  | nil =>
    rw [List.append_nil] at hcs
    rw [← hcs] at hfront
    rw [after?_eq_none hfront] at h
    cases h
  | cons c back =>
    obtain rfl : c = mark := by simpa using hback c rfl
    rw [hcs, after?_append_cons hfront] at h
    cases h
    exact hcs

end Pressroom.Text
