/-!
Cutting text: the pieces between separators, the part before a mark, and stripping both ends.
Everything here works on the characters of a text; `pieces` loses nothing (`join_pieces`) and no
piece contains the separator (`sep_not_mem_pieces`).
-/

set_option autoImplicit false
set_option relaxedAutoImplicit false

namespace Pressroom.Text

/-- The pieces of a text between separators. A text without separator is its only piece. -/
def pieces (sep : Char) : List Char → List (List Char)
  | [] => [[]]
  | c :: rest =>
    if c = sep then [] :: pieces sep rest
    else
      match pieces sep rest with
      | [] => [[c]]
      | p :: ps => (c :: p) :: ps

/-- The pieces put back together with the separator between them. -/
def join (sep : Char) (ps : List (List Char)) : List Char :=
  List.intercalate [sep] ps

/-- The part before the first character that satisfies `stop`; all of it when none does. -/
def before (stop : Char → Bool) (cs : List Char) : List Char :=
  cs.takeWhile (fun c => !stop c)

/-- The part after the first occurrence of `mark`, if there is one. -/
def after? (mark : Char) (cs : List Char) : Option (List Char) :=
  match cs.dropWhile (· != mark) with
  | [] => none
  | _ :: rest => some rest

/-- Remove the characters satisfying `drop` from both ends. -/
def strip (drop : Char → Bool) (cs : List Char) : List Char :=
  ((cs.dropWhile drop).reverse.dropWhile drop).reverse

@[simp] theorem join_nil (sep : Char) : join sep [] = [] := rfl

@[simp] theorem join_singleton (sep : Char) (p : List Char) : join sep [p] = p := by
  simp [join, List.intercalate]

@[simp] theorem join_cons_cons (sep : Char) (p q : List Char) (ps : List (List Char)) :
    join sep (p :: q :: ps) = p ++ sep :: join sep (q :: ps) := by
  simp [join, List.intercalate]

theorem pieces_ne_nil (sep : Char) (cs : List Char) : pieces sep cs ≠ [] := by
  cases cs with
  | nil => simp [pieces]
  | cons c rest =>
    unfold pieces
    split
    · simp
    · split <;> simp

theorem sep_not_mem_pieces {sep : Char} {cs p : List Char} (h : p ∈ pieces sep cs) :
    sep ∉ p := by
  induction cs generalizing p with
  | nil => simp_all [pieces]
  | cons c rest ih =>
    unfold pieces at h
    split at h
    · rcases List.mem_cons.1 h with rfl | h
      · simp
      · exact ih h
    · next hc =>
      split at h
      · next hp => exact absurd hp (pieces_ne_nil sep rest)
      · next q qs hq =>
        rcases List.mem_cons.1 h with rfl | h
        · have hq' : sep ∉ q := ih (by simp [hq])
          simp [hq', Ne.symm hc]
        · exact ih (by simp [hq, h])

theorem join_pieces (sep : Char) (cs : List Char) : join sep (pieces sep cs) = cs := by
  induction cs with
  | nil => simp [pieces]
  | cons c rest ih =>
    unfold pieces
    split
    · next hc =>
      cases hp : pieces sep rest with
      | nil => exact absurd hp (pieces_ne_nil sep rest)
      | cons p ps =>
        rw [hp] at ih
        rw [join_cons_cons, ih, List.nil_append, hc]
    · cases hp : pieces sep rest with
      | nil => exact absurd hp (pieces_ne_nil sep rest)
      | cons p ps =>
        rw [hp] at ih
        cases ps with
        | nil => simpa using ih
        | cons q qs => simpa using ih

end Pressroom.Text
