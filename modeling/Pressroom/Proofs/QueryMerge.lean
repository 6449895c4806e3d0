import Pressroom.Page.Loading
import Pressroom.Proofs.FormRoundTrip

/-!
Reading a query. The pairs of a query are seen one after the other, and each fills the parameter
that its key names, unless its value is empty or the parameter is filled already. Main statement:
reading texts that are joined by `&` merges what each of them says, and the first of them to say
something counts.
-/

set_option autoImplicit false
set_option relaxedAutoImplicit false

namespace Pressroom.Page.Query

/-- The parameters of one query, and where it has none those of another. -/
def merge (q r : Query) : Query :=
  ⟨q.postType.or r.postType, q.slug.or r.slug⟩

/-- The parameters that have been found when one more pair is seen. -/
def see (q : Query) (pair : String × String) : Query :=
  if pair.2 = "" then q
  else if pair.1 = "type" then { q with postType := q.postType.or (some pair.2) }
  else if pair.1 = "slug" then { q with slug := q.slug.or (some pair.2) }
  else q

/-- A value stands under a key, is not empty, and everything in front of it under that key is. -/
def FirstUnder (key : String) (pairs : List (String × String)) (value : String) : Prop :=
  value ≠ "" ∧ ∃ front back, pairs = front ++ (key, value) :: back ∧
    ∀ pair ∈ front, pair.1 = key → pair.2 = ""

private theorem firstValue?_cons_of_eq {key : String} {pair : String × String} (hkey : pair.1 = key)
    (hvalue : pair.2 ≠ "") (pairs : List (String × String)) :
    firstValue? key (pair :: pairs) = some pair.2 := by
  have hfound : (pair.1 == key && pair.2 != "") = true := by simp [hkey, hvalue]
  rw [firstValue?, List.find?_cons, hfound]
  rfl

private theorem firstValue?_cons_of_skip {key : String} {pair : String × String}
    (h : pair.1 = key → pair.2 = "") (pairs : List (String × String)) :
    firstValue? key (pair :: pairs) = firstValue? key pairs := by
  have hskip : (pair.1 == key && pair.2 != "") = false := by
    by_cases hkey : pair.1 = key
    · simp [h hkey]
    · simp [hkey]
  rw [firstValue?, List.find?_cons, hskip]
  rfl

private theorem firstValue?_eq_some_iff {key value : String} {pairs : List (String × String)} :
    firstValue? key pairs = some value ↔ FirstUnder key pairs value := by
  induction pairs with
  | nil => simp [firstValue?, FirstUnder]
  | cons pair pairs ih =>
    by_cases hskip : pair.1 = key → pair.2 = ""
    · rw [firstValue?_cons_of_skip hskip, ih]
      constructor
      · rintro ⟨hvalue, front, back, rfl, hfront⟩
        exact ⟨hvalue, pair :: front, back, rfl, List.forall_mem_cons.2 ⟨hskip, hfront⟩⟩
      · rintro ⟨hvalue, front, back, hpairs, hfront⟩
        cases front with
        | nil =>
          obtain ⟨rfl, rfl⟩ := List.cons.inj hpairs
          exact absurd (hskip rfl) hvalue
        | cons first front =>
          obtain ⟨rfl, rfl⟩ := List.cons.inj hpairs
          exact ⟨hvalue, front, back, rfl, (List.forall_mem_cons.1 hfront).2⟩
    · obtain ⟨hkey, hfull⟩ : pair.1 = key ∧ pair.2 ≠ "" := by simpa using hskip
      rw [firstValue?_cons_of_eq hkey hfull]
      constructor
      · intro h
        obtain rfl := Option.some.inj h
        exact ⟨hfull, [], pairs, by rw [← hkey]; rfl, by simp⟩
      · rintro ⟨hvalue, front, back, hpairs, hfront⟩
        cases front with
        | nil =>
          obtain ⟨rfl, -⟩ := List.cons.inj hpairs
          rfl
        | cons first front =>
          obtain ⟨rfl, -⟩ := List.cons.inj hpairs
          exact absurd (hfront pair List.mem_cons_self hkey) hfull

private theorem firstValue?_eq_none_iff {key : String} {pairs : List (String × String)} :
    firstValue? key pairs = none ↔ ∀ pair ∈ pairs, pair.1 = key → pair.2 = "" := by
  simp [firstValue?, List.find?_eq_none]

private theorem see_eq_self {q : Query} {pair : String × String}
    (h : pair.1 ≠ "type" ∧ pair.1 ≠ "slug" ∨ pair.2 = "") : q.see pair = q := by
  unfold see
  rcases h with ⟨htype, hslug⟩ | hempty
  · rw [if_neg htype, if_neg hslug, ite_self]
  · rw [if_pos hempty]

private theorem merge_see (q : Query) (pair : String × String) (pairs : List (String × String)) :
    (q.see pair).merge ⟨firstValue? "type" pairs, firstValue? "slug" pairs⟩ =
      q.merge ⟨firstValue? "type" (pair :: pairs), firstValue? "slug" (pair :: pairs)⟩ := by
  by_cases hempty : pair.2 = ""
  · have hskip : ∀ key, pair.1 = key → pair.2 = "" := fun _ _ => hempty
    rw [see_eq_self (Or.inr hempty), firstValue?_cons_of_skip (hskip "type"),
      firstValue?_cons_of_skip (hskip "slug")]
  · by_cases htype : pair.1 = "type"
    · have hslug : pair.1 = "slug" → pair.2 = "" := by
        intro hslug
        rw [htype] at hslug
        exact absurd hslug (by decide)
      have hsee : q.see pair = { q with postType := q.postType.or (some pair.2) } := by
        rw [see, if_neg hempty, if_pos htype]
      rw [hsee, firstValue?_cons_of_eq htype hempty, firstValue?_cons_of_skip hslug]
      simp [merge]
    · have hskip : pair.1 = "type" → pair.2 = "" := fun h => absurd h htype
      rw [firstValue?_cons_of_skip hskip]
      by_cases hslug : pair.1 = "slug"
      · have hsee : q.see pair = { q with slug := q.slug.or (some pair.2) } := by
          rw [see, if_neg hempty, if_neg htype, if_pos hslug]
        rw [hsee, firstValue?_cons_of_eq hslug hempty]
        simp [merge]
      · rw [see_eq_self (Or.inl ⟨htype, hslug⟩),
          firstValue?_cons_of_skip fun h => absurd h hslug]

private theorem foldl_see (q : Query) (pairs : List (String × String)) :
    pairs.foldl see q = q.merge ⟨firstValue? "type" pairs, firstValue? "slug" pairs⟩ := by
  induction pairs generalizing q with
  | nil => simp [merge, firstValue?]
  | cons pair pairs ih => rw [List.foldl_cons, ih, merge_see]

private theorem parse_eq_foldl_see (raw : String) :
    parse raw = (Form.decode raw).foldl see ⟨none, none⟩ := by
  rw [foldl_see]
  simp [merge, parse]

private theorem foldl_see_decode (q : Query) (raw : String) :
    (Form.decode raw).foldl see q = q.merge (parse raw) :=
  foldl_see q (Form.decode raw)

private theorem parse_insert {piece : String} (hpiece : '&' ∉ piece.toList)
    (h : (Form.decodePair piece.toList).1 ≠ "type" ∧ (Form.decodePair piece.toList).1 ≠ "slug" ∨
      (Form.decodePair piece.toList).2 = "") (front back : List String) :
    parse ("&".intercalate (front ++ piece :: back)) = parse ("&".intercalate (front ++ back)) := by
  have hsilent : ∀ q : Query, (Form.decode piece).foldl see q = q := by
    intro q
    by_cases hempty : piece = ""
    · rw [hempty]
      rfl
    · rw [Form.decode_eq_singleton hpiece hempty, List.foldl_cons, List.foldl_nil]
      exact see_eq_self h
  simp only [parse_eq_foldl_see, Form.decode_intercalate, List.flatMap_append, List.flatMap_cons,
    List.foldl_append, hsilent]

/-- Reading a query is a merge in which the left side counts. The pairs fill the parameters from
left to right; each parameter is the first value under its key that is not empty, so it is never
empty itself; texts joined by `&` are merged; and a pair whose key is no parameter, or whose value
is empty, may be put in anywhere. -/
theorem reading_merges_left :
    (∀ a b : String,
      (parse (a ++ "&" ++ b)).postType = (parse a).postType.or (parse b).postType ∧
      (parse (a ++ "&" ++ b)).slug = (parse a).slug.or (parse b).slug) ∧
    (∀ raw : String, parse raw = (Form.decode raw).foldl see ⟨none, none⟩) ∧
    (∀ raw value : String,
      ((parse raw).postType = some value ↔ FirstUnder "type" (Form.decode raw) value) ∧
      ((parse raw).slug = some value ↔ FirstUnder "slug" (Form.decode raw) value)) ∧
    (∀ raw : String,
      ((parse raw).postType = none ↔
        ∀ pair ∈ Form.decode raw, pair.1 = "type" → pair.2 = "") ∧
      ((parse raw).slug = none ↔ ∀ pair ∈ Form.decode raw, pair.1 = "slug" → pair.2 = "")) ∧
    (∀ raw : String, (parse raw).postType ≠ some "" ∧ (parse raw).slug ≠ some "") ∧
    ∀ (front back : List String) (piece : String), '&' ∉ piece.toList →
      ((Form.decodePair piece.toList).1 ≠ "type" ∧ (Form.decodePair piece.toList).1 ≠ "slug" ∨
        (Form.decodePair piece.toList).2 = "") →
      parse ("&".intercalate (front ++ piece :: back)) =
        parse ("&".intercalate (front ++ back)) := by
  refine ⟨?_, parse_eq_foldl_see, ?_, ?_, ?_, ?_⟩
  · intro a b
    have hmerge : parse (a ++ "&" ++ b) = (parse a).merge (parse b) := by
      rw [parse_eq_foldl_see, Form.decode_append, List.foldl_append, ← parse_eq_foldl_see,
        foldl_see_decode]
    rw [hmerge]
    exact ⟨rfl, rfl⟩
  · intro raw value
    exact ⟨firstValue?_eq_some_iff, firstValue?_eq_some_iff⟩
  · intro raw
    exact ⟨firstValue?_eq_none_iff, firstValue?_eq_none_iff⟩
  · intro raw
    have hfull : ∀ key, firstValue? key (Form.decode raw) ≠ some "" :=
      fun key h => (firstValue?_eq_some_iff.1 h).1 rfl
    exact ⟨hfull "type", hfull "slug"⟩
  · intro front back piece hpiece h
    exact parse_insert hpiece h front back

theorem reading_merges_left_escaped :
    '&' ∉ "%74yp%=page".toList ∧ '&' ∉ "%73lug".toList ∧
    parse ("%74ype=" ++ "&" ++ "t%79pe=p%61ge&slug=%E2%82&type=post") =
      ⟨some "page", some "\ufffd"⟩ ∧
    parse ("&".intercalate ["%73lug", "%74yp%=page", "t%79pe=p%61ge&slug=%E2%82&type=post"]) =
      ⟨some "page", some "\ufffd"⟩ := by
  obtain ⟨hmerge, -, -, -, -, hinsert⟩ := reading_merges_left
  have hread : parse "t%79pe=p%61ge&slug=%E2%82&type=post" = ⟨some "page", some "\ufffd"⟩ := by
    have hdecode : Form.decode "t%79pe=p%61ge&slug=%E2%82&type=post" =
        [("type", "page"), ("slug", "\ufffd"), ("type", "post")] := by
      simp only [Form.decode, String.reduceToList]
      rfl
    rw [parse, hdecode]
    rfl
  have hempty : parse "%74ype=" = ⟨none, none⟩ := by
    have hdecode : Form.decode "%74ype=" = [("type", "")] := by
      simp only [Form.decode, String.reduceToList]
      rfl
    rw [parse, hdecode]
    rfl
  have hother : (Form.decodePair "%74yp%=page".toList).1 = "typ%" := by
    simp only [String.reduceToList]
    rfl
  have hvalue : (Form.decodePair "%73lug".toList).2 = "" := by
    simp only [String.reduceToList]
    rfl
  refine ⟨by decide, by decide, ?_, ?_⟩
  · obtain ⟨htype, hslug⟩ := hmerge "%74ype=" "t%79pe=p%61ge&slug=%E2%82&type=post"
    rw [hempty, hread] at htype hslug
    generalize parse ("%74ype=" ++ "&" ++ _) = q at htype hslug ⊢
    cases q
    simp only at htype hslug
    rw [htype, hslug]
    rfl
  · have hfirst := hinsert [] ["%74yp%=page", "t%79pe=p%61ge&slug=%E2%82&type=post"] "%73lug"
      (by decide) (Or.inr hvalue)
    have hsecond := hinsert [] ["t%79pe=p%61ge&slug=%E2%82&type=post"] "%74yp%=page" (by decide)
      (Or.inl (by rw [hother]; decide))
    rw [List.nil_append] at hfirst hsecond
    rw [hfirst, List.nil_append, hsecond, List.nil_append, String.intercalate_singleton, hread]

end Pressroom.Page.Query
