import Pressroom.Proofs.MarkupNormalForm
import Pressroom.Proofs.PageServing

/-!
Reading HTML back. Escaping leaves no angle bracket and no quotation mark in a text, so the angle
brackets of the HTML of a tree are those of its tags, and the quotation marks of a tag are those
around its values. The reader goes through the tags from the last to the first and keeps a row of
nodes for every element that is closed but not yet opened. Main statement: from the HTML of a tree
it recovers the normal form, hence trees are written alike exactly when their normal forms agree.
-/

set_option autoImplicit false
set_option relaxedAutoImplicit false

namespace Pressroom.Markup

def unescape : List Char → List Char
  | [] => []
  | '&' :: 'a' :: 'm' :: 'p' :: ';' :: rest => '&' :: unescape rest
  | '&' :: 'l' :: 't' :: ';' :: rest => '<' :: unescape rest
  | '&' :: 'g' :: 't' :: ';' :: rest => '>' :: unescape rest
  | '&' :: 'q' :: 'u' :: 'o' :: 't' :: ';' :: rest => '"' :: unescape rest
  | '&' :: '#' :: '3' :: '9' :: ';' :: rest => '\x27' :: unescape rest
  | c :: rest => c :: unescape rest

/-- The name in the part of a tag before a value: a blank, the name, an equals sign. -/
def attrName (part : List Char) : String :=
  String.ofList (Text.before (· == '=') (part.drop 1))

def readAttrs : List (List Char) → List (String × String)
  | part :: value :: rest => (attrName part, String.ofList (unescape value)) :: readAttrs rest
  | _ => []

/-- What has been read of a text, from its end: the row at hand and, for every element that is
closed but not yet opened, its name and the row that follows it. -/
structure Reading where
  row : List Node
  closed : List (String × List Node)

namespace Reading

def mapRow (f : List Node → List Node) (r : Reading) : Reading :=
  ⟨f r.row, r.closed⟩

def text (cs : List Char) (r : Reading) : Reading :=
  r.mapRow (addText (String.ofList (unescape cs)))

/-- Read an opening tag. A void element stands alone; any other takes the row at hand for its
children and must have the name of the last element that was closed. -/
def opening (name : String) (attrs : List (String × String)) (r : Reading) : Option Reading :=
  if isVoid name then some (r.mapRow (.element name attrs [] :: ·))
  else
    match r.closed with
    | [] => none
    | (last, row) :: closed =>
      if last = name then some ⟨.element name attrs r.row :: row, closed⟩ else none

def tag (body : List Char) (r : Reading) : Option Reading :=
  match body with
  | '/' :: name => some ⟨[], (String.ofList name, r.row) :: r.closed⟩
  | body =>
    r.opening (String.ofList (Text.before (· == ' ') body))
      (readAttrs (Text.pieces '"' (body.dropWhile (· != ' '))))

/-- Read a tag, without the bracket that begins it, and the text after it. -/
def piece (cs : List Char) (r : Reading) : Option Reading :=
  (Text.after? '>' cs).bind fun rest => (r.text rest).tag (Text.before (· == '>') cs)

end Reading

/-- Read tags with the texts after them, from the last to the first. -/
def readTags (pieces : List (List Char)) : Option Reading :=
  pieces.foldr (fun cs r => r.bind (·.piece cs)) (some ⟨[], []⟩)

def readHtml (cs : List Char) : Option Reading :=
  match Text.pieces '<' cs with
  | [] => none
  | first :: rest => (readTags rest).map (·.text first)

/-- Read HTML. Every element that is closed must be opened. -/
def parse (html : String) : Option (List Node) :=
  match readHtml html.toList with
  | some ⟨row, []⟩ => some row
  | _ => none

private theorem unescape_cons {c : Char} (h : c ≠ '&') (cs : List Char) :
    unescape (c :: cs) = c :: unescape cs := by
  rw [unescape.eq_def]
  split <;> simp_all

private theorem unescape_escapeChar (c : Char) (cs : List Char) :
    unescape (escapeChar c ++ cs) = c :: unescape cs := by
  unfold escapeChar
  split
  · rfl
  · rfl
  · rfl
  · rfl
  · rfl
  · next hand _ _ _ _ => exact unescape_cons hand cs

@[simp] theorem unescape_escape (s : String) (cs : List Char) :
    unescape (escape s ++ cs) = s.toList ++ unescape cs := by
  unfold escape
  induction s.toList with
  | nil => rfl
  | cons c rest ih =>
    rw [List.flatMap_cons, List.append_assoc, unescape_escapeChar, ih, List.cons_append]

/-- The characters that have a meaning between tags or inside one and are never left in a text. -/
def isDelimiter (c : Char) : Bool :=
  c == '<' || c == '>' || c == '"'

private theorem all_escapeChar (c : Char) : (escapeChar c).all (!isDelimiter ·) = true := by
  unfold escapeChar
  split
  · rfl
  · rfl
  · rfl
  · rfl
  · rfl
  · next _ hless hgreater hquote _ =>
    simpa [isDelimiter] using ⟨⟨hless, hgreater⟩, hquote⟩

theorem not_mem_escape {c : Char} (h : isDelimiter c = true) (s : String) : c ∉ escape s := by
  intro hc
  obtain ⟨d, -, hd⟩ := List.mem_flatMap.1 hc
  have hplain := List.all_eq_true.1 (all_escapeChar d) c hd
  rw [h] at hplain
  cases hplain

theorem not_mem_of_isName {s : String} (hs : IsName s) {c : Char} (hc : isNameChar c = false) :
    c ∉ s.toList := by
  intro hmem
  rw [List.all_eq_true.1 hs.2 c hmem] at hc
  cases hc

theorem readAttrs_attrHtml {attrs : List (String × String)} (h : ∀ attr ∈ attrs, IsName attr.1) :
    readAttrs (Text.pieces '"' (attrs.flatMap attrHtml)) = attrs := by
  induction attrs with
  | nil => rfl
  | cons attr attrs ih =>
    have hname : IsName attr.1 := h attr List.mem_cons_self
    have hrest : ∀ a ∈ attrs, IsName a.1 := fun a ha => h a (List.mem_cons_of_mem attr ha)
    have hpart : '"' ∉ ' ' :: attr.1.toList ++ ['='] := by
      simp [not_mem_of_isName hname (c := '"') rfl]
    have hvalue : '"' ∉ escape attr.2 := not_mem_escape rfl attr.2
    have hcut : (attr :: attrs).flatMap attrHtml = (' ' :: attr.1.toList ++ ['=']) ++
        '"' :: (escape attr.2 ++ '"' :: attrs.flatMap attrHtml) := by
      simp [attrHtml]
    have hfirst : attrName (' ' :: attr.1.toList ++ ['=']) = attr.1 := by
      have hequal : '=' ∉ attr.1.toList := not_mem_of_isName hname rfl
      have hbefore := Text.before_append_cons hequal []
      simp only [attrName, List.cons_append, List.drop_succ_cons, List.drop_zero, hbefore,
        String.ofList_toList]
    have hsecond : String.ofList (unescape (escape attr.2)) = attr.2 := by
      have hvalue := unescape_escape attr.2 []
      simp only [List.append_nil] at hvalue
      rw [hvalue]
      simp [unescape]
    rw [hcut, Text.pieces_append_cons hpart, Text.pieces_append_cons hvalue, readAttrs, hfirst,
      hsecond, ih hrest]

/-- What stands between the brackets of an opening tag. -/
def openBody (name : String) (attrs : List (String × String)) : List Char :=
  name.toList ++ attrs.flatMap attrHtml

theorem not_mem_openBody {name : String} {attrs : List (String × String)} (hname : IsName name)
    (hattrs : ∀ attr ∈ attrs, IsName attr.1) {c : Char} (hc : c = '<' ∨ c = '>') :
    c ∉ openBody name attrs := by
  have hdelimiter : isDelimiter c = true := by rcases hc with rfl | rfl <;> rfl
  have hchar : isNameChar c = false := by rcases hc with rfl | rfl <;> rfl
  intro hmem
  rcases List.mem_append.1 hmem with hmem | hmem
  · exact not_mem_of_isName hname hchar hmem
  · obtain ⟨attr, hattr, hmem⟩ := List.mem_flatMap.1 hmem
    have hplain : c ∉ attr.1.toList := not_mem_of_isName (hattrs attr hattr) hchar
    have hvalue : c ∉ escape attr.2 := not_mem_escape hdelimiter attr.2
    simp only [attrHtml, List.mem_append, List.mem_cons, List.not_mem_nil, or_false] at hmem
    rcases hc with rfl | rfl
    · simp [hplain, hvalue] at hmem
    · simp [hplain, hvalue] at hmem

theorem cut_openBody {name : String} (hname : IsName name)
    (attrs : List (String × String)) :
    Text.before (· == ' ') (openBody name attrs) = name.toList ∧
      (openBody name attrs).dropWhile (· != ' ') = attrs.flatMap attrHtml := by
  have hblank : ' ' ∉ name.toList := not_mem_of_isName hname rfl
  have hname' : ∀ c ∈ name.toList, (c != ' ') = true := by
    intro c hc
    rw [bne_iff_ne]
    rintro rfl
    exact hblank hc
  unfold openBody
  rw [List.dropWhile_append_of_pos hname']
  cases attrs with
  | nil => exact ⟨by simpa using Text.before_eq_self hblank, rfl⟩
  | cons attr attrs =>
    have hhead : (attr :: attrs).flatMap attrHtml = ' ' :: (attr.1.toList ++ ['=', '"'] ++
        escape attr.2 ++ ['"'] ++ attrs.flatMap attrHtml) := by
      simp [attrHtml]
    rw [hhead]
    exact ⟨Text.before_append_cons hblank _, List.dropWhile_cons_of_neg (by simp)⟩

namespace Reading

private theorem tag_openBody {name : String} {attrs : List (String × String)} (hname : IsName name)
    (hattrs : ∀ attr ∈ attrs, IsName attr.1) (r : Reading) :
    r.tag (openBody name attrs) = r.opening name attrs := by
  obtain ⟨hbefore, hafter⟩ := cut_openBody hname attrs
  have hslash : ∀ cs, openBody name attrs ≠ '/' :: cs := by
    intro cs h
    have hne : name.toList ≠ [] := by simpa using hname.1
    obtain ⟨c, rest, hc⟩ := List.exists_cons_of_ne_nil hne
    rw [openBody, hc] at h
    have hhead : c = '/' := (List.cons.inj h).1
    rw [hhead] at hc
    refine not_mem_of_isName hname (c := '/') rfl ?_
    rw [hc]
    exact List.mem_cons_self
  rw [tag.eq_def]
  split
  · next cs h => exact absurd h (hslash cs)
  · rw [hbefore, hafter, readAttrs_attrHtml hattrs, String.ofList_toList]

private theorem tag_closing (name : String) (r : Reading) :
    r.tag ('/' :: name.toList) = some ⟨[], (name, r.row) :: r.closed⟩ := by
  rw [tag, String.ofList_toList]

private theorem text_escape (s : String) (cs : List Char) (r : Reading) :
    r.text (escape s ++ cs) = (r.text cs).mapRow (addText s) := by
  have hstring : String.ofList (s.toList ++ unescape cs) = s ++ String.ofList (unescape cs) := by
    rw [String.ofList_append, String.ofList_toList]
  simp [text, mapRow, hstring]

@[simp] private theorem text_nil (r : Reading) : r.text [] = r := by
  simp [text, mapRow, unescape]

private theorem piece_append {body : List Char} (hbody : '>' ∉ body) (cs : List Char)
    (r : Reading) :
    r.piece (body ++ '>' :: cs) = (r.text cs).tag body := by
  rw [piece, Text.after?_append_cons hbody, Text.before_append_cons hbody, Option.bind_some]

end Reading

private theorem exists_pieces (cs : List Char) : ∃ first rest, Text.pieces '<' cs = first :: rest :=
  List.exists_cons_of_ne_nil (Text.pieces_ne_nil '<' cs)

private theorem readHtml_escape (s : String) (cs : List Char) :
    readHtml (escape s ++ cs) = (readHtml cs).map (·.mapRow (addText s)) := by
  obtain ⟨first, rest, hcs⟩ := exists_pieces cs
  have hpieces : Text.pieces '<' (escape s ++ cs) = (escape s ++ first) :: rest := by
    rw [Text.pieces_append (not_mem_escape rfl s), hcs, List.modifyHead_cons]
  rw [readHtml, readHtml, hpieces, hcs]
  simp only [Option.map_map]
  congr 1
  funext r
  exact r.text_escape s first

private theorem readHtml_tag {body : List Char} (hless : '<' ∉ body) (hgreater : '>' ∉ body)
    (cs : List Char) : readHtml ('<' :: body ++ '>' :: cs) = (readHtml cs).bind (·.tag body) := by
  obtain ⟨first, rest, hcs⟩ := exists_pieces cs
  have hfront : '<' ∉ body ++ ['>'] := by simp [hless]
  have hpieces : Text.pieces '<' ('<' :: body ++ '>' :: cs) =
      [] :: (body ++ '>' :: first) :: rest := by
    have hsplit : '<' :: body ++ '>' :: cs = [] ++ '<' :: ((body ++ ['>']) ++ cs) := by simp
    rw [hsplit, Text.pieces_append_cons (by simp), Text.pieces_append hfront, hcs]
    simp
  have htags : readTags ((body ++ '>' :: first) :: rest) =
      (readTags rest).bind fun r => (r.text first).tag body := by
    rw [readTags, List.foldr_cons]
    simp only [Reading.piece_append hgreater]
    rfl
  have htext : (fun r : Reading => r.text []) = id := by
    funext r
    simp
  rw [readHtml, readHtml, hpieces, hcs]
  dsimp only
  rw [htags, htext, Option.map_id, Option.bind_map]
  rfl

private theorem readHtml_openTag {name : String} {attrs : List (String × String)}
    (hname : IsName name)
    (hattrs : ∀ attr ∈ attrs, IsName attr.1) (cs : List Char) :
    readHtml (openTag name attrs ++ cs) = (readHtml cs).bind (·.opening name attrs) := by
  have hless := not_mem_openBody hname hattrs (Or.inl rfl)
  have hgreater := not_mem_openBody hname hattrs (Or.inr rfl)
  have htag : openTag name attrs ++ cs = '<' :: openBody name attrs ++ '>' :: cs := by
    simp [openTag, openBody]
  rw [htag, readHtml_tag hless hgreater]
  simp only [Reading.tag_openBody hname hattrs]

private theorem readHtml_closeTag {name : String} (hname : IsName name) (cs : List Char) :
    readHtml (closeTag name ++ cs) =
      (readHtml cs).map fun r => ⟨[], (name, r.row) :: r.closed⟩ := by
  have hless : '<' ∉ '/' :: name.toList := by
    simp [not_mem_of_isName hname (c := '<') rfl]
  have hgreater : '>' ∉ '/' :: name.toList := by
    simp [not_mem_of_isName hname (c := '>') rfl]
  have htag : closeTag name ++ cs = '<' :: ('/' :: name.toList) ++ '>' :: cs := by
    simp [closeTag]
  rw [htag, readHtml_tag hless hgreater]
  simp only [Reading.tag_closing, Option.map_eq_bind]
  rfl

mutual

/-- Reading the HTML of a node in front of other HTML puts its normal form in front of the row. -/
theorem Node.readHtml_html {n : Node} (h : n.WellNamed) (cs : List Char) :
    readHtml (n.html ++ cs) = (readHtml cs).map (·.mapRow n.normalOnto) := by
  cases n with
  | text s => exact readHtml_escape s cs
  | fragment nodes => exact readHtml_htmlAll h cs
  | element tag attrs children =>
    obtain ⟨htag, hattrs, hchildren⟩ := h
    rw [Node.html, List.append_assoc, readHtml_openTag htag hattrs]
    cases hvoid : isVoid tag with
    | true =>
      cases hcs : readHtml cs with
      | none => simp [hcs]
      | some r => simp [hcs, Reading.opening, hvoid, Reading.mapRow, Node.normalOnto]
    | false =>
      -- the closing tag sets the row aside, the children fill a new one, the opening tag returns
      cases hcs : readHtml cs with
      | none => simp [readHtml_htmlAll hchildren, readHtml_closeTag htag, hcs]
      | some r =>
        simp [readHtml_htmlAll hchildren, readHtml_closeTag htag, hcs, Reading.opening, hvoid,
          Reading.mapRow, Node.normalOnto]

theorem readHtml_htmlAll {nodes : List Node} (h : WellNamedAll nodes) (cs : List Char) :
    readHtml (htmlAll nodes ++ cs) = (readHtml cs).map (·.mapRow (normalAllOnto nodes)) := by
  cases nodes with
  | nil =>
    have hid : (fun r : Reading => r.mapRow (normalAllOnto [])) = id := rfl
    rw [hid, Option.map_id]
    rfl
  | cons n nodes =>
    obtain ⟨hn, hnodes⟩ := h
    rw [htmlAll, List.append_assoc, Node.readHtml_html hn, readHtml_htmlAll hnodes, Option.map_map]
    rfl

end

private theorem parse_htmlAll {nodes : List Node} (h : WellNamedAll nodes) :
    parse (String.ofList (htmlAll nodes)) = some (normalAllOnto nodes []) := by
  have hread := readHtml_htmlAll h []
  rw [List.append_nil] at hread
  rw [parse, String.toList_ofList, hread]
  rfl

theorem Node.parse_toHtml {n : Node} (h : n.WellNamed) : parse n.toHtml = some n.normalize := by
  have hrow : WellNamedAll [n] := ⟨h, trivial⟩
  have hparse := parse_htmlAll hrow
  rw [htmlAll, htmlAll, List.append_nil] at hparse
  exact hparse

private theorem Node.htmlAll_normalize (n : Node) : htmlAll n.normalize = n.html := by
  rw [Node.normalize, Node.htmlAll_normalOnto, htmlAll, List.append_nil]

end Pressroom.Markup

namespace Pressroom.Page

open Pressroom.Markup (Node WellNamedAll el)

@[simp] private theorem wellNamed_labelled {tag : String} {attrs : List (String × String)}
    {label : String} :
    (labelled tag attrs label).WellNamed ↔
      Markup.IsName tag ∧ ∀ attr ∈ attrs, Markup.IsName attr.1 := by
  simp [labelled]

private theorem wellNamed_listItem (t : Content.PostType) (p : Content.Post) :
    (listItem t p).WellNamed := by
  have htitle : (itemTitle p).WellNamed := by
    unfold itemTitle
    split <;> simp +decide
  have hplace : (itemPlace t p).WellNamed := by
    unfold itemPlace
    split
    · exact trivial
    · simp +decide
  simp +decide [listItem, itemStatus, htitle, hplace]

theorem Data.wellNamed_content (data : Data) : data.content.WellNamed := by
  cases data with
  | home => simp +decide [content, homeContent]
  | catalog types => simp +decide [content, catalogContent, typeLink]
  | listing l => simp +decide [content, listingContent, wellNamed_listItem]
  | createForm f => simp +decide [content, createContent, errorList, errorItem]
  | detail p => simp +decide [content, detailContent]

theorem Shell.wellNamed_statusContent (status : Nat) (message : String) :
    (statusContent status message).WellNamed := by
  simp +decide [statusContent]

theorem Shell.wellNamed_wrap (s : Shell) {content : Node} (h : content.WellNamed) :
    (s.wrap content).WellNamed := by
  simp +decide [wrap, navigation, h]

end Pressroom.Page

namespace Pressroom.Markup

open Pressroom.Page (Data Shell)

/-- The HTML of a tree with proper names says exactly what its normal form is, and every tree that
pages are made of has proper names. -/
theorem html_determines_normal_form :
    (∀ n : Node, n.WellNamed → parse n.toHtml = some n.normalize ∧ NormalAll n.normalize) ∧
    (∀ n m : Node, n.WellNamed → m.WellNamed →
      (n.toHtml = m.toHtml ↔ n.normalize = m.normalize)) ∧
    (∀ row : List Node, WellNamedAll row → NormalAll row →
      parse (String.ofList (htmlAll row)) = some row) ∧
    (∀ (s : Shell) (data : Data), (s.wrap data.content).WellNamed) ∧
    ∀ (s : Shell) (status : Nat) (message : String),
      (s.wrap (Shell.statusContent status message)).WellNamed := by
  refine ⟨?_, ?_, ?_, ?_, ?_⟩
  · intro n hn
    have hempty : NormalAll [] := trivial
    exact ⟨Node.parse_toHtml hn, Node.normalAll_normalOnto n hempty⟩
  · intro n m hn hm
    constructor
    · intro heq
      have hparse := Node.parse_toHtml hn
      rw [heq, Node.parse_toHtml hm] at hparse
      exact (Option.some.inj hparse).symm
    · intro heq
      rw [Node.toHtml, Node.toHtml, ← Node.htmlAll_normalize n, ← Node.htmlAll_normalize m, heq]
  · intro row hnames hnormal
    rw [parse_htmlAll hnames, normalAllOnto_eq_self hnormal]
  · intro s data
    exact s.wellNamed_wrap data.wellNamed_content
  · intro s status message
    exact s.wellNamed_wrap (Shell.wellNamed_statusContent status message)

/-- A tree with a text that looks like markup, texts to be merged and dropped, and a void element
with a child. -/
def twisted : Node :=
  .fragment [.text "a", .text "", .fragment [.text "&lt;"],
    .element "br" [] [.text "lost"],
    .element "p" [("title", "x\" y=\"1"), ("data-id", "</p>")] [.text "&amp;lt;"]]

theorem html_determines_normal_form_twisted :
    twisted.WellNamed ∧
      parse twisted.toHtml = some [.text "a&lt;", .element "br" [] [],
        .element "p" [("title", "x\" y=\"1"), ("data-id", "</p>")] [.text "&amp;lt;"]] := by
  have hnames : twisted.WellNamed := by
    simp +decide [twisted]
  refine ⟨hnames, (html_determines_normal_form.1 twisted hnames).1.trans ?_⟩
  rfl

end Pressroom.Markup
