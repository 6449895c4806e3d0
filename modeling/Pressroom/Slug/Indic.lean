import Pressroom.Slug.Block

/-!
Plain spellings of the scripts of India. Consonants are spelled without the vowel that is understood
after them.
-/

set_option autoImplicit false
set_option relaxedAutoImplicit false

namespace Pressroom.Slug

/-- Devanagari and Bengali. -/
def devanagari : Block where
  first := 0x900
  rows := #[
    "¿·N·N·H·¿·a·aa·i·ii·u·uu·R·L·eN·e·e",
    "ai·oN·o·o·au·k·kh·g·gh·ng·c·ch·j·jh·ny·tt",
    "tth·dd·ddh·nn·t·th·d·dh·n·nnn·p·ph·b·bh·m·y",
    "r·rr·l·l·lll·v·sh·ss·s·h·¿·¿·'·'·aa·i",
    "ii·u·uu·R·RR·eN·e·e·ai·oN·o·o·au··¿·¿",
    "AUM·'·'·`·'·¿·¿·¿·q·khh·ghh·z·dddh·rh·f·yy",
    "RR·LL·L·LL· / · // ·0·1·2·3·4·5·6·7·8·9",
    ".·¿·¿·¿·¿·¿·¿·¿·¿·¿·¿·¿·¿·¿·¿·¿",
    "¿·N·N·H·¿·a·aa·i·ii·u·uu·R·RR·¿·¿·e",
    "ai·¿·¿·o·au·k·kh·g·gh·ng·c·ch·j·jh·ny·tt",
    "tth·dd·ddh·nn·t·th·d·dh·n·¿·p·ph·b·bh·m·y",
    "r·¿·l·¿·¿·¿·sh·ss·s·h·¿·¿·'·¿·aa·i",
    "ii·u·uu·R·RR·¿·¿·e·ai·¿·¿·o·au··¿·¿",
    "¿·¿·¿·¿·¿·¿·¿·+·¿·¿·¿·¿·rr·rh·¿·yy",
    "RR·LL·L·LL·¿·¿·0·1·2·3·4·5·6·7·8·9",
    "r'·r`·Rs·Rs·1/·2/·3/·4/· 1 - 1/·/16··¿·¿·¿·¿·¿"]

/-- Gurmukhi and Gujarati. -/
def gurmukhi : Block where
  first := 0xA00
  rows := #[
    "¿·¿·N·¿·¿·a·aa·i·ii·u·uu·¿·¿·¿·¿·ee",
    "ai·¿·¿·oo·au·k·kh·g·gh·ng·c·ch·j·jh·ny·tt",
    "tth·dd·ddh·nn·t·th·d·dh·n·¿·p·ph·b·bb·m·y",
    "r·¿·l·ll·¿·v·sh·¿·s·h·¿·¿·'·¿·aa·i",
    "ii·u·uu·¿·¿·¿·¿·ee·ai·¿·¿·oo·au··¿·¿",
    "¿·¿·¿·¿·¿·¿·¿·¿·¿·khh·ghh·z·rr·¿·f·¿",
    "¿·¿·¿·¿·¿·¿·0·1·2·3·4·5·6·7·8·9",
    "N·H···G.E.O.·¿·¿·¿·¿·¿·¿·¿·¿·¿·¿·¿",
    "¿·N·N·H·¿·a·aa·i·ii·u·uu·R·¿·eN·¿·e",
    "ai·oN·¿·o·au·k·kh·g·gh·ng·c·ch·j·jh·ny·tt",
    "tth·dd·ddh·nn·t·th·d·dh·n·¿·p·ph·b·bh·m·ya",
    "r·¿·l·ll·¿·v·sh·ss·s·h·¿·¿·'·'·aa·i",
    "ii·u·uu·R·RR·eN·¿·e·ai·oN·¿·o·au··¿·¿",
    "AUM·¿·¿·¿·¿·¿·¿·¿·¿·¿·¿·¿·¿·¿·¿·¿",
    "RR·¿·¿·¿·¿·¿·0·1·2·3·4·5·6·7·8·9",
    "¿"]

/-- Oriya and Tamil. -/
def oriya : Block where
  first := 0xB00
  rows := #[
    "¿·N·N·H·¿·a·aa·i·ii·u·uu·R·L·¿·¿·e",
    "ai·¿·¿·o·au·k·kh·g·gh·ng·c·ch·j·jh·ny·tt",
    "tth·dd·ddh·nn·t·th·d·dh·n·¿·p·ph·b·bh·m·y",
    "r·¿·l·ll·¿·¿·sh·ss·s·h·¿·¿·'·'·aa·i",
    "ii·u·uu·R·¿·¿·¿·e·ai·¿·¿·o·au··¿·¿",
    "¿·¿·¿·¿·¿·¿·+·+·¿·¿·¿·¿·rr·rh·¿·yy",
    "RR·LL·¿·¿·¿·¿·0·1·2·3·4·5·6·7·8·9",
    "·¿·¿·¿·¿·¿·¿·¿·¿·¿·¿·¿·¿·¿·¿·¿",
    "¿·¿·N·H·¿·a·aa·i·ii·u·uu·¿·¿·¿·e·ee",
    "ai·¿·o·oo·au·k·¿·¿·¿·ng·c·¿·j·¿·ny·tt",
    "¿·¿·¿·nn·t·¿·¿·¿·n·nnn·p·¿·¿·¿·m·y",
    "r·rr·l·ll·lll·v·¿·ss·s·h·¿·¿·¿·¿·aa·i",
    "ii·u·uu·¿·¿·¿·e·ee·ai·¿·o·oo·au··¿·¿",
    "¿·¿·¿·¿·¿·¿·¿·+·¿·¿·¿·¿·¿·¿·¿·¿",
    "¿·¿·¿·¿·¿·¿·¿·1·2·3·4·5·6·7·8·9",
    "+10+·+100+·+1000+·¿·¿·¿·¿·¿·¿·¿·¿·¿·¿·¿·¿·¿"]

/-- Telugu and Kannada. -/
def telugu : Block where
  first := 0xC00
  rows := #[
    "¿·N·N·H·¿·a·aa·i·ii·u·uu·R·L·¿·e·ee",
    "ai·¿·o·oo·au·k·kh·g·gh·ng·c·ch·j·jh·ny·tt",
    "tth·dd·ddh·nn·t·th·d·dh·n·¿·p·ph·b·bh·m·y",
    "r·rr·l·ll·¿·v·sh·ss·s·h·¿·¿·¿·¿·aa·i",
    "ii·u·uu·R·RR·¿·e·ee·ai·¿·o·oo·au··¿·¿",
    "¿·¿·¿·¿·¿·+·+·¿·¿·¿·¿·¿·¿·¿·¿·¿",
    "RR·LL·¿·¿·¿·¿·0·1·2·3·4·5·6·7·8·9",
    "¿",
    "¿·¿·N·H·¿·a·aa·i·ii·u·uu·R·L·¿·e·ee",
    "ai·¿·o·oo·au·k·kh·g·gh·ng·c·ch·j·jh·ny·tt",
    "tth·dd·ddh·nn·t·th·d·dh·n·¿·p·ph·b·bh·m·y",
    "r·rr·l·ll·¿·v·sh·ss·s·h·¿·¿·¿·¿·aa·i",
    "ii·u·uu·R·RR·¿·e·ee·ai·¿·o·oo·au··¿·¿",
    "¿·¿·¿·¿·¿·+·+·¿·¿·¿·¿·¿·¿·¿·lll·¿",
    "RR·LL·¿·¿·¿·¿·0·1·2·3·4·5·6·7·8·9",
    "¿"]

/-- Malayalam and Sinhala. -/
def malayalam : Block where
  first := 0xD00
  rows := #[
    "¿·¿·N·H·¿·a·aa·i·ii·u·uu·R·L·¿·e·ee",
    "ai·¿·o·oo·au·k·kh·g·gh·ng·c·ch·j·jh·ny·tt",
    "tth·dd·ddh·nn·t·th·d·dh·n·¿·p·ph·b·bh·m·y",
    "r·rr·l·ll·lll·v·sh·ss·s·h·¿·¿·¿·¿·aa·i",
    "ii·u·uu·R·¿·¿·e·ee·ai··o·oo·au··¿·¿",
    "¿·¿·¿·¿·¿·¿·¿·+·¿·¿·¿·¿·¿·¿·¿·¿",
    "RR·LL·¿·¿·¿·¿·0·1·2·3·4·5·6·7·8·9",
    "¿",
    "¿·¿·N·H·¿·a·aa·ae·aae·i·ii·u·uu·R·RR·L",
    "LL·e·ee·ai·o·oo·au·¿·¿·¿·k·kh·g·gh·ng·nng",
    "c·ch·j·jh·ny·jny·nyj·tt·tth·dd·ddh·nn·nndd·t·th·d",
    "dh·n·¿·nd·p·ph·b·bh·m·mb·y·r·¿·l·¿·¿",
    "v·sh·ss·s·h·ll·f·¿·¿·¿··¿·¿·¿·¿·aa",
    "ae·aae·i·ii·u·¿·uu·¿·R·e·ee·ai·o·oo·au·L",
    "¿",
    "¿·¿·RR·LL· . ·¿·¿·¿·¿·¿·¿·¿·¿·¿·¿·¿"]

end Pressroom.Slug
