import Pressroom.Slug.Block

/-!
Plain spellings of scripts from the Caucasus to the Mekong and to Mongolia.
-/

set_option autoImplicit false
set_option relaxedAutoImplicit false

namespace Pressroom.Slug

/-- Thai and Lao, letter by letter in the order in which they are written. -/
def thai : Block where
  first := 0xE00
  rows := #[
    "¿·k·kh·kh·kh·kh·kh·ng·cch·ch·ch·ch·ch·y·d·t",
    "th·th·th·n·d·t·th·th·th·n·b·p·ph·f·ph·f",
    "ph·m·y·r·R·l·L·w·s·s·s·h·l·`·h·~",
    "a·a·aa·am·i·ii·ue·uue·u·uu·'·¿·¿·¿·¿·Bh.",
    "e·ae·o·ai·ai·ao·+·······M·· * ",
    "0·1·2·3·4·5·6·7·8·9· // · /// ·¿·¿·¿·¿",
    "¿", "¿",
    "¿·k·kh·¿·kh·¿·¿·ng·ch·¿·s·¿·¿·ny·¿·¿",
    "¿·¿·¿·¿·d·h·th·th·¿·n·b·p·ph·f·ph·f",
    "¿·m·y·r·¿·l·¿·w·¿·¿·s·h·¿·`··~",
    "a··aa·am·i·ii·y·yy·u·uu·¿·o·l·ny·¿·¿",
    "e·ei·o·ay·ai·¿·+·¿······M·¿·¿",
    "0·1·2·3·4·5·6·7·8·9·¿·¿·hn·hm·¿·¿",
    "¿", "¿"]

def tibetan : Block where
  first := 0xF00
  rows := #[
    "AUM········ // · * ··-· / · / · // · -/ ",
    " +/ · X/ · /XX/ · /X/ ·, ···········",
    "0·1·2·3·4·5·6·7·8·9·.5·1.5·2.5·3.5·4.5·5.5",
    "6.5·7.5·8.5·-.5·+·*·^·_··~·[[·]]····",
    "k·kh·g·gh·ng·c·ch·j·¿·ny·tt·tth·dd·ddh·nn·t",
    "th·d·dh·n·p·ph·b·bh·m·ts·tsh·dz·dzh·w·zh·z",
    "'·y·r·l·sh·ssh·s·h·a·kss·r·¿·¿·¿·¿·¿",
    "¿·aa·i·ii·u·uu·R·RR·L·LL·e·ee·o·oo·M·H",
    "i·ii···········¿·¿·¿·¿",
    "k·kh·g·gh·ng·c·ch·j·¿·ny·tt·tth·dd·ddh·nn·t",
    "th·d·dh·n·p·ph·b·bh·m·ts·tsh·dz·dzh·w·zh·z",
    "'·y·r·l·sh·ss·s·h·a·kss·w·y·r·¿·X· :X: ",
    " /O/ · /o/ · \\o\\ · (O) ··········¿·¿·",
    "¿", "¿", "¿"]

/-- Burmese and Georgian. -/
def burmese : Block where
  first := 0x1000
  rows := #[
    "k·kh·g·gh·ng·c·ch·j·jh·ny·nny·tt·tth·dd·ddh·nn",
    "tt·th·d·dh·n·p·ph·b·bh·m·y·r·l·w·s·h",
    "ll·a·¿·i·ii·u·uu·e·¿·o·au·¿·aa·i·ii·u",
    "uu·e·ai·¿·¿·¿·N·'·:··¿·¿·¿·¿·¿·¿",
    "0·1·2·3·4·5·6·7·8·9· / · // ·n*·r*·l*·e*",
    "sh·ss·R·RR·L·LL·R·RR·L·LL·¿·¿·¿·¿·¿·¿",
    "¿", "¿", "¿", "¿",
    "A·B·G·D·E·V·Z·T`·I·K·L·M·N·O·P·Zh",
    "R·S·T·U·P`·K`·G'·Q·Sh·Ch`·C`·Z'·C·Ch·X·J",
    "H·E·Y·W·Xh·OE·¿·¿·¿·¿·¿·¿·¿·¿·¿·¿",
    "a·b·g·d·e·v·z·t`·i·k·l·m·n·o·p·zh",
    "r·s·t·u·p`·k`·g'·q·sh·ch`·c`·z'·c·ch·x·j",
    "h·e·y·w·xh·oe·f·¿·¿·¿·¿· // ·¿·¿·¿·¿"]

def khmer : Block where
  first := 0x1700
  rows := #[
    "¿", "¿", "¿", "¿", "¿", "¿", "¿", "¿",
    "k·kh·g·gh·ng·c·ch·j·jh·ny·t·tth·d·ddh·nn·t",
    "th·d·dh·n·p·ph·b·bh·m·y·r·l·v·sh·ss·s",
    "h·l·q·a·aa·i·ii·u·uk·uu·uuv·ry·ryy·ly·lyy·e",
    "ai·oo·oo·au·a·aa·aa·i·ii·y·yy·u·uu·ua·oe·ya",
    "ie·e·ae·ai·oo·au·M·H·a`····r··!·",
    "····.· // ·:·+·++· * · /// ·KR·'·¿·¿·¿",
    "0·1·2·3·4·5·6·7·8·9·¿·¿·¿·¿·¿·¿",
    "¿"]

def mongolian : Block where
  first := 0x1800
  rows := #[
    " @ · ... ·,·. ·: · // ··-·,·. ······¿",
    "0·1·2·3·4·5·6·7·8·9·¿·¿·¿·¿·¿·¿",
    "a·e·i·o·u·O·U·ee·n·ng·b·p·q·g·m·l",
    "s·sh·t·d·ch·j·y·r·w·f·k·kha·ts·z·h·zr",
    "lh·zh·ch·-·e·i·o·u·O·U·ng·b·p·q·g·m",
    "t·d·ch·j·ts·y·w·k·g·h·jy·ny·dz·e·i·iy",
    "U·u·ng·k·g·h·p·sh·t·d·j·f·g·h·ts·z",
    "r·ch·zh·i·k·r·f·zh·¿·¿·¿·¿·¿·¿·¿·¿",
    "H·X·W·M· 3 · 333 ·a·i·k·ng·c·tt·tth·dd·nn·t",
    "d·p·ph·ss·zh·z·a·t·zh·gh·ng·c·jh·tta·ddh·t",
    "dh·ss·cy·zh·z·u·y·bh·'·¿·¿·¿·¿·¿·¿·¿",
    "¿", "¿", "¿", "¿", "¿"]

end Pressroom.Slug
