import Pressroom.Slug.Block

/-!
Plain spellings of the scripts of the Caucasus and the Near East.
-/

set_option autoImplicit false
set_option relaxedAutoImplicit false

namespace Pressroom.Slug

/-- Armenian and Hebrew. Vowels are spelled where they are written. -/
def armenian : Block where
  first := 0x500
  rows := #[
    "¿", "¿", "¿",
    "¿·A·B·G·D·E·Z·E·E·T`·Zh·I·L·Kh·Ts·K",
    "H·Dz·Gh·Ch·M·Y·N·Sh·O·Ch`·P·J·Rh·S·V·T",
    "R·Ts`·W·P`·K`·O·F·¿·¿·<·'·/·!·,·?·.",
    "¿·a·b·g·d·e·z·e·e·t`·zh·i·l·kh·ts·k",
    "h·dz·gh·ch·m·y·n·sh·o·ch`·p·j·rh·s·v·t",
    "r·ts`·w·p`·k`·o·f·ew·¿·.·-·¿·¿·¿·¿·¿",
    "¿···············", "··¿·············",
    "@·e·a·o·i·e·e·a·a·o·¿·u·'···",
    "|···:··¿·¿·¿·¿·¿·¿·¿·¿·¿·¿·¿",
    "·b·g·d·h·v·z·kh·t·y·k·k·l·m·m·n",
    "n·s·`·p·p·ts·ts·q·r·sh·t·¿·¿·¿·¿·¿",
    "V·oy·i·'·\"·¿·¿·¿·¿·¿·¿·¿·¿·¿·¿·¿"]

/-- Arabic, with the letters of other languages that use the script. -/
def arabic : Block where
  first := 0x600
  rows := #[
    "¿·¿·¿·¿·¿·¿·¿·¿·¿·¿·¿·¿·,·¿·¿·¿",
    "¿·¿·¿·¿·¿·¿·¿·¿·¿·¿·¿·;·¿·¿·¿·?",
    "¿··a·'·w'··y'··b·@·t·th·j·H·kh·d",
    "dh·r·z·s·sh·S·D·T·Z·`·G·¿·¿·¿·¿·¿",
    "·f·q·k·l·m·n·h·w·~·y·an·un·in·a·u",
    "i·W···'·'·¿·¿·¿·¿·¿·¿·¿·¿·¿·¿",
    "0·1·2·3·4·5·6·7·8·9·%·.·,·*·¿·¿",
    "·'·'·'··'·'w·'u·'y·tt·tth·b·t·T·p·th",
    "bh·'h·H·ny·dy·H·ch·cch·dd·D·D·Dt·dh·ddh·d·D",
    "D·rr·R·R·R·R·R·R·j·R·S·S·S·S·S·T",
    "GH·F·F·F·v·f·ph·Q·Q·kh·k·K·K·ng·K·g",
    "G·N·G·G·G·L·L·L·L·N·N·N·N·N·h·Ch",
    "hy·h·H·@·W·oe·oe·u·yu·yu·W·v·y·Y·Y·W",
    "··y·y'·.·ae········@·#·",
    "·········^·····¿·¿",
    "0·1·2·3·4·5·6·7·8·9·Sh·D·Gh·&·+m·¿"]

/-- Syriac and Thaana. -/
def syriac : Block where
  first := 0x700
  rows := #[
    "//·/·,·!·!·-·,·,·;·?·~·\x7b·\x7d·*·¿·",
    "'··b·g·g·d·d·h·w·z·H·t·t·y·yh·k",
    "l·m·n·s·s·`·p·p·S·q·r·sh·t·¿·¿·¿",
    "a·a·a·A·A·A·e·e·e·E·i·i·u·u·u·o",
    "·`·'···X·Q·@·@·|·+·¿·¿·¿·¿·¿",
    "¿", "¿", "¿",
    "h·sh·n·r·b·L·k·'·v·m·f·dh·th·l·g·ny",
    "s·d·z·t·y·p·j·ch·tt·hh·kh·th·z·sh·s·d",
    "t·z·`·gh·q·w·a·aa·i·ee·u·oo·e·ey·o·oa",
    "·¿·¿·¿·¿·¿·¿·¿·¿·¿·¿·¿·¿·¿·¿·¿",
    "¿", "¿", "¿", "¿"]

end Pressroom.Slug
