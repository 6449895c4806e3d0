import Pressroom.Slug.Block

/-!
Plain spellings of the alphabets of Europe: Latin, Greek and Cyrillic.
-/

set_option autoImplicit false
set_option relaxedAutoImplicit false

namespace Pressroom.Slug

/-- Latin, Greek and Cyrillic, with the signs beside them. -/
def latin : Block where
  first := 0x80
  rows := #[
    "EUR··,·f·,,·...·+·++·^·%0·S·<·OE··Z·",
    "·'·'·\"·\"·*·-·--·~·tm·s·>·oe··z·Y",
    " ·!·C/·PS·$?·Y=·|·SS·\"·(c)·a·<<·!··(r)·-",
    "deg·+-·2·3·'·u·P·*·,·1·o·>>·1/4·1/2·3/4·?",
    "A·A·A·A·A·A·AE·C·E·E·E·E·I·I·I·I",
    "D·N·O·O·O·O·O·x·O·U·U·U·U·Y·Th·ss",
    "a·a·a·a·a·a·ae·c·e·e·e·e·i·i·i·i",
    "d·n·o·o·o·o·o·/·o·u·u·u·u·y·th·y",
    "A·a·A·a·A·a·C·c·C·c·C·c·C·c·D·d",
    "D·d·E·e·E·e·E·e·E·e·E·e·G·g·G·g",
    "G·g·G·g·H·h·H·h·I·i·I·i·I·i·I·i",
    "I·i·IJ·ij·J·j·K·k·k·L·l·L·l·L·l·L",
    "l·L·l·N·n·N·n·N·n·'n·ng·NG·O·o·O·o",
    "O·o·OE·oe·R·r·R·r·R·r·S·s·S·s·S·s",
    "S·s·T·t·T·t·T·t·U·u·U·u·U·u·U·u",
    "U·u·U·u·W·w·Y·y·Y·Z·z·Z·z·Z·z·s",
    "b·B·B·b·6·6·O·C·c·D·D·D·d·d·3·@",
    "E·F·f·G·G·hv·I·I·K·k·l·l·W·N·n·O",
    "O·o·OI·oi·P·p·YR·2·2·SH·sh·t·T·t·T·U",
    "u·Y·V·Y·y·Z·z·ZH·ZH·zh·zh·2·5·5·ts·w",
    "|·||·|=·!·DZ·Dz·dz·LJ·Lj·lj·NJ·Nj·nj·A·a·I",
    "i·O·o·U·u·U·u·U·u·U·u·U·u·@·A·a",
    "A·a·AE·ae·G·g·G·g·K·k·O·o·O·o·ZH·zh",
    "j·DZ·Dz·dz·G·g·HV·W·N·n·A·a·AE·ae·O·o",
    "A·a·A·a·E·e·E·e·I·i·I·i·O·o·O·o",
    "R·r·R·r·U·u·U·u·S·s·T·t·Y·y·H·h",
    "N·d·OU·ou·Z·z·A·a·E·e·O·o·O·o·O·o",
    "O·o·Y·y·l·n·t·j·db·qp·A·C·c·L·T·s",
    "z·¿·¿·B·U·^·E·e·J·j·q·q·R·r·Y·y",
    "a·a·a·b·o·c·d·d·e·@·@·e·e·e·e·j",
    "g·g·g·g·u·Y·h·h·i·i·I·l·l·l·lZ·W",
    "W·m·n·n·n·o·OE·O·F·r·r·r·r·r·r·r",
    "R·R·s·S·j·S·S·t·t·u·U·v·^·w·y·Y",
    "z·z·Z·Z·?·?·?·C·@·B·E·G·H·j·k·L",
    "q·?·?·dz·dZ·dz·ts·tS·tC·fN·ls·lz·WW·]]·h·h",
    "h·h·j·r·r·r·r·w·y·'·\"·`·'·`·`·'",
    "?·?·<·>·^·V·^·V·'·-·/·\\·,·_·\\·/",
    ":·.·`·'·^·V·+·-·V·.·@·,·~·\"·R·X",
    "G·l·s·x·?·5·4·3·2·1·/·\\·V·=·\"·V",
    "^·<·>·o·`·``·//·~·:·[-·-]·[_·_]·_·_·<",
    "", "", "", "", "···············¿", "¿",
    "···a·e·i·o·u·c·d·h·m·r·t·v·x",
    "¿·¿·¿·¿·'·,·¿·¿·¿·¿··¿·¿·¿·?·¿",
    "¿·¿·¿·¿···A·;·E·E·I·¿·O·¿·U·O",
    "I·A·B·G·D·E·Z·E·Th·I·K·L·M·N·Ks·O",
    "P·R·¿·S·T·U·Ph·Kh·Ps·O·I·U·a·e·e·i",
    "u·a·b·g·d·e·z·e·th·i·k·l·m·n·x·o",
    "p·r·s·s·t·u·ph·kh·ps·o·i·u·o·u·o·¿",
    "b·th·U·U·U·ph·p·&·¿·¿·St·st·W·w·Q·q",
    "Sp·sp·Sh·sh·F·f·Kh·kh·H·h·G·g·CH·ch·Ti·ti",
    "k·r·c·j·TH·e·e·Sh·sh·s·¿·¿·r/·S·S.·S.",
    "Ie·Io·Dj·Gj·E·Dz·I·Yi·J·Lj·Nj·Tsh·Kj·I·U·Dzh",
    "A·B·V·G·D·E·Zh·Z·I·I·K·L·M·N·O·P",
    "R·S·T·U·F·Kh·Ts·Ch·Sh·Shch··Y·'·E·Iu·Ia",
    "a·b·v·g·d·e·zh·z·i·i·k·l·m·n·o·p",
    "r·s·t·u·f·kh·ts·ch·sh·shch··y·'·e·iu·ia",
    "ie·io·dj·gj·ie·dz·i·yi·j·lj·nj·tsh·kj·i·u·dzh",
    "O·o·E·e·Ie·ie·E·e·Ie·ie·O·o·Io·io·Ks·ks",
    "Ps·ps·F·f·Y·y·Y·y·u·u·O·o·O·o·Ot·ot",
    "Q·q·*1000*·····¿·*100.000*·*1.000.000*·¿·¿·\"·\"·R'·r'",
    "G'·g'·G'·g'·G'·g'·Zh'·zh'·Z'·z'·K'·k'·K'·k'·K'·k'",
    "K'·k'·N'·n'·Ng·ng·P'·p'·Kh·kh·S'·s'·T'·t'·U·u",
    "U'·u'·Kh'·kh'·Tts·tts·Ch'·ch'·Ch'·ch'·H·h·Ch·ch·Ch'·ch'",
    "`·Zh·zh·K'·k'·¿·¿·N'·n'·¿·¿·Ch·ch·¿·¿·¿",
    "a·a·A·a·Ae·ae·Ie·ie·@·@·@·@·Zh·zh·Z·z",
    "Dz·dz·I·i·I·i·O·o·O·o·O·o·E·e·U·u",
    "U·u·U·u·Ch·ch·¿·¿·Y·y·¿·¿·¿·¿·¿·¿"]

def phonetic : Block where
  first := 0x1D60
  rows := #[
    "············b·d·f·m",
    "n·p·r·r·s·t·z·g······p··",
    "b·d·f·g·k·l·m·n·p·r·s··v·x·z·"]

/-- Latin letters with further accents, and Greek letters with breathings. -/
def accented : Block where
  first := 0x1E00
  rows := #[
    "A·a·B·b·B·b·B·b·C·c·D·d·D·d·D·d",
    "D·d·D·d·E·e·E·e·E·e·E·e·E·e·F·f",
    "G·g·H·h·H·h·H·h·H·h·H·h·I·i·I·i",
    "K·k·K·k·K·k·L·l·L·l·L·l·L·l·M·m",
    "M·m·M·m·N·n·N·n·N·n·N·n·O·o·O·o",
    "O·o·O·o·P·p·P·p·R·r·R·r·R·r·R·r",
    "S·s·S·s·S·s·S·s·S·s·T·t·T·t·T·t",
    "T·t·U·u·U·u·U·u·U·u·U·u·V·v·V·v",
    "W·w·W·w·W·w·W·w·W·w·X·x·X·x·Y·y",
    "Z·z·Z·z·Z·z·h·t·w·y·a·S·¿·¿·Ss·¿",
    "A·a·A·a·A·a·A·a·A·a·A·a·A·a·A·a",
    "A·a·A·a·A·a·A·a·E·e·E·e·E·e·E·e",
    "E·e·E·e·E·e·E·e·I·i·I·i·O·o·O·o",
    "O·o·O·o·O·o·O·o·O·o·O·o·O·o·O·o",
    "O·o·O·o·U·u·U·u·U·u·U·u·U·u·U·u",
    "U·u·Y·y·Y·y·Y·y·Y·y·¿·¿·¿·¿·¿·¿",
    "a·a·a·a·a·a·a·a·A·A·A·A·A·A·A·A",
    "e·e·e·e·e·e·¿·¿·E·E·E·E·E·E·¿·¿",
    "e·e·e·e·e·e·e·e·E·E·E·E·E·E·E·E",
    "i·i·i·i·i·i·i·i·I·I·I·I·I·I·I·I",
    "o·o·o·o·o·o·¿·¿·O·O·O·O·O·O·¿·¿",
    "u·u·u·u·u·u·u·u·¿·U·¿·U·¿·U·¿·U",
    "o·o·o·o·o·o·o·o·O·O·O·O·O·O·O·O",
    "a·a·e·e·e·e·i·i·o·o·u·u·o·o·¿·¿",
    "a·a·a·a·a·a·a·a·A·A·A·A·A·A·A·A",
    "e·e·e·e·e·e·e·e·E·E·E·E·E·E·E·E",
    "o·o·o·o·o·o·o·o·O·O·O·O·O·O·O·O",
    "a·a·a·a·a·¿·a·a·A·A·A·A·A·'·i·'",
    "~·\"~·e·e·e·¿·e·e·E·E·E·E·E·'`·''·'~",
    "i·i·i·i·¿·¿·i·i·I·I·I·I·¿·`'·`'·`~",
    "u·u·u·u·r·r·u·u·U·U·U·U·R·\"`·\"'·`",
    "¿·¿·o·o·o·¿·o·o·O·O·O·O·O·'·`·¿"]

end Pressroom.Slug
