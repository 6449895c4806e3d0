import Pressroom.Slug.Block

/-!
Plain spellings of the Japanese syllabaries and of the signs that go with them.
-/

set_option autoImplicit false
set_option relaxedAutoImplicit false

namespace Pressroom.Slug

def kana : Block where
  first := 0x3000
  rows := #[
    " ·, ·. ·\"·[JIS]·\"·/·0·<·> ·<<·>> ·[·] ·\x7b·\x7d ",
    "[(·)] ·@·X ·[·] ·[[·]] ·((·)) ·[[·]] ·~ ·``·''·,,",
    "@·1·2·3·4·5·6·7·8·9······",
    "~·+·+·+·+··@· // ·+10+·+20+·+30+·¿·¿·¿··",
    "¿·a·a·i·i·u·u·e·e·o·o·ka·ga·ki·gi·ku",
    "gu·ke·ge·ko·go·sa·za·si·zi·su·zu·se·ze·so·zo·ta",
    "da·ti·di·tu·tu·du·te·de·to·do·na·ni·nu·ne·no·ha",
    "ba·pa·hi·bi·pi·hu·bu·pu·he·be·pe·ho·bo·po·ma·mi",
    "mu·me·mo·ya·ya·yu·yu·yo·yo·ra·ri·ru·re·ro·wa·wa",
    "wi·we·wo·n·vu·¿·¿·¿·¿···\"··\"·\"·¿",
    "¿·a·a·i·i·u·u·e·e·o·o·ka·ga·ki·gi·ku",
    "gu·ke·ge·ko·go·sa·za·si·zi·su·zu·se·ze·so·zo·ta",
    "da·ti·di·tu·tu·du·te·de·to·do·na·ni·nu·ne·no·ha",
    "ba·pa·hi·bi·pi·hu·bu·pu·he·be·pe·ho·bo·po·ma·mi",
    "mu·me·mo·ya·ya·yu·yu·yo·yo·ra·ri·ru·re·ro·wa·wa",
    "wi·we·wo·n·vu·ka·ke·va·vi·ve·vo···\"·\"·¿"]

/-- Bopomofo and the letters of Korean. -/
def bopomofo : Block where
  first := 0x3100
  rows := #[
    "¿·¿·¿·¿·¿·b·p·m·f·d·t·n·l·g·k·h",
    "j·q·x·zh·ch·sh·r·z·c·s·a·o·e·eh·ai·ei",
    "au·ou·an·en·ang·eng·er·i·u·iu·v·ng·gn·¿·¿·¿",
    "¿·g·gg·gs·n·nj·nh·d·dd·r·lg·lm·lb·ls·lt·lp",
    "rh·m·b·bb·bs·s·ss··j·jj·c·k·t·p·h·a",
    "ae·ya·yae·eo·e·yeo·ye·o·wa·wae·oe·yo·u·weo·we·wi",
    "yu·eu·yi·i··nn·nd·ns·nZ·lgs·ld·lbs·lZ·lQ·mb·ms",
    "mZ·mN·bg··bsg·bst·bj·bt·bN·bbN·sg·sn·sd·sb·sj·Z",
    "·N·Ns·NZ·pN·hh·Q·yo-ya·yo-yae·yo-i·yu-yeo·yu-ye·yu-i·U·U-i·¿",
    "",
    "BU·ZI·JI·GU·EE·ENN·OO·ONN·IR·ANN·INN·UNN·IM·NGG·AINN·AUNN",
    "AM·OM·ONG·INNN·P·T·K·H·¿·¿·¿·¿·¿·¿·¿·¿",
    "¿", "¿", "¿", "¿"]

/-- Characters in circles and brackets, and months. -/
def circled : Block where
  first := 0x3200
  rows := #[
    "(g)·(n)·(d)·(r)·(m)·(b)·(s)·()·(j)·(c)·(k)·(t)·(p)·(h)·(ga)·(na)",
    "(da)·(ra)·(ma)·(ba)·(sa)·(a)·(ja)·(ca)·(ka)·(ta)·(pa)·(ha)·(ju)·¿·¿·¿",
    "(1) ·(2) ·(3) ·(4) ·(5) ·(6) ·(7) ·(8) ·(9) ·(10) ·(Yue) ·(Huo) ·(Shui) ·(Mu) ·(Jin) ·" ++
      "(Tu) ",
    "(Ri) ·(Zhu) ·(You) ·(She) ·(Ming) ·(Te) ·(Cai) ·(Zhu) ·(Lao) ·(Dai) ·(Hu) ·(Xue) ·" ++
      "(Jian) ·(Qi) ·(Zi) ·(Xie) ",
    "(Ji) ·(Xiu) ·<<·>>·¿·¿·¿·¿·¿·¿·¿·¿·¿·¿·¿·¿",
    "¿",
    "(g)·(n)·(d)·(r)·(m)·(b)·(s)·()·(j)·(c)·(k)·(t)·(p)·(h)·(ga)·(na)",
    "(da)·(ra)·(ma)·(ba)·(sa)·(a)·(ja)·(ca)·(ka)·(ta)·(pa)·(ha)·¿·¿·¿·KIS ",
    "(1) ·(2) ·(3) ·(4) ·(5) ·(6) ·(7) ·(8) ·(9) ·(10) ·(Yue) ·(Huo) ·(Shui) ·(Mu) ·(Jin) ·" ++
      "(Tu) ",
    "(Ri) ·(Zhu) ·(You) ·(She) ·(Ming) ·(Te) ·(Cai) ·(Zhu) ·(Lao) ·(Mi) ·(Nan) ·(Nu) ·(Shi) ·" ++
      "(You) ·(Yin) ·(Zhu) ",
    "(Xiang) ·(Xiu) ·(Xie) ·(Zheng) ·(Shang) ·(Zhong) ·(Xia) ·(Zuo) ·(You) ·(Yi) ·(Zong) ·" ++
      "(Xue) ·(Jian) ·(Qi) ·(Zi) ·(Xie) ",
    "(Ye) ·¿·¿·¿·¿·¿·¿·¿·¿·¿·¿·¿·¿·¿·¿·¿",
    "1M·2M·3M·4M·5M·6M·7M·8M·9M·10M·11M·12M·¿·¿·¿·¿",
    "a·i·u·u·o·ka·ki·ku·ke·ko·sa·si·su·se·so·ta",
    "ti·tu·te·to·na·ni·nu·ne·no·ha·hi·hu·he·ho·ma·mi",
    "mu·me·mo·ya·yu·yo·ra·ri·ru·re·ro·wa·wi·we·wo·¿"]

/-- Words and units in one square, hours and days. -/
def squared : Block where
  first := 0x3300
  rows := #[
    "apartment·alpha·ampere·are·inning·inch·won·escudo·acre·ounce·ohm·kai-ri·carat·calorie·" ++
      "gallon·gamma",
    "giga·guinea·curie·guilder·kilo·kilogram·kilometer·kilowatt·gram·gram ton·cruzeiro·krone·" ++
      "case·koruna·co-op·cycle",
    "centime·shilling·centi·cent·dozen·desi·dollar·ton·nano·knot·heights·percent·parts·" ++
      "barrel·piaster·picul",
    "pico·building·farad·feet·bushel·franc·hectare·peso·pfennig·hertz·pence·page·beta·point·" ++
      "volt·hon",
    "pound·hall·horn·micro·mile·mach·mark·mansion·micron·milli·millibar·mega·megaton·meter·" ++
      "yard·yard",
    "yuan·liter·lira·rupee·ruble·rem·roentgen·watt·0h·1h·2h·3h·4h·5h·6h·7h",
    "8h·9h·10h·11h·12h·13h·14h·15h·16h·17h·18h·19h·20h·21h·22h·23h",
    "24h·HPA·da·AU·bar·oV·pc·¿·¿·¿·¿·Heisei·Syouwa·Taisyou·Meiji·Inc.",
    "pA·nA·microamp·mA·kA·kB·MB·GB·cal·kcal·pF·nF·microFarad·microgram·mg·kg",
    "Hz·kHz·MHz·GHz·THz·microliter·ml·dl·kl·fm·nm·micrometer·mm·cm·km·mm^2",
    "cm^2·m^2·km^2·mm^4·cm^3·m^3·km^3·m/s·m/s^2·Pa·kPa·MPa·GPa·rad·rad/s·rad/s^2",
    "ps·ns·microsecond·ms·pV·nV·microvolt·mV·kV·MV·pW·nW·microwatt·mW·kW·MW",
    "kOhm·MOhm·a.m.·Bq·cc·cd·C/kg·Co.·dB·Gy·ha·HP·in·K.K.·KM·kt",
    "lm·ln·log·lx·mb·mil·mol·pH·p.m.·PPM·PR·sr·Sv·Wb·¿·¿",
    "1d·2d·3d·4d·5d·6d·7d·8d·9d·10d·11d·12d·13d·14d·15d·16d",
    "17d·18d·19d·20d·21d·22d·23d·24d·25d·26d·27d·28d·29d·30d·31d·¿"]

end Pressroom.Slug
