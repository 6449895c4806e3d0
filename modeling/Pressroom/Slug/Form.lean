import Pressroom.Slug.Block

/-!
Plain spellings of characters that stand for a form of another one.
-/

set_option autoImplicit false
set_option relaxedAutoImplicit false

namespace Pressroom.Slug

/-- Chinese characters that are kept apart for their Korean reading. -/
def lookalikes : Block where
  first := 0xF900
  rows := #[
    "Kay ·Kayng ·Ke ·Ko ·Kol ·Koc ·Kwi ·Kwi ·Kyun ·Kul ·Kum ·Na ·Na ·Na ·La ·Na ",
    "Na ·Na ·Na ·Na ·Nak ·Nak ·Nak ·Nak ·Nak ·Nak ·Nak ·Nan ·Nan ·Nan ·Nan ·Nan ",
    "Nan ·Nam ·Nam ·Nam ·Nam ·Nap ·Nap ·Nap ·Nang ·Nang ·Nang ·Nang ·Nang ·Nay ·Nayng ·No ",
    "No ·No ·No ·No ·No ·No ·No ·No ·No ·No ·No ·Nok ·Nok ·Nok ·Nok ·Nok ",
    "Nok ·Non ·Nong ·Nong ·Nong ·Nong ·Noy ·Noy ·Noy ·Noy ·Nwu ·Nwu ·Nwu ·Nwu ·Nwu ·Nwu ",
    "Nwu ·Nwu ·Nuk ·Nuk ·Num ·Nung ·Nung ·Nung ·Nung ·Nung ·Twu ·La ·Lak ·Lak ·Lan ·Lyeng ",
    "Lo ·Lyul ·Li ·Pey ·Pen ·Pyen ·Pwu ·Pwul ·Pi ·Sak ·Sak ·Sam ·Sayk ·Sayng ·Sep ·Sey ",
    "Sway ·Sin ·Sim ·Sip ·Ya ·Yak ·Yak ·Yang ·Yang ·Yang ·Yang ·Yang ·Yang ·Yang ·Yang ·Ye ",
    "Ye ·Ye ·Ye ·Ye ·Ye ·Ye ·Ye ·Ye ·Ye ·Ye ·Yek ·Yek ·Yek ·Yek ·Yen ·Yen ",
    "Yen ·Yen ·Yen ·Yen ·Yen ·Yen ·Yen ·Yen ·Yen ·Yen ·Yen ·Yen ·Yel ·Yel ·Yel ·Yel ",
    "Yel ·Yel ·Yem ·Yem ·Yem ·Yem ·Yem ·Yep ·Yeng ·Yeng ·Yeng ·Yeng ·Yeng ·Yeng ·Yeng ·Yeng ",
    "Yeng ·Yeng ·Yeng ·Yeng ·Yeng ·Yey ·Yey ·Yey ·Yey ·O ·Yo ·Yo ·Yo ·Yo ·Yo ·Yo ",
    "Yo ·Yo ·Yo ·Yo ·Yong ·Wun ·Wen ·Yu ·Yu ·Yu ·Yu ·Yu ·Yu ·Yu ·Yu ·Yu ",
    "Yu ·Yuk ·Yuk ·Yuk ·Yun ·Yun ·Yun ·Yun ·Yul ·Yul ·Yul ·Yul ·Yung ·I ·I ·I ",
    "I ·I ·I ·I ·I ·I ·I ·I ·I ·I ·I ·Ik ·Ik ·In ·In ·In ",
    "In ·In ·In ·In ·Im ·Im ·Im ·Ip ·Ip ·Ip ·Cang ·Cek ·Ci ·Sip ·Cha ·Chek ",
    "Chey ·Thak ·Thak ·Thang ·Thayk ·Thong ·Pho ·Phok ·Hang ·Hang ·Hyen ·Hwak ·Wu ·Huo ·[?] ·" ++
      "[?] ",
    "Zhong ·[?] ·Qing ·[?] ·[?] ·Xi ·Zhu ·Yi ·Li ·Shen ·Xiang ·Fu ·Jing ·Jing ·Yu ·[?] ",
    "Hagi ·[?] ·Zhu ·[?] ·[?] ·Yi ·Du ·[?] ·[?] ·[?] ·Fan ·Si ·Guan ·[?] ·¿·¿",
    "¿", "¿", "¿", "¿", "¿", "¿", "¿", "¿", "¿", "¿", "¿", "¿", "¿"]

/-- Ligatures, and the forms of Hebrew and Arabic letters. -/
def ligatures : Block where
  first := 0xFB00
  rows := #[
    "ff·fi·fl·ffi·ffl·st·st·¿·¿·¿·¿·¿·¿·¿·¿·¿",
    "¿·¿·¿·mn·me·mi·vn·mkh·¿·¿·¿·¿·¿·yi··ay",
    "`··d·h·k·l·m·m·t·+·sh·s·sh·s·a·a",
    "·b·g·d·h·v·z·¿·t·y·k·k·l·¿·l·¿",
    "n·n·¿·p·p·¿·ts·ts·r·sh·t·vo·b·k·p·l",
    "'·'·b·b·b·b·p·p·p·p·bh·bh·bh·bh·tth·tth",
    "tth·tth·th·th·th·th·tt·tt·tt·tt·v·v·v·v·ph·ph",
    "ph·ph·dy·dy·dy·dy·ny·ny·ny·ny·ch·ch·ch·ch·cch·cch",
    "cch·cch·ddh·ddh·dh·dh·d·d·dd·dd·j·j·rr·rr·kh·kh",
    "kh·kh·g·g·g·g·G·G·G·G·N·N·N·N·N·N",
    "N·N·N·N·ae'·ae'·h·h·h·h·h·h·h·h·y·y",
    "y'·y'·¿·¿·¿·¿·¿·¿·¿·¿·¿·¿·¿·¿·¿·¿",
    "¿",
    "¿·¿·¿·ng·ng·ng·ng·u·u·oe·oe·yu·yu·u·v·v",
    "oe·oe·yu·yu·····~·~·y'·y'·y'ae·y'ae·y'w·y'w",
    "y'u·y'u·y'oe·y'oe·y'yu·y'yu·y'·y'·y'·y'~·y'~·y'~·y·y·y·y",
    "y'j·y'H·y'm·y'~·y'y·bj·bH·bkh·bm·b~·by·tj·tH·tkh·tm·t~",
    "ty·thj·thm·th~·thy·jH·jm·Hj·Hm·khj·khH·khm·sj·sH·skh·sm",
    "SH·Sm·Dj·DH·Dkh·Dm·TH·Tm·Zm·`j·`m·Gj·Gm·fj·fH·fkh",
    "fm·f~·fy·qH·qm·q~·qy·k·kj·kH·kkh·kl·km·k~·ky·lj",
    "lH·lkh·lm·l~·ly·mj·mH·mkh·mm·m~·my·nj·nH·nkh·nm·n~",
    "ny·hj·hm·h~·hy·yj·yH·ykh·ym·y~·yy·dh·r·~·unW·inW",
    "aW·uW·iW·W·y'r·y'z·y'm·y'n·y'~·y'y·br·bz·bm·bn·b~·by",
    "tr·tz·tm·tn·t~·ty·thr·thz·thm·thn·th~·thy·f~·fy·q~·qy",
    "k·kl·km·k~·ky·lm·l~·ly·m·mm·nr·nz·nm·nn·n~·ny",
    "~·yr·yz·ym·yn·y~·yy·y'j·y'H·y'kh·y'm·y'h·bj·bH·bkh·bm",
    "bh·tj·tH·tkh·tm·th·thm·jH·jm·Hj·Hm·khj·khm·sj·sH·skh",
    "sm·SH·Skh·Sm·Dj·DH·Dkh·Dm·TH·Zm·`j·`m·Gj·Gm·fj·fH",
    "fkh·fm·qH·qm·kj·kH·kkh·kl·km·lj·lH·lkh·lm·lh·mj·mH",
    "mkh·mm·nj·nH·nkh·nm·nh·hj·hm·h·yj·yH·ykh·ym·yh·y'm",
    "y'h·bm·bh·tm·th·thm·thh·sm·sh·shm·shh·kl·km·lm·nm·nh",
    "ym·yh·aW·uW·iW·T~·Ty·`~·`y·G~·Gy·s~·sy·sh~·shy·H~",
    "Hy·j~·jy·kh~·khy·S~·Sy·D~·Dy·shj·shH·shkh·shm·shr·sr·Sr",
    "Dr·T~·Ty·`~·`y·G~·Gy·s~·sy·sh~·shy·H~·Hy·j~·jy·kh~",
    "khy·S~·Sy·D~·Dy·shj·shH·shkh·shm·shr·sr·Sr·Dr·shj·shH·shkh",
    "shm·sh·shh·Tm·sj·sH·skh·shj·shH·shkh·Tm·Zm·an·an·(·)",
    "¿",
    "tjm·tHj·tHj·tHm·tkhm·tmj·tmH·tmkh·jmH·jmH·Hmy·Hm~·sHj·sjH·sj~·smH",
    "smH·smj·smm·smm·SHH·SHH·Smm·shHm·shHm·shjy·shmkh·shmkh·shmm·shmm·DH~·Dkhm",
    "Dkhm·TmH·TmH·Tmm·Tmy·`jm·`mm·`mm·`m~·Gmm·Gmy·Gm~·fkhm·fkhm·qmH·qmm",
    "lHm·lHy·lH~·ljj·ljj·lkhm·lkhm·lmH·lmH·mHj·mHm·mHy·mjH·mjm·mkhj·mkhm",
    "¿·¿·mjkh·hmj·hmm·nHm·nH~·njm·njm·nj~·nmy·nm~·ymm·ymm·bkhy·tjy",
    "tj~·tkhy·tkh~·tmy·tm~·jmy·jH~·jm~·skh~·SHy·shHy·DHy·ljy·lmy·yHy·yjy",
    "ymy·mmy·qmy·nHy·qmH·lHm·`my·kmy·njH·mkhy·ljm·kmm·ljm·njH·jHy·Hjy",
    "mjy·fmy·bHy·kmm·`jm·Smm·skhy·njy·¿·¿·¿·¿·¿·¿·¿·¿",
    "¿", "¿",
    "Sly·qly·llh·kbr·mHmd·Sl`m·rswl·`lyh·wslm·Sl~·Sl~llh`lyhwslm·jljllh·¿·¿·¿·¿",
    "¿", "¿",
    "···~·¿·¿·¿·¿·¿·¿·¿·¿·¿·¿·¿·¿",
    "..·--·-·_·_·(·) ·\x7b·\x7d ·[·] ·[(·)] ·<<·>> ·<",
    "> ·[·] ·\x7b·\x7d·¿·¿·¿·¿·······",
    ",·,·.·¿·;·:·?·!·-·(·)·\x7b·\x7d·\x7b·\x7d·#",
    "&·*·+·-·<·>·=·¿·\\·$·%·@·¿·¿·¿·¿",
    "an·an·un·¿·in·¿·a·a·u·u·i·i·W·W··",
    "···'·'·w'·w'·'·'·y'·y'·y'·y'···b",
    "b·b·b·@·@·t·t·t·t·th·th·th·th·j·j·j",
    "j·H·H·H·H·kh·kh·kh·kh·d·d·dh·dh·r·r·z",
    "z·s·s·s·s·sh·sh·sh·sh·S·S·S·S·D·D·D",
    "D·T·T·T·T·Z·Z·Z·Z·`·`·`·`·G·G·G",
    "G·f·f·f·f·q·q·q·q·k·k·k·k·l·l·l",
    "l·m·m·m·m·n·n·n·n·h·h·h·h·w·w·~",
    "~·y·y·y·y·l·l·l'·l'·l'·l'·l·l·¿·¿·"]

def widths : Block where
  first := 0xFF00
  rows := #[
    "¿·!·\"·#·$·%·&·'·(·)·*·+·,·-·.·/",
    "0·1·2·3·4·5·6·7·8·9·:·;·<·=·>·?",
    "@·A·B·C·D·E·F·G·H·I·J·K·L·M·N·O",
    "P·Q·R·S·T·U·V·W·X·Y·Z·[·\\·]·^·_",
    "`·a·b·c·d·e·f·g·h·i·j·k·l·m·n·o",
    "p·q·r·s·t·u·v·w·x·y·z·\x7b·|·\x7d·~·¿",
    "¿·.·[·]·,·*·wo·a·i·u·e·o·ya·yu·yo·tu",
    "+·a·i·u·e·o·ka·ki·ku·ke·ko·sa·si·su·se·so",
    "ta·ti·tu·te·to·na·ni·nu·ne·no·ha·hi·hu·he·ho·ma",
    "mi·mu·me·mo·ya·yu·yo·ra·ri·ru·re·ro·wa·n·:·;",
    "·g·gg·gs·n·nj·nh·d·dd·r·lg·lm·lb·ls·lt·lp",
    "rh·m·b·bb·bs·s·ss··j·jj·c·k·t·p·h·¿",
    "¿·¿·a·ae·ya·yae·eo·e·¿·¿·yeo·ye·o·wa·wae·oe",
    "¿·¿·yo·u·weo·we·wi·yu·¿·¿·eu·yi·i·¿·¿·¿",
    "/C·PS·!·-·|·Y=·W=·¿·|·-·|·-·|·#·O·¿",
    "¿·¿·¿·¿·¿·¿·¿·¿·¿·\x7b·|·\x7d····"]

end Pressroom.Slug
