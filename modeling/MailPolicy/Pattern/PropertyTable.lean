/-
Properties of characters that a class can name.

Most of them are some general categories with a few characters more and a few less, so a row gives the
categories and the ranges of those exceptions.
-/
import MailPolicy.Pattern.CategoryTable

namespace MailPolicy.Pattern

/-- A property: its names in small letters, the categories it is near to, and the exceptions. -/
structure PropertyRow where
  names : List String
  categories : List String
  /-- Characters beyond the categories, written as ranges. -/
  plus : String
  /-- Characters of the categories without the property, written as ranges. -/
  minus : String

/-- The characters with the property of a row. -/
def PropertyRow.chars (r : PropertyRow) : CharSet :=
  let base := (r.categories.map ofCategory).foldl CharSet.union .empty
  (base.union (.ofTable (.read r.plus))).diff (.ofTable (.read r.minus))

/-- The rows of all properties. -/
def propertyRows : List PropertyRow := [
  { names := ["ahex", "asciihexdigit"]
    categories := []
    plus := "1c 9 8 5 r 5"
    minus := "" },
  { names := ["alpha", "alphabetic"]
    categories := ["Lu", "Ll", "Lt", "Lm", "Lo", "Nl"]
    plus := (
      "n9 0 h7 d 2 0 2 1 2 1 2 0 21 a 1d c 2 6 h 0 2u 6 5 3 3 1 5 0 10 0 v f 2v a 2u 1 4 8 2 2 2 3 " ++
      "4o b 4 6 7 j 1j 1 3 e 2 1 6 2 b 1 u 2 1n 6 3 1 3 1 b 0 b 1 u 2 1n 4 5 1 3 1 5 0 v 1 4 0 c 2 " ++
      "1n 7 2 2 2 1 m 1 n 2 5 2 1n 6 3 1 3 1 a 1 b 1 v 0 1o 4 4 2 2 2 b 0 15 4 1m 6 2 2 2 2 9 1 c 1 " ++
      "u 2 1n 6 2 2 2 2 9 1 c 1 g 0 d 3 1n 6 2 2 2 2 b 0 b 1 u 2 24 5 2 0 2 7 j 1 1q 0 3 6 j 0 2s 0 " ++
      "3 5 2 1 h 0 4k i a a 2 z 33 b 2 0 3 3 o 3 5 2 2 2 3 6 4 3 e b 2 0 b 3 19x 1 v 1 v 1 v 1 1v i " ++
      "59 1 z 0 3b b 5 8 67 4 1m 9 3 j 23 1 c 2 1e 4 1d e 1p 2 v 8 3 1 1m a 1f i c1 d 1c2 1f 1rr v " ++
      "nsl 7 z 1 9v 0 9 0 o 4 2h 1 1f f 2 0 1m 0 13 4 t b 1a 3 1d b 12 0 1w d d 0 9 1 1a 2 1f 0 2 2 " ++
      "3 1 6 0 19 4 6 0 6m 7 fn8 0 1nc 4 1af 2 2 1 6 3 lx 3 as 1 9g 2 1i d 1a 1 c 2 1a 8 a 0 1q 2 " ++
      "11 b j 1 1m 2 1d c f 1 2l 8 3 0 7 0 3 0 4e 9 o 3 1n 6 3 1 3 1 b 0 b 1 5u c 2 2 2z h 6m 6 3 6 " ++
      "u 1 2b e 2 0 2z a 2w d 76 c 6w 5 2 1 3 1 4 0 2 0 3z 6 3 5 5 0 t 9 17 4 2 3 j a 1b d bc 7 2 6 " ++
      "2c l 2 d 3f 5 4 0 2 1 2 2 2 0 4 0 1v 4 2 1 2 3 9p 3 a 1 2 0 1d 6 4 2 ftb 0 2 1i 8 3 2m 1 f59 " ++
      "0 6zm 6 2 g 3 6 2 1 2 4 2t 0 1q0 0 1k9 p 7 p 7 p")
    minus := "" },
  { names := ["bidic", "bidicontrol"]
    categories := []
    plus := "17g 0 54i 1 r 4 1k 3"
    minus := "" },
  { names := ["bidim", "bidimirrored"]
    categories := []
    plus := (
      "14 1 j 0 2 0 t 0 2 0 u 0 2 0 1a 0 g 0 2v3 3 1ge 1 1wd 1 b 1 1j 1 f 1 4y 0 5d 3 4 5 4 0 4 1 4 " ++
      "3 2 3 2 0 2 0 5 8 6 0 2 h 6 3 a 1 2 0 2 7 3 u 3 3 6 0 a 1 3 i 6 1 a 4 3 1 5 n 3 f 9 3 l 1 8 " ++
      "1 u6 d 23 0 3 3 2 1 2 2 6 3 6 2 4 d b8 l 3 5 2 d 9 0 8 5 4 0 5 4 2 1 3 4 5 0 2 2 3 1 b 5 3 1 " ++
      "d i 2 3 3 0 2 0 3 0 2 3 6 1 7 2 p 1 c 1 5 3 2 1 3 1 5 16 3 7 2 13 6 0 2 0 4 4 6 2 5 0 4 4 2 " ++
      "0 75 0 ec 3 4 1 2 1 f 1 3 9 18 7 bw 9 3 7 14qm 5 6 1 4j 1 j 0 2 0 t 0 2 0 u 0 2 0 2 1 2 1 " ++
      "16k8 0 1m 0 1m 0 1m 0 1m 0")
    minus := "" },
  { names := ["ci", "caseignorable"]
    categories := ["Mn", "Me", "Cf", "Lm", "Sk"]
    plus := (
      "13 0 7 0 c 0 3h 0 k0 0 d4 0 45 0 55w 1 b 0 3 0 17u4 0 1r 0 3 0 4y 0 7 0 c 0")
    minus := "" },
  { names := ["cased"]
    categories := ["Lu", "Ll", "Lt"]
    plus := (
      "4q 0 g 0 dy 8 8 1 v 4 2p 0 1h 0 2o2 0 2eo 1q e 0 z 10 j6 0 e 0 h c 5g v mv 1f 1hv 1 o4f 1 5v " ++
      "0 3m 2 4 1 o3 3 a 0 i6v 0 3 2 2 15 2 8 16ra 1p 3b7 p 7 p 7 p")
    minus := "" },
  { names := ["dash"]
    categories := ["Pd"]
    plus := "6dv 0 14 0 g 0 av 0"
    minus := "" },
  { names := ["di", "defaultignorablecodepoint"]
    categories := []
    plus := (
      "4t 0 iq 0 jx 0 283 1 190 1 2e 4 1ks 4 r 4 1e f 3cl 0 14f0 f 6o 0 4h 0 28 8 119k 3 440 7 h406 " ++
      "35r")
    minus := "" },
  { names := ["dep", "deprecated"]
    categories := []
    plus := "95 0 10q 0 1s4 0 2 0 1m2 1 1qe 5 je 1 jh07 0"
    minus := "" },
  { names := ["dia", "diacritic"]
    categories := []
    plus := (
      "2m 0 2 0 20 0 7 0 5 0 3 1 e0 4e 2 7 6 5 i 1 5 0 a 1 72 4 5u 0 1k g 2 q 2 0 2 1 2 0 3r 7 5 1 " ++
      "3r 1 5 1 4 2 1w q 2k a 1n a z 1 3j 7 16 9 h r 1q 0 h 0 4 3 t 0 23 0 h 0 33 0 h 0 33 0 h 0 1c " ++
      "2 1p 0 h 0 8 0 3c 0 33 0 h 0 33 0 h 0 32 1 h 0 3h 0 3h 5 2 0 30 0 e 4 24 1 s 0 2 0 2 0 5 1 " ++
      "1v 2 2 1 1r 0 35 0 2 1 15 1 5 4 q 6 2 0 b 1 jm 2 qd 1 50 a a 0 9o 2 8q 7 3 0 1d e 3 a 2x 0 g " ++
      "0 13 8 1j 1 3v 1 1t 5 2b o 5 0 7 0 3 2 1f 1q 2i b 12 a ce 0 2 2 c 2 e 2 e 2 e 1 2k1 2 8u 0 " ++
      "e3 5 2y 3 2o 0 n77 0 d 1 2 0 t 1 2b 1 f x 2v 2 32 1 5n 0 s h 1m 3 11 0 2o 0 d 0 11 0 46 2 1u " ++
      "3 1g 0 2t 4 a 2 3l 1 fn5 0 le f 7j 0 2 0 1c 0 1a 1 1w 0 l9 0 ww 5 2 15 2 8 mj 1 fw 5 d2 2 1z " ++
      "a 1e 3 5d 0 16 0 21 1 3d 1 1r 0 25 0 a 2 2x 1 4z 1 2a 0 h 0 p 6 4 4 5q 0 4 0 3g 1 70 1 3j 0 " ++
      "3b 1 38 0 7i 1 77 1 5 0 4d 0 2c 0 j 0 2a 0 bq 0 77 0 2 1 2a 0 4hc e asb 4 1o 6 ux g 29 1 cn3 " ++
      "3 2 6 2 1 64i 19 3 m f5 2 4 5 9 7 3 6 v 3 2v7 1p 5f 6 ag 0 1q 3 15t 6 32 2 2 2")
    minus := "" },
  { names := ["emoji"]
    categories := []
    plus := (
      "z 0 7 0 6 9 34 0 5 0 68e 0 d 0 61 0 n 0 2j 5 g 1 a8 1 d 0 4n 0 q a 5 2 5k 0 6g 1 b 0 a 0 1n " ++
      "3 2 4 a 0 3 0 3 1 3 0 5 0 3 0 2 1 3 0 4 0 4 1 9 2 6 0 2 0 6 b c 1 3 0 2 1 2 0 j 0 3 1 j 5 2 " ++
      "0 2 1 4 1 6 0 3 1 5 1 c 1 6 1 3 0 6 1 2 0 2 1 l 1 6 5 2 3 3 0 5 0 3 0 3 5 2 0 3 0 2 0 2 0 7 " ++
      "0 4 0 7 0 b 1 g 0 3 0 5 0 2 0 5 2 2 0 c 1 1d 2 a 0 f 0 f 0 ad 1 cw 2 k 1 1g 0 5 0 yj 0 d 0 " ++
      "gq 0 2 0 2fzf 0 5n 0 4h 1 d 1 f 0 3 9 24 p 2 1 o 0 l 0 3 8 m 1 4v x 3 33 3 1 2 2 3 2a 3 2 2 " ++
      "7a 2 1q c 5 2 n 8 1 3 7 d 0 3 3 3 0 5 1 e 1 3 0 9 1 a 0 6 2 d 2 9 2 3 0 2 0 5 0 7 0 4 0 7 2d " ++
      "1d 1x 6 7 3 2 5 9 4 0 2 1 4 0 3 9 6c b 5 0 7w 1a 2 9 2 54 35 c 4 8 8 19 2 6 9 d 5 8 8 8")
    minus := "" },
  { names := ["ecomp", "emojicomponent"]
    categories := []
    plus := "z 0 7 0 6 9 6ac 0 5y 0 17os 0 1c5z p e4 4 14h 3 gw31 2n"
    minus := "" },
  { names := ["emod", "emojimodifier"]
    categories := []
    plus := "2qrf 4"
    minus := "" },
  { names := ["ebase", "emojimodifierbase"]
    categories := []
    plus := (
      "7j1 0 64 0 h 3 2iyg 0 1p 2 3 0 3 2 3a 1 3 a m i 4 0 5 2 2 2 8 0 2 0 p 0 5m 1 5 0 m 0 5 1 4v " ++
      "2 4 4 2c 0 h 2 a 0 c 0 g0 0 3 0 9 7 7 0 a 9 3 2 1l 0 1q 1 2 1 2 0 i 2 2 c 6e 2 17 8")
    minus := "" },
  { names := ["epres", "emojipresentation"]
    categories := []
    plus := (
      "6xm 1 5q 3 4 0 3 0 ei 1 m 1 1f b 18 0 k 0 e 0 9 1 i 1 6 1 9 0 6 0 m 0 8 1 2 0 5 0 3 0 8 0 5 " ++
      "1 t 0 10 0 2 0 5 2 2 0 1q 2 p 0 f 0 nw 1 1g 0 5 0 2hf3 0 5n 0 5b 0 3 9 24 p 2 0 p 0 l 0 3 4 " ++
      "2 2 m 1 4v w d 8 2 1x 2 l d 16 5 4 d g 4 0 4 1y 2 0 2 56 3 1q e 3 2 n j 0 r 1 e 0 2f 2c 1d " ++
      "1x 7 0 4 2 3 2 5 3 c 1 8 8 6c b 5 0 7w 1a 2 9 2 54 35 c 4 8 8 19 2 6 9 d 5 8 8 8")
    minus := "" },
  { names := ["extpict", "extendedpictographic"]
    categories := []
    plus := (
      "4p 0 5 0 68e 0 d 0 61 0 n 0 2j 5 g 1 a8 1 d 0 2o 0 1z 0 q a 5 2 5k 0 6g 1 b 0 a 0 1n 3 2 5 2 " ++
      "b 2 35 b 39 3 a 2 0 2 0 7 0 4 0 7 0 b 1 g 0 3 0 5 0 2 0 5 2 2 0 c 4 1a 2 a 0 f 0 f 0 ad 1 cw " ++
      "2 k 1 1g 0 5 0 yj 0 d 0 gq 0 2 0 2fzb 73 e 2 w 0 1p 5 d 1 f 0 3 9 j 1k s e b 0 l 0 3 8 2 3 a " ++
      "c1 6 8t 9 7d 1d 3j 39 b 2e 16 d 3 1l 7 b 5 15 7 v 29 d 1a 2 9 2 c8 75 sd")
    minus := "" },
  { names := ["ext", "extender"]
    categories := []
    plus := (
      "53 0 ex 1 of 0 ca 0 nv 0 kx 0 3k 0 1tw 0 1l 0 h0 0 b3 0 1x 0 3uy 0 18 4 2w 1 2m 2 lxz 0 16f " ++
      "0 qr 0 n 0 3u 0 31 0 m 1 gos 0 1ld 1 2cb 0 h5 2 y8 0 fxm 1 wt 1 2 0 me1 1 1l3 2")
    minus := "" },
  { names := ["grbase", "graphemebase"]
    categories := ["Lu", "Ll", "Lt", "Lm", "Lo", "Nd", "Nl", "No", "Pc", "Pd", "Ps", "Pe", "Pi", "Pf", "Po", "Sm", "Sc", "Sk", "So", "Zs", "Mc"]
    plus := ""
    minus := (
      "1xa 0 p 0 9z 0 p 0 2v 0 p 0 6j 0 j 1 2w 0 p 0 3c 0 g 0 2mu 0 455 1 14z3 1 3vj 0 p 0 9l 0 d 0 " ++
      "6q 0 ox 0 10dx 0 9 4") },
  { names := ["grext", "graphemeextend"]
    categories := ["Me", "Mn"]
    plus := (
      "1xa 0 p 0 9z 0 p 0 2v 0 p 0 6j 0 j 1 2w 0 p 0 3c 0 g 0 2mu 0 yf 0 36q 1 14z3 1 3vj 0 p 0 9l " ++
      "0 d 0 6q 0 ox 0 10dx 0 9 4 h41a 2n")
    minus := "" },
  { names := ["hex", "hexdigit"]
    categories := []
    plus := "1c 9 8 5 r 5 1eay 9 8 5 r 5"
    minus := "" },
  { names := ["idsb", "idsbinaryoperator"]
    categories := []
    plus := "9gw 1 3 7"
    minus := "" },
  { names := ["idst", "idstrinaryoperator"]
    categories := []
    plus := "9gy 1"
    minus := "" },
  { names := ["idc", "idcontinue"]
    categories := ["Lu", "Ll", "Lt", "Lm", "Lo", "Nl", "Mn", "Mc", "Nd", "Pc"]
    plus := "53 0 k0 0 34y 8 19l 0 1fi 0 m 0 31p 1"
    minus := "94f 0" },
  { names := ["ids", "idstart"]
    categories := ["Lu", "Ll", "Lt", "Lm", "Lo", "Nl"]
    plus := "4ud 1 1oy 0 m 0 31p 1"
    minus := "94f 0" },
  { names := ["ideo", "ideographic"]
    categories := []
    plus := (
      "9hi 1 q 8 f 2 qu 533 1t g73 hkx a5 3 2x n4b 0 s 4qf 9 yd 17 8 76w az f7p wyn x 37d 7 65 3 " ++
      "4g1 f 5rk 2e8 f1 15v 3t6 6 38f")
    minus := "" },
  { names := ["joinc", "joincontrol"]
    categories := []
    plus := "6bw 1"
    minus := "" },
  { names := ["loe", "logicalorderexception"]
    categories := []
    plus := "2tc 4 3g 4 25t 2 3 0 smz 1 3 0 2 1"
    minus := "" },
  { names := ["lower", "lowercase"]
    categories := ["Ll"]
    plus := (
      "4q 0 g 0 dy 8 8 1 v 4 2p 0 1h 0 2o2 0 2eo 1q e 0 z 10 j6 0 e 0 h c 5w f nl p 1hv 1 o4f 1 5v " ++
      "0 3m 2 4 1 o3 3 a 0 i6v 0 3 2 2 15 2 8 16ra 1p")
    minus := "" },
  { names := ["math"]
    categories := ["Sm"]
    plus := (
      "2m 0 oi 2 3 0 r 1 3 1 5k1 0 s 2 c 0 x 3 p 1 f 1 1u c 5 0 4 1 5 4 j 0 5 0 3 9 2 0 4 4 7 0 4 1 " ++
      "3 1 2 2 2 5 4 3 6 4 24 4 3 3 2 1 2 1 2 0 2 4 3 1 5 1 5 h 3 1 2 0 2 6 2 0 7 1 83 3 4p 1 2 0 p " ++
      "0 i 0 ce 1 d 8 6 4 6 1 3 1 4 4 f 0 2 0 3 5 p 1 1m 0 2 0 u 3 a 1 9j 1 w 9 b8 l 1s 3 x 1 15yc " ++
      "0 2 0 5 0 5w 0 2 0 160y 2c 2 1y 2 1 3 0 3 1 3 3 2 b 2 0 2 6 2 1s 2 3 3 7 2 6 2 r 2 3 2 4 2 0 " ++
      "4 6 2 9f 3 o 2 o 2 u 2 o 2 u 2 o 2 u 2 o 2 u 2 o 2 7 3 1d 4ch 3 2 q 2 1 2 0 3 0 2 9 2 3 2 0 " ++
      "2 0 7 0 5 0 2 0 2 0 2 2 2 1 2 0 3 0 2 0 2 0 2 0 2 0 2 1 2 0 3 3 2 6 2 3 2 3 2 0 2 9 2 g 6 2 " ++
      "2 4 2 g")
    minus := "" },
  { names := ["nchar", "noncharactercodepoint"]
    categories := []
    plus := (
      "1e4w v en 1 1ekf 1 1ekf 1 1ekf 1 1ekf 1 1ekf 1 1ekf 1 1ekf 1 1ekf 1 1ekf 1 1ekf 1 1ekf 1 " ++
      "1ekf 1 1ekf 1 1ekf 1 1ekf 1 1ekf 1")
    minus := "" },
  { names := ["patsyn", "patternsyntax"]
    categories := []
    plus := (
      "x e b 6 r 3 2 0 r 3 z 6 2 0 2 1 2 0 2 1 5 0 5 0 4 0 o 0 w 0 655 n 9 e 3 i 2 9 8i jz 4h hh v " ++
      "vf e9 3j aq 2 5 o g 0 14i6 1 7a 1")
    minus := "" },
  { names := ["patws", "patternwhitespace"]
    categories := []
    plus := "9 4 j 0 2t 0 689 1 p 1"
    minus := "" },
  { names := ["qmark", "quotationmark"]
    categories := []
    plus := "y 0 5 0 3o 0 g 0 671 7 q 1 2rs 0 cq 3 e 2 14pu 3 5a 0 5 0 2j 1"
    minus := "" },
  { names := ["radical"]
    categories := []
    plus := "96o p 2 2g d 5x"
    minus := "" },
  { names := ["ri", "regionalindicator"]
    categories := []
    plus := "2qcm p"
    minus := "" },
  { names := ["sterm", "sentenceterminal"]
    categories := []
    plus := (
      "x 0 d 0 h 0 11m 0 44 2 51 0 18 2 6v 0 1q 0 2 0 4 1 86 1 1d1 1 lz 0 5 1 li 0 5j 1 5p 0 6 0 8r " ++
      "1 9v 3 4v 1 3 1 u 1 59 1 1u 1 ql 1 a 2 2qt 0 e 0 n 1 by 0 n3x 0 7j 1 6c 0 4 0 an 1 2f 1 2o 0 " ++
      "49 1 44 2 41 1 6y 0 g9z 0 4 1 4q 0 d 0 h 0 1u 0 25x 1 zi 4 19 3 5a 1 3a 3 3k 2 3m 1 7 0 h 1 " ++
      "2h 1 2 1 31 0 bm 1 ae 1 6 e 2y 1 6y 2 ee 0 2 0 70 1 2g 1 bp 1 j9 1 23 1 eui 1 3q 0 1u 1 c 0 " ++
      "no 0 fev 0 5wp 0")
    minus := "" },
  { names := ["sd", "softdotted"]
    categories := []
    plus := (
      "2x 1 5h 0 7u 0 v 0 1h 0 l 0 8x 0 2r 0 2 0 4y2 0 1g 0 e 0 4 0 3p 0 4e 0 bq 0 5z 1 27n 0 2bom " ++
      "1 1f 1 1f 1 1f 1 1f 1 1f 1 1f 1 1f 1 1f 1 1f 1 1f 1 1f 1 1f 1 1on 0 8i 1 r 0")
    minus := "" },
  { names := ["term", "terminalpunctuation"]
    categories := []
    plus := (
      "x 0 b 0 2 0 c 1 4 0 n3 0 9 0 ea 0 1m 0 21 0 f 0 2 2 51 0 18 a 2 0 6k 1 1j e w 0 7a 1 z9 1 4t " ++
      "0 5 5 8o 1 ly 7 li 0 3h 2 20 1 4e 2 4 0 14 3 3 1 8r 1 9v 3 4v 1 2 2 u 1 59 4 1r 1 ql 1 a 2 " ++
      "2qt 0 e 0 5 0 b 0 2 1 4 1 bx 1 n3w 1 7i 2 6c 4 an 1 2f 1 2o 0 48 2 44 2 3k 0 h 1 6y 0 g9x 2 " ++
      "2 3 4q 0 b 0 2 0 c 1 4 0 1u 0 3 0 u3 0 1d 0 w7 0 5k 0 8n 1 49 5 1x 5 2i 3 qh 4 19 3 5a 6 35 " ++
      "3 3k 2 3m 1 7 0 h 1 2h 4 31 0 bm 2 d 1 9z 3 4 e 2y 1 6y 2 ee 0 2 0 70 1 2g 1 5 1 bj 2 1a 0 " ++
      "hy 1 23 1 10s 4 dtm 1 3q 0 1u 2 b 0 nn 1 fev 0 5wo 3")
    minus := "" },
  { names := ["uideo", "unifiedideograph"]
    categories := []
    plus := (
      "a9s 533 1t g73 hsf 1 2 0 2 1 b 0 2 0 2 1 3 2 1fpz wyn x 37d 7 65 3 4g1 f 5rk 3z4 3t6 6 38f")
    minus := "" },
  { names := ["upper", "uppercase"]
    categories := ["Lu"]
    plus := "6lc f nb p 2ixt p 7 p 7 p"
    minus := "" },
  { names := ["vs", "variationselector"]
    categories := []
    plus := "4qz 2 2 0 19f5 f i9yp 6n"
    minus := "" },
  { names := ["wspace", "whitespace", "space"]
    categories := []
    plus := "9 4 j 0 2t 0 r 0 4bk 0 1vk a u 1 6 0 1c 0 335 0"
    minus := "" },
  { names := ["xidc", "xidcontinue"]
    categories := ["Lu", "Ll", "Lt", "Lm", "Lo", "Nl", "Mn", "Mc", "Nd", "Pc"]
    plus := "53 0 k0 0 34y 8 19l 0 1fi 0 m 0"
    minus := "oq 0 8fp 0 14q7 5 bb 1 39 0 2 0 2 0 2 0 2 0 2 0 2 0 2 0" },
  { names := ["xids", "xidstart"]
    categories := ["Lu", "Ll", "Lt", "Lm", "Lo", "Nl"]
    plus := "4ud 1 1oy 0 m 0"
    minus := (
      "oq 0 249 0 3k 0 67w 0 14q7 5 bb 1 39 0 2 0 2 0 2 0 2 0 2 0 2 0 2 0 80 1") }]

end MailPolicy.Pattern
