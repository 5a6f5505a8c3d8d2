import ReactiveSchema.Text.Packed

/-!
# Character classes

Which characters are letters, digits, numerals, blanks, printable or fit for
an identifier, after version 14 of the Unicode standard.  Each test states
its ASCII part openly and looks the rest up in a table, so that facts about
ASCII text follow without unpacking a table.
-/

namespace ReactiveSchema.Text

/-- Letters outside ASCII. -/
def letterTable : CodeSet := .ofPacked
    "4q 0 b 0 5 0 6 m 2 u 2 cp 5 b f 4 8 0 2 0 3m 4 2 1 3 3 2 0 7 0 2 2 2 0 2 j 2 2a 2 3u 9
    4l 2 11 3 0 7 14 20 q 5 3 1a 16 10 1 2 2q 2 0 g 1 8 1 b 2 3 0 h 0 2 t u 2g c 0 p w a 1 5
    0 6 l 5 0 a 0 4 0 o o 8 a 6 n 2 5 i 15 1n 1h 4 0 j 0 8 9 g f 5 7 3 1 3 l 2 6 2 0 4 3 4 0
    h 0 e 1 2 2 f 1 b 0 9 5 5 1 3 l 2 6 2 1 2 1 2 1 w 3 2 0 k 2 h 8 2 2 2 l 2 6 2 1 2 4 4 0
    j 0 g 1 o 0 c 7 3 1 3 l 2 6 2 1 2 4 4 0 v 1 2 2 g 0 i 0 2 5 4 2 2 3 4 1 2 0 2 1 4 1 4 2
    4 b n 0 1h 7 2 2 2 m 2 f 4 0 r 2 3 0 3 1 v 0 5 7 2 2 2 m 2 9 2 4 4 0 w 1 2 1 g 1 i 8 2 2
    2 14 3 0 h 0 6 2 9 2 p 5 6 h 4 n 2 8 2 0 3 6 1n 1b 2 1 d 6 1n 1 2 0 2 4 2 n 2 0 2 9 2 1
    a 0 3 4 2 0 m 3 x 0 1s 7 2 z s 4 38 16 l 0 h 5 5 3 4 0 4 1 8 2 5 c d 0 i 11 2 0 6 0 3 16
    2 98 2 3 3 6 2 0 2 3 3 14 2 3 3 w 2 3 3 6 2 0 2 3 3 e 2 1k 2 3 3 1u 12 f h 2d 3 5 4 h7 3
    g 2 p 6 22 7 7 8 h e i f h f c 2 2 g 1f 10 0 5 0 1w 2g 8 4 3 x 2 0 6 1x b u 1e t 3 4 c
    17 5 p 1j m a 1g 2b 0 2m 1a i 7 1j t e 1 b 17 r z 16 2 b z 3 8 8 16 3 2 16 3 2 5 2 1 4 0
    6 5b 1t 7p 3 5 3 11 3 5 3 7 2 0 2 0 2 0 2 u 3 1g 2 6 2 0 4 2 2 6 4 3 3 5 5 c 6 2 2 6 39
    0 e 0 h c 2u 0 5 0 3 9 2 0 4 4 7 0 2 0 2 0 2 3 2 a 3 3 6 4 5 0 1h 1 22k 6c 7 3 4 1 d 11
    2 0 6 0 3 1j 8 0 h m a 6 2 6 2 6 2 6 2 6 2 6 2 6 2 6 29 0 d2 1 17 4 6 1 5 2d 7 2 2 2h 2
    3 6 16 2 2l i v 1d f e9 533 1t h3g 1w 19 3 7g 4 f b 1 l 1a h u 3 1x 1e 8 3 2u 3 1r 6 1 2
    0 2 4 p f 2 2 2 3 2 m u 1f f 1d 1r 5 4 0 2 1 c r b m q s 8 1a t 0 h 4 2 9 b 4 2 14 o 2 2
    7 l m 4 0 4 1d 2 0 4 1 3 4 3 0 2 0 p 2 3 a 8 2 d 5 3 5 3 5 a 6 2 6 2 16 2 d 7 36 u 8mb d
    m 5 1c 6it a5 3 2x 13 6 d 4 6 0 2 9 2 c 2 4 2 0 2 1 2 1 2 2z y a2 j 1r 3 1h 15 b 39 4 2
    3q 11 p 7 p c 2g 4 5 3 5 3 5 3 2 10 b 2 p 2 i 2 1 2 e 3 d z 3e au s 4 1c 1c v e j 2 7 7
    11 b t 3 z 5 7 1d 4d j z 5 z 5 13 9 1f d a 2 e 2 6 2 1 2 a 2 e 2 6 2 1 1w 8m a l b 7 p 5
    2 15 2 8 1y 5 3 0 2 17 2 1 4 0 3 m b m a u 1u i 2 1 b l b p 1z 1j 7 1 1t 0 g 3 2 2 2 s
    17 s 4 s 10 7 2 r s 1h b l b i e h 33 20 1k 1e e 1e e z 9p 15 7 1 27 s b 0 9 l 17 h 1b k
    s m d 1g 1m 1 3 0 e 18 x o r z u 0 3 0 9 y 4 0 d 1b f 3 m 0 2 0 10 h 2 o 2d 6 2 0 2 3 2
    e 2 9 8 1a 13 7 3 1 3 l 2 6 2 1 2 4 4 0 j 0 d 4 4f 1g j 3 l 2 v 1b l 1 2 0 55 1a 16 3 11
    1b l 0 1o 16 e 0 20 q 12 6 56 17 39 1r w 7 3 0 3 7 2 1 2 n g 0 2 0 2n 7 3 12 h 0 2 0 t 0
    b 13 8 0 m 0 c 19 k 0 j 20 7c 8 2 10 i 0 1e t 35 6 2 1 2 11 m 0 q 5 2 1 2 v f 0 94 i 5a
    0 28 pl 6f 5f 219 2o g tq 34i g6 6nu fs 8 u i 26 i t j 1b h 3 w k 6 i j5 1r 3l 22 6 0 1v
    c 1t 1 2 0 t 4qf 9 yd 17 8 6w8 3 2 6 2 1 2 82 1a 2 i 3 9 az 1s5 2y 6 c 4 8 8 9 4mf 2c 2
    1y 2 1 3 0 3 1 3 3 2 b 2 0 2 6 2 1s 2 3 3 7 2 6 2 r 2 3 2 4 2 0 4 6 2 9f 3 o 2 o 2 u 2 o
    2 u 2 o 2 u 2 o 2 u 2 o 2 7 1f9 u de 18 b 6 h 0 8y t j 17 z9 6 2 3 2 1 2 e 2 5g 1o 1v 8
    0 xh 3 2 q 2 1 2 0 3 0 2 9 2 3 2 0 2 0 7 0 5 0 2 0 2 0 2 2 2 1 2 0 3 0 2 0 2 0 2 0 2 0 2
    1 2 0 3 3 2 6 2 3 2 3 2 0 2 9 2 g 6 2 2 4 2 g 3et wyn x 37c 8 65 3 4g1 f 5rk 2e8 f1 15v
    3t6"

/-- Digits and other numerals outside ASCII that are no letters. -/
def numeralTable : CodeSet := .ofPacked
    "4y 1 6 0 3 2 142 9 3r 9 5j 9 bh 9 3b 9 5 5 31 9 3b 9 3b 9 3 5 33 c 38 9 9 6 2w 9 2x 6 8
    i 32 9 2p 9 3b 9 1z j 7h 9 1z 9 k0 j oi 2 6o 9 7 9 n 9 8d 9 3l a 4m 9 7 9 53 9 2f 9 3r 9
    7 9 t3 0 4 5 7 9 5j 1e 3 4 k7 1n 27 l hj t 12i 0 lm 0 q 8 f 2 9k 3 3v 9 v 7 2 e x 9 14 e
    msh 9 59 9 8x 5 4b 9 13 9 5j 9 n 9 2f 9 bb 9 gev 9 dq 18 d 1k i 1 9i q 11 3 u 0 9 0 3r 4
    5n 9 q7 7 q 6 14 8 24 4 n 5 4h 1 3 f 3 19 1t 8 1h 1 v 2 24 4 2x 7 p 7 16 6 97 5 1d 9 87
    u 4f 9 17 3 35 6 3r t 3l 9 1p 9 41 9 8 j 70 9 9j 9 3b 9 af 9 2v 9 2v b bp i 2m 9 l3 s 6c
    9 1z 9 ev k to 32 dte 9 2f 9 3r 9 2 6 m7 m jt6 j 31 o uu 1d 1tt 9 br 9 15a 8 3l 9 m0 1m
    2 2 2 3 25 18 2 e qr c 25g 9"

/-- Characters outside ASCII that stand for one digit, also raised or circled. -/
def digitTable : CodeSet := .ofPacked
    "4y 1 6 0 147 9 3r 9 5j 9 bh 9 3b 9 3b 9 3b 9 3b 9 3b 9 3b 9 3b 9 3b 9 3b 9 2p 9 3b 9 1z
    9 7r 9 1z 9 k0 8 vj 9 13 9 8d 9 3l a 4m 9 7 9 53 9 2f 9 3r 9 7 9 t3 0 4 5 7 9 rb 8 c 8 c
    8 2i 0 b 8 2 0 hj 8 2 8 2 8 ozy 9 iv 9 13 9 5j 9 n 9 2f 9 bb 9 gev 9 13b 9 13r 3 kt 9 87
    8 dm 8 c 9 3l 9 1p 9 41 9 7r 9 9j 9 3b 9 af 9 2v 9 2v 9 br 9 2v 9 l3 9 6v 9 1z 9 f5j 9
    2f 9 3r 9 lf9 1d 1tt 9 br 9 193 9 1if a 25i 9"

/-- Decimal digits outside ASCII; every interval starts at a digit zero. -/
def decimalTable : CodeSet := .ofPacked
    "19c 9 3r 9 5j 9 bh 9 3b 9 3b 9 3b 9 3b 9 3b 9 3b 9 3b 9 3b 9 3b 9 2p 9 3b 9 1z 9 7r 9 1z
    9 1fr 9 13 9 8d 9 3l 9 4n 9 7 9 53 9 2f 9 3r 9 7 9 r7r 9 iv 9 13 9 5j 9 n 9 2f 9 bb 9
    gev 9 13b 9 1on 9 ml 9 3l 9 1p 9 41 9 7r 9 9j 9 3b 9 af 9 2v 9 2v 9 br 9 2v 9 l3 9 6v 9
    1z 9 f5j 9 2f 9 3r 9 lf9 1d 1tt 9 br 9 193 9 3o7 9"

/-- Characters outside ASCII that are shown escaped. -/
def unprintableTable : CodeSet := .ofPacked
    "3k w d 0 jv 1 7 3 8 0 2 0 l 0 b2 0 13 1 1f 1 4 0 1k 7 s 3 7 g n 0 5d 0 1d 1 1o 1 2u d 1o
    1 1e 1 g 0 t 1 2 0 c 4 w 8 23 0 4i 0 9 1 3 1 n 0 8 0 2 2 5 1 a 1 3 1 5 7 2 3 3 0 6 1 q 1
    4 0 7 3 3 1 n 0 8 0 3 0 3 0 3 1 2 0 6 3 3 1 4 2 2 6 5 0 2 6 i 9 4 0 a 0 4 0 n 0 8 0 3 0
    6 1 b 0 4 0 4 1 2 e 5 1 d 6 8 0 4 0 9 1 3 1 n 0 8 0 3 0 6 1 a 1 3 1 4 6 4 3 3 0 6 1 j 9
    3 0 7 2 4 0 5 2 3 0 2 0 3 2 3 2 4 2 d 3 6 2 4 0 5 1 2 5 2 d m 4 e 0 4 0 o 0 h 1 a 0 4 0
    5 6 3 0 4 1 2 1 5 1 b 6 n 0 4 0 o 0 b 0 6 1 a 0 4 0 5 6 3 5 3 0 5 1 b 0 3 c e 0 4 0 1g 0
    4 0 7 3 h 1 r 0 4 0 j 2 p 0 a 0 2 1 8 2 2 3 7 0 2 0 9 5 b 1 4 b 1n 3 u 10 3 0 2 0 6 0 p
    0 2 0 o 1 6 0 2 0 7 1 b 1 5 v 21 0 11 3 14 0 11 0 g 0 e 10 5j 0 2 4 2 1 ai 0 5 1 8 0 2 0
    5 1 16 0 5 1 y 0 5 1 8 0 2 0 5 1 g 0 1m 0 5 1 1w 1 x 2 r 5 2f 1 7 1 ht 0 t 2 2i 6 n 8 p
    8 l b e 0 4 0 3 b 2n 1 b 5 b 5 f 0 c 5 2i 6 18 4 1z 9 w 0 d 3 d 3 2 2 17 1 6 a 19 3 r 5
    c 2 1r 1 1u 0 u 1 c 5 b 5 f 1 w 1c 26 2 1c 0 39 7 1p 2 g 2 1p 6 18 1 c 7 18 4 ev 1 7 1
    13 1 7 1 9 0 2 0 2 0 2 0 w 1 1i 0 g 0 f 1 7 0 k 1 4 0 a g p 7 1c g 3 1 s 0 e 2 y e y e
    3x 3 ig o c k 1ed 1 x 0 9q 4 1a 0 2 4 2 1 1l 6 3 d p 8 8 0 8 0 8 0 8 0 8 0 8 0 8 0 8 0
    3j x r 0 2i b 5z p d 4 1s 0 2f 1 2w 4 18 0 2n 0 2d b 1c 0 mlq 2 1k 8 9p j 55 7 5o 4 3 0
    2 0 6 n 1o 2 b 5 1l 7 1z 7 d 5 39 a v 2 27 0 c 3 y 0 1k 8 f 1 b 1 2w n t 9 7 1 7 1 7 8 8
    0 8 0 1p 3 3j 1 b 5 8md b o 3 1e 3 1kx 4xr a7 1 2z 11 8 b 6 4 r 0 6 0 2 0 3 0 3 0 3i f
    ce 1 1j 6 2 v 17 5 1g 0 k 0 5 3 6 0 3s 3 5b 2 7 1 7 1 7 1 4 2 8 0 8 c 3 1 d 0 r 0 k 0 3
    0 g 1 f x 3g 4 4 3 1a 2 2h 0 e 2 2 1a 1b 3l u 2 1e e t 3 11 8 v 4 18 4 v 0 12 3 f 15 4f
    1 b 5 11 3 11 3 15 7 1h a d 0 g 0 8 0 3 0 c 0 g 0 8 0 3 1u 8o 8 n 9 9 n 7 0 17 0 a 1w 7
    1 2 0 19 0 3 2 2 1 o 0 21 7 a 1b k 0 3 4 y 2 s 4 2 1r 1l 3 l 1 1f 0 3 4 9 0 4 0 u 1 4 3
    b 6 a 6 1t v 14 3 d 8 1j 2 u 1 s 4 r 6 5 b 8 27 22 1i 1g c 1g 6 1b 7 b 85 w 0 17 0 4 1 3
    25 15 7 17 l r 11 t j o 8 27 3 11 8 1r 0 6 c q 6 b 5 1i 0 j 7 14 8 2p 0 l a j 0 19 1s 8
    0 2 0 5 0 g 0 c 5 1o 4 b 5 5 0 9 1 3 1 n 0 8 0 3 0 6 0 b 1 3 1 4 1 2 5 2 4 8 1 8 2 6 3u
    2l 0 6 t 21 7 b 4l 1j 1 13 x 1y a b 5 e i 1n 5 b 1h s 1 g 3 o 54 1p 2r 2c b 9 1 2 1 9 0
    3 0 v 0 3 1 d 8 b 1x 9 1 1b 1 c q 21 7 2c c 22 7a a 0 1a 0 f 9 u 2 x 1 n 0 f 20 8 0 3 0
    19 2 2 0 3 0 a 7 b 5 7 0 3 0 12 0 3 0 7 6 b 8l q 52 2 e 1f c po 2t 34 0 6 a 5h 217 2s c
    ts 34g g8 6ns fu 6 w 0 b 3 2a 0 b 5 v 1 7 9 1z 9 b 0 8 0 m 4 k j3 2k 2s 24 3 1m 6 i 1r 6
    a 3 d 4qh 7 yf 15 a 6w6 5 0 8 0 3 0 84 18 4 g 5 7 b1 1s3 30 4 e 2 a 6 b 1 5 3mn 1b 1 o 8
    39 1n 6v 9 14 1 23 7 35 k 1z 49 l b 2g 8 q 3q 2e 0 20 0 3 1 2 1 3 1 5 0 d 0 2 0 8 0 1u 0
    5 1 9 0 8 0 t 0 5 0 6 0 2 2 8 0 9h 1 85 1 jj e 6 0 g un w 68 8 0 i 1 8 0 3 0 6 5w 1a 2 f
    1 b 3 3 8v w g 1n 4 2 yn 8 0 5 0 3 0 g 0 5i 1 h 14 25 3 b 3 3 ls 1x 23 1q 5d 5 0 s 0 3 0
    2 1 2 0 b 0 5 0 2 0 2 5 2 3 2 0 2 0 2 0 4 0 3 0 2 1 2 0 2 0 2 0 2 0 2 0 3 0 2 1 5 0 8 0
    5 0 5 0 2 0 b 0 i 4 4 0 6 0 i 1f 3 7h 19 3 2t b g 1 g 0 g 0 12 9 4v 1j u c 19 3 a 6 3 d
    7 49 rd 4 h 2 e 2 39 b 2i 6 d 3 2 e d 3 1l 7 b 5 15 7 v 1 3 25 9h b f 1 6 2 6 2 8 8 u 2
    c 4 7 9 b 5 9 7 8 8 44 0 1k 10 b sl wyp v 37e 6 67 1 4g3 d 5rm 2e6 f3 15t 3t8 fcms 6p
    47bj"

/-- Characters outside ASCII that start an identifier though they are no letters. -/
def initialOnlyTable : CodeSet := .ofPacked
    "4j2 2 b9 1 1oy 0 m 0 1e y 3 3 2v3 0 q 8 f 2 nfw 9 hu9 1g ct 0 9 0 3r 4 6cr 32"

/-- Letters outside ASCII that do not start an identifier. -/
def neverInitialTable : CodeSet := .ofPacked
    "oq 0 249 0 3k 0 67w 0 14q7 5 bb 1 39 0 2 0 2 0 2 0 2 0 2 0 2 0 2 0 80 1"

/-- Characters outside ASCII that continue an identifier. -/
def continueTable : CodeSet := .ofPacked
    "4q 0 b 0 2 0 3 0 6 m 2 u 2 cp 5 b f 4 8 0 2 0 i 38 2 1 4 2 2 0 7 4 2 0 2 j 2 2a 2 3u 2 4
    3 4l 2 11 3 0 7 14 9 18 2 0 2 1 2 1 2 0 9 q 5 3 u a 6 21 5 2t 2 7 3 9 2 i 3 0 h 1m 3 2s
    f 1h 5 0 3 0 3 19 j r 5 a 6 n 2 5 a 21 2 3k 3 9 2 i 2 7 3 1 3 l 2 6 2 0 4 3 3 8 3 1 3 3
    9 0 5 1 2 4 3 b b 0 2 0 3 2 2 5 5 1 3 l 2 6 2 1 2 1 2 1 3 0 2 4 5 1 3 2 4 0 8 3 2 0 8 f
    c 2 2 8 2 2 2 l 2 6 2 1 2 4 3 9 2 2 2 2 3 0 g 3 3 9 a 6 2 2 2 7 3 1 3 l 2 6 2 1 2 4 3 8
    3 1 3 2 8 2 5 1 2 4 3 9 2 0 h 1 2 5 4 2 2 3 4 1 2 0 2 1 4 1 4 2 4 b 5 4 4 2 2 3 3 0 7 0
    f 9 h c 2 2 2 m 2 f 3 8 2 2 2 3 8 1 2 2 3 0 3 3 3 9 h 3 2 7 2 2 2 m 2 9 2 4 3 8 2 2 2 3
    8 1 7 1 2 3 3 9 2 1 e c 2 2 2 1e 2 2 2 4 6 3 8 4 3 9 b 5 2 2 2 h 4 n 2 8 2 0 3 6 4 0 5 5
    2 0 2 7 7 9 3 1 e 1l 6 e 2 9 14 1 2 0 2 4 2 n 2 0 2 m 3 4 2 0 2 5 3 9 3 3 x 0 o 1 7 9 c
    0 2 0 2 0 5 9 2 z 5 j 2 h 2 z a 0 1m 21 7 25 3 11 2 0 6 0 3 16 2 98 2 3 3 6 2 0 2 3 3 14
    2 3 3 w 2 3 3 6 2 0 2 3 3 e 2 1k 2 3 3 1u 3 2 a 8 f f h 2d 3 5 4 h7 3 g 2 p 6 22 4 a 8 l
    a l c j d c 2 2 2 1 d 2b 4 0 5 1 3 9 y 2 2 a 7 2g 8 16 6 1x b u 2 b 5 b b 13 3 4 c 17 5
    p 7 a 12 r 5 1q 2 s 3 a 7 9 e 0 9 d 2 f 1e 24 4 9 i 8 d 37 d 1j 9 9 4 1c 3 8 8 16 3 2 h
    2 2 12 6 et 3 5 3 11 3 5 3 7 2 0 2 0 2 0 2 u 3 1g 2 6 2 0 4 2 2 6 4 3 3 5 5 c 6 2 2 6 1v
    1 k 0 t 0 e 0 h c 1g c 5 0 4 b i 0 5 0 3 9 2 0 3 5 7 0 2 0 2 0 2 f 3 3 6 4 5 0 i 14 22g
    6c 7 8 d 11 2 0 6 0 3 1j 8 0 g n a 6 2 6 2 6 2 6 2 6 2 6 2 6 2 6 2 v ee 2 q e 2 4 3 4 5
    2d 3 1 3 2 2 2h 2 3 6 16 2 2l i v 1d f e9 533 1t h3g 1w 19 3 7g 4 r l 1b 5 9 2 36 12 8 3
    2u 3 1r 6 1 2 0 2 4 p 1h 5 0 k 1f d 1x b 9 7 n 4 0 2 1c 3 z d s 4 1s f a 7 u 2 1i a d 3
    9 7 m 4 20 p 2 3 f 3 4 b 5 3 5 3 5 a 6 2 6 2 16 2 d 7 3e 2 1 3 9 7 8mb d m 5 1c 6it a5 3
    2x 13 6 d 4 6 b 2 c 2 4 2 0 2 1 2 1 2 2z y 3u 7 61 j 1r 3 1h 15 9 7 f h f 4 1 p 2 y 0 2
    0 4 0 2 0 2 0 2 0 2 3h k 9 8 p 5 0 2 p c 2g 4 5 3 5 3 5 3 2 10 b 2 p 2 i 2 1 2 e 3 d z
    3e 1y 1g 3t 0 3n s 4 1c g 0 w v e t 6 16 6 t 3 z 5 7 2 4 17 4d 3 9 7 z 5 z 5 13 9 1f d a
    2 e 2 6 2 1 2 a 2 e 2 6 2 1 1w 8m a l b 7 p 5 2 15 2 8 1y 5 3 0 2 17 2 1 4 0 3 m b m a u
    1u i 2 1 b l b p 1z 1j 7 1 1t 3 2 1 6 7 2 2 2 s 3 2 5 0 x s 4 s 10 7 2 t q 1h b l b i e
    h 33 20 1k 1e e 1e e 13 9 9 93 15 2 1 4 1 27 s b 0 9 w w l 17 k s m a 1y w f a 1n 8 0 e
    o 8 9 7 1g 2 9 5 3 9 z 3 0 a 1w 5 3 2 c 2 0 10 h 2 10 7 0 1u 6 2 0 2 3 2 e 2 9 8 1m 6 9
    7 3 2 7 3 1 3 l 2 6 2 1 2 4 2 9 3 1 3 2 3 0 7 0 6 6 3 6 4 4 3w 22 6 9 5 3 v 1x 2 0 9 9
    4n 1h 3 8 o 5 z 1s 4 0 c 9 13 1k 8 9 1j q 3 e 5 9 7 6 56 1m 2u 21 m 7 3 0 3 7 2 1 2 t 2
    1 3 8 d 9 1z 7 3 19 3 7 2 1 s 1q 9 0 9 21 4 0 j 20 7c 8 2 18 2 8 g 9 p t 3 l 2 d 22 6 2
    1 2 17 4 0 2 1 2 8 9 9 7 5 2 1 2 10 2 1 2 5 8 9 8n m 56 0 28 pl 2v 32 i 5f 219 2o g tq
    34i g6 6nu fs 8 u 2 9 7 26 2 9 7 t 3 4 c 1i a 3 d 9 a k 6 i j5 1r 3l 22 5 1k 8 g 1t 1 2
    1 c 1 f 4qf 9 yd 17 8 6w8 3 2 6 2 1 2 82 1a 2 i 3 9 az 1s5 2y 6 c 4 8 8 9 4 1 3mq 19 3 m
    f3 4 4 5 9 7 3 6 v 3 45 2 cc 2c 2 1y 2 1 3 0 3 1 3 3 2 b 2 0 2 6 2 1s 2 3 3 7 2 6 2 r 2
    3 2 4 2 0 4 6 2 9f 3 o 2 o 2 u 2 o 2 u 2 o 2 u 2 o 2 u 2 o 2 7 3 1d e9 1i 5 1d 9 0 f 0 n
    4 2 e up u 6a 6 2 g 3 6 2 1 2 4 5y 18 4 d 3 9 5 0 8y u i 1l yv 6 2 3 2 1 2 e 2 5g c 6 16
    23 5 9 x3 3 2 q 2 1 2 0 3 0 2 9 2 3 2 0 2 0 7 0 5 0 2 0 2 0 2 2 2 1 2 0 3 0 2 0 2 0 2 0
    2 0 2 1 2 0 3 3 2 6 2 3 2 3 2 0 2 9 2 g 6 2 2 4 2 g 2lx 9 sn wyn x 37c 8 65 3 4g1 f 5rk
    2e8 f1 15v 3t6 fcmu 6n"

/-- An ASCII letter. -/
def isAsciiLetter (c : Char) : Bool :=
  ('a' ≤ c && c ≤ 'z') || ('A' ≤ c && c ≤ 'Z')

/-- An ASCII decimal digit. -/
def isAsciiDigit (c : Char) : Bool :=
  '0' ≤ c && c ≤ '9'

/-- A letter of any script. -/
def isLetter (c : Char) : Bool :=
  if c.toNat < 128 then isAsciiLetter c else letterTable.contains c.toNat

/-- A character that stands for one digit. -/
def isDigit (c : Char) : Bool :=
  if c.toNat < 128 then isAsciiDigit c else digitTable.contains c.toNat

/-- A letter, a digit or another numeral. -/
def isLetterOrNumeral (c : Char) : Bool :=
  if c.toNat < 128 then isAsciiLetter c || isAsciiDigit c
  else letterTable.contains c.toNat || numeralTable.contains c.toNat

/-- A blank: ASCII blanks and separators, and the spaces of other blocks. -/
def isBlank (c : Char) : Bool :=
  let n := c.toNat
  (9 ≤ n && n ≤ 13) || (28 ≤ n && n ≤ 32) || n == 0x85 || n == 0xa0 ||
    n == 0x1680 || (0x2000 ≤ n && n ≤ 0x200a) || n == 0x2028 || n == 0x2029 ||
    n == 0x202f || n == 0x205f || n == 0x3000

/-- A character that is shown as itself inside quotes. -/
def isPrintable (c : Char) : Bool :=
  if c.toNat < 128 then 32 ≤ c.toNat && c.toNat < 127
  else !unprintableTable.contains c.toNat

/-- The value of a decimal digit of any script. -/
def decimalValue? (c : Char) : Option Nat :=
  if c.toNat < 128 then
    if isAsciiDigit c then some (c.toNat - '0'.toNat) else none
  else
    (decimalTable.intervals.find? fun (low, high) =>
      low ≤ c.toNat && c.toNat ≤ high).map fun (low, _) => (c.toNat - low) % 10

/-- A character that may start an identifier. -/
def isIdentifierStart (c : Char) : Bool :=
  if c.toNat < 128 then isAsciiLetter c || c == '_'
  else
    (letterTable.contains c.toNat && !neverInitialTable.contains c.toNat) ||
      initialOnlyTable.contains c.toNat

/-- A character that may continue an identifier. -/
def isIdentifierPart (c : Char) : Bool :=
  if c.toNat < 128 then isAsciiLetter c || isAsciiDigit c || c == '_'
  else continueTable.contains c.toNat

/-- Drop blanks at both ends. -/
def trimBlanks (text : List Char) : List Char :=
  ((text.dropWhile isBlank).reverse.dropWhile isBlank).reverse

/-- `trimBlanks` on strings. -/
def trim (text : String) : String :=
  String.ofList (trimBlanks text.toList)

theorem isAsciiDigit_isDigit {c : Char} (h : isAsciiDigit c = true) :
    isDigit c = true := by
  have bound : c.toNat < 128 := by
    simp only [isAsciiDigit, Bool.and_eq_true, decide_eq_true_eq] at h
    have upper : c.toNat ≤ '9'.toNat := h.2
    have nine : '9'.toNat = 57 := rfl
    omega
  simp [isDigit, bound, h]

end ReactiveSchema.Text
