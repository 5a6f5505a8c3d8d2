import ReactiveSchema.Text.Packed

/-!
# Upper case

The full upper-case mapping of version 14 of the Unicode standard.  Most
characters move by a constant inside a run of neighbours; some become two or
three characters.
-/

namespace ReactiveSchema.Text

/-- A run of characters that move by one distance. -/
structure UpperRun where
  first : Nat
  count : Nat
  stride : Nat
  downward : Bool
  distance : Nat

namespace UpperRun

/-- The runs of a table `first, count, stride, downward, distance`. -/
def ofNumbers : List Nat → List UpperRun
  | first :: count :: stride :: downward :: distance :: rest =>
      ⟨first, count, stride, downward == 1, distance⟩ :: ofNumbers rest
  | _ => []

/-- Is the code point one of the run's members? -/
def covers (run : UpperRun) (code : Nat) : Bool :=
  run.first ≤ code && code < run.first + run.count * run.stride &&
    (code - run.first) % run.stride == 0

/-- Where a member of the run moves. -/
def move (run : UpperRun) (code : Nat) : Nat :=
  if run.downward then code - run.distance else code + run.distance

end UpperRun

/-- The runs of the standard outside ASCII. -/
def upperRuns : List UpperRun := UpperRun.ofNumbers (unpack
    "51 1 1 0 kn 68 n 1 1 w 6w 7 1 1 w 73 1 1 0 3d 75 o 2 1 1 8h 1 1 1 6g 8j 3 2 1 1 8q 8 2 1
    1 97 n 2 1 1 ai 3 2 1 1 an 1 1 1 8c ao 1 1 0 5f ar 2 2 1 1 aw 1 1 1 1 b0 1 1 1 1 b6 1 1
    1 1 b9 1 1 0 2p bd 1 1 1 1 be 1 1 0 4j bi 1 1 0 3m bl 3 2 1 1 bs 1 1 1 1 bx 1 1 1 1 c0 1
    1 1 1 c4 2 2 1 1 c9 1 1 1 1 cd 1 1 1 1 cf 1 1 0 1k cl 1 1 1 1 cm 1 1 1 2 co 1 1 1 1 cp 1
    1 1 2 cr 1 1 1 1 cs 1 1 1 2 cu 8 2 1 1 d9 1 1 1 27 db 9 2 1 1 du 1 1 1 1 dv 1 1 1 2 dx 1
    1 1 1 e1 k 2 1 1 f7 9 2 1 1 fw 1 1 1 1 fz 2 1 0 8cf g2 1 1 1 1 g7 5 2 1 1 gg 1 1 0 8bj
    gh 1 1 0 8bg gi 1 1 0 8bi gj 1 1 1 5u gk 1 1 1 5q gm 2 1 1 5p gp 1 1 1 5m gr 1 1 1 5n gs
    1 1 0 wnj gw 1 1 1 5p gx 1 1 0 wnf gz 1 1 1 5r h1 1 1 0 wmg h2 1 1 0 wn8 h4 1 1 1 5t h5
    1 1 1 5v h6 1 1 0 wn8 h7 1 1 0 8af h8 1 1 0 wn5 hb 1 1 1 5v hd 1 1 0 8al he 1 1 1 5x hh
    1 1 1 5y hp 1 1 0 89z hs 1 1 1 62 hu 1 1 0 wn7 hv 1 1 1 62 hz 1 1 0 wmi i0 1 1 1 62 i1 1
    1 1 1x i2 2 1 1 61 i4 1 1 1 1z ia 1 1 1 63 il 1 1 0 wlx im 1 1 0 wlu n9 1 1 0 2c oh 2 2
    1 1 on 1 1 1 1 or 3 1 0 3m q4 1 1 1 12 q5 3 1 1 11 q9 h 1 1 w qq 1 1 1 v qr 9 1 1 w r0 1
    1 1 1s r1 2 1 1 1r r4 1 1 1 1q r5 1 1 1 1l r9 1 1 1 1b ra 1 1 1 1i rb 1 1 1 8 rd c 2 1 1
    s0 1 1 1 2e s1 1 1 1 28 s2 1 1 0 7 s3 1 1 1 38 s5 1 1 1 2o s8 1 1 1 1 sb 1 1 1 1 ts w 1
    1 w uo g 1 1 28 v5 h 2 1 1 wb r 2 1 1 xu 7 2 1 1 y7 1 1 1 f y9 1c 2 1 1 129 12 1 1 1c
    3bk 17 1 0 2bk 3ct 3 1 0 2bk 3y0 6 1 1 8 5mo 1 1 1 4tq 5mp 1 1 1 4tp 5mq 1 1 1 4tg 5mr 2
    1 1 4te 5mt 1 1 1 4tf 5mu 1 1 1 4t8 5mv 1 1 1 4rp 5mw 1 1 0 r7m 5tl 1 1 0 r9g 5tp 1 1 0
    2xy 5u6 1 1 0 raw 5xd 23 2 1 1 61n 1 1 1 1n 61t 1c 2 1 1 64g 8 1 0 8 64w 6 1 0 8 65c 8 1
    0 8 65s 8 1 0 8 668 6 1 0 8 66p 4 2 0 8 674 8 1 0 8 67k 2 1 0 22 67m 4 1 0 2e 67q 2 1 0
    2s 67s 2 1 0 3k 67u 2 1 0 34 67w 2 1 0 3i 69c 2 1 0 8 69q 1 1 1 5k5 6a8 2 1 0 8 6ao 2 1
    0 8 6at 1 1 0 7 6ku 1 1 1 s 6ls g 1 1 g 6mc 1 1 1 1 79s q 1 1 q 8q8 1c 1 1 1c 8rl 1 1 1
    1 8rp 1 1 1 8bv 8rq 1 1 1 8bs 8rs 3 2 1 1 8s3 1 1 1 1 8s6 1 1 1 1 8sh 1e 2 1 1 8vg 2 2 1
    1 8vn 1 1 1 1 8w0 12 1 1 5ls 8x3 1 1 1 5ls 8x9 1 1 1 5ls wu9 n 2 1 1 ww1 e 2 1 1 x0j 7 2
    1 1 x0z v 2 1 1 x2y 2 2 1 1 x33 5 2 1 1 x3g 1 1 1 1 x3l 2 2 1 1 x3o 1 1 0 1c x3r a 2 1 1
    x4l 8 2 1 1 x54 2 2 1 1 x5d 1 1 1 1 x5j 2 2 1 1 x6e 1 1 1 1 xub 1 1 1 ps xv4 28 1 1 tzk
    1ef5 q 1 1 w 1fe0 14 1 1 14 1fiw 10 1 1 14 1fo7 b 1 1 13 1foj f 1 1 13 1foz 7 1 1 13
    1fp7 2 1 1 13 1h34 1f 1 1 1s 1jgg w 1 1 w 20dc w 1 1 w 2oma y 1 1 y")

/-- Characters whose upper case has several characters. -/
def upperSpellings : List (Nat × List Nat) := rows (unpack
    "67 2 2b 2b 95 2 jg 26 ds 2 22 lo pc 3 pl lk ld q8 3 px lk ld 13b 2 111 11u 61i 2 20 mp
    61j 2 2c lk 61k 2 2f lm 61l 2 2h lm 61m 2 1t ji 66o 2 px lv 66q 3 px lv lc 66s 3 px lv
    ld 66u 3 px lv n6 680 2 64o pl 681 2 64p pl 682 2 64q pl 683 2 64r pl 684 2 64s pl 685 2
    64t pl 686 2 64u pl 687 2 64v pl 688 2 64o pl 689 2 64p pl 68a 2 64q pl 68b 2 64r pl 68c
    2 64s pl 68d 2 64t pl 68e 2 64u pl 68f 2 64v pl 68g 2 65k pl 68h 2 65l pl 68i 2 65m pl
    68j 2 65n pl 68k 2 65o pl 68l 2 65p pl 68m 2 65q pl 68n 2 65r pl 68o 2 65k pl 68p 2 65l
    pl 68q 2 65m pl 68r 2 65n pl 68s 2 65o pl 68t 2 65p pl 68u 2 65q pl 68v 2 65r pl 68w 2
    67c pl 68x 2 67d pl 68y 2 67e pl 68z 2 67f pl 690 2 67g pl 691 2 67h pl 692 2 67i pl 693
    2 67j pl 694 2 67c pl 695 2 67d pl 696 2 67e pl 697 2 67f pl 698 2 67g pl 699 2 67h pl
    69a 2 67i pl 69b 2 67j pl 69e 2 69m pl 69f 2 pd pl 69g 2 p2 pl 69i 2 pd n6 69j 3 pd n6
    pl 69o 2 pd pl 69u 2 6a2 pl 69v 2 pj pl 69w 2 p5 pl 69y 2 pj n6 69z 3 pj n6 pl 6a4 2 pj
    pl 6aa 3 pl lk lc 6ab 3 pl lk ld 6ae 2 pl n6 6af 3 pl lk n6 6aq 3 px lk lc 6ar 3 px lk
    ld 6as 2 pt lv 6au 2 px n6 6av 3 px lk n6 6b6 2 6be pl 6b7 2 q1 pl 6b8 2 pb pl 6ba 2 q1
    n6 6bb 3 q1 n6 pl 6bg 2 q1 pl 1dkw 2 1y 1y 1dkx 2 1y 21 1dky 2 1y 24 1dkz 3 1y 1y 21
    1dl0 3 1y 1y 24 1dl1 2 2b 2c 1dl2 2 2b 2c 1dlf 2 11g 11i 1dlg 2 11g 111 1dlh 2 11g 117
    1dli 2 11q 11i 1dlj 2 11g 119")

/-- The upper case of one character. -/
def upperChar (c : Char) : List Char :=
  if c.toNat < 128 then
    if 'a' ≤ c ∧ c ≤ 'z' then [Char.ofNat (c.toNat - 32)] else [c]
  else
    match rowOf? upperSpellings c.toNat with
    | some codes => codes.map Char.ofNat
    | none =>
        match upperRuns.find? (·.covers c.toNat) with
        | some run => [Char.ofNat (run.move c.toNat)]
        | none => [c]

/-- The upper case of a text, character by character. -/
def upper (text : String) : String :=
  String.ofList (text.toList.flatMap upperChar)

end ReactiveSchema.Text
