import ReactiveSchema.Text.Decomposition

/-!
# Composed characters

Marks join the letter before them where there is one character for both.  The
compatibility form of a text is its decomposition, joined in this way: two
spellings of one name have the same form.
-/

namespace ReactiveSchema.Text

/-- For each first character the second ones that join it, each with the joint character. -/
def jointTable : List (Nat × List Nat) := rows (unpack
    "1o 2 mw 6su 1p 2 mw 6sg 1q 2 mw 6sv 1t w lc 5c ld 5d le 5e lf 5f lk 5g lm 5h lg 74 li 76
    mg 78 lo ct lr e8 lt ea lj fa md 5xc mb 61s ll 61u 1u 6 lj 5xe mb 5xg mp 5xi 1v a mf 5j
    ld 7a le 7c lj 7e lo 7g 1w c lo 7i lj 5xm mb 5xo mp 5xq mf 5xs ml 5xu 1x y lc 5k ld 5l
    le 5m lk 5n lg 7m li 7o lj 7q mg 7s lo 7u lr ec lt ee mf fc ml 5y0 mo 5y2 mb 62g ll 62i
    lf 62k 1y 2 lj 5y6 1z e le 7w li 7y lj 80 mf 82 lo di ld dw lg 5y8 20 e le 84 lo f2 lj
    5ya mb 5yc lk 5ye mf 5yg mm 5yi 21 u lc 5o ld 5p le 5q lk 5r lf 88 lg 8a li 8c mg 8e lj
    8g lo cv lr eg lt ei mo 5yk ll 62w mb 62y 22 2 le 8k 23 a mf 8m lo dk ld 5yo mb 5yq mp
    5ys 24 c ld 8p mf 8r lo 8t mb 5yu mp 5yy ml 5z0 25 6 ld 5z2 lj 5z4 mb 5z6 26 i lf 5t ld
    8z mf 91 lo 93 lc e0 lj 5z8 mb 5za mp 5zc ml 5ze 27 w lc 5u ld 5v le 5w lf 5x lk 5y lg
    98 li 9a ln 9c m3 bk lo cx mg dm lr ek lt em lj fi mb 630 ll 632 28 4 ld 5zo lj 5zq 2a g
    ld 9g mf 9i lo 9k lr eo lt eq lj 5zs mb 5zu mp 5zy 2b e ld 9m le 9o mf 9q lo 9s me ew lj
    600 mb 602 2c e mf 9u lo 9w me ey lj 60a mb 60c mp 60e ml 60g 2d 12 lc 61 ld 62 le 63 lk
    64 lf a0 lg a2 li a4 lm a6 ln a8 mg aa m3 bz lo cz lr es lt eu mc 60i mo 60k ml 60m mb
    63o ll 63q 2e 4 lf 60s mb 60u 2f c le ac lc 60w ld 60y lk 610 lj 612 mb 614 2g 4 lj 616
    lk 618 2h i ld 65 le ae lk ag lg fm lj 61a lc 642 mb 644 ll 646 lf 648 2i c ld ah lj aj
    lo al le 61c mb 61e mp 61g 2p w lc 68 ld 69 le 6a lf 6b lk 6c lm 6d lg 75 li 77 mg 79 lo
    cu lr e9 lt eb lj fb md 5xd mb 61t ll 61v 2q 6 lj 5xf mb 5xh mp 5xj 2r a mf 6f ld 7b le
    7d lj 7f lo 7h 2s c lo 7j lj 5xn mb 5xp mp 5xr mf 5xt ml 5xv 2t y lc 6g ld 6h le 6i lk
    6j lg 7n li 7p lj 7r mg 7t lo 7v lr ed lt ef mf fd ml 5y1 mo 5y3 mb 62h ll 62j lf 62l 2u
    2 lj 5y7 2v e le 7x li 7z lj 81 mf 83 lo dj ld dx lg 5y9 2w g le 85 lo f3 lj 5yb mb 5yd
    lk 5yf mf 5yh mm 5yj mp 61i 2x s lc 6k ld 6l le 6m lk 6n lf 89 lg 8b li 8d mg 8f lo cw
    lr eh lt ej mo 5yl ll 62x mb 62z 2y 4 le 8l lo ds 2z a mf 8n lo dl ld 5yp mb 5yr mp 5yt
    30 c ld 8q mf 8s lo 8u mb 5yv mp 5yz ml 5z1 31 6 ld 5z3 lj 5z5 mb 5z7 32 i lf 6p ld 90
    mf 92 lo 94 lc e1 lj 5z9 mb 5zb mp 5zd ml 5zf 33 w lc 6q ld 6r le 6s lf 6t lk 6u lg 99
    li 9b ln 9d m3 bl lo cy mg dn lr el lt en lj fj mb 631 ll 633 34 4 ld 5zp lj 5zr 36 g ld
    9h mf 9j lo 9l lr ep lt er lj 5zt mb 5zv mp 5zz 37 e ld 9n le 9p mf 9r lo 9t me ex lj
    601 mb 603 38 g mf 9v lo 9x me ez lj 60b mb 60d mp 60f ml 60h lk 61j 39 12 lc 6x ld 6y
    le 6z lk 70 lf a1 lg a3 li a5 lm a7 ln a9 mg ab m3 c0 lo d0 lr et lt ev mc 60j mo 60l ml
    60n mb 63p ll 63r 3a 4 lf 60t mb 60v 3b e le ad lc 60x ld 60z lk 611 lj 613 mb 615 lm
    61k 3c 4 lj 617 lk 619 3d k ld 71 lk 73 le af lg fn lj 61b lm 61l lc 643 mb 645 ll 647
    lf 649 3e c ld ai lj ak lo am le 61d mb 61f mp 61h 4o 6 ld p1 n6 69t lc 6b1 5e 8 ld 61w
    lc 61y ll 620 lf 622 5g 2 lg da 5h 2 ld e2 5i 4 lg de ld e4 5j 2 ld 5xk 5m 8 ld 62m lc
    62o ll 62q lf 62s 5r 2 ld 5ym 5w 8 ld 634 lc 636 ll 638 lf 63a 5x 6 lg fg ld 5zg lk 5zi
    5y 2 lg fe 60 2 ld e6 64 8 lg d1 ld d3 lo d5 lc d7 6a 8 ld 61x lc 61z ll 621 lf 623 6c 2
    lg db 6d 2 ld e3 6e 4 lg df ld e5 6f 2 ld 5xl 6i 8 ld 62n lc 62p ll 62r lf 62t 6n 2 ld
    5yn 6s 8 ld 635 lc 637 ll 639 lf 63b 6t 6 lg fh ld 5zh lk 5zj 6u 2 lg ff 6w 2 ld e7 70 8
    lg d2 ld d4 lo d6 lc d8 76 8 ld 626 lc 628 ll 62a lf 62c 77 8 ld 627 lc 629 ll 62b lf
    62d 7m 4 lc 5xw ld 5xy 7n 4 lc 5xx ld 5xz 98 4 lc 5zk ld 5zm 99 4 lc 5zl ld 5zn 9m 2 lj
    604 9n 2 lj 605 9s 2 lj 606 9t 2 lj 607 a0 2 ld 60o a1 2 ld 60p a2 2 lk 60q a3 2 lk 60r
    an 2 lj 61n bk a ld 63e lc 63g ll 63i lf 63k mb 63m bl a ld 63f lc 63h ll 63j lf 63l mb
    63n bz a ld 63s lc 63u ll 63w lf 63y mb 640 c0 a ld 63t lc 63v ll 63x lf 63z mb 641 c7 2
    lo dq dm 2 lg do dn 2 lg dp fa 2 lg dc fb 2 lg dd fc 2 li 5y4 fd 2 li 5y5 fi 2 lg fk fj
    2 lg fl ia 2 lo dr pd e ld p2 lv 64o lw 64p li 69k lg 69l lc 69m n9 69o ph 8 ld p4 lv
    654 lw 655 lc 6a0 pj a ld p5 lv 65k lw 65l lc 6a2 n9 6a4 pl e ld p6 lk q2 lv 660 lw 661
    li 6ag lg 6ah lc 6ai pr 8 ld p8 lv 66g lw 66h lc 6bc pt 2 lw 6b0 px c ld pa lk q3 lw 66x
    li 6aw lg 6ax lc 6ay q1 a ld pb lv 67c lw 67d lc 6be n9 6bg q4 2 n9 69g q6 2 n9 69w q9 g
    ld q4 lv 64g lw 64h lc 67k li 69c lg 69d n9 69f n6 69i qd 8 ld q5 lv 64w lw 64x lc 67m
    qf c ld q6 lv 65c lw 65d lc 67o n9 69v n6 69y qh g ld q7 lk qy lv 65s lw 65t lc 67q li
    6a8 lg 6a9 n6 6ae qn 8 ld r0 lv 668 lw 669 lc 67s qp 4 lv 6as lw 6at qt g lk qz ld r1 lv
    66o lw 66p lc 67u li 6ao lg 6ap n6 6au qx c ld r2 lv 674 lw 675 lc 67w n9 6b7 n6 6ba qy
    6 ld pc lc 6aa n6 6af qz 6 ld q8 lc 6aq n6 6av r2 2 n9 6b8 r6 4 ld r7 lk r8 sm 2 lk sn
    sw 4 li y8 lk ya sz 2 ld sj t1 6 lc sg lk sh li ye t2 4 li xt lk yk t3 2 lk ym t4 8 lc
    st li t5 lg yq lk ys t6 2 ld ss ta 2 lk yu tf 8 li su lg z2 lk z4 ln z6 tj 2 lk z8 tn 2
    lk zc tp 2 lk z0 ts 4 li y9 lk yb tv 2 ld ur tx 6 lc uo lk up li yf ty 4 li xu lk yl tz
    2 lk yn u0 8 li u1 lc v1 lg yr lk yt u2 2 ld v0 u6 2 lk yv ub 8 li v2 lg z3 lk z5 ln z7
    uf 2 lk z9 uj 2 lk zd ul 2 lk z1 uu 2 lk uv vo 2 lr vq vp 2 lr vr yg 2 lk yi yh 2 lk yj
    yw 2 lk yy yx 2 lk yz 17r 6 18z 17m 190 17n 191 17p 18o 2 190 17o 18q 2 190 17q 1c1 2
    190 1c2 1ci 2 190 1cj 1cl 2 190 1c0 1t4 2 1to 1t5 1tc 2 1to 1td 1tf 2 1to 1tg 1xj 4 1xa
    1xn 1xz 1xo 287 6 28m 288 27y 28b 28n 28c 2aa 2 2c7 2ac 2bq 4 2bi 2bu 2c7 2bw 2br 2 2bi
    2bv 2fa 2 2fq 2fc 2in 2 2j9 2io 2iu 6 2j9 2iv 2ja 2iw 2iq 2iy 2iy 2 2j9 2iz 2me 4 2m6
    2mi 2mv 2mk 2mf 2 2m6 2mj 2qh 6 2q2 2qi 2q7 2qk 2qn 2qm 2qk 2 2q2 2ql 36t 2 372 36u 5c5
    2 5dh 5c6 5c7 2 5dh 5c8 5c9 2 5dh 5ca 5cb 2 5dh 5cc 5cd 2 5dh 5ce 5ch 2 5dh 5ci 5dm 2
    5dh 5dn 5do 2 5dh 5dp 5dq 2 5dh 5ds 5dr 2 5dh 5dt 5du 2 5dh 5dv 5yu 2 lg 5yw 5yv 2 lg
    5yx 5zu 2 lg 5zw 5zv 2 lg 5zx 602 2 lj 608 603 2 lj 609 61s 4 le 624 li 62e 61t 4 le 625
    li 62f 62g 2 le 62u 62h 2 le 62v 630 2 le 63c 631 2 le 63d 64g 8 lc 64i ld 64k n6 64m n9
    680 64h 8 lc 64j ld 64l n6 64n n9 681 64i 2 n9 682 64j 2 n9 683 64k 2 n9 684 64l 2 n9
    685 64m 2 n9 686 64n 2 n9 687 64o 8 lc 64q ld 64s n6 64u n9 688 64p 8 lc 64r ld 64t n6
    64v n9 689 64q 2 n9 68a 64r 2 n9 68b 64s 2 n9 68c 64t 2 n9 68d 64u 2 n9 68e 64v 2 n9 68f
    64w 4 lc 64y ld 650 64x 4 lc 64z ld 651 654 4 lc 656 ld 658 655 4 lc 657 ld 659 65c 8 lc
    65e ld 65g n6 65i n9 68g 65d 8 lc 65f ld 65h n6 65j n9 68h 65e 2 n9 68i 65f 2 n9 68j 65g
    2 n9 68k 65h 2 n9 68l 65i 2 n9 68m 65j 2 n9 68n 65k 8 lc 65m ld 65o n6 65q n9 68o 65l 8
    lc 65n ld 65p n6 65r n9 68p 65m 2 n9 68q 65n 2 n9 68r 65o 2 n9 68s 65p 2 n9 68t 65q 2 n9
    68u 65r 2 n9 68v 65s 6 lc 65u ld 65w n6 65y 65t 6 lc 65v ld 65x n6 65z 660 6 lc 662 ld
    664 n6 666 661 6 lc 663 ld 665 n6 667 668 4 lc 66a ld 66c 669 4 lc 66b ld 66d 66g 4 lc
    66i ld 66k 66h 4 lc 66j ld 66l 66o 6 lc 66q ld 66s n6 66u 66p 6 lc 66r ld 66t n6 66v 66x
    6 lc 66z ld 671 n6 673 674 8 lc 676 ld 678 n6 67a n9 68w 675 8 lc 677 ld 679 n6 67b n9
    68x 676 2 n9 68y 677 2 n9 68z 678 2 n9 690 679 2 n9 691 67a 2 n9 692 67b 2 n9 693 67c 8
    lc 67e ld 67g n6 67i n9 694 67d 8 lc 67f ld 67h n6 67j n9 695 67e 2 n9 696 67f 2 n9 697
    67g 2 n9 698 67h 2 n9 699 67i 2 n9 69a 67j 2 n9 69b 67k 2 n9 69e 67o 2 n9 69u 67w 2 n9
    6b6 69i 2 n9 69j 69r 6 lc 6a5 ld 6a6 n6 6a7 69y 2 n9 69z 6ba 2 n9 6bb 6bi 6 lc 6al ld
    6am n6 6an 6mo 2 mw 6my 6mq 2 mw 6mz 6ms 2 mw 6ni 6og 2 mw 6od 6oi 2 mw 6of 6ok 2 mw 6oe
    6pv 2 mw 6pw 6q0 2 mw 6q1 6q3 2 mw 6q4 6qr 2 mw 6qs 6qt 2 mw 6qu 6rg 2 mw 6rl 6rn 2 mw
    6ro 6rp 2 mw 6rr 6rs 2 mw 6rt 6rx 2 mw 6st 6sh 2 mw 6si 6sk 2 mw 6sw 6sl 2 mw 6sx 6sy 2
    mw 6t0 6sz 2 mw 6t1 6t2 2 mw 6t4 6t3 2 mw 6t5 6t6 2 mw 6tc 6t7 2 mw 6td 6t8 2 mw 6w0 6t9
    2 mw 6w1 6te 2 mw 6tg 6tf 2 mw 6th 6ti 2 mw 6tk 6tj 2 mw 6tl 6tt 2 mw 6w2 6tu 2 mw 6w3
    6ua 2 mw 6uk 6ug 2 mw 6ul 6uh 2 mw 6um 6uj 2 mw 6un 6uq 2 mw 6wa 6ur 2 mw 6wb 6us 2 mw
    6wc 6ut 2 mw 6wd 9ja 2 9ll 9lg 9jf 2 9ll 9jg 9jh 2 9ll 9ji 9jj 2 9ll 9jk 9jl 2 9ll 9jm
    9jn 2 9ll 9jo 9jp 2 9ll 9jq 9jr 2 9ll 9js 9jt 2 9ll 9ju 9jv 2 9ll 9jw 9jx 2 9ll 9jy 9jz
    2 9ll 9k0 9k1 2 9ll 9k2 9k4 2 9ll 9k5 9k6 2 9ll 9k7 9k8 2 9ll 9k9 9kf 4 9ll 9kg 9lm 9kh
    9ki 4 9ll 9kj 9lm 9kk 9kl 4 9ll 9km 9lm 9kn 9ko 4 9ll 9kp 9lm 9kq 9kr 4 9ll 9ks 9lm 9kt
    9lp 2 9ll 9lq 9ly 2 9ll 9o4 9m3 2 9ll 9m4 9m5 2 9ll 9m6 9m7 2 9ll 9m8 9m9 2 9ll 9ma 9mb
    2 9ll 9mc 9md 2 9ll 9me 9mf 2 9ll 9mg 9mh 2 9ll 9mi 9mj 2 9ll 9mk 9ml 2 9ll 9mm 9mn 2
    9ll 9mo 9mp 2 9ll 9mq 9ms 2 9ll 9mt 9mu 2 9ll 9mv 9mw 2 9ll 9mx 9n3 4 9ll 9n4 9lm 9n5
    9n6 4 9ll 9n7 9lm 9n8 9n9 4 9ll 9na 9lm 9nb 9nc 4 9ll 9nd 9lm 9ne 9nf 4 9ll 9ng 9lm 9nh
    9nz 2 9ll 9o7 9o0 2 9ll 9o8 9o1 2 9ll 9o9 9o2 2 9ll 9oa 9od 2 9ll 9oe 1huh 2 1hve 1hui
    1huj 2 1hve 1huk 1hut 2 1hve 1huz 1hyp 2 1hyf 1hym 1hyq 2 1hyf 1hyn 1idj 4 1ida 1idn
    1idz 1ido 1int 6 1inu 1inv 1ink 1inw 1inx 1iny 1iuw 2 1iun 1iuy 1iux 2 1iun 1iuz 1jjp 2
    1jjk 1jjs")

/-- The joint character of a second one, among seconds and their joints in turn. -/
def jointOf? (second : Nat) : List Nat → Option Nat
  | other :: joint :: rest => if other = second then some joint else jointOf? second rest
  | _ => none

/-- The Hangul syllable of a lead and a vowel, or of a syllable without tail and a tail. -/
def joinSyllable? (first second : Nat) : Option Nat :=
  if 0x1100 ≤ first ∧ first < 0x1113 ∧ 0x1161 ≤ second ∧ second < 0x1176 then
    some (firstSyllable + ((first - 0x1100) * 21 + (second - 0x1161)) * 28)
  else if isSyllable first && (first - firstSyllable) % 28 == 0 &&
      0x11a7 < second && second < 0x11c3 then
    some (first + (second - 0x11a7))
  else none

/-- The one character for two. -/
def join? (first second : Nat) : Option Nat :=
  match joinSyllable? first second with
  | some syllable => some syllable
  | none => (rowOf? jointTable first).bind (jointOf? second)

/--
Join what follows a character to it.  `marks` are the marks that did not join,
newest first, the newest one being of class `last`; they keep a mark of the
same class or a lower one off the character.
-/
def composeFrom (start : Nat) (marks : List Nat) (last : Nat) : List Nat → List Nat
  | [] => start :: marks.reverse
  | code :: rest =>
      let own := markClass code
      let joint := if marks.isEmpty || last < own then join? start code else none
      match joint with
      | some joint => composeFrom joint marks last rest
      | none =>
          if own = 0 then start :: marks.reverse ++ composeFrom code [] 0 rest
          else composeFrom start (code :: marks) own rest

/-- Characters with marks joined to the ones before them. -/
def compose : List Nat → List Nat
  | [] => []
  | code :: rest => if markClass code = 0 then composeFrom code [] 0 rest else code :: compose rest

/-- The form that all spellings of a name have in common. -/
def compatibilityForm (name : List Char) : List Char :=
  if name.all fun c => c.toNat < 128 then name
  else (compose (decompose (name.map Char.toNat))).map Char.ofNat

theorem compatibilityForm_ascii {name : List Char} (h : ∀ c ∈ name, c.toNat < 128) :
    compatibilityForm name = name := by
  have all : (name.all fun c => decide (c.toNat < 128)) = true := by
    simpa [List.all_eq_true] using h
  simp [compatibilityForm, all]

end ReactiveSchema.Text
