import ReactiveSchema.Text.Packed

/-!
# Decomposed characters

Characters that stand for others, such as ligatures and letters with marks,
are written out as those, and the marks on a letter are put into the order of
their classes.  The table holds the characters that may stand in an
identifier, after version 14 of the Unicode standard.
-/

namespace ReactiveSchema.Text

/-- Characters in a row that stand for as many others: the first one, how many, and its form. -/
structure FormRun where
  first : Nat
  count : Nat
  form : List Nat

/-- Read rows `gap, count, length, form`, starting from `origin`. -/
def formRuns (origin : Nat) : List Nat → List FormRun
  | gap :: count :: length :: rest =>
      ⟨origin + gap, count, rest.take length⟩ ::
        formRuns (origin + gap + count) (rest.drop length)
  | _ => []
termination_by table => table.length
decreasing_by simp only [List.length_drop, List.length_cons]; omega

/-- The characters that stand for others, except for the Hangul syllables. -/
def formTable : List FormRun := formRuns 0 (unpack
    "4q 1 1 2p a 1 1 qk 4 1 1 33 5 1 2 1t lc 0 1 2 1t ld 0 1 2 1t le 0 1 2 1t lf 0 1 2 1t lk
    0 1 2 1t lm 1 1 2 1v mf 0 1 2 1x lc 0 1 2 1x ld 0 1 2 1x le 0 1 2 1x lk 0 1 2 21 lc 0 1
    2 21 ld 0 1 2 21 le 0 1 2 21 lk 1 1 2 26 lf 0 1 2 27 lc 0 1 2 27 ld 0 1 2 27 le 0 1 2 27
    lf 0 1 2 27 lk 2 1 2 2d lc 0 1 2 2d ld 0 1 2 2d le 0 1 2 2d lk 0 1 2 2h ld 2 1 2 2p lc 0
    1 2 2p ld 0 1 2 2p le 0 1 2 2p lf 0 1 2 2p lk 0 1 2 2p lm 1 1 2 2r mf 0 1 2 2t lc 0 1 2
    2t ld 0 1 2 2t le 0 1 2 2t lk 0 1 2 2x lc 0 1 2 2x ld 0 1 2 2x le 0 1 2 2x lk 1 1 2 32
    lf 0 1 2 33 lc 0 1 2 33 ld 0 1 2 33 le 0 1 2 33 lf 0 1 2 33 lk 2 1 2 39 lc 0 1 2 39 ld 0
    1 2 39 le 0 1 2 39 lk 0 1 2 3d ld 1 1 2 3d lk 0 1 2 1t lg 0 1 2 2p lg 0 1 2 1t li 0 1 2
    2p li 0 1 2 1t mg 0 1 2 2p mg 0 1 2 1v ld 0 1 2 2r ld 0 1 2 1v le 0 1 2 2r le 0 1 2 1v
    lj 0 1 2 2r lj 0 1 2 1v lo 0 1 2 2r lo 0 1 2 1w lo 0 1 2 2s lo 2 1 2 1x lg 0 1 2 2t lg 0
    1 2 1x li 0 1 2 2t li 0 1 2 1x lj 0 1 2 2t lj 0 1 2 1x mg 0 1 2 2t mg 0 1 2 1x lo 0 1 2
    2t lo 0 1 2 1z le 0 1 2 2v le 0 1 2 1z li 0 1 2 2v li 0 1 2 1z lj 0 1 2 2v lj 0 1 2 1z
    mf 0 1 2 2v mf 0 1 2 20 le 0 1 2 2w le 2 1 2 21 lf 0 1 2 2x lf 0 1 2 21 lg 0 1 2 2x lg 0
    1 2 21 li 0 1 2 2x li 0 1 2 21 mg 0 1 2 2x mg 0 1 2 21 lj 1 1 2 21 22 0 1 2 2x 2y 0 1 2
    22 le 0 1 2 2y le 0 1 2 23 mf 0 1 2 2z mf 1 1 2 24 ld 0 1 2 30 ld 0 1 2 24 mf 0 1 2 30
    mf 0 1 2 24 lo 0 1 2 30 lo 0 1 2 24 53 0 1 2 30 53 2 1 2 26 ld 0 1 2 32 ld 0 1 2 26 mf 0
    1 2 32 mf 0 1 2 26 lo 0 1 2 32 lo 0 1 2 jg 32 2 1 2 27 lg 0 1 2 33 lg 0 1 2 27 li 0 1 2
    33 li 0 1 2 27 ln 0 1 2 33 ln 2 1 2 2a ld 0 1 2 36 ld 0 1 2 2a mf 0 1 2 36 mf 0 1 2 2a
    lo 0 1 2 36 lo 0 1 2 2b ld 0 1 2 37 ld 0 1 2 2b le 0 1 2 37 le 0 1 2 2b mf 0 1 2 37 mf 0
    1 2 2b lo 0 1 2 37 lo 0 1 2 2c mf 0 1 2 38 mf 0 1 2 2c lo 0 1 2 38 lo 2 1 2 2d lf 0 1 2
    39 lf 0 1 2 2d lg 0 1 2 39 lg 0 1 2 2d li 0 1 2 39 li 0 1 2 2d lm 0 1 2 39 lm 0 1 2 2d
    ln 0 1 2 39 ln 0 1 2 2d mg 0 1 2 39 mg 0 1 2 2f le 0 1 2 3b le 0 1 2 2h le 0 1 2 3d le 0
    1 2 2h lk 0 1 2 2i ld 0 1 2 3e ld 0 1 2 2i lj 0 1 2 3e lj 0 1 2 2i lo 0 1 2 3e lo 0 1 1
    37 w 1 2 27 m3 0 1 2 33 m3 d 1 2 2d m3 0 1 2 39 m3 j 1 3 1w 2i lo 0 1 3 1w 3e lo 0 1 3
    2s 3e lo 0 1 2 24 22 0 1 2 24 2y 0 1 2 30 2y 0 1 2 26 22 0 1 2 26 2y 0 1 2 32 2y 0 1 2
    1t lo 0 1 2 2p lo 0 1 2 21 lo 0 1 2 2x lo 0 1 2 27 lo 0 1 2 33 lo 0 1 2 2d lo 0 1 2 39
    lo 0 1 3 2d lk lg 0 1 3 39 lk lg 0 1 3 2d lk ld 0 1 3 39 lk ld 0 1 3 2d lk lo 0 1 3 39
    lk lo 0 1 3 2d lk lc 0 1 3 39 lk lc 1 1 3 1t lk lg 0 1 3 2p lk lg 0 1 3 1t lj lg 0 1 3
    2p lj lg 0 1 2 5i lg 0 1 2 6e lg 2 1 2 1z lo 0 1 2 2v lo 0 1 2 23 lo 0 1 2 2z lo 0 1 2
    27 mg 0 1 2 33 mg 0 1 3 27 mg lg 0 1 3 33 mg lg 0 1 2 c7 lo 0 1 2 ia lo 0 1 2 2y lo 0 1
    2 1w 2i 0 1 2 1w 3e 0 1 2 2s 3e 0 1 2 1z ld 0 1 2 2v ld 2 1 2 26 lc 0 1 2 32 lc 0 1 3 1t
    lm ld 0 1 3 2p lm ld 0 1 2 5i ld 0 1 2 6e ld 0 1 2 60 ld 0 1 2 6w ld 0 1 2 1t lr 0 1 2
    2p lr 0 1 2 1t lt 0 1 2 2p lt 0 1 2 1x lr 0 1 2 2t lr 0 1 2 1x lt 0 1 2 2t lt 0 1 2 21
    lr 0 1 2 2x lr 0 1 2 21 lt 0 1 2 2x lt 0 1 2 27 lr 0 1 2 33 lr 0 1 2 27 lt 0 1 2 33 lt 0
    1 2 2a lr 0 1 2 36 lr 0 1 2 2a lt 0 1 2 36 lt 0 1 2 2d lr 0 1 2 39 lr 0 1 2 2d lt 0 1 2
    39 lt 0 1 2 2b me 0 1 2 37 me 0 1 2 2c me 0 1 2 38 me 2 1 2 20 lo 0 1 2 2w lo 6 1 2 1t
    lj 0 1 2 2p lj 0 1 2 1x mf 0 1 2 2t mf 0 1 3 27 lk lg 0 1 3 33 lk lg 0 1 3 27 lf lg 0 1
    3 33 lf lg 0 1 2 27 lj 0 1 2 33 lj 0 1 3 27 lj lg 0 1 3 33 lj lg 0 1 2 2h lg 0 1 2 3d lg
    3g 1 1 2w 0 1 1 h2 0 1 1 2y 0 1 1 36 0 1 1 hl 0 1 1 hn 0 1 1 ht 0 1 1 3b 0 1 1 3d 13 1 1
    gz 0 1 1 30 0 1 1 37 0 1 1 3c 0 1 1 id 2j 2 1 lc 1 1 1 lv 0 1 2 lk ld 1b 1 1 jd h 1 2 pd
    ld 0 1 1 53 0 1 2 ph ld 0 1 2 pj ld 0 1 2 pl ld 1 1 2 pr ld 1 1 2 px ld 0 1 2 q1 ld 0 1
    3 qh lk ld p 1 2 pl lk 0 1 2 px lk 0 1 2 q9 ld 0 1 2 qd ld 0 1 2 qf ld 0 1 2 qh ld 0 1 3
    qt lk ld p 1 2 qh lk 0 1 2 qt lk 0 1 2 qn ld 0 1 2 qt ld 0 1 2 qx ld 1 1 1 qa 0 1 1 qg 0
    1 1 px 0 1 2 px ld 0 1 2 px lk 0 1 1 qu 0 1 1 qo p 1 1 qi 0 2 1 qp 1 1 1 pk 0 1 1 qd 3 1
    1 pv 6 1 2 t1 lc 0 1 2 t1 lk 1 1 2 sz ld 3 1 2 sm lk 4 1 2 t6 ld 0 1 2 t4 lc 0 1 2 tf li
    a 1 2 t4 li v 1 2 u0 li m 1 2 tx lc 0 1 2 tx lk 1 1 2 tv ld 3 1 2 uu lk 4 1 2 u2 ld 0 1
    2 u0 lc 0 1 2 ub li n 1 2 vo lr 0 1 2 vp lr 21 1 2 t2 li 0 1 2 ty li d 1 2 sw li 0 1 2
    ts li 0 1 2 sw lk 0 1 2 ts lk 2 1 2 t1 li 0 1 2 tx li 2 1 2 yg lk 0 1 2 yh lk 0 1 2 t2
    lk 0 1 2 ty lk 0 1 2 t3 lk 0 1 2 tz lk 2 1 2 t4 lg 0 1 2 u0 lg 0 1 2 t4 lk 0 1 2 u0 lk 0
    1 2 ta lk 0 1 2 u6 lk 2 1 2 yw lk 0 1 2 yx lk 0 1 2 tp lk 0 1 2 ul lk 0 1 2 tf lg 0 1 2
    ub lg 0 1 2 tf lk 0 1 2 ub lk 0 1 2 tf ln 0 1 2 ub ln 0 1 2 tj lk 0 1 2 uf lk 2 1 2 tn
    lk 0 1 2 uj lk 3x 1 2 12d 136 4a 1 2 17r 18z 0 1 2 17r 190 0 1 2 18o 190 0 1 2 17r 191 0
    1 2 18q 190 26 1 2 17r 19w 0 1 2 18o 19w 0 1 2 1c7 19w 0 1 2 18q 19w 1z 1 2 1cl 190 1 1
    2 1c1 190 g 1 2 1ci 190 gl 1 2 1t4 1to 7 1 2 1tc 1to 2 1 2 1tf 1to z 1 2 1sl 1to 0 1 2
    1sm 1to 0 1 2 1sn 1to 0 1 2 1ss 1to 0 1 2 1sx 1to 0 1 2 1sy 1to 0 1 2 1t7 1to 0 1 2 1tb
    1to 2z 1 2 1xj 1xa 0 1 2 1xj 1xz f 1 2 1wh 1x8 0 1 2 1wi 1x8 1 1 2 1wv 1x8 2b 1 2 20i
    20s 2 1 2 20o 20s y 1 2 1zq 20s 0 1 2 1zr 20s 0 1 2 1zw 20s 2 1 2 20b 20s 6h 1 2 287 28m
    2 1 2 287 27y 0 1 2 287 28n f 1 2 275 27w 0 1 2 276 27w 1i 1 2 2aa 2c7 1h 1 2 2bq 2bi 0
    1 2 2br 2bi 0 1 2 2bq 2c7 3f 1 2 2fa 2fq 3b 1 2 2in 2j9 6 1 2 2iu 2j9 0 1 2 2iu 2ja 1 1
    2 2iu 2iq 0 1 3 2iu 2iq 2j9 3i 1 2 2me 2m6 0 1 2 2mf 2m6 0 1 2 2me 2mv 3x 1 2 2qh 2q2 1
    1 2 2qh 2q7 0 1 3 2qh 2q7 2q2 0 1 2 2qh 2qn 2c 1 2 2tp 2sy 3j 1 2 2x9 2wi 14 1 2 2wb 2vt
    0 1 2 2wb 2w1 2t 1 2 30i 33r 9 1 2 30s 33r 4 1 2 30x 33r 4 1 2 312 33r 4 1 2 317 33r c 1
    2 30g 33p 9 1 2 31t 31u 1 1 2 31t 31w 0 1 2 33m 328 0 1 3 33m 31t 328 0 1 2 33n 328 0 1
    3 33n 31t 328 7 1 2 31t 328 h 1 2 32q 33r 9 1 2 330 33r 4 1 2 335 33r 4 1 2 33a 33r 4 1
    2 33f 33r c 1 2 32o 33p 30 1 2 36t 372 5x 1 1 3bw 1zd 1 2 5c5 5dh 1 1 2 5c7 5dh 1 1 2
    5c9 5dh 1 1 2 5cb 5dh 1 1 2 5cd 5dh 3 1 2 5ch 5dh 14 1 2 5dm 5dh 1 1 2 5do 5dh 2 1 2 5dq
    5dh 0 1 2 5dr 5dh 1 1 2 5du 5dh dk 1 1 1t 0 1 1 5i 0 1 1 1u 1 2 1 1w 0 1 1 b2 0 8 1 1z 1
    1 1 27 0 1 1 f6 0 1 1 28 0 1 1 2a 0 2 1 2c 0 1 1 2f 0 1 1 2p 0 2 1 gg 0 1 1 5qa 0 1 1 2q
    0 2 1 2s 0 1 1 gp 0 2 1 gr 0 1 1 2v 1 1 1 2z 0 1 1 31 0 1 1 97 0 1 1 33 0 1 1 gk 0 2 1
    5qu 0 1 1 34 0 2 1 38 0 1 1 5r1 0 1 1 hb 0 1 1 3a 0 1 1 5r9 0 3 1 qa 0 2 1 qu 0 1 1 2x 0
    1 1 36 0 2 1 39 0 2 1 qa 0 1 1 qp 0 2 1 qu d 1 1 u5 y 1 1 gi 0 1 1 2r 0 1 1 gl 0 1 1 6o
    0 1 1 gs 0 1 1 2u 0 1 1 gv 0 1 1 gx 0 1 1 h1 0 3 1 h4 0 1 1 5tn 0 1 1 il 0 1 1 h9 0 1 1
    5tx 0 1 1 in 0 1 1 hd 0 1 1 hc 0 4 1 he 0 1 1 hk 0 2 1 hu 0 1 1 bv 0 2 1 i1 0 1 1 5r0 0
    2 1 i3 0 1 1 3e 0 3 1 i8 0 1 1 qg 1s 1 2 1t md 0 1 2 2p md 0 1 2 1u lj 0 1 2 2q lj 0 1 2
    1u mb 0 1 2 2q mb 0 1 2 1u mp 0 1 2 2q mp 0 1 3 1v mf ld 0 1 3 2r mf ld 0 1 2 1w lj 0 1
    2 2s lj 0 1 2 1w mb 0 1 2 2s mb 0 1 2 1w mp 0 1 2 2s mp 0 1 2 1w mf 0 1 2 2s mf 0 1 2 1w
    ml 0 1 2 2s ml 0 1 3 1x lg lc 0 1 3 2t lg lc 0 1 3 1x lg ld 0 1 3 2t lg ld 0 1 2 1x ml 0
    1 2 2t ml 0 1 2 1x mo 0 1 2 2t mo 0 1 3 1x mf li 0 1 3 2t mf li 0 1 2 1y lj 0 1 2 2u lj
    0 1 2 1z lg 0 1 2 2v lg 0 1 2 20 lj 0 1 2 2w lj 0 1 2 20 mb 0 1 2 2w mb 0 1 2 20 lk 0 1
    2 2w lk 0 1 2 20 mf 0 1 2 2w mf 0 1 2 20 mm 0 1 2 2w mm 0 1 2 21 mo 0 1 2 2x mo 0 1 3 21
    lk ld 0 1 3 2x lk ld 0 1 2 23 ld 0 1 2 2z ld 0 1 2 23 mb 0 1 2 2z mb 0 1 2 23 mp 0 1 2
    2z mp 0 1 2 24 mb 0 1 2 30 mb 0 1 3 24 mb lg 0 1 3 30 mb lg 0 1 2 24 mp 0 1 2 30 mp 0 1
    2 24 ml 0 1 2 30 ml 0 1 2 25 ld 0 1 2 31 ld 0 1 2 25 lj 0 1 2 31 lj 0 1 2 25 mb 0 1 2 31
    mb 0 1 2 26 lj 0 1 2 32 lj 0 1 2 26 mb 0 1 2 32 mb 0 1 2 26 mp 0 1 2 32 mp 0 1 2 26 ml 0
    1 2 32 ml 0 1 3 27 lf ld 0 1 3 33 lf ld 0 1 3 27 lf lk 0 1 3 33 lf lk 0 1 3 27 lg lc 0 1
    3 33 lg lc 0 1 3 27 lg ld 0 1 3 33 lg ld 0 1 2 28 ld 0 1 2 34 ld 0 1 2 28 lj 0 1 2 34 lj
    0 1 2 2a lj 0 1 2 36 lj 0 1 2 2a mb 0 1 2 36 mb 0 1 3 2a mb lg 0 1 3 36 mb lg 0 1 2 2a
    mp 0 1 2 36 mp 0 1 2 2b lj 0 1 2 37 lj 0 1 2 2b mb 0 1 2 37 mb 0 1 3 2b ld lj 0 1 3 37
    ld lj 0 1 3 2b lo lj 0 1 3 37 lo lj 0 1 3 2b mb lj 0 1 3 37 mb lj 0 1 2 2c lj 0 1 2 38
    lj 0 1 2 2c mb 0 1 2 38 mb 0 1 2 2c mp 0 1 2 38 mp 0 1 2 2c ml 0 1 2 38 ml 0 1 2 2d mc 0
    1 2 39 mc 0 1 2 2d mo 0 1 2 39 mo 0 1 2 2d ml 0 1 2 39 ml 0 1 3 2d lf ld 0 1 3 39 lf ld
    0 1 3 2d lg lk 0 1 3 39 lg lk 0 1 2 2e lf 0 1 2 3a lf 0 1 2 2e mb 0 1 2 3a mb 0 1 2 2f
    lc 0 1 2 3b lc 0 1 2 2f ld 0 1 2 3b ld 0 1 2 2f lk 0 1 2 3b lk 0 1 2 2f lj 0 1 2 3b lj 0
    1 2 2f mb 0 1 2 3b mb 0 1 2 2g lj 0 1 2 3c lj 0 1 2 2g lk 0 1 2 3c lk 0 1 2 2h lj 0 1 2
    3d lj 0 1 2 2i le 0 1 2 3e le 0 1 2 2i mb 0 1 2 3e mb 0 1 2 2i mp 0 1 2 3e mp 0 1 2 2w
    mp 0 1 2 38 lk 0 1 2 3b lm 0 1 2 3d lm 0 1 2 2p ji 0 1 2 37 lj 4 1 2 1t mb 0 1 2 2p mb 0
    1 2 1t ll 0 1 2 2p ll 0 1 3 1t le ld 0 1 3 2p le ld 0 1 3 1t le lc 0 1 3 2p le lc 0 1 3
    1t le ll 0 1 3 2p le ll 0 1 3 1t le lf 0 1 3 2p le lf 0 1 3 1t mb le 0 1 3 2p mb le 0 1
    3 1t li ld 0 1 3 2p li ld 0 1 3 1t li lc 0 1 3 2p li lc 0 1 3 1t li ll 0 1 3 2p li ll 0
    1 3 1t li lf 0 1 3 2p li lf 0 1 3 1t mb li 0 1 3 2p mb li 0 1 2 1x mb 0 1 2 2t mb 0 1 2
    1x ll 0 1 2 2t ll 0 1 2 1x lf 0 1 2 2t lf 0 1 3 1x le ld 0 1 3 2t le ld 0 1 3 1x le lc 0
    1 3 2t le lc 0 1 3 1x le ll 0 1 3 2t le ll 0 1 3 1x le lf 0 1 3 2t le lf 0 1 3 1x mb le
    0 1 3 2t mb le 0 1 2 21 ll 0 1 2 2x ll 0 1 2 21 mb 0 1 2 2x mb 0 1 2 27 mb 0 1 2 33 mb 0
    1 2 27 ll 0 1 2 33 ll 0 1 3 27 le ld 0 1 3 33 le ld 0 1 3 27 le lc 0 1 3 33 le lc 0 1 3
    27 le ll 0 1 3 33 le ll 0 1 3 27 le lf 0 1 3 33 le lf 0 1 3 27 mb le 0 1 3 33 mb le 0 1
    3 27 m3 ld 0 1 3 33 m3 ld 0 1 3 27 m3 lc 0 1 3 33 m3 lc 0 1 3 27 m3 ll 0 1 3 33 m3 ll 0
    1 3 27 m3 lf 0 1 3 33 m3 lf 0 1 3 27 m3 mb 0 1 3 33 m3 mb 0 1 2 2d mb 0 1 2 39 mb 0 1 2
    2d ll 0 1 2 39 ll 0 1 3 2d m3 ld 0 1 3 39 m3 ld 0 1 3 2d m3 lc 0 1 3 39 m3 lc 0 1 3 2d
    m3 ll 0 1 3 39 m3 ll 0 1 3 2d m3 lf 0 1 3 39 m3 lf 0 1 3 2d m3 mb 0 1 3 39 m3 mb 0 1 2
    2h lc 0 1 2 3d lc 0 1 2 2h mb 0 1 2 3d mb 0 1 2 2h ll 0 1 2 3d ll 0 1 2 2h lf 0 1 2 3d
    lf 6 1 2 q9 lv 0 1 2 q9 lw 0 1 3 q9 lv lc 0 1 3 q9 lw lc 0 1 3 q9 lv ld 0 1 3 q9 lw ld 0
    1 3 q9 lv n6 0 1 3 q9 lw n6 0 1 2 pd lv 0 1 2 pd lw 0 1 3 pd lv lc 0 1 3 pd lw lc 0 1 3
    pd lv ld 0 1 3 pd lw ld 0 1 3 pd lv n6 0 1 3 pd lw n6 0 1 2 qd lv 0 1 2 qd lw 0 1 3 qd
    lv lc 0 1 3 qd lw lc 0 1 3 qd lv ld 0 1 3 qd lw ld 2 1 2 ph lv 0 1 2 ph lw 0 1 3 ph lv
    lc 0 1 3 ph lw lc 0 1 3 ph lv ld 0 1 3 ph lw ld 2 1 2 qf lv 0 1 2 qf lw 0 1 3 qf lv lc 0
    1 3 qf lw lc 0 1 3 qf lv ld 0 1 3 qf lw ld 0 1 3 qf lv n6 0 1 3 qf lw n6 0 1 2 pj lv 0 1
    2 pj lw 0 1 3 pj lv lc 0 1 3 pj lw lc 0 1 3 pj lv ld 0 1 3 pj lw ld 0 1 3 pj lv n6 0 1 3
    pj lw n6 0 1 2 qh lv 0 1 2 qh lw 0 1 3 qh lv lc 0 1 3 qh lw lc 0 1 3 qh lv ld 0 1 3 qh
    lw ld 0 1 3 qh lv n6 0 1 3 qh lw n6 0 1 2 pl lv 0 1 2 pl lw 0 1 3 pl lv lc 0 1 3 pl lw
    lc 0 1 3 pl lv ld 0 1 3 pl lw ld 0 1 3 pl lv n6 0 1 3 pl lw n6 0 1 2 qn lv 0 1 2 qn lw 0
    1 3 qn lv lc 0 1 3 qn lw lc 0 1 3 qn lv ld 0 1 3 qn lw ld 2 1 2 pr lv 0 1 2 pr lw 0 1 3
    pr lv lc 0 1 3 pr lw lc 0 1 3 pr lv ld 0 1 3 pr lw ld 2 1 2 qt lv 0 1 2 qt lw 0 1 3 qt
    lv lc 0 1 3 qt lw lc 0 1 3 qt lv ld 0 1 3 qt lw ld 0 1 3 qt lv n6 0 1 3 qt lw n6 1 1 2
    px lw 1 1 3 px lw lc 1 1 3 px lw ld 1 1 3 px lw n6 0 1 2 qx lv 0 1 2 qx lw 0 1 3 qx lv
    lc 0 1 3 qx lw lc 0 1 3 qx lv ld 0 1 3 qx lw ld 0 1 3 qx lv n6 0 1 3 qx lw n6 0 1 2 q1
    lv 0 1 2 q1 lw 0 1 3 q1 lv lc 0 1 3 q1 lw lc 0 1 3 q1 lv ld 0 1 3 q1 lw ld 0 1 3 q1 lv
    n6 0 1 3 q1 lw n6 0 1 2 q9 lc 0 1 2 q9 ld 0 1 2 qd lc 0 1 2 qd ld 0 1 2 qf lc 0 1 2 qf
    ld 0 1 2 qh lc 0 1 2 qh ld 0 1 2 qn lc 0 1 2 qn ld 0 1 2 qt lc 0 1 2 qt ld 0 1 2 qx lc 0
    1 2 qx ld 2 1 3 q9 lv n9 0 1 3 q9 lw n9 0 1 4 q9 lv lc n9 0 1 4 q9 lw lc n9 0 1 4 q9 lv
    ld n9 0 1 4 q9 lw ld n9 0 1 4 q9 lv n6 n9 0 1 4 q9 lw n6 n9 0 1 3 pd lv n9 0 1 3 pd lw
    n9 0 1 4 pd lv lc n9 0 1 4 pd lw lc n9 0 1 4 pd lv ld n9 0 1 4 pd lw ld n9 0 1 4 pd lv
    n6 n9 0 1 4 pd lw n6 n9 0 1 3 qf lv n9 0 1 3 qf lw n9 0 1 4 qf lv lc n9 0 1 4 qf lw lc
    n9 0 1 4 qf lv ld n9 0 1 4 qf lw ld n9 0 1 4 qf lv n6 n9 0 1 4 qf lw n6 n9 0 1 3 pj lv
    n9 0 1 3 pj lw n9 0 1 4 pj lv lc n9 0 1 4 pj lw lc n9 0 1 4 pj lv ld n9 0 1 4 pj lw ld
    n9 0 1 4 pj lv n6 n9 0 1 4 pj lw n6 n9 0 1 3 qx lv n9 0 1 3 qx lw n9 0 1 4 qx lv lc n9 0
    1 4 qx lw lc n9 0 1 4 qx lv ld n9 0 1 4 qx lw ld n9 0 1 4 qx lv n6 n9 0 1 4 qx lw n6 n9
    0 1 3 q1 lv n9 0 1 3 q1 lw n9 0 1 4 q1 lv lc n9 0 1 4 q1 lw lc n9 0 1 4 q1 lv ld n9 0 1
    4 q1 lw ld n9 0 1 4 q1 lv n6 n9 0 1 4 q1 lw n6 n9 0 1 2 q9 li 0 1 2 q9 lg 0 1 3 q9 lc n9
    0 1 2 q9 n9 0 1 3 q9 ld n9 1 1 2 q9 n6 0 1 3 q9 n6 n9 0 1 2 pd li 0 1 2 pd lg 0 1 2 pd
    lc 0 1 2 pd ld 0 1 2 pd n9 1 1 1 qh 3 1 3 qf lc n9 0 1 2 qf n9 0 1 3 qf ld n9 1 1 2 qf
    n6 0 1 3 qf n6 n9 0 1 2 ph lc 0 1 2 ph ld 0 1 2 pj lc 0 1 2 pj ld 0 1 2 pj n9 3 1 2 qh
    li 0 1 2 qh lg 0 1 3 qh lk lc 0 1 3 qh lk ld 2 1 2 qh n6 0 1 3 qh lk n6 0 1 2 pl li 0 1
    2 pl lg 0 1 2 pl lc 0 1 2 pl ld 4 1 2 qt li 0 1 2 qt lg 0 1 3 qt lk lc 0 1 3 qt lk ld 0
    1 2 qp lv 0 1 2 qp lw 0 1 2 qt n6 0 1 3 qt lk n6 0 1 2 px li 0 1 2 px lg 0 1 2 px lc 0 1
    2 px ld 0 1 2 pt lw 5 1 3 qx lc n9 0 1 2 qx n9 0 1 3 qx ld n9 1 1 2 qx n6 0 1 3 qx n6 n9
    0 1 2 pr lc 0 1 2 pr ld 0 1 2 q1 lc 0 1 2 q1 ld 0 1 2 q1 n9 38 1 1 2x d 1 1 32 g 1 1 2p
    0 1 1 2t 0 1 1 33 0 1 1 3c 0 1 1 gp 0 1 1 2w 0 4 1 2z 0 1 1 34 0 2 1 37 2t 1 1 1v 4 1 1
    b4 2 1 1 2v 0 1 1 20 0 1 1 20 0 1 1 20 0 1 1 2w 0 1 1 87 0 1 1 21 0 1 1 21 0 1 1 24 0 1
    1 30 1 1 1 26 3 3 1 28 0 1 1 2a 0 1 1 2a 6 1 1 2i 1 1 1 q1 1 1 1 2i 1 1 1 23 0 1 2 1t lm
    0 2 1 1u 1 1 1 2t 0 2 1 1x 1 1 1 25 0 1 1 33 0 4 1 15c 0 1 1 2x 2 1 1 qo 0 1 1 qb 0 1 1
    pf 0 1 1 ps 5 1 1 1w 0 2 1 2s 0 2 1 2x m 1 1 21 0 1 2 21 21 0 1 3 21 21 21 0 1 2 21 2e 0
    1 1 2e 0 1 2 2e 21 0 1 3 2e 21 21 0 1 4 2e 21 21 21 0 1 2 21 2g 0 1 1 2g 0 1 2 2g 21 0 1
    3 2g 21 21 0 1 1 24 0 2 1 1v 0 1 1 25 0 1 1 2x 0 1 2 2x 2x 0 1 3 2x 2x 2x 0 1 2 2x 3a 0
    1 1 3a 0 1 2 3a 2x 0 1 3 3a 2x 2x 0 1 4 3a 2x 2x 2x 0 1 2 2x 3c 0 1 1 3c 0 1 2 3c 2x 0 1
    3 3c 2x 2x 0 1 1 30 0 2 1 2r 0 1 1 31 264 1 1 2y 0 1 1 2e 6p 1 1 8yp js 1 1 gg1 0 2 1
    gg4 h 1 2 9jf 9ll 1 1 2 9jh 9ll 1 1 2 9jj 9ll 1 1 2 9jl 9ll 1 1 2 9jn 9ll 1 1 2 9jp 9ll
    1 1 2 9jr 9ll 1 1 2 9jt 9ll 1 1 2 9jv 9ll 1 1 2 9jx 9ll 1 1 2 9jz 9ll 1 1 2 9k1 9ll 2 1
    2 9k4 9ll 1 1 2 9k6 9ll 1 1 2 9k8 9ll 6 1 2 9kf 9ll 0 1 2 9kf 9lm 1 1 2 9ki 9ll 0 1 2
    9ki 9lm 1 1 2 9kl 9ll 0 1 2 9kl 9lm 1 1 2 9ko 9ll 0 1 2 9ko 9lm 1 1 2 9kr 9ll 0 1 2 9kr
    9lm m 1 2 9ja 9ll 9 1 2 9lp 9ll 0 1 2 9l4 9l6 c 1 2 9m3 9ll 1 1 2 9m5 9ll 1 1 2 9m7 9ll
    1 1 2 9m9 9ll 1 1 2 9mb 9ll 1 1 2 9md 9ll 1 1 2 9mf 9ll 1 1 2 9mh 9ll 1 1 2 9mj 9ll 1 1
    2 9ml 9ll 1 1 2 9mn 9ll 1 1 2 9mp 9ll 2 1 2 9ms 9ll 1 1 2 9mu 9ll 1 1 2 9mw 9ll 6 1 2
    9n3 9ll 0 1 2 9n3 9lm 1 1 2 9n6 9ll 0 1 2 9n6 9lm 1 1 2 9n9 9ll 0 1 2 9n9 9lm 1 1 2 9nc
    9ll 0 1 2 9nc 9lm 1 1 2 9nf 9ll 0 1 2 9nf 9lm m 1 2 9ly 9ll 2 1 2 9nz 9ll 0 1 2 9o0 9ll
    0 1 2 9o1 9ll 0 1 2 9o2 9ll 3 1 2 9od 9ll 0 1 2 9mb 9mw 1d 2 1 3cw 0 1 1 3hm 0 1 1 3cy 0
    2 1 3ho 0 3 1 3cz 0 6 1 3hs 0 1 1 3dm 0 3 1 3d2 0 1 1 3dt 0 a 1 3d5 0 l 1 3fl 0 1 1 3fk
    0 2 1 3dg 0 2 1 3if 0 1 1 3ik 0 1 1 3im 0 1 1 3ir 0 1 1 3iv 0 1 1 3ix 0 1 1 3do 0 1 1
    3j1 0 1 1 3j3 0 2 1 3dp 0 1 1 3ds 0 2 1 3du 0 1 1 3dz 0 1 1 3e1 0 5 1 3e3 0 1 1 3ea 0 1
    1 3ee 0 1 1 3eo 0 1 1 3ev 0 1 1 3f0 0 2 1 3jl 0 3 1 3fb 0 2 1 3gk 0 1 1 3go 0 2 1 3gx 0
    1 1 3h0 0 1 1 3ha 0 1 1 3hd n4d 1 1 ui 0 1 1 uk 5u 1 1 x2n 3l 1 1 1v 0 1 1 1y 0 1 1 29 3
    1 1 86 0 1 1 9f o2 1 1 x0n 0 1 1 xtj 0 1 1 h7 0 1 1 xua 9 1 1 i5 fbq 1 1 rpk 0 1 1 kc4 0
    1 1 s7e 0 1 1 rt4 0 1 1 lw1 0 1 1 fg2 0 1 1 gkl 0 1 1 vj0 0 1 1 vj0 0 1 1 hn5 0 1 1 ssx
    0 1 1 gw7 0 1 1 hmw 0 1 1 jcm 0 1 1 ne1 0 1 1 p6t 0 1 1 qin 0 1 1 qt6 0 1 1 r20 0 1 1
    sjz 0 1 1 kxu 0 1 1 ljv 0 1 1 mah 0 1 1 mvy 0 1 1 q4d 0 1 1 sq2 0 1 1 uep 0 1 1 fia 0 1
    1 ghh 0 1 1 l50 0 1 1 mjf 0 1 1 qi5 0 1 1 v8e 0 1 1 ifk 0 1 1 m3v 0 1 1 qfh 0 1 1 r50 0
    1 1 jih 0 1 1 pnc 0 1 1 qvz 0 1 1 iq2 0 1 1 kd3 0 1 1 lm2 0 1 1 mpo 0 1 1 slq 0 1 1 fpi
    0 1 1 g53 0 1 1 gda 0 1 1 jwk 0 1 1 l3n 0 1 1 mj4 0 1 1 nhj 0 1 1 pa9 0 1 1 qh2 0 1 1
    qjg 0 1 1 s1b 0 1 1 tv6 0 1 1 upb 0 1 1 v7e 0 1 1 nt8 0 1 1 nzz 0 1 1 otc 0 1 1 q15 0 1
    1 t1g 0 1 1 vb3 0 1 1 rfa 0 1 1 hjz 0 1 1 iro 0 1 1 okg 0 1 1 pdq 0 1 1 mle 0 1 1 nuy 0
    1 1 rsy 0 1 1 ttj 0 1 1 hjs 0 1 1 i8y 0 1 1 kyb 0 1 1 lp6 0 1 1 lxr 0 1 1 oq7 0 1 1 oxj
    0 1 1 tor 0 1 1 gcy 0 1 1 pe3 0 1 1 g64 0 1 1 g5o 0 1 1 o4c 0 1 1 ou6 0 1 1 q29 0 1 1
    tpx 0 1 1 rk0 0 1 1 jin 0 1 1 kxu 0 1 1 rge 0 1 1 fg9 0 1 1 i5j 0 1 1 iz6 0 1 1 mtj 0 1
    1 n74 0 1 1 gev 0 1 1 nwb 0 1 1 fr3 0 1 1 iw9 0 1 1 ff1 0 1 1 lho 0 1 1 k1k 0 1 1 opu 0
    1 1 gjn 0 1 1 hge 0 1 1 ni9 0 1 1 q4p 0 1 1 re2 0 1 1 la2 0 1 1 sds 0 1 1 lfs 0 1 1 jjy
    0 1 1 put 0 1 1 jog 0 1 1 n6t 0 1 1 fji 0 1 1 g2x 0 1 1 g5l 0 1 1 kn5 0 1 1 oo7 0 1 1
    prj 0 1 1 rf6 0 1 1 ssv 0 1 1 gdx 0 1 1 gn6 0 1 1 ho3 0 1 1 ir0 0 1 1 k3p 0 1 1 m4e 0 1
    1 nxm 0 1 1 tkd 0 1 1 ui2 0 1 1 vbr 0 1 1 vda 0 1 1 gbf 0 1 1 kau 0 1 1 l87 0 1 1 sbm 0
    1 1 ino 0 1 1 j9s 0 1 1 jcw 0 1 1 jve 0 1 1 lyb 0 1 1 mdl 0 1 1 n0p 0 1 1 o22 0 1 1 ovo
    0 1 1 pdb 0 1 1 s9y 0 1 1 q9a 0 1 1 sgz 0 1 1 t3e 0 1 1 g7r 0 1 1 gbn 0 1 1 gql 0 1 1
    ma0 0 1 1 r0i 0 1 1 re2 0 1 1 iq1 0 1 1 iyd 0 1 1 jnf 0 1 1 l9q 0 1 1 oji 0 1 1 mt1 0 1
    1 fl0 0 1 1 h6h 0 1 1 i5j 0 1 1 iii 0 1 1 izg 0 1 1 muq 0 1 1 mzt 0 1 1 p7e 0 1 1 pc6 0
    1 1 svo 0 1 1 tti 0 1 1 tvs 0 1 1 u1k 0 1 1 fpn 0 1 1 o1a 0 1 1 ss4 0 1 1 trs 0 1 1 j4x
    0 1 1 fie 0 1 1 fyy 0 1 1 i5q 0 1 1 i7z 0 1 1 k2h 0 1 1 kxu 0 1 1 mha 0 1 1 ncy 0 1 1
    q9o 0 1 1 sjg 0 1 1 vil 0 1 1 k94 0 1 1 tny 0 1 1 gax 0 1 1 kfv 0 1 1 kj7 0 1 1 lkx 0 1
    1 luk 0 1 1 mx5 0 1 1 n6h 0 1 1 nsb 0 1 1 opc 0 1 1 u3i 0 1 1 g31 0 1 1 je6 0 1 1 tq0 0
    1 1 fu3 0 1 1 ie1 0 1 1 lpm 0 1 1 sa2 0 1 1 ivf 0 1 1 j7o 0 1 1 kk7 0 1 1 mtj 0 1 1 tqe
    0 1 1 g89 0 1 1 glr 0 1 1 i91 0 1 1 k5v 0 1 1 kem 0 1 1 ko8 0 1 1 lid 0 1 1 mx2 0 1 1
    naa 0 1 1 p6h 0 1 1 r0v 0 1 1 r1d 0 1 1 sss 0 1 1 tsy 0 1 1 gfz 0 1 1 lve 0 1 1 gm5 0 1
    1 mhc 0 1 1 n14 0 1 1 qgq 0 1 1 tr7 0 1 1 uvr 0 1 1 vbz 0 1 1 kgn 0 1 1 lor 0 1 1 pns 0
    1 1 o97 0 1 1 obk 0 1 1 olu 0 1 1 mo0 0 1 1 m8p 0 1 1 riw 0 1 1 fk0 0 1 1 px2 0 1 1 g8q
    0 1 1 g7b 0 1 1 ip2 0 1 1 jir 0 1 1 onq 0 1 1 i2t 0 1 1 ljy 0 1 1 kac 0 1 1 saj 0 1 1
    qx8 0 1 1 tot 0 1 1 r63 0 1 1 iqb 0 1 1 g1s 0 1 1 gxs 2 1 1 hga 1 1 1 k8k 2 1 1 g66 0 1
    1 mqy 0 1 1 ngq 0 1 1 ny4 0 1 1 nz2 0 1 1 nz9 0 1 1 o0f 0 1 1 tw6 0 1 1 on2 0 1 1 p8d 1
    1 1 qhe 1 1 1 rg8 2 1 1 shk 0 1 1 sn1 3 1 1 u7j 0 1 1 u7w 0 1 1 u94 0 1 1 v5g 0 1 1 sm6
    0 1 1 trr 0 1 1 fqm 0 1 1 fzb 0 1 1 g25 0 1 1 gcp 0 1 1 gdg 0 1 1 ggh 0 1 1 gwt 0 1 1
    gzq 0 1 1 h2g 0 1 1 hfk 0 1 1 hig 0 1 1 i90 0 1 1 i9a 0 1 1 j2s 0 1 1 j8o 0 1 1 j9q 0 1
    1 jci 0 1 1 k0f 0 1 1 k4i 0 1 1 k9d 0 1 1 kn9 0 1 1 lmf 0 1 1 lqy 0 1 1 lya 0 1 1 mem 0
    1 1 mjv 0 1 1 mxu 0 1 1 ntd 0 1 1 ny6 0 1 1 nyh 0 1 1 nyg 0 1 1 nyo 0 1 1 nyu 0 1 1 nz1
    0 2 1 o0d 0 1 1 o5c 0 1 1 o75 0 1 1 og0 0 1 1 ovo 0 1 1 ow9 0 1 1 oxt 0 1 1 p6a 0 1 1
    pad 0 1 1 pnx 0 1 1 prt 0 1 1 prt 0 1 1 q53 0 1 1 r2o 0 1 1 r6e 0 1 1 rgh 0 1 1 ri1 0 1
    1 rtf 0 1 1 ruw 0 1 1 sdy 0 1 1 shk 0 1 1 tsz 0 1 1 u0v 0 1 1 u2j 0 1 1 j1x 0 1 1 36cu 0
    1 1 pp4 2 1 1 ffq 0 1 1 g51 0 1 1 g2w 0 1 1 fpc 0 1 1 g1x 0 1 1 g3k 0 1 1 gcn 0 1 1 ge2
    0 1 1 gwt 0 1 1 gut 0 1 1 gwp 0 1 1 gyq 0 1 1 hga 0 1 1 hir 0 1 1 hms 0 1 1 hn8 0 1 1
    huq 0 1 1 i08 0 1 1 iqa 0 1 1 iqh 0 1 1 iuh 0 1 1 iwd 0 1 1 j4o 0 1 1 j7y 0 1 1 j60 0 1
    1 j9q 0 1 1 j8g 0 1 1 jci 0 1 1 jec 0 1 1 jpg 0 1 1 jrw 0 1 1 jte 0 1 1 k0m 0 1 1 k8k 0
    1 1 kd3 0 1 1 kd7 0 1 1 keu 0 1 1 l89 0 1 1 la2 0 1 1 lkx 0 1 1 lwb 0 1 1 lvv 0 1 1 lya
    0 1 1 m5a 0 1 1 mem 0 1 1 nmv 0 1 1 mk5 0 1 1 mnj 0 1 1 mqy 0 1 1 n01 0 1 1 n46 0 1 1
    n5n 0 1 1 nbx 0 1 1 nbz 0 1 1 ngq 0 1 1 nh7 0 1 1 nhw 0 1 1 nka 0 1 1 nk0 0 1 1 nv0 0 1
    1 o8h 0 1 1 og0 0 1 1 ol7 0 1 1 orf 0 1 1 ovo 0 1 1 p4u 0 1 1 pad 0 1 1 pxu 0 1 1 q27 0
    1 1 qrd 0 1 1 r41 0 1 1 r5y 0 1 1 r6e 0 1 1 ren 0 1 1 rg8 0 1 1 rez 0 1 1 rgh 0 1 1 rge
    0 1 1 rfx 0 1 1 ri1 0 1 1 rka 0 1 1 ruw 0 1 1 sag 0 1 1 sj6 0 1 1 srd 0 1 1 sxi 0 1 1
    tq4 0 1 1 tsz 0 1 1 tw6 0 1 1 tzv 0 1 1 u0v 0 1 1 u17 0 1 1 u2j 0 1 1 umq 0 1 1 vj0 0 1
    1 313e 0 1 1 3138 0 1 1 33dh 0 1 1 brx 0 1 1 cns 0 1 1 cop 0 1 1 39e1 0 1 1 3bgw 0 1 1
    3i6r 0 1 1 vgj 0 1 1 vim 12 1 2 2u 2u 0 1 2 2u 2x 0 1 2 2u 30 0 1 3 2u 2u 2x 0 1 3 2u 2u
    30 0 1 2 37 38 0 1 2 37 38 c 1 2 12s 12u 0 1 2 12s 12d 0 1 2 12s 12j 0 1 2 132 12u 0 1 2
    12s 12l 5 1 2 15l 14k 1 1 2 16a 14n 0 1 1 15u 0 1 1 15c 0 2 1 15f 0 3 1 15n 0 1 1 160 0
    1 1 162 1 1 2 161 14x 0 1 2 161 14y 0 1 3 161 14s 14x 0 1 3 161 14s 14y 0 1 2 15c 14n 0
    1 2 15c 14o 0 1 2 15c 14s 0 1 2 15d 14s 0 1 2 15e 14s 0 1 2 15f 14s 0 1 2 15g 14s 0 1 2
    15h 14s 0 1 2 15i 14s 1 1 2 15k 14s 0 1 2 15l 14s 0 1 2 15m 14s 0 1 2 15n 14s 0 1 2 15o
    14s 1 1 2 15q 14s 1 1 2 15s 14s 0 1 2 15t 14s 1 1 2 15v 14s 0 1 2 15w 14s 1 1 2 15y 14s
    0 1 2 15z 14s 0 1 2 160 14s 0 1 2 161 14s 0 1 2 162 14s 0 1 2 15h 14p 0 1 2 15d 14v 0 1
    2 15n 14v 0 1 2 15w 14v 0 1 2 15c 15o 0 1 1 19t 0 1 1 19t 0 1 1 1a3 0 1 1 1a3 0 1 1 1a3
    0 1 1 1a3 0 1 1 1a6 0 1 1 1a6 0 1 1 1a6 0 1 1 1a6 0 1 1 1a8 0 1 1 1a8 0 1 1 1a8 0 1 1
    1a8 0 1 1 1a2 0 1 1 1a2 0 1 1 1a2 0 1 1 1a2 0 1 1 1a7 0 1 1 1a7 0 1 1 1a7 0 1 1 1a7 0 1
    1 1a1 0 1 1 1a1 0 1 1 1a1 0 1 1 1a1 0 1 1 1b8 0 1 1 1b8 0 1 1 1b8 0 1 1 1b8 0 1 1 1ba 0
    1 1 1ba 0 1 1 1ba 0 1 1 1ba 0 1 1 1ac 0 1 1 1ac 0 1 1 1ac 0 1 1 1ac 0 1 1 1ab 0 1 1 1ab
    0 1 1 1ab 0 1 1 1ab 0 1 1 1ae 0 1 1 1ae 0 1 1 1ae 0 2 1 1ae 0 1 1 1af 0 1 1 1af 0 1 1
    1af 0 1 1 1al 0 1 1 1al 0 1 1 1ak 0 1 1 1ak 0 1 1 1am 0 1 1 1am 0 1 1 1ag 0 1 1 1ag 0 1
    1 1aw 0 1 1 1aw 0 1 1 1ap 0 1 1 1ap 0 1 1 1bd 0 1 1 1bd 0 1 1 1bd 0 1 1 1bd 0 1 1 1bj 0
    1 1 1bj 0 1 1 1bj 0 1 1 1bj 0 1 1 1bn 0 1 1 1bn 0 1 1 1bn 0 1 1 1bn 0 1 1 1bl 0 1 1 1bl
    0 1 1 1bl 0 1 1 1bl 0 1 1 1bu 0 2 1 1bu 0 1 1 1bv 0 1 1 1bv 0 1 1 1bv 0 1 2 1cl 190 0 1
    2 1cl 190 0 1 1 1c1 0 1 1 1c1 0 1 1 1c1 0 1 1 1c1 0 1 1 1by 0 1 1 1by 0 1 1 1by 0 1 1
    1by 0 1 1 1ci 0 1 1 1ci 0 1 2 1ci 190 0 1 2 1ci 190 x 1 1 1bh 0 1 1 1bh 0 1 1 1bh 0 1 1
    1bh 0 1 1 1c7 0 1 1 1c7 0 1 1 1c6 0 1 1 1c6 0 1 1 1c8 0 1 1 1c8 0 1 2 1c7 19w 0 1 1 1cb
    0 1 1 1cb 0 1 1 1c5 0 1 1 1c5 0 1 1 1c9 0 1 1 1c9 0 1 1 1cg 0 1 1 1cg 0 1 1 1cg 0 1 1
    1cg 0 1 1 18p 0 1 1 18p 0 1 3 18q 190 17r 0 1 3 18q 190 17r 0 1 3 18q 190 1cl 0 1 3 18q
    190 1cl 0 1 3 18q 190 18o 0 1 3 18q 190 18o 0 1 3 18q 190 1c7 0 1 3 18q 190 1c7 0 1 3
    18q 190 1c6 0 1 3 18q 190 1c6 0 1 3 18q 190 1c8 0 1 3 18q 190 1c8 0 1 3 18q 190 1cg 0 1
    3 18q 190 1cg 0 1 3 18q 190 1cg 0 1 3 18q 190 18p 0 1 3 18q 190 18p 0 1 3 18q 190 18p 0
    1 1 1cc 0 1 1 1cc 0 1 1 1cc 0 1 1 1cc 0 1 3 18q 190 17w 0 1 3 18q 190 17x 0 1 3 18q 190
    18l 0 1 3 18q 190 18p 0 1 3 18q 190 18q 0 1 2 17s 17w 0 1 2 17s 17x 0 1 2 17s 17y 0 1 2
    17s 18l 0 1 2 17s 18p 0 1 2 17s 18q 0 1 2 17u 17w 0 1 2 17u 17x 0 1 2 17u 17y 0 1 2 17u
    18l 0 1 2 17u 18p 0 1 2 17u 18q 0 1 2 17v 17w 0 1 2 17v 18l 0 1 2 17v 18p 0 1 2 17v 18q
    0 1 2 17w 17x 0 1 2 17w 18l 0 1 2 17x 17w 0 1 2 17x 18l 0 1 2 17y 17w 0 1 2 17y 17x 0 1
    2 17y 18l 0 1 2 183 17w 0 1 2 183 17x 0 1 2 183 17y 0 1 2 183 18l 0 1 2 185 17x 0 1 2
    185 18l 0 1 2 186 17w 0 1 2 186 17x 0 1 2 186 17y 0 1 2 186 18l 0 1 2 187 17x 0 1 2 187
    18l 0 1 2 188 18l 0 1 2 189 17w 0 1 2 189 18l 0 1 2 18a 17w 0 1 2 18a 18l 0 1 2 18h 17w
    0 1 2 18h 17x 0 1 2 18h 17y 0 1 2 18h 18l 0 1 2 18h 18p 0 1 2 18h 18q 0 1 2 18i 17x 0 1
    2 18i 18l 0 1 2 18i 18p 0 1 2 18i 18q 0 1 2 18j 17r 0 1 2 18j 17w 0 1 2 18j 17x 0 1 2
    18j 17y 0 1 2 18j 18k 0 1 2 18j 18l 0 1 2 18j 18p 0 1 2 18j 18q 0 1 2 18k 17w 0 1 2 18k
    17x 0 1 2 18k 17y 0 1 2 18k 18l 0 1 2 18k 18p 0 1 2 18k 18q 0 1 2 18l 17w 0 1 2 18l 17x
    0 1 2 18l 17y 0 1 2 18l 18l 0 1 2 18l 18p 0 1 2 18l 18q 0 1 2 18m 17w 0 1 2 18m 17x 0 1
    2 18m 17y 0 1 2 18m 18l 0 1 2 18m 18p 0 1 2 18m 18q 0 1 2 18n 17w 0 1 2 18n 18l 0 1 2
    18n 18p 0 1 2 18n 18q 0 1 2 18q 17w 0 1 2 18q 17x 0 1 2 18q 17y 0 1 2 18q 18l 0 1 2 18q
    18p 0 1 2 18q 18q 0 1 2 180 19s 0 1 2 181 19s 0 1 2 18p 19s 6 1 3 18q 190 181 0 1 3 18q
    190 182 0 1 3 18q 190 18l 0 1 3 18q 190 18m 0 1 3 18q 190 18p 0 1 3 18q 190 18q 0 1 2
    17s 181 0 1 2 17s 182 0 1 2 17s 18l 0 1 2 17s 18m 0 1 2 17s 18p 0 1 2 17s 18q 0 1 2 17u
    181 0 1 2 17u 182 0 1 2 17u 18l 0 1 2 17u 18m 0 1 2 17u 18p 0 1 2 17u 18q 0 1 2 17v 181
    0 1 2 17v 182 0 1 2 17v 18l 0 1 2 17v 18m 0 1 2 17v 18p 0 1 2 17v 18q 0 1 2 18h 18p 0 1
    2 18h 18q 0 1 2 18i 18p 0 1 2 18i 18q 0 1 2 18j 17r 0 1 2 18j 18k 0 1 2 18j 18l 0 1 2
    18j 18p 0 1 2 18j 18q 0 1 2 18k 18l 0 1 2 18k 18p 0 1 2 18k 18q 0 1 2 18l 17r 0 1 2 18l
    18l 0 1 2 18m 181 0 1 2 18m 182 0 1 2 18m 18l 0 1 2 18m 18m 0 1 2 18m 18p 0 1 2 18m 18q
    0 1 2 18p 19s 0 1 2 18q 181 0 1 2 18q 182 0 1 2 18q 18l 0 1 2 18q 18m 0 1 2 18q 18p 0 1
    2 18q 18q 0 1 3 18q 190 17w 0 1 3 18q 190 17x 0 1 3 18q 190 17y 0 1 3 18q 190 18l 0 1 3
    18q 190 18n 0 1 2 17s 17w 0 1 2 17s 17x 0 1 2 17s 17y 0 1 2 17s 18l 0 1 2 17s 18n 0 1 2
    17u 17w 0 1 2 17u 17x 0 1 2 17u 17y 0 1 2 17u 18l 0 1 2 17u 18n 0 1 2 17v 18l 0 1 2 17w
    17x 0 1 2 17w 18l 0 1 2 17x 17w 0 1 2 17x 18l 0 1 2 17y 17w 0 1 2 17y 18l 0 1 2 183 17w
    0 1 2 183 17x 0 1 2 183 17y 0 1 2 183 18l 0 1 2 185 17x 0 1 2 185 17y 0 1 2 185 18l 0 1
    2 186 17w 0 1 2 186 17x 0 1 2 186 17y 0 1 2 186 18l 0 1 2 187 17x 0 1 2 188 18l 0 1 2
    189 17w 0 1 2 189 18l 0 1 2 18a 17w 0 1 2 18a 18l 0 1 2 18h 17w 0 1 2 18h 17x 0 1 2 18h
    17y 0 1 2 18h 18l 0 1 2 18i 17x 0 1 2 18i 18l 0 1 2 18j 17w 0 1 2 18j 17x 0 1 2 18j 17y
    0 1 2 18j 18k 0 1 2 18j 18l 0 1 2 18k 17w 0 1 2 18k 17x 0 1 2 18k 17y 0 1 2 18k 18l 0 1
    2 18k 18n 0 1 2 18l 17w 0 1 2 18l 17x 0 1 2 18l 17y 0 1 2 18l 18l 0 1 2 18m 17w 0 1 2
    18m 17x 0 1 2 18m 17y 0 1 2 18m 18l 0 1 2 18m 18n 0 1 2 18n 17w 0 1 2 18n 18l 0 1 2 18n
    19s 0 1 2 18q 17w 0 1 2 18q 17x 0 1 2 18q 17y 0 1 2 18q 18l 0 1 2 18q 18n 0 1 3 18q 190
    18l 0 1 3 18q 190 18n 0 1 2 17s 18l 0 1 2 17s 18n 0 1 2 17u 18l 0 1 2 17u 18n 0 1 2 17v
    18l 0 1 2 17v 18n 0 1 2 183 18l 0 1 2 183 18n 0 1 2 184 18l 0 1 2 184 18n 0 1 2 18j 18k
    0 1 2 18j 18l 0 1 2 18k 18l 0 1 2 18m 18l 0 1 2 18m 18n 0 1 2 18q 18l 0 1 2 18q 18n 0 1
    3 18g 18u 18x 0 1 3 18g 18v 18x 0 1 3 18g 18w 18x 0 1 2 187 18p 0 1 2 187 18q 0 1 2 189
    18p 0 1 2 189 18q 0 1 2 18a 18p 0 1 2 18a 18q 0 1 2 183 18p 0 1 2 183 18q 0 1 2 184 18p
    0 1 2 184 18q 0 1 2 17x 18p 0 1 2 17x 18q 0 1 2 17w 18p 0 1 2 17w 18q 0 1 2 17y 18p 0 1
    2 17y 18q 0 1 2 185 18p 0 1 2 185 18q 0 1 2 186 18p 0 1 2 186 18q 0 1 2 184 17w 0 1 2
    184 17x 0 1 2 184 17y 0 1 2 184 18l 0 1 2 184 181 0 1 2 183 181 0 1 2 185 181 0 1 2 186
    181 0 1 2 187 18p 0 1 2 187 18q 0 1 2 189 18p 0 1 2 189 18q 0 1 2 18a 18p 0 1 2 18a 18q
    0 1 2 183 18p 0 1 2 183 18q 0 1 2 184 18p 0 1 2 184 18q 0 1 2 17x 18p 0 1 2 17x 18q 0 1
    2 17w 18p 0 1 2 17w 18q 0 1 2 17y 18p 0 1 2 17y 18q 0 1 2 185 18p 0 1 2 185 18q 0 1 2
    186 18p 0 1 2 186 18q 0 1 2 184 17w 0 1 2 184 17x 0 1 2 184 17y 0 1 2 184 18l 0 1 2 184
    181 0 1 2 183 181 0 1 2 185 181 0 1 2 186 181 0 1 2 184 17w 0 1 2 184 17x 0 1 2 184 17y
    0 1 2 184 18l 0 1 2 183 18n 0 1 2 184 18n 0 1 2 187 18l 0 1 2 183 17w 0 1 2 183 17x 0 1
    2 183 17y 0 1 2 184 17w 0 1 2 184 17x 0 1 2 184 17y 0 1 2 187 18l 0 1 2 188 18l 0 1 2
    17r 18r 0 1 2 17r 18r i 1 3 17u 17w 18l 0 1 3 17u 17x 17w 0 1 3 17u 17x 17w 0 1 3 17u
    17x 18l 0 1 3 17u 17y 18l 0 1 3 17u 18l 17w 0 1 3 17u 18l 17x 0 1 3 17u 18l 17y 0 1 3
    17w 18l 17x 0 1 3 17w 18l 17x 0 1 3 17x 18l 18q 0 1 3 17x 18l 18p 0 1 3 183 17x 17w 0 1
    3 183 17w 17x 0 1 3 183 17w 18p 0 1 3 183 18l 17x 0 1 3 183 18l 17x 0 1 3 183 18l 17w 0
    1 3 183 18l 18l 0 1 3 183 18l 18l 0 1 3 185 17x 17x 0 1 3 185 17x 17x 0 1 3 185 18l 18l
    0 1 3 184 17x 18l 0 1 3 184 17x 18l 0 1 3 184 17w 18q 0 1 3 184 18l 17y 0 1 3 184 18l
    17y 0 1 3 184 18l 18l 0 1 3 184 18l 18l 0 1 3 186 17x 18p 0 1 3 186 17y 18l 0 1 3 186
    17y 18l 0 1 3 187 18l 17x 0 1 3 187 18l 17x 0 1 3 187 18l 18l 0 1 3 187 18l 18q 0 1 3
    189 17w 18l 0 1 3 189 18l 18l 0 1 3 189 18l 18l 0 1 3 189 18l 18p 0 1 3 18a 18l 18l 0 1
    3 18a 18l 18q 0 1 3 18a 18l 18p 0 1 3 18h 17y 18l 0 1 3 18h 17y 18l 0 1 3 18i 18l 17x 0
    1 3 18i 18l 18l 0 1 3 18k 17x 18l 0 1 3 18k 17x 18q 0 1 3 18k 17x 18p 0 1 3 18k 17w 17w
    0 1 3 18k 17w 17w 0 1 3 18k 17y 18l 0 1 3 18k 17y 18l 0 1 3 18k 18l 17x 0 1 3 18k 18l
    17x 0 1 3 18l 17x 17w 0 1 3 18l 17x 18l 0 1 3 18l 17x 18q 0 1 3 18l 17w 17x 0 1 3 18l
    17w 18l 0 1 3 18l 17y 17w 0 1 3 18l 17y 18l 2 1 3 18l 17w 17y 0 1 3 18n 18l 17w 0 1 3
    18n 18l 18l 0 1 3 18m 17x 18l 0 1 3 18m 17x 18p 0 1 3 18m 17w 18l 0 1 3 18m 17w 18l 0 1
    3 18m 17w 18p 0 1 3 18m 18l 18q 0 1 3 18m 18l 18p 0 1 3 18q 18l 18l 0 1 3 18q 18l 18l 0
    1 3 17s 17y 18q 0 1 3 17u 17w 18q 0 1 3 17u 17w 18p 0 1 3 17u 17y 18q 0 1 3 17u 17y 18p
    0 1 3 17u 18l 18q 0 1 3 17u 18l 18p 0 1 3 17w 18l 18q 0 1 3 17w 17x 18p 0 1 3 17w 18l
    18p 0 1 3 183 17y 18p 0 1 3 185 17x 18q 0 1 3 184 17x 18q 0 1 3 186 17x 18q 0 1 3 18k
    17w 18q 0 1 3 18k 18l 18q 0 1 3 18q 17x 18q 0 1 3 18q 17w 18q 0 1 3 18q 18l 18q 0 1 3
    18l 18l 18q 0 1 3 18i 18l 18q 0 1 3 18m 17x 18q 0 1 3 18i 18l 17x 0 1 3 18k 17x 18l 0 1
    3 189 18l 18q 0 1 3 18j 18l 18q 0 1 3 18m 17w 17x 0 1 3 18l 17y 18q 0 1 3 18k 17w 18l 0
    1 3 18j 18l 18l 0 1 3 18k 17w 18l 0 1 3 18m 17w 17x 0 1 3 17w 17x 18q 0 1 3 17x 17w 18q
    0 1 3 18l 17w 18q 0 1 3 18h 18l 18q 0 1 3 17s 17x 18q 0 1 3 18j 18l 18l 0 1 3 189 17w
    18l 0 1 3 185 18l 18l 0 1 3 183 17y 18q 0 1 3 18m 17w 18q 14 1 3 185 18k 1ci 0 1 3 18i
    18k 1ci 0 1 4 17r 18k 18k 18n 0 1 4 17r 18j 17s 181 0 1 4 18l 17x 18l 17z 0 1 4 185 18k
    189 18l 0 1 4 181 183 18o 18k 0 1 4 189 18k 18q 18n 0 1 4 18o 183 18k 18l 0 1 3 185 18k
    18p 1l 1 1 2n 0 1 1 2n o 1 1 2n 0 1 1 2n 0 1 1 2n x 1 2 18g 18r 5 1 2 18g 18u 1 1 2 18g
    18v 1 1 2 18g 18w 1 1 2 18g 18x 1 1 2 18g 18y 0 1 1 17l 0 1 2 17r 18z 0 1 2 17r 18z 0 1
    2 17r 190 0 1 2 17r 190 0 1 2 18o 190 0 1 2 18o 190 0 1 2 17r 191 0 1 2 17r 191 0 1 2
    18q 190 0 1 2 18q 190 0 1 2 18q 190 0 1 2 18q 190 0 1 1 17r 0 2 1 17r 0 1 1 17s 0 1 1
    17s 0 2 1 17s 0 2 1 17t 0 1 1 17u 0 1 1 17u 0 2 1 17u 0 1 1 17v 0 1 1 17v 0 2 1 17v 0 1
    1 17w 0 1 1 17w 0 2 1 17w 0 1 1 17x 0 1 1 17x 0 2 1 17x 0 1 1 17y 0 1 1 17y 0 2 1 17y 0
    2 1 17z 0 2 1 180 0 2 1 181 0 2 1 182 0 1 1 183 0 1 1 183 0 2 1 183 0 1 1 184 0 1 1 184
    0 2 1 184 0 1 1 185 0 1 1 185 0 2 1 185 0 1 1 186 0 1 1 186 0 2 1 186 0 1 1 187 0 1 1
    187 0 2 1 187 0 1 1 188 0 1 1 188 0 2 1 188 0 1 1 189 0 1 1 189 0 2 1 189 0 1 1 18a 0 1
    1 18a 0 1 1 18a 0 1 1 18h 0 1 1 18h 0 1 1 18h 0 2 1 18h 0 1 1 18i 0 1 1 18i 0 2 1 18i 0
    1 1 18j 0 1 1 18j 0 2 1 18j 0 1 1 18k 0 1 1 18k 0 2 1 18k 0 1 1 18l 0 1 1 18l 0 2 1 18l
    0 1 1 18m 0 1 1 18m 0 2 1 18m 0 1 1 18n 0 1 1 18n 0 2 1 18n 0 2 1 18o 0 2 1 18p 0 1 1
    18q 0 1 1 18q 0 1 1 18q 0 1 3 18k 17r 18z 0 1 3 18k 17r 18z 0 1 3 18k 17r 190 0 1 3 18k
    17r 190 0 1 3 18k 17r 191 0 1 3 18k 17r 191 0 1 2 18k 17r 0 1 2 18k 17r j a 1 1c 7 q 1
    1t 4 1 1 2n 1 q 1 2p b 1 1 9o2 0 1 1 9lt 0 1 1 9lv 0 1 1 9lx 0 1 1 9lz 0 1 1 9m1 0 1 1
    9nn 0 1 1 9np 0 1 1 9nr 0 1 1 9mr 0 1 1 9oc 0 1 1 9lu 0 1 1 9lw 0 1 1 9ly 0 1 1 9m0 0 2
    1 9m2 0 1 1 9m5 0 1 1 9m7 0 1 1 9m9 0 1 1 9mb 0 1 1 9md 0 1 1 9mf 0 1 1 9mh 0 1 1 9mj 0
    1 1 9ml 0 1 1 9mn 0 1 1 9mp 0 1 1 9ms 0 1 1 9mu 0 1 1 9mw 0 6 1 9my 0 1 1 9n6 0 1 1 9n9
    0 1 1 9nc 0 1 1 9nf 0 5 1 9ni 0 1 1 9no 0 1 1 9nq 0 6 1 9ns 0 1 1 9nz 0 1 1 9o3 0 2 1
    9ll 0 1 1 3fk 0 2 1 3cw 0 1 1 3hm 0 1 1 3cy 0 2 1 3ho 0 3 1 3cz 0 6 1 3hs 0 1 1 3dm 0 3
    1 3d2 0 1 1 3dt 0 a 1 3d5 3 6 1 3fl 2 6 1 3fr 2 6 1 3fx 2 3 1 3g3 1ic 2 1 k0 0 1 1 6e 0
    1 1 ih 0 1 1 gj 1 1 1 ir 0 1 1 xuu 0 1 1 it 0 1 1 is 0 2 1 gm 0 1 1 5u9 0 1 1 go 0 1 1
    gu 0 1 1 ix 0 1 1 h0 0 1 1 gy 0 1 1 gw 0 1 1 ij 0 1 1 87 0 1 1 ik 0 1 1 h3 0 1 1 hw 0 2
    1 iy 0 1 1 h8 0 1 1 2mmc 0 1 1 x3i 0 1 1 ha 0 1 1 2mmd 0 1 1 i6 0 1 1 2mme 0 1 1 6w 0 2
    1 hi 0 1 1 35 0 1 1 hm 0 1 1 2mmg 0 2 1 hp 0 1 1 hs 0 1 1 iw 0 1 1 iu 0 1 1 xuv 0 1 1 iv
    0 1 1 i0 0 1 1 8s1 1 1 1 i7 0 2 1 ip 0 1 1 ig 0 3 1 cg 0 1 1 2mmi 0 1 1 2mn2 1r3 1 2
    1huh 1hve 1 1 2 1huj 1hve e 1 2 1hut 1hve 3m 1 2 1hyp 1hyf 0 1 2 1hyq 1hyf ez 1 2 1idj
    1ida 0 1 2 1idj 1idz a6 1 2 1int 1inu 0 1 2 1int 1ink 1 1 2 1int 1inx 6z 1 2 1iuw 1iun 0
    1 2 1iux 1iun os 1 2 1jjp 1jjk 10w7 q 1 1t 0 q 1 2p 0 q 1 1t 0 7 1 2p 1 i 1 2x 0 q 1 1t
    0 q 1 2p 0 1 1 1t 1 2 1 1v 2 1 1 1z 2 2 1 22 2 4 1 26 1 8 1 2b 0 4 1 2p 1 1 1 2u 1 7 1
    2w 1 b 1 34 0 q 1 1t 0 q 1 2p 0 2 1 1t 1 4 1 1w 2 8 1 22 1 7 1 2b 1 q 1 2p 0 2 1 1t 1 4
    1 1w 1 5 1 21 1 1 1 27 3 7 1 2b 1 q 1 2p 0 q 1 1t 0 q 1 2p 0 q 1 1t 0 q 1 2p 0 q 1 1t 0
    q 1 2p 0 q 1 1t 0 q 1 2p 0 q 1 1t 0 q 1 2p 0 q 1 1t 0 q 1 2p 0 1 1 8h 0 1 1 fr 2 h 1 pd
    0 1 1 pk 0 7 1 pv 1 p 1 q9 1 1 1 qd 0 1 1 qg 0 1 1 qi 0 1 1 qu 0 1 1 qp 0 1 1 qo 0 h 1
    pd 0 1 1 pk 0 7 1 pv 1 p 1 q9 1 1 1 qd 0 1 1 qg 0 1 1 qi 0 1 1 qu 0 1 1 qp 0 1 1 qo 0 h
    1 pd 0 1 1 pk 0 7 1 pv 1 p 1 q9 1 1 1 qd 0 1 1 qg 0 1 1 qi 0 1 1 qu 0 1 1 qp 0 1 1 qo 0
    h 1 pd 0 1 1 pk 0 7 1 pv 1 p 1 q9 1 1 1 qd 0 1 1 qg 0 1 1 qi 0 1 1 qu 0 1 1 qp 0 1 1 qo
    0 h 1 pd 0 1 1 pk 0 7 1 pv 1 p 1 q9 1 1 1 qd 0 1 1 qg 0 1 1 qi 0 1 1 qu 0 1 1 qp 0 1 1
    qo 0 2 1 rg 2 a 1 1c 0 a 1 1c 0 a 1 1c 0 a 1 1c 0 a 1 1c 4cg 2 1 17r 0 1 1 17w 0 1 1 17z
    1 1 1 18o 0 1 1 182 0 1 1 17x 0 1 1 187 0 1 1 18q 0 4 1 18j 0 1 1 183 0 1 1 189 0 1 1
    18h 0 1 1 185 0 1 1 18i 0 1 1 181 0 1 1 184 0 2 1 17u 0 1 1 17y 0 1 1 180 0 1 1 186 0 1
    1 188 0 1 1 18a 0 1 1 19q 0 1 1 1bu 0 1 1 1b5 0 1 1 19r 1 1 1 17s 0 1 1 17w 1 1 1 18n 2
    1 1 17x 1 1 1 18q 0 4 1 18j 0 1 1 183 0 1 1 189 0 1 1 18h 0 1 1 185 0 1 1 18i 1 1 1 184
    0 2 1 17u 0 1 1 17y 1 1 1 186 1 1 1 18a 6 1 1 17w 4 1 1 17x 1 1 1 18q 1 1 1 18k 1 1 1
    18m 0 1 1 183 0 1 1 189 1 1 1 185 0 1 1 18i 1 1 1 184 2 1 1 17y 1 1 1 186 1 1 1 18a 1 1
    1 1bu 1 1 1 19r 1 1 1 17s 0 1 1 17w 1 1 1 18n 2 1 1 17x 0 1 1 187 0 1 1 18q 0 1 1 18j 1
    2 1 18l 0 1 1 183 0 1 1 189 0 1 1 18h 0 1 1 185 0 1 1 18i 1 1 1 184 0 2 1 17u 0 1 1 17y
    1 1 1 186 0 1 1 188 0 1 1 18a 0 1 1 19q 1 1 1 1b5 1 2 1 17r 0 1 1 17w 0 1 1 17z 0 2 1
    18n 0 1 1 182 0 1 1 17x 0 1 1 187 0 1 1 18q 1 3 1 18k 0 1 1 183 0 1 1 189 0 1 1 18h 0 1
    1 185 0 1 1 18i 0 1 1 181 0 1 1 184 0 2 1 17u 0 1 1 17y 0 1 1 180 0 1 1 186 0 1 1 188 0
    1 1 18a 5 1 1 17s 0 1 1 17w 0 1 1 17z 1 1 1 18o 0 1 1 182 0 1 1 17x 0 1 1 187 0 1 1 18q
    1 3 1 18k 0 1 1 183 0 1 1 189 0 1 1 18h 0 1 1 185 0 1 1 18i 0 1 1 181 0 1 1 184 0 2 1
    17u 0 1 1 17y 0 1 1 180 0 1 1 186 0 1 1 188 0 1 1 18a 2lw a 1 1c 1ds6 1 1 fgd 0 1 1 fg8
    0 1 1 fgh 0 1 1 2tcy 0 1 1 fog 0 1 1 fqm 0 1 1 fqz 0 1 1 fsy 0 1 1 fwa 0 1 1 fx5 0 1 1
    fzb 0 1 1 fyn 0 1 1 ae6 0 1 1 2ud6 0 1 1 g25 0 1 1 g2c 0 1 1 g2s 0 1 1 g3b 0 1 1 2u58 0
    1 1 aex 0 1 1 g2v 0 1 1 g3x 0 1 1 2u6j 0 1 1 g47 0 1 1 g4k 0 1 1 fkc 0 1 1 g4s 0 1 1 g51
    0 1 1 3ly7 0 1 1 g6t 0 1 1 g77 0 1 1 afz 0 1 1 g8r 0 1 1 g92 0 1 1 gaa 0 1 1 gaf 0 1 1
    ahh 0 1 1 gcn 0 1 1 gcp 0 1 1 gdg 0 1 1 ge2 0 2 1 ged 0 1 1 gev 0 1 1 gg9 0 1 1 ggh 0 1
    1 ggq 0 1 1 ghf 0 1 1 ghp 0 1 1 ghr 0 1 1 ghr 0 1 1 ghr 0 1 1 2v58 0 1 1 m7k 0 1 1 gju 0
    1 1 gkf 0 1 1 2vdv 0 1 1 gkr 0 1 1 gkx 0 1 1 gli 0 1 1 gpq 0 1 1 gmw 0 1 1 gnc 0 1 1 go8
    0 1 1 gpu 0 1 1 gs6 0 1 1 gsw 0 1 1 gur 0 1 1 gv7 0 1 1 gw4 0 1 1 gw4 0 1 1 gwp 0 1 1
    gx7 0 1 1 gxf 0 1 1 gxu 0 1 1 h7a 0 1 1 gzq 0 1 1 h7b 0 1 1 h1t 0 1 1 h2s 0 1 1 g7b 0 1
    1 hke 0 1 1 hce 0 1 1 hdg 0 1 1 he5 0 1 1 haj 0 1 1 hf6 0 1 1 hf5 0 1 1 hik 0 1 1 2x9g 0
    1 1 hki 0 1 1 hkn 0 1 1 hl2 0 1 1 hlm 0 1 1 hlu 0 1 1 hnm 0 1 1 2xm0 0 1 1 2xnu 0 1 1
    hrg 0 1 1 hsr 0 1 1 ht3 0 1 1 hqw 0 1 1 huu 0 1 1 aum 0 1 1 av0 0 1 1 hzc 0 1 1 i0u 0 1
    1 i0u 0 1 1 2y88 0 1 1 i4j 0 1 1 i54 0 1 1 i5j 0 1 1 i5v 0 1 1 2yhk 0 1 1 i67 0 1 1 i6e
    0 1 1 itv 0 1 1 i76 0 1 1 ayp 0 1 1 i8w 0 1 1 i9a 0 1 1 ibk 0 1 1 ia5 0 1 1 2z1g 0 1 1
    if7 0 1 1 2z1i 0 1 1 ige 0 1 1 igb 0 1 1 igs 0 2 1 ijl 0 1 1 b3j 0 1 1 ikd 0 1 1 ilk 0 1
    1 im5 0 1 1 ind 0 1 1 b4y 0 1 1 2zr7 0 1 1 b5o 0 1 1 ipc 0 1 1 ipf 0 1 1 ipi 0 1 1 iq2 0
    1 1 3pg2 0 1 1 iri 0 1 1 3035 0 1 1 3035 0 1 1 poh 0 1 1 isi 0 1 1 isi 0 1 1 b7r 0 1 1
    335k 0 1 1 3cgq 0 1 1 iua 0 1 1 iuj 0 1 1 b8j 0 1 1 ivu 0 1 1 ix9 0 1 1 ixj 0 1 1 iyh 0
    1 1 j29 0 1 1 bay 0 1 1 ba4 0 1 1 j2s 0 1 1 30t0 0 1 1 j47 0 1 1 j7s 0 1 1 j7w 0 1 1 j7y
    0 1 1 j7w 0 1 1 j96 0 1 1 j9q 0 1 1 jaq 0 1 1 jac 0 1 1 jan 0 1 1 jby 0 1 1 jci 0 1 1
    jcm 0 1 1 jdc 0 1 1 jdn 0 1 1 jfh 0 1 1 jht 0 1 1 jis 0 1 1 jm8 0 1 1 31n0 0 1 1 jlp 0 1
    1 jjw 0 1 1 jmw 0 1 1 jnn 0 1 1 jqc 0 1 1 31td 0 1 1 js2 0 1 1 jph 0 1 1 jop 0 1 1 bhq 0
    1 1 ju1 0 1 1 jum 0 1 1 jvh 0 1 1 juf 0 1 1 bjg 0 1 1 k0f 0 1 1 k18 0 1 1 32mi 0 1 1 k4j
    0 1 1 kc8 0 1 1 k7d 0 1 1 bo9 0 1 1 k9d 0 1 1 bns 0 1 1 bms 0 1 1 g42 0 1 1 g45 0 1 1
    kcg 0 1 1 k9o 0 1 1 pf1 0 1 1 deh 0 1 1 kd3 0 1 1 kd7 0 1 1 kdd 0 1 1 kf2 0 1 1 ker 0 1
    1 33cz 0 1 1 bpl 0 1 1 kje 0 1 1 kg5 0 1 1 klu 0 1 1 kn9 0 1 1 33hp 0 1 1 kni 0 1 1 kkf
    0 1 1 kr8 0 1 1 brx 0 1 1 ksi 0 1 1 kv7 0 1 1 kx6 0 1 1 l2g 0 1 1 33xf 0 1 1 l3v 0 1 1
    bvc 0 1 1 l5t 0 1 1 34br 0 1 1 l78 0 1 1 bwu 0 1 1 l82 0 1 1 l9b 0 2 1 la2 0 1 1 34p9 0
    1 1 2yvf 0 1 1 34sa 0 1 1 le6 0 1 1 354s 0 1 1 lhb 0 1 1 lhp 0 1 1 lev 0 1 1 ljq 0 1 1
    lku 0 1 1 lmf 0 1 1 lkx 0 1 1 lm1 0 1 1 lmg 0 1 1 lmt 0 1 1 357i 0 1 1 lkk 0 1 1 lrj 0 1
    1 lta 0 1 1 c37 0 1 1 lvv 0 1 1 lvr 0 1 1 35jl 0 1 1 lq1 0 1 1 m0e 0 1 1 35ni 0 1 1 35ou
    0 1 1 m2u 0 1 1 m61 0 1 1 m5a 0 1 1 m57 0 1 1 c5y 0 1 1 m6i 0 1 1 m7x 0 1 1 m7r 0 1 1
    m99 0 1 1 2u5h 0 1 1 mdh 0 1 1 368z 0 1 1 mfw 0 1 1 36i3 0 1 1 mjs 0 1 1 mk5 0 1 1 mkw 0
    1 1 36yw 0 1 1 mm8 0 1 1 mmt 0 1 1 3779 0 1 1 37dg 0 1 1 mt6 0 1 1 mtn 0 1 1 cdo 0 1 1
    mud 0 1 1 ce0 0 1 1 ce0 0 1 1 myv 0 1 1 mzg 0 1 1 n01 0 1 1 n0l 0 1 1 n2i 0 1 1 cgr 0 1
    1 n50 0 1 1 386u 0 1 1 n5q 0 1 1 389e 0 1 1 n74 0 1 1 2zrz 0 1 1 nbk 0 1 1 38v5 0 1 1
    38vs 0 1 1 38zo 0 1 1 cn0 0 1 1 cnc 0 1 1 nhw 0 1 1 394j 0 1 1 394i 0 1 1 395l 0 1 1
    396b 0 2 1 nj2 0 1 1 nj3 0 1 1 nka 0 1 1 cop 0 1 1 nm3 0 1 1 cp2 0 1 1 cra 0 1 1 39r1 0
    1 1 nri 0 1 1 nt8 0 1 1 nv0 0 1 1 ctf 0 1 1 3a5i 0 1 1 nyu 0 1 1 3a8q 0 1 1 3a9x 0 1 1
    o0f 0 1 1 o2z 0 1 1 cvj 0 1 1 o5c 0 1 1 o5m 0 1 1 o5r 0 1 1 3at8 0 1 1 3b1j 0 1 1 3b1j 0
    1 1 oa6 0 1 1 d1e 0 1 1 3b8r 0 1 1 og6 0 1 1 og9 0 1 1 d2f 0 1 1 3beo 0 1 1 onm 0 1 1
    d5s 0 1 1 oo8 0 1 1 oo3 0 1 1 oow 0 1 1 3c06 0 1 1 orn 0 1 1 d8h 0 1 1 ouf 0 1 1 ow2 0 1
    1 oxx 0 1 1 d9w 0 1 1 3ciw 0 1 1 3cjr 0 1 1 dax 0 1 1 3cnt 0 1 1 p6i 0 1 1 3cqm 0 1 1
    p79 0 1 1 pa2 0 1 1 pad 0 1 1 3d22 0 1 1 3d43 0 1 1 pcw 0 1 1 3d7s 0 1 1 pdc 0 1 1 33a7
    0 1 1 ded 0 1 1 pf6 0 1 1 phf 0 1 1 dfv 0 1 1 pj2 0 1 1 hx1 0 1 1 3dlz 0 1 1 3dmd 0 1 1
    33bn 0 1 1 33bw 0 1 1 poh 0 1 1 pok 0 1 1 sda 0 1 1 dij 0 1 1 psh 0 1 1 psb 0 1 1 pst 0
    1 1 gc3 0 1 1 ptd 0 1 1 ptf 0 1 1 ptp 0 1 1 puu 0 1 1 3ebg 0 1 1 put 0 1 1 pwd 0 1 1 pyb
    0 1 1 q0d 0 1 1 pwj 0 1 1 q0t 0 1 1 q1z 0 1 1 q53 0 1 1 pxv 0 1 1 q16 0 1 1 q18 0 1 1
    q1o 0 1 1 3eie 0 1 1 3eqz 0 1 1 3emt 0 1 1 dnv 0 1 1 q9d 0 1 1 q9f 0 1 1 qae 0 1 1 3g0a
    0 1 1 qck 0 1 1 3f3g 0 1 1 dp9 0 1 1 dpd 0 1 1 3f75 0 1 1 3ff6 0 1 1 dpn 0 1 1 qj4 0 1 1
    qjg 0 1 1 qjr 0 1 1 qjt 0 1 1 qll 0 1 1 qko 0 1 1 qoe 0 1 1 qn6 0 1 1 qrd 0 1 1 qp4 0 1
    1 qqz 0 1 1 qrq 0 1 1 dsn 0 1 1 qu9 0 1 1 qv5 0 1 1 dtl 0 1 1 qxs 0 1 1 qxv 0 1 1 3giv 0
    1 1 r13 0 1 1 r1a 0 1 1 dv9 0 1 1 r22 0 1 1 aez 0 1 1 3gz2 0 1 1 3h46 0 1 1 dz2 0 1 1
    dzb 0 1 1 rds 0 1 1 rfx 0 1 1 rka 0 1 1 rpx 0 1 1 3hrc 0 1 1 rsb 0 1 1 rsx 0 1 1 rvf 0 1
    1 rxz 0 1 1 3i9b 0 1 1 2upw 0 1 1 s0b 0 1 1 rzw 0 1 1 s1c 0 1 1 2uvy 0 1 1 s7o 0 1 1 sag
    0 1 1 3jki 0 1 1 3jl9 0 1 1 sk4 0 1 1 smp 0 1 1 snl 0 1 1 3ju6 0 1 1 snv 0 1 1 svs 0 2 1
    t07 0 1 1 sxo 0 1 1 t89 0 1 1 t91 0 1 1 3ksa 0 1 1 tjf 0 1 1 ej9 0 1 1 tkn 0 1 1 3l2v 0
    1 1 eli 0 1 1 ts3 0 1 1 iia 0 1 1 tur 0 1 1 3ltx 0 1 1 3lzu 0 1 1 epa 0 1 1 epi 0 1 1
    u00 0 1 1 3mdm 0 1 1 er6 0 1 1 3mhi 0 1 1 u17 0 1 1 u17 0 1 1 u21 0 1 1 3mpi 0 1 1 u76 0
    1 1 eur 0 1 1 u95 0 1 1 ucn 0 1 1 ude 0 1 1 uf2 0 1 1 ez2 0 1 1 3nsg 0 1 1 umq 0 1 1 uv4
    0 1 1 v0d 0 1 1 f66 0 1 1 f71 0 1 1 v3b 0 1 1 3owe 0 1 1 f7c 0 1 1 3oxx 0 1 1 3p5a 0 1 1
    3p8x 0 1 1 vcr 0 1 1 f9y 0 1 1 veh 0 1 1 vem 0 1 1 vet 0 1 1 vf3 0 1 1 vfa 0 1 1 vgb 0 1
    1 3pxc")

/-- A class of marks: the first character of a run, how many there are, and the class. -/
structure MarkRun where
  first : Nat
  count : Nat
  markClass : Nat

/-- Read rows `gap, count, class`, starting from `origin`. -/
def markRuns (origin : Nat) : List Nat → List MarkRun
  | gap :: count :: markClass :: rest =>
      ⟨origin + gap, count, markClass⟩ :: markRuns (origin + gap + count) rest
  | _ => []

/-- The characters that are marks on the one before them. -/
def markTable : List MarkRun := markRuns 0 (unpack
    "lc l 6e 0 1 6g 0 4 64 0 1 6g 0 1 60 0 5 64 0 2 5m 0 4 64 0 2 5m 0 b 64 0 5 1 0 4 64 0 8
    6e 0 1 6o 0 1 6e 0 3 64 0 3 6e 0 2 64 1 3 6e 0 4 64 0 1 6e 0 1 6g 0 2 64 0 1 6e 0 1 6h 0
    2 6i 0 1 6h 0 2 6i 0 1 6h 0 d 6e 7n 5 6e 7d 1 64 0 4 6e 0 1 64 0 3 6e 0 1 66 0 1 64 0 6
    6e 0 6 64 0 2 6e 0 1 64 0 2 6e 0 1 66 0 1 6c 0 1 6e 0 1 a 0 1 b 0 1 c 0 1 d 0 1 e 0 1 f
    0 1 g 0 1 h 0 1 i 0 2 j 0 1 k 0 1 l 0 1 m 1 1 n 1 1 o 0 1 p 1 1 6e 0 1 64 1 1 i 20 8 6e
    0 1 u 0 1 v 0 1 w 1c 1 r 0 1 s 0 1 t 0 1 u 0 1 v 0 1 w 0 1 x 0 1 y 0 2 6e 0 2 64 0 5 6e
    0 1 64 0 2 6e 0 1 64 g 1 z 2t 7 6e 2 4 6e 0 1 64 0 1 6e 2 2 6e 1 1 64 0 2 6e 0 1 64 z 1
    10 u 1 6e 0 1 64 0 2 6e 0 1 64 0 2 6e 0 3 64 0 1 6e 0 2 64 0 1 6e 0 1 64 0 3 6e 0 1 64 0
    1 6e 0 1 64 0 1 6e 0 1 64 0 1 6e 0 1 64 0 2 6e 4g 7 6e 0 1 64 0 1 6e 9 1 64 o 4 6e 1 9
    6e 1 3 6e 1 5 6e 17 3 64 1o 1 6e 0 3 64 0 4 6e 16 5 6e 0 5 64 0 e 6e 1 1 64 0 2 6e 0 1
    64 0 2 6e 0 1 64 0 3 6e 0 3 64 0 1 r 0 1 s 0 1 t 0 3 6e 0 1 64 0 2 6e 0 2 64 0 5 6e 1o 1
    7 g 1 9 3 1 6e 0 1 64 0 2 6e 2v 1 7 g 1 9 1c 1 6e 1p 1 7 g 1 9 32 1 7 g 1 9 32 1 7 g 1 9
    3j 1 9 32 1 7 g 1 9 7 1 2c 0 1 2j 2t 1 7 g 1 9 31 2 9 g 1 9 3g 1 9 31 2 2v 0 1 9 d 4 2z
    30 2 3a 0 1 9 d 4 3e 24 2 64 r 1 64 1 1 64 1 1 60 1j 1 3l 0 1 3m 1 1 3o 5 4 3m 2 1 3m 1
    2 6e 0 1 9 1 2 6e 1q 1 64 34 1 7 1 2 9 2a 1 64 jz 3 6e qc 2 9 u 1 9 4d 1 9 a 1 6e 5n 1
    6c 3z 1 66 0 1 6e 0 1 64 63 1 6e 0 1 64 1z 1 9 k 8 6e 2 1 64 1c 5 6e 0 6 64 0 2 6e 0 1
    64 1 2 64 0 2 6e 0 2 64 0 5 6e 0 1 64 0 4 6e 2t 1 7 f 1 9 12 1 6e 0 1 64 0 7 6e 1i 2 9
    1m 1 7 b 2 9 1v 1 7 48 3 6e 1 1 1 0 5 64 0 2 6e 0 4 64 0 1 6e 1 7 1 4 1 64 6 1 6e 3 2 6e
    5i 2 6e 0 1 64 0 7 6e 0 1 64 0 2 6e 0 1 6i 0 1 5y 0 1 64 0 1 5m 0 11 6e 0 1 6g 0 2 6c 0
    1 64 0 1 62 0 1 6e 0 1 6h 0 1 64 0 1 6e 0 1 64 k0 2 6e 0 2 1 0 4 6e 0 3 1 0 2 6e 4 1 6e
    3 2 1 0 1 6e 0 1 64 0 1 6e 0 2 1 0 4 64 0 1 6e 2da 3 6e 3x 1 9 2o w 6e fe 1 62 0 1 6c 0
    1 6g 0 1 66 0 2 68 2x 2 8 n9w 1 6e 4 a 6e w 2 6e 28 2 6e 7o 1 9 11 1 9 47 1 9 r i 6e 1l
    3 64 11 1 9 2n 1 7 c 1 9 6n 1 6e 1 2 6e 0 1 64 2 2 6e 5 2 6e 1 1 6e 1g 1 9 6u 1 9 fn4 1
    q ld 7 6e 0 7 64 0 2 6e r1 1 64 6a 1 64 45 5 6e 1aq 1 64 1 1 6e 14 1 6e 0 1 1 0 1 64 4 1
    9 4l 1 6e 0 1 64 fx 4 6e ar 2 6e 49 2 64 0 3 6e 0 1 64 0 1 6e 0 4 64 1d 1 6e 0 1 64 0 1
    6e 0 1 64 5c 1 9 15 1 9 e 1 9 1l 1 9 0 1 7 1x 3 6e 1c 2 9 1q 1 7 24 1 9 9 1 7 2y 1 9 0 1
    7 4y 1 7 0 1 9 28 2 7 g 1 9 o 7 6e 3 5 6e 5p 1 9 3 1 7 n 1 6e 2r 1 9 0 1 7 6z 1 9 0 1 7
    3i 1 9 3a 1 9 0 1 7 37 1 9 7h 1 9 0 1 7 76 2 9 4 1 7 4c 1 9 2b 1 9 i 1 9 29 1 9 bp 1 9
    76 1 7 1 2 9 29 1 9 fa0 5 1 1n 7 6e xl 2 6 f58 1 1 43q 2 60 0 3 1 3 1 6a 0 5 60 8 8 64 2
    5 6e 0 2 64 u 4 6e 44 3 6e 2pn 7 6e 1 h 6e 2 7 6e 1 2 6e 1 5 6e 79 7 6e af 1 6e 1p 4 6e
    15s 7 64 31 6 6e 0 1 7")

/-- The class of a mark; zero for a character that is none. -/
def markClass (code : Nat) : Nat :=
  ((markTable.find? fun run => run.first ≤ code && code < run.first + run.count).map
    (·.markClass)).getD 0

/-! ## Hangul syllables -/

/-- The first Hangul syllable; the others follow by lead, vowel and tail. -/
def firstSyllable : Nat := 0xac00

/-- How many Hangul syllables there are. -/
def syllableCount : Nat := 19 * 21 * 28

/-- The parts of a Hangul syllable, which may lack a tail. -/
def syllableForm (code : Nat) : List Nat :=
  let place := code - firstSyllable
  let tail := place % 28
  [0x1100 + place / (21 * 28), 0x1161 + place % (21 * 28) / 28] ++
    (if tail = 0 then [] else [0x11a7 + tail])

/-- Is this a Hangul syllable? -/
def isSyllable (code : Nat) : Bool :=
  firstSyllable ≤ code && code < firstSyllable + syllableCount

/-! ## Decomposition -/

/-- The characters that one character stands for. -/
def formOf (code : Nat) : List Nat :=
  if code < 128 then [code]
  else if isSyllable code then syllableForm code
  else
    match formTable.find? fun run => run.first ≤ code && code < run.first + run.count with
    | some run => run.form.map (· + (code - run.first))
    | none => [code]

/-- Put a character in front of ordered ones; a mark goes behind those of lower classes. -/
def insertMark (code : Nat) : List Nat → List Nat
  | [] => [code]
  | other :: rest =>
      if 0 < markClass other && markClass other < markClass code then
        other :: insertMark code rest
      else code :: other :: rest

theorem insertMark_perm (code : Nat) (others : List Nat) :
    (insertMark code others).Perm (code :: others) := by
  induction others with
  | nil => exact .refl _
  | cons other rest ih =>
      unfold insertMark
      split
      · exact (ih.cons other).trans (.swap code other rest)
      · exact .refl _

/-- Characters with the marks after each of them in the order of their classes. -/
def orderMarks : List Nat → List Nat
  | [] => []
  | code :: rest => insertMark code (orderMarks rest)

theorem orderMarks_perm (codes : List Nat) : (orderMarks codes).Perm codes := by
  induction codes with
  | nil => exact .refl _
  | cons code rest ih => exact (insertMark_perm code _).trans (ih.cons code)

/-- Characters written out as those they stand for. -/
def decompose (codes : List Nat) : List Nat :=
  orderMarks (codes.flatMap formOf)

end ReactiveSchema.Text
