import StyleTrim.Text.Ranges
namespace StyleTrim.Text

-- The versions of the character set, earliest first, each with the characters that came with it.
def ages : List CharTable :=
  [⟨["1.1","v11"],
    ["0.dx 5.t 1l.2g 8.1a 2.9 n.1x r.1 j.1 5 4 6.6 2 2.j 2.17 2.6 4 2 2 2 2.h e.b 2.1t 2.b",
     "2.14 a.1g 3.1 3.1 4.r 3.7 3.1 1k.11 3.6 2.12 2 13.9 2.8 d.q 6.4 o f 4 2.p 6.i e.d 3.1z",
     "3.4 2.e 2.t 3.9 eg.2 2.1g 3.h 3.4 4.o h.2 2.7 3.1 3.l 2.6 2 4.3 3 2.6 3.1 3.2 a 5.1 2.4",
     "3.k 8 3.5 5.1 3.l 2.6 2.1 2.1 2.1 3 2.4 5.1 3.2 c.3 2 8.e d.2 2.6 2 2.2 2.l 2.6 2.1 2.4",
     "3.9 2.2 2.2 3 g 6.9 i.2 2.7 3.1 3.l 2.6 2.1 3.3 3.7 4.1 3.2 9.1 5.1 2.2 5.a i.1 2.5 4.2",
     "2.3 4.1 2 2.1 4.1 4.2 4.7 2.2 5.4 4.2 2.3 a g.b f.2 2.7 2.2 2.m 2.9 2.4 5.6 2.2 2.3 8.1",
     "a.1 5.9 j.1 2.7 2.2 2.m 2.9 2.4 5.6 2.2 2.3 8.1 8 2.1 5.9 j.1 2.7 2.2 2.m 2.f 5.5 3.2",
     "2.3 a 9.1 5.9 42.1l 5.s 12.1 2 3.1 2 3 7.3 2.6 2.2 2 2 3.1 2.c 2.2 3.4 2 2.5 3.9 3.1",
     "cj.11 b.12 5 5.2h 6.1v 6.29 2dj.4a 6.2h 7.l 3.5 3.11 3.5 3.7 2 2 2 2.u 3.1g 2.e 2.d 3.5",
     "2.i 3.2 2.8 2.1a 2.m 10.6 4.q i.a 12.h v.1k r.1b e.2i m.6p f 2.3c 3q.10 s.a m.3u m.45",
     "b.27 h.j 7.2d 42.3 2.3 3.r 2.y 2 2.3 4 2.6 3.6 f.u 4.n 2.d 1mq.1j 8 2.2b 5.5 3.2l 7.13",
     "5.2l 2.f 2p.s 4.z t.r 4.1d g.b 5.1a 2.3a 5.2q 3.u 54y.g4l cpn.565 5v.6 d.4 7.o 2.4 2 2.1",
     "2.1 2.2z y.a4 h.1r 3.1h 15.b 11.3 d.k 5.9 2.i 2.3 5.2 2 2.3q 3 2.2l 3.2l 4.5 3.5 3.5 3.2",
     "4.6 2.6 f.2"]⟩,
   ⟨["2.0","v20"],
    ["13l.g 2.c l 1to.1z 2.w 8.q 5.5 2 2.k 4.6 2 2xu eo rit.8mb 1mjf.1 1ekf.1 1ekf.1 1ekf.1",
     "1ekf.1 1ekf.1 1ekf.1 1ekf.1 1ekf.1 1ekf.1 1ekf.1 1ekf.1 1ekf.1 1ekf.2t4x"]⟩,
   ⟨["2.1","v21"],
    ["6gc 1840"]⟩,
   ⟨["3.0","v30"],
    ["dy.3 v.7 3.h 3a.4 1e b.4 2g.8 k 39 4 2 2 2 v d 1v d 17.1 3.3 2l.1 4d 5l.2 2r.1 6 g 17.4",
     "2.d 2.t 4.q 1i.1c 15e.1 2.h 4.n 2.8 2 3.6 4 5.5 2 2.7 j.2 ae 18 o.2 8 2.2 2.e 3 1d.x 2.4",
     "2.1 2.6 4.3 7.p br.6 2.1q 2 2.3 3.6 2 2.3 3.12 2 2.3 3.u 2 2.3 3.6 2 2.3 3.6 2.6 2.m 2.u",
     "2 2.3 3.6 2.12 2.i 7.r 10.2c d.hh a.s 4.28 40.2k 4.9 n.e 2.9 7.2f 9.15 1hi p.5 2o.2 1f.1",
     "2e.1 21 2w.8 7i 3e 2.t 3v.1 cq.7 y 2f.1 b3.73 135.p 2.2g d.5x r.b 1p.2 4 9u.n g9.52t",
     "g97.wc 4.h 3.f 2.b 2.2 2 h1z yk.2"]⟩,
   ⟨["3.1","v31"],
    ["s4.1 1dcr.v 101.u 2.3 d.q 52.11 3.11 148j.6t b.12 4.4z f7.2c 2.1y 2.1 3 3.1 3.3 2.b 2",
     "2.3 2.1 2.1s 2.3 3.7 2.6 2.r 2.3 2.4 2 4.6 2.9d 5.81 5.1d 7wh.wye g16.f1 fhes v.2n"]⟩,
   ⟨["3.2","v32"],
    ["f4 8f k.c 2x.1 t 44.1 1m.1 3.1 3.1 1e.f 9r.1 8y 1ty.1 16w.c 2.6 c.m a.j d.c 2.2 2.1 1qs",
     "7.4 5 8.4 e 1r.1 1f.6 2b.e 4p.b 6r.d 3h v.1f 7x.j 48.9 2h.7 n.1 2j.b 3.9 67.d 2j.r 5.f",
     "75.e7 118.2 2g.1 9.1 2n 6p.f 2a.e 2a.e mhv.1 h d 4 gvf.1m pe 4.f 1i.1 19 6k.1"]⟩,
   ⟨["4.0","v40"],
    ["f5 j.2 3c.1 1s.g 29.7 6.2 48.4 ed.3 a.8 1t.2 46.1 g 1a.2 u.2 c5 55 1w 2 3t 2d.2 e 1w 1o",
     "3m.7 5e.1 274 j.9 7b.s 4.b 5.b 5 4.15 3.4 30.v ld.2z ko.1 6f ic.1 8f 7p.1 39.7 f.1 v3.d",
     "1e8.1 1e 18.1 27.3 4o.3 2s.1 w 535.1r yri 22.1 c8.b 2.p 2.i 2.1 2.e 3.d z.3e 6.2 5.18",
     "4.8 g1.t 2 3r.1 13.27 3.9 nr.5 3 2.17 2.1 4 3 141t.2e a3 h3jz.6n"]⟩,
   ⟨["4.1","v41"],
    ["fr.a 7r.4 4g.3 6v.1 4r z.2 1w j 1n.5 6q.t eo 29 dk 1c ru.1 88.1 2 7f 1s 1s 14 w w w g 14",
     "o.1 w.p 15z.15 7.p 7.9 5.1 x.r 3.1 nh.2f ia.1 2.6 1e.4 u.3 1i 29 g hx.a fx 2u.1 j.a 6.f",
     "7j.6 nc.5 6l.1a 2.1a y.2y f.18 b.1h a h.m a.6 2.6 2.6 2.6 2.6 2.6 2.6 2.6 y.n 5.1 pv.f",
     "4v lk8.l 1fp.m 6i.17 g91.2x mv.9 mf.22 eu.z 5.d 17v.3 2.1 6.7 2.2 2.q 5.2 5.8 9.8",
     "13fs.1x v3.1"]⟩,
   ⟨["5.0","v50"],
    ["g2.d 8c.2 9e 17.5 h.3 4n ee.1m ap.1 2.1 o3.1 e.1 2ry.23 5.18 g8.6 1g.1 kt.3 2m.1 1i go.b",
     "jv 7p.3 ne.6 6.3 8t.c 8.3 o80.3 6.1 7z.1j j2h.p 6 4ip.oe 42.2q e.3 yjx.h ux.1"]⟩,
   ⟨["5.1","v51"],
    ["og.3 3.1 2g 54 3x.f 6b.4 c.4 x.4 8f.h du.1 67 10 5r u.1 31 31 r.1 9.1 l.7 5a 7 u.1 d.5",
     "4.6 do.1 2q 4.2 26 6 3 8.2 5.5 r.1r 5.1 1l7 k6.16 4.b 1z.1j 4.e 4.1e 98.r 52.3 2j.5 9x",
     "3w 2n 1i.3 105 m.9 4.3 7d w.3 mk.4 5.14 4.4 7t.2 2.2 5.5 9v.v p.3 3.i l9 4j.j lp5.7",
     "119.8b l.v 3.h 9.r 3o.4 3.2y 33.4 3l.1w a.b 13.2b c 4h.1i a.d 3.9 3.3 gjp.2 oa.b 1h.19",
     "3n.s 4.1c 18w.p 6 13hm 63b.17 5.2r"]⟩,
   ⟨["5.2","v52"],
    ["10k.1 kb.19 3.e 5e 26 7 10.1 3l 15m.3 5e.3 59.4 1x.4 2b.5 e9 hj.8 fl.1x 51.1 1b 1y.1q",
     "2.s 3.a 7.9 7.d f7.y 7f jd.2 48.2 1j gv ja.1 u.2 5.9 2.i 2 5.n 2g se.4 7r e.1 30.6 8w",
     "sz.b lmd.7 zp.1b bl.2f 8p.9 4n.r 2t.s 4.25 2.a 5.1 3l.r 5.1u p.4 69.19 3.9 8mv.m 5.1c",
     "6sw.2 2qb.l 2.8 57.1 91.v 3l.1h 4.s 3.q 6.7 3l.20 ew.u ea.1t 667.tq 11aq.a 6.u 3 c 2 3 4",
     "4.4 9 8 q 2.1 3 b.3 3 34 g.x f.8 zp4.378"]⟩,
   ⟨["6.0","v60"],
    ["10m.1 6x 1r dd.r 3 64.1 k 7.1 s.4 e3.5 c2 h k fy.3 22.1 oz.1 1nm.1f 9.3 e5 ih.7 t mo.a",
     "kb k 2.3 u 5.1 t 10 2 5.2 a.1 1h.2 p f f.1 141 f u1.2 n1i.1 8c.1 2.1 f.9 29 lj.5 3.5 3.5",
     "a.6 2.6 fwk.f 3zz.25 5.t hap.fs ds8.1 crj.e 3.d 3.e 2.e 29 2.a 2 2.1 2.2 2.2 6.7 2.6 2.9",
     "7.8 2 3.1 2.9 5.1 2.9 24.p 2.1 1c.8 m.1 4v.w g.5 2.1x 4.j d.10 2.4 m.g g.1q 2 2.51 2.3",
     "4.1p j.n 44.4 2.f 2.2 2 2 2 2.2 2.5 3.3 2 3.3 2.b 5.a 1d.1x 1n.37 11vx.65"]⟩,
   ⟨["6.1","v61"],
    ["13j 39 ik 2.a 1k.q du ry.1 dk 6 1c.2 23w.2 d.5 75.7 18.3 251 2 10l.1 1g 6 1l.1 5n.9 mfl",
     "1bc.7 10 6r.1 n 26.1 kn.m fnc.1 30x.1j 7.1 1e9.o 8.9 7.1g 2.d 1p.20 8.9 x3.1j 9.9 hfb.1w",
     "c.1a h.g oyp.3 2.q 2.1 2 3 2.9 2.3 2 2 7 5 2 2 2.2 2.1 2 3 2 2 2 2 2.1 2 3.3 2.6 2.3 2.3",
     "2 2.9 2.g 6.2 2.4 2.g 1h.1 hl.1 r9.3 59 h 4 2 2 2 4 7.1 5 2.1 5"]⟩,
   ⟨["6.2","v62"],
    ["6gq"]⟩,
   ⟨["6.3","v63"],
    ["17g 56y.3"]⟩,
   ⟨["7.0","v70"],
    ["ov bt.7 2m.1 3b ik c.5 25 3d 8 hs 1g 25 3k 6d.9 1s2.7 f9.1 b6.e fu.1 6m.e jq.2 mv.6 li",
     "ul.2 b.p 3.v 3.x 4.b 2.7 h7.6 nrq.5 6v.b c.2 3.1 1y dl.u 3i.3 4x.1b 5.1 gci.6 ny.1 k",
     "8w.r 10 1d.16 au.13 9.1f c 41.8m a.l b.7 6x.1q 9.8 cx.v x.12 5.b 3u.h 8.3 d.6 y8 5t.12",
     "2f d 7.j c.h 2.16 37.1m 6.9 8.2 2.7 3.1 3.l 2.6 2.1 2.4 3.8 3.1 3.2 a 6.6 3.6 4.4 7g.1z",
     "9.9 4n.1h 3.h 1j.1w c.9 g7.2a d ch.1k 1o7.15 5n.b 6 dsc.u 2.9 5.1 2p.t 3.5 b.1x b.9 2.6",
     "2.k 6.i fw1.2y 6.c 4.8 8.9 3.7 8kd.5g 3.f 1k9 x.l m.1 et.b a 1z n.b 12 6.3 6.b i.6 20 2",
     "53 5.1 1s.1 5.6 u.h 2.14 2.2d 1z.1 e.1b 1z.9 h.c 4.3 3x.2c 18.b 5.1j 9.9 7.13 9.t"]⟩,
   ⟨["8.0","v80"],
    ["1pv.1 1b eu 9t 79 1au 3.5 2ip 5o.1 21t.3 mvy.8 1c9 6p z.5 91.1 gz.3 d.27 ga7.1 241.i 2.1",
     "6.4 59.1 3.f 3.19 ht.1e e.1e 8.5 y2.3 f.4 4h.6 2 2.3 2.e 2.a 2f 28 hm.j 83.p 4.e 5.f 2fu",
     "6f.5f 62l.g6 rko.a 17c.i3 g.4 2.e 4u6.2 27.1 28.4 11.7 74 24.4 6s.1 3w g0.8 2w.4 1o",
     "11ls.4g1"]⟩,
   ⟨["9.0","v90"],
    ["1py.7 n.e pq 5r 5.2 2.6 o.2 2yw.8 ab 16o.3 211.1 nze 7r hjc.1 ma.z 5.z 2mb ci.2h 2 2",
     "eb.c 13o.8 2.18 2.d b.s 4.v 3.l 2.d gfe w.4q4 k.ky gsu.6 2.g 3.6 2.1 2.4 1qu.22 6.9 5.1",
     "1mk.h 3z n3 16 8d.1 y.2 f7.5 2.7 9 3.b 2.b 5.e 13.c"]⟩,
   ⟨["10.0","v100"],
    ["1nk.a b6.1 71.5 e9 1n.1 33v 73.3 jq n4 1jn hf.4 kl luw.k jlv.2 4i9.1z 9.1f 3.m 2.4 gu.6",
     "2.1 2.17 4 2.1 2.8 9.9 gaw co1.7w 2a.az cit.5 vi.1 z.1 eg.b k 9.7 2.1 q j.c 13.5 1l.m",
     "1616.5rk"]⟩,
   ⟨["11.0","v110"],
    ["128 14 2v em.2 5w 8b 3c b2 3k 2d0 t4.16 3.2 2yj.2 n.o 5.e gc.4 kh lvg.4 1j4 9.1 91.1",
     "j79.1 j jc.13 9.9 cn.13 9.15 ac 3b.2 dx 83 jg 6e.1n gy jn.5 2.1 2.10 2.1 2.5 8.9 8n.o",
     "fns.2i 503.4 esv.j 3j.6 4xl.1v vv 156 64.3 ad.2 t.4 3.3 4 2.3 p.a e.9 8.1 11.o 2p.d"]⟩,
   ⟨["12.0","v120"],
    ["2gn en 3 3 2.5 5 8 8.1 3 e 2tc 2xb 1i gg nzf.5 3.4 ps.1 juh.m vd gp ko.7 3.19 3.a 4g.1",
     "117.1d e 3zl.8 bnx.5 5 1c.8 2j.1 4r3.5 861.2 i.3 9eh.18 4.d 3.9 5.1 a9.1l 6 18s qe.1o tr",
     "12h 11 6e.b 82.2 1c 1e a 16.5 4.1 b.5 4.7 3.2 1d.2b t.3 5.2 6.2 e.5"]⟩,
   ⟨["12.1","v121"],
    ["a2n"]⟩,
   ⟨["13.0","v130"],
    ["1q6.9 i6 bz 3h 2m6.1 3br jd.2 o9.4 5iv.9 g8h.c 1jf.3 17.1 1i n0.3 h0x 2jo.15 2.2 3.1",
     "73.r ak 3r.1 i3 6.1 wv.6 3 3.7 2.1 2.t 2.1 3.b a.9 193 fuc c.1 5c2.de 17.8 jr9.2 2m.2 1q",
     "10p.1 10.1 c4.1 2j 2u 5.1 17.1 7.2 u 4p f.3 g.i 8.6 a.2 e.6 16.42 2.1i 12.9 xr2.6",
     "hlv.3t6"]⟩,
   ⟨["14.0","v140"],
    ["17h gj.u 2.1 7.7 m j.a oa x 3k 20g 8 a 6o j6.d 3i 1d.1 ho jq 29b 1c dw.a mg0.2 1j5.1 f.1",
     "2 2.4 p.2 gjy am.f 3k 1b.1 1gx.a 2.e 2.6 2.1 2.a 2.e 2.6 2.1 ck.5 2.15 2.8 1iu.p 6f.5 25",
     "16f 3r.6 oa.f 441.2q bjy.26 2.9 dnr.3 2.6 2.1 81.3 5we.19 3.m a.37 fa.1 2l2.u oi.u 10y.6",
     "2.3 2.1 2.e 2xr.2 7l ax 2b 4v.1 19.3 b.3 9.2 i.2 7.7 9.6 xyg.1 386.3"]⟩,
   ⟨["15.0","v150"],
    ["2k3 d7 1elr.2 n4.2 1q7.9 s7.g 2.14 4.r 446 a.s onx z 6ln.j 2fm.5 7a.1p y u9.15 3j7 48.2",
     "5.4 2i ik.2 g.1 11.2 c.2 2 f.1 b.1 d f.1 116p i6v.38f"]⟩,
   ⟨["15.1","v151"],
    ["9h8.3 ds 3tvl.h9"]⟩,
   ⟨["16.0","v160"],
    ["1p3 3p3.1 1c 7e.1 1i5.2 2pn.1 nae.2 d.2 ijo.1f 1fx.11 4.s 9.1 8j.2 1k w4.9 2 3 2.11 2.9",
     "2 3 2.3 2.9 2.1 9.1 ku.j yl.x f.9 o1 45i.32y 5qe.1l 2dj.1l 686 cg1.6x 7.c3 4kd.16 5",
     "3oz.9 5.1 co 6 1b 8 m 3 a 6a.10"]⟩]

def upTo (name : Text) : List CharTable → Option (List Range)
  | [] => none
  | t :: later =>
    if isOneOf name t.names then some t.ranges else (upTo name later).map (t.ranges ++ ·)

-- The characters that were there in a version.
def age? (name : Text) : Option (List Range) := upTo name ages

-- Letters and digits that came after the last of these versions.
def newerLetters : List Range :=
  rangesFrom 0 (numbersIn
    ["1ov r1 3k ulu.1 3 2 t j7z.p 12k.2 1f.1 2g5.7 g9.17 fyd.o 3.o 7z.4 4qq.7 zu.l 2q.36 hji.u",
     "2.l 9.1 154r.5 4mb.b gsj.3bd"])
def newerDigits : List Range := rangesFrom 0 (numbersIn ["1kgw.9"])

end StyleTrim.Text
