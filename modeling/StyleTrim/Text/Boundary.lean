import StyleTrim.Text.Ranges
namespace StyleTrim.Text

-- What characters do where a text is parted: into what a reader takes for one character, into
-- words, and into sentences.

def clusterParts : List CharTable :=
  [⟨["cr"],
    ["d"]⟩,
   ⟨["cn","control"],
    ["0.9 2.1 2.h 2o.w e 12n 3jm 1kt 3.1 p.6 1e.f 17yo 6p.b ab9.f qxt.3 440.7 h406.v 2p.3j",
     "6p.2rz"]⟩,
   ⟨["ex","extend"],
    ["lc.33 7o.6 7c.18 2 2.1 2.1 2 21.a 1d.k h 2u.6 3.5 3.1 2.3 10 v.q 2k.a 1n.8 a p.3 2.8 2.2",
     "2.4 18.2 1o.8 17.n 2.v 1k 2 5.7 5 4.6 b.1 u 1n 2 3.3 9 a b.1 r 3.1 1m 5.1 5.1 3.2 4 v.1",
     "4 c.1 1m 5.4 2.1 5 l.1 n.5 2 1n 2.1 2.3 9 8.2 b.1 v 1o 2 d a 15 4 1k 2.2 6.2 2.3 8.1 c.1",
     "u 1n 3.1 2 4.2 2.3 8.1 c.1 t.1 1m.1 2 3.3 9 a b.1 u 21 5 3.2 2 9 2a 3.6 d.7 2r 3.8 c.6",
     "22.1 s 2 2 1k.d 2.4 2.1 6.a 2.z a 2v.3 2.5 2.1 3.1 q.1 5.2 h.3 e 3.1 7 g jk.2 qb.3 t.2",
     "u.1 v.1 1t.1 2.6 9 3.a a 1a.2 2 3a.1 z 3b.2 5.1 a 7.2 64.1 3 1n 2.6 2 2 3.7 7.9 3 1d.u",
     "1e.3 1d.9 5.2 13.8 d.1 x.3 3.5 1l 2.1 4 2.4 1l.7 3.1 49.2 2.c 2.6 5 7 4.1 5j.1r el 5g.w",
     "2db.2 3y 2p.v ff.5 2y.1 n9x.3 2.9 x.1 29.1 7l 4 5 q.1 6 48.1 r.h e 13.7 q.a 2 19.2 1d",
     "3.3 3.1 3 11 1w.5 3.1 3.1 d 9 1c 1g 2.2 3.1 6.1 2 17.1 9 6n 3 5 fn5 ki.f h.f a7.1 gu 6b",
     "46.4 1af.2 2.1 6.3 15.2 5 4m.1 fy.3 1u.4 8u.1 28.3 1z.a 1e.3 3g 1j.e 16 3.1 b.2 1e.3 3.1",
     "8 1q.2 11.4 2.7 1r d.1 1h.8 2 9.3 3 2o.2 3.3 7 3 4e 4.7 m.1 1m.1 2 2 d a f.6 4.4 1w 3.5",
     "2 3 2.2 5.2 2 f.1 2e.7 3.2 2 o 2a 3.5 2 3 2.1 2.1 6k 3.3 7.1 2.1 s.1 2e.7 3 2.1 2z 2 3.7",
     "2u 2 3.3 2.4 78.8 2.1 6u b.3 5 41.3 3.1 5 x.9 15.5 3.3 9 a.5 3.2 1b.c 2.1 bb.6 2.5 2",
     "2b.l 3.6 2.1 2.1 3f.5 4 2.1 2.6 2 21.1 4 2 9o.1 c.1 1h.4 6.2 o 44m 7.e 8uh.b 4.2 1xd.4",
     "1o.6 t5 1s.3 2a c.1 f58.1 3mq.19 3.m f3.4 4.5 9.7 3.6 v.3 45.2 1j0.1i 5.1d 9 f n.4 2.e",
     "11t.6 2.g 3.6 2.1 2.4 2t 4h.6 ag 1q.3 e5.3 73.1 kh.6 32.6 241.4 gx7l.2n 3l.6n"]⟩,
   ⟨["l"],
    ["3cw.2n u0x.s"]⟩,
   ⟨["lf"],
    ["a"]⟩,
   ⟨["lv"],
    ["xz4 s s s s s s s s s s s s s s s s s s s s s s s s s s s s s s s s s s s s s s s s s s",
     "s s s s s s s s s s s s s s s s s s s s s s s s s s s s s s s s s s s s s s s s s s s s",
     "s s s s s s s s s s s s s s s s s s s s s s s s s s s s s s s s s s s s s s s s s s s s",
     "s s s s s s s s s s s s s s s s s s s s s s s s s s s s s s s s s s s s s s s s s s s s",
     "s s s s s s s s s s s s s s s s s s s s s s s s s s s s s s s s s s s s s s s s s s s s",
     "s s s s s s s s s s s s s s s s s s s s s s s s s s s s s s s s s s s s s s s s s s s s",
     "s s s s s s s s s s s s s s s s s s s s s s s s s s s s s s s s s s s s s s s s s s s s",
     "s s s s s s s s s s s s s s s s s s s s s s s s s s s s s s s s s s s s s s s s s s s s",
     "s s s s s s s s s s s s s s s s s s s s s s s s s s s s s s s s s s s s s s s s s s s s",
     "s s s s"]⟩,
   ⟨["lvt"],
    ["xz5.q 2.q 2.q 2.q 2.q 2.q 2.q 2.q 2.q 2.q 2.q 2.q 2.q 2.q 2.q 2.q 2.q 2.q 2.q 2.q 2.q",
     "2.q 2.q 2.q 2.q 2.q 2.q 2.q 2.q 2.q 2.q 2.q 2.q 2.q 2.q 2.q 2.q 2.q 2.q 2.q 2.q 2.q 2.q",
     "2.q 2.q 2.q 2.q 2.q 2.q 2.q 2.q 2.q 2.q 2.q 2.q 2.q 2.q 2.q 2.q 2.q 2.q 2.q 2.q 2.q 2.q",
     "2.q 2.q 2.q 2.q 2.q 2.q 2.q 2.q 2.q 2.q 2.q 2.q 2.q 2.q 2.q 2.q 2.q 2.q 2.q 2.q 2.q 2.q",
     "2.q 2.q 2.q 2.q 2.q 2.q 2.q 2.q 2.q 2.q 2.q 2.q 2.q 2.q 2.q 2.q 2.q 2.q 2.q 2.q 2.q 2.q",
     "2.q 2.q 2.q 2.q 2.q 2.q 2.q 2.q 2.q 2.q 2.q 2.q 2.q 2.q 2.q 2.q 2.q 2.q 2.q 2.q 2.q 2.q",
     "2.q 2.q 2.q 2.q 2.q 2.q 2.q 2.q 2.q 2.q 2.q 2.q 2.q 2.q 2.q 2.q 2.q 2.q 2.q 2.q 2.q 2.q",
     "2.q 2.q 2.q 2.q 2.q 2.q 2.q 2.q 2.q 2.q 2.q 2.q 2.q 2.q 2.q 2.q 2.q 2.q 2.q 2.q 2.q 2.q",
     "2.q 2.q 2.q 2.q 2.q 2.q 2.q 2.q 2.q 2.q 2.q 2.q 2.q 2.q 2.q 2.q 2.q 2.q 2.q 2.q 2.q 2.q",
     "2.q 2.q 2.q 2.q 2.q 2.q 2.q 2.q 2.q 2.q 2.q 2.q 2.q 2.q 2.q 2.q 2.q 2.q 2.q 2.q 2.q 2.q",
     "2.q 2.q 2.q 2.q 2.q 2.q 2.q 2.q 2.q 2.q 2.q 2.q 2.q 2.q 2.q 2.q 2.q 2.q 2.q 2.q 2.q 2.q",
     "2.q 2.q 2.q 2.q 2.q 2.q 2.q 2.q 2.q 2.q 2.q 2.q 2.q 2.q 2.q 2.q 2.q 2.q 2.q 2.q 2.q 2.q",
     "2.q 2.q 2.q 2.q 2.q 2.q 2.q 2.q 2.q 2.q 2.q 2.q 2.q 2.q 2.q 2.q 2.q 2.q 2.q 2.q 2.q 2.q",
     "2.q 2.q 2.q 2.q 2.q 2.q 2.q 2.q 2.q 2.q 2.q 2.q 2.q 2.q 2.q 2.q 2.q 2.q 2.q 2.q 2.q 2.q",
     "2.q 2.q 2.q 2.q 2.q 2.q 2.q 2.q 2.q 2.q 2.q 2.q 2.q 2.q 2.q 2.q 2.q 2.q 2.q 2.q 2.q 2.q",
     "2.q 2.q 2.q 2.q 2.q 2.q 2.q 2.q 2.q 2.q 2.q 2.q 2.q 2.q 2.q 2.q 2.q 2.q 2.q 2.q 2.q 2.q",
     "2.q 2.q 2.q 2.q 2.q 2.q 2.q 2.q 2.q 2.q 2.q 2.q 2.q 2.q 2.q 2.q 2.q 2.q 2.q 2.q 2.q 2.q",
     "2.q 2.q 2.q 2.q 2.q 2.q 2.q 2.q 2.q 2.q 2.q 2.q 2.q 2.q 2.q 2.q 2.q 2.q 2.q 2.q 2.q 2.q",
     "2.q 2.q 2.q 2.q"]⟩,
   ⟨["pp","prepend"],
    ["16o.5 60 1e ap.1 29 vg 1f8v g 6t.1 em 12m 2 6x 22.5 jh cc"]⟩,
   ⟨["ri","regionalindicator"],
    ["2qcm.p"]⟩,
   ⟨["sm","spacingmark"],
    ["1s3 1k 3.2 9.3 2.1 1f.1 1o.1 7.1 3.1 1j 1n.2 1v 1n.2 9 2.1 1i.1 1p 7.1 3.1 37 2.1 4.2",
     "2.2 1h.2 1q.3 1q.1 1n 3 2.1 1b f.1 1o.1 6.2 2.2 1i.1 25.1 7.6 k.1 1s 3k 3v.1 1s 4y a.1",
     "q.1 19 1f6 8.7 2.1 9n.3 3.2 5.1 2.5 69.1 1n 2 m.5 42 1m.3 1t v 5.1 1s 3.2 2 1i.7 9.1 4s",
     "m rho.1 3 2h.1 1f.f 3z 1d 1d.1 5.1 3.1 34.1 3.1 p 4e 3.1 6 6m.1 2.1 2.1 2 jro 2 3k 1a.2",
     "5.1 38 p.1 1o 1d.2 a f 2m.2 4.1 4t.2 w.1 1o 2.3 3.1 3.1 m.1 2e.1 g 2.1 2w.2 9.1 4 30.1 7",
     "2.1 2 3 6n.1 7.3 3 36.2 9.1 2 32 2.1 33 8 7a.2 a 6x.4 2.1 8 2 3z.2 9.3 5 2d u.1 1r bc f",
     "2z 8 3 5y.4 5.1 2 9r.1 d 1d.1 9.1 d0r.2 2sl.1i"]⟩,
   ⟨["t"],
    ["3hk.2f 132k.1c"]⟩,
   ⟨["v"],
    ["3fk.1z 1349.m tjx 4.3"]⟩,
   ⟨["zwj"],
    ["6bx"]⟩]

def wordParts : List CharTable :=
  [⟨["le","aletter"],
    ["1t.p 7.p 1c b 5 6.m 2.u 2.db 7.x 35.4 2.1 3.3 2 7 2.2 2 2.j 2.2a 2.3u 9.4l 2.11 3.3 2",
     "2.14 2 2x 19.16 10.1 2.2q 2 g.1 8.1 b.2 3 h 2.t u.2g c p.w a.1 5 6.l 5 a 4 o.o 8.a 6.n",
     "2.5 i.15 1n.1h 4 j 8.9 g.f 5.7 3.1 3.l 2.6 2 4.3 4 h e.1 2.2 f.1 b 9.5 5.1 3.l 2.6 2.1",
     "2.1 2.1 w.3 2 k.2 h.8 2.2 2.l 2.6 2.1 2.4 4 j g.1 o c.7 3.1 3.l 2.6 2.1 2.4 4 v.1 2.2 g",
     "i 2.5 4.2 2.3 4.1 2 2.1 4.1 4.2 4.b n 1h.7 2.2 2.m 2.f 4 r.2 3 3.1 v 5.7 2.2 2.m 2.9 2.4",
     "4 w.1 2.1 g.1 i.8 2.2 2.14 3 h 6.2 9.2 p.5 6.h 4.n 2.8 2 3.6 8q 1s.7 2.z s.4 7o.11 2 6",
     "3.16 2.98 2.3 3.6 2 2.3 3.14 2.3 3.w 2.3 3.6 2 2.3 3.e 2.1k 2.3 3.1u 12.f h.2d 3.5 4.h7",
     "3.g 2.p 6.22 4.a 8.h e.i f.h f.c 2.2 4w.2g 8.4 3.x 2 6.1x b.u 6a.m 6n.1a i.7 1j.t e.1",
     "b.17 r.z 16.2 b.z 3.a 6.16 3.2 16.3 2.5 2.1 4 6.5b 1t.7p 3.5 3.11 3.5 3.7 2 2 2 2.u 3.1g",
     "2.6 2 4.2 2.6 4.3 3.5 5.c 6.2 2.6 39 e h.c 2u 5 3.9 2 4.4 7 2 2 2.3 2.a 3.3 6.4 5 i.14",
     "mm.1f 1ef.6c 7.3 4.1 d.11 2 6 3.1j 8 h.m a.6 2.6 2.6 2.6 2.6 2.6 2.6 2.6 29 d2 1i.1",
     "5l.16 2.2l i.v ls1.wc 1w.19 3.7g 4.f b.1 l.1a h.u 3.27 p.5h 3.1 2 2.7 m.f 2.2 2.3 2.m",
     "u.1f f.1d 1r.5 4 2.1 c.r b.m q.s 8.1a t 1d.14 o.2 2.7 45.a 8.2 d.5 3.5 3.5 a.6 2.6 2.1l",
     "7.36 u.8mb d.m 5.1c 6x1.6 d.4 1l.2p y.a2 j.1r 3.1h 15.b 39.4 2.3q 11.p 7.p 1y.u 4.5 3.5",
     "3.5 3.2 10.b 2.p 2.i 2.1 2.e 3.d z.3e 1y.1g 7g.s 4.1c 1c.v e.t 6.11 b.t 3.z 5.7 2.4",
     "17.4d j.z 5.z 5.13 9.1f d.a 2.e 2.6 2.1 2.a 2.e 2.6 2.1 4.1f d.8m a.l b.7 p.5 2.15 2.8",
     "1y.5 3 2.17 2.1 4 3.m b.m a.u 1u.i 2.1 b.l b.p 1z.1j 7.1 1t g.3 2.2 2.s 17.s 4.s 10.7",
     "2.r s.1h b.l b.i e.h 33.20 1k.1e e.1e e.z 13.r a.m 6z.15 7.1 h.2 1o.s b 9.l 17.h 1b.k",
     "s.m d.1g 1m.1 3 e.18 x.o r.z u 3 9.y 4 d.1b f.3 m 2 10.h 2.o k.1 1s.6 2 2.3 2.e 2.9 8.1a",
     "13.7 3.1 3.l 2.6 2.1 2.4 4 j d.4 v.9 2 3 2.11 2 q 2 19.1g j.3 l.2 v.1b l.1 2 55.1a 16.3",
     "11.1b l 1o.16 e 94.17 39.1r w.7 3 3.7 2.1 2.n g 2 2n.7 3.12 h 2 t b.13 8 m c.19 k j.20",
     "5k.w w.8 2.10 i 1e.t 35.6 2.1 2.11 m q.5 2.1 2.v f 94.i g 2.c 2.x 3h 28.pl 2v.32 i.5f",
     "219.2o g.tr i.5 q.32y 6.g6 5a2.t 1cz.fs 8.u i.26 i.t j.1b h.3 w.k 6.i c1.18 5w.1r 3l.22",
     "6 1v.c 1t.1 2 f19.2y 6.c 4.8 8.9 4mf.2c 2.1y 2.1 3 3.1 3.3 2.b 2 2.6 2.1s 2.3 3.7 2.6",
     "2.r 2.3 2.4 2 4.6 2.9f 3.o 2.o 2.u 2.o 2.u 2.o 2.u 2.o 2.u 2.o 2.7 1f9.u 7.5 7a.1p 43.18",
     "b.6 h 8y.t j.17 dh.r 6d.t 3 ds.6 2.3 2.1 2.e 2.5g 1o.1v 8 xh.3 2.q 2.1 2 3 2.9 2.3 2 2 7",
     "5 2 2 2.2 2.1 2 3 2 2 2 2 2.1 2 3.3 2.6 2.3 2.3 2 2.9 2.g 6.2 2.4 2.g hh.p 7.p 7.p"]⟩,
   ⟨["cr"],
    ["d"]⟩,
   ⟨["dq","doublequote"],
    ["y"]⟩,
   ⟨["extend"],
    ["lc.33 7o.6 7c.18 2 2.1 2.1 2 21.a 1d.k h 2u.6 3.5 3.1 2.3 10 v.q 2k.a 1n.8 a p.3 2.8 2.2",
     "2.4 18.2 1o.8 17.n 2.w 1j.2 2.h 2.6 b.1 u.2 1l 2.6 3.1 3.2 a b.1 r 3.2 1l 2.4 5.1 3.2 4",
     "v.1 4 c.2 1l 2.7 2.2 2.2 l.1 n.5 2.2 1l 2.6 3.1 3.2 8.2 b.1 v 1o.4 4.2 2.3 a 15.4 1k 2.6",
     "2.2 2.3 8.1 c.1 u.2 1l 2.6 2.2 2.3 8.1 c.1 g d.3 1k.1 2.6 2.2 2.3 a b.1 u.2 1z 5.5 2 2.7",
     "j.1 1q 3.6 d.7 2r 3.8 c.6 22.1 s 2 2 5.1 1e.j 2.1 6.a 2.z a 2t.j o.3 5.2 2.2 3.6 4.3 e.b",
     "2 b.3 jk.2 qb.3 t.2 u.1 v.1 1t.v a 1a.2 2 3a.1 z 3b.b 5.b 64.4 1m.9 2.s 3 1d.u 1e.4 1c.g",
     "13.8 d.2 v.c 1l.d 1d.j 49.2 2.k 5 7 3.2 5j.1r el 5g.w 2db.2 3y 2p.v ff.5 2y.1 n9x.3 2.9",
     "x.1 29.1 7l 4 5 o.4 5 2c.1 1f.h r.h e 13.7 q.c 19.3 1c.d 11 1w.d d 9.1 1a.2 1f 2.2 3.1",
     "6.1 2 16.4 6.1 6l.7 2.1 fn5 ki.f h.f a7.1 gu 6b 46.4 1af.2 2.1 6.3 15.2 5 4m.1 fy.3 1u.4",
     "8u.1 28.3 1z.a 1e.3 3f.2 1i.e 16 3.1 b.3 1a.a 8 1q.2 11.d h.1 19 d.2 1d.d 9.3 2.1 2l.b 7",
     "3 4e.b m.3 1k.1 2.6 3.1 3.2 a b.1 3.6 4.4 1w.8 2 3 2.3 2.4 2 f.1 2b.h o 2a.j 6k.6 3.8",
     "s.1 2b.g 2z.c 2u.e 75.e 6u.5 2.1 3.3 2 2.1 3y.6 3.6 4 t.9 15.6 2.3 9 a.a 1b.f ba.7 2.7",
     "2b.l 2.d 3f.5 4 2.1 2.6 2 1v.4 2.1 2.4 9o.3 a.1 2 1d.6 4.4 o 44m 7.e 8uh.h 1xd.4 1o.6 t5",
     "2.1i 8.3 2a c.1 f58.1 3mq.19 3.m f3.4 4.5 9.7 3.6 v.3 45.2 1j0.1i 5.1d 9 f n.4 2.e 11t.6",
     "2.g 3.6 2.1 2.4 2t 4h.6 ag 1q.3 e5.3 73.1 kh.6 32.6 241.4 gx7l.2n 3l.6n"]⟩,
   ⟨["ex","extendnumlet"],
    ["2n 6a8 g.1 k 17tr.1 p.2 6o"]⟩,
   ⟨["fo","format"],
    ["4t 12n 6r 3cv 1kw.1 r.4 1e.4 2.9 17yo 6y.2 ab9.f qxt.3 440.7 h407"]⟩,
   ⟨["hl","hebrewletter"],
    ["15c.q 5.3 1cff 2.9 2.c 2.4 2 2.1 2.1 2.9"]⟩,
   ⟨["ka","katakana"],
    ["9ip.4 2u.1 4.2i 2.3 6p.f 5t.1a 2.2f 14b3.1j ytv.3 2.6 2.1 2 80.2 1f f.3"]⟩,
   ⟨["lf"],
    ["a"]⟩,
   ⟨["ml","midletter"],
    ["1m 3h k0 d4 45 56b 17u4 1u 5h"]⟩,
   ⟨["mn","midnum"],
    ["18 f n7 ej 3n.1 2n b0 4ss 17t8 4 1o 4 54 f"]⟩,
   ⟨["mb","midnumlet"],
    ["1a 6ay.1 b 17vy 51 7"]⟩,
   ⟨["nl","newline"],
    ["b.1 3d 68z.1"]⟩,
   ⟨["nu","numeric"],
    ["1c.9 153.5 2j.9 2 36 j.9 5j.9 5j.1 29 3o.9 3b.9 3b.9 3b.9 3b.9 3b.9 3b.9 3b.9 3b.9 3b.9",
     "2p.9 3b.9 1z.9 7r.9 1z.9 1fr.9 13.9 8d.9 3l.9 4n.9 7.9 53.9 2f.9 3r.9 7.9 r7r.9 iv.9",
     "13.9 5j.9 n.9 2f.9 bb.9 gev.9 13b.9 1on.9 7.9 m5.9 26 g z.9 1p.9 41.9 7r.9 9j.9 3b.9",
     "af.9 2v.9 7.j 25.9 br.9 2v.9 if.9 2f.9 6v.9 1z.9 br.9 d07.9 1t3.9 2f.9 3r.9 ev.9 iuv.9",
     "251.1d 1tt.9 br.9 dz.9 6w.9 nq.9 3o7.9"]⟩,
   ⟨["ri","regionalindicator"],
    ["2qcm.p"]⟩,
   ⟨["sq","singlequote"],
    ["13"]⟩,
   ⟨["wsegspace"],
    ["w 4f4 1vk.6 2.2 2d 335"]⟩,
   ⟨["zwj"],
    ["6bx"]⟩]

def sentenceParts : List CharTable :=
  [⟨["at","aterm"],
    ["1a 6ba 17vy 58"]⟩,
   ⟨["cr"],
    ["d"]⟩,
   ⟨["cl","close"],
    ["y 5.2 1e 2 u 2 1a g 2v3.3 1ge.1 1vg.7 q.1 b.1 1j.1 f.1 hm.3 u.1 tt.5 8.d 28.1 w.9 b8.l",
     "1s.3 x.1 sj.d f.1 3.9 p j.7 bw.9 3.7 2.2 14in.1 60.1 t.f 3.1 h.5 4q.1 1e 2 u 2 2.1 2.1",
     "1csz.2"]⟩,
   ⟨["ex","extend"],
    ["lc.33 7o.6 7c.18 2 2.1 2.1 2 21.a 1d.k h 2u.6 3.5 3.1 2.3 10 v.q 2k.a 1n.8 a p.3 2.8 2.2",
     "2.4 18.2 1o.8 17.n 2.w 1j.2 2.h 2.6 b.1 u.2 1l 2.6 3.1 3.2 a b.1 r 3.2 1l 2.4 5.1 3.2 4",
     "v.1 4 c.2 1l 2.7 2.2 2.2 l.1 n.5 2.2 1l 2.6 3.1 3.2 8.2 b.1 v 1o.4 4.2 2.3 a 15.4 1k 2.6",
     "2.2 2.3 8.1 c.1 u.2 1l 2.6 2.2 2.3 8.1 c.1 g d.3 1k.1 2.6 2.2 2.3 a b.1 u.2 1z 5.5 2 2.7",
     "j.1 1q 3.6 d.7 2r 3.8 c.6 22.1 s 2 2 5.1 1e.j 2.1 6.a 2.z a 2t.j o.3 5.2 2.2 3.6 4.3 e.b",
     "2 b.3 jk.2 qb.3 t.2 u.1 v.1 1t.v a 1a.2 2 3a.1 z 3b.b 5.b 64.4 1m.9 2.s 3 1d.u 1e.4 1c.g",
     "13.8 d.2 v.c 1l.d 1d.j 49.2 2.k 5 7 3.2 5j.1r el.1 5f.w 2db.2 3y 2p.v ff.5 2y.1 n9x.3",
     "2.9 x.1 29.1 7l 4 5 o.4 5 2c.1 1f.h r.h e 13.7 q.c 19.3 1c.d 11 1w.d d 9.1 1a.2 1f 2.2",
     "3.1 6.1 2 16.4 6.1 6l.7 2.1 fn5 ki.f h.f a7.1 gu 6b 46.4 1af.2 2.1 6.3 15.2 5 4m.1 fy.3",
     "1u.4 8u.1 28.3 1z.a 1e.3 3f.2 1i.e 16 3.1 b.3 1a.a 8 1q.2 11.d h.1 19 d.2 1d.d 9.3 2.1",
     "2l.b 7 3 4e.b m.3 1k.1 2.6 3.1 3.2 a b.1 3.6 4.4 1w.8 2 3 2.3 2.4 2 f.1 2b.h o 2a.j 6k.6",
     "3.8 s.1 2b.g 2z.c 2u.e 75.e 6u.5 2.1 3.3 2 2.1 3y.6 3.6 4 t.9 15.6 2.3 9 a.a 1b.f ba.7",
     "2.7 2b.l 2.d 3f.5 4 2.1 2.6 2 1v.4 2.1 2.4 9o.3 a.1 2 1d.6 4.4 o 44m 7.e 8uh.h 1xd.4",
     "1o.6 t5 2.1i 8.3 2a c.1 f58.1 3mq.19 3.m f3.4 4.5 9.7 3.6 v.3 45.2 1j0.1i 5.1d 9 f n.4",
     "2.e 11t.6 2.g 3.6 2.1 2.4 2t 4h.6 ag 1q.3 e5.3 73.1 kh.6 32.6 gzbq.2n 3l.6n"]⟩,
   ⟨["fo","format"],
    ["4t 12n 6r 3cv 1kt 3.1 r.4 1e.4 2.9 17yo 6y.2 ab9.f qxt.3 440.7 h407"]⟩,
   ⟨["lf"],
    ["a"]⟩,
   ⟨["lo","lower"],
    ["2p.p 1c b 5 11.n 2.7 2 2 2 2 2 2 2 2 2 2 2 2 2 2 2 2 2 2 2 2 2 2 2 2 2 2 2 2.1 2 2 2 2 2",
     "2 2 2.1 2 2 2 2 2 2 2 2 2 2 2 2 2 2 2 2 2 2 2 2 2 2 2 3 2 2.2 3 2 3 4.1 5 3 4.2 3 3 2 2",
     "3 2.1 2 3 4 2 3.1 3.2 7 3 3 2 2 2 2 2 2 2 2.1 2 2 2 2 2 2 2 2 2.1 3 2 4 2 2 2 2 2 2 2 2",
     "2 2 2 2 2 2 2 2 2 2 2 2 2 2 2 2 2 2 2 2 2.6 3 3.1 2 5 2 2 2 2.1w 2.z 8.1 v.4 3x 2 4 3.3",
     "j s.y 2.1 4.2 2 2 2 2 2 2 2 2 2 2 2 2.4 2 3 3.1 1g.1b 2 2 2 2 2 2 2 2 2 2 2 2 2 2 2 2 2",
     "a 2 2 2 2 2 2 2 2 2 2 2 2 2 2 2 2 2 2 2 2 2 2 2 2 2 2 3 2 2 2 2 2 2.1 2 2 2 2 2 2 2 2 2",
     "2 2 2 2 2 2 2 2 2 2 2 2 2 2 2 2 2 2 2 2 2 2 2 2 2 2 2 2 2 2 2 2 2 2 2 2 2 2 2 1d.14 29g",
     "l8.5 1oj.8 2 3a.5b 1u 2 2 2 2 2 2 2 2 2 2 2 2 2 2 2 2 2 2 2 2 2 2 2 2 2 2 2 2 2 2 2 2 2",
     "2 2 2 2 2 2 2 2 2 2 2 2 2 2 2 2 2 2 2 2 2 2 2 2 2 2 2 2 2 2 2 2 2 2 2 2 2 2 2 2 2.8 2 2",
     "2 2 2 2 2 2 2 2 2 2 2 2 2 2 2 2 2 2 2 2 2 2 2 2 2 2 2 2 2 2 2 2 2 2 2 2 2 2 2 2 2 2 2 2",
     "2 2 2.8 9.5 b.7 9.7 9.5 b.7 9.7 9.d 3.7 9.7 9.7 9.4 2.1 7 4.2 2.1 9.3 3.1 9.7 b.2 2.1 3e",
     "e h.c 32 4.1 4 s 5 5 3.1 9.3 5 y.f 5 ng.p 1fr.1b 2 4.1 2 2 2 5 2.1 2.7 4 2 2 2 2 2 2 2 2",
     "2 2 2 2 2 2 2 2 2 2 2 2 2 2 2 2 2 2 2 2 2 2 2 2 2 2 2 2 2 2 2 2 2 2 2 2 2 2 2 2 2.1 8 2",
     "5 d.11 2 6 nx0 2 2 2 2 2 2 2 2 2 2 2 2 2 2 2 2 2 2 2 2 2 2 k 2 2 2 2 2 2 2 2 2 2 2 2 2.2",
     "3q 2 2 2 2 2 2.2 2 2 2 2 2 2 2 2 2 2 2 2 2 2 2 2 2 2 2 2 2 2 2 2 2 2 2 2 2 2 2.9 2 2 3 2",
     "2 2 2 5 2 3 2.2 2 2 2 2 2 2 2 2 2 2 6 6 2 2 2 2 2 2 2 5 2 3 4 2 2 2 2 2 n.2 2 2.2 mu.16",
     "2.d 7.27 fnl.6 d.4 tm.p y6.13 3t.z 4c.a 2.e 2.6 2.1 ck 3.2 2.15 2.8 zq.1e 3i.l 27v.v",
     "gw1.v k2j.p r.6 2.h r.p r.3 2 2.6 2.a r.p r.p r.p r.p r.p r.p r.p r.p r.r t.o 2.5 r.o",
     "2.5 r.o 2.5 r.o 2.5 r.o 2.5 2 1f9.9 2.j 7.5 7a.1p 1px.x"]⟩,
   ⟨["nu","numeric"],
    ["1c.9 153.5 2j.9 2.1 35 j.9 5j.9 5j.1 29 3o.9 3b.9 3b.9 3b.9 3b.9 3b.9 3b.9 3b.9 3b.9",
     "3b.9 2p.9 3b.9 1z.9 7r.9 1z.9 1fr.9 13.9 8d.9 3l.9 4n.9 7.9 53.9 2f.9 3r.9 7.9 r7r.9",
     "iv.9 13.9 5j.9 n.9 2f.9 bb.9 gev.9 13b.9 1on.9 7.9 m5.9 26 g z.9 1p.9 41.9 7r.9 9j.9",
     "3b.9 af.9 2v.9 7.j 25.9 br.9 2v.9 if.9 2f.9 6v.9 1z.9 br.9 d07.9 1t3.9 2f.9 3r.9 ev.9",
     "iuv.9 251.1d 1tt.9 br.9 dz.9 6w.9 nq.9 3o7.9"]⟩,
   ⟨["le","oletter"],
    ["cb 5.3 5t 11.6 7.b r 2 3q dh 3b.q 5.4 19.16 10.1 2.2q 2 g.1 8.1 b.2 3 h 2.t u.2g c p.w",
     "a.1 5 6.l 5 a 4 o.o 8.a 6.n 2.5 i.15 1n.1h 4 j 8.9 g.f 5.7 3.1 3.l 2.6 2 4.3 4 h e.1 2.2",
     "f.1 b 9.5 5.1 3.l 2.6 2.1 2.1 2.1 w.3 2 k.2 h.8 2.2 2.l 2.6 2.1 2.4 4 j g.1 o c.7 3.1",
     "3.l 2.6 2.1 2.4 4 v.1 2.2 g i 2.5 4.2 2.3 4.1 2 2.1 4.1 4.2 4.b n 1h.7 2.2 2.m 2.f 4 r.2",
     "3 3.1 v 5.7 2.2 2.m 2.9 2.4 4 w.1 2.1 g.1 i.8 2.2 2.14 3 h 6.2 9.2 p.5 6.h 4.n 2.8 2 3.6",
     "1n.1b 2.1 d.6 1n.1 2 2.4 2.n 2 2.9 2.1 a 3.4 2 m.3 x 1s.7 2.z s.4 38.16 l h.5 5.3 4 4.1",
     "8.2 5.c d 1u.16 3.97 2.3 3.6 2 2.3 3.14 2.3 3.w 2.3 3.6 2 2.3 3.e 2.1k 2.3 3.1u 12.f",
     "36.h7 3.g 2.p 6.22 4.a 8.h e.i f.h f.c 2.2 g.1f 10 5 1w.2g 8.4 3.x 2 6.1x b.u 1e.t 3.4",
     "c.17 5.p 1j.m a.1g 2b 2m.1a i.7 1j.t e.1 b.17 r.z 16.2 b.z j.16 3.2 16.3 2.5 2.1 4 u3.3",
     "20.2 3.3 2aw.1j 8 h.m a.6 2.6 2.6 2.6 2.6 2.6 2.6 2.6 29 d2.2 q.8 8.4 3.4 5.2d 7.2 2.2h",
     "2.3 6.16 2.2l i.v 1d.f e9.533 1t.h3g 1w.19 3.7g 4.f b.1 1v h x.27 14.8 2x 7 2w 4.6 2.2",
     "2.3 2.m u.1f f.1d 1r.5 4 2.1 c.r b.m q.s 8.1a t h.4 2.9 b.4 2.14 o.2 2.7 l.m 4 4.1d 2",
     "4.1 3.4 3 2 p.2 3.a 8.2 d.5 3.5 3.5 a.6 2.6 42.y u.8mb d.m 5.1c 6it.a5 3.2x 1w 2.9 2.c",
     "2.4 2 2.1 2.1 2.2z y.a2 j.1r 3.1h 15.b 39.4 2.3q 2y.1j 3.u 4.5 3.5 3.5 3.2 10.b 2.p 2.i",
     "2.1 2.e 3.d z.3e 1y.1g 7g.s 4.1c 1c.v e.t 6.11 b.t 3.z 5.7 2.4 3f.25 2r.13 9.1f 2l.1f",
     "d.8m a.l b.7 q.1 3i.5 3 2.17 2.1 4 3.m b.m a.u 1u.i 2.1 b.l b.p 1z.1j 7.1 1t g.3 2.2 2.s",
     "17.s 4.s 10.7 2.r s.1h b.l b.i e.h 33.20 54.z 13.5 w 7l.15 7.1 h.2 1o.s b 9.l 17.h 1b.k",
     "s.m d.1g 1m.1 3 e.18 x.o r.z u 3 9.y 4 d.1b f.3 m 2 10.h 2.o k.1 1s.6 2 2.3 2.e 2.9 8.1a",
     "13.7 3.1 3.l 2.6 2.1 2.4 4 j d.4 v.9 2 3 2.11 2 q 2 19.1g j.3 l.2 v.1b l.1 2 55.1a 16.3",
     "11.1b l 1o.16 e 20.q 12.6 56.17 5w.7 3 3.7 2.1 2.n g 2 2n.7 3.12 h 2 t b.13 8 m c.19 k",
     "j.20 5k.w w.8 2.10 i 1e.t 35.6 2.1 2.11 m q.5 2.1 2.v f 94.i g 2.c 2.x 3h 28.pl 2v.32",
     "i.5f 219.2o g.tr i.5 q.32y 6.g6 5a2.t 1cz.fs 8.u i.26 i.t j.1b h.3 w.k 6.i c1.18 b8.22 6",
     "1v.c 1t.1 2 t.4qf 9.yd 16.9 6w8.3 2.6 2.1 2.82 g u.2 3 f.3 9.az 1s5.2y 6.c 4.8 8.9 6sx",
     "dy.18 b.6 h 8y.t j.17 dh.r 6d.t 3 ds.6 2.3 2.1 2.e 2.5g 3r xh.3 2.q 2.1 2 3 2.9 2.3 2 2",
     "7 5 2 2 2.2 2.1 2 3 2 2 2 2 2.1 2 3.3 2.6 2.3 2.3 2 2.9 2.g 6.2 2.4 2.g 3et.wyn x.37d",
     "7.65 3.4g1 f.5rk g.h9 1wj.f1 15v.3t6 6.38f"]⟩,
   ⟨["sc","scontinue"],
    ["18.1 d.1 n7 db 4v.1 dn 362 6 1l7.1 359 14pb.1 2.1 t.1 u.1 3.1 3 b 4p.1 d.1 21"]⟩,
   ⟨["st","sterm"],
    ["x u 11m 44.2 51 18.2 6v 1q 2 4.1 86.1 1d1.1 lz 5.1 li 5j.1 4e.1 1a 6 8r.1 9v.3 4j.1 b.1",
     "3.1 u.2 58.1 1u.1 ql.1 a.2 2i8.2 8j e n.1 by n3x 7j.1 6c 4 an.1 2f.1 2o 49.1 44.2 41.1",
     "6y g87 3.1 1s.1 4q u 1u 25x.1 zi.4 19.3 5a.1 3a.3 3k.2 3m.1 7 h.1 2h.1 2.1 31 8b.1 3a.1",
     "ae.1 6.e 2y.1 6y.2 ee 2 70.1 2g.1 bp.1 j9.1 23.1 eui.1 3q 1u.1 c fe.1 89 fev 5wp"]⟩,
   ⟨["se","sep"],
    ["3p 68z.1"]⟩,
   ⟨["sp"],
    ["9 2.1 k 3k 4bk 1vk.a 11 1c 335"]⟩,
   ⟨["up","upper"],
    ["1t.p 2u.m 2.6 y 2 2 2 2 2 2 2 2 2 2 2 2 2 2 2 2 2 2 2 2 2 2 2 2 2 2 2 3 2 2 2 2 2 2 2 3",
     "2 2 2 2 2 2 2 2 2 2 2 2 2 2 2 2 2 2 2 2 2 2 2.1 2 2 4.1 2 2.1 2.2 3.3 2.1 2.2 4.1 2.1 2",
     "2 2.1 2 3 2.1 2.2 2 2.1 4 8.1 2.1 2.1 2 2 2 2 2 2 2 2 3 2 2 2 2 2 2 2 2 3.1 2 2.2 2 2 2",
     "2 2 2 2 2 2 2 2 2 2 2 2 2 2 2 2 2 2 2 2 2 2 2 2 2 2 8.1 2.1 3 2.3 2 2 2 2 82 2 4 9 7 2.2",
     "2 2.1 2.g 2.8 10 3.2 4 2 2 2 2 2 2 2 2 2 2 2 6 3 2.1 3.1e 1d 2 2 2 2 2 2 2 2 2 2 2 2 2 2",
     "2 2 a 2 2 2 2 2 2 2 2 2 2 2 2 2 2 2 2 2 2 2 2 2 2 2 2 2 2 2.1 2 2 2 2 2 2 3 2 2 2 2 2 2",
     "2 2 2 2 2 2 2 2 2 2 2 2 2 2 2 2 2 2 2 2 2 2 2 2 2 2 2 2 2 2 2 2 2 2 2 2 2 2 2 2 2 3.11",
     "28a.11 2 6 k3.2d 1p0 af 2 2 2 2 2 2 2 2 2 2 2 2 2 2 2 2 2 2 2 2 2 2 2 2 2 2 2 2 2 2 2 2",
     "2 2 2 2 2 2 2 2 2 2 2 2 2 2 2 2 2 2 2 2 2 2 2 2 2 2 2 2 2 2 2 2 2 2 2 2 2 2 2 2 2 2 a 2",
     "2 2 2 2 2 2 2 2 2 2 2 2 2 2 2 2 2 2 2 2 2 2 2 2 2 2 2 2 2 2 2 2 2 2 2 2 2 2 2 2 2 2 2 2",
     "2 2 2 a.7 9.5 b.7 9.7 9.5 c 2 2 2 9.7 p.7 9.7 9.7 9.4 c.4 c.3 d.4 c.4 7a 5 4.2 3.2 3 4.4",
     "7 2 2 2.3 3.3 b.1 6 r.f k mr.p 1f5.1b 1d 2.2 3 2 2 2.3 2 3 9.2 2 2 2 2 2 2 2 2 2 2 2 2 2",
     "2 2 2 2 2 2 2 2 2 2 2 2 2 2 2 2 2 2 2 2 2 2 2 2 2 2 2 2 2 2 2 2 2 2 2 2 9 2 5 nym 2 2 2",
     "2 2 2 2 2 2 2 2 2 2 2 2 2 2 2 2 2 2 2 k 2 2 2 2 2 2 2 2 2 2 2 2 2 3s 2 2 2 2 2 2 4 2 2 2",
     "2 2 2 2 2 2 2 2 2 2 2 2 2 2 2 2 2 2 2 2 2 2 2 2 2 2 2 b 2 2.1 2 2 2 2 5 2 3 2 4 2 2 2 2",
     "2 2 2 2 2 2.4 2.4 2 2 2 2 2 2 2 2.3 2 2.1 4 6 2 2 2 p h7w.p xy.13 3t.z 4d.a 2.e 2.6 2.1",
     "1d7.1e 4e.l 27v.v gw1.v k2p.p r.p r.p r 2.1 3 3.1 3.3 2.7 r.p r.1 2.3 3.7 2.6 s.1 2.3",
     "2.4 2 4.6 s.p r.p r.p r.p r.p r.p v.o y.o y.o y.o y.o y 3ee.x 1lb.p 7.p 7.p"]⟩]

def partNamed? (tables : List CharTable) (name : Text) : Option (List Range) :=
  (tableNamed? tables name).map CharTable.ranges

end StyleTrim.Text
