import StyleTrim.Text.Ranges
namespace StyleTrim.Text

def categories : List CharTable :=
  [⟨["cc","control","cntrl"],
    ["0.v 2o.w"]⟩,
   ⟨["cf","format"],
    ["4t 11v.5 n 5d 1e ap.1 29 2zw 1kt.4 r.4 1e.4 2.9 17yo 6y.2 3b6 g 6zn.f qxt.3 440.7 h407",
     "v.2n"]⟩,
   ⟨["cn","unassigned"],
    ["oo.1 7.3 8 2 l b2 13.1 1f.1 4 1k.7 s.3 7.a 7j 1p.1 2u.d 1o.1 1e.1 g t.1 2 c.4 w 3.4 6m",
     "9.1 3.1 n 8 2.2 5.1 a.1 3.1 5.7 2.3 3 6.1 q.1 4 7.3 3.1 n 8 3 3 3.1 2 6.3 3.1 4.2 2.6 5",
     "2.6 i.9 4 a 4 n 8 3 6.1 b 4 4.1 2.e 5.1 d.6 8 4 9.1 3.1 n 8 3 6.1 a.1 3.1 4.6 4.3 3 6.1",
     "j.9 3 7.2 4 5.2 3 2 3.2 3.2 4.2 d.3 6.2 4 5.1 2.5 2.d m.4 e 4 o h.1 a 4 5.6 3 4.1 2.1",
     "5.1 b.6 n 4 o b 6.1 a 4 5.6 3.5 3 5.1 b 4.b e 4 1g 4 7.3 h.1 r 4 j.2 p a 2.1 8.2 2.3 7 2",
     "9.5 b.1 4.b 1n.3 u.10 3 2 6 p 2 o.1 6 2 8 b.1 5.v 21 11.3 14 11 g e.10 5j 2.4 2.1 ai 5.1",
     "8 2 5.1 16 5.1 y 5.1 8 2 5.1 g 1m 5.1 1w.1 x.2 r.5 2f.1 7.1 im.2 2i.6 n.8 p.8 l.b e 4",
     "3.b 2n.1 b.5 b.5 r.5 2i.6 18.4 1z.9 w d.3 d.3 2.2 17.1 6.a 19.3 r.5 c.2 1r.1 1u u.1 c.5",
     "b.5 f.1 w.1c 26 4n.7 1p.2 g.2 1r.4 18.1 c.7 18.4 ev.1 7.1 13.1 7.1 9 2 2 2 w.1 1i g f.1",
     "7 k.1 4 a 2u d.1 s e.2 y.e y.e 3x.3 ij.l c.k 1ed.1 x 9q.4 1a 2.4 2.1 1l.6 3.d p.8 8 8 8",
     "8 8 8 8 8 3j.x r 2i.b 5z.p 29 2f.1 2w.4 18 2n 2f.8 1d mlq.2 1k.8 9p.j 55.7 5r.1 3 2 9.k",
     "1o.2 b.5 1l.7 1z.7 d.5 39.a v.2 27 c.3 y 1k.8 f.1 b.1 2w.n t.9 7.1 7.1 7.8 8 8 1p.3 3j.1",
     "b.5 8md.b o.3 1e.3 6sv.1 2z.11 8.b 6.4 r 6 2 3 3 3i.f ce.1 1j.6 2.v 17.5 1g k 5.3 6 3s.1",
     "2 5b.2 7.1 7.1 7.1 4.2 8 8.9 6.1 d r k 3 g.1 f.x 3g.4 4.3 1a.2 2h e.2 2.1a 1b.3l u.2",
     "1e.e t.3 11.8 v.4 18.4 v 12.3 f.15 4f.1 b.5 11.3 11.3 15.7 1h.a d g 8 3 c g 8 3.2 1h.b",
     "8o.8 n.9 9.n 7 17 a.1w 7.1 2 19 3.2 2.1 o 21.7 a.1b k 3.4 y.2 s.4 2.1r 1l.3 l.1 1f 3.4 9",
     "4 u.1 4.3 b.6 a.6 1t.v 14.3 d.8 1j.2 u.1 s.4 r.6 5.b 8.27 22.1i 1g.c 1g.6 1b.7 b.5 13.2",
     "u.7 3.5r w 17 4.1 3.f 4.1i 19.7 17.l r.11 t.j o.8 27.3 11.8 1x.9 2.1 q.6 b.5 1i j.7 14.8",
     "2p l.a j 1c.1p 8 2 5 g c.5 1o.4 b.5 5 9.1 3.1 n 8 3 6 b.1 3.1 4.1 2.5 2.4 8.1 8.2 6.a b",
     "2.1 2 13 b 2.1 2 5 b 3.7 3.s 2l 6.t 21.7 b.4l 1j.1 13.x 1y.a b.5 e.i 1n.5 b.5 l.r s.1",
     "g.3 o.54 1p.2r 2c.b 9.1 2.1 9 3 v 3.1 d.8 b.1x 9.1 1b.1 c.q 21.7 2c.c 22.6 b.51 z.d b.5",
     "a 1a f.9 u.2 x.1 n f.20 8 3 19.2 2 3 a.7 b.5 7 3 12 3 7.6 b.8l q.6 i 16.2 u.2c 2.e 1f.c",
     "po.2t 34 6.a 5h.217 2s.c uv.9 330.4 g8.5a0 1n.1c5 fu.6 w b.3 2a b.5 v.1 7.9 1z.9 b 8 m.4",
     "k.bz 1n.5h 2k.2s 24.3 1m.6 i.1r 6.a 3.d 4qh.7 yf.14 b.6w6 5 8 3 84.e 2.s 4.1 2.d 5.7",
     "b1.1s3 30.4 e.2 a.6 b.1 9.317 6z.5 c5.23 1b.1 o.8 39.1n 6v.9 14.1 5f.k 1z.3d l.b l.b",
     "2g.8 q.3q 2e 20 3.1 2.1 3.1 5 d 2 8 1u 5.1 9 8 t 5 6 2.2 8 9h.1 85.1 jj.e 6 g.un w.5",
     "7.5w 8 i.1 8 3 6.4 1r.w 2.33 1a.2 f.1 b.3 3.8v w.g 1n.4 2.cv 17.5x 18.3 2.db 8 5 3 g",
     "5i.1 h.14 25.3 b.3 3.ls 1x.23 1q.5d 5 s 3 2.1 2 b 5 2 2.5 2.3 2 2 2 4 3 2.1 2 2 2 2 2 3",
     "2.1 5 8 5 5 2 b i.4 4 6 i.1f 3.7h 19.3 2t.b g.1 g g 12.9 4v.1j u.c 19.3 a.6 3.d 7.49",
     "rd.3 i.2 e.2 3c.3 2o.5 d.3 2.e d.3 1l.7 b.5 15.7 v.1 d.3 3.1p 9h.b f.1 e.2 b.4 1l.6 g.1",
     "c.5 a.6 44 2v.sl wyp.v 37f.5 67.1 4g3.d 5rm.e hb.1wh f3.15t 3t8.4 38h.f974 2.t 2p.3j",
     "6p.1e6n 1ekf.1 1ekf.1"]⟩,
   ⟨["co","privateuse"],
    ["188w.4xr jpc1.1ekd 3.1ekd"]⟩,
   ⟨["ll","lowercaseletter"],
    ["2p.p 1n 16.n 2.7 2 2 2 2 2 2 2 2 2 2 2 2 2 2 2 2 2 2 2 2 2 2 2 2 2 2 2 2.1 2 2 2 2 2 2 2",
     "2.1 2 2 2 2 2 2 2 2 2 2 2 2 2 2 2 2 2 2 2 2 2 2 2 3 2 2.2 3 2 3 4.1 5 3 4.2 3 3 2 2 3",
     "2.1 2 3 4 2 3.1 3.2 7 3 3 2 2 2 2 2 2 2 2.1 2 2 2 2 2 2 2 2 2.1 3 2 4 2 2 2 2 2 2 2 2 2",
     "2 2 2 2 2 2 2 2 2 2 2 2 2 2 2 2 2 2 2 2.6 3 3.1 2 5 2 2 2 2.1w 2.q 5e 2 4 4.2 j s.y 2.1",
     "4.2 2 2 2 2 2 2 2 2 2 2 2 2.4 2 3 3.1 1g.1b 2 2 2 2 2 2 2 2 2 2 2 2 2 2 2 2 2 a 2 2 2 2",
     "2 2 2 2 2 2 2 2 2 2 2 2 2 2 2 2 2 2 2 2 2 2 3 2 2 2 2 2 2.1 2 2 2 2 2 2 2 2 2 2 2 2 2 2",
     "2 2 2 2 2 2 2 2 2 2 2 2 2 2 2 2 2 2 2 2 2 2 2 2 2 2 2 2 2 2 2 2 2 2 1d.14 288.16 3.2",
     "l5.5 1oj.8 2 3a.17 1s.c 2.x 2v 2 2 2 2 2 2 2 2 2 2 2 2 2 2 2 2 2 2 2 2 2 2 2 2 2 2 2 2 2",
     "2 2 2 2 2 2 2 2 2 2 2 2 2 2 2 2 2 2 2 2 2 2 2 2 2 2 2 2 2 2 2 2 2 2 2 2 2 2 2 2 2 2 2 2",
     "2.8 2 2 2 2 2 2 2 2 2 2 2 2 2 2 2 2 2 2 2 2 2 2 2 2 2 2 2 2 2 2 2 2 2 2 2 2 2 2 2 2 2 2",
     "2 2 2 2 2 2 2.8 9.5 b.7 9.7 9.5 b.7 9.7 9.d 3.7 9.7 9.7 9.4 2.1 7 4.2 2.1 9.3 3.1 9.7",
     "b.2 2.1 7n 4.1 4 s 5 5 3.1 9.3 5 1i 23w.1b 2 4.1 2 2 2 5 2.1 2.5 6 2 2 2 2 2 2 2 2 2 2 2",
     "2 2 2 2 2 2 2 2 2 2 2 2 2 2 2 2 2 2 2 2 2 2 2 2 2 2 2 2 2 2 2 2 2 2 2 2 2 2.1 8 2 5 d.11",
     "2 6 nx0 2 2 2 2 2 2 2 2 2 2 2 2 2 2 2 2 2 2 2 2 2 2 k 2 2 2 2 2 2 2 2 2 2 2 2 2 3s 2 2 2",
     "2 2 2.2 2 2 2 2 2 2 2 2 2 2 2 2 2 2 2 2 2 2 2 2 2 2 2 2 2 2 2 2 2 2 2 2.7 2 2 3 2 2 2 2",
     "5 2 3 2.2 2 2 2 2 2 2 2 2 2 2 6 6 2 2 2 2 2 2 2 5 2 3 4 2 2 2 2 2 r 4 mu.16 6.8 8.27",
     "fnl.6 d.4 tm.p y6.13 3t.z 4c.a 2.e 2.6 2.1 1dw.1e 3i.l 27v.v gw1.v k2j.p r.6 2.h r.p r.3",
     "2 2.6 2.a r.p r.p r.p r.p r.p r.p r.p r.p r.r t.o 2.5 r.o 2.5 r.o 2.5 r.o 2.5 r.o 2.5 2",
     "1f9.9 2.j 7.5 1yw.x"]⟩,
   ⟨["lm","modifierletter"],
    ["j4.h 5.b f.4 8 2 3q 6 db 6f 4l.1 7i.1 5 w a 4 4h 4o yd 3k fq 1cr 30 h0 cx.5 4v.1q e z.10",
     "j6 e h.c 2cg.1 6q 5c d2 18.4 6 2q.1 2m.2 lxz yr.5 7j 37 t.1 3e.8 29 o 2y.2 4.1 d2 n 3u",
     "31 m.1 2w.3 a glj 1a.1 1k1.5 2.15 2.8 13o x ij5.3 e5.2 15.1 fb.c 1t.1 2 cnh.3 2.6 2.1",
     "9iq.1p 5m.6 q6 v4"]⟩,
   ⟨["lo","otherletter"],
    ["4q g 75 5.3 5t n0.q 5.3 1a.v 2.9 10.1 2.2q 2 p.1 b.2 3 h 2.t u.2g c p.w m.l 17.o 8.a 6.n",
     "2.5 i.14 1o.1h 4 j 8.9 h.e 5.7 3.1 3.l 2.6 2 4.3 4 h e.1 2.2 f.1 b 9.5 5.1 3.l 2.6 2.1",
     "2.1 2.1 w.3 2 k.2 h.8 2.2 2.l 2.6 2.1 2.4 4 j g.1 o c.7 3.1 3.l 2.6 2.1 2.4 4 v.1 2.2 g",
     "i 2.5 4.2 2.3 4.1 2 2.1 4.1 4.2 4.b n 1h.7 2.2 2.m 2.f 4 r.2 3 3.1 v 5.7 2.2 2.m 2.9 2.4",
     "4 w.1 2.1 g.1 i.8 2.2 2.14 3 h 6.2 9.2 p.5 6.h 4.n 2.8 2 3.6 1n.1b 2.1 d.5 1o.1 2 2.4",
     "2.n 2 2.9 2.1 a 3.4 o.3 x 1s.7 2.z s.4 38.16 l h.5 5.3 4 4.1 8.2 5.c d 36.94 2.3 3.6 2",
     "2.3 3.14 2.3 3.w 2.3 3.6 2 2.3 3.e 2.1k 2.3 3.1u 12.f 36.h7 3.g 2.p 6.22 7.7 8.h e.i f.h",
     "f.c 2.2 g.1f 15 1w.y 2.1g 8.4 3.x 2 6.1x b.u 1e.t 3.4 c.17 5.p 1j.m a.1g 4x.1a i.7 1j.t",
     "e.1 b.17 r.z 16.2 b.t 36.3 2.5 2.1 4 u3.3 2d4.1j p.m a.6 2.6 2.6 2.6 2.6 2.6 2.6 2.6 fc",
     "1i 5.2d 9 2.2h 5 6.16 2.2l i.v 1d.f e9.533 1t.g7o 2.vq 1w.13 9.7f 5.f b.1 1v 1e.1x 4q 2w",
     "4.6 2.2 2.3 2.m u.1f f.1d 1r.5 4 2.1 c.r b.m q.s 8.1a 1a.4 3.8 b.4 2.14 o.2 2.7 l.f 2.5",
     "4 4.1d 2 4.1 3.4 3 2 p.1 4.a 8 f.5 3.5 3.5 a.6 2.6 42.y u.8mb d.m 5.1c 6it.a5 3.2x 1w",
     "2.9 2.c 2.4 2 2.1 2.1 2.2z y.a2 j.1r 3.1h 15.b 39.4 2.3q 2y.9 2.18 3.u 4.5 3.5 3.5 3.2",
     "10.b 2.p 2.i 2.1 2.e 3.d z.3e au.s 4.1c 1c.v e.j 2.7 7.11 b.t 3.z 5.7 3l.25 2r.13 9.1f",
     "2l.1f d.8m a.l b.7 49.5 3 2.17 2.1 4 3.m b.m a.u 1u.i 2.1 b.l b.p 1z.1j 7.1 1t g.3 2.2",
     "2.s 17.s 4.s 10.7 2.r s.1h b.l b.i e.h 33.20 54.z 13.3 2 8h.15 7.1 h.2 1o.s b 9.l 17.h",
     "1b.k s.m d.1g 1m.1 3 e.18 x.o r.z u 3 9.y 4 d.1b f.3 m 2 10.h 2.o k.1 1s.6 2 2.3 2.e 2.9",
     "8.1a 13.7 3.1 3.l 2.6 2.1 2.4 4 j d.4 v.9 2 3 2.11 2 q 2 19.1g j.3 l.2 v.1b l.1 2 55.1a",
     "16.3 11.1b l 1o.16 e 20.q 12.6 56.17 5w.7 3 3.7 2.1 2.n g 2 2n.7 3.12 h 2 t b.13 8 m",
     "c.19 k j.20 5k.w w.8 2.10 i 1e.t 35.6 2.1 2.11 m q.5 2.1 2.v f 94.i g 2.c 2.x 3h 28.pl",
     "6f.5f 219.2o g.tr i.5 q.32y 6.g6 5a2.t 1cz.fs 8.u i.26 i.t j.1b 1g.k 6.i c4.13 ba.22 6",
     "4w.4qf 9.yd 16.9 6wo.82 g u.2 3 f.3 9.az 1s5.2y 6.c 4.8 8.9 6sx dy.18 y 8y.t j.17 dh.q",
     "6e.t 3 ds.6 2.3 2.1 2.e 2.5g 118.3 2.q 2.1 2 3 2.9 2.3 2 2 7 5 2 2 2.2 2.1 2 3 2 2 2 2",
     "2.1 2 3.3 2.6 2.3 2.3 2 2.9 2.g 6.2 2.4 2.g 3et.wyn x.37d 7.65 3.4g1 f.5rk g.h9 1wj.f1",
     "15v.3t6 6.38f"]⟩,
   ⟨["lt","titlecaseletter"],
    ["cl 3 3 13 5ue.7 9.7 9.7 d g 1c"]⟩,
   ⟨["lu","uppercaseletter"],
    ["1t.p 2u.m 2.6 y 2 2 2 2 2 2 2 2 2 2 2 2 2 2 2 2 2 2 2 2 2 2 2 2 2 2 2 3 2 2 2 2 2 2 2 3",
     "2 2 2 2 2 2 2 2 2 2 2 2 2 2 2 2 2 2 2 2 2 2 2.1 2 2 4.1 2 2.1 2.2 3.3 2.1 2.2 4.1 2.1 2",
     "2 2.1 2 3 2.1 2.2 2 2.1 4 8 3 3 3 2 2 2 2 2 2 2 3 2 2 2 2 2 2 2 2 3 3 2.2 2 2 2 2 2 2 2",
     "2 2 2 2 2 2 2 2 2 2 2 2 2 2 2 2 2 2 2 2 2 2 8.1 2.1 3 2.3 2 2 2 2 82 2 4 9 7 2.2 2 2.1",
     "2.g 2.8 10 3.2 4 2 2 2 2 2 2 2 2 2 2 2 6 3 2.1 3.1e 1d 2 2 2 2 2 2 2 2 2 2 2 2 2 2 2 2 a",
     "2 2 2 2 2 2 2 2 2 2 2 2 2 2 2 2 2 2 2 2 2 2 2 2 2 2 2.1 2 2 2 2 2 2 3 2 2 2 2 2 2 2 2 2",
     "2 2 2 2 2 2 2 2 2 2 2 2 2 2 2 2 2 2 2 2 2 2 2 2 2 2 2 2 2 2 2 2 2 2 2 2 2 2 3.11 28a.11",
     "2 6 k3.2d 1p0 7.16 3.2 8x 2 2 2 2 2 2 2 2 2 2 2 2 2 2 2 2 2 2 2 2 2 2 2 2 2 2 2 2 2 2 2",
     "2 2 2 2 2 2 2 2 2 2 2 2 2 2 2 2 2 2 2 2 2 2 2 2 2 2 2 2 2 2 2 2 2 2 2 2 2 2 2 2 2 2 2 a",
     "2 2 2 2 2 2 2 2 2 2 2 2 2 2 2 2 2 2 2 2 2 2 2 2 2 2 2 2 2 2 2 2 2 2 2 2 2 2 2 2 2 2 2 2",
     "2 2 2 2 a.7 9.5 b.7 9.7 9.5 c 2 2 2 9.7 21.3 d.3 d.3 d.4 c.3 7b 5 4.2 3.2 3 4.4 7 2 2",
     "2.3 3.3 b.1 6 1q 22l.1b 1d 2.2 3 2 2 2.3 2 3 9.2 2 2 2 2 2 2 2 2 2 2 2 2 2 2 2 2 2 2 2 2",
     "2 2 2 2 2 2 2 2 2 2 2 2 2 2 2 2 2 2 2 2 2 2 2 2 2 2 2 2 2 9 2 5 nym 2 2 2 2 2 2 2 2 2 2",
     "2 2 2 2 2 2 2 2 2 2 2 2 k 2 2 2 2 2 2 2 2 2 2 2 2 2 3s 2 2 2 2 2 2 4 2 2 2 2 2 2 2 2 2 2",
     "2 2 2 2 2 2 2 2 2 2 2 2 2 2 2 2 2 2 2 2 b 2 2.1 2 2 2 2 5 2 3 2 4 2 2 2 2 2 2 2 2 2 2.4",
     "2.4 2 2 2 2 2 2 2 2.3 2 2.1 4 6 2 2 2 p h7w.p xy.13 3t.z 4d.a 2.e 2.6 2.1 1d7.1e 4e.l",
     "27v.v gw1.v k2p.p r.p r.p r 2.1 3 3.1 3.3 2.7 r.p r.1 2.3 3.7 2.6 s.1 2.3 2.4 2 4.6 s.p",
     "r.p r.p r.p r.p r.p v.o y.o y.o y.o y.o y 3ee.x"]⟩,
   ⟨["mc","spacingmark"],
    ["1s3 1k 3.2 9.3 2.1 1f.1 1n.2 7.1 3.1 b 18 1n.2 1v 1n.2 9 2.1 1i.1 1n 2 7.1 3.1 b 2v.1",
     "2.1 4.2 2.2 b 16.2 1q.3 1q.1 1n 2.4 3.1 2.1 a.1 t f.1 1n.2 6.2 2.2 b 17.1 24.2 7.7 j.1",
     "97.1 1s 4s.1 5 7 3.1 q.1 b.2 3.6 m.1 3.5 3 b.2 1a1 v 3m 8.7 2.1 9n.3 3.2 5.1 2.5 69.1 1n",
     "2 a 2.1 9.5 42 1d 6 2.4 2.1 1q v 5.1 3 1p 3.2 2 4.1 1d.7 9.1 4s m 3sn.1 np0.1 3 2h.1",
     "1f.f 3z.1 1c 1d.1 5.1 3.2 33.1 3.1 p 1a 2 32 3.1 6 6m.1 2.1 2.1 2 jro 2 3k 1a.2 5.1 38",
     "p.1 1o 1d.2 a.1 e 2m.2 4.1 2 4r.2 w.1 1n.1 2.3 3.1 3.2 a b.1 2d.2 8 3 2.3 2.1 2 2u.2 9.1",
     "4 2z.2 7 2.3 3 6m.2 7.3 3 36.2 9.1 2 32 2.1 7 2w 2.1 5 7a.2 a 6w.5 2.1 5 3 2 3z.2 9.3 5",
     "2d u.1 1r bc f 2z 8 3 5y.4 5.1 2 9r.1 d 1d.1 9.1 2 d0p.2 2sl.1i 2x.1 j90.1 7.5"]⟩,
   ⟨["me","enclosingmark"],
    ["w8.1 4dx 17j.3 2.2 qdo.2"]⟩,
   ⟨["mn","nonspacingmark"],
    ["lc.33 7o.4 7e.18 2 2.1 2.1 2 21.a 1d.k h 2u.6 3.5 3.1 2.3 10 v.q 2k.a 1n.8 a p.3 2.8 2.2",
     "2.4 18.2 1o.8 17.n 2.v 1k 2 5.7 5 4.6 b.1 u 1n 5.3 9 l.1 r 3.1 1m 5.1 5.1 3.2 4 v.1 4",
     "c.1 1m 5.4 2.1 5 l.1 n.5 2 1n 3 2.3 9 8.1 c.1 v 1q d 1f 4 1k 2.2 6.2 2.3 8.1 c.1 u 1n 3",
     "7 6.1 l.1 t.1 1m.1 5.3 9 l.1 u 21 8.2 2 2j 3.6 d.7 2r 3.8 c.6 22.1 s 2 2 1k.d 2.4 2.1",
     "6.a 2.z a 2v.3 2.5 2.1 3.1 q.1 5.2 h.3 e 3.1 7 g jk.2 qb.2 u.1 v.1 v.1 1t.1 2.6 9 3.a a",
     "1a.2 2 3a.1 z 3b.2 5.1 a 7.2 64.1 3 1n 2.6 2 2 3.7 7.9 3 1d.d 2.f 1e.3 1d 2.4 2 6 15.8",
     "d.1 x.3 3.1 2.2 1l 2.1 4 2.2 1n.7 3.1 49.2 2.c 2.6 5 7 4.1 5j.1r k1.c 5 4.b 2db.2 3y",
     "2p.v ff.3 30.1 n9x 5.9 x.1 29.1 7l 4 5 q.1 6 48.1 r.h e 13.7 q.a 1b.2 1d 3.3 3.1 14 1w.5",
     "3.1 3.1 d 9 1c 1g 2.2 3.1 6.1 2 17.1 9 6n 3 5 fn5 ki.f h.f r2 6b 46.4 1af.2 2.1 6.3 15.2",
     "5 4m.1 fy.3 1u.4 8u.1 28.3 1z.a 1e.3 3g 1j.e 16 3.1 b.2 1e.3 3.1 8 1q.2 11.4 2.7 1r d.1",
     "1h.8 b.3 3 2o.2 3 2.1 7 3 4e 4.7 m.1 1m.1 4 12.6 4.4 1z.5 e 2 2 f.1 2e.7 3.2 2 o 2d.5 2",
     "5.1 2.1 6n.3 7.1 2.1 s.1 2e.7 3 2.1 2z 2 3.5 2 2u 2 3.3 2.4 78.8 2.1 75.1 2 5 41.3 3.1 5",
     "x.9 15.5 3.3 9 a.5 3.2 1b.c 2.1 bb.6 2.5 2 2b.l 3.6 2.1 2.1 3f.5 4 2.1 2.6 2 21.1 4 2",
     "9o.1 c.1 1h.4 6 2 o 44m 7.e 8uh.b 4.2 1xd.4 1o.6 t5 1s.3 2a f5l.1 3mq.19 3.m f5.2 i.7",
     "3.6 v.3 45.2 1j0.1i 5.1d 9 f n.4 2.e 11t.6 2.g 3.6 2.1 2.4 2t 4h.6 ag 1q.3 e5.3 73.1",
     "kh.6 32.6 gzhy.6n"]⟩,
   ⟨["nd","decimalnumber","digit"],
    ["1c.9 17r.9 3r.9 5j.9 bh.9 3b.9 3b.9 3b.9 3b.9 3b.9 3b.9 3b.9 3b.9 3b.9 2p.9 3b.9 1z.9",
     "7r.9 1z.9 1fr.9 13.9 8d.9 3l.9 4n.9 7.9 53.9 2f.9 3r.9 7.9 r7r.9 iv.9 13.9 5j.9 n.9 2f.9",
     "bb.9 gev.9 13b.9 1on.9 7.9 m5.9 3l.9 1p.9 41.9 7r.9 9j.9 3b.9 af.9 2v.9 7.j 25.9 br.9",
     "2v.9 if.9 2f.9 6v.9 1z.9 br.9 d07.9 1t3.9 2f.9 3r.9 ev.9 iuv.9 251.1d 1tt.9 br.9 dz.9",
     "6w.9 nq.9 3o7.9"]⟩,
   ⟨["nl","letternumber"],
    ["4j2.2 228.y 3.3 2v3 q.8 f.2 nfw.9 hu9.1g ct 9 3r.4 6cr.32"]⟩,
   ⟨["no","othernumber"],
    ["4y.1 6 3.2 1ti.5 ah.5 3d.2 3q.6 62.6 i.8 c2.9 ty.j vo.9 dd 1au 4.5 7.9 5j.f 16 k7.1n",
     "27.l hj.t 12i wl.3 3v.9 v.7 2.e x.9 14.e n75.5 hjm.18 1u.3 i.1 9i.q 11.3 111.7 q.6 14.8",
     "24.4 n.5 4h.1 3.f 3.19 1t.8 1h.1 v.2 24.4 2x.7 p.7 16.6 97.5 9t.u 4f.9 17.3 35.6 3r.j",
     "ak.j 11i.1 bz.8 o8.i no.k ex3.6 m7.m jsa.j d.j 31.o 47j.8 pu.1m 2.2 2.3 25.18 2.e qr.c"]⟩,
   ⟨["pc","connectorpunctuation"],
    ["2n 6ao.1 k 17tr.1 p.2 6o"]⟩,
   ⟨["pd","dashpunctuation"],
    ["19 125 1g 2te sm 1l6.5 2rm 3 w.1 5 t cf k 34 14lt.1 12 b 4q 2u9 8v"]⟩,
   ⟨["pe","closepunctuation"],
    ["15 1g w 2wu 2 1gf 1wq 1k g hn 2 v u7 2 2 2 2 2 2 29 x 2 2 2 2 b9 2 2 2 2 2 2 2 2 2 2 1t",
     "2 y ti 2 2 2 19 2 2 2 bx 2 2 2 2 4 2 2 2 3.1 14in 62 u 2 2 2 2 2 2 2 4 i 2 2 4r 1g w 3 3"]⟩,
   ⟨["pf","finalpunctuation"],
    ["57 672 4 t 2q1 2 5 3 g 4"]⟩,
   ⟨["pi","initialpunctuation"],
    ["4r 67h 3.1 3 q 2q1 2 5 3 g 4"]⟩,
   ⟨["po","otherpunctuation"],
    ["x.2 2.2 3 2 2.1 b.1 4.1 s 1x 6 f.1 8 jj 9 cz.5 16 1j 3 3 19.1 l.1 2.1 e 2.2 23.3 2v 18.d",
     "6i.2 1j.e w 7a.1 b 3x 3d 3e av d a8 2j b.1 4p.e 2 35 23.4 5.1 34.5 4s h1.8 li 3h.2 20.1",
     "4e.2 2.2 12.5 2.3 8q.1 61.1 3l.6 2.5 4h.1 b.6 t.2 3h.3 1o.4 1r.1 1t.7 c n7.1 9.7 9.8 3.3",
     "3.2 4.a 2 2.9 2hn.3 2.1 35 40.1 5.2 3 3.8 2.1 2 3.1 b.4 2.9 3.3 2 2.c 3.2 bx.2 1m 5a",
     "mwz.1 7i.2 2s b 38.5 al.3 2f.1 15.2 2 1e.1 1c 2q.c h.1 3h.3 3j.1 h.1 6y g85.6 3 n l.1",
     "3.3 4.2 2.3 8.2 7 2.1 46.2 2.2 3 2 2.1 b.1 4.1 s 11 3.1 bf.2 il 1d bj ko 5k w 7l.8 13",
     "35.6 1v.6 2i.3 qh.4 19.3 5a.6 32.1 2.3 3j.3 1d.1 28.3 5 e 2.2 2h.5 30 8b.1 2.1 37.4 b.1",
     "2 2x 6z.m 2y.2 t.c 25 3n.2 71 7d.2 4c 2l.7 2c.2 2.4 2m.9 60 2o.4 17.1 hy.1 23.c 4w vl.4",
     "29p.1 bjw.1 3q 1u.4 9 fd.2 88.3 94 f5p 5wo.4 29g nz.1"]⟩,
   ⟨["ps","openpunctuation"],
    ["14 1f w 2wv 2 1gf 1vj 4 13 1k g hn 2 v u7 2 2 2 2 2 2 29 x 2 2 2 2 b9 2 2 2 2 2 2 2 2 2",
     "2 1t 2 y ti 2 2 2 q j 2 2 2 bx 2 2 2 2 4 2 2 2 3 14iq 60 u 2 2 2 2 2 2 2 4 i 2 2 4r 1f w",
     "4 3"]⟩,
   ⟨["sc","currencysymbol"],
    ["10 3i.3 yy 3g dv.1 dv.1 8 6u 7c g6 1wc 1qd.w qrc gxw 31 4b 64.1 4.1 6bb.3 12jj 1wx"]⟩,
   ⟨["sk","modifiersymbol"],
    ["2m 2 20 7 5 4 ei.3 d.d 6.6 2 2.g 3a f.1 zn 4l1 2.2 c.2 e.2 e.2 e.1 3a5.1 ndw.m a.1 2w.1",
     "r5 f.1 fuv.g os 2 4j 1c7s.4"]⟩,
   ⟨["sm","mathsymbol"],
    ["17 h.2 1q 2 1a 5 12 w lb eo.2 56k e 14.2 e.2 3w 14.4 7 1x.4 6.1 5 3 3 8 w.1 3 2 w.7f x.1",
     "2j v.o 15.5 d2 a 1j.7 34 9d.4 3.u b.f 75.3m n.1q 5.v 3.75 1d.k 3.5 1525 mx 2.2 4l h.2 1q",
     "2 3o 7.3 2oy.1 13qq q w q w q w q w q 4kt.1"]⟩,
   ⟨["so","othersymbol"],
    ["4m 3 5 2 r6 7f.1 3k.1 5r b k.1 6w ec ae 3n.5 2 3p 5s 16 aw.2 g 2.2 3.5 l 2 2 3q.7 2.5",
     "2.1 6.3 5i.1 kx.9 k4 k3 4e.x 9u.9 a.8 138.1 2.3 2.1 b 2.1 7.5 2 2 2 5 c.1 f 2.1 2 1n.1",
     "a.4 3.3 2.1 2.1 2.6 2.u 3.1 2 2.u 7h.7 5.j 3.6 3.28 2.t q.13 7.1z n.a 2a.25 n.52 2.8",
     "2.1h 9.32 2.6v 19.17 1t.73 e9.1b m.1 7.12 3.v 2.2w 6e.5 9y.1 1b.p 2.2g d.5x r.f 5 e.1 d",
     "m.1 7.1 9d.1 5.9 x.11 a h.u c.t 9 g.v b.12 g.8v 535.1r h3l.1i o2.3 b.1 2 fy.2 gcn.f 3k",
     "1a.2 dh 4 5.1 e.1 8q.8 1m.g 3.2 2.c 4 1c.18 1a3.1 gg 2gn 1p2.7 5.g evf.3 6 g2f 31g.6n",
     "h.c3 4d.37 1p.6t b.12 3.1n 6.2 n.1 8.t 5.1o m.1t 4 57.2e x6.e7 1k.3 1f.7 2.d 2.1 1c9 28t",
     "3m k2.17 5.2r d.e 3.e 2.e 2.10 o.4g 1l.s e.17 5.8 8.1 f.5 4b.6y 6.k7 5.g 4.c 4.3a 5.2m",
     "7.b 5 g.b 5.1j 9.9 7.13 9.t 3.b 5.1 1r.9f d.d 3.c 4.9 6.1j 8.e 3.a 7.8 8.42 2.2j"]⟩,
   ⟨["zl","lineseparator"],
    ["6co"]⟩,
   ⟨["zp","paragraphseparator"],
    ["6cp"]⟩,
   ⟨["zs","spaceseparator"],
    ["w 3k 4bk 1vk.a 11 1c 335"]⟩]

-- Categories that comprise others, with the letters that the names of those begin with.
def categoryGroups : List (List String × List String) :=
  [(["l","letter"],["lu","ll","lt","lm","lo"]),(["lc","casedletter"],["lu","ll","lt"]),
   (["m","mark","combiningmark"],["mn","mc","me"]),(["n","number"],["nd","nl","no"]),
   (["p","punctuation","punct"],["pc","pd","ps","pe","pi","pf","po"]),(["s","symbol"],["sm","sc","sk","so"]),
   (["z","separator"],["zs","zl","zp"]),(["c","other"],["cc","cf","cn","co"])]

def categoryNamed? (name : Text) : Option (List Range) := (tableNamed? categories name).map CharTable.ranges

def categoriesNamed (names : List String) : List Range :=
  (ofStrings names).flatMap fun name => (categoryNamed? name).getD []

def category? (name : Text) : Option (List Range) :=
  match categoryGroups.find? fun g => isOneOf name g.1 with
  | some group => some (categoriesNamed group.2)
  | none => categoryNamed? name

end StyleTrim.Text
