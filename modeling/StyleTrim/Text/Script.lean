import StyleTrim.Text.Ranges
namespace StyleTrim.Text

def scripts : List CharTable :=
  [⟨["adlm","adlam"],
    ["2olc.23 5.9 5.1"]⟩,
   ⟨["aghb","caucasianalbanian"],
    ["1flc.1f c"]⟩,
   ⟨["ahom"],
    ["1j40.q 3.e 5.m"]⟩,
   ⟨["arab","arabic"],
    ["16o.4 2.5 2.d 2.2 2.v 2.9 c.p 2.2z 2.x 29.1b 6p.u 2.1 6.22 2.s 1bv5.36 h.a2 3.27 3.1h 8",
     "x.f 35.4 2.3q 31g.u 1w.2 1k.3 181t.3 2.q 2.1 2 3 2.9 2.3 2 2 7 5 2 2 2.2 2.1 2 3 2 2 2 2",
     "2.1 2 3.3 2.6 2.3 2.3 2 2.9 2.g 6.2 2.4 2.g 1h.1"]⟩,
   ⟨["armi","imperialaramaic"],
    ["1g74.l 2.8"]⟩,
   ⟨["armn","armenian"],
    ["10x.11 3.1d 3.2 1chw.4"]⟩,
   ⟨["avst","avestan"],
    ["1gqo.1h 4.6"]⟩,
   ⟨["bali","balinese"],
    ["5c0.24 2.1d"]⟩,
   ⟨["bamu","bamum"],
    ["www.2f 124p.fs"]⟩,
   ⟨["bass","bassavah"],
    ["1zo0.t 3.5"]⟩,
   ⟨["batk","batak"],
    ["5hc.1f 9.3"]⟩,
   ⟨["beng","bengali"],
    ["1vk.3 2.7 3.1 3.l 2.6 2 4.3 3.8 3.1 3.3 9 5.1 2.4 3.o"]⟩,
   ⟨["bhks","bhaiksuki"],
    ["1k3k.8 2.18 2.d b.s"]⟩,
   ⟨["bopo","bopomofo"],
    ["kq.1 93u.16 35.v"]⟩,
   ⟨["brah","brahmi"],
    ["1hq8.25 5.z a"]⟩,
   ⟨["brai","braille"],
    ["7wg.73"]⟩,
   ⟨["bugi","buginese"],
    ["54w.r 3.1"]⟩,
   ⟨["buhd","buhid"],
    ["4lc.j"]⟩,
   ⟨["cakm","chakma"],
    ["1hxc.1g 2.h"]⟩,
   ⟨["cans","canadianaboriginal"],
    ["3y8.hr fl.1x 1ewr.f"]⟩,
   ⟨["cari","carian"],
    ["1f34.1c"]⟩,
   ⟨["cham"],
    ["xkw.1i a.d 3.9 3.3"]⟩,
   ⟨["cher","cherokee"],
    ["3vk.2d 3.5 twz.27"]⟩,
   ⟨["chrs","chorasmian"],
    ["1ho0.r"]⟩,
   ⟨["copt","coptic","qaac"],
    ["rm.d 80h.37 6.6"]⟩,
   ⟨["cpmn","cyprominoan"],
    ["1nyo.2q"]⟩,
   ⟨["cprt","cypriot"],
    ["1g5c.5 3 2.17 2.1 4 3"]⟩,
   ⟨["cyrl","cyrillic"],
    ["sg.3o 3.4o 4lt.a 4h 25 38o.v nr5.2n han.1 18n5.1p y"]⟩,
   ⟨["deva","devanagari"],
    ["1s0.28 5.e 3.p vhd.v mip.9"]⟩,
   ⟨["diak","divesakuru"],
    ["1ji8.6 3 3.7 2.1 2.t 2.1 3.b a.9"]⟩,
   ⟨["dogr","dogra"],
    ["1jb4.1n"]⟩,
   ⟨["dsrt","deseret"],
    ["1fcw.27"]⟩,
   ⟨["dupl","duployan"],
    ["2fpc.2y 6.c 4.8 8.9 3.3"]⟩,
   ⟨["egyp","egyptianhieroglyphs"],
    ["1o1s.ut b.32y"]⟩,
   ⟨["elba","elbasan"],
    ["1fk0.13"]⟩,
   ⟨["elym","elymaic"],
    ["1hpc.m"]⟩,
   ⟨["ethi","ethiopic"],
    ["3k0.20 2.3 3.6 2 2.3 3.14 2.3 3.w 2.3 3.6 2 2.3 3.e 2.1k 2.3 3.1u 3.v 4.p 547.m a.6 2.6",
     "2.6 2.6 2.6 2.6 2.6 2.6 opv.5 3.5 3.5 a.6 2.6 1qk2.6 2.3 2.1 2.e"]⟩,
   ⟨["gara","garay"],
    ["1h6o.11 4.s 9.1"]⟩,
   ⟨["geor","georgian"],
    ["3a8.11 2 6 3.16 2.3 2a9.16 3.2 37l.11 2 6"]⟩,
   ⟨["glag","glagolitic"],
    ["8ow.2n 2e1t.6 2.g 3.6 2.1 2.4"]⟩,
   ⟨["gong","gunjalagondi"],
    ["1kdc.5 2.1 2.10 2.1 2.5 8.9"]⟩,
   ⟨["gonm","masaramgondi"],
    ["1kao.6 2.1 2.17 4 2.1 2.8 9.9"]⟩,
   ⟨["goth","gothic"],
    ["1f74.q"]⟩,
   ⟨["gran","grantha"],
    ["1ibk.3 2.7 3.1 3.l 2.6 2.1 2.4 3.8 3.1 3.2 3 7 6.6 3.6 4.4"]⟩,
   ⟨["grek","greek"],
    ["og.3 2.2 3.3 2 5 2 2.2 2 2.j 2.1q f.f 4yv.4 1f.4 5.4 2d 8x.l 3.5 3.11 3.5 3.7 2 2 2 2.u",
     "3.1g 2.e 2.d 3.5 2.i 3.2 2.8 88 rb3 gyj.26 i 155s.1x"]⟩,
   ⟨["gujr","gujarati"],
    ["22p.2 2.8 2.2 2.l 2.6 2.1 2.4 3.9 2.2 2.2 3 g.3 3.b 8.6"]⟩,
   ⟨["gukh","gurungkhema"],
    ["1xq8.1l"]⟩,
   ⟨["guru","gurmukhi"],
    ["1z5.2 2.5 5.1 3.l 2.6 2.1 2.1 2.1 3 2.4 5.1 3.2 4 8.3 2 8.g"]⟩,
   ⟨["hang","hangul"],
    ["3cw.73 5yn.1 76.2l 36.u 1u.u nhe.s hw.8mb d.m 5.1c 7tx.u 4.5 3.5 3.5 3.2"]⟩,
   ⟨["hani","han"],
    ["96o.p 2.2g d.5x 1c 2 q.8 f.3 qt.533 1t.g73 hkx.a5 3.2x n49.1 d.1 sgf.wyn x.37d 7.65",
     "3.4g1 f.5rk g.h9 1wj.f1 15v.3t6 6.38f"]⟩,
   ⟨["hano","hanunoo"],
    ["4kg.k"]⟩,
   ⟨["hatr","hatran"],
    ["1gbk.i 2.1 6.4"]⟩,
   ⟨["hebr","hebrew"],
    ["13l.1i 9.q 5.5 1cfd.p 2.4 2 2.1 2.1 2.9"]⟩,
   ⟨["hira","hiragana"],
    ["9j5.2d 7.2 23qa.7y j u.2 cry"]⟩,
   ⟨["hluw","anatolianhieroglyphs"],
    ["1s00.g6"]⟩,
   ⟨["hmng","pahawhhmong"],
    ["1zpc.1x b.9 2.6 2.k 6.i"]⟩,
   ⟨["hmnp","nyiakengpuachuehmong"],
    ["2n0g.18 4.d 3.9 5.1"]⟩,
   ⟨["hung","oldhungarian"],
    ["1h1c.1e e.1e 8.5"]⟩,
   ⟨["ital","olditalic"],
    ["1f5s.z a.2"]⟩,
   ⟨["java","javanese"],
    ["xhc.25 3.9 5.1"]⟩,
   ⟨["kali","kayahli"],
    ["xds.19 2"]⟩,
   ⟨["kana","katakana"],
    ["9lt.2h 3.2 6p.f 5t.1a 2.2f 14b3.9 2.18 ytv.3 2.6 2.1 2 80.2 1f f.3"]⟩,
   ⟨["kawi"],
    ["1kow.g 2.14 4.s"]⟩,
   ⟨["khar","kharoshthi"],
    ["1gjk.3 2.1 6.7 2.2 2.s 3.2 5.9 8.8"]⟩,
   ⟨["khmr","khmer"],
    ["4n4.2l 3.9 7.9 dj.v"]⟩,
   ⟨["khoj","khojki"],
    ["1i4g.h 2.1a"]⟩,
   ⟨["kits","khitansmallscript"],
    ["20o4 5cs.d1 16"]⟩,
   ⟨["knda","kannada"],
    ["2gw.c 2.2 2.m 2.9 2.4 3.8 2.2 2.3 8.1 7.1 2.3 3.9 2.2"]⟩,
   ⟨["krai","kiratrai"],
    ["205c.1l"]⟩,
   ⟨["kthi","kaithi"],
    ["1hts.1u b"]⟩,
   ⟨["lana","taitham"],
    ["55s.1q 2.s 3.a 7.9 7.d"]⟩,
   ⟨["laoo","lao"],
    ["2v5.1 2 2.4 2.n 2 2.m 3.4 2 2.6 2.9 3.3"]⟩,
   ⟨["latn","latin"],
    ["1t.p 7.p 1c g 6.m 2.u 2.cg 14.4 55o.11 7.1c 6.3 6.c 2.1x 1u.73 aa e h.c 3y.1 7 s i.14",
     "254.v o83.2t 4.1u 3.1 2 2.7 m.d mp.16 2.8 2.3 fpz.6 t7.p 7.p 1ly.5 2.15 2.8 16iu.u 7.5"]⟩,
   ⟨["lepc","lepcha"],
    ["5j4.1j 4.e 4.2"]⟩,
   ⟨["limb","limbu"],
    ["4xs.u 2.b 5.b 5 4.b"]⟩,
   ⟨["lina","lineara"],
    ["1fr4.8m a.l b.7"]⟩,
   ⟨["linb","linearb"],
    ["1ekg.b 2.p 2.i 2.1 2.e 3.d z.3e"]⟩,
   ⟨["lisu"],
    ["wk0.1b o8h"]⟩,
   ⟨["lyci","lycian"],
    ["1f28.s"]⟩,
   ⟨["lydi","lydian"],
    ["1gdc.p 6"]⟩,
   ⟨["mahj","mahajani"],
    ["1hzk.12"]⟩,
   ⟨["maka","makasar"],
    ["1ko0.o"]⟩,
   ⟨["mand","mandaic"],
    ["1mo.r 3"]⟩,
   ⟨["mani","manichaean"],
    ["1gow.12 5.b"]⟩,
   ⟨["marc","marchen"],
    ["1k6o.v 3.l 2.d"]⟩,
   ⟨["medf","medefaidrin"],
    ["20cg.2i"]⟩,
   ⟨["mend","mendekikakui"],
    ["2oe8.5g 3.f"]⟩,
   ⟨["merc","meroiticcursive"],
    ["1ggw.n 5.j 3.19"]⟩,
   ⟨["mero","meroitichieroglyphs"],
    ["1gg0.v"]⟩,
   ⟨["mlym","malayalam"],
    ["2kg.c 2.2 2.1e 2.2 2.5 5.f 3.p"]⟩,
   ⟨["modi"],
    ["1iww.1w c.9"]⟩,
   ⟨["mong","mongolian"],
    ["4qo.1 3 2.j 7.2g 8.16 1e46.c"]⟩,
   ⟨["mroo","mro"],
    ["1zk0.u 2.9 5.1"]⟩,
   ⟨["mtei","meeteimayek"],
    ["xr4.m 5m.19 3.9"]⟩,
   ⟨["mult","multani"],
    ["1i80.6 2 2.3 2.e 2.a"]⟩,
   ⟨["mymr","myanmar"],
    ["35s.4f u9t.u 2q.v le9.j"]⟩,
   ⟨["nagm","nagmundari"],
    ["2nrk.15"]⟩,
   ⟨["nand","nandinagari"],
    ["1jmo.7 3.19 3.a"]⟩,
   ⟨["narb","oldnortharabian"],
    ["1gn4.v"]⟩,
   ⟨["nbat","nabataean"],
    ["1g8w.u 9.8"]⟩,
   ⟨["newa"],
    ["1iio.2j 2.4"]⟩,
   ⟨["nkoo","nko"],
    ["1j4.1m 3.2"]⟩,
   ⟨["nshu","nushu"],
    ["20o1 cy7.az"]⟩,
   ⟨["ogam","ogham"],
    ["4g0.s"]⟩,
   ⟨["olck","olchiki"],
    ["5lc.1b"]⟩,
   ⟨["onao","olonal"],
    ["2nyo.16 5"]⟩,
   ⟨["orkh","oldturkic"],
    ["1gxs.20"]⟩,
   ⟨["orya","oriya"],
    ["269.2 2.7 3.1 3.l 2.6 2.1 2.4 3.8 3.1 3.2 8.2 5.1 2.4 3.h"]⟩,
   ⟨["osge","osage"],
    ["1fhs.z 5.z"]⟩,
   ⟨["osma","osmanya"],
    ["1fgg.t 3.9"]⟩,
   ⟨["ougr","olduyghur"],
    ["1hm8.p"]⟩,
   ⟨["palm","palmyrene"],
    ["1g80.v"]⟩,
   ⟨["pauc","paucinhau"],
    ["1juo.1k"]⟩,
   ⟨["perm","oldpermic"],
    ["1f80.16"]⟩,
   ⟨["phag","phagspa"],
    ["x8g.1j"]⟩,
   ⟨["phli","inscriptionalpahlavi"],
    ["1gtc.i 6.7"]⟩,
   ⟨["phlp","psalterpahlavi"],
    ["1gu8.h 8.3 d.6"]⟩,
   ⟨["phnx","phoenician"],
    ["1gcg.r 4"]⟩,
   ⟨["plrd","miao"],
    ["20hs.22 5.1k 8.g"]⟩,
   ⟨["prti","inscriptionalparthian"],
    ["1gsg.l 3.7"]⟩,
   ⟨["rjng","rejang"],
    ["xf4.z c"]⟩,
   ⟨["rohg","hanifirohingya"],
    ["1h4w.13 9.9"]⟩,
   ⟨["runr","runic"],
    ["4gw.22 4.a"]⟩,
   ⟨["samr","samaritan"],
    ["1kw.19 3.e"]⟩,
   ⟨["sarb","oldsoutharabian"],
    ["1gm8.v"]⟩,
   ⟨["saur","saurashtra"],
    ["xa8.1x 9.b"]⟩,
   ⟨["sgnw","signwriting"],
    ["2l8g.i3 g.4 2.e"]⟩,
   ⟨["shaw","shavian"],
    ["1ff4.1b"]⟩,
   ⟨["shrd","sharada"],
    ["1i0w.2n"]⟩,
   ⟨["sidd","siddham"],
    ["1itc.1h 3.11"]⟩,
   ⟨["sind","khudawadi"],
    ["1i9c.1m 6.9"]⟩,
   ⟨["sinh","sinhala"],
    ["2o1.2 2.h 4.n 2.8 2 3.6 4 5.5 2 2.7 7.9 3.2 1fcd.j"]⟩,
   ⟨["sogd","sogdian"],
    ["1hkg.15"]⟩,
   ⟨["sogo","oldsogdian"],
    ["1hj4.13"]⟩,
   ⟨["sora","sorasompeng"],
    ["1hw0.o 8.9"]⟩,
   ⟨["soyo","soyombo"],
    ["1jrk.2a"]⟩,
   ⟨["sund","sundanese"],
    ["5fk.1r 75.7"]⟩,
   ⟨["sunu","sunuwar"],
    ["1k1s.x f.9"]⟩,
   ⟨["sylo","sylotinagri"],
    ["x6o.18"]⟩,
   ⟨["syrc","syriac"],
    ["1ds.d 2.1n 3.2 7l.a"]⟩,
   ⟨["tagb","tagbanwa"],
    ["4m8.c 2.2 2.1"]⟩,
   ⟨["takr","takri"],
    ["1j0g.1l 7.9"]⟩,
   ⟨["tale","taile"],
    ["500.t 3.4"]⟩,
   ⟨["talu","newtailue"],
    ["51c.17 5.p 7.a 4.1"]⟩,
   ⟨["taml","tamil"],
    ["29u.1 2.5 4.2 2.3 4.1 2 2.1 4.1 4.2 4.b 5.4 4.2 2.3 3 7 f.k 1ih2.1d e"]⟩,
   ⟨["tang","tangut"],
    ["20o0 w.4qf 9.lb e9.8"]⟩,
   ⟨["tavt","taiviet"],
    ["xog.1u p.4"]⟩,
   ⟨["telu","telugu"],
    ["2dc.c 2.2 2.m 2.f 3.8 2.2 2.3 8.1 2.2 3 3.3 3.9 8.8"]⟩,
   ⟨["tfng","tifinagh"],
    ["8xc.1j 8.1 f"]⟩,
   ⟨["tglg","tagalog"],
    ["4jk.l a"]⟩,
   ⟨["thaa","thaana"],
    ["1hc.1d"]⟩,
   ⟨["thai"],
    ["2rl.1l 6.r"]⟩,
   ⟨["tibt","tibetan"],
    ["2yo.1z 2.z 5.12 2.z 2.e 2.6 5.1"]⟩,
   ⟨["tirh","tirhuta"],
    ["1im8.1z 9.9"]⟩,
   ⟨["tnsa","tangsa"],
    ["1zlc.26 2.9"]⟩,
   ⟨["todr","todhri"],
    ["1fpc.1f"]⟩,
   ⟨["toto"],
    ["2nbk.u"]⟩,
   ⟨["tutg","tulutigalari"],
    ["1if4.9 2 3 2.11 2.9 2 3 2.3 2.9 2.1 9.1"]⟩,
   ⟨["ugar","ugaritic"],
    ["1f9c.t 2"]⟩,
   ⟨["vaii","vai"],
    ["wlc.8b"]⟩,
   ⟨["vith","vithkuqi"],
    ["1fn4.a 2.e 2.6 2.1 2.a 2.e 2.6 2.1"]⟩,
   ⟨["wara","warangciti"],
    ["1jfk.2a d"]⟩,
   ⟨["wcho","wancho"],
    ["2ncw.1l 6"]⟩,
   ⟨["xpeo","oldpersian"],
    ["1fa8.z 5.d"]⟩,
   ⟨["xsux","cuneiform"],
    ["1kw0.pl 2v.32 2.4 c.5f"]⟩,
   ⟨["yezi","yezidi"],
    ["1hfk.15 2.2 3.1"]⟩,
   ⟨["yiii","yi"],
    ["vls.wc 4.1i"]⟩,
   ⟨["zanb","zanabazarsquare"],
    ["1jpc.1z"]⟩,
   ⟨["zinh","inherited","qaai"],
    ["lc.33 7q.1 cl.a r kh.3 3fg.u ea.2 2.c 2.6 5 7 4.1 5j.1r el.1 5f.w 30a.3 30.1 14km.f h.d",
     "r4 6b 38b 1139.19 3.m f5.2 i.7 3.6 v.3 h45v.6n"]⟩,
   ⟨["zyyy","common"],
    ["0.1s r.5 r.1a 2.e 2.4 o w ci.12 6.4 3.j 39 a 7 2 hq 7 f 4 x 4d ed 3m.1 yi ba.3 83 168.2",
     "20.1 5o.1 2 y6 e 8.3 2.5 2.2 3 li.b 3.2e 2.a 4.a 2.e i.w 1s.11 2.2 3.5 2.q 2.g 16.2 5.ih",
     "n.a m.pr 75.hf 3.v 2.2w e9.2l b7.k 2 2.o g.7 5.3 2k.1 4 2j.1 44.f x.11 a 1d.1r w.28 1c",
     "2h.4n 535.1r hkx.x 2v.2 4m.9 6t 4h b0 f.1 g5v.1 5t.9 n.y 2.i 2.3 44 2.v r.5 r.a b 1a.1",
     "1t.6 2.6 b.4 77.2 5.18 4.8 29.c 1g.18 6d.q 10o5.3 319.6x 7.c3 4d.37 1p.6t b.12 3.1p 4.g",
     "9.1 8.t 5.1o 5y.j d.j d.2e a.o 3s.2c 2.1y 2.1 3 3.1 3.3 2.b 2 2.6 2.1s 2.3 3.7 2.6 2.r",
     "2.3 2.4 2 4.6 2.9f 3.83 3.1d 41e.1v 25.1o jn.17 5.2r d.e 3.e 2.e 2.10 b.4t 1l.p 2.1 e.17",
     "5.8 8.1 f.5 4b.rb 5.g 4.c 4.3a 5.2m 7.b 5 g.b 5.1j 9.9 7.13 9.t 3.b 5.1 1r.9f d.d 3.c",
     "4.9 6.1j 8.e 3.a 7.8 8.42 2.2t gvm0 v.2n"]⟩]

-- The characters that are in use with a script, for the scripts where these are not just the
-- characters that belong to it.
def scriptUses : List CharTable :=
  [⟨["adlm","adlam"],
    ["17j x 55b 2r6 2fgf.23 5.9 5.1"]⟩,
   ⟨["aghb","caucasianalbanian"],
    ["lg 19 19 1exe.1f c"]⟩,
   ⟨["arab","arabic"],
    ["16o.4 2.5y 2.x 29.1b 6p.u 2.1 6.22 2.s 4ls 2r6 14i7.36 h.cc 3.1h 8 x.f 35.4 2.3q ro.r",
     "291.u 1w.2 1k.3 181t.3 2.q 2.1 2 3 2.9 2.3 2 2 7 5 2 2 2.2 2.1 2 3 2 2 2 2 2.1 2 3.3 2.6",
     "2.3 2.3 2 2.9 2.g 6.2 2.4 2.g 1h.1"]⟩,
   ⟨["armn","armenian"],
    ["lk fd.11 3.1d 3.2 1chw.4"]⟩,
   ⟨["avst","avestan"],
    ["53 8zd.1 17m7.1h 4.6"]⟩,
   ⟨["beng","bengali"],
    ["jg 1at.1 i.1 r.3 2.7 3.1 3.l 2.6 2 4.3 3.8 3.1 3.3 9 5.1 2.4 3.o 3pu 2 3.1 2 9 9 3 5 3.2",
     "rne"]⟩,
   ⟨["bopo","bopomofo"],
    ["jr 2.2 e h.1 8wm.2 5.9 2.c b.3 3 7 5g a.16 35.v 14ee.1 7v.4"]⟩,
   ⟨["bugi","buginese"],
    ["54w.r 3.1 sds"]⟩,
   ⟨["buhd","buhid"],
    ["4l1.1 a.j"]⟩,
   ⟨["cakm","chakma"],
    ["1ye.9 18x.9 1epj.1g 2.h"]⟩,
   ⟨["cari","carian"],
    ["53 68z 3 2qc 15yn.1c"]⟩,
   ⟨["cher","cherokee"],
    ["lc.2 2 7.1 n.1 c.1 38v.2d 3.5 twz.27"]⟩,
   ⟨["copt","coptic","qaac"],
    ["53 g9 4.1 2 31.1 31.d 80h.37 6.6 7s 1615.r"]⟩,
   ⟨["cpmn","cyprominoan"],
    ["1erk.1 973.2q"]⟩,
   ⟨["cprt","cypriot"],
    ["1erk.2 5.18 4.8 1c1.5 3 2.17 2.1 4 3"]⟩,
   ⟨["cyrl","cyrillic"],
    ["jg 1w.2 2 2 2 3 6 6n.8f 4lt.a 4h 25 3k 354.v 1w np9.2n han.1 18n5.1p y"]⟩,
   ⟨["deva","devanagari"],
    ["jg 18k.2a 3.16 3td.12 2.1 s7 qps.9 4n.v mip.9"]⟩,
   ⟨["dogr","dogra"],
    ["1us.b vcx.9 m2v.1n"]⟩,
   ⟨["dupl","duployan"],
    ["53 gg.1 2 p.1 8ig 26kk.2y 6.c 4.8 8.9 3.7"]⟩,
   ⟨["elba","elbasan"],
    ["53 ge 1eyj.13"]⟩,
   ⟨["ethi","ethiopic"],
    ["lq 2ya.20 2.3 3.6 2 2.3 3.14 2.3 3.w 2.3 3.6 2 2.3 3.e 2.1k 2.3 3.1u 3.v 4.p 547.m a.6",
     "2.6 2.6 2.6 2.6 2.6 2.6 2.6 opv.5 3.5 3.5 a.6 2.6 1qk2.6 2.3 2.1 2.e"]⟩,
   ⟨["gara","garay"],
    ["170 f 4 1fz5.11 4.s 9.1"]⟩,
   ⟨["geor","georgian"],
    ["53 ya 26v.11 2 6 3.1b 2a9.16 3.2 pn 2hy.11 2 6 78"]⟩,
   ⟨["glag","glagolitic"],
    ["53 gc 2 an 3 76 29e 31b 2au.2n dg nqk 1pxt.6 2.g 3.6 2.1 2.4"]⟩,
   ⟨["gong","gunjalagondi"],
    ["53 1pp.1 1iij.5 2.1 2.10 2.1 2.5 8.9"]⟩,
   ⟨["gonm","masaramgondi"],
    ["1us.1 1ifv.6 2.1 2.17 4 2.1 2.8 9.9"]⟩,
   ⟨["goth","gothic"],
    ["53 gd.1 3 15 1ekf.q"]⟩,
   ⟨["gran","grantha"],
    ["1u9.1 i.1 ht.d 3bx 2.1 v.2 4.1 s7 1btc.3 2.7 3.1 3.l 2.6 2.1 2.4 2.9 3.1 3.2 3 7 6.6 3.6",
     "4.4 2fw.1 2"]⟩,
   ⟨["grek","greek"],
    ["53 g9.1 3 2 2 b 1b 3 17.7 3.3 2 5 2 2.2 2 2.j 2.1q f.f 4yv.4 1f.4 5.4 2d.2 8v.l 3.5 3.11",
     "3.5 3.7 2 2 2 2.u 3.1g 2.e 2.d 3.5 2.i 3.2 2.8 2n 5l rb3 gyj.26 i 155s.1x"]⟩,
   ⟨["gujr","gujarati"],
    ["1u9.1 i.1 7w.2 2.8 2.2 2.l 2.6 2.1 2.4 3.9 2.2 2.2 3 g.3 3.b 8.6 v1t.9"]⟩,
   ⟨["gukh","gurungkhema"],
    ["1ut 1vvf.1l"]⟩,
   ⟨["guru","gurmukhi"],
    ["1u9.1 i.1 4c.2 2.5 5.1 3.l 2.6 2.1 2.1 2.1 3 2.4 5.1 3.2 4 8.3 2 8.g v5m.9"]⟩,
   ⟨["hang","hangul"],
    ["3cw.73 5xe.2 5.9 2.c f.2 7 5g 1i.2l 36.u 1u.u nhe.s hw.8mb d.m 5.1c 7ka.1 7v.4 1n.u 4.5",
     "3.5 3.5 3.2"]⟩,
   ⟨["hani","han"],
    ["53 91l.p 2.2g d.5x r.f 2.2 2.c 2.c 2.c 3 7.8 58 45.f x.11 a 1d.13 1l.1c g.b 1g 2h.o b.4",
     "2p.u 2.533 1t.g73 1dt.7 g6x.a5 3.2x oc.1 7v.4 m7x.1 d.1 jn3.h 63j.1 2pb.wyn x.37d 7.65",
     "3.4g1 f.5rk g.h9 1wj.f1 15v.3t6 6.38f"]⟩,
   ⟨["hano","hanunoo"],
    ["4kg.m"]⟩,
   ⟨["hebr","hebrew"],
    ["lj.1 i1.1i 9.q 5.5 1cfd.p 2.4 2 2.1 2.1 2.9"]⟩,
   ⟨["hira","hiragana"],
    ["9hd.2 5.9 2.c h.5 2 5.1 4.2d 3.7 2j.1 14jt.1 7v.4 b 1a.1 yua.7y j u.2 cry"]⟩,
   ⟨["hung","oldhungarian"],
    ["6e2 3 2qc g 17wf.1e e.1e 8.5"]⟩,
   ⟨["java","javanese"],
    ["xhc.25 2.a 5.1"]⟩,
   ⟨["kali","kayahli"],
    ["xds.1b"]⟩,
   ⟨["kana","katakana"],
    ["lh u 8v2.2 5.9 2.c h.5 2 5.1 2k.3 4.2n 6p.f 5t.1a 2.2f 1432.1 7v.1q ytt.3 2.6 2.1 2 80.2",
     "1f f.3"]⟩,
   ⟨["khoj","khojki"],
    ["25i.9 v29.9 kw7.h 2.1a"]⟩,
   ⟨["knda","kannada"],
    ["1u9.1 i.1 m3.c 2.2 2.m 2.9 2.4 3.8 2.2 2.3 8.1 7.1 2.3 3.9 2.2 34t 2.1 7 o 2 ri4.5"]⟩,
   ⟨["kthi","kaithi"],
    ["1uu.9 79e o3j.9 klj.1u b"]⟩,
   ⟨["latn","latin"],
    ["1t.p 7.p 1c d 3 6.m 2.u 2.cg 4 b 2.2 2 a 2 7.4 s.e 2.1 2 g.2 8.1 2.1 13 6 5.c 7q.1 y3.1",
     "1ih 2dh.11 7.1c 6.3 6.c 2.1x 1m 8.73 8g 1u e h.c 2c 1m.1 7 s i.14 254.v bc nvt.7 r.2t",
     "4.1u 3.1 2 2.7 m.d 8f ea.16 2.8 2.3 fpz.6 t7.p 7.p 1ly.5 2.15 2.8 16iu.u 7.5"]⟩,
   ⟨["limb","limbu"],
    ["1ut 32z.u 2.b 5.b 5 4.b"]⟩,
   ⟨["lina","lineara"],
    ["1err.18 y5.8m a.l b.7"]⟩,
   ⟨["linb","linearb"],
    ["1ekg.b 2.p 2.i 2.1 2.e 3.d z.3e 6.2 5.18 4.8"]⟩,
   ⟨["lisu"],
    ["jg h 8xp.1 n2d.1b o8h"]⟩,
   ⟨["lyci","lycian"],
    ["6e2 18o6.s"]⟩,
   ⟨["lydi","lydian"],
    ["53 8ze 178v.p 6"]⟩,
   ⟨["mahj","mahajani"],
    ["53 1pp.b vcx.9 krb.12"]⟩,
   ⟨["mand","mandaic"],
    ["18g e8.r 3"]⟩,
   ⟨["mani","manichaean"],
    ["18g 1fgg.12 5.b"]⟩,
   ⟨["mero","meroitichieroglyphs"],
    ["6e5 1a1v.v"]⟩,
   ⟨["mlym","malayalam"],
    ["1u9.1 i.1 pn.c 2.2 2.1e 2.2 2.5 5.f 3.p 317 o ri6.2"]⟩,
   ⟨["modi"],
    ["x80.9 lon.1w c.9"]⟩,
   ⟨["mong","mongolian"],
    ["4qo.p 7.2g 8.16 1hh 34i.1 6.3 19hx.c"]⟩,
   ⟨["mult","multani"],
    ["21y.9 1g5t.6 2 2.3 2.e 2.a"]⟩,
   ⟨["mymr","myanmar"],
    ["35s.4f u4v 4y.u 2q.v le9.j"]⟩,
   ⟨["nand","nandinagari"],
    ["1u9 j.1 ox.9 35m 9 8 rhy.5 mej.7 3.19 3.a"]⟩,
   ⟨["newa"],
    ["1u9.1 3ur 2.1 a 7 2 2 1csz.2j 2.4"]⟩,
   ⟨["nkoo","nko"],
    ["170 f 4 bl.1m 3.2 1cfz.1"]⟩,
   ⟨["onao","olonal"],
    ["1us.1 2m3v.16 5"]⟩,
   ⟨["orkh","oldturkic"],
    ["6e2 2qe 17tc.20"]⟩,
   ⟨["orya","oriya"],
    ["1u9.1 i.1 bg.2 2.7 3.1 3.l 2.6 2.1 2.4 3.8 3.1 3.2 8.2 5.1 2.4 3.h 3fn o"]⟩,
   ⟨["osge","osage"],
    ["ld 3 7 25 1eu0.z 5.z"]⟩,
   ⟨["ougr","olduyghur"],
    ["18g 1fhu vy.p"]⟩,
   ⟨["perm","oldpermic"],
    ["53 g9 6.2 b a8 1ebx.16"]⟩,
   ⟨["phag","phagspa"],
    ["4qq.1 2 1m2 34j nr2.1j"]⟩,
   ⟨["phlp","psalterpahlavi"],
    ["18g 1fls.h 8.3 d.6"]⟩,
   ⟨["rohg","hanifirohingya"],
    ["170 f 4 x 44 1fsc.13 9.9"]⟩,
   ⟨["runr","runic"],
    ["4gw.2g"]⟩,
   ⟨["samr","samaritan"],
    ["1kw.19 3.e 7hv"]⟩,
   ⟨["shaw","shavian"],
    ["53 1fa1.1b"]⟩,
   ⟨["shrd","sharada"],
    ["1u9 3uu 2 3.1 3 a 3 rib.5 3 kso.2n"]⟩,
   ⟨["sind","khudawadi"],
    ["1us.1 vd7.9 l13.1m 6.9"]⟩,
   ⟨["sinh","sinhala"],
    ["1us.1 t8.2 2.h 4.n 2.8 2 3.6 4 5.5 2 2.7 7.9 3.2 2ym 1cdr.j"]⟩,
   ⟨["sogd","sogdian"],
    ["18g 1gc0.15"]⟩,
   ⟨["sunu","sunuwar"],
    ["lc.1 2 a 3 t 4 1jf3.x f.9"]⟩,
   ⟨["sylo","sylotinagri"],
    ["1us.1 3l.9 v81.18"]⟩,
   ⟨["syrc","syriac"],
    ["lf.1 3.1 2 p.2 8.1 2.1 kb f.1 3 x b.a r 40.d 2.1n 3.2 7l.a 49a 2"]⟩,
   ⟨["tagb","tagbanwa"],
    ["4l1.1 16.c 2.2 2.1"]⟩,
   ⟨["takr","takri"],
    ["1us.1 vd7.9 ls7.1l 7.9"]⟩,
   ⟨["tale","taile"],
    ["lc.1 6.1 4 2lw.9 1s7.t 3.4"]⟩,
   ⟨["taml","tamil"],
    ["1u9.1 i.1 f1.1 2.5 4.2 2.3 4.1 2 2.1 4.1 4.2 4.b 5.4 4.2 2.3 3 7 f.k 3c0 ro9 ky6 2 1k.1",
     "2h0.1d e"]⟩,
   ⟨["tang","tangut"],
    ["9gw.f ds 1qsx w.4qf 9.lb e9.8"]⟩,
   ⟨["telu","telugu"],
    ["1u9.1 i.1 ij.c 2.2 2.m 2.f 3.8 2.2 2.3 8.1 2.2 3 3.3 3.9 8.8 386.1 2 2 o"]⟩,
   ⟨["tfng","tifinagh"],
    ["le 2 2.3 q 8b1.1j 8.1 f"]⟩,
   ⟨["tglg","tagalog"],
    ["4jk.l a m.1"]⟩,
   ⟨["thaa","thaana"],
    ["170 f.1 3 1t.9 7r.1d 1cn5 b"]⟩,
   ⟨["thai"],
    ["jg r 18 1a 24w.1l 6.r"]⟩,
   ⟨["tibt","tibetan"],
    ["2yo.1z 2.z 5.12 2.z 2.e 2.6 5.1 6cu.3"]⟩,
   ⟨["tirh","tirhuta"],
    ["1u9.1 i.1 3u8 d g ri6.9 ldz.1z 9.9"]⟩,
   ⟨["todr","todhri"],
    ["ld 3 3 a 2 23 1f1e.1f"]⟩,
   ⟨["toto"],
    ["jg 2ms4.u"]⟩,
   ⟨["tutg","tulutigalari"],
    ["2jq.9 35v 2 ri4.5 58 l1r.9 2 3 2.11 2.9 2 3 2.3 2.9 2.1 9.1"]⟩,
   ⟨["yezi","yezidi"],
    ["170 f 4 1t.9 1g5z.15 2.2 3.1"]⟩,
   ⟨["yiii","yi"],
    ["9hd.1 6.9 3.7 68 lxh.wc 4.1i hwb.4"]⟩,
   ⟨["zinh","inherited","qaai"],
    ["lr 3 2.e 4.6 3 3.f 2.1 2.h 2.4 2.3 169.1 3fg.u l0.1h 2 2.4 el.1 5f.v 17o1.f h.d r4",
     "14hv.19 3.m f5.2 i.7 3.6 v.3 h45v.6n"]⟩,
   ⟨["zyyy","common"],
    ["0.1s r.5 r.1a 2.b 2.1 2.4 o w ci.2 2.9 2 4 2.8 2 2.5 6.4 3.j 3j 7 2 hq 60 ed 125 ba.3",
     "36w.b 3.w 2.u 2.9 2.1 2.6 2.a 4.a 2.e i.w 1s.11 2.2 3.5 2.q 2.g 16.2 5.ih n.a m.pr 75.hf",
     "3.v 2.2w e9.m 2.n 3.9 2.3 2 2.p bn 4 e e m eq.n w 1e.e d.3 4i.9 6.2n w 535.1r hl5.p 2v.2",
     "r5 f.1 gbp.9 n.k 3.b 2.i 2.3 44 2.v r.5 r.5 3k.6 2.6 b.4 b7.c 1g.18 13wk.6x 7.c3 4d.37",
     "1p.6t b.12 3.1p 4.g 9.1 8.t 5.1o 5y.j d.j d.2e s.6 3s.2c 2.1y 2.1 3 3.1 3.3 2.b 2 2.6",
     "2.1s 2.3 3.7 2.6 2.r 2.3 2.4 2 4.6 2.9f 3.83 3.1d 41e.1v 25.1o jn.17 5.2r d.e 3.e 2.e",
     "2.10 b.4t 1l.p 2.1 e.17 5.8 o.5 4b.rb 5.g 4.c 4.3a 5.2m 7.b 5 g.b 5.1j 9.9 7.13 9.t 3.b",
     "5.1 1r.9f d.d 3.c 4.9 6.1j 8.e 3.a 7.8 8.42 2.2t gvm0 v.2n"]⟩]

def script? (name : Text) : Option (List Range) := (tableNamed? scripts name).map CharTable.ranges

def scriptUse? (name : Text) : Option (List Range) :=
  match tableNamed? scriptUses name with
  | some table => some table.ranges
  | none => script? name

end StyleTrim.Text
