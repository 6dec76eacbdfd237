import PathTiming.Unicode.RangeTable

/-! Scripts of code points, and the sets of code points used with a script. -/
namespace PathTiming.Unicode

/-- The scripts: their names without case and separators, and their code points. -/
def scripts : List (List String × String) := [
  (["adlm", "adlam"],
    "2olc.23 4.9 4.1"),
  (["ahom"],
    "1j40.q 2.e 4.m"),
  (["hluw", "anatolianhieroglyphs"],
    "1s00.g6"),
  (["arab", "arabic"],
    "16o.4 1.5 1.d 1.2 1.v 1.9 b.p 1.2z 1.x 28.1b 6o.u 1.1 5.22 1.s 1bv4.36 g.a2 2.27 2.1h 7 w.f
     34.4 1.3q 31f.u 1v.2 1j.3 181s.3 1.q 1.1 1 2 1.9 1.3 1 1 6 4 1 1 1.2 1.1 1 2 1 1 1 1 1.1 1
     2.3 1.6 1.3 1.3 1 1.9 1.g 5.2 1.4 1.g 1g.1"),
  (["armn", "armenian"],
    "10x.11 2.1d 2.2 1chv.4"),
  (["avst", "avestan"],
    "1gqo.1h 3.6"),
  (["bali", "balinese"],
    "5c0.24 1.1d"),
  (["bamu", "bamum"],
    "www.2f 124o.fs"),
  (["bass", "bassavah"],
    "1zo0.t 2.5"),
  (["batk", "batak"],
    "5hc.1f 8.3"),
  (["beng", "bengali"],
    "1vk.3 1.7 2.1 2.l 1.6 1 3.3 2.8 2.1 2.3 8 4.1 1.4 2.o"),
  (["bhks", "bhaiksuki"],
    "1k3k.8 1.18 1.d a.s"),
  (["bopo", "bopomofo"],
    "kq.1 93t.16 34.v"),
  (["brah", "brahmi"],
    "1hq8.25 4.z 9"),
  (["brai", "braille"],
    "7wg.73"),
  (["bugi", "buginese"],
    "54w.r 2.1"),
  (["buhd", "buhid"],
    "4lc.j"),
  (["cans", "canadianaboriginal"],
    "3y8.hr fk.1x 1ewq.f"),
  (["cari", "carian"],
    "1f34.1c"),
  (["aghb", "caucasianalbanian"],
    "1flc.1f b"),
  (["cakm", "chakma"],
    "1hxc.1g 1.h"),
  (["cham"],
    "xkw.1i 9.d 2.9 2.3"),
  (["cher", "cherokee"],
    "3vk.2d 2.5 twy.27"),
  (["chrs", "chorasmian"],
    "1ho0.r"),
  (["zyyy", "common"],
    "0.1s q.5 q.1a 1.e 1.4 n v ch.12 5.4 2.j 38 9 6 1 hp 6 e 3 w 4c ec 3l.1 yh b9.3 82 167.2
     1z.1 5n.1 1 y5 d 7.3 1.5 1.2 2 lh.b 2.2e 1.a 3.a 1.e h.w 1r.11 1.2 2.5 1.q 1.g 15.2 4.ih
     m.a l.pr 74.hf 2.v 1.2w e8.2l b6.k 1 1.o f.7 4.3 2j.1 3 2i.1 43.f w.11 9 1c.1r v.28 1b
     2g.4n 534.1r hkw.x 2u.2 4l.9 6s 4g az e.1 g5u.1 5s.9 m.y 1.i 1.3 43 1.v q.5 q.a a 19.1 1s.6
     1.6 a.4 76.2 4.18 3.8 28.c 1f.18 6c.q 10o4.3 318.6x 6.c3 4c.37 1o.6t a.12 2.1p 3.g 8.1 7.t
     4.1o 5x.j c.j c.2e 9.o 3r.2c 1.1y 1.1 2 2.1 2.3 1.b 1 1.6 1.1s 1.3 2.7 1.6 1.r 1.3 1.4 1
     3.6 1.9f 2.83 2.1d 41d.1v 24.1o jm.17 4.2r c.e 2.e 1.e 1.10 a.4t 1k.p 1.1 d.17 4.8 7.1 e.5
     4a.rb 4.g 3.c 3.3a 4.2m 6.b 4 f.b 4.1j 8.9 6.13 8.t 2.b 4.1 1q.9f c.d 2.c 3.9 5.1j 7.e 2.a
     6.8 7.42 1.2t gvlz u.2n"),
  (["copt", "qaac", "coptic"],
    "rm.d 80g.37 5.6"),
  (["xsux", "cuneiform"],
    "1kw0.pl 2u.32 1.4 b.5f"),
  (["cprt", "cypriot"],
    "1g5c.5 2 1.17 1.1 3 2"),
  (["cpmn", "cyprominoan"],
    "1nyo.2q"),
  (["cyrl", "cyrillic"],
    "sg.3o 2.4o 4ls.a 4g 24 38n.v nr4.2n ham.1 18n4.1p x"),
  (["dsrt", "deseret"],
    "1fcw.27"),
  (["deva", "devanagari"],
    "1s0.28 4.e 2.p vhc.v mio.9"),
  (["diak", "divesakuru"],
    "1ji8.6 2 2.7 1.1 1.t 1.1 2.b 9.9"),
  (["dogr", "dogra"],
    "1jb4.1n"),
  (["dupl", "duployan"],
    "2fpc.2y 5.c 3.8 7.9 2.3"),
  (["egyp", "egyptianhieroglyphs"],
    "1o1s.ut a.32y"),
  (["elba", "elbasan"],
    "1fk0.13"),
  (["elym", "elymaic"],
    "1hpc.m"),
  (["ethi", "ethiopic"],
    "3k0.20 1.3 2.6 1 1.3 2.14 1.3 2.w 1.3 2.6 1 1.3 2.e 1.1k 1.3 2.1u 2.v 3.p 546.m 9.6 1.6 1.6
     1.6 1.6 1.6 1.6 1.6 opu.5 2.5 2.5 9.6 1.6 1qk1.6 1.3 1.1 1.e"),
  (["gara", "garay"],
    "1h6o.11 3.s 8.1"),
  (["geor", "georgian"],
    "3a8.11 1 5 2.16 1.3 2a8.16 2.2 37k.11 1 5"),
  (["glag", "glagolitic"],
    "8ow.2n 2e1s.6 1.g 2.6 1.1 1.4"),
  (["goth", "gothic"],
    "1f74.q"),
  (["gran", "grantha"],
    "1ibk.3 1.7 2.1 2.l 1.6 1.1 1.4 2.8 2.1 2.2 2 6 5.6 2.6 3.4"),
  (["grek", "greek"],
    "og.3 1.2 2.3 1 4 1 1.2 1 1.j 1.1q e.f 4yu.4 1e.4 4.4 2c 8w.l 2.5 2.11 2.5 2.7 1 1 1 1.u
     2.1g 1.e 1.d 2.5 1.i 2.2 1.8 87 rb2 gyi.26 h 155r.1x"),
  (["gujr", "gujarati"],
    "22p.2 1.8 1.2 1.l 1.6 1.1 1.4 2.9 1.2 1.2 2 f.3 2.b 7.6"),
  (["gong", "gunjalagondi"],
    "1kdc.5 1.1 1.10 1.1 1.5 7.9"),
  (["guru", "gurmukhi"],
    "1z5.2 1.5 4.1 2.l 1.6 1.1 1.1 1.1 2 1.4 4.1 2.2 3 7.3 1 7.g"),
  (["gukh", "gurungkhema"],
    "1xq8.1l"),
  (["han", "hani"],
    "96o.p 1.2g c.5x 1b 1 p.8 e.3 qs.533 1s.g73 hkw.a5 2.2x n48.1 c.1 sge.wyn w.37d 6.65 2.4g1
     e.5rk f.h9 1wi.f1 15u.3t6 5.38f"),
  (["hang", "hangul"],
    "3cw.73 5ym.1 75.2l 35.u 1t.u nhd.s hv.8mb c.m 4.1c 7tw.u 3.5 2.5 2.5 2.2"),
  (["rohg", "hanifirohingya"],
    "1h4w.13 8.9"),
  (["hano", "hanunoo"],
    "4kg.k"),
  (["hatr", "hatran"],
    "1gbk.i 1.1 5.4"),
  (["hebr", "hebrew"],
    "13l.1i 8.q 4.5 1cfc.p 1.4 1 1.1 1.1 1.9"),
  (["hira", "hiragana"],
    "9j5.2d 6.2 23q9.7y i t.2 crx"),
  (["armi", "imperialaramaic"],
    "1g74.l 1.8"),
  (["qaai", "zinh", "inherited"],
    "lc.33 7p.1 ck.a q kg.3 3ff.u e9.2 1.c 1.6 4 6 3.1 5i.1r ek.1 5e.w 309.3 2z.1 14kl.f g.d r3
     6a 38a 1138.19 2.m f4.2 h.7 2.6 u.3 h45u.6n"),
  (["phli", "inscriptionalpahlavi"],
    "1gtc.i 5.7"),
  (["prti", "inscriptionalparthian"],
    "1gsg.l 2.7"),
  (["java", "javanese"],
    "xhc.25 2.9 4.1"),
  (["kthi", "kaithi"],
    "1hts.1u a"),
  (["knda", "kannada"],
    "2gw.c 1.2 1.m 1.9 1.4 2.8 1.2 1.3 7.1 6.1 1.3 2.9 1.2"),
  (["kana", "katakana"],
    "9lt.2h 2.2 6o.f 5s.1a 1.2f 14b2.9 1.18 ytu.3 1.6 1.1 1 7z.2 1e e.3"),
  (["kawi"],
    "1kow.g 1.14 3.s"),
  (["kali", "kayahli"],
    "xds.19 1"),
  (["khar", "kharoshthi"],
    "1gjk.3 1.1 5.7 1.2 1.s 2.2 4.9 7.8"),
  (["kits", "khitansmallscript"],
    "20o4 5cr.d1 15"),
  (["khmr", "khmer"],
    "4n4.2l 2.9 6.9 di.v"),
  (["khoj", "khojki"],
    "1i4g.h 1.1a"),
  (["sind", "khudawadi"],
    "1i9c.1m 5.9"),
  (["krai", "kiratrai"],
    "205c.1l"),
  (["lao", "laoo"],
    "2v5.1 1 1.4 1.n 1 1.m 2.4 1 1.6 1.9 2.3"),
  (["latn", "latin"],
    "1t.p 6.p 1b f 5.m 1.u 1.cg 13.4 55n.11 6.1c 5.3 5.c 1.1x 1t.73 a9 d g.c 3x.1 6 r h.14 253.v
     o82.2t 3.1u 2.1 1 1.7 l.d mo.16 1.8 1.3 fpy.6 t6.p 6.p 1lx.5 1.15 1.8 16it.u 6.5"),
  (["lepc", "lepcha"],
    "5j4.1j 3.e 3.2"),
  (["limb", "limbu"],
    "4xs.u 1.b 4.b 4 3.b"),
  (["lina", "lineara"],
    "1fr4.8m 9.l a.7"),
  (["linb", "linearb"],
    "1ekg.b 1.p 1.i 1.1 1.e 2.d y.3e"),
  (["lisu"],
    "wk0.1b o8g"),
  (["lyci", "lycian"],
    "1f28.s"),
  (["lydi", "lydian"],
    "1gdc.p 5"),
  (["mahj", "mahajani"],
    "1hzk.12"),
  (["maka", "makasar"],
    "1ko0.o"),
  (["mlym", "malayalam"],
    "2kg.c 1.2 1.1e 1.2 1.5 4.f 2.p"),
  (["mand", "mandaic"],
    "1mo.r 2"),
  (["mani", "manichaean"],
    "1gow.12 4.b"),
  (["marc", "marchen"],
    "1k6o.v 2.l 1.d"),
  (["gonm", "masaramgondi"],
    "1kao.6 1.1 1.17 3 1.1 1.8 8.9"),
  (["medf", "medefaidrin"],
    "20cg.2i"),
  (["mtei", "meeteimayek"],
    "xr4.m 5l.19 2.9"),
  (["mend", "mendekikakui"],
    "2oe8.5g 2.f"),
  (["merc", "meroiticcursive"],
    "1ggw.n 4.j 2.19"),
  (["mero", "meroitichieroglyphs"],
    "1gg0.v"),
  (["miao", "plrd"],
    "20hs.22 4.1k 7.g"),
  (["modi"],
    "1iww.1w b.9"),
  (["mong", "mongolian"],
    "4qo.1 2 1.j 6.2g 7.16 1e45.c"),
  (["mro", "mroo"],
    "1zk0.u 1.9 4.1"),
  (["mult", "multani"],
    "1i80.6 1 1.3 1.e 1.a"),
  (["mymr", "myanmar"],
    "35s.4f u9s.u 2p.v le8.j"),
  (["nbat", "nabataean"],
    "1g8w.u 8.8"),
  (["nagm", "nagmundari"],
    "2nrk.15"),
  (["nand", "nandinagari"],
    "1jmo.7 2.19 2.a"),
  (["talu", "newtailue"],
    "51c.17 4.p 6.a 3.1"),
  (["newa"],
    "1iio.2j 1.4"),
  (["nko", "nkoo"],
    "1j4.1m 2.2"),
  (["nshu", "nushu"],
    "20o1 cy6.az"),
  (["hmnp", "nyiakengpuachuehmong"],
    "2n0g.18 3.d 2.9 4.1"),
  (["ogam", "ogham"],
    "4g0.s"),
  (["olck", "olchiki"],
    "5lc.1b"),
  (["onao", "olonal"],
    "2nyo.16 4"),
  (["hung", "oldhungarian"],
    "1h1c.1e d.1e 7.5"),
  (["ital", "olditalic"],
    "1f5s.z 9.2"),
  (["narb", "oldnortharabian"],
    "1gn4.v"),
  (["perm", "oldpermic"],
    "1f80.16"),
  (["xpeo", "oldpersian"],
    "1fa8.z 4.d"),
  (["sogo", "oldsogdian"],
    "1hj4.13"),
  (["sarb", "oldsoutharabian"],
    "1gm8.v"),
  (["orkh", "oldturkic"],
    "1gxs.20"),
  (["ougr", "olduyghur"],
    "1hm8.p"),
  (["orya", "oriya"],
    "269.2 1.7 2.1 2.l 1.6 1.1 1.4 2.8 2.1 2.2 7.2 4.1 1.4 2.h"),
  (["osge", "osage"],
    "1fhs.z 4.z"),
  (["osma", "osmanya"],
    "1fgg.t 2.9"),
  (["hmng", "pahawhhmong"],
    "1zpc.1x a.9 1.6 1.k 5.i"),
  (["palm", "palmyrene"],
    "1g80.v"),
  (["pauc", "paucinhau"],
    "1juo.1k"),
  (["phag", "phagspa"],
    "x8g.1j"),
  (["phnx", "phoenician"],
    "1gcg.r 3"),
  (["phlp", "psalterpahlavi"],
    "1gu8.h 7.3 c.6"),
  (["rjng", "rejang"],
    "xf4.z b"),
  (["runr", "runic"],
    "4gw.22 3.a"),
  (["samr", "samaritan"],
    "1kw.19 2.e"),
  (["saur", "saurashtra"],
    "xa8.1x 8.b"),
  (["shrd", "sharada"],
    "1i0w.2n"),
  (["shaw", "shavian"],
    "1ff4.1b"),
  (["sidd", "siddham"],
    "1itc.1h 2.11"),
  (["sgnw", "signwriting"],
    "2l8g.i3 f.4 1.e"),
  (["sinh", "sinhala"],
    "2o1.2 1.h 3.n 1.8 1 2.6 3 4.5 1 1.7 6.9 2.2 1fcc.j"),
  (["sogd", "sogdian"],
    "1hkg.15"),
  (["sora", "sorasompeng"],
    "1hw0.o 7.9"),
  (["soyo", "soyombo"],
    "1jrk.2a"),
  (["sund", "sundanese"],
    "5fk.1r 74.7"),
  (["sunu", "sunuwar"],
    "1k1s.x e.9"),
  (["sylo", "sylotinagri"],
    "x6o.18"),
  (["syrc", "syriac"],
    "1ds.d 1.1n 2.2 7k.a"),
  (["tglg", "tagalog"],
    "4jk.l 9"),
  (["tagb", "tagbanwa"],
    "4m8.c 1.2 1.1"),
  (["tale", "taile"],
    "500.t 2.4"),
  (["lana", "taitham"],
    "55s.1q 1.s 2.a 6.9 6.d"),
  (["tavt", "taiviet"],
    "xog.1u o.4"),
  (["takr", "takri"],
    "1j0g.1l 6.9"),
  (["taml", "tamil"],
    "29u.1 1.5 3.2 1.3 3.1 1 1.1 3.1 3.2 3.b 4.4 3.2 1.3 2 6 e.k 1ih1.1d d"),
  (["tnsa", "tangsa"],
    "1zlc.26 1.9"),
  (["tang", "tangut"],
    "20o0 v.4qf 8.lb e8.8"),
  (["telu", "telugu"],
    "2dc.c 1.2 1.m 1.f 2.8 1.2 1.3 7.1 1.2 2 2.3 2.9 7.8"),
  (["thaa", "thaana"],
    "1hc.1d"),
  (["thai"],
    "2rl.1l 5.r"),
  (["tibt", "tibetan"],
    "2yo.1z 1.z 4.12 1.z 1.e 1.6 4.1"),
  (["tfng", "tifinagh"],
    "8xc.1j 7.1 e"),
  (["tirh", "tirhuta"],
    "1im8.1z 8.9"),
  (["todr", "todhri"],
    "1fpc.1f"),
  (["toto"],
    "2nbk.u"),
  (["tutg", "tulutigalari"],
    "1if4.9 1 2 1.11 1.9 1 2 1.3 1.9 1.1 8.1"),
  (["ugar", "ugaritic"],
    "1f9c.t 1"),
  (["vai", "vaii"],
    "wlc.8b"),
  (["vith", "vithkuqi"],
    "1fn4.a 1.e 1.6 1.1 1.a 1.e 1.6 1.1"),
  (["wcho", "wancho"],
    "2ncw.1l 5"),
  (["wara", "warangciti"],
    "1jfk.2a c"),
  (["yezi", "yezidi"],
    "1hfk.15 1.2 2.1"),
  (["yi", "yiii"],
    "vls.wc 3.1i"),
  (["zanb", "zanabazarsquare"],
    "1jpc.1z")]

/-- Script extensions that differ from the script of the same name. -/
def extendedScripts : List (List String × String) := [
  (["adlm", "adlam"],
    "17j w 55a 2r5 2fge.23 4.9 4.1"),
  (["arab", "arabic"],
    "16o.4 1.5y 1.x 28.1b 6o.u 1.1 5.22 1.s 4lr 2r5 14i6.36 g.cc 2.1h 7 w.f 34.4 1.3q rn.r 290.u
     1v.2 1j.3 181s.3 1.q 1.1 1 2 1.9 1.3 1 1 6 4 1 1 1.2 1.1 1 2 1 1 1 1 1.1 1 2.3 1.6 1.3 1.3
     1 1.9 1.g 5.2 1.4 1.g 1g.1"),
  (["armn", "armenian"],
    "lk fc.11 2.1d 2.2 1chv.4"),
  (["avst", "avestan"],
    "53 8zc.1 17m6.1h 3.6"),
  (["beng", "bengali"],
    "jg 1as.1 h.1 q.3 1.7 2.1 2.l 1.6 1 3.3 2.8 2.1 2.3 8 4.1 1.4 2.o 3pt 1 2.1 1 8 8 2 4 2.2 rnd"),
  (["bopo", "bopomofo"],
    "jr 1.2 d g.1 8wl.2 4.9 1.c a.3 2 6 5f 9.16 34.v 14ed.1 7u.4"),
  (["bugi", "buginese"],
    "54w.r 2.1 sdr"),
  (["buhd", "buhid"],
    "4l1.1 9.j"),
  (["cari", "carian"],
    "53 68y 2 2qb 15ym.1c"),
  (["aghb", "caucasianalbanian"],
    "lg 18 18 1exd.1f b"),
  (["cakm", "chakma"],
    "1ye.9 18w.9 1epi.1g 1.h"),
  (["cher", "cherokee"],
    "lc.2 1 6.1 m.1 b.1 38u.2d 2.5 twy.27"),
  (["zyyy", "common"],
    "0.1s q.5 q.1a 1.b 1.1 1.4 n v ch.2 1.9 1 3 1.8 1 1.5 5.4 2.j 3i 6 1 hp 5z ec 124 b9.3 36v.b
     2.w 1.u 1.9 1.1 1.6 1.a 3.a 1.e h.w 1r.11 1.2 2.5 1.q 1.g 15.2 4.ih m.a l.pr 74.hf 2.v 1.2w
     e8.m 1.n 2.9 1.3 1 1.p bm 3 d d l ep.n v 1d.e c.3 4h.9 5.2n v 534.1r hl4.p 2u.2 r4 e.1
     gbo.9 m.k 2.b 1.i 1.3 43 1.v q.5 q.5 3j.6 1.6 a.4 b6.c 1f.18 13wj.6x 6.c3 4c.37 1o.6t a.12
     2.1p 3.g 8.1 7.t 4.1o 5x.j c.j c.2e r.6 3r.2c 1.1y 1.1 2 2.1 2.3 1.b 1 1.6 1.1s 1.3 2.7 1.6
     1.r 1.3 1.4 1 3.6 1.9f 2.83 2.1d 41d.1v 24.1o jm.17 4.2r c.e 2.e 1.e 1.10 a.4t 1k.p 1.1
     d.17 4.8 n.5 4a.rb 4.g 3.c 3.3a 4.2m 6.b 4 f.b 4.1j 8.9 6.13 8.t 2.b 4.1 1q.9f c.d 2.c 3.9
     5.1j 7.e 2.a 6.8 7.42 1.2t gvlz u.2n"),
  (["copt", "qaac", "coptic"],
    "53 g8 3.1 1 30.1 30.d 80g.37 5.6 7r 1614.r"),
  (["cprt", "cypriot"],
    "1erk.2 4.18 3.8 1c0.5 2 1.17 1.1 3 2"),
  (["cpmn", "cyprominoan"],
    "1erk.1 972.2q"),
  (["cyrl", "cyrillic"],
    "jg 1v.2 1 1 1 2 5 6m.8f 4ls.a 4g 24 3j 353.v 1v np8.2n ham.1 18n4.1p x"),
  (["deva", "devanagari"],
    "jg 18j.2a 2.16 3tc.12 1.1 s6 qpr.9 4m.v mio.9"),
  (["dogr", "dogra"],
    "1us.b vcw.9 m2u.1n"),
  (["dupl", "duployan"],
    "53 gf.1 1 o.1 8if 26kj.2y 5.c 3.8 7.9 2.7"),
  (["elba", "elbasan"],
    "53 gd 1eyi.13"),
  (["ethi", "ethiopic"],
    "lq 2y9.20 1.3 2.6 1 1.3 2.14 1.3 2.w 1.3 2.6 1 1.3 2.e 1.1k 1.3 2.1u 2.v 3.p 546.m 9.6 1.6
     1.6 1.6 1.6 1.6 1.6 1.6 opu.5 2.5 2.5 9.6 1.6 1qk1.6 1.3 1.1 1.e"),
  (["gara", "garay"],
    "170 e 3 1fz4.11 3.s 8.1"),
  (["geor", "georgian"],
    "53 y9 26u.11 1 5 2.1b 2a8.16 2.2 pm 2hx.11 1 5 77"),
  (["glag", "glagolitic"],
    "53 gb 1 am 2 75 29d 31a 2at.2n df nqj 1pxs.6 1.g 2.6 1.1 1.4"),
  (["goth", "gothic"],
    "53 gc.1 2 14 1eke.q"),
  (["gran", "grantha"],
    "1u9.1 h.1 hs.d 3bw 1.1 u.2 3.1 s6 1btb.3 1.7 2.1 2.l 1.6 1.1 1.4 1.9 2.1 2.2 2 6 5.6 2.6
     3.4 2fv.1 1"),
  (["grek", "greek"],
    "53 g8.1 2 1 1 a 1a 2 16.7 2.3 1 4 1 1.2 1 1.j 1.1q e.f 4yu.4 1e.4 4.4 2c.2 8u.l 2.5 2.11
     2.5 2.7 1 1 1 1.u 2.1g 1.e 1.d 2.5 1.i 2.2 1.8 2m 5k rb2 gyi.26 h 155r.1x"),
  (["gujr", "gujarati"],
    "1u9.1 h.1 7v.2 1.8 1.2 1.l 1.6 1.1 1.4 2.9 1.2 1.2 2 f.3 2.b 7.6 v1s.9"),
  (["gong", "gunjalagondi"],
    "53 1po.1 1iii.5 1.1 1.10 1.1 1.5 7.9"),
  (["guru", "gurmukhi"],
    "1u9.1 h.1 4b.2 1.5 4.1 2.l 1.6 1.1 1.1 1.1 2 1.4 4.1 2.2 3 7.3 1 7.g v5l.9"),
  (["gukh", "gurungkhema"],
    "1ut 1vve.1l"),
  (["han", "hani"],
    "53 91k.p 1.2g c.5x q.f 1.2 1.c 1.c 1.c 2 6.8 57 44.f w.11 9 1c.13 1k.1c f.b 1f 2g.o a.4
     2o.u 1.533 1s.g73 1ds.7 g6w.a5 2.2x ob.1 7u.4 m7w.1 c.1 jn2.h 63i.1 2pa.wyn w.37d 6.65
     2.4g1 e.5rk f.h9 1wi.f1 15u.3t6 5.38f"),
  (["hang", "hangul"],
    "3cw.73 5xd.2 4.9 1.c e.2 6 5f 1h.2l 35.u 1t.u nhd.s hv.8mb c.m 4.1c 7k9.1 7u.4 1m.u 3.5 2.5
     2.5 2.2"),
  (["rohg", "hanifirohingya"],
    "170 e 3 w 43 1fsb.13 8.9"),
  (["hano", "hanunoo"],
    "4kg.m"),
  (["hebr", "hebrew"],
    "lj.1 i0.1i 8.q 4.5 1cfc.p 1.4 1 1.1 1.1 1.9"),
  (["hira", "hiragana"],
    "9hd.2 4.9 1.c g.5 1 4.1 3.2d 2.7 2i.1 14js.1 7u.4 a 19.1 yu9.7y i t.2 crx"),
  (["qaai", "zinh", "inherited"],
    "lr 2 1.b 1.1 3.6 2 2.f 1.1 1.h 1.4 1.3 168.1 3ff.u kz.1h 1 1.4 ek.1 5e.v 17o0.f g.d r3
     14hu.19 2.m f4.2 h.7 2.6 u.3 h45u.6n"),
  (["java", "javanese"],
    "xhc.25 1.a 4.1"),
  (["kthi", "kaithi"],
    "1uu.9 79d o3i.9 kli.1u a"),
  (["knda", "kannada"],
    "1u9.1 h.1 m2.c 1.2 1.m 1.9 1.4 2.8 1.2 1.3 7.1 6.1 1.3 2.9 1.2 34s 1.1 6 n 1 ri3.5"),
  (["kana", "katakana"],
    "lh t 8v1.2 4.9 1.c g.5 1 4.1 2j.3 3.2n 6o.f 5s.1a 1.2f 1431.1 7u.1q yts.3 1.6 1.1 1 7z.2 1e
     e.3"),
  (["kali", "kayahli"],
    "xds.1b"),
  (["khoj", "khojki"],
    "25i.9 v28.9 kw6.h 1.1a"),
  (["sind", "khudawadi"],
    "1us.1 vd6.9 l12.1m 5.9"),
  (["latn", "latin"],
    "1t.p 6.p 1b c 2 5.m 1.u 1.cg 3 a 1.2 1 9 1 6.4 r.e 1.1 1 c 2.2 7.1 1.1 12 5 4.c 7p.1 y2.1
     1ig 2dg.11 6.1c 5.3 5.c 1.1x 1l 7.73 8f 1t d g.c 2b 1l.1 6 r h.14 253.v bb nvs.7 q.2t 3.1u
     2.1 1 1.7 l.d 8e e9.16 1.8 1.3 fpy.6 t6.p 6.p 1lx.5 1.15 1.8 16it.u 6.5"),
  (["limb", "limbu"],
    "1ut 32y.u 1.b 4.b 4 3.b"),
  (["lina", "lineara"],
    "1err.18 y4.8m 9.l a.7"),
  (["linb", "linearb"],
    "1ekg.b 1.p 1.i 1.1 1.e 2.d y.3e 5.2 4.18 3.8"),
  (["lisu"],
    "jg g 8xo.1 n2c.1b o8g"),
  (["lyci", "lycian"],
    "6e2 18o5.s"),
  (["lydi", "lydian"],
    "53 8zd 178u.p 5"),
  (["mahj", "mahajani"],
    "53 1po.b vcw.9 kra.12"),
  (["mlym", "malayalam"],
    "1u9.1 h.1 pm.c 1.2 1.1e 1.2 1.5 4.f 2.p 316 n ri5.2"),
  (["mand", "mandaic"],
    "18g e7.r 2"),
  (["mani", "manichaean"],
    "18g 1fgf.12 4.b"),
  (["gonm", "masaramgondi"],
    "1us.1 1ifu.6 1.1 1.17 3 1.1 1.8 8.9"),
  (["mero", "meroitichieroglyphs"],
    "6e5 1a1u.v"),
  (["modi"],
    "x80.9 lom.1w b.9"),
  (["mong", "mongolian"],
    "4qo.p 6.2g 7.16 1hg 34h.1 5.3 19hw.c"),
  (["mult", "multani"],
    "21y.9 1g5s.6 1 1.3 1.e 1.a"),
  (["mymr", "myanmar"],
    "35s.4f u4u 4x.u 2p.v le8.j"),
  (["nand", "nandinagari"],
    "1us.1 ow.9 35l 8 7 rhx.5 mei.7 2.19 2.a"),
  (["nko", "nkoo"],
    "170 e 3 bk.1m 2.2 1cfy.1"),
  (["onao", "olonal"],
    "1us.1 2m3u.16 4"),
  (["hung", "oldhungarian"],
    "6e2 2 2qb f 17we.1e d.1e 7.5"),
  (["perm", "oldpermic"],
    "53 g8 5.2 a a7 1ebw.16"),
  (["orkh", "oldturkic"],
    "6e2 2qd 17tb.20"),
  (["ougr", "olduyghur"],
    "18g 1fht vx.p"),
  (["orya", "oriya"],
    "1u9.1 h.1 bf.2 1.7 2.1 2.l 1.6 1.1 1.4 2.8 2.1 2.2 7.2 4.1 1.4 2.h 3fm n"),
  (["osge", "osage"],
    "ld 2 6 24 1etz.z 4.z"),
  (["phag", "phagspa"],
    "4qq.1 1 1m1 34i nr1.1j"),
  (["phlp", "psalterpahlavi"],
    "18g 1flr.h 7.3 c.6"),
  (["runr", "runic"],
    "4gw.2g"),
  (["samr", "samaritan"],
    "1kw.19 2.e 7hu"),
  (["shrd", "sharada"],
    "1u9 3ut 1 2.1 2 rin.5 2 ksn.2n"),
  (["shaw", "shavian"],
    "53 1fa0.1b"),
  (["sinh", "sinhala"],
    "1us.1 t7.2 1.h 3.n 1.8 1 2.6 3 4.5 1 1.7 6.9 2.2 2yl 1cdq.j"),
  (["sogd", "sogdian"],
    "18g 1gbz.15"),
  (["sunu", "sunuwar"],
    "lc.1 1 9 2 s 3 1jf2.x e.9"),
  (["sylo", "sylotinagri"],
    "1us.1 3k.9 v80.18"),
  (["syrc", "syriac"],
    "lf.1 2.1 1 l 2.2 7.1 1 kb e.1 2 w a.a q 3z.d 1.1n 2.2 7k.a 499 1"),
  (["tglg", "tagalog"],
    "4jk.l 9 l.1"),
  (["tagb", "tagbanwa"],
    "4l1.1 15.c 1.2 1.1"),
  (["tale", "taile"],
    "lc.1 5.1 3 2lv.9 1s6.t 2.4"),
  (["takr", "takri"],
    "1us.1 vd6.9 ls6.1l 6.9"),
  (["taml", "tamil"],
    "1u9.1 h.1 f0.1 1.5 3.2 1.3 3.1 1 1.1 3.1 3.2 3.b 4.4 3.2 1.3 2 6 e.k 3bz ro8 ky5 1 1j.1
     2gz.1d d"),
  (["tang", "tangut"],
    "9gw.f dr 1qsw v.4qf 8.lb e8.8"),
  (["telu", "telugu"],
    "1u9.1 h.1 ii.c 1.2 1.m 1.f 2.8 1.2 1.3 7.1 1.2 2 2.3 2.9 7.8 38a n"),
  (["thaa", "thaana"],
    "170 e.1 2 1s.9 7q.1d 1cn4 a"),
  (["thai"],
    "jg q 17 19 24v.1l 5.r"),
  (["tibt", "tibetan"],
    "2yo.1z 1.z 4.12 1.z 1.e 1.6 4.1 6ct.3"),
  (["tfng", "tifinagh"],
    "le 1 2 1 8bq.1j 7.1 e"),
  (["tirh", "tirhuta"],
    "1u9.1 h.1 3v0 ri5.9 ldy.1z 8.9"),
  (["todr", "todhri"],
    "ld 2 2 9 1 22 1f1d.1f"),
  (["toto"],
    "jg 2ms3.u"),
  (["tutg", "tulutigalari"],
    "2jq.9 35u 1 ri3.5 57 l1q.9 1 2 1.11 1.9 1 2 1.3 1.9 1.1 8.1"),
  (["yezi", "yezidi"],
    "170 e 3 1s.9 1g5y.15 1.2 2.1"),
  (["yi", "yiii"],
    "9hd.1 5.9 2.7 67 lxg.wc 3.1i hwa.4")]

/-- Code points of a script, found by its normalized name. -/
def script? (name : String) : Option RangeTable := lookup? scripts name

/-- Code points used with a script, found by its normalized name. -/
def scriptExtension? (name : String) : Option RangeTable :=
  (lookup? extendedScripts name).or (script? name)

end PathTiming.Unicode
