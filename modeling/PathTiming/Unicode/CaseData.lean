import PathTiming.Unicode.CaseMap

/-! The single-character case mappings of the standard. -/
namespace PathTiming.Unicode

/-- The lower-case partner of each character that has one. -/
def lowerMap : CaseMap := .decode
  "1t.2p.q.1 5c.68.n.1 60.6w.7.1 74.75.o.2 8i.8j.3.2 8p.8q.8.2 96.97.n.2 ag.73.1.1 ah.ai.3.2
   ap.gj.1.1 aq.ar.2.2 au.gk.1.1 av.aw.1.1 ax.gm.2.1 az.b0.1.1 b2.d9.1.1 b3.gp.1.1 b4.gr.1.1
   b5.b6.1.1 b7.gw.1.1 b8.gz.1.1 ba.h5.1.1 bb.h4.1.1 bc.bd.1.1 bg.hb.1.1 bh.he.1.1 bj.hh.1.1
   bk.bl.3.2 bq.hs.1.1 br.bs.1.1 bt.hv.1.1 bw.bx.1.1 by.i0.1.1 bz.c0.1.1 c1.i2.2.1 c3.c4.2.2
   c7.ia.1.1 c8.c9.1.1 cc.cd.1.1 ck.cm.1.1 cl.cm.1.1 cn.cp.1.1 co.cp.1.1 cq.cs.1.1 cr.cs.9.2
   da.db.9.2 dt.dv.1.1 du.dv.2.2 dy.b9.1.1 dz.cf.1.1 e0.e1.k.2 f4.bi.1.1 f6.f7.9.2 fu.8rp.1.1
   fv.fw.1.1 fx.be.1.1 fy.8rq.1.1 g1.g2.1.1 g3.ao.1.1 g4.i1.1.1 g5.i4.1.1 g6.g7.5.2 og.oh.2.2
   om.on.1.1 ov.s3.1.1 p2.q4.1.1 p4.q5.3.1 p8.r0.1.1 pa.r1.2.1 pd.q9.h.1 pv.qr.9.1 r3.rb.1.1
   rc.rd.c.2 s4.qg.1.1 s7.s8.1.1 s9.s2.1.1 sa.sb.1.1 sd.or.3.1 sg.uo.g.1 sw.ts.w.1 v4.v5.h.2
   wa.wb.r.2 xs.y7.1.1 xt.xu.7.2 y8.y9.1c.2 10x.129.12.1 3a8.8w0.12.1 3bb.8x3.1.1 3bh.8x9.1.1
   3vk.xv4.28.1 3xs.3y0.6.1 5mx.5my.1.1 5n4.3bk.17.1 5od.3ct.3.1 5xc.5xd.23.2 61q.67.1.1
   61s.61t.1c.2 64o.64g.8.1 654.64w.6.1 65k.65c.8.1 660.65s.8.1 66g.668.6.1 66x.66p.4.2
   67c.674.8.1 688.680.8.1 68o.68g.8.1 694.68w.8.1 69k.69c.2.1 69m.67k.2.1 69o.69f.1.1
   6a0.67m.4.1 6a4.69v.1.1 6ag.6a8.2.1 6ai.67q.2.1 6aw.6ao.2.1 6ay.67u.2.1 6b0.6at.1.1
   6bc.67s.2.1 6be.67w.2.1 6bg.6b7.1.1 6jq.qx.1.1 6ju.2z.1.1 6jv.6d.1.1 6k2.6ku.1.1 6lc.6ls.g.1
   6mb.6mc.1.1 792.79s.q.1 8ow.8q8.1c.1 8rk.8rl.1.1 8rm.h7.1.1 8rn.5tp.1.1 8ro.hp.1.1
   8rr.8rs.3.2 8rx.gh.1.1 8ry.hd.1.1 8rz.gg.1.1 8s0.gi.1.1 8s2.8s3.1.1 8s5.8s6.1.1 8se.fz.2.1
   8sg.8sh.1e.2 8vf.8vg.2.2 8vm.8vn.1.1 wu8.wu9.n.2 ww0.ww1.e.2 x0i.x0j.7.2 x0y.x0z.v.2
   x2x.x2y.2.2 x31.5tl.1.1 x32.x33.5.2 x3f.x3g.1.1 x3h.h1.1.1 x3k.x3l.2.2 x3q.x3r.a.2 x4a.h2.1.1
   x4b.gs.1.1 x4c.gx.1.1 x4d.h8.1.1 x4e.h6.1.1 x4g.im.1.1 x4h.hz.1.1 x4i.il.1.1 x4j.xub.1.1
   x4k.x4l.8.2 x50.x3o.1.1 x51.hu.1.1 x52.5u6.1.1 x53.x54.2.2 x57.h0.1.1 x58.x59.8.2 x5o.bf.1.1
   x6d.x6e.1.1 1ee9.1ef5.q.1 1fcw.1fe0.14.1 1fhs.1fiw.10.1 1fn4.1fo7.j.2 1fn5.1fo8.5.2
   1fnh.1fok.7.2 1fnx.1fp0.3.2 1fo5.1fp8.1.1 1h1c.1h34.1f.1 1h74.1h80.m.1 1jfk.1jgg.w.1
   20cg.20dc.w.1 20f4.20fv.p.1 2olc.2oma.y.1"

/-- The common form under which characters are compared without case. -/
def foldMap : CaseMap := .decode
  "1t.2p.q.1 51.qk.1.1 5c.68.n.1 60.6w.7.1 74.75.o.2 8i.8j.3.2 8p.8q.8.2 96.97.n.2 ag.73.1.1
   ah.ai.3.2 an.37.1.1 ap.gj.1.1 aq.ar.2.2 au.gk.1.1 av.aw.1.1 ax.gm.2.1 az.b0.1.1 b2.d9.1.1
   b3.gp.1.1 b4.gr.1.1 b5.b6.1.1 b7.gw.1.1 b8.gz.1.1 ba.h5.1.1 bb.h4.1.1 bc.bd.1.1 bg.hb.1.1
   bh.he.1.1 bj.hh.1.1 bk.bl.3.2 bq.hs.1.1 br.bs.1.1 bt.hv.1.1 bw.bx.1.1 by.i0.1.1 bz.c0.1.1
   c1.i2.2.1 c3.c4.2.2 c7.ia.1.1 c8.c9.1.1 cc.cd.1.1 ck.cm.1.1 cl.cm.1.1 cn.cp.1.1 co.cp.1.1
   cq.cs.1.1 cr.cs.9.2 da.db.9.2 dt.dv.1.1 du.dv.2.2 dy.b9.1.1 dz.cf.1.1 e0.e1.k.2 f4.bi.1.1
   f6.f7.9.2 fu.8rp.1.1 fv.fw.1.1 fx.be.1.1 fy.8rq.1.1 g1.g2.1.1 g3.ao.1.1 g4.i1.1.1 g5.i4.1.1
   g6.g7.5.2 n9.qh.1.1 og.oh.2.2 om.on.1.1 ov.s3.1.1 p2.q4.1.1 p4.q5.3.1 p8.r0.1.1 pa.r1.2.1
   pc.6ab.1.1 pd.q9.h.1 pv.qr.9.1 q8.6ar.1.1 qq.qr.1.1 r3.rb.1.1 r4.qa.1.1 r5.qg.1.1 r9.qu.1.1
   ra.qo.1.1 rc.rd.c.2 s0.qi.1.1 s1.qp.1.1 s4.qg.1.1 s5.qd.1.1 s7.s8.1.1 s9.s2.1.1 sa.sb.1.1
   sd.or.3.1 sg.uo.g.1 sw.ts.w.1 v4.v5.h.2 wa.wb.r.2 xs.y7.1.1 xt.xu.7.2 y8.y9.1c.2 10x.129.12.1
   3a8.8w0.12.1 3bb.8x3.1.1 3bh.8x9.1.1 3y0.3xs.6.1 5mo.tu.1.1 5mp.tw.1.1 5mq.u6.1.1 5mr.u9.2.1
   5mt.ua.1.1 5mu.ui.1.1 5mv.v7.1.1 5mw.wuj.1.1 5mx.5my.1.1 5n4.3bk.17.1 5od.3ct.3.1
   5xc.5xd.23.2 61n.601.1.1 61q.67.1.1 61s.61t.1c.2 64o.64g.8.1 654.64w.6.1 65k.65c.8.1
   660.65s.8.1 66g.668.6.1 66x.66p.4.2 67c.674.8.1 688.680.8.1 68o.68g.8.1 694.68w.8.1
   69k.69c.2.1 69m.67k.2.1 69o.69f.1.1 69q.qh.1.1 6a0.67m.4.1 6a4.69v.1.1 6ag.6a8.2.1
   6ai.67q.2.1 6aw.6ao.2.1 6ay.67u.2.1 6b0.6at.1.1 6bc.67s.2.1 6be.67w.2.1 6bg.6b7.1.1
   6jq.qx.1.1 6ju.2z.1.1 6jv.6d.1.1 6k2.6ku.1.1 6lc.6ls.g.1 6mb.6mc.1.1 792.79s.q.1 8ow.8q8.1c.1
   8rk.8rl.1.1 8rm.h7.1.1 8rn.5tp.1.1 8ro.hp.1.1 8rr.8rs.3.2 8rx.gh.1.1 8ry.hd.1.1 8rz.gg.1.1
   8s0.gi.1.1 8s2.8s3.1.1 8s5.8s6.1.1 8se.fz.2.1 8sg.8sh.1e.2 8vf.8vg.2.2 8vm.8vn.1.1
   wu8.wu9.n.2 ww0.ww1.e.2 x0i.x0j.7.2 x0y.x0z.v.2 x2x.x2y.2.2 x31.5tl.1.1 x32.x33.5.2
   x3f.x3g.1.1 x3h.h1.1.1 x3k.x3l.2.2 x3q.x3r.a.2 x4a.h2.1.1 x4b.gs.1.1 x4c.gx.1.1 x4d.h8.1.1
   x4e.h6.1.1 x4g.im.1.1 x4h.hz.1.1 x4i.il.1.1 x4j.xub.1.1 x4k.x4l.8.2 x50.x3o.1.1 x51.hu.1.1
   x52.5u6.1.1 x53.x54.2.2 x57.h0.1.1 x58.x59.1.1 x5c.x5d.1.1 x5i.x5j.3.2 x5o.bf.1.1 x6d.x6e.1.1
   xv4.3vk.28.1 1dl1.1dl2.1.1 1ee9.1ef5.q.1 1fcw.1fe0.14.1 1fhs.1fiw.10.1 1fn4.1fo7.j.2
   1fn5.1fo8.5.2 1fnh.1fok.7.2 1fnx.1fp0.3.2 1fo5.1fp8.1.1 1h1c.1h34.1f.1 1h74.1h80.m.1
   1jfk.1jgg.w.1 20cg.20dc.w.1 2olc.2oma.y.1"

end PathTiming.Unicode
