import SubnetRouter.FourVia6Bounds
import SubnetRouter.Lib.Run
import SubnetRouter.Lib.Table

namespace SubnetRouter.FourVia6

open Lib

/-!
# Which client a reply goes to

`flow_remember` keeps one entry per client and flow; `flow_lookup` ignores the client and
takes the first live entry of the flow in slot order.  Over runs of requests and replies at
any times, a reply is addressed to the client of the most recent request exactly when no other
client's live entry of the same flow stands in front (`reply_to_recent_iff`).

* `Traffic` — the translator together with a record of the most recent client per flow.
* `traffic_inv` — every entry of a reachable table is of a flow that has had a request.
* `flowLookup_snd` — the lookup is a first match.
-/

/-! ### The run -/

/-- The flow a request belongs to, read off its IPv6 packet and its sender's tailnet address;
    ICMP echo has an id in place of the ports. -/
def requestKey (b : List UInt8) (peer : Ip4) : FlowKey :=
  if byteAt b 6 = 6 ∨ byteAt b 6 = 17 then ⟨byteAt b 6, peer, be32 b 36, be16 b 40, be16 b 42⟩
  else ⟨1, peer, be32 b 36, be16 b 44, 0⟩

/-- The flow a reply belongs to, read off its IPv4 packet. A reply goes from the target to the peer,
    so the two addresses change places. -/
def replyKey (b : List UInt8) : FlowKey :=
  let ihl := (byteAt b 0).toNat % 16 * 4
  if byteAt b 9 = 6 ∨ byteAt b 9 = 17 then
    ⟨byteAt b 9, be32 b 16, be32 b 12, be16 b (ihl + 2), be16 b ihl⟩
  else ⟨byteAt b 9, be32 b 16, be32 b 12, be16 b (ihl + 4), 0⟩

/-- The source address field of an IPv6 packet. -/
def sourceOf (b : List UInt8) : Option Ip6 :=
  if h : 40 ≤ b.length then some (clientOf b h) else none

/-- The translator, and the source of the most recent translated request of each flow. -/
structure Traffic where
  st : State
  recent : FlowKey → Option Ip6

/-- One packet in either direction, with what the environment contributes: the sender's
    tailnet address, the outcome of `pbuf_alloc`, `esp_random` and the time. -/
inductive Packet where
  | request (packet : Option Pbuf) (peer : Option Ip4) (heap : Option Memory) (random : Nat)
      (now : Int)
  | reply (packet : Option Pbuf) (heap : Option Memory) (now : Int)

/-- One packet through the translator. `recent` remembers the last client that was translated under
    each key; the code does not have it. -/
def Traffic.next (t : Traffic) : Packet → Traffic
  | .request packet peer heap random now =>
    match translateWgInput t.st packet peer heap random now, packet with
    | ((_, some _), st), some p =>
      ⟨st, Function.update t.recent (requestKey p.bytes (peer.getD 0)) (sourceOf p.bytes)⟩
    | (_, st), _ => ⟨st, t.recent⟩
  | .reply packet heap now => ⟨(translateWgOutput t.st packet heap now).2, t.recent⟩

/-- The machine of all packet sequences. -/
def traffic : Machine Traffic Packet := ⟨fun t a => some (t.next a)⟩

/-- A configured translator whose flow table has just been cleared: no request yet. -/
def Fresh (t : Traffic) : Prop :=
  (∀ f ∈ t.st.flows, f.valid = false) ∧ ∀ key, t.recent key = none

/-! ### The keys of packets and flows -/

/-- Reading a part of the packet reads the packet. -/
theorem byteAt_copyPartial {b : List UInt8} {len off k : Nat}
    (h : k < (copyPartial b len off).length) :
    byteAt (copyPartial b len off) k = byteAt b (off + k) := by
  simp only [copyPartial, List.length_take, List.length_drop, Nat.lt_min] at h
  simp only [byteAt, copyPartial, List.getD_eq_getElem?_getD, List.getElem?_take_of_lt h.1,
    List.getElem?_drop]

theorem be16_copyPartial {b : List UInt8} {len off i : Nat}
    (h : i + 1 < (copyPartial b len off).length) :
    be16 (copyPartial b len off) i = be16 b (off + i) := by
  rw [be16, be16, byteAt_copyPartial (show i < _ by omega), byteAt_copyPartial h, Nat.add_assoc]

/-- The checks before the flow lookup read the reply's flow. -/
theorem key_of_parseReply {b : List UInt8} {r : Reply} (h : parseReply b = some r) :
    r.key = replyKey b := by
  simp only [parseReply, Option.ite_none_left_eq_some, not_or] at h
  obtain ⟨-, -, -, hports, h⟩ := h
  have hlen := not_not.mp hports
  have hport : ∀ i, i + 1 < 8 → be16 (copyPartial b 8 ((byteAt b 0).toNat % 16 * 4)) i
      = be16 b ((byteAt b 0).toNat % 16 * 4 + i) := fun i hi => be16_copyPartial (by omega)
  unfold replyKey
  by_cases hproto : byteAt b 9 = 6 ∨ byteAt b 9 = 17
  · rw [if_pos hproto] at h
    cases h
    simp only [if_pos hproto, hport 2 (by omega), hport 0 (by omega), Nat.add_zero]
  · rw [if_neg hproto, Option.ite_none_left_eq_some] at h
    cases h.2
    simp only [if_neg hproto, hport 4 (by omega)]

/-- The request that `buildV4` translates belongs to the flow it hands to `flow_remember`. The ports
    are read where the protocol has them. -/
theorem key_of_buildV4 {st : State} {b : List UInt8} {r : Request} {peer : Ip4}
    {junk : Memory} {random : Nat} {v4 : V4Packet} (hmatch : matchRequest st b = some r)
    (hlen : (copyPartial b r.payloadLen 40).length = r.payloadLen)
    (h : buildV4 r (copyPartial b r.payloadLen 40) peer junk random = some v4) :
    v4.key = requestKey b peer := by
  -- A matched request is long enough for its protocol and target to be read.
  have hroom := length_of_matchRequest hmatch
  unfold matchRequest at hmatch
  rw [dif_neg (by omega)] at hmatch
  simp only [Option.ite_none_left_eq_some, Option.some.injEq] at hmatch
  obtain ⟨-, -, -, hr⟩ := hmatch
  have hprotocol : r.protocol = byteAt b 6 := by rw [← hr]
  have htarget : r.target = be32 b 36 := by rw [← hr]
  unfold buildV4 at h
  simp only at h
  unfold requestKey
  rw [← hprotocol, ← htarget]
  -- The two kinds of `build_v4`: ports for TCP and UDP, the identifier for an echo.
  by_cases hproto : r.protocol = 6 ∨ r.protocol = 17
  · rw [if_pos hproto, Option.ite_none_left_eq_some, not_or] at h
    obtain ⟨⟨hmin, -⟩, h⟩ := h
    rw [← Option.some.inj h, if_pos hproto, be16_copyPartial (by omega),
      be16_copyPartial (by omega)]
  · rw [if_neg hproto, Option.ite_none_left_eq_some, not_or] at h
    obtain ⟨⟨hmin, -⟩, h⟩ := h
    rw [← Option.some.inj h, if_neg hproto, be16_copyPartial (by omega)]

/-- The client of a matched request is its source address. -/
theorem client_of_matchRequest {st : State} {b : List UInt8} {r : Request}
    (h : matchRequest st b = some r) : sourceOf b = some r.client := by
  have hroom := length_of_matchRequest h
  unfold matchRequest at h
  rw [dif_neg (by omega)] at h
  simp only [Option.ite_none_left_eq_some, Option.some.injEq] at h
  rw [sourceOf, dif_pos hroom, ← h.2.2.2]

/-! ### The table -/

/-- The entry is live at `now` and of the flow. -/
def Flow.Matches (key : FlowKey) (now : Int) (f : Flow) : Bool :=
  f.valid && decide (now - f.lastSeenUs ≤ timeoutUs key.protocol) && decide (f.key = key)

/-- The lookup finds the first live entry of the flow, and refreshes it. Entries that it passes do
    not matter for what it finds. -/
theorem flowLookup_snd (key : FlowKey) (now : Int) (flows : List Flow) :
    (flowLookup key now flows).2 =
      (flows.find? (Flow.Matches key now)).map fun f => { f with lastSeenUs := now } := by
  -- An entry is skipped as invalid, as expired or as another flow's, in this order.
  induction flows with
  | nil => rfl
  | cons f fs ih =>
    unfold flowLookup
    by_cases hvalid : f.valid = true
    · by_cases hage : timeoutUs key.protocol < now - f.lastSeenUs
      -- An expired entry does not match, and is invalidated on the way.
      · have hno : Flow.Matches key now f = false := by
          simp only [Flow.Matches, decide_eq_false (Int.not_le.mpr hage), Bool.and_false,
            Bool.false_and]
        simp only [hvalid, Bool.not_true, Bool.false_eq_true, if_false, hage, if_true, ih,
          List.find?_cons, hno]
      · by_cases hkey : f.key = key
        · have hyes : Flow.Matches key now f = true := by
            simp only [Flow.Matches, hvalid, decide_eq_true (Int.not_lt.mp hage), hkey,
              decide_true, Bool.and_self]
          simp only [hvalid, Bool.not_true, Bool.false_eq_true, if_false, hage, hkey, if_true,
            List.find?_cons, hyes, Option.map_some]
        · have hno : Flow.Matches key now f = false := by
            simp only [Flow.Matches, decide_eq_false hkey, Bool.and_false]
          simp only [hvalid, Bool.not_true, Bool.false_eq_true, if_false, hage, hkey, ih,
            List.find?_cons, hno]
    · have hno : Flow.Matches key now f = false := by
        simp only [Flow.Matches, Bool.eq_false_iff.mpr hvalid, Bool.false_and]
      simp only [Bool.eq_false_iff.mpr hvalid, Bool.not_false, if_true, ih, List.find?_cons, hno]

/-- A lookup only refreshes and invalidates. Every flow behind it was there before, with the same
    key. -/
theorem mem_flowLookup {key : FlowKey} {now : Int} {flows : List Flow} {g : Flow}
    (h : g ∈ (flowLookup key now flows).1) :
    ∃ f ∈ flows, g.key = f.key ∧ (g.valid = true → f.valid = true) ∧
      (g.lastSeenUs = now ∨ g.lastSeenUs = f.lastSeenUs) := by
  induction flows with
  | nil => cases h
  | cons f fs ih =>
    have hrest : g ∈ (flowLookup key now fs).1 →
        ∃ f' ∈ f :: fs, g.key = f'.key ∧ (g.valid = true → f'.valid = true) ∧
          (g.lastSeenUs = now ∨ g.lastSeenUs = f'.lastSeenUs) := by
      intro hg
      obtain ⟨f', hf', hsame⟩ := ih hg
      exact ⟨f', List.mem_cons_of_mem f hf', hsame⟩
    have hhead : f ∈ f :: fs := List.mem_cons_self
    unfold flowLookup at h
    split at h
    · rcases List.mem_cons.mp h with rfl | hg
      · exact ⟨g, hhead, rfl, id, .inr rfl⟩
      · exact hrest hg
    · split at h
      · -- invalidated on the way
        rcases List.mem_cons.mp h with rfl | hg
        · exact ⟨f, hhead, rfl, fun hfalse => absurd hfalse (by simp), .inr rfl⟩
        · exact hrest hg
      · split at h
        · -- the match, after which nothing changes
          rcases List.mem_cons.mp h with rfl | hg
          · exact ⟨f, hhead, rfl, id, .inl rfl⟩
          · exact ⟨g, List.mem_cons_of_mem f hg, rfl, id, .inr rfl⟩
        · rcases List.mem_cons.mp h with rfl | hg
          · exact ⟨g, hhead, rfl, id, .inr rfl⟩
          · exact hrest hg

/-- An entry of the table after `flow_remember` is the new one or was there before. -/
theorem mem_flowRemember {flows : List Flow} {client : Ip6} {key : FlowKey} {now : Int}
    {g : Flow} (h : g ∈ flowRemember flows client key now) :
    g = ⟨true, client, key, now⟩ ∨ g ∈ flows := by
  unfold flowRemember at h
  split at h
  · exact mem_set_of h
  · exact .inr h

/-! ### Runs -/

/-- Every entry of the table is of a flow whose most recent client is known. -/
def Traffic.Inv (t : Traffic) : Prop :=
  ∀ f ∈ t.st.flows, f.valid = true → (t.recent f.key).isSome

/-- A translated request is remembered, and makes its source the most recent client of its
    flow. -/
theorem next_request {t : Traffic} {packet : Option Pbuf} {peer : Option Ip4}
    {heap : Option Memory} {random : Nat} {now : Int} {taken : Bool} {out : Buffer} {st' : State}
    (h : translateWgInput t.st packet peer heap random now = ((taken, some out), st')) :
    ∃ key client, t.next (.request packet peer heap random now) =
        ⟨st', Function.update t.recent key (some client)⟩ ∧
      st'.flows = flowRemember t.st.flows client key now := by
  obtain ⟨p, r, junk, v4, rfl, hmatch, -, -, hlen, hbuild, -, hst⟩ := translateWgInput_eq_some h
  refine ⟨requestKey p.bytes (peer.getD 0), r.client, ?_, ?_⟩
  · simp only [Traffic.next, h, client_of_matchRequest hmatch]
  · rw [hst, key_of_buildV4 hmatch hlen hbuild]

/-- The flow table after a reply is that of its lookup, or unchanged. Later failures leave it as the
    lookup has. -/
theorem flows_translateWgOutput (st : State) (packet : Option Pbuf) (heap : Option Memory)
    (now : Int) : (translateWgOutput st packet heap now).2.flows = st.flows ∨
      ∃ key, (translateWgOutput st packet heap now).2.flows = (flowLookup key now st.flows).1 := by
  -- Before the lookup the state is handed back as it came.
  unfold translateWgOutput
  split
  · exact .inl rfl
  · split
    · exact .inl rfl
    · split
      · exact .inl rfl
      -- Behind it the entries are those of the lookup, whatever becomes of the packet.
      · rename_i r hparse
        right
        refine ⟨r.key, ?_⟩
        split
        · rename_i flows hlookup
          rw [hlookup]
        · rename_i flows flow hlookup
          rw [hlookup]
          split
          · rfl
          · simp only
            split <;> rfl

/-- **Step lemma.** Every packet keeps the invariant, whether it is translated or not. -/
theorem next_inv {t : Traffic} (a : Packet) (h : t.Inv) : (t.next a).Inv := by
  cases a with
  | request packet peer heap random now =>
    rcases hres : translateWgInput t.st packet peer heap random now with ⟨⟨taken, _ | out⟩, st'⟩
    · have hnext : t.next (.request packet peer heap random now) = ⟨st', t.recent⟩ := by
        simp only [Traffic.next, hres]
      intro f hf hvalid
      rw [hnext] at hf ⊢
      exact h f (flows_translateWgInput_none hres ▸ hf) hvalid
    · obtain ⟨key, client, hnext, hflows⟩ := next_request hres
      intro f hf hvalid
      rw [hnext] at hf ⊢
      show (Function.update t.recent key (some client) f.key).isSome
      -- the flow of the request is known now, the others were before
      by_cases hkey : f.key = key
      · rw [hkey, Function.update_self]
        rfl
      · rw [Function.update_of_ne hkey]
        rcases mem_flowRemember (hflows ▸ hf : f ∈ flowRemember _ client key now) with hnew | hold
        · exact absurd (congrArg Flow.key hnew) hkey
        · exact h f hold hvalid
  | reply packet heap now =>
    intro f hf hvalid
    show (t.recent f.key).isSome
    rcases flows_translateWgOutput t.st packet heap now with hsame | ⟨key, hlookup⟩
    · exact h f (hsame ▸ hf : f ∈ t.st.flows) hvalid
    · obtain ⟨g, hg, hkey, hgvalid, -⟩ :=
        mem_flowLookup (hlookup ▸ hf : f ∈ (flowLookup key now t.st.flows).1)
      rw [hkey]
      exact h g hg (hgvalid hvalid)

/-- **Run lemma.** Every reachable table satisfies the invariant. -/
theorem traffic_inv {s t : Traffic} {packets : List Packet} (hfresh : Fresh s)
    (hrun : traffic.run s packets = some t) : t.Inv := by
  apply Machine.invariant (I := Traffic.Inv) ?_ hrun
  · intro f hf hvalid
    rw [hfresh.1 f hf] at hvalid
    cases hvalid
  · intro u a u' hstep hu
    cases hstep
    exact next_inv a hu

/-- The L4 part is written behind the IPv6 header. -/
theorem load_replyL4 (r : Reply) (b : Buffer) {off n : Nat} (h : off + n ≤ 40) :
    (replyL4 r b).mem.load off n = b.mem.load off n := by
  unfold replyL4
  split
  · split <;> simp only [Buffer.mem_store] <;>
      rw [Memory.load_store_disjoint _ (.inl (by omega)),
        Memory.load_store_disjoint _ (.inl (by omega))]
  · simp only [Buffer.mem_store]
    rw [Memory.load_store_disjoint _ (.inl (by omega)),
      Memory.load_store_disjoint _ (.inl (by omega)),
      Memory.load_store_disjoint _ (.inl (by omega))]

/-- The destination field is that of the client. -/
theorem load_replyBase_client (siteId : Nat) (r : Reply) (client : Ip6) (payload : List UInt8)
    (b : Buffer) : (replyBase siteId r client payload b).mem.load 24 16 = client.bytes := by
  show Memory.load (Memory.store _ 24 client.bytes) 24 16 = client.bytes
  rw [← client.length_eq]
  exact Memory.load_store_self _ 24 client.bytes

/-- A translated reply carries the address of the client of the entry it matched. -/
theorem destination_of_reply {st st' : State} {p : Pbuf} {heap : Option Memory} {now : Int}
    {out : Buffer} (h : translateWgOutput st (some p) heap now = (some out, st')) :
    ∃ flow, st.flows.find? (Flow.Matches (replyKey p.bytes) now) = some flow ∧
      out.mem.load 24 16 = flow.clientV6.bytes := by
  obtain ⟨q, r, flows, flow, junk, hq, hparse, hlookup, -, -, rfl, -⟩ :=
    translateWgOutput_eq_some h
  obtain rfl := Option.some.inj hq
  have hfound := flowLookup_snd r.key now st.flows
  rw [hlookup, key_of_parseReply hparse, eq_comm, Option.map_eq_some_iff] at hfound
  obtain ⟨g, hg, rfl⟩ := hfound
  refine ⟨g, hg, ?_⟩
  rw [load_replyL4 _ _ (Nat.le_refl 40)]
  exact load_replyBase_client _ _ _ _ _

/-- No other client stands in front: every live entry of the flow with another client comes
    after a live entry of the flow with `client`. -/
def NewestFirst (flows : List Flow) (key : FlowKey) (now : Int) (client : Ip6) : Prop :=
  ∀ (j : Nat) (g : Flow), flows[j]? = some g → g.Matches key now = true →
    ¬ g.clientV6 = client →
      ∃ (i : Nat) (f : Flow), i < j ∧ flows[i]? = some f ∧ f.Matches key now = true ∧
        f.clientV6 = client

/-- **Addressing of replies.** In every run, a translated reply is addressed to the client of
    the most recent request of its flow exactly when no other client's live entry stands in
    front of that client's. -/
theorem reply_to_recent_iff {s t : Traffic} {packets : List Packet} {p : Pbuf}
    {heap : Option Memory} {now : Int} {out : Buffer} {st' : State} (hfresh : Fresh s)
    (hrun : traffic.run s packets = some t)
    (h : translateWgOutput t.st (some p) heap now = (some out, st')) :
    ∃ client, t.recent (replyKey p.bytes) = some client ∧
      (out.mem.load 24 16 = client.bytes ↔
        NewestFirst t.st.flows (replyKey p.bytes) now client) := by
  obtain ⟨flow, hfound, hdest⟩ := destination_of_reply h
  have hmatches := List.find?_some hfound
  simp only [Flow.Matches, Bool.and_eq_true, decide_eq_true_eq] at hmatches
  have hknown := traffic_inv hfresh hrun flow (List.mem_of_find?_eq_some hfound) hmatches.1.1
  rw [hmatches.2] at hknown
  obtain ⟨client, hclient⟩ := Option.isSome_iff_exists.mp hknown
  refine ⟨client, hclient, ?_⟩
  have howner := find?_owner_iff (q := fun f : Flow => f.clientV6 = client) hfound
  rw [hdest, NewestFirst, ← howner]
  exact ⟨fun hbytes => Ip6.ext hbytes, fun heq => heq ▸ rfl⟩

/-- A site for 192.168.4.0/24 with an empty flow table, as `fourvia6_init` leaves it. -/
def freshSite : Traffic :=
  { st :=
      { enabled := true
        network := 0xC0A80400#32
        prefixLen := 24
        siteId := 1
        flows := List.replicate flowCount ⟨false, Ip6.zero, ⟨0, 0#32, 0#32, 0, 0⟩, 0⟩
        translated := 0
        dropped := 0 }
    recent := fun _ => none }

theorem freshSite_fresh : Fresh freshSite := by
  refine ⟨?_, fun _ => rfl⟩
  intro f hf
  rw [List.eq_of_mem_replicate hf]

/-- The client `fd7a:115c:a1e0::<n>`. -/
def client (n : UInt8) : Ip6 :=
  ⟨[0xfd, 0x7a, 0x11, 0x5c, 0xa1, 0xe0, 0, 0, 0, 0, 0, 0, 0, 0, 0, n], rfl⟩

/-- A UDP request of a client from port 12345 to port 80 of 192.168.4.50, relayed by the
    peer 100.64.0.1. -/
def requestOf (n : UInt8) (now : Int) : Packet :=
  .request (some ⟨[0x60, 0, 0, 0, 0, 8, 17, 64] ++ (client n).bytes ++ viaPrefix ++
    [0, 0, 0, 1, 192, 168, 4, 50, 48, 57, 0, 80, 0, 8, 0, 0], by simp [client, viaPrefix]⟩)
    (some 0x64400001#32) (some fun _ => 0) 0 now

/-- One client's request is answered to that client. -/
theorem reply_to_only_client :
    ∃ t out st', traffic.run freshSite [requestOf 1 0] = some t ∧
      translateWgOutput t.st (some (eightByteReply 17)) (some fun _ => 0) 5 = (some out, st') ∧
        out.mem.load 24 16 = (client 1).bytes := by
  have hsome : (translateWgOutput (freshSite.next (requestOf 1 0)).st (some (eightByteReply 17))
    (some fun _ => 0) 5).1.isSome := by decide
  obtain ⟨out, st', h⟩ := exists_of_isSome hsome
  have hrun : traffic.run freshSite [requestOf 1 0] = some (freshSite.next (requestOf 1 0)) := rfl
  refine ⟨_, out, st', hrun, h, ?_⟩
  obtain ⟨c, hrecent, hiff⟩ := reply_to_recent_iff freshSite_fresh hrun h
  have hc : c = client 1 := by
    rw [← Option.some.injEq, ← hrecent]
    decide
  rw [← hc]
  apply hiff.mpr
  -- the only entry of the table is the client's own
  have honly : ∀ f ∈ (freshSite.next (requestOf 1 0)).st.flows,
      f.Matches (replyKey (eightByteReply 17).bytes) 5 = true → f.clientV6 = client 1 := by decide
  intro j g hg hmatches hother
  exact absurd (hc ▸ honly g (List.mem_of_getElem? hg) hmatches) hother

/-- Two clients behind one peer use the same ports: the second client's entry stands in a
    lower slot, and gets the answer to the first client's newer request. -/
theorem reply_to_stale_client :
    ∃ t out st', traffic.run freshSite [requestOf 1 0, requestOf 2 1, requestOf 1 2] = some t ∧
      translateWgOutput t.st (some (eightByteReply 17)) (some fun _ => 0) 5 = (some out, st') ∧
        t.recent (replyKey (eightByteReply 17).bytes) = some (client 1) ∧
          out.mem.load 24 16 = (client 2).bytes ∧ out.mem.load 24 16 ≠ (client 1).bytes := by
  have hsome : (translateWgOutput (((freshSite.next (requestOf 1 0)).next (requestOf 2 1)).next
    (requestOf 1 2)).st (some (eightByteReply 17)) (some fun _ => 0) 5).1.isSome := by decide
  obtain ⟨out, st', h⟩ := exists_of_isSome hsome
  refine ⟨_, out, st', rfl, h, by decide, ?_⟩
  obtain ⟨flow, hfound, hdest⟩ := destination_of_reply h
  have hflow : ((((freshSite.next (requestOf 1 0)).next (requestOf 2 1)).next
      (requestOf 1 2)).st.flows.find? (Flow.Matches (replyKey (eightByteReply 17).bytes) 5)).map
        Flow.clientV6 = some (client 2) := by decide
  rw [hfound, Option.map_some, Option.some.injEq] at hflow
  rw [hdest, hflow]
  exact ⟨rfl, by decide⟩

end SubnetRouter.FourVia6
