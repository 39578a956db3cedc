import SubnetRouter.Dns.Relay

namespace SubnetRouter.Dns

open Lib

/-!
# Soundness of the relay's answers

A worker takes the first datagram it reads for the answer to the query it has just sent.  That
is right as long as nothing older waits in its socket, which a timeout or a duplicate leaves
behind.

* `Relay.OwnReply` — the condition on a step.
* `Relay.Inv` — work items come from clients; what a waiting worker reads next, what it relays
  and what is cached are answers to the right query.
* `relay_sound` — runs whose steps meet the condition.
* `late_reply_relayed` — a run with a late reply.
-/

/-- The upstream answers each query with that query's transaction id and question. -/
structure UpstreamAnswers (answers : List UInt8 → List UInt8 → Bool) : Prop where
  txid : ∀ q r, answers q r = true → r.take 2 = q.take 2
  question : ∀ q r, answers q r = true → 0 < keyLen q →
    question r (keyLen q) = question q (keyLen q)

/-- The datagram that `recvfrom` returns next. -/
def Worker.next (wk : Worker) : Option (List UInt8) := wk.up.bind fun sock => sock.received.head?

/-- The query that a worker waits for the answer to. -/
def Worker.awaited (wk : Worker) : Option Work :=
  match wk.phase with
  | .receiving w => some w
  | _ => none

/-- The query that a worker is about to send. -/
def Worker.toSend (wk : Worker) : Option Work :=
  match wk.phase with
  | .sending w _ => some w
  | _ => none

/-- The datagram is an answer to the query, and fits the buffer. -/
def Replies (answers : List UInt8 → List UInt8 → Bool) (w : Work) (d : List UInt8) : Prop :=
  answers w.q d = true ∧ d.length ≤ dnsRelayBufSize

namespace Relay

/-- Queries fit the buffer; when a worker sends, nothing but an answer to the query is next in
    its socket; and what is delivered to a waiting worker with an empty socket answers its
    query. -/
def OwnReply (answers : List UInt8 → List UInt8 → Bool) (s : Relay) : Action → Prop
  | .listen _ datagram _ _ => datagram.length ≤ dnsRelayBufSize
  | .deliver i datagram =>
    (s.workers i).next = none → ∀ w ∈ (s.workers i).awaited, Replies answers w datagram
  | .worker i a =>
    a = .send .sent → ∀ w ∈ (s.workers i).toSend, ∀ d ∈ (s.workers i).next, Replies answers w d

instance (answers : List UInt8 → List UInt8 → Bool) (w : Work) (d : List UInt8) :
    Decidable (Replies answers w d) :=
  inferInstanceAs (Decidable (_ ∧ _))

instance (answers : List UInt8 → List UInt8 → Bool) (s : Relay) (a : Action) :
    Decidable (OwnReply answers s a) :=
  match a with
  | .listen _ _ _ _ => inferInstanceAs (Decidable (_ ≤ _))
  | .deliver _ _ => inferInstanceAs (Decidable (_ → _))
  | .worker _ _ => inferInstanceAs (Decidable (_ → _))

/-! ### The invariant -/

/-- What holds of a worker in its phase: its query was asked by the client, and from the reception
    on what it has read answers this query. -/
def PhaseOk (answers : List UInt8 → List UInt8 → Bool) (asked : List (SockAddr × List UInt8))
    (wk : Worker) : Prop :=
  match wk.phase with
  | .idle => True
  | .opening w => (w.client, w.q) ∈ asked
  | .picking w => (w.client, w.q) ∈ asked
  | .sending w _ => (w.client, w.q) ∈ asked
  | .receiving w => (w.client, w.q) ∈ asked ∧ ∀ d ∈ wk.next, Replies answers w d
  | .relaying w rlen => (w.client, w.q) ∈ asked ∧ answers w.q (wk.rbuf.take rlen) = true
  | .caching w rlen => (w.client, w.q) ∈ asked ∧ answers w.q (wk.rbuf.take rlen) = true

/-- A cache entry is the answer to a query with its key as question. -/
def EntryOk (answers : List UInt8 → List UInt8 → Bool) (e : CacheEntry) : Prop :=
  ∃ q, 0 < keyLen q ∧ e.key = question q (keyLen q) ∧ answers q e.resp = true

/-- A cache hit is the response of such an entry under the client's transaction id. -/
def HitOk (answers : List UInt8 → List UInt8 → Bool) (h : Response) : Prop :=
  0 < keyLen h.query ∧ ∃ e : CacheEntry, EntryOk answers e ∧
    e.key = question h.query (keyLen h.query) ∧
    h.datagram = (byteAt h.query 0 :: byteAt h.query 1 :: e.resp.drop 2).take e.resp.length

structure Inv (answers : List UInt8 → List UInt8 → Bool) (s : Relay) : Prop where
  queue : ∀ w ∈ s.queue, (w.client, w.q) ∈ s.asked
  workers : ∀ i, PhaseOk answers s.asked (s.workers i)
  cache : ∀ e, s.cache.Live e → EntryOk answers e
  relayed : ∀ r ∈ s.relayed, (r.client, r.query) ∈ s.asked ∧ answers r.query r.datagram = true
  hits : ∀ h ∈ s.hits, (h.client, h.query) ∈ s.asked ∧ HitOk answers h

variable {answers : List UInt8 → List UInt8 → Bool} {s s' : Relay} {i : Nat} {w : Work}
  {wk : Worker} {x : SockAddr × List UInt8}

/-- What was asked stays asked. -/
theorem phaseOk_cons (h : PhaseOk answers s.asked wk) : PhaseOk answers (x :: s.asked) wk := by
  unfold PhaseOk at h ⊢
  split at h
  · trivial
  · exact List.mem_cons_of_mem x h
  · exact List.mem_cons_of_mem x h
  · exact List.mem_cons_of_mem x h
  · exact ⟨List.mem_cons_of_mem x h.1, h.2⟩
  · exact ⟨List.mem_cons_of_mem x h.1, h.2⟩
  · exact ⟨List.mem_cons_of_mem x h.1, h.2⟩

/-- Only a waiting worker depends on its socket. -/
theorem phaseOk_up {asked : List (SockAddr × List UInt8)} {up : Option UpSocket}
    (h : PhaseOk answers asked wk)
    (hnext : ∀ w ∈ wk.awaited, (∀ d ∈ wk.next, Replies answers w d) →
      ∀ d ∈ ({ wk with up := up } : Worker).next, Replies answers w d) :
    PhaseOk answers asked { wk with up := up } := by
  obtain ⟨up', rbuf, phase⟩ := wk
  cases phase with
  | receiving w => exact ⟨h.1, hnext w rfl h.2⟩
  | _ => exact h

/-- A client asks. -/
theorem inv_ask (h : s.Inv answers) (x : SockAddr × List UInt8) :
    ({ s with asked := x :: s.asked } : Relay).Inv answers where
  queue w hw := List.mem_cons_of_mem x (h.queue w hw)
  workers j := phaseOk_cons (h.workers j)
  cache := h.cache
  relayed r hr := ⟨List.mem_cons_of_mem x (h.relayed r hr).1, (h.relayed r hr).2⟩
  hits r hr := ⟨List.mem_cons_of_mem x (h.hits r hr).1, (h.hits r hr).2⟩

/-- A worker goes on. -/
theorem inv_setWorker (h : s.Inv answers) (hwk : PhaseOk answers s.asked wk) :
    (s.setWorker i wk).Inv answers := by
  refine ⟨h.queue, ?_, h.cache, h.relayed, h.hits⟩
  show ∀ j, PhaseOk answers s.asked (Function.update s.workers i wk j)
  rw [Function.forall_update_iff s.workers fun _ wk => PhaseOk answers s.asked wk]
  exact ⟨hwk, fun j _ => h.workers j⟩

theorem inv_rest (h : s.Inv answers) : (s.rest i).Inv answers := inv_setWorker h trivial

theorem inv_closeAndRest (h : s.Inv answers) : (s.closeAndRest i).Inv answers :=
  inv_setWorker h trivial

/-- The listener takes a query that fits. It is answered from the cache or put into the queue, and
    otherwise dropped. -/
theorem inv_listen (h : s.Inv answers) (client : SockAddr) {datagram : List UInt8} (now : Nat)
    (allocated : Bool) (hfits : datagram.length ≤ dnsRelayBufSize) :
    (s.listen client datagram now allocated).Inv answers := by
  have hask := inv_ask h (client, datagram)
  unfold listen
  rw [List.take_of_length_le hfits]
  dsimp only
  split
  · exact h
  · split
    -- a hit
    · rename_i out hhit
      rw [Option.ite_none_right_eq_some] at hhit
      obtain ⟨hkl, hget⟩ := hhit
      obtain ⟨e, hlive, hkey, hout⟩ := cacheGet_eq_some hget
      refine ⟨hask.queue, hask.workers, hask.cache, hask.relayed, ?_⟩
      intro r hr
      rcases List.mem_cons.mp hr with rfl | hold
      · exact ⟨List.mem_cons_self, hkl, e, h.cache e hlive, hkey, hout⟩
      · exact hask.hits r hold
    · split
      · exact hask
      · split
        -- a new work item
        · refine ⟨?_, hask.workers, hask.cache, hask.relayed, hask.hits⟩
          intro w hw
          rcases List.mem_append.mp hw with hold | hnew
          · exact hask.queue w hold
          · rw [List.mem_singleton.mp hnew]
            exact List.mem_cons_self
        · exact hask

/-- The network delivers. -/
theorem inv_deliver (h : s.Inv answers) {datagram : List UInt8}
    (hown : OwnReply answers s (.deliver i datagram))
    (hstep : s.deliver answers i datagram = some s') : s'.Inv answers := by
  unfold deliver at hstep
  split at hstep
  · cases hstep
  · rename_i sock hsock
    rw [Option.ite_none_right_eq_some] at hstep
    obtain ⟨-, hstep⟩ := hstep
    cases hstep
    apply inv_setWorker h
    apply phaseOk_up (h.workers i)
    -- a waiting worker reads the datagram next if its socket was empty
    intro w hw hwait d hd
    have hnext : (s.workers i).next = sock.received.head? := by rw [Worker.next, hsock]; rfl
    rcases hreceived : sock.received with _ | ⟨first, later⟩
    · rw [Worker.next, hreceived] at hd
      cases hd
      exact hown (by rw [hnext, hreceived]; rfl) w hw
    · rw [Worker.next, hreceived] at hd
      apply hwait d
      rw [hnext, hreceived]
      exact hd

/-- A worker sends, or fails to. Here the condition on the run comes in: nothing but an answer to
    its query is next in its socket. -/
theorem inv_send (h : s.Inv answers) {attempt : Nat} {sock : UpSocket} {r : SendResult}
    (hphase : (s.workers i).phase = .sending w attempt)
    (hown : OwnReply answers s (.worker i (.send r))) :
    (s.send i w attempt sock r).Inv answers := by
  have hasked := h.workers i
  simp only [PhaseOk, hphase] at hasked
  -- The three outcomes of `sendto`: sent, busy with a retry, and failed.
  cases r with
  | sent =>
    have hinv : ({ s with sent := (sock.port, w.q) :: s.sent } : Relay).Inv answers :=
      ⟨h.queue, h.workers, h.cache, h.relayed, h.hits⟩
    -- It is this query that `OwnReply` speaks about.
    have hsend : w ∈ (s.workers i).toSend := by
      rw [Worker.toSend, hphase]
      rfl
    exact inv_setWorker hinv ⟨hasked, hown rfl w hsend⟩
  | busy =>
    unfold send
    dsimp only
    split
    · exact inv_setWorker h hasked
    -- The retries are used up, and the socket is closed.
    · exact inv_closeAndRest h
  | failed => exact inv_closeAndRest h

/-- A worker reads what comes next. That the next datagram answers its own query, and fits, is what
    the invariant says of a worker that waits. -/
theorem inv_recv (h : s.Inv answers) {sock : UpSocket} {r : RecvResult}
    (hphase : (s.workers i).phase = .receiving w) (hup : (s.workers i).up = some sock)
    (hstep : s.recv i w sock r = some s') : s'.Inv answers := by
  have hwait := h.workers i
  simp only [PhaseOk, hphase] at hwait
  cases r with
  | timeout =>
    rw [recv, Option.ite_none_right_eq_some] at hstep
    obtain ⟨-, hstep⟩ := hstep
    cases hstep
    exact inv_rest h
  | failed =>
    cases hstep
    exact inv_closeAndRest h
  | datagram closes =>
    unfold recv at hstep
    dsimp only at hstep
    split at hstep
    · cases hstep
    · rename_i d later hreceived
      have hnext : d ∈ (s.workers i).next := by
        rw [Worker.next, hup, Option.bind_some, hreceived]
        rfl
      obtain ⟨hanswers, hfits⟩ := hwait.2 d hnext
      -- the datagram fits the buffer: nothing of it is cut
      rw [List.take_of_length_le hfits] at hstep
      split at hstep
      · split at hstep
        · cases hstep
          exact inv_closeAndRest h
        · cases hstep
          exact inv_setWorker h trivial
      · cases hstep
        refine inv_setWorker h ⟨hwait.1, ?_⟩
        show answers w.q ((d ++ _).take d.length) = true
        rw [List.take_left']
        · exact hanswers
        · rfl

/-- A worker relays. -/
theorem inv_relay (h : s.Inv answers) {rlen : Nat} (listening : Bool)
    (hphase : (s.workers i).phase = .relaying w rlen) :
    (s.relay i w rlen listening).Inv answers := by
  have hanswer := h.workers i
  simp only [PhaseOk, hphase] at hanswer
  have hinv : (s.goto i (.caching w rlen)).Inv answers := inv_setWorker h hanswer
  unfold relay
  dsimp only
  split
  · refine ⟨hinv.queue, hinv.workers, hinv.cache, ?_, hinv.hits⟩
    intro r hr
    rcases List.mem_cons.mp hr with rfl | hold
    · have hsame : ((s.goto i (.caching w rlen)).workers i).rbuf = (s.workers i).rbuf := by
        simp [goto, setWorker]
      rw [hsame]
      exact hanswer
    · exact hinv.relayed r hold
  · exact hinv

/-- A worker caches. -/
theorem inv_cacheAnswer (h : s.Inv answers) {rlen : Nat} (now : Nat)
    (hphase : (s.workers i).phase = .caching w rlen) :
    (s.cacheAnswer i w rlen now).Inv answers := by
  have hanswer := h.workers i
  simp only [PhaseOk, hphase] at hanswer
  have hinv : (s.rest i).Inv answers := inv_rest h
  unfold cacheAnswer
  dsimp only
  split
  · rename_i hcacheable
    refine ⟨hinv.queue, hinv.workers, ?_, hinv.relayed, hinv.hits⟩
    intro e he
    rcases live_cachePut he with hold | ⟨hkey, hresp⟩
    · exact hinv.cache e hold
    · exact ⟨w.q, hcacheable.1, hkey, hresp ▸ hanswer.2⟩
  · exact hinv

/-- A step of a worker. Each phase has its lemma, and the others only go on to the next phase. -/
theorem inv_workerStep (h : s.Inv answers) {a : WorkerAction}
    (hown : OwnReply answers s (.worker i a)) (hstep : s.workerStep i a = some s') :
    s'.Inv answers := by
  have hphase := h.workers i
  unfold workerStep at hstep
  split at hstep
  -- it takes a work item
  · split at hstep
    · cases hstep
    · rename_i w queue hqueue
      cases hstep
      have hw := h.queue w (by rw [hqueue]; exact List.mem_cons_self)
      have hinv : ({ s with queue := queue } : Relay).Inv answers := by
        refine ⟨?_, h.workers, h.cache, h.relayed, h.hits⟩
        intro w' hw'
        exact h.queue w' (by rw [hqueue]; exact List.mem_cons_of_mem w hw')
      exact inv_setWorker hinv hw
  -- it opens its socket
  · rename_i w port heq
    simp only [PhaseOk, heq] at hphase
    split at hstep
    · cases hstep
      exact inv_setWorker h hphase
    · cases hstep
      exact inv_rest h
    · cases hstep
      exact inv_setWorker h hphase
  -- it picks the upstream
  · rename_i w upstream heq
    simp only [PhaseOk, heq] at hphase
    split at hstep
    · cases hstep
      exact inv_rest h
    · cases hstep
      exact inv_setWorker h hphase
  · rename_i w attempt r heq
    split at hstep
    · cases hstep
    · cases hstep
      exact inv_send h heq hown
  · rename_i w r heq
    split at hstep
    · cases hstep
    · rename_i sock hsock
      exact inv_recv h heq hsock hstep
  · rename_i w rlen listening heq
    cases hstep
    exact inv_relay h listening heq
  · rename_i w rlen now heq
    cases hstep
    exact inv_cacheAnswer h now heq
  · cases hstep

/-- **Step lemma.** A step that meets the condition keeps the invariant. -/
theorem inv_step (h : s.Inv answers) {a : Action} (hown : OwnReply answers s a)
    (hstep : s.step answers a = some s') : s'.Inv answers := by
  cases a with
  | listen client datagram now allocated =>
    cases hstep
    exact inv_listen h client now allocated hown
  | deliver i datagram => exact inv_deliver h hown hstep
  | worker i a =>
    rw [step, Option.ite_none_right_eq_some] at hstep
    exact inv_workerStep h hown hstep.2

/-- A relay that has just started. -/
theorem inv_started (h : s.Started) : s.Inv answers where
  -- Nothing is queued and no worker has a query, so nothing is promised yet.
  queue w hw := by
    rw [h.queue] at hw
    cases hw
  workers i := by
    rw [PhaseOk, (h.workers i).2]
    trivial
  cache e he := by
    -- The cache is empty, or was not allocated.
    rcases h.cache with hcache | hcache
    · rw [hcache] at he
      exact absurd he not_live_empty
    · rw [hcache] at he
      obtain ⟨entries, hentries, -⟩ := he
      cases hentries
  relayed r hr := by
    rw [h.relayed] at hr
    cases hr
  hits r hr := by
    rw [h.hits] at hr
    cases hr

/-- A cache hit carries the client's transaction id and question, and is otherwise the answer
    to a query with that question. -/
theorem hitOk_spec (hup : UpstreamAnswers answers) {r : Response} (h : HitOk answers r) :
    r.datagram.take 2 = r.query.take 2 ∧
      question r.datagram (keyLen r.query) = question r.query (keyLen r.query) ∧
      ∃ q resp, 0 < keyLen q ∧ question q (keyLen q) = question r.query (keyLen r.query) ∧
        answers q resp = true ∧ r.datagram.drop 2 = resp.drop 2 := by
  obtain ⟨hkl, e, ⟨q, hq, hkey, hanswer⟩, hsame, hdatagram⟩ := h
  have hquery := (keyLen_le hkl).1
  have hqlen := (keyLen_le hq).1
  -- the response has at least its transaction id
  have htxid := hup.txid q e.resp hanswer
  have hresp : 2 ≤ e.resp.length := by
    have hlen := congrArg List.length htxid
    rw [List.length_take, List.length_take] at hlen
    omega
  have hwhole : r.datagram = byteAt r.query 0 :: byteAt r.query 1 :: e.resp.drop 2 := by
    rw [hdatagram, List.take_of_length_le]
    simp only [List.length_cons, List.length_drop]
    omega
  have hkeys : question q (keyLen q) = question r.query (keyLen r.query) := hkey ▸ hsame
  have hlens : keyLen q = keyLen r.query := by
    rw [← question_length hq, hkeys, question_length hkl]
  refine ⟨?_, ?_, q, e.resp, hq, hkeys, hanswer, ?_⟩
  · rw [hwhole, take_two (show 2 ≤ r.query.length by omega)]
    rfl
  · calc question r.datagram (keyLen r.query)
        = question e.resp (keyLen q) := by
          rw [hwhole, hlens, question, question, List.drop_succ_cons, List.drop_succ_cons,
            List.drop_drop]
      _ = question q (keyLen q) := hup.question q e.resp hanswer hq
      _ = question r.query (keyLen r.query) := hkeys
  · rw [hwhole]
    rfl

end Relay

/-- **Soundness of the relay.** In every run in which queries fit the buffer and the first
    datagram that a waiting worker reads answers its query: what a worker relays is the answer
    to this client's query, with its transaction id; a cache entry is the answer to a query
    with its key as question; and a cache hit has the client's transaction id and question, and
    is the answer to a query with that question. -/
theorem relay_sound {answers : List UInt8 → List UInt8 → Bool} (hup : UpstreamAnswers answers)
    {s t : Relay} {actions : List Action} (hstart : s.Started)
    (hmeets : (Relay.machine answers).Meets (Relay.OwnReply answers) s actions)
    (hrun : (Relay.machine answers).run s actions = some t) :
    (∀ r ∈ t.relayed, (r.client, r.query) ∈ t.asked ∧ answers r.query r.datagram = true ∧
      r.datagram.take 2 = r.query.take 2) ∧
    (∀ e, t.cache.Live e → ∃ q, 0 < keyLen q ∧ e.key = question q (keyLen q) ∧
      answers q e.resp = true) ∧
    (∀ h ∈ t.hits, (h.client, h.query) ∈ t.asked ∧ h.datagram.take 2 = h.query.take 2 ∧
      question h.datagram (keyLen h.query) = question h.query (keyLen h.query) ∧
      ∃ q resp, 0 < keyLen q ∧ question q (keyLen q) = question h.query (keyLen h.query) ∧
        answers q resp = true ∧ h.datagram.drop 2 = resp.drop 2) := by
  -- All three parts are fields of the invariant, which holds in every state of the run.
  have hinv : t.Inv answers := by
    apply Machine.invariant_of_meets ?_ hmeets hrun (Relay.inv_started hstart)
    intro u a u' hown hstep hu
    exact Relay.inv_step hu hown hstep
  refine ⟨?_, hinv.cache, ?_⟩
  · intro r hr
    obtain ⟨hasked, hanswer⟩ := hinv.relayed r hr
    exact ⟨hasked, hanswer, hup.txid r.query r.datagram hanswer⟩
  · intro h hh
    obtain ⟨hasked, hok⟩ := hinv.hits h hh
    exact ⟨hasked, Relay.hitOk_spec hup hok⟩

/-! ### Two runs -/

/-- An upstream that sends each query back with the response bit set. -/
def echo (q r : List UInt8) : Bool := r == q.set 2 (byteAt q 2 ||| 0x80)

theorem upstreamAnswers_echo : UpstreamAnswers echo := by
  refine ⟨?_, ?_⟩
  · intro q r h
    rw [echo, beq_iff_eq] at h
    rw [h, List.take_set_of_le (by decide)]
  · intro q r h _
    rw [echo, beq_iff_eq] at h
    rw [h, question, question, List.drop_set_of_lt (by decide)]

/-- A question about the root: transaction id and type. -/
def rootQuery (txid qtype : UInt8) : List UInt8 :=
  [0, txid, 1, 0, 0, 1, 0, 0, 0, 0, 0, 0] ++ [0, 0, qtype, 0, 1]

/-- The echo of such a question. -/
def rootReply (txid qtype : UInt8) : List UInt8 :=
  [0, txid, 129, 0, 0, 1, 0, 0, 0, 0, 0, 0] ++ [0, 0, qtype, 0, 1]

/-- Two clients of the access point. -/
def clientA : SockAddr := ⟨0xC0A80402#32, 40000⟩

def clientB : SockAddr := ⟨0xC0A80403#32, 40001⟩

/-- The responses of the workers and those from the cache. -/
def Relay.responses (s : Relay) : List Response × List Response := (s.relayed, s.hits)

/-- A relay that has just started. -/
def startedRelay : Relay := ⟨Cache.empty, [], fun _ => ⟨none, [], .idle⟩, [], [], [], []⟩

theorem startedRelay_started : startedRelay.Started :=
  ⟨.inl rfl, rfl, fun _ => ⟨rfl, rfl⟩, rfl, rfl, rfl, rfl⟩

/-- Worker 0 takes a query and sends it. -/
def forwardActions : List Action :=
  [.worker 0 .take, .worker 0 (.openSocket (some 50000)),
    .worker 0 (.pickUpstream 0x08080808#32), .worker 0 (.send .sent)]

/-- It reads a datagram, relays and caches it. -/
def replyActions : List Action :=
  [.worker 0 (.recv (.datagram false)), .worker 0 (.relay true), .worker 0 (.cacheAnswer 5)]

/-- Client A's query is answered in time, and client B asks the same. -/
def promptActions : List Action :=
  .listen clientA (rootQuery 1 1) 1 true :: forwardActions ++
    .deliver 0 (rootReply 1 1) :: replyActions ++ [.listen clientB (rootQuery 2 1) 9 true]

/-- Client A gets the answer, and client B gets it from the cache. -/
theorem prompt_reply_relayed :
    ∃ t, (Relay.machine echo).run startedRelay promptActions = some t ∧
      t.relayed = [⟨clientA, rootQuery 1 1, rootReply 1 1⟩] ∧
      t.hits = [⟨clientB, rootQuery 2 1, rootReply 2 1⟩] ∧
      ∀ r ∈ t.relayed, (r.client, r.query) ∈ t.asked ∧ echo r.query r.datagram = true ∧
        r.datagram.take 2 = r.query.take 2 := by
  have hmeets : (Relay.machine echo).Meets (Relay.OwnReply echo) startedRelay promptActions := by
    decide +kernel
  have hsent : ((Relay.machine echo).run startedRelay promptActions).map Relay.responses =
      some ([⟨clientA, rootQuery 1 1, rootReply 1 1⟩],
        [⟨clientB, rootQuery 2 1, rootReply 2 1⟩]) := by
    decide +kernel
  obtain ⟨t, hrun, hresponses⟩ := Option.map_eq_some_iff.mp hsent
  obtain ⟨hrelayed, hhits⟩ := Prod.mk.inj hresponses
  have hsound := relay_sound upstreamAnswers_echo startedRelay_started hmeets hrun
  exact ⟨t, hrun, hrelayed, hhits, hsound.1⟩

/-- Client A's query times out, client B asks something else, and only then the answer to
    client A's query arrives; later client A asks what client B asked. -/
def lateActions : List Action :=
  .listen clientA (rootQuery 1 1) 1 true :: forwardActions ++ .worker 0 (.recv .timeout) ::
    .listen clientB (rootQuery 2 28) 4000000 true :: forwardActions ++
      .deliver 0 (rootReply 1 1) :: replyActions ++
        [.listen clientA (rootQuery 3 28) 4000009 true]

/-- **A late reply goes to the next client.** Client B is sent client A's answer, with client
    A's transaction id and question, and it is cached for client B's question; the next client
    to ask that question is sent it from the cache. -/
theorem late_reply_relayed :
    startedRelay.Started ∧ UpstreamAnswers echo ∧
      ∃ t, (Relay.machine echo).run startedRelay lateActions = some t ∧
        t.relayed = [⟨clientB, rootQuery 2 28, rootReply 1 1⟩] ∧
        echo (rootQuery 2 28) (rootReply 1 1) = false ∧
        (rootReply 1 1).take 2 ≠ (rootQuery 2 28).take 2 ∧
        t.hits = [⟨clientA, rootQuery 3 28, rootReply 3 1⟩] ∧
        question (rootReply 3 1) (keyLen (rootQuery 3 28)) ≠
          question (rootQuery 3 28) (keyLen (rootQuery 3 28)) := by
  have hsent : ((Relay.machine echo).run startedRelay lateActions).map Relay.responses =
      some ([⟨clientB, rootQuery 2 28, rootReply 1 1⟩],
        [⟨clientA, rootQuery 3 28, rootReply 3 1⟩]) := by
    decide +kernel
  obtain ⟨t, hrun, hresponses⟩ := Option.map_eq_some_iff.mp hsent
  obtain ⟨hrelayed, hhits⟩ := Prod.mk.inj hresponses
  exact ⟨startedRelay_started, upstreamAnswers_echo, t, hrun, hrelayed, by decide, by decide, hhits,
    by decide +kernel⟩

end SubnetRouter.Dns
