import Mathlib.Algebra.GroupWithZero.Nat
import SubnetRouter.Diag.Probe

namespace SubnetRouter.Diag

open Lib

/-!
# Ping and traceroute (`components/net_diag/net_diag.c`)

Both send one probe after the other, and write a line about each into the buffer of the caller,
which cuts off what it has no room for.

* `netDiagPing`, `netDiagTrace` — the code.
* `trace_shows_path` — a traceroute lists what became of its probes, the one sent with the TTL 1
  first, up to the target.
* `ping_reports_probes` — a ping tells each probe, and the figures at its end are those of all.
-/

/-! ### The text -/

/-- `%d`. -/
def decimal (n : Nat) : List Char := Nat.toDigits 10 n

/-- `%2d`. -/
def decimal2 (n : Nat) : List Char := List.replicate (2 - (decimal n).length) ' ' ++ decimal n

/-- `%-15s`. -/
def padded15 (text : List Char) : List Char := text ++ List.replicate (15 - text.length) ' '

/-- `%d.%d ms`, of a number of microseconds. -/
def millis (us : Nat) : List Char :=
  decimal (us / 1000) ++ ".".toList ++ decimal (us % 1000 / 100) ++ " ms".toList

/-- `buf_appendf`. -/
def bufAppendf (size : Nat) (buf text : List Char) : List Char :=
  if size ≤ buf.length then buf else buf ++ text.take (size - buf.length - 1)

/-- The result of a call, and what is in the buffer if it was written to. -/
structure Report where
  rc : Int
  out : Option (List Char)
deriving DecidableEq

/-- `timeout_ms`, within its limits. -/
def clampTimeout (timeoutMs : Int) : Nat :=
  let timeoutMs := if timeoutMs ≤ 0 then 2000 else timeoutMs
  (if 5000 < timeoutMs then 5000 else timeoutMs).toNat

/-- A count that must be positive, with its default and its limit. -/
def clampCount (default limit count : Int) : Nat :=
  let count := if count ≤ 0 then default else count
  (if limit < count then limit else count).toNat

/-! ### Traceroute -/

/-- `%2d  *`. -/
def silentLine (ttl : Nat) : List Char := decimal2 ttl ++ "  *\n".toList

/-- `%2d  send/recv error`. -/
def errorLine (ttl : Nat) : List Char := decimal2 ttl ++ "  send/recv error\n".toList

/-- The line of a router. -/
def routerLine (ttl : Nat) (r : ProbeResult) : List Char :=
  decimal2 ttl ++ "  ".toList ++ padded15 r.source ++ "  ".toList ++ millis r.rttUs ++ "\n".toList

/-- The loop of `net_diag_trace`, with so many hops to go; no result when a probe has none.  A probe
    of `ttl` finds the network as `calls ttl`. -/
def traceLoop (id : UInt16) (timeoutMs outSize : Nat) (calls : Nat → Calls) :
    Nat → Nat → List Char → Option (List Char)
  | 0, _, out => some out
  | n + 1, ttl, out =>
    match (doProbe id (UInt16.ofNat ttl) ttl timeoutMs (calls ttl)).2 with
    | none => none
    | some r =>
      if r.status = -1 then
        traceLoop id timeoutMs outSize calls n (ttl + 1) (bufAppendf outSize out (silentLine ttl))
      else if r.status < 0 then
        traceLoop id timeoutMs outSize calls n (ttl + 1) (bufAppendf outSize out (errorLine ttl))
      else
        let out := bufAppendf outSize out (routerLine ttl r)
        if r.status = 0 then some out
        else traceLoop id timeoutMs outSize calls n (ttl + 1) out

/-- `Cannot resolve %s`. -/
def unresolved (target : List Char) : List Char :=
  "Cannot resolve ".toList ++ target ++ "\n".toList

/-- The first line of a traceroute. -/
def traceHeader (target : List Char) (addr : Ip4) (maxHops : Nat) : List Char :=
  "traceroute to ".toList ++ target ++ " (".toList ++ dotted addr ++ "), ".toList ++
    decimal maxHops ++ " hops max\n".toList

/-- `net_diag_trace`; the size is 0 where there is no buffer. The number of hops and the time are
    clamped first, whatever the caller asks for. -/
def netDiagTrace (resolve : List Char → Option Ip4) (id : UInt16) (calls : Nat → Calls)
    (target : Option (List Char)) (maxHops timeoutMs : Int) (outSize : Nat) : Option Report :=
  match target with
  | none => some ⟨-1, none⟩
  | some target =>
    if target = [] ∨ outSize = 0 then some ⟨-1, none⟩
    else
      let maxHops := clampCount 12 20 maxHops
      let timeoutMs := clampTimeout timeoutMs
      match resolve target with
      | none => some ⟨-1, some (bufAppendf outSize [] (unresolved target))⟩
      | some addr =>
        let out := bufAppendf outSize [] (traceHeader target addr maxHops)
        (traceLoop id timeoutMs outSize calls maxHops 1 out).map fun out => ⟨0, some out⟩

/-! ### Ping -/

/-- `got`, `rtt_min`, `rtt_max` and `rtt_sum`. The minimum is negative as long as there was no
    reply. -/
structure PingStats where
  got : Nat
  rttMin : Int
  rttMax : Nat
  rttSum : Nat
deriving DecidableEq

/-- The figures before the first probe. -/
def noReplies : PingStats := ⟨0, -1, 0, 0⟩

/-- A reply is counted. The sentinel of the minimum is replaced by the first time. -/
def PingStats.reply (s : PingStats) (rttUs : Nat) : PingStats where
  got := s.got + 1
  rttMin := if s.rttMin < 0 ∨ rttUs < s.rttMin then rttUs else s.rttMin
  rttMax := if s.rttMax < rttUs then rttUs else s.rttMax
  rttSum := s.rttSum + rttUs

/-- The line about a probe, by the status that `do_probe` returns. A time exceeded on the way to the
    target is shown as an error. -/
def pingLine (seq : Nat) (r : ProbeResult) : List Char :=
  if r.status = 0 then
    decimal (icmpHdrLen + icmpPayloadLen) ++ " bytes from ".toList ++ r.source ++
      ": icmp_seq=".toList ++ decimal seq ++ " time=".toList ++ millis r.rttUs ++ "\n".toList
  else if r.status = -1 then "icmp_seq=".toList ++ decimal seq ++ " timeout\n".toList
  else if r.status = -3 then
    "icmp_seq=".toList ++ decimal seq ++ " destination unreachable (from ".toList ++ r.source ++
      ")\n".toList
  else "icmp_seq=".toList ++ decimal seq ++ " send/recv error\n".toList

/-- The loop of `net_diag_ping`, with so many probes to go. Each line is appended as far as the
    buffer has room, and the figures go on in any case. -/
def pingLoop (id : UInt16) (timeoutMs outSize : Nat) (calls : Nat → Calls) :
    Nat → Nat → PingStats → List Char → Option (PingStats × List Char)
  | 0, _, s, out => some (s, out)
  | n + 1, i, s, out =>
    match (doProbe id (UInt16.ofNat (i + 1)) 0 timeoutMs (calls (i + 1))).2 with
    | none => none
    | some r =>
      let s := if r.status = 0 then s.reply r.rttUs else s
      pingLoop id timeoutMs outSize calls n (i + 1) s (bufAppendf outSize out (pingLine (i + 1) r))

/-- The lines at the end. The average is computed in integers, and shown with one place behind the
    point. -/
def pingSummary (target : List Char) (count : Nat) (s : PingStats) : List Char :=
  "\n--- ".toList ++ target ++ " ping statistics ---\n".toList ++ decimal count ++
    " packets transmitted, ".toList ++
    if 0 < s.got then
      let avg := s.rttSum / s.got
      decimal s.got ++ " received, ".toList ++ decimal ((count - s.got) * 100 / count) ++
        "% packet loss\nrtt min/avg/max = ".toList ++ decimal (s.rttMin.toNat / 1000) ++
        "/".toList ++ decimal (avg / 1000) ++ ".".toList ++ decimal (avg % 1000 / 100) ++
        "/".toList ++ decimal (s.rttMax / 1000) ++ " ms\n".toList
    else "0 received, 100% packet loss\n".toList

/-- The first line of a ping. -/
def pingHeader (target : List Char) (addr : Ip4) : List Char :=
  "PING ".toList ++ target ++ " (".toList ++ dotted addr ++ ") ".toList ++
    decimal icmpPayloadLen ++ " data bytes\n".toList

/-- `net_diag_ping`; the size is 0 where there is no buffer. A target that does not resolve is
    reported in the buffer, and as a failure. -/
def netDiagPing (resolve : List Char → Option Ip4) (id : UInt16) (calls : Nat → Calls)
    (target : Option (List Char)) (count timeoutMs : Int) (outSize : Nat) : Option Report :=
  match target with
  | none => some ⟨-1, none⟩
  | some target =>
    if target = [] ∨ outSize = 0 then some ⟨-1, none⟩
    else
      let count := clampCount 4 16 count
      let timeoutMs := clampTimeout timeoutMs
      match resolve target with
      | none => some ⟨-1, some (bufAppendf outSize [] (unresolved target))⟩
      | some addr =>
        let out := bufAppendf outSize [] (pingHeader target addr)
        (pingLoop id timeoutMs outSize calls count 0 noReplies out).map fun (s, out) =>
          ⟨0, some (bufAppendf outSize out (pingSummary target count s))⟩

variable {id : UInt16} {timeoutMs size n i : Nat} {calls : Nat → Calls} {hop : Nat → Hop}
  {text piece : List Char} {rtts : List Nat}

/-- What is appended is cut off at the end of the buffer, and so is everything. -/
theorem bufAppendf_take (hsize : 0 < size) (text piece : List Char) :
    bufAppendf size (text.take (size - 1)) piece = (text ++ piece).take (size - 1) := by
  have hlen : (text.take (size - 1)).length < size := by
    rw [List.length_take]
    omega
  have hroom : size - (text.take (size - 1)).length - 1 = size - 1 - text.length := by
    rw [List.length_take]
    omega
  unfold bufAppendf
  rw [if_neg (Nat.not_le.mpr hlen), hroom, List.take_append]

theorem bufAppendf_nil (hsize : 0 < size) :
    bufAppendf size [] piece = piece.take (size - 1) := by
  have h := bufAppendf_take hsize [] piece
  rwa [List.take_nil, List.nil_append] at h

/-! ### What a traceroute lists -/

/-- The line about a hop; an unreachable target has no line of its own. -/
def hopLine (ttl : Nat) : Hop → List Char
  | .answer (.error false ..) _ _ | .failed => errorLine ttl
  | .silent => silentLine ttl
  | hop => routerLine ttl hop.result

/-- The hop is the target. -/
def Hop.reached : Hop → Bool
  | .answer (.reply ..) _ _ => true
  | _ => false

/-- The hops up to the target. -/
def shown : List Hop → List Hop
  | [] => []
  | hop :: hops => if hop.reached then [hop] else hop :: shown hops

/-- Lines about one thing after the other. -/
def numbered (line : Nat → Hop → List Char) : Nat → List Hop → List Char
  | _, [] => []
  | i, hop :: hops => line i hop ++ numbered line (i + 1) hops

/-- One hop, as to what its line is and whether it is the last one. -/
theorem traceLoop_succ {h : Hop} (out : List Char)
    (hresult : (doProbe id (UInt16.ofNat i) i timeoutMs (calls i)).2 = some h.result) :
    traceLoop id timeoutMs size calls (n + 1) i out =
      if h.reached then some (bufAppendf size out (hopLine i h))
      else traceLoop id timeoutMs size calls n (i + 1) (bufAppendf size out (hopLine i h)) := by
  rw [traceLoop, hresult]
  cases h with
  | answer a source rttUs =>
    cases a with
    | reply => rfl
    | error expired => cases expired <;> rfl
  | silent => rfl
  | failed => rfl

/-- **The loop of the traceroute.** -/
theorem traceLoop_eq (hsize : 0 < size)
    (hshows : ∀ ttl, i ≤ ttl → ttl < i + n →
      Shows id (UInt16.ofNat ttl) timeoutMs (calls ttl) ((calls ttl).socketTtl ttl) (hop ttl)) :
    traceLoop id timeoutMs size calls n i (text.take (size - 1)) =
      some ((text ++ numbered hopLine i (shown ((List.range' i n).map hop))).take (size - 1)) := by
  induction n generalizing i text with
  | zero => simp [traceLoop, shown, numbered]
  | succ n ih =>
    have hresult := probe_finds_answer _ _ _ _ _ _ (hshows i (le_refl i) (by omega))
    rw [traceLoop_succ _ hresult, bufAppendf_take hsize, List.range'_succ, List.map_cons, shown]
    split_ifs with hreached
    · rw [numbered, numbered, List.append_nil]
    · rw [ih fun ttl hle hlt => hshows ttl (by omega) (by omega), numbered, List.append_assoc]

/-- A traceroute writes a line about each hop in its order, up to the target if it is reached, and
    tells the routers that answered, and where they did not.  `path n t` is what becomes of its
    probe `n` when it is sent with the TTL `t`: line `n` is about the probe that is sent with the
    TTL `n`, or with the one that the socket has by itself where setting it fails. -/
theorem trace_shows_path (resolve : List Char → Option Ip4) (id : UInt16) (calls : Nat → Calls)
    (path : Nat → Nat → Hop) (target : List Char) (addr : Ip4) (maxHops timeoutMs : Int)
    (outSize : Nat) (htarget : target ≠ []) (hsize : 0 < outSize)
    (haddr : resolve target = some addr)
    (hshows : ∀ n t, 1 ≤ n → n ≤ clampCount 12 20 maxHops →
      Shows id (UInt16.ofNat n) (clampTimeout timeoutMs) (calls n) t (path n t)) :
    netDiagTrace resolve id calls (some target) maxHops timeoutMs outSize =
      some ⟨0, some ((traceHeader target addr (clampCount 12 20 maxHops) ++
        numbered hopLine 1 (shown ((List.range' 1 (clampCount 12 20 maxHops)).map fun n =>
          path n (if (calls n).setTtlOk then n else (calls n).defaultTtl)))).take
            (outSize - 1))⟩ := by
  unfold netDiagTrace
  dsimp only
  rw [if_neg (not_or.mpr ⟨htarget, Nat.ne_of_gt hsize⟩), haddr]
  dsimp only
  -- A hop's TTL is never zero, so `net_diag_trace` sets it in every probe.
  have hsent : (List.range' 1 (clampCount 12 20 maxHops)).map (fun n =>
      path n (if (calls n).setTtlOk then n else (calls n).defaultTtl)) =
        (List.range' 1 (clampCount 12 20 maxHops)).map fun n =>
          path n ((calls n).socketTtl n) := by
    refine List.map_congr_left fun n hn => ?_
    have hpos : 0 < n := (List.mem_range'_1.mp hn).1
    unfold Calls.socketTtl
    simp only [hpos, true_and]
  rw [bufAppendf_nil hsize, hsent, traceLoop_eq hsize fun n hle hlt => hshows n _ hle (by omega)]
  rfl

/-- A router whose answers have IP options, one that is silent, and the target. -/
def pathHop : Nat → Hop
  | 1 => .answer expiredOnTheWay 0x0A000001 3900
  | 2 => .silent
  | _ => .answer (.reply plainHeader 0 0 []) 0x0A000009 12345

/-- The rounds of probe `n`, by the TTL that it is sent with.  While a probe waits in vain, an
    answer of the first router to someone else's comes in. -/
def pathRounds (n : Nat) : Nat → List Round
  | 1 => [⟨0, some (expiredOnTheWay.bytes 7 (UInt16.ofNat n), 0x0A000001, []), 3900⟩]
  | 2 => [⟨0, some (expiredOnTheWay.bytes 8 1, 0x0A000001, []), 20⟩, ⟨20, none, 1500000⟩]
  | _ => [⟨0, some ((Answer.reply plainHeader 0 0 []).bytes 7 (UInt16.ofNat n), 0x0A000009, []),
      12345⟩]

/-- Every call of every probe succeeds. -/
def pathCalls (n : Nat) : Calls := ⟨true, true, true, 64, pathRounds n⟩

theorem shows_path (n t : Nat) : Shows 7 (UInt16.ofNat n) 1500 (pathCalls n) t (pathHop t) := by
  match t with
  | 0 => exact ⟨rfl, rfl, .answer 0 12345 _ _ _ _ (by decide)⟩
  | 1 => exact ⟨rfl, rfl, .answer 0 3900 _ _ _ _ (by decide)⟩
  | 2 =>
    refine ⟨rfl, rfl, .other 0 20 _ _ _ _ _ (by decide) (Answer.unrelated _ ?_) ?_⟩
    · exact fun h => absurd h.1 (by decide)
    · exact .timedOut 20 1500000 []
  | t + 3 => exact ⟨rfl, rfl, .answer 0 12345 _ _ _ _ (by decide)⟩

/-- A traceroute over this path. -/
theorem short_path_shown : netDiagTrace (fun _ => some 0x0A000009) 7 pathCalls
    (some "nas".toList) 5 1500 2048 =
    some ⟨0, some ("traceroute to nas (10.0.0.9), 5 hops max\n 1  10.0.0.1         3.9 ms\n" ++
      " 2  *\n 3  10.0.0.9         12.3 ms\n").toList⟩ := by
  refine (trace_shows_path (fun _ => some 0x0A000009) 7 pathCalls (fun _ => pathHop) "nas".toList
    0x0A000009 5 1500 2048 (by decide) (by decide) rfl fun n t _ _ => ?_).trans (by decide +kernel)
  exact shows_path n t

/-! ### What a ping tells -/

/-- The time of a reply. -/
def Hop.rtt : Hop → Option Nat
  | .answer (.reply ..) _ rttUs => some rttUs
  | _ => none

/-- The figures of a list of times: what the loop should have at its end, computed from all the
    times at once. -/
def figures (rtts : List Nat) : PingStats where
  got := rtts.length
  rttMin := match rtts.min? with
    | some least => least
    | none => -1
  rttMax := rtts.max?.getD 0
  rttSum := rtts.sum

/-- One more reply. -/
theorem figures_snoc (rtts : List Nat) (rttUs : Nat) :
    figures (rtts ++ [rttUs]) = (figures rtts).reply rttUs := by
  -- The first reply replaces the sentinel −1 of the minimum.
  cases rtts with
  | nil =>
    simp only [figures, PingStats.reply, PingStats.mk.injEq, List.nil_append, List.sum_singleton,
      List.sum_nil, Nat.zero_add]
    refine ⟨rfl, rfl, ?_, trivial⟩
    show rttUs = if 0 < rttUs then rttUs else 0
    split_ifs <;> omega
  -- Later ones are compared with the figures so far, as `foldl` does on the left.
  | cons x xs =>
    unfold figures PingStats.reply
    rw [List.cons_append, List.min?_cons', List.max?_cons', List.min?_cons', List.max?_cons',
      List.foldl_append, List.foldl_append, List.sum_cons, List.sum_cons, List.sum_append]
    generalize xs.foldl min x = least, xs.foldl max x = greatest
    have hmin : ((min least rttUs : Nat) : Int) =
        if (least : Int) < 0 ∨ (rttUs : Int) < least then (rttUs : Int) else least := by
      split_ifs <;> omega
    have hmax : max greatest rttUs = if greatest < rttUs then rttUs else greatest := by
      split_ifs <;> omega
    simp only [PingStats.mk.injEq]
    exact ⟨by simp, hmin, hmax, by simp; omega⟩

/-- **The loop of the ping.** By induction on the probes that are left: the figures are those of all
    replies so far, and the text is cut where the buffer ends. -/
theorem pingLoop_eq (hsize : 0 < size) (rtts : List Nat) (text : List Char) (n i : Nat)
    (hshows : ∀ seq, i < seq → seq ≤ i + n →
      Shows id (UInt16.ofNat seq) timeoutMs (calls seq) (calls seq).defaultTtl (hop seq)) :
    pingLoop id timeoutMs size calls n i (figures rtts) (text.take (size - 1)) =
      some (figures (rtts ++ ((List.range' (i + 1) n).map hop).filterMap Hop.rtt),
        (text ++ numbered (fun seq hop => pingLine seq hop.result) (i + 1)
          ((List.range' (i + 1) n).map hop)).take (size - 1)) := by
  induction n generalizing i text rtts with
  | zero => simp [pingLoop, numbered]
  | succ n ih =>
    have hresult := probe_finds_answer id (UInt16.ofNat (i + 1)) 0 timeoutMs (calls (i + 1))
      (hop (i + 1)) (hshows (i + 1) (by omega) (by omega))
    -- The statistics count a reply exactly if the hop's outcome is one.
    have hstats : (if (hop (i + 1)).result.status = 0 then
        (figures rtts).reply (hop (i + 1)).result.rttUs else figures rtts) =
        figures (rtts ++ (hop (i + 1)).rtt.toList) := by
      cases hop (i + 1) with
      | answer a source rttUs =>
        cases a with
        | reply => exact (figures_snoc rtts rttUs).symm
        | error expired => cases expired <;> exact (congrArg figures (List.append_nil rtts)).symm
      | silent | failed => exact (congrArg figures (List.append_nil rtts)).symm
    rw [pingLoop, hresult]
    dsimp only
    rw [hstats, bufAppendf_take hsize, ih _ _ _ fun seq hle hlt => hshows seq (by omega) (by omega),
      List.range'_succ, List.map_cons, numbered, List.append_assoc, List.append_assoc]
    -- The round-trip times of the rest come behind this one.
    have hrest (hops : List Hop) : (hop (i + 1) :: hops).filterMap Hop.rtt =
        (hop (i + 1)).rtt.toList ++ hops.filterMap Hop.rtt := by
      cases h : (hop (i + 1)).rtt <;> simp [h]
    rw [hrest]

/-- A ping writes a line about each probe, and its last lines are about the times of all the
    replies: their number, the least, the average and the greatest. -/
theorem ping_reports_probes (resolve : List Char → Option Ip4) (id : UInt16) (calls : Nat → Calls)
    (hop : Nat → Hop) (target : List Char) (addr : Ip4) (count timeoutMs : Int) (outSize : Nat)
    (htarget : target ≠ []) (hsize : 0 < outSize) (haddr : resolve target = some addr)
    (hshows : ∀ seq, 1 ≤ seq → seq ≤ clampCount 4 16 count →
      Shows id (UInt16.ofNat seq) (clampTimeout timeoutMs) (calls seq) (calls seq).defaultTtl
        (hop seq)) :
    netDiagPing resolve id calls (some target) count timeoutMs outSize =
      some ⟨0, some ((pingHeader target addr ++
        numbered (fun seq hop => pingLine seq hop.result) 1
          ((List.range' 1 (clampCount 4 16 count)).map hop) ++
        pingSummary target (clampCount 4 16 count)
          (figures (((List.range' 1 (clampCount 4 16 count)).map hop).filterMap Hop.rtt))).take
          (outSize - 1))⟩ := by
  unfold netDiagPing
  dsimp only
  rw [if_neg (not_or.mpr ⟨htarget, Nat.ne_of_gt hsize⟩), haddr]
  dsimp only
  -- The loop starts from no replies and from the header.
  have hloop := pingLoop_eq hsize [] (pingHeader target addr) (clampCount 4 16 count) 0
    fun seq hle hlt => hshows seq hle (by omega)
  rw [bufAppendf_nil hsize, show noReplies = figures [] from rfl, hloop, List.nil_append]
  dsimp only [Option.map_some]
  rw [bufAppendf_take hsize]

/-- A target that does not reply to the first two of four probes. -/
def slowHop : Nat → Hop
  | 1 => .failed
  | 2 => .silent
  | _ => pathHop 64

/-- The first probe cannot be sent, and to the second comes nothing. -/
def slowCalls : Nat → Calls
  | 1 => ⟨true, true, false, 64, fun _ => []⟩
  | 2 => ⟨true, true, true, 64, fun _ => [⟨0, none, 1500000⟩]⟩
  | seq => pathCalls seq

/-- A ping of this target. -/
theorem short_ping_told : netDiagPing (fun _ => some 0x0A000009) 7 slowCalls
    (some "nas".toList) 4 1500 2048 =
    some ⟨0, some ("PING nas (10.0.0.9) 24 data bytes\nicmp_seq=1 send/recv error\n" ++
      "icmp_seq=2 timeout\n32 bytes from 10.0.0.9: icmp_seq=3 time=12.3 ms\n" ++
      "32 bytes from 10.0.0.9: icmp_seq=4 time=12.3 ms\n\n--- nas ping statistics ---\n" ++
      "4 packets transmitted, 2 received, 50% packet loss\n" ++
      "rtt min/avg/max = 12/12.3/12 ms\n").toList⟩ := by
  refine (ping_reports_probes (fun _ => some 0x0A000009) 7 slowCalls slowHop "nas".toList 0x0A000009
    4 1500 2048 (by decide) (by decide) rfl fun seq hpos _ => ?_).trans (by decide +kernel)
  match seq, hpos with
  | 1, _ => exact .inr rfl
  | 2, _ => exact ⟨rfl, rfl, .timedOut 0 1500000 []⟩
  | seq + 3, _ => exact shows_path (seq + 3) 64

end SubnetRouter.Diag
