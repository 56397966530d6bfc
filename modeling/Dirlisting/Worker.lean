import Dirlisting.Request

/-!
# The listing requests of one worker

The listing requests of a worker share `p->processing` and the cache files of
`dir-listing.cache`. `mod_dirlisting_patch_config` writes the shared `p->conf` for a request at
its start, where `mod_dirlisting_handler_ctx_init` copies it to `hctx->conf`; every later step of
the request reads the copy. A `Worker` is the counter and the requests, each with its
`request_st`, the configuration patched for it and the state of the module on it, and
`workerRun` runs any interleaving of their events.

A step reads `p->processing` only to compare it with `dirlist_max_in_progress` at the admission,
and otherwise passes it on, incremented at the admission and decremented by
`mod_dirlisting_reset` (`modDirlistingSubrequest_shift`, `modDirlistingSubrequestStart_shift`). So
the counter is the number of requests with a handler and stays within its bound, a reset or the
`HANDLER_FINISHED` branch frees the handler of its request and gives the slot back, and a freed
slot is never taken again (`workerRun_processing`); and each request does what it would do alone but for the admission
decisions (`workerRun_isolation`).
-/

set_option autoImplicit false
set_option relaxedAutoImplicit false

namespace Dirlisting

/-! ### What a step does with the counter -/

/-- The number of handlers a request holds: `r->plugin_ctx[p->id]` set or not. -/
def Req.holding (q : Req) : Int := if q.hctx.isSome then 1 else 0

theorem modDirlistingReset_shift (q : Req) (n : Int) :
    modDirlistingReset q n = ((modDirlistingReset q 0).1, (modDirlistingReset q 0).2.1 + n,
      (modDirlistingReset q 0).2.2) := by
  unfold modDirlistingReset
  split <;> simp [Int.sub_eq_add_neg, Int.add_comm]

/-- `mod_dirlisting_subrequest` passes `p->processing` on: the request and the operations do not
depend on it. -/
theorem modDirlistingSubrequest_shift (env : PageEnv) (r : Request) (o : StepOutcome) (q : Req)
    (n : Int) :
    modDirlistingSubrequest env r o q n =
      (modDirlistingSubrequest env r o q 0).map fun (q', m, rc, ops) ↦ (q', m + n, rc, ops) := by
  unfold modDirlistingSubrequest
  split
  · simp
  split
  · simp
  rcases httpReadDirectory env.toRenderEnv _ with _ | ⟨p1, rc, ops⟩
  · rfl
  simp only [Option.some_bind]
  split
  · cases finishListing env r o p1 q.resp <;> simp [modDirlistingReset_shift _ n]
  · split <;> simp
  · simp

/-- `mod_dirlisting_subrequest` gives back the slot of a request it finishes, never installs a
handler, and keeps `r->handler_module` and the status. -/
theorem modDirlistingSubrequest_frame {env : PageEnv} {r : Request} {o : StepOutcome} {q q' : Req}
    {n m : Int} {rc : Handler} {ops : List Op}
    (h : modDirlistingSubrequest env r o q n = some (q', m, rc, ops)) :
    m = n - q.holding + q'.holding ∧ (q'.hctx.isSome → q.hctx.isSome) ∧
      q'.handlerModule = q.handlerModule ∧ q'.resp.status = q.resp.status := by
  unfold modDirlistingSubrequest at h
  split at h
  · cases h
    simp
  split at h
  · cases h
    simp
  rename_i p hctx
  obtain ⟨⟨p1, rc1, ops1⟩, -, h⟩ := Option.bind_eq_some.mp h
  dsimp only at h
  split at h
  · obtain ⟨⟨p2, resp2, ops2⟩, hfin, h⟩ := Option.map_eq_some'.mp h
    cases h
    simp [Req.holding, hctx, modDirlistingReset, finishListing_status hfin]
  · split at h
    · rcases ha : modDirlistingStreamAppend o.appendWriteOk false p1 q.resp with ⟨p2, resp2, ops2⟩
      have h2 := modDirlistingStreamAppend_status o.appendWriteOk false p1 q.resp
      rw [ha] at h h2
      cases h
      simp only at h2
      simp [Req.holding, hctx, h2]
    · cases h
      simp [Req.holding, hctx]
  · cases h
    simp [Req.holding, hctx]

theorem cacheCheckEnabled_status (env : PageEnv) (r : Request) (o : StepOutcome) (conf : PluginConfig)
    (start : StartEnv) (resp : Response) :
    (cacheCheckEnabled env r o conf start resp).2.status = resp.status := by
  unfold cacheCheckEnabled
  split
  · unfold modDirlistingCacheCheck
    dsimp only
    split
    · rfl
    · split_ifs <;> simp
  · rfl

theorem startListing_shift (env : PageEnv) (r : Request) (o : StepOutcome) (conf : PluginConfig)
    (p : HandlerCtx) (q : Req) (k : Int) :
    startListing env r o conf p q k =
      (startListing env r o conf p q 0).map fun (q', m, rc, ops) ↦ (q', m + k, rc, ops) := by
  unfold startListing
  rcases startMode env r o conf p q.resp with ⟨p1, resp1⟩
  rcases startStream env r o conf p1 resp1 with ⟨p2, resp2, ops2⟩
  dsimp only
  rw [modDirlistingSubrequest_shift _ _ _ _ k, Option.map_map, Option.map_map]
  refine Option.map_congr fun x _ ↦ ?_
  dsimp only [Function.comp]
  split_ifs <;> rfl

/-- The first call of `mod_dirlisting_subrequest` in the start: the request is this module's, it
holds a handler as long as the call did not finish, and its status is `200`, `103` or the one it had
(in the sorted mode). -/
theorem startListing_frame {env : PageEnv} {r : Request} {o : StepOutcome} {conf : PluginConfig}
    {p : HandlerCtx} {q q' : Req} {k m : Int} {rc : Handler} {ops : List Op}
    (h : startListing env r o conf p q k = some (q', m, rc, ops)) :
    m = k - 1 + q'.holding ∧ q'.handlerModule = true ∧ (q.resp.status ≠ 503 → q'.resp.status ≠ 503) := by
  unfold startListing at h
  rcases hm : startMode env r o conf p q.resp with ⟨p1, resp1⟩
  have h1 : resp1.status = q.resp.status := by rw [← startMode_status env r o conf p q.resp, hm]
  rw [hm] at h
  dsimp only at h
  rcases hs : startStream env r o conf p1 resp1 with ⟨p2, resp2, ops2⟩
  have h2 : resp2.status = 200 ∨ resp2.status = resp1.status := by
    simpa [hs] using startStream_status env r o conf p1 resp1
  rw [hs] at h
  dsimp only at h
  obtain ⟨⟨q3, m3, rc3, ops3⟩, hsub, h⟩ := Option.map_eq_some'.mp h
  obtain ⟨hm3, -, hmod, hst⟩ := modDirlistingSubrequest_frame hsub
  simp only [Req.holding, Option.isSome_some, if_true] at hm3
  have hstatus : q.resp.status ≠ 503 → q3.resp.status ≠ 503 := by
    intro hne
    rw [hst]
    rcases h2 with h2 | h2 <;> rw [h2] <;> [decide; rwa [h1]]
  dsimp only at h
  split_ifs at h <;> cases h
  · exact ⟨hm3, hmod, fun _ ↦ by simp⟩
  · exact ⟨hm3, hmod, fun _ ↦ by simp⟩
  · exact ⟨hm3, hmod, hstatus⟩

/-- `mod_dirlisting_subrequest_start` on a request that holds a handler only if it is this
module's: it leaves such a request alone, counts the handler of a request it admits (and admits
only below the bound), and answers `503` only at the bound. -/
theorem modDirlistingSubrequestStart_frame {env : PageEnv} {r : Request} {o : StepOutcome}
    {st : StartEnv} {maxInProgress n m : Int} {q q' : Req} {rc : Handler} {ops : List Op}
    (hq : q.hctx.isSome → q.handlerModule = true)
    (h : modDirlistingSubrequestStart env r o st maxInProgress q n = some (q', m, rc, ops)) :
    m = n - q.holding + q'.holding ∧ (q'.hctx.isSome → q'.handlerModule = true) ∧
      (q.handlerModule = true → q' = q) ∧ (q.holding < q'.holding → n ≠ maxInProgress) ∧
      (q.resp.status ≠ 503 → q'.resp.status = 503 → n = maxInProgress) := by
  unfold modDirlistingSubrequestStart at h
  by_cases hguard : (q.handlerModule || r.uriPath.getLast? != some 47 || !r.getOrHead ||
      !st.conf.dirListing) = true
  · rw [if_pos hguard] at h
    cases h
    exact ⟨by omega, hq, fun _ ↦ rfl, fun h ↦ absurd h (lt_irrefl _), fun hne h503 ↦ absurd h503 hne⟩
  rw [if_neg hguard] at h
  have hmod : q.handlerModule = false := by simp_all
  have hnone : q.hctx = none := by
    cases hc : q.hctx
    · rfl
    · simp [hc, hmod] at hq
  have h0 : q.holding = 0 := by simp [Req.holding, hnone]
  dsimp only at h
  rcases hcheck : cacheCheckEnabled env r o (requestConf r st.conf) st q.resp with ⟨rc0, resp0⟩
  have hst0 := cacheCheckEnabled_status env r o (requestConf r st.conf) st q.resp
  rw [hcheck] at h hst0
  dsimp only at h hst0
  by_cases hrc : rc0 ≠ .goOn
  · rw [if_pos hrc] at h
    cases h
    exact ⟨by simp [Req.holding, hnone], by simp [hnone], by simp [hmod], by simp [Req.holding, hnone],
      fun hne h503 ↦ absurd (hst0 ▸ h503) hne⟩
  rw [if_neg hrc] at h
  by_cases hmax : n = maxInProgress
  · rw [if_pos hmax] at h
    cases h
    simp [Req.holding, hnone, hmod, hmax]
  rw [if_neg hmax] at h
  cases hopen : httpOpenDirectory r st.dir (modDirlistingHandlerCtxInit (requestConf r st.conf)) with
  | none =>
    rw [hopen] at h
    cases h
    simp [Req.holding, hnone, hmod]
  | some p =>
    rw [hopen] at h
    obtain ⟨hm, hmod', hstatus⟩ := startListing_frame h
    refine ⟨by omega, fun _ ↦ hmod', by simp [hmod], fun _ ↦ hmax, fun hne h503 ↦ ?_⟩
    exact absurd h503 (hstatus (by simpa [hst0] using hne))

/-- `mod_dirlisting_subrequest_start` reads `p->processing` only to compare it with the bound:
two counters on the same side of it give the same request and operations. -/
theorem modDirlistingSubrequestStart_shift (env : PageEnv) (r : Request) (o : StepOutcome)
    (st : StartEnv) (maxInProgress : Int) (q : Req) {n n' : Int}
    (hn : n = maxInProgress ↔ n' = maxInProgress) :
    modDirlistingSubrequestStart env r o st maxInProgress q n =
      (modDirlistingSubrequestStart env r o st maxInProgress q n').map
        fun (q'', m, rc, ops) ↦ (q'', m - n' + n, rc, ops) := by
  unfold modDirlistingSubrequestStart
  by_cases hguard : (q.handlerModule || r.uriPath.getLast? != some 47 || !r.getOrHead ||
      !st.conf.dirListing) = true
  · simp [hguard]
  simp only [hguard, Bool.false_eq_true, if_false]
  rcases cacheCheckEnabled env r o (requestConf r st.conf) st q.resp with ⟨rc0, resp0⟩
  dsimp only
  by_cases hrc : rc0 ≠ .goOn
  · simp [hrc]
  simp only [hrc, if_false]
  by_cases hmax : n = maxInProgress
  · simp [hmax, hn.mp hmax]
  simp only [hmax, (not_congr hn).mp hmax, if_false]
  split
  · simp
  · rw [startListing_shift _ _ _ _ _ _ (n + 1), startListing_shift _ _ _ _ _ _ (n' + 1),
      Option.map_map]
    refine Option.map_congr fun x _ ↦ ?_
    simp only [Function.comp, Prod.mk.injEq, true_and, and_true]
    omega

/-! ### The worker -/

/-- The events of a request: `mod_dirlisting_subrequest_start` with the cache files, the time and
the directory stream it finds, and the later events of `ReqEvent`. -/
inductive SlotEvent
  | start (o : StepOutcome) (entry : Bytes → Option (Int × Bytes)) (now : Int)
      (dir : Option (List RawEnt))
  | next (e : ReqEvent)

/-- One event of the request `r` with configuration `conf`, with `p->processing`. -/
def slotStep (env : PageEnv) (maxInProgress : Int) (r : Request) (conf : PluginConfig) :
    SlotEvent → Req × Int → Option (Req × Int × List Op)
  | .start o entry now dir, (q, n) =>
    (modDirlistingSubrequestStart env r o ⟨conf, entry, now, dir⟩ maxInProgress q n).map
      fun (q, n, _, ops) ↦ (q, n, ops)
  | .next e, qn => reqStep env r e qn

/-- A request of the worker: its `request_st`, the configuration `mod_dirlisting_patch_config`
gives it, and the state of the module on it. -/
structure Slot where
  r : Request
  conf : PluginConfig
  q : Req

/-- A worker: `p->processing` and its requests. -/
structure Worker where
  processing : Int
  slots : List Slot

/-- An event of the worker: an event of its request number `slot`. -/
structure WorkerEvent where
  slot : Nat
  event : SlotEvent

/-- One event of the worker, with the operations tagged by the request that makes them. An event
of a request the worker does not have changes nothing. -/
def workerStep (env : PageEnv) (maxInProgress : Int) (e : WorkerEvent) (w : Worker) :
    Option (Worker × List (Nat × Op)) :=
  match w.slots[e.slot]? with
  | none => some (w, [])
  | some s => (slotStep env maxInProgress s.r s.conf e.event (s.q, w.processing)).map
      fun (q, n, ops) ↦ (⟨n, w.slots.set e.slot { s with q := q }⟩, ops.map (e.slot, ·))

/-- Any interleaving of events on the worker. `none` when a step does not return. -/
def workerRun (env : PageEnv) (maxInProgress : Int) :
    List WorkerEvent → Worker → Option (Worker × List (Nat × Op))
  | [], w => some (w, [])
  | e :: es, w => (workerStep env maxInProgress e w).bind fun (w, ops) ↦
    (workerRun env maxInProgress es w).map fun (w, ops') ↦ (w, ops ++ ops')

/-- A worker whose requests have not started. -/
def Worker.fresh (reqs : List (Request × PluginConfig)) : Worker :=
  ⟨0, reqs.map fun (r, conf) ↦ ⟨r, conf, Req.fresh⟩⟩

theorem workerStep_eq {env : PageEnv} {maxInProgress : Int} {e : WorkerEvent} {w w' : Worker}
    {ops : List (Nat × Op)} {s : Slot} (hs : w.slots[e.slot]? = some s)
    (h : workerStep env maxInProgress e w = some (w', ops)) :
    ∃ q m sops, slotStep env maxInProgress s.r s.conf e.event (s.q, w.processing) = some (q, m, sops) ∧
      w' = ⟨m, w.slots.set e.slot { s with q := q }⟩ ∧ ops = sops.map (e.slot, ·) := by
  unfold workerStep at h
  rw [hs] at h
  obtain ⟨⟨q, m, sops⟩, hstep, h⟩ := Option.map_eq_some'.mp h
  cases h
  exact ⟨q, m, sops, hstep, rfl, rfl⟩

/-! ### The counter -/

/-- One event of a request changes `p->processing` by the handlers it installs and frees: it admits
(and installs a handler) only below the bound, and frees only a handler the request holds. -/
theorem slotStep_frame {env : PageEnv} {maxInProgress : Int} {r : Request} {conf : PluginConfig}
    {e : SlotEvent} {q q' : Req} {n m : Int} {ops : List Op}
    (hq : q.hctx.isSome → q.handlerModule = true)
    (h : slotStep env maxInProgress r conf e (q, n) = some (q', m, ops)) :
    m = n - q.holding + q'.holding ∧ (q'.hctx.isSome → q'.handlerModule = true) ∧
      (q.holding < q'.holding → n ≠ maxInProgress) := by
  cases e with
  | start o entry now dir =>
    obtain ⟨⟨q1, m1, rc, ops1⟩, hstart, h⟩ := Option.map_eq_some'.mp h
    cases h
    obtain ⟨hm, hown, -, hadmit, -⟩ := modDirlistingSubrequestStart_frame hq hstart
    exact ⟨hm, hown, hadmit⟩
  | next e =>
    cases e with
    | subrequest o =>
      obtain ⟨⟨q1, m1, rc, ops1⟩, hsub, h⟩ := Option.map_eq_some'.mp h
      cases h
      obtain ⟨hm, hmono, hmod, -⟩ := modDirlistingSubrequest_frame hsub
      exact ⟨hm, fun h ↦ hmod ▸ hq (hmono h), fun hlt ↦ absurd hlt (by
        simp only [Req.holding]; split_ifs <;> simp_all)⟩
    | reset =>
      have h := Option.some.inj h
      unfold modDirlistingReset at h
      split at h <;> cases h <;> simp_all [Req.holding]

/-- The accounting of `p->processing` on a worker: it is the number of requests whose
`r->plugin_ctx[p->id]` is set, within the bound, and a request holds a handler only while this
module is its `r->handler_module`. -/
structure ProcessingInv (maxInProgress : Int) (w : Worker) : Prop where
  count : w.processing = (w.slots.countP fun s ↦ s.q.hctx.isSome : Nat)
  bound : w.processing ≤ maxInProgress
  owned : ∀ s ∈ w.slots, s.q.hctx.isSome → s.q.handlerModule = true

theorem processingInv_fresh {maxInProgress : Int} (reqs : List (Request × PluginConfig))
    (hmax : 0 ≤ maxInProgress) : ProcessingInv maxInProgress (Worker.fresh reqs) :=
  ⟨by simp [Worker.fresh, Req.fresh, Function.comp_def], hmax, fun s hs ↦ by
    obtain ⟨⟨r, conf⟩, -, rfl⟩ := List.mem_map.mp hs
    simp [Req.fresh]⟩

theorem processingInv_step {env : PageEnv} {maxInProgress : Int} {e : WorkerEvent} {w w' : Worker}
    {ops : List (Nat × Op)} (hi : ProcessingInv maxInProgress w)
    (h : workerStep env maxInProgress e w = some (w', ops)) : ProcessingInv maxInProgress w' := by
  cases hs : w.slots[e.slot]? with
  | none =>
    unfold workerStep at h
    rw [hs] at h
    cases h
    exact hi
  | some s =>
    obtain ⟨q, m, sops, hstep, rfl, rfl⟩ := workerStep_eq hs h
    obtain ⟨hlt, hget⟩ := List.getElem?_eq_some_iff.mp hs
    obtain ⟨hm, hown, hadmit⟩ := slotStep_frame (hi.owned s (List.getElem?_mem hs)) hstep
    have hcount := List.countP_set (fun s ↦ s.q.hctx.isSome) w.slots e.slot { s with q := q } hlt
    have hle := List.boole_getElem_le_countP (fun s ↦ s.q.hctx.isSome) w.slots e.slot hlt
    rw [hget] at hcount hle
    have hc := hi.count
    have hb := hi.bound
    refine ⟨?_, ?_, fun s' hs' ↦ ?_⟩
    · dsimp only at hcount hle ⊢
      rw [hcount]
      by_cases ha : s.q.hctx.isSome <;> by_cases hb : q.hctx.isSome <;>
        simp only [Req.holding, ha, hb, if_true, if_false, Bool.false_eq_true] at hm hle ⊢ <;> omega
    · dsimp only
      by_cases ha : s.q.hctx.isSome <;> by_cases hb : q.hctx.isSome <;>
        simp only [Req.holding, ha, hb, if_true, if_false, Bool.false_eq_true] at hm hadmit <;>
        omega
    · rcases List.mem_or_eq_of_mem_set hs' with hs' | rfl
      · exact hi.owned s' hs'
      · exact hown

theorem processingInv_run {env : PageEnv} {maxInProgress : Int} {es : List WorkerEvent}
    {w w' : Worker} {ops : List (Nat × Op)} (hi : ProcessingInv maxInProgress w)
    (h : workerRun env maxInProgress es w = some (w', ops)) : ProcessingInv maxInProgress w' := by
  induction es generalizing w ops with
  | nil =>
    cases h
    exact hi
  | cons e es ih =>
    obtain ⟨⟨w1, ops1⟩, hstep, h⟩ := Option.bind_eq_some.mp h
    obtain ⟨⟨w2, ops2⟩, hrun, h⟩ := Option.map_eq_some'.mp h
    cases h
    exact ih (processingInv_step hi hstep) hrun

theorem dirlistMaxInProgress_pos (maxConns : Nat) : 0 < dirlistMaxInProgress maxConns := by
  unfold dirlistMaxInProgress
  split_ifs with h <;> omega

/-- An event of the worker answers a request `503` only when `p->processing` is at the bound. -/
theorem workerStep_status {env : PageEnv} {maxInProgress : Int} {i : Nat} {o : StepOutcome}
    {entry : Bytes → Option (Int × Bytes)} {now : Int} {dir : Option (List RawEnt)} {w w' : Worker}
    {ops : List (Nat × Op)} {s s' : Slot} (hi : ProcessingInv maxInProgress w)
    (h : workerStep env maxInProgress ⟨i, .start o entry now dir⟩ w = some (w', ops))
    (hs : w.slots[i]? = some s) (hs' : w'.slots[i]? = some s') (hne : s.q.resp.status ≠ 503)
    (h503 : s'.q.resp.status = 503) : w.processing = maxInProgress := by
  obtain ⟨q, m, sops, hstep, rfl, -⟩ := workerStep_eq hs h
  obtain ⟨⟨q1, m1, rc, ops1⟩, hstart, hq⟩ := Option.map_eq_some'.mp hstep
  cases hq
  have hlt := (List.getElem?_eq_some_iff.mp hs).1
  simp only [List.getElem?_set_self hlt, Option.some.injEq] at hs'
  subst hs'
  exact (modDirlistingSubrequestStart_frame (hi.owned s (List.getElem?_mem hs)) hstart).2.2.2.2 hne h503

theorem modDirlistingReset_frame (q : Req) (n : Int) :
    (modDirlistingReset q n).1.hctx = none ∧ (modDirlistingReset q n).1.handlerModule = q.handlerModule := by
  unfold modDirlistingReset
  split <;> simp_all

/-- An event of a request whose handler has been freed leaves it without one. -/
theorem slotStep_released {env : PageEnv} {maxInProgress : Int} {r : Request} {conf : PluginConfig}
    {e : SlotEvent} {q q' : Req} {n m : Int} {ops : List Op}
    (h : slotStep env maxInProgress r conf e (q, n) = some (q', m, ops)) (hmod : q.handlerModule = true)
    (hnone : q.hctx = none) : q'.handlerModule = true ∧ q'.hctx = none := by
  cases e with
  | start o entry now dir =>
    obtain ⟨⟨q1, m1, rc, ops1⟩, hstart, hq⟩ := Option.map_eq_some'.mp h
    cases hq
    obtain rfl := (modDirlistingSubrequestStart_frame (by simp [hnone]) hstart).2.2.1 hmod
    exact ⟨hmod, hnone⟩
  | next e =>
    cases e with
    | subrequest o =>
      obtain ⟨⟨q1, m1, rc, ops1⟩, hsub, hq⟩ := Option.map_eq_some'.mp h
      cases hq
      obtain ⟨-, hmono, hmod', -⟩ := modDirlistingSubrequest_frame hsub
      exact ⟨hmod'.trans hmod, Option.not_isSome_iff_eq_none.mp fun h ↦ by simpa [hnone] using hmono h⟩
    | reset =>
      simp only [slotStep, reqStep, Option.some.injEq] at h
      have hframe := modDirlistingReset_frame q n
      rw [h] at hframe
      exact ⟨hframe.2.trans hmod, hframe.1⟩

/-- A request whose handler has been freed never holds one again: its slot is released once. -/
theorem workerStep_released {env : PageEnv} {maxInProgress : Int} {e : WorkerEvent} {w w' : Worker}
    {ops : List (Nat × Op)} {i : Nat} {s : Slot} (h : workerStep env maxInProgress e w = some (w', ops))
    (hs : w.slots[i]? = some s) (hmod : s.q.handlerModule = true) (hnone : s.q.hctx = none) :
    ∃ s', w'.slots[i]? = some s' ∧ s'.q.handlerModule = true ∧ s'.q.hctx = none := by
  cases he : w.slots[e.slot]? with
  | none =>
    unfold workerStep at h
    rw [he] at h
    cases h
    exact ⟨s, hs, hmod, hnone⟩
  | some t =>
    obtain ⟨q, m, sops, hstep, rfl, -⟩ := workerStep_eq he h
    by_cases hi : e.slot = i
    · subst hi
      rw [he] at hs
      cases hs
      exact ⟨_, List.getElem?_set_self (List.getElem?_eq_some_iff.mp he).1,
        slotStep_released hstep hmod hnone⟩
    · exact ⟨s, by rw [List.getElem?_set_ne hi]; exact hs, hmod, hnone⟩

/-- `mod_dirlisting_reset` frees the handler of a request and gives its slot back. -/
theorem slotStep_reset {env : PageEnv} {maxInProgress : Int} {r : Request} {conf : PluginConfig}
    {q q' : Req} {n m : Int} {ops : List Op}
    (h : slotStep env maxInProgress r conf (.next .reset) (q, n) = some (q', m, ops)) :
    q'.hctx = none ∧ m = n - q.holding := by
  simp only [slotStep, reqStep, Option.some.injEq] at h
  unfold modDirlistingReset at h
  split at h <;> cases h <;> simp_all [Req.holding]

/-- A call of `mod_dirlisting_subrequest` that finishes the response has run its
`HANDLER_FINISHED` branch: the request held a handler, which is freed, and its slot is given back. -/
theorem slotStep_finished {env : PageEnv} {maxInProgress : Int} {r : Request} {conf : PluginConfig}
    {o : StepOutcome} {q q' : Req} {n m : Int} {ops : List Op}
    (h : slotStep env maxInProgress r conf (.next (.subrequest o)) (q, n) = some (q', m, ops))
    (hfin : q.resp.bodyFinished = false) (hfin' : q'.resp.bodyFinished = true) :
    q.hctx.isSome ∧ q'.hctx = none ∧ m = n - 1 := by
  obtain ⟨⟨q1, m1, rc, ops1⟩, hsub, hq⟩ := Option.map_eq_some'.mp h
  cases hq
  rcases modDirlistingSubrequest_cases hsub with
    ⟨rfl, -, -⟩ | ⟨p, p1, ops1, -, -, -, ⟨-, rfl, -⟩ | ⟨-, rfl, -⟩⟩ |
      ⟨p, p1, ops1, p2, resp2, ops2, hctx, -, -, rfl, rfl, -⟩
  · simp_all
  · simp [modDirlistingStreamAppend_bodyFinished, hfin] at hfin'
  · simp [hfin] at hfin'
  · simp [hctx]

theorem workerStep_reset {env : PageEnv} {maxInProgress : Int} {i : Nat} {w w' : Worker}
    {ops : List (Nat × Op)} {s s' : Slot} (h : workerStep env maxInProgress ⟨i, .next .reset⟩ w = some (w', ops))
    (hs : w.slots[i]? = some s) (hs' : w'.slots[i]? = some s') :
    s'.q.hctx = none ∧ w'.processing = w.processing - s.q.holding := by
  obtain ⟨q, m, sops, hstep, rfl, -⟩ := workerStep_eq hs h
  simp only [List.getElem?_set_self (List.getElem?_eq_some_iff.mp hs).1, Option.some.injEq] at hs'
  subst hs'
  exact slotStep_reset hstep

theorem workerStep_finished {env : PageEnv} {maxInProgress : Int} {i : Nat} {o : StepOutcome}
    {w w' : Worker} {ops : List (Nat × Op)} {s s' : Slot}
    (h : workerStep env maxInProgress ⟨i, .next (.subrequest o)⟩ w = some (w', ops))
    (hs : w.slots[i]? = some s) (hs' : w'.slots[i]? = some s') (hfin : s.q.resp.bodyFinished = false)
    (hfin' : s'.q.resp.bodyFinished = true) :
    s.q.hctx.isSome ∧ s'.q.hctx = none ∧ w'.processing = w.processing - 1 := by
  obtain ⟨q, m, sops, hstep, rfl, -⟩ := workerStep_eq hs h
  simp only [List.getElem?_set_self (List.getElem?_eq_some_iff.mp hs).1, Option.some.injEq] at hs'
  subst hs'
  exact slotStep_finished hstep hfin hfin'

/-- The accounting of `p->processing` on a worker: the counter is the number of requests holding
a handler and stays within `[0, maxInProgress]`; a start answers `503` only with the counter at the
bound; a reset frees the handler of its request and gives its slot back, as does a call of
`mod_dirlisting_subrequest` that finishes the response, which holds a handler until then; and a
request whose handler has been freed never holds one again, so each admitted request gives back
its slot exactly once. -/
def ProcessingLaw (env : PageEnv) (maxInProgress : Int) (w : Worker) : Prop :=
  w.processing = (w.slots.countP fun s ↦ s.q.hctx.isSome : Nat) ∧ 0 ≤ w.processing ∧
    w.processing ≤ maxInProgress ∧
    (∀ (i : Nat) o entry now dir w' ops' (s s' : Slot),
      workerStep env maxInProgress ⟨i, .start o entry now dir⟩ w = some (w', ops') →
      w.slots[i]? = some s → w'.slots[i]? = some s' → s.q.resp.status ≠ 503 →
      s'.q.resp.status = 503 → w.processing = maxInProgress) ∧
    (∀ (i : Nat) w' ops' (s s' : Slot), workerStep env maxInProgress ⟨i, .next .reset⟩ w = some (w', ops') →
      w.slots[i]? = some s → w'.slots[i]? = some s' →
      s'.q.hctx = none ∧ w'.processing = w.processing - s.q.holding) ∧
    (∀ (i : Nat) o w' ops' (s s' : Slot),
      workerStep env maxInProgress ⟨i, .next (.subrequest o)⟩ w = some (w', ops') →
      w.slots[i]? = some s → w'.slots[i]? = some s' → s.q.resp.bodyFinished = false →
      s'.q.resp.bodyFinished = true → s.q.hctx.isSome ∧ s'.q.hctx = none ∧ w'.processing = w.processing - 1) ∧
    (∀ e w' ops' (i : Nat) (s : Slot), workerStep env maxInProgress e w = some (w', ops') →
      w.slots[i]? = some s → s.q.handlerModule = true → s.q.hctx = none →
      ∃ s' : Slot, w'.slots[i]? = some s' ∧ s'.q.handlerModule = true ∧ s'.q.hctx = none)

theorem workerRun_processing {env : PageEnv} {maxConns : Nat} {reqs : List (Request × PluginConfig)}
    {es : List WorkerEvent} {w : Worker} {ops : List (Nat × Op)}
    (h : workerRun env (dirlistMaxInProgress maxConns) es (Worker.fresh reqs) = some (w, ops)) :
    ProcessingLaw env (dirlistMaxInProgress maxConns) w := by
  have hi := processingInv_run (processingInv_fresh reqs (dirlistMaxInProgress_pos maxConns).le) h
  exact ⟨hi.count, by rw [hi.count]; omega, hi.bound,
    fun _ _ _ _ _ _ _ _ _ hstep hs hs' ↦ workerStep_status hi hstep hs hs',
    fun _ _ _ _ _ hstep hs hs' ↦ workerStep_reset hstep hs hs',
    fun _ _ _ _ _ _ hstep hs hs' ↦ workerStep_finished hstep hs hs',
    fun _ _ _ _ _ hstep ↦ workerStep_released hstep⟩

/-- A JSON listing without the auto layout. -/
def jsonListingConf : PluginConfig :=
  { PluginConfig.defaults with dirListing := true, json := true, autoLayout := false }

/-- Two JSON listings of `/d/` on a worker with room for one (`dirlistMaxInProgress 16`). -/
def pairedReqs : List (Request × PluginConfig) :=
  [(dirRequest, jsonListingConf), (dirRequest, jsonListingConf)]

/-- The first request is admitted and waits for its directory, so the second is refused with
`503`; the first then lists its empty directory and gives its slot back. -/
def pairedEvents : List WorkerEvent :=
  [⟨0, .start { okOutcome with backpressure := true } (fun _ ↦ none) 0 (some [])⟩,
    ⟨1, .start okOutcome (fun _ ↦ none) 0 (some [])⟩, ⟨0, .next (.subrequest okOutcome)⟩]

theorem pairedRun_isSome :
    (workerRun plainPageEnv (dirlistMaxInProgress 16) pairedEvents (Worker.fresh pairedReqs)).isSome := by
  decide

theorem workerRun_processing_paired :
    ∃ w ops, workerRun plainPageEnv (dirlistMaxInProgress 16) pairedEvents (Worker.fresh pairedReqs) =
      some (w, ops) ∧ ProcessingLaw plainPageEnv (dirlistMaxInProgress 16) w := by
  obtain ⟨⟨w, ops⟩, h⟩ := Option.isSome_iff_exists.mp pairedRun_isSome
  exact ⟨w, ops, h, workerRun_processing h⟩

/-! ### Each request as if alone -/

theorem slotStep_shift (env : PageEnv) (maxInProgress : Int) (r : Request) (conf : PluginConfig)
    (e : SlotEvent) (q : Req) {n n' : Int} (hn : n = maxInProgress ↔ n' = maxInProgress) :
    slotStep env maxInProgress r conf e (q, n) =
      (slotStep env maxInProgress r conf e (q, n')).map fun (q', m, ops) ↦ (q', m - n' + n, ops) := by
  cases e with
  | start o entry now dir =>
    simp only [slotStep, modDirlistingSubrequestStart_shift env r o _ maxInProgress q hn, Option.map_map]
    rfl
  | next e =>
    cases e with
    | subrequest o =>
      simp only [slotStep, reqStep, modDirlistingSubrequest_shift env r o q n,
        modDirlistingSubrequest_shift env r o q n', Option.map_map]
      refine Option.map_congr fun x _ ↦ ?_
      simp only [Function.comp, Prod.mk.injEq, true_and, and_true]
      omega
    | reset =>
      simp only [slotStep, reqStep, Option.map_some']
      rw [modDirlistingReset_shift q n, modDirlistingReset_shift q n']
      simp only [Option.some.injEq, Prod.mk.injEq, true_and, and_true]
      omega

/-- The events of request `i` in an interleaving, in order. -/
def eventsOf (i : Nat) (es : List WorkerEvent) : List SlotEvent :=
  (es.filter fun e ↦ e.slot == i).map (·.event)

/-- The operations of request `i` in an interleaving, in order. -/
def opsOf (i : Nat) (ops : List (Nat × Op)) : List Op := (ops.filter fun x ↦ x.1 == i).map (·.2)

/-- A request with configuration `conf` running alone: its events in order, each start admitted,
as when no other listing is in progress (`p->processing` is `0`), or refused, as at the bound. -/
def soloRun (env : PageEnv) (maxInProgress : Int) (r : Request) (conf : PluginConfig) :
    List (SlotEvent × Bool) → Req → Option (Req × List Op)
  | [], q => some (q, [])
  | (e, admitted) :: es, q =>
    (slotStep env maxInProgress r conf e (q, if admitted then 0 else maxInProgress)).bind
      fun (q, _, ops) ↦ (soloRun env maxInProgress r conf es q).map fun (q, ops') ↦ (q, ops ++ ops')

@[simp] theorem eventsOf_nil (i : Nat) : eventsOf i [] = [] := rfl

theorem eventsOf_cons (i : Nat) (e : WorkerEvent) (es : List WorkerEvent) :
    eventsOf i (e :: es) = if e.slot = i then e.event :: eventsOf i es else eventsOf i es := by
  by_cases h : e.slot = i <;> simp [eventsOf, List.filter_cons, h]

@[simp] theorem opsOf_append (i : Nat) (ops ops' : List (Nat × Op)) :
    opsOf i (ops ++ ops') = opsOf i ops ++ opsOf i ops' := by
  simp [opsOf]

theorem opsOf_tag (i j : Nat) (ops : List Op) :
    opsOf i (ops.map (j, ·)) = if j = i then ops else [] := by
  by_cases h : j = i <;> simp [opsOf, List.filter_map, Function.comp_def, h]

/-- One event of the worker, seen from request `i`: either it is an event of `i`, which does what
it would do with the counter at `0` or at the bound, or it leaves request `i` alone. -/
theorem workerStep_slot {env : PageEnv} {maxInProgress : Int} (hmax : 0 ≠ maxInProgress)
    {e : WorkerEvent} {w w' : Worker} {ops : List (Nat × Op)} {i : Nat} {s : Slot}
    (h : workerStep env maxInProgress e w = some (w', ops)) (hs : w.slots[i]? = some s) :
    (e.slot = i ∧ ∃ (admitted : Bool) (q : Req) (m : Int),
      slotStep env maxInProgress s.r s.conf e.event (s.q, if admitted then 0 else maxInProgress) =
        some (q, m, opsOf i ops) ∧ w'.slots[i]? = some { s with q := q }) ∨
    (e.slot ≠ i ∧ w'.slots[i]? = some s ∧ opsOf i ops = []) := by
  by_cases hi : e.slot = i
  · subst hi
    obtain ⟨q, m, sops, hstep, rfl, rfl⟩ := workerStep_eq hs h
    have hn : w.processing = maxInProgress ↔
        (if w.processing ≠ maxInProgress then 0 else maxInProgress) = maxInProgress := by
      split_ifs <;> simp_all
    rw [slotStep_shift _ _ _ _ _ _ hn] at hstep
    obtain ⟨⟨q1, m1, sops1⟩, hstep1, h1⟩ := Option.map_eq_some'.mp hstep
    simp only [Prod.mk.injEq] at h1
    obtain ⟨rfl, -, rfl⟩ := h1
    refine .inl ⟨rfl, decide (w.processing ≠ maxInProgress), q1, m1, ?_, ?_⟩
    · simpa [opsOf_tag] using hstep1
    · exact List.getElem?_set_self (List.getElem?_eq_some_iff.mp hs).1
  · refine .inr ⟨hi, ?_⟩
    unfold workerStep at h
    rcases ht : w.slots[e.slot]? with _ | t
    · rw [ht] at h
      cases h
      exact ⟨hs, rfl⟩
    · rw [ht] at h
      obtain ⟨⟨q, m, sops⟩, -, h⟩ := Option.map_eq_some'.mp h
      cases h
      exact ⟨by rw [List.getElem?_set_ne hi]; exact hs, by simp [opsOf_tag, hi]⟩

/-- A whole run, seen from request `i`: the request runs alone on its own events, with the
configuration it was given. -/
theorem workerRun_slot {env : PageEnv} {maxInProgress : Int} (hmax : 0 ≠ maxInProgress) (i : Nat) :
    ∀ {es : List WorkerEvent} {w w' : Worker} {ops : List (Nat × Op)} {s : Slot},
      workerRun env maxInProgress es w = some (w', ops) → w.slots[i]? = some s →
      ∃ admitted : List Bool, admitted.length = (eventsOf i es).length ∧ ∃ q : Req,
        w'.slots[i]? = some { s with q := q } ∧
        soloRun env maxInProgress s.r s.conf ((eventsOf i es).zip admitted) s.q = some (q, opsOf i ops)
  | [], w, w', ops, s, h, hs => by
    cases h
    exact ⟨[], rfl, s.q, hs, rfl⟩
  | e :: es, w, w', ops, s, h, hs => by
    obtain ⟨⟨w1, ops1⟩, hstep, h⟩ := Option.bind_eq_some.mp h
    obtain ⟨⟨w2, ops2⟩, hrun, h⟩ := Option.map_eq_some'.mp h
    cases h
    rcases workerStep_slot hmax hstep hs with ⟨hi, admitted, q1, m1, hslot, hs1⟩ | ⟨hi, hs1, hops⟩
    · obtain ⟨rest, hlen, q, hw, hsolo⟩ := workerRun_slot hmax i hrun hs1
      exact ⟨admitted :: rest, by simp [eventsOf_cons, hi, hlen], q, hw,
        by simp [eventsOf_cons, hi, soloRun, hslot, hsolo]⟩
    · obtain ⟨rest, hlen, q, hw, hsolo⟩ := workerRun_slot hmax i hrun hs1
      exact ⟨rest, by simp [eventsOf_cons, hi, hlen], q, hw, by simp [eventsOf_cons, hi, hsolo, hops]⟩

theorem workerRun_isolation {env : PageEnv} {maxConns : Nat} {reqs : List (Request × PluginConfig)}
    {es : List WorkerEvent} {w : Worker} {ops : List (Nat × Op)}
    (h : workerRun env (dirlistMaxInProgress maxConns) es (Worker.fresh reqs) = some (w, ops))
    {i : Nat} {r : Request} {conf : PluginConfig} (hi : reqs[i]? = some (r, conf)) :
    ∃ admitted : List Bool, admitted.length = (eventsOf i es).length ∧ ∃ q : Req,
      w.slots[i]? = some ⟨r, conf, q⟩ ∧
      soloRun env (dirlistMaxInProgress maxConns) r conf ((eventsOf i es).zip admitted) Req.fresh =
        some (q, opsOf i ops) :=
  @workerRun_slot env _ (dirlistMaxInProgress_pos maxConns).ne i es _ w ops ⟨r, conf, Req.fresh⟩ h
    (by simp [Worker.fresh, hi])

theorem workerRun_isolation_paired :
    ∃ w ops, workerRun plainPageEnv (dirlistMaxInProgress 16) pairedEvents (Worker.fresh pairedReqs) =
      some (w, ops) ∧ pairedReqs[0]? = some (dirRequest, jsonListingConf) ∧
      ∃ admitted : List Bool, admitted.length = (eventsOf 0 pairedEvents).length ∧ ∃ q : Req,
        w.slots[0]? = some ⟨dirRequest, jsonListingConf, q⟩ ∧
        soloRun plainPageEnv (dirlistMaxInProgress 16) dirRequest jsonListingConf
          ((eventsOf 0 pairedEvents).zip admitted) Req.fresh = some (q, opsOf 0 ops) := by
  obtain ⟨⟨w, ops⟩, h⟩ := Option.isSome_iff_exists.mp pairedRun_isSome
  exact ⟨w, ops, h, rfl, workerRun_isolation h rfl⟩

end Dirlisting
