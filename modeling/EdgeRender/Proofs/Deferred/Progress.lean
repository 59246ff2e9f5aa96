import EdgeRender.Proofs.Deferred.Lightening
import Mathlib.Data.List.Nodup
import Mathlib.Data.List.Perm.Subperm

/-! # Waits come to their end

As long as somebody is in the line, a round takes work off or shortens the line; when the
line is empty the clock moves, and somebody joins it or the wait is over. `EventLoop.burden`
goes down with every round, which shows that the bound of a wait is never reached, if the
loop is orderly: its line has no entry twice, and its drains wait for the time at which
something is due of them. `orderly_waitFrom` says that a loop stays orderly.
-/
namespace EdgeRender.Deferred

theorem total_set {α : Type} (weight : α → Nat) {xs : List α} {k : Nat} {x y : α}
    (h : xs[k]? = some x) :
    total weight (xs.set k y) + weight x = total weight xs + weight y := by
  induction xs generalizing k with
  | nil => cases h
  | cons z zs ih =>
    cases k with
    | zero =>
      obtain rfl := Option.some.inj h
      simp only [List.set_cons_zero, total]
      omega
    | succ k =>
      have htail := ih (k := k) h
      simp only [List.set_cons_succ, total]
      omega

namespace EventLoop

variable {l m : EventLoop} {k : Nat}

def canGo (l : EventLoop) (k : Nat) : Bool :=
  ((l.jobs[k]?).bind Job.due?).any (· ≤ l.now)

/-- A loop whose jobs have their turns as they should. -/
structure Orderly (l : EventLoop) : Prop where
  /-- Nobody stands in the line twice. -/
  nodup : l.line.Nodup
  lt : ∀ k ∈ l.line, k < l.jobs.length
  /-- What a drain waits for is due when its job is. -/
  punctual : ∀ (k : Nat) (d : DrainJob), l.jobs[k]? = some (.drain d) → d.drain.IsDue d.due

theorem orderly_new : ({} : EventLoop).Orderly :=
  ⟨List.nodup_nil, fun _ hk => (nomatch hk), fun _ _ hk => (nomatch hk)⟩

/-- The line and the jobs are all that matters. -/
theorem Orderly.of_eq (h : l.Orderly) (hl : m.line = l.line) (hj : m.jobs = l.jobs) :
    m.Orderly := by
  refine ⟨hl ▸ h.nodup, ?_, ?_⟩
  · rw [hl, hj]
    exact h.lt
  · rw [hj]
    exact h.punctual

/-- A job is started, and joins the line. -/
theorem Orderly.start (h : l.Orderly) {job : Job}
    (hd : ∀ d, job = .drain d → d.drain.IsDue d.due) : (l.start job).2.Orderly := by
  refine ⟨?_, ?_, ?_⟩
  · refine List.nodup_append.mpr ⟨h.nodup, List.nodup_singleton _, ?_⟩
    intro a ha b hb
    rw [List.mem_singleton.mp hb]
    exact Nat.ne_of_lt (h.lt a ha)
  · intro k hk
    show k < (l.jobs ++ [job]).length
    rw [List.length_append, List.length_singleton]
    rcases List.mem_append.mp hk with hk | hk
    · exact Nat.lt_succ_of_lt (h.lt k hk)
    · rw [List.mem_singleton.mp hk]
      exact Nat.lt_succ_self _
  · intro k d hk
    have hnew : (l.jobs ++ [job])[k]? = some (.drain d) := hk
    by_cases hlt : k < l.jobs.length
    · rw [List.getElem?_append_left hlt] at hnew
      exact h.punctual k d hnew
    · rw [List.getElem?_append_right (Nat.le_of_not_lt hlt)] at hnew
      exact hd d (List.mem_singleton.mp (List.mem_of_getElem? hnew)).symm

theorem Orderly.startDrain (h : l.Orderly) (request : Nat) (hook : Hook) (name : String) :
    (l.startDrain request hook name).2.Orderly := by
  refine h.start fun d hd => ?_
  obtain rfl := Job.drain.inj hd
  trivial

/-! ## A job has a turn -/

/-- What the turn of a job does to the loop: no time passes, no other job is changed, and no
drain becomes unpunctual. -/
structure Turns (l : EventLoop) (k : Nat) (m : EventLoop) : Prop where
  now : m.now = l.now
  line : m.line = l.line
  length : m.jobs.length = l.jobs.length
  others : ∀ j, j ≠ k → m.jobs[j]? = l.jobs[j]?
  punctual : ∀ d, m.jobs[k]? = some (.drain d) → d.drain.IsDue d.due

theorem Turns.orderly (ht : Turns l k m) (h : l.Orderly) : m.Orderly := by
  refine ⟨ht.line ▸ h.nodup, ?_, ?_⟩
  · rw [ht.line, ht.length]
    exact h.lt
  · intro j d hj
    by_cases hjk : j = k
    · subst hjk
      exact ht.punctual d hj
    · rw [ht.others j hjk] at hj
      exact h.punctual j d hj

theorem turns_self (h : l.Orderly) (k : Nat) : Turns l k l :=
  ⟨rfl, rfl, rfl, fun _ _ => rfl, h.punctual k⟩

/-- A job is replaced while the loop changes in nothing that matters to the others. -/
theorem turns_putJob {old job : Job} (hold : l.jobs[k]? = some old) (hn : m.now = l.now)
    (hl : m.line = l.line) (hj : m.jobs = l.jobs)
    (hd : ∀ d, job = .drain d → d.drain.IsDue d.due) : Turns l k (m.putJob k job) := by
  refine ⟨hn, hl, ?_, ?_, ?_⟩
  · show (m.jobs.set k job).length = _
    rw [List.length_set, hj]
  · intro j hjk
    show (m.jobs.set k job)[j]? = _
    rw [List.getElem?_set_ne (Ne.symm hjk), hj]
  · intro d hk
    have hset : (m.jobs.set k job)[k]? = some (.drain d) := hk
    rw [hj, List.getElem?_set_self (List.getElem?_eq_some_iff.mp hold).1] at hset
    exact hd d (Option.some.inj hset)

/-- The work that is left when a job has been replaced. -/
theorem work_putJob {old : Job} (job : Job) (hold : m.jobs[k]? = some old) :
    (m.putJob k job).work + old.weight = m.work + job.weight := by
  have hset := total_set Job.weight (y := job) hold
  show total _ m.schedulers + total _ (m.jobs.set k job) + _
    = total _ m.schedulers + total _ m.jobs + _
  omega

/-- The work that is left when a queue has changed. -/
theorem work_putBench {request : Nat} {s : Scheduler} (b : Bench)
    (hs : l.schedulers[request]? = some s) :
    (l.putBench request b).work + s.queue.weight = l.work + b.queue.weight := by
  have hset : total (·.queue.weight) (l.schedulers.set request { s with queue := b.queue })
      + s.queue.weight = total (·.queue.weight) l.schedulers + b.queue.weight :=
    total_set (fun s : Scheduler => s.queue.weight) hs
  have hmod : l.schedulers.modify request (fun s => { s with queue := b.queue })
      = l.schedulers.set request { s with queue := b.queue } := by
    rw [List.modify_eq_set_getElem?, hs]
    rfl
  show total _ (l.schedulers.modify request _) + total _ l.jobs + _
    = total _ l.schedulers + total _ l.jobs + _
  rw [hmod]
  omega

theorem conclude_keeps (l : EventLoop) (d : DrainJob) (r : Report) :
    (l.conclude d r).2.now = l.now ∧ (l.conclude d r).2.line = l.line ∧
      (l.conclude d r).2.jobs = l.jobs ∧ (l.conclude d r).2.schedulers = l.schedulers := by
  unfold conclude
  split <;> exact ⟨rfl, rfl, rfl, rfl⟩

/-- A turn of a job is settled: the work goes down if the turn has lightened it. -/
theorem settle_of_lightens {d : DrainJob} {s : Scheduler} {b : Bench} {turn : Turn}
    (hk : l.jobs[k]? = some (.drain d)) (hs : l.schedulers[d.request]? = some s)
    (ht : Lightens (l.bench d.request) d.drain b turn) (hp : turn.IsPunctual l.now) :
    Turns l k ((l.putBench d.request b).settle k d turn).2 ∧
      ((l.putBench d.request b).settle k d turn).2.work < l.work ∧
      (((l.putBench d.request b).settle k d turn).1 = true →
        ((l.putBench d.request b).settle k d turn).2.canGo k = true) := by
  have hqueue : (l.bench d.request).queue = s.queue := by
    show l.queue d.request = s.queue
    unfold queue
    rw [hs]
  have hbench := work_putBench b hs
  have hlt := (List.getElem?_eq_some_iff.mp hk).1
  -- The drain is put back with less to do: nothing else in the loop has changed.
  have hon : ∀ (e : Drain) (due : Nat), e.IsDue due →
      b.queue.weight + e.weight < s.queue.weight + d.drain.weight →
      Turns l k ((l.putBench d.request b).putJob k (.drain { d with drain := e, due })) ∧
        ((l.putBench d.request b).putJob k (.drain { d with drain := e, due })).work
          < l.work := by
    intro e due he hw
    have hwork := work_putJob (m := l.putBench d.request b)
      (.drain { d with drain := e, due }) hk
    simp only [Job.weight] at hwork
    refine ⟨turns_putJob hk rfl rfl rfl fun d' hd' => ?_, by omega⟩
    obtain rfl := Job.drain.inj hd'
    exact he
  -- Put back as due at once, it can go on in the next round.
  have hstays : ∀ e : Drain,
      ((l.putBench d.request b).putJob k (.drain { d with drain := e, due := l.now })).canGo k
        = true := by
    intro e
    have hset : (l.jobs.set k (.drain { d with drain := e, due := l.now }))[k]?
        = some (.drain { d with drain := e, due := l.now }) := List.getElem?_set_self hlt
    show Option.any _ (Option.bind (l.jobs.set k _)[k]? Job.due?) = true
    rw [hset]
    simp [Job.due?, putJob, putBench]
  cases ht with
  | @finished e hw =>
    rw [hqueue] at hw
    obtain ⟨hnow, hline, hjobs, hsch⟩ :=
      (l.putBench d.request b).conclude_keeps d e.report
    obtain ⟨ending, m, hc⟩ : ∃ ending m,
        (l.putBench d.request b).conclude d e.report = (ending, m) := ⟨_, _, rfl⟩
    rw [hc] at hnow hline hjobs hsch
    have hsettle : (l.putBench d.request b).settle k d (.finished e)
        = (false, m.putJob k (.over ending)) := by
      simp only [settle, hc]
    have hsame : m.work = (l.putBench d.request b).work := by
      unfold work
      rw [hjobs, hsch]
    have hwork := work_putJob (.over ending) (hjobs ▸ hk)
    simp only [Job.weight] at hwork
    rw [hsettle]
    refine ⟨turns_putJob hk hnow hline hjobs fun d' hd' => (by cases hd'), ?_,
      (absurd · Bool.false_ne_true)⟩
    show (m.putJob k (.over ending)).work < _
    omega
  | goesOn hu hw =>
    rw [hqueue] at hw
    cases turn with
    | finished | givenUp => cases hu
    | waiting time e =>
      obtain ⟨hturns, hwork⟩ := hon e time hp hw
      exact ⟨hturns, hwork, (absurd · Bool.false_ne_true)⟩
    | go e | paused e =>
      obtain ⟨hturns, hwork⟩ := hon e l.now hp hw
      exact ⟨hturns, hwork, fun _ => hstays e⟩

theorem runDrain_of_due (h : l.Orderly) {d : DrainJob} (hk : l.jobs[k]? = some (.drain d))
    (hd : d.due ≤ l.now) :
    Turns l k (l.runDrain k d).2 ∧ (l.runDrain k d).2.work < l.work ∧
      ((l.runDrain k d).1 = true → (l.runDrain k d).2.canGo k = true) := by
  cases hs : l.schedulers[d.request]? with
  | none =>
    have hnone : l.runDrain k d = (false, l.putJob k (.over .done)) := by
      simp [runDrain, turn?, hs]
    have hwork := work_putJob (.over .done) hk
    simp only [Job.weight] at hwork
    rw [hnone]
    refine ⟨turns_putJob hk rfl rfl rfl fun d' hd' => (nomatch hd'), ?_, nofun⟩
    show (l.putJob k (.over .done)).work < _
    omega
  | some s =>
    obtain ⟨b, turn, hb⟩ : ∃ b turn, burst (l.termsOf d.request s none) l.now allowance
        (l.bench d.request) d.drain = (b, turn) := ⟨_, _, rfl⟩
    have hrun : l.runDrain k d = (l.putBench d.request b).settle k d turn := by
      simp [runDrain, turn?, hs, hb]
    have hdue := (h.punctual k d hk).mono hd
    obtain ⟨hlight, hpunctual⟩ := lightens_of_burst rfl (by decide) hdue hb
    rw [hrun]
    exact settle_of_lightens hk hs hlight hpunctual

/-- A job that can go on takes work off when it has a turn. One that steps aside can go on
again. -/
theorem runJob_of_canGo (h : l.Orderly) (hg : l.canGo k = true) :
    Turns l k (l.runJob k).2 ∧ (l.runJob k).2.work < l.work ∧
      ((l.runJob k).1 = true → (l.runJob k).2.canGo k = true) := by
  unfold canGo at hg
  cases hk : l.jobs[k]? with
  | none =>
    rw [hk] at hg
    cases hg
  | some job =>
    rw [hk] at hg
    -- A job that is not a drain is over after its turn, which takes its one unit of work off.
    have hover : ∀ m : EventLoop, m.now = l.now → m.line = l.line → m.jobs = l.jobs →
        m.work = l.work → job.weight = 1 →
        Turns l k (m.putJob k (.over .done)) ∧ (m.putJob k (.over .done)).work < l.work := by
      intro m hn hline hj hw hone
      have hwork := work_putJob (m := m) (.over .done) (hj ▸ hk)
      rw [hone] at hwork
      have hover : (Job.over .done).weight = 0 := rfl
      exact ⟨turns_putJob hk hn hline hj fun d' hd' => (nomatch hd'), by omega⟩
    cases job with
    | acquire due =>
      have hdue : due ≤ l.now := of_decide_eq_true hg
      have hrun : l.runJob k = (false, l.acquire.putJob k (.over .done)) := by
        simp only [runJob, hk, if_pos hdue]
      obtain ⟨hturns, hwork⟩ := hover l.acquire rfl rfl rfl rfl rfl
      rw [hrun]
      exact ⟨hturns, hwork, nofun⟩
    | release due n =>
      have hdue : due ≤ l.now := of_decide_eq_true hg
      have hrun : l.runJob k = (false, (l.release n).putJob k (.over .done)) := by
        simp only [runJob, hk, if_pos hdue]
      obtain ⟨hturns, hwork⟩ := hover (l.release n) rfl rfl rfl rfl rfl
      rw [hrun]
      exact ⟨hturns, hwork, nofun⟩
    | drain d =>
      have hdue : d.due ≤ l.now := of_decide_eq_true hg
      have hrun : l.runJob k = l.runDrain k d := by
        simp only [runJob, hk, if_pos hdue]
      rw [hrun]
      exact runDrain_of_due h hk hdue
    | _ => cases hg

theorem runJob_of_not_canGo (hg : l.canGo k = false) : l.runJob k = (false, l) := by
  unfold canGo at hg
  unfold runJob
  cases hk : l.jobs[k]? with
  | none => rfl
  | some job =>
    rw [hk] at hg
    cases job with
    | acquire due | release due | drain due =>
      have hdue := of_decide_eq_false hg
      simp only [if_neg hdue]
    | _ => rfl

/-! ## A round -/

/-- What turns do to a loop: those who can go on take work off, and those who step aside can
go on again. No other job is changed. -/
structure Rounds (l : EventLoop) (turns aside : List Nat) (m : EventLoop) : Prop where
  orderly : m.Orderly
  now : m.now = l.now
  line : m.line = l.line
  length : m.jobs.length = l.jobs.length
  others : ∀ j, j ∉ turns → m.jobs[j]? = l.jobs[j]?
  work : m.work + turns.countP l.canGo ≤ l.work
  again : ∀ k ∈ aside, k ∈ turns ∧ m.canGo k = true
  nodup : aside.Nodup

theorem canGo_of_eq (hn : m.now = l.now) (hj : m.jobs[k]? = l.jobs[k]?) :
    m.canGo k = l.canGo k := by
  unfold canGo
  rw [hn, hj]

theorem rounds_runTurns (h : l.Orderly) {line : List Nat} (hn : line.Nodup) (before : List Nat) :
    ∃ aside m, runTurns before line l = (aside ++ before, m) ∧ Rounds l line aside m := by
  induction line generalizing l before with
  | nil =>
    exact ⟨[], l, rfl, h, rfl, rfl, rfl, fun _ _ => rfl, Nat.le_refl _,
      fun _ hk => (nomatch hk), List.nodup_nil⟩
  | cons k line ih =>
    obtain ⟨hk, hline⟩ := List.nodup_cons.mp hn
    obtain ⟨asideNow, l₁, hrun⟩ : ∃ asideNow l₁, l.runJob k = (asideNow, l₁) := ⟨_, _, rfl⟩
    -- What the turn of the first job comes to, whether it can go on or not.
    have hfirst : Turns l k l₁ ∧ l₁.work + (if l.canGo k then 1 else 0) ≤ l.work ∧
        (asideNow = true → l₁.canGo k = true) := by
      cases hg : l.canGo k with
      | true =>
        have hgo := runJob_of_canGo h hg
        rw [hrun] at hgo
        obtain ⟨hturns, hwork, hagain⟩ := hgo
        exact ⟨hturns, hwork, hagain⟩
      | false =>
        rw [runJob_of_not_canGo hg] at hrun
        obtain ⟨rfl, rfl⟩ := Prod.mk.inj hrun
        exact ⟨turns_self h k, Nat.le_refl _, nofun⟩
    obtain ⟨hturns, hwork, hagain⟩ := hfirst
    have hsame : line.countP l₁.canGo = line.countP l.canGo := by
      refine List.countP_congr fun j hj => ?_
      rw [canGo_of_eq hturns.now (hturns.others j fun hjk => hk (hjk ▸ hj))]
    have hrounds : ∀ aside m, Rounds l₁ line aside m →
        m.work + (k :: line).countP l.canGo ≤ l.work := by
      intro aside m hr
      have hw := hr.work
      rw [hsame] at hw
      rw [List.countP_cons]
      omega
    have hothers : ∀ aside m, Rounds l₁ line aside m →
        ∀ j, j ∉ k :: line → m.jobs[j]? = l.jobs[j]? := by
      intro aside m hr j hj
      rw [List.mem_cons, not_or] at hj
      exact (hr.others j hj.2).trans (hturns.others j hj.1)
    cases asideNow with
    | false =>
      obtain ⟨aside, m, hrest, hr⟩ := ih (hturns.orderly h) hline before
      refine ⟨aside, m, ?_, ?_⟩
      · rw [runTurns, hrun]
        exact hrest
      · exact ⟨hr.orderly, hr.now.trans hturns.now, hr.line.trans hturns.line,
          hr.length.trans hturns.length, hothers aside m hr, hrounds aside m hr,
          fun j hj => ⟨List.mem_cons_of_mem _ (hr.again j hj).1, (hr.again j hj).2⟩, hr.nodup⟩
    | true =>
      obtain ⟨aside, m, hrest, hr⟩ := ih (hturns.orderly h) hline (k :: before)
      have hkept : m.canGo k = true :=
        (canGo_of_eq hr.now (hr.others k hk)).trans (hagain rfl)
      refine ⟨aside ++ [k], m, ?_, ?_⟩
      · rw [runTurns, hrun, List.append_assoc]
        exact hrest
      · refine ⟨hr.orderly, hr.now.trans hturns.now, hr.line.trans hturns.line,
          hr.length.trans hturns.length, hothers aside m hr, hrounds aside m hr, ?_, ?_⟩
        · intro j hj
          rcases List.mem_append.mp hj with hj | hj
          · exact ⟨List.mem_cons_of_mem _ (hr.again j hj).1, (hr.again j hj).2⟩
          · rw [List.mem_singleton.mp hj]
            exact ⟨List.mem_cons_self, hkept⟩
        · refine List.nodup_append.mpr ⟨hr.nodup, List.nodup_singleton k, ?_⟩
          intro a ha b hb
          rw [List.mem_singleton.mp hb]
          rintro rfl
          exact hk (hr.again a ha).1

/-- The work that is left and those in the line who cannot go on. -/
def burden (l : EventLoop) : Nat :=
  l.work + l.line.countP fun k => !l.canGo k

/-- A round leaves a loop orderly. If somebody is in the line, it takes something off. -/
theorem runRound_of_orderly (h : l.Orderly) :
    l.runRound.Orderly ∧ l.runRound.now = l.now ∧
      (l.line ≠ [] → l.runRound.burden < l.burden) := by
  have hsplit : l.line.take roundSize ++ l.line.drop roundSize = l.line :=
    List.take_append_drop _ _
  have hnodup := h.nodup
  rw [← hsplit] at hnodup
  obtain ⟨htaken, hleft, hapart⟩ := List.nodup_append.mp hnodup
  obtain ⟨aside, m, hrun, hr⟩ := rounds_runTurns h htaken []
  rw [List.append_nil] at hrun
  have hround : l.runRound = { m with line := l.line.drop roundSize ++ aside } := by
    simp only [runRound, hrun, hr.line]
  -- Those left in the line have had no turn in this round, for nobody is in the line twice.
  have hnot : ∀ k ∈ l.line.drop roundSize, k ∉ l.line.take roundSize :=
    fun k hk hk' => hapart k hk' k hk rfl
  refine ⟨?_, ?_, ?_⟩
  · rw [hround]
    refine ⟨?_, ?_, hr.orderly.punctual⟩
    · refine List.nodup_append.mpr ⟨hleft, hr.nodup, ?_⟩
      rintro a ha b hb rfl
      exact hnot a ha (hr.again a hb).1
    · intro k hk
      show k < m.jobs.length
      rw [hr.length]
      rcases List.mem_append.mp hk with hk | hk
      · exact h.lt k (List.mem_of_mem_drop hk)
      · exact h.lt k (List.mem_of_mem_take (hr.again k hk).1)
  · rw [hround]
    exact hr.now
  · intro hne
    have hpos : 0 < (l.line.take roundSize).length := by
      rw [List.length_take]
      have hlen := List.length_pos_of_ne_nil hne
      have hsize : 0 < roundSize := by decide
      omega
    -- Whoever stepped aside can go on, so only those left in the line can be stuck.
    have hstale : (l.line.drop roundSize ++ aside).countP (fun k => !m.canGo k)
        = (l.line.drop roundSize).countP fun k => !l.canGo k := by
      have hnone : aside.countP (fun k => !m.canGo k) = 0 :=
        List.countP_eq_zero.mpr fun k hk => by simp [(hr.again k hk).2]
      rw [List.countP_append, hnone, Nat.add_zero]
      refine List.countP_congr fun k hk => ?_
      rw [canGo_of_eq hr.now (hr.others k (hnot k hk))]
    have hall : l.line.countP (fun k => !l.canGo k)
        = (l.line.take roundSize).countP (fun k => !l.canGo k)
          + (l.line.drop roundSize).countP (fun k => !l.canGo k) := by
      rw [← List.countP_append, hsplit]
    have hboth := List.length_eq_countP_add_countP l.canGo (l := l.line.take roundSize)
    have hflip : (l.line.take roundSize).countP (fun k => !l.canGo k)
        = (l.line.take roundSize).countP fun k => decide ¬l.canGo k = true :=
      List.countP_congr fun k _ => by simp
    have hwork := hr.work
    have hburden : l.runRound.burden
        = m.work + (l.line.drop roundSize ++ aside).countP fun k => !m.canGo k := by
      rw [hround]
      rfl
    rw [hburden, hstale]
    unfold burden
    omega

/-- A round never adds to the burden. -/
theorem burden_runRound_le (h : l.Orderly) : l.runRound.burden ≤ l.burden := by
  obtain ⟨-, -, hless⟩ := runRound_of_orderly h
  by_cases hline : l.line = []
  · have hround : l.runRound = { l with line := [] } := by simp [runRound, hline, runTurns]
    have heq : ({ l with line := [] } : EventLoop) = l := by rw [← hline]
    exact Nat.le_of_eq (congrArg burden (hround.trans heq))
  · exact Nat.le_of_lt (hless hline)

/-! ## The clock moves -/

theorem moveClock_line (l : EventLoop) (time : Nat) :
    (l.moveClock time).line
      = (List.range l.jobs.length).filter (l.moveClock time).canGo := rfl

/-- When the clock has moved, all who are in the line can go on. -/
theorem moveClock_of_orderly (h : l.Orderly) (time : Nat) :
    (l.moveClock time).Orderly ∧ (l.moveClock time).burden = l.work := by
  refine ⟨⟨?_, ?_, h.punctual⟩, ?_⟩
  · rw [moveClock_line]
    exact List.nodup_range.filter _
  · intro k hk
    rw [moveClock_line] at hk
    exact List.mem_range.mp (List.mem_filter.mp hk).1
  · have hnone : (l.moveClock time).line.countP (fun k => !(l.moveClock time).canGo k) = 0 := by
      rw [List.countP_eq_zero, moveClock_line]
      intro k hk
      simp [(List.mem_filter.mp hk).2]
    unfold burden
    rw [hnone]
    rfl

theorem earlier_eq_some {a b : Option Nat} {t : Nat} (h : earlier a b = some t) :
    a = some t ∨ b = some t := by
  cases a with
  | none => exact .inr h
  | some x =>
    cases b with
    | none => exact .inl h
    | some y =>
      obtain rfl := Option.some.inj h
      rcases Nat.le_total x y with hle | hle
      · rw [Nat.min_eq_left hle]
        exact .inl rfl
      · rw [Nat.min_eq_right hle]
        exact .inr rfl

/-- Whatever is due next is due of a job. -/
theorem exists_of_nextDue? {t : Nat} (h : l.nextDue? = some t) :
    ∃ (k : Nat) (job : Job), l.jobs[k]? = some job ∧ job.due? = some t := by
  have hfold : ∀ (jobs : List Job) (start : Option Nat),
      jobs.foldl (fun t job => earlier t job.due?) start = some t →
        start = some t ∨ ∃ job : Job, job ∈ jobs ∧ job.due? = some t := by
    intro jobs
    induction jobs with
    | nil => exact fun start hs => .inl hs
    | cons job jobs ih =>
      intro start hs
      rcases ih _ hs with hnow | ⟨job', hmem, hdue⟩
      · rcases earlier_eq_some hnow with hstart | hjob
        · exact .inl hstart
        · exact .inr ⟨job, List.mem_cons_self, hjob⟩
      · exact .inr ⟨job', List.mem_cons_of_mem _ hmem, hdue⟩
  rcases hfold l.jobs none h with hnone | ⟨job, hmem, hdue⟩
  · cases hnone
  · obtain ⟨k, hk⟩ := List.getElem?_of_mem hmem
    exact ⟨k, job, hk, hdue⟩

/-- If nobody can go on when the clock has moved, it has moved to the time for which the
wait itself is due. -/
theorem due_le_of_moveClock {t due : Nat} (ht : earlier l.nextDue? (some due) = some t)
    (hline : (l.moveClock t).line = []) : due ≤ (l.moveClock t).now := by
  have hle : t ≤ (l.moveClock t).now := Nat.le_max_left _ _
  rcases earlier_eq_some ht with hjob | hwait
  · obtain ⟨k, job, hk, hdue⟩ := exists_of_nextDue? hjob
    have hgo : (l.moveClock t).canGo k = true := by
      show Option.any _ (Option.bind (l.jobs[k]?) Job.due?) = true
      rw [hk]
      show Option.any _ job.due? = true
      rw [hdue]
      exact decide_eq_true hle
    have hmem : k ∈ (l.moveClock t).line := by
      rw [moveClock_line]
      exact List.mem_filter.mpr
        ⟨List.mem_range.mpr (List.getElem?_eq_some_iff.mp hk).1, hgo⟩
    rw [hline] at hmem
    cases hmem
  · obtain rfl := Option.some.inj hwait
    exact hle

/-! ## Waits -/

theorem credit_refill (l : EventLoop) : l.refill.credit ≠ 0 :=
  (by decide : allowance ≠ 0)

variable {α σ : Type} {look : EventLoop → σ → Look α σ × EventLoop} {due : σ → Nat}

/-- Somebody who waits for a time, at the latest, and who steps aside only for want of
allowance. -/
structure Patient (look : EventLoop → σ → Look α σ × EventLoop) (due : σ → Nat) : Prop where
  aside : ∀ {l m s s'}, look l s = (.aside s', m) → l.credit = 0 ∧ m = l ∧ due s' = due s
  waiting : ∀ {l m s s' time}, look l s = (.waiting time s', m) →
    l.credit ≠ 0 ∧ l.now < due s ∧ m = l ∧ due s' = due s ∧ time = some (due s)

/-- There is an answer, and it is given when the wait is looked at for the last time. -/
def Answers (look : EventLoop → σ → Look α σ × EventLoop) (due : σ → Nat) (time : Nat)
    (result : Option α × EventLoop) : Prop :=
  ∃ a l s, result.1 = some a ∧ look l s = (.over a, result.2) ∧ due s = time

/-- A wait that is looked at when its time has come is over. -/
theorem Patient.answers_of_due_le (hp : Patient look due) {bound : Nat} {s : σ}
    (hc : l.credit ≠ 0) (hd : due s ≤ l.now) :
    Answers look due (due s) (waitFrom look (bound + 1) l s) := by
  unfold waitFrom
  split
  · next a m hl => exact ⟨a, l, s, rfl, hl, rfl⟩
  · next hl => exact absurd (hp.aside hl).1 hc
  · next hl =>
    have hlt := (hp.waiting hl).2.1
    omega

/-- Twice the burden bounds the rounds and the moves of the clock. -/
theorem Patient.answers_of_credit (hp : Patient look due) {bound : Nat} {s : σ} (h : l.Orderly)
    (hc : l.credit ≠ 0) (hb : 2 * l.burden + (if l.line.isEmpty then 2 else 1) ≤ bound) :
    Answers look due (due s) (waitFrom look bound l s) := by
  -- Each round lightens the burden. A move of the clock does not, but it puts somebody in the line
  -- or brings the time that is waited for; hence twice the burden, and one more for an empty line.
  induction bound generalizing l s with
  | zero => split at hb <;> omega
  | succ bound ih =>
    unfold waitFrom
    split
    · next a m hl => exact ⟨a, l, s, rfl, hl, rfl⟩
    · next hl => exact absurd (hp.aside hl).1 hc
    · next time s' m hl =>
      obtain ⟨-, hlt, rfl, hs, rfl⟩ := hp.waiting hl
      rw [← hs] at hlt ⊢
      split
      · next hempty =>
        rw [if_pos hempty] at hb
        obtain ⟨t, ht⟩ : ∃ t, earlier m.nextDue? (some (due s')) = some t := by
          cases m.nextDue? <;> exact ⟨_, rfl⟩
        rw [ht]
        obtain ⟨hord, hburden⟩ := moveClock_of_orderly h t
        have hwork : m.work ≤ m.burden := Nat.le_add_right _ _
        by_cases hline : (m.moveClock t).line = []
        · obtain ⟨bound, rfl⟩ : ∃ n, bound = n + 1 := ⟨bound - 1, by omega⟩
          exact hp.answers_of_due_le (credit_refill _) (due_le_of_moveClock ht hline)
        · refine ih (hord.of_eq rfl rfl) (credit_refill _) ?_
          have hsame : (m.moveClock t).refill.burden = (m.moveClock t).burden := rfl
          have hnot : (m.moveClock t).refill.line.isEmpty = false := by
            simpa [refill] using hline
          rw [hnot, hsame]
          simp only [Bool.false_eq_true, if_false]
          omega
      · next hempty =>
        rw [if_neg hempty] at hb
        obtain ⟨hord, -, hless⟩ := runRound_of_orderly h
        have hlt := hless fun hnil => hempty (List.isEmpty_iff.mpr hnil)
        refine ih (hord.of_eq rfl rfl) (credit_refill _) ?_
        have hsame : m.runRound.refill.burden = m.runRound.burden := rfl
        rw [hsame]
        split <;> omega

theorem burden_le (h : l.Orderly) : l.burden ≤ l.work + l.jobs.length := by
  have hlen : l.line.length ≤ l.jobs.length := by
    have hsub : l.line ⊆ List.range l.jobs.length := fun k hk =>
      List.mem_range.mpr (h.lt k hk)
    have hle := (List.subperm_of_subset h.nodup hsub).length_le
    rwa [List.length_range] at hle
  have hcount : l.line.countP (fun k => !l.canGo k) ≤ l.line.length := List.countP_le_length
  unfold burden
  omega

/-- A patient wait on an orderly loop is answered. -/
theorem Patient.answers_of_wait (hp : Patient look due) (h : l.Orderly) (s : σ) :
    Answers look due (due s) (l.wait look s) := by
  have hle := burden_le h
  unfold wait
  by_cases hc : l.credit = 0
  · -- The first look may be one that only steps aside.
    unfold waitFrom
    split
    · next a m hl => exact ⟨a, l, s, rfl, hl, rfl⟩
    · next s' m hl =>
      obtain ⟨-, rfl, hs⟩ := hp.aside hl
      obtain ⟨hord, -, -⟩ := runRound_of_orderly h
      rw [← hs]
      refine hp.answers_of_credit (hord.of_eq rfl rfl) (credit_refill _) ?_
      have hsame : m.runRound.refill.burden = m.runRound.burden := rfl
      have hburden := burden_runRound_le h
      rw [hsame]
      split <;> omega
    · next hl => exact absurd hc (hp.waiting hl).1
  · refine hp.answers_of_credit h hc ?_
    split <;> omega

/-- A loop stays orderly while somebody waits. -/
theorem orderly_waitFrom (hlook : ∀ l s, l.Orderly → (look l s).2.Orderly) (h : l.Orderly)
    (bound : Nat) (s : σ) : (waitFrom look bound l s).2.Orderly := by
  induction bound generalizing l s with
  | zero => exact h
  | succ bound ih =>
    have hl := hlook l s h
    have hround : ∀ (m : EventLoop) (s : σ), m.Orderly →
        (waitFrom look bound m.runRound.refill s).2.Orderly := by
      intro m s hm
      have hord : m.runRound.refill.Orderly := (runRound_of_orderly hm).1.of_eq rfl rfl
      exact ih hord s
    unfold waitFrom
    split
    · next hs =>
      rw [hs] at hl
      exact hl
    · next s' m hs =>
      rw [hs] at hl
      exact hround m s' hl
    · next s' m hs =>
      rw [hs] at hl
      split
      · split
        · exact hl
        · next time _ =>
          have hord : (m.moveClock time).refill.Orderly :=
            (moveClock_of_orderly hl time).1.of_eq rfl rfl
          exact ih hord s'
      · exact hround m s' hl

theorem orderly_sleep (h : l.Orderly) (millis : Nat) : (l.sleep millis).Orderly := by
  refine orderly_waitFrom ?_ h _ _
  intro l s hl
  unfold lookClock
  split
  · exact hl
  · split
    · exact hl.of_eq rfl rfl
    · exact hl

theorem orderly_lookIdle (h : l.Orderly) (w : Waiter) : (l.lookIdle w).2.Orderly := by
  unfold lookIdle
  split
  · exact h
  · split
    · exact h
    · split
      · exact h.of_eq rfl rfl
      · exact h

theorem orderly_waitIdle (h : l.Orderly) (millis : Nat) : (l.waitIdle millis).2.Orderly := by
  unfold waitIdle
  split
  · exact h
  · have hw : (l.wait lookIdle ⟨l.now + millis, l.pending.wakeups⟩).2.Orderly :=
      orderly_waitFrom (fun _ w hl => orderly_lookIdle hl w) h _ _
    show (if _ then _ else EventLoop.record _ _ : EventLoop).Orderly
    split
    · exact hw
    · exact hw.of_eq rfl rfl

theorem orderly_holdTermination (h : l.Orderly) (host : HostModel) (millis : Nat) :
    (l.holdTermination host millis).2.Orderly := by
  unfold holdTermination
  split
  · exact orderly_waitIdle h millis
  · exact h

theorem orderly_join (h : l.Orderly) (k : Nat) : (l.join k).2.Orderly := by
  have hlook : ∀ (l : EventLoop) (s : Unit), l.Orderly → (lookEnding k l s).2.Orderly := by
    intro l s hl
    unfold lookEnding
    split
    · exact hl
    · split
      · exact hl.of_eq rfl rfl
      · exact hl
  have ha : (l.await k).2.Orderly :=
    orderly_waitFrom hlook h (2 * (l.work + l.jobs.length) + 5) ()
  unfold join
  split
  · next he =>
    rw [he] at ha
    exact ha
  · next he =>
    rw [he] at ha
    exact ha.of_eq rfl rfl
  · next he =>
    rw [he] at ha
    exact ha

end EventLoop
end EdgeRender.Deferred
