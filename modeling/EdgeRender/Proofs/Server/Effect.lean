import EdgeRender.Proofs.Server.Standing

/-! # What can happen to a server

Either no request is concerned, or a request begins, or one request comes to another
stage, and its `Fate` says how. Whatever happens, a sound server stays sound, and each
request comes from its stage to a next one.
-/
namespace EdgeRender

open EdgeRender.Deferred EdgeRender.Stream

namespace Server

variable {σ : Type} {srv srv' : Server σ} {k : Nat} {stage : Stage}
  {accepted : List Deferred.Task}

/-- How a request comes from a stage to the next, with the tasks let in so far. -/
inductive Fate (srv srv' : Server σ) (k : Nat) :
    Stage → List Deferred.Task → Stage → List Deferred.Task → Prop
  | stays {stage : Stage} {accepted accepted' : List Deferred.Task}
      (ho : stage.isOver = true → accepted' = accepted) :
      Fate srv srv' k stage accepted stage accepted'
  | completes {accepted : List Deferred.Task} {r : RenderRequest} {receipt : Receipt}
      {sink : ResponseSink} (hr : srv.open? k = some r)
      (hf : r.sink.finish = (.ok receipt, sink)) (he : srv' = (srv.complete r).2) :
      Fate srv srv' k .waiting accepted (.draining {}) accepted
  | closes {accepted : List Deferred.Task} : Fate srv srv' k .waiting accepted .discarded accepted
  | advances {accepted accepted' : List Deferred.Task} {d : DrainJob} {turn : Turn}
      (hd : srv.loop.drainsOf k = [d])
      (hf : ∀ e, turn = .finished e → d.drain.inFlight = 0 ∧ e.outcomes = d.drain.outcomes) :
      Fate srv srv' k (.draining d.drain) accepted (.ofTurn turn) accepted'
  | cancels {accepted : List Deferred.Task} {d : Drain} :
      Fate srv srv' k (.draining d) accepted (.cancelled d.begun) accepted

/-- A request comes to a stage, and the pending work changes by as much as its share. -/
def Moves (srv srv' : Server σ) (k : Nat) (stage : Stage) (accepted : List Deferred.Task) :
    Prop :=
  ∃ stage' accepted', srv'.Stands k stage' accepted' ∧
    Fate srv srv' k stage accepted stage' accepted' ∧
    srv'.loop.pending.count + srv.loop.share k = srv.loop.pending.count + srv'.loop.share k

/-- No request is concerned. -/
structure Quiet (srv srv' : Server σ) : Prop where
  requests : srv'.requests.length = srv.requests.length
  schedulers : srv'.loop.schedulers.length = srv.loop.schedulers.length
  jobs : srv.JobsFit → srv'.JobsFit
  count : srv'.loop.pending.count = srv.loop.pending.count
  alike : ∀ k, Alike k srv srv'

structure Begins (srv srv' : Server σ) : Prop where
  observed : srv'.observed = srv.observed
  requests : srv'.requests.length = srv.requests.length + 1
  sound : srv'.Sound
  alike : ∀ k < srv.requests.length, Alike k srv srv'
  stands : srv'.Stands srv.requests.length .waiting []
  journal : srv.loop.journal <+: srv'.loop.journal

inductive Effect (srv srv' : Server σ) : Prop
  | quiet (hq : Quiet srv srv')
  | begins (hb : Begins srv srv')
  | moves (k : Nat) (hk : k < srv.requests.length) (hw : Within k srv srv')
      (hm : ∀ stage accepted, srv.Stands k stage accepted → Moves srv srv' k stage accepted)

theorem Quiet.sound (h : srv.Sound) (hq : Quiet srv srv') : srv'.Sound := by
  refine ⟨?_, hq.jobs h.jobs, ?_, ?_, ?_⟩
  · rw [hq.schedulers, hq.requests]
    exact h.schedulers
  · intro n hn
    rw [hq.requests] at hn
    obtain ⟨stage, accepted, hst⟩ := h.stands n hn
    exact ⟨stage, accepted, hst.alike (hq.alike n)⟩
  · intro n hn e he
    rw [hq.requests] at hn
    obtain ⟨events, hj, hsilent⟩ := (hq.alike n).loop.journal
    rw [hj] at he
    rcases List.mem_append.mp he with he | he
    · exact h.silent n hn e he
    · exact hsilent e he
  · rw [hq.count, hq.requests, h.balance]
    refine Finset.sum_congr rfl ?_
    intro n _
    exact ((hq.alike n).loop.share).symm

/-- Whatever happens, the server stays sound. -/
theorem Effect.sound (h : srv.Sound) (he : Effect srv srv') : srv'.Sound := by
  cases he with
  | quiet hq => exact hq.sound h
  | begins hb => exact hb.sound
  | moves k hk hw hm =>
    obtain ⟨stage, accepted, hst⟩ := h.stands k hk
    obtain ⟨stage', accepted', hst', -, hb⟩ := hm stage accepted hst
    exact h.within hk hw hst' hb

theorem Effect.observed (he : Effect srv srv') : srv'.observed = srv.observed := by
  cases he with
  | quiet hq => exact (hq.alike 0).observed
  | begins hb => exact hb.observed
  | moves k hk hw hm => exact (hw.others (k + 1) (Nat.succ_ne_self k)).observed

/-- A request that was not there has just begun. -/
theorem Effect.stands_of_le (he : Effect srv srv') (hk : srv.requests.length ≤ k)
    (hk' : k < srv'.requests.length) : srv'.Stands k .waiting [] := by
  cases he with
  | quiet hq =>
    have hlen := hq.requests
    omega
  | begins hb =>
    have hlen := hb.requests
    obtain rfl : k = srv.requests.length := by omega
    exact hb.stands
  | moves n hn hw hm =>
    have hlen := hw.requests
    omega

/-- Whatever happens, a request comes from its stage to a next one. -/
theorem Effect.fate (he : Effect srv srv') (h : srv.Stands k stage accepted) :
    ∃ stage' accepted', srv'.Stands k stage' accepted' ∧
      Fate srv srv' k stage accepted stage' accepted' := by
  have hstays : Alike k srv srv' → ∃ stage' accepted', srv'.Stands k stage' accepted' ∧
      Fate srv srv' k stage accepted stage' accepted' :=
    fun ha => ⟨stage, accepted, h.alike ha, .stays fun _ => rfl⟩
  cases he with
  | quiet hq => exact hstays (hq.alike k)
  | begins hb => exact hstays (hb.alike k h.lt)
  | moves n hn hw hm =>
    by_cases hkn : k = n
    · subst hkn
      obtain ⟨stage', accepted', hst', hf, -⟩ := hm stage accepted h
      exact ⟨stage', accepted', hst', hf⟩
    · exact hstays (hw.others k hkn)

/-- What happens to the queue of a request changes the pending work by as much as its
share. -/
theorem balance_of_after (terms : Terms) (happening : Happening) {stage' : Stage}
    {accepted' : List Deferred.Task} {b : Bench} (h : srv.Sound)
    (hk : terms.request < srv.requests.length) (hst : srv.Stands terms.request stage accepted)
    (hown : happening.isOwn = true)
    (hafter : Session.after terms ⟨srv.loop.bench terms.request, stage, accepted⟩ happening
      = ⟨b, stage', accepted'⟩)
    (hnext : srv'.Stands terms.request stage' accepted')
    (hq : srv'.loop.queue terms.request = b.queue) (hp : srv'.loop.pending = b.pending) :
    srv'.loop.pending.count + srv.loop.share terms.request
      = srv.loop.pending.count + srv'.loop.share terms.request := by
  have hle := h.share_le hk
  rw [hst.share] at hle
  have hbal := Session.balance_after hst.sound hle happening hown
  rw [hafter] at hbal
  rw [hst.share, hnext.share, hp]
  show _ = _ + ((srv'.loop.queue terms.request).tasks.length + stage'.inFlight)
  rw [hq]
  exact hbal

end Server
end EdgeRender
