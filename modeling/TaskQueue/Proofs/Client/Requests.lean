import TaskQueue.Proofs.Client.Call

/-!
# What a client asks of its broker

A client sees its broker only through the three requests, so a broker that also writes down what it is
asked shows what the client does with any broker.  A submission is one request if it is not at fault, and
none if it is.

Principal results: `Client.enqueue_recorded` — a submission with a broker that records, in any monad;
`validation_precedes_request` — what is asked, and what the caller is told, for every broker;
`Broker.final_of_ask` — what the clients of a broker are told that answers every request as a closed one.
-/

set_option autoImplicit false

namespace TaskQueue

/-- What a broker is asked. -/
inductive Request where
  | submit (call : Call)
  | ping
  | close

/-- A request with the answer to it. -/
structure Asked where
  request : Request
  answer : Answer BrokerError Unit

namespace Broker

variable {m : Type → Type} [Monad m]

/-- Makes a request and writes it down with the answer. -/
def record (request : Request) (ask : m (Answer BrokerError Unit)) :
    StateT (List Asked) m (Answer BrokerError Unit) := do
  let answer ← ask
  modify (· ++ [⟨request, answer⟩])
  return answer

/-- A broker that answers as another one does, and writes down what it is asked. -/
def recorded (broker : Broker m) : Broker (StateT (List Asked) m) where
  submit call := record (.submit call) (broker.submit call)
  ping := record .ping broker.ping
  close := record .close broker.close

end Broker

/-- **A submission with a broker that records**: nothing is asked if the submission is at fault, and the
call that it makes is put to the broker otherwise. -/
theorem Client.enqueue_recorded {m : Type → Type} [Monad m] [LawfulMonad m] (broker : Broker m)
    (x : Submission) (composed now : Instant) (log : List Asked) :
    (Client.enqueue broker.recorded x.task x.opts now x.freshId composed).run log =
      match x.call? now composed with
      | .error e => pure (⟨.error e, preparationNotices x.task x.opts composed⟩, log)
      | .ok call => do
        let answer ← broker.submit call
        let result := conclude call now answer.result
        return (⟨result, preparationNotices x.task x.opts composed ++ answer.notices ++
          conclusionNotices call result⟩, log ++ [⟨.submit call, answer⟩]) := by
  unfold Client.enqueue Submission.call?
  cases prepare x.task x.opts now x.freshId composed with
  | error e => rfl
  | ok call => simp [Broker.recorded, Broker.record]

/-- **Validation comes before the broker is asked.**  Whatever the broker, the submission, its options and
the two readings of the clock, the broker is asked at most once, and not at all if and only if the caller is
told of a fault of the submission; that happens for a blank type and for any option that cannot be used.
What it is asked is to take a well formed call, and the caller is told what it answers. -/
theorem validation_precedes_request {σ : Type} (broker : Broker (StateM σ)) (world : σ)
    (x : Submission) (composed now : Instant) (hid : Text.allBlank x.freshId = false) :
    let outcome :=
      ((Client.enqueue broker.recorded x.task x.opts now x.freshId composed).run [] world).1
    let result := outcome.1.result
    let log := outcome.2
    log.length ≤ 1 ∧
      (log = [] ↔ ∃ e, result = .error e ∧ e.isValidation = true) ∧
      (log = [] ↔ Text.allBlank x.task.typeName = true ∨
        ∃ o ∈ x.task.options ++ x.opts, (o.fault? composed).isSome) ∧
      ∀ asked ∈ log, ∃ call a, asked.request = .submit call ∧ x.settings? composed = .ok a ∧
        call.WellFormed now a ∧ asked.answer = (broker.submit call world).1 ∧
        Client.Relays asked.answer.result result := by
  intro outcome result log
  have hrun := congrFun (Client.enqueue_recorded broker x composed now []) world
  cases hx : x.call? now composed with
  | error e =>
    rw [hx] at hrun
    have houtcome : outcome = (⟨.error e, _⟩, []) := congrArg Prod.fst hrun
    have hresult : result = .error e := congrArg (·.1.result) houtcome
    have hlog : log = [] := congrArg Prod.snd houtcome
    rw [hlog, hresult]
    refine ⟨Nat.zero_le 1, ?_, ?_, ?_⟩
    · exact iff_of_true rfl ⟨e, rfl, Client.prepare_isValidation hx⟩
    · exact iff_of_true rfl (Submission.exists_call?_eq_error_iff.mp ⟨e, hx⟩)
    · intro asked hmem
      cases hmem
  | ok call =>
    rw [hx] at hrun
    have houtcome : outcome = (⟨Client.conclude call now (broker.submit call world).1.result, _⟩,
      [⟨.submit call, (broker.submit call world).1⟩]) := congrArg Prod.fst hrun
    have hresult : result = _ := congrArg (·.1.result) houtcome
    have hlog : log = _ := congrArg Prod.snd houtcome
    have hrelays := Client.relays_conclude call now (broker.submit call world).1.result
    obtain ⟨a, ha, hwell⟩ := x.wellFormed_of_call? hid hx
    rw [hlog, hresult]
    refine ⟨Nat.le_refl 1, ?_, ?_, ?_⟩
    · refine iff_of_false (List.cons_ne_nil _ _) ?_
      rintro ⟨e, he, hfault⟩
      rw [hrelays.validation e he] at hfault
      cases hfault
    · refine iff_of_false (List.cons_ne_nil _ _) fun hfault => ?_
      obtain ⟨e, he⟩ := Submission.exists_call?_eq_error_iff.mpr hfault
      rw [hx] at he
      cases he
    · intro asked hmem
      rw [List.mem_singleton.mp hmem]
      exact ⟨call, a, rfl, ha, hwell, rfl, hrelays⟩

/-- A broker that is always closed is not asked about a task with a blank queue name, though the call names
another queue; of a task without a fault the caller is told that the broker is closed. -/
theorem validation_precedes_request_of_closed :
    let broker : Broker (StateM Unit) :=
      ⟨fun _ => pure ⟨.error .closed, []⟩, pure ⟨.ok (), []⟩, pure ⟨.ok (), []⟩⟩
    let x : Submission := ⟨⟨"digest", [], [.queue " "]⟩, [.queue "mail"], "1"⟩
    let y : Submission := ⟨⟨"digest", [], []⟩, [.maxRetry (-3)], "1"⟩
    let outcome (z : Submission) :=
      ((Client.enqueue broker.recorded z.task z.opts .epoch z.freshId).run [] ()).1
    (outcome x).2 = [] ∧ (outcome y).1.result = .error .clientClosed := by
  intro broker x y outcome
  have hx : x.call? .epoch = .error (.invalidQueueName " ") :=
    Submission.call?_eq_error_iff.mpr
      (Or.inr ⟨by decide +kernel, Settings.compose_eq_error_iff.mpr (by decide +kernel)⟩)
  obtain ⟨call, hy⟩ : ∃ call, y.call? .epoch = .ok call :=
    ⟨_, Submission.call?_eq_ok_iff.mpr ⟨by decide +kernel, _, rfl, rfl⟩⟩
  obtain ⟨-, hnone, -⟩ := validation_precedes_request broker () x .epoch .epoch (by decide)
  obtain ⟨-, -, -, hasked⟩ := validation_precedes_request broker () y .epoch .epoch (by decide)
  constructor
  · refine hnone.mpr ⟨.invalidQueueName " ", ?_, rfl⟩
    rw [Client.enqueue_recorded, hx]
    rfl
  · have hlog : (outcome y).2 = [⟨.submit call, ⟨.error .closed, []⟩⟩] := by
      simp only [outcome, Client.enqueue_recorded, hy]
      rfl
    obtain ⟨-, -, -, -, -, -, hrelays⟩ := hasked _ (by rw [hlog]; exact List.mem_singleton_self _)
    exact hrelays.closed.mpr rfl

/-! ## Brokers that were closed -/

/-- The answer to a request that comes after a close. -/
def Request.refused : Request → Answer BrokerError Unit
  | .submit _ | .ping => ⟨.error .closed, []⟩
  | .close => ⟨.ok (), []⟩

/-- Puts a request to a broker. -/
def Broker.ask {m : Type → Type} (broker : Broker m) : Request → m (Answer BrokerError Unit)
  | .submit call => broker.submit call
  | .ping => broker.ping
  | .close => broker.close

section

variable {σ : Type} {n : Type → Type} [Monad n]

/-- **A broker that is closed for good in a state**, as its callers see it: whatever is asked, the answer is
that of a closed broker, the state stays as it is, and nothing else happens on the way. -/
structure Broker.Final (broker : Broker (StateT σ n)) (s : σ) : Prop where
  /-- Every primitive and every ping is refused, and a further close succeeds without a notice. -/
  ask : ∀ request, (broker.ask request).run s = pure (request.refused, s)
  /-- A submission without a fault is told that the client is closed. -/
  enqueue : ∀ (x : Submission) (composed now : Instant) (call : Call), x.call? now composed = .ok call →
    (Client.enqueue broker x.task x.opts now x.freshId composed).run s =
      pure (⟨.error .clientClosed, Client.preparationNotices x.task x.opts composed⟩, s)
  /-- A submission at fault is told the same as in any other state of any broker. -/
  fault : ∀ (x : Submission) (composed now : Instant) (e : Error), x.call? now composed = .error e →
    e.isValidation = true ∧ ∀ (broker' : Broker (StateT σ n)) (s' : σ),
      (Client.enqueue broker' x.task x.opts now x.freshId composed).run s' =
        pure (⟨.error e, Client.preparationNotices x.task x.opts composed⟩, s')
  ping : (Client.ping broker).run s = pure (⟨.error .clientClosed, []⟩, s)
  close : (Client.close broker).run s = pure (⟨.ok (), []⟩, s)

/-- **What clients are told by a closed broker** follows from what the broker is. -/
theorem Broker.final_of_ask [LawfulMonad n] {broker : Broker (StateT σ n)} {s : σ}
    (h : ∀ request, (broker.ask request).run s = pure (request.refused, s)) : broker.Final s where
  ask := h
  enqueue x composed now call hx := by
    unfold Client.enqueue
    rw [show Client.prepare x.task x.opts now x.freshId composed = .ok call from hx]
    have hsubmit : (broker.submit call).run s = _ := h (.submit call)
    simp [hsubmit, Request.refused, Client.conclude, Error.ofBroker, Client.conclusionNotices,
      Error.isConflict]
  fault x composed now e hx := by
    refine ⟨Client.prepare_isValidation hx, fun broker' s' => ?_⟩
    unfold Client.enqueue
    rw [show Client.prepare x.task x.opts now x.freshId composed = .error e from hx]
    rfl
  ping := by
    have hping : broker.ping.run s = _ := h .ping
    unfold Client.ping
    rw [StateT.run_bind, hping, pure_bind]
    rfl
  close := by
    have hclose : broker.close.run s = _ := h .close
    unfold Client.close
    rw [StateT.run_bind, hclose, pure_bind]
    rfl

end

end TaskQueue
