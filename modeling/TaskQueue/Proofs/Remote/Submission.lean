import TaskQueue.Proofs.Record.RoundTrip
import TaskQueue.Proofs.Remote.Loading

/-!
# What a submission says to the remote store

A submission registers its queue, runs its script by the digest, and sends the text of the script only if
the store answers that it does not hold the script, which it then has not run.  So the script runs at
most once, and what the caller is told is read off the last reply to a command that runs it.

Principal results: `Reply.isNoScript_of_toInteger` — which replies are read as a missing script;
`Session.trace_submit_iff` — the three courses that a submission can take;
`submission_runs_script_once` — commands and outcome, for every sequence of replies.
-/

set_option autoImplicit false

namespace TaskQueue

/-! ## Replies that are read as a missing script -/

theorem FaultKind.ofCode?_eq_noScript_iff {code : String} :
    ofCode? code = some .noScript ↔ code = "NOSCRIPT" := by
  unfold ofCode?
  split <;> simp_all

/-- The first word of an error line. -/
def RemoteFault.codeOf (line : String) : String := String.ofList (line.toList.takeWhile (· ≠ ' '))

/-- An error line reports a missing script if its first word says so. -/
theorem RemoteFault.isNoScript_ofLine {line : String} :
    (ofLine line).isNoScript = true ↔ codeOf line = "NOSCRIPT" := by
  rw [← FaultKind.ofCode?_eq_noScript_iff, codeOf]
  unfold ofLine
  dsimp only
  split
  · rename_i kind hkind
    rw [hkind]
    simp [isNoScript]
  · rename_i hkind
    rw [hkind]
    simp [isNoScript]

/-- Why a reply is no answer. -/
inductive Reply.Failure where
  /-- The store signalled an error, with this line. -/
  | signalled (line : String)
  /-- No answer came. -/
  | lost (words : String)

namespace Reply

namespace Failure

/-- The fault that a caller is told of. -/
def fault : Failure → RemoteFault
  | signalled line => .ofLine line
  | lost words => .connection words

/-- Whether the store signalled an error with the code `NOSCRIPT`. -/
def isNoScript : Failure → Bool
  | signalled line => RemoteFault.codeOf line == "NOSCRIPT"
  | lost _ => false

theorem isNoScript_fault (failure : Failure) : failure.fault.isNoScript = failure.isNoScript := by
  cases failure with
  | signalled line => rw [Bool.eq_iff_iff, fault, isNoScript, RemoteFault.isNoScript_ofLine, beq_iff_eq]
  | lost words => rfl

end Failure

mutual

/-- The first failure in a reply. -/
def failure? : Reply → Option Failure
  | error line => some (.signalled line)
  | lost words => some (.lost words)
  | array items => firstFailure? items
  | nil | int _ | status _ | bulk _ | binary _ _ => none

/-- The first failure in a list of replies. -/
def firstFailure? : List Reply → Option Failure
  | [] => none
  | r :: rest => r.failure? <|> firstFailure? rest

end

mutual

theorem fault?_eq (r : Reply) : r.fault? = r.failure?.map Failure.fault := by
  cases r with
  | error line => rfl
  | lost words => rfl
  | array items => rw [fault?, failure?, firstFault?_eq items]
  | nil => rfl
  | int n => rfl
  | status text => rfl
  | bulk text => rfl
  | binary bytes h => rfl

theorem firstFault?_eq (rs : List Reply) : firstFault? rs = (firstFailure? rs).map Failure.fault := by
  cases rs with
  | nil => rfl
  | cons r rest =>
    rw [firstFault?, firstFailure?, fault?_eq r, firstFault?_eq rest]
    cases r.failure? <;> rfl

end

/-- Whether the first failure in a reply is an error with the code `NOSCRIPT`. -/
def isNoScript (r : Reply) : Bool := r.failure?.any Failure.isNoScript

theorem toInteger_of_fault {r : Reply} {fault : RemoteFault} (h : r.fault? = some fault) :
    r.toInteger = .error fault := by
  unfold toInteger
  rw [h]

theorem not_isNoScript_of_parseInteger {r : Reply} {text : String} {fault : RemoteFault}
    (h : r.parseInteger text = .error fault) : fault.isNoScript = false := by
  unfold parseInteger at h
  split at h
  · cases h
  · cases h
    rfl

/-- A reply without an error is never taken for one about a missing script, whatever its type. -/
theorem not_isNoScript_of_fault?_eq_none {r : Reply} {fault : RemoteFault} (hr : r.fault? = none)
    (h : r.toInteger = .error fault) : fault.isNoScript = false := by
  unfold toInteger at h
  rw [hr] at h
  cases r with
  | int n => cases h
  | bulk text => exact not_isNoScript_of_parseInteger h
  | status text =>
    dsimp only at h
    split at h
    · cases h
      rfl
    · exact not_isNoScript_of_parseInteger h
  | nil | binary bytes hbytes | array items | error line | lost words =>
    cases h
    rfl

/-- **Which replies are read as a missing script**: an error with that code, no reply of an unexpected
type, and no reply that is lost. -/
theorem isNoScript_of_toInteger {r : Reply} {fault : RemoteFault} (h : r.toInteger = .error fault) :
    fault.isNoScript = r.isNoScript := by
  unfold isNoScript
  cases hfailure : r.failure? with
  | none => exact not_isNoScript_of_fault?_eq_none (by rw [fault?_eq, hfailure]; rfl) h
  | some failure =>
    rw [toInteger_of_fault (by rw [fault?_eq, hfailure]; rfl), Except.error.injEq] at h
    rw [← h, Option.any_some, Failure.isNoScript_fault]

theorem not_isNoScript_of_toInteger_eq_ok {r : Reply} {n : Int64} (h : r.toInteger = .ok n) :
    r.isNoScript = false := by
  unfold isNoScript
  cases hfailure : r.failure? with
  | none => rfl
  | some failure =>
    rw [toInteger_of_fault (by rw [fault?_eq, hfailure]; rfl)] at h
    cases h

end Reply

/-! ## The outcome of a submission -/

/-- Whether a command runs a script. -/
def Command.runsScript : Command → Bool
  | runLoaded _ _ | runText _ _ => true
  | ping | loadScript _ | registerQueue _ => false

/-- The number that the last command that runs a script was answered with, if the answer is read as one. -/
def Exchange.scriptCode? (log : List Exchange) : Option Int64 :=
  (log.filter (·.command.runsScript)).getLast?.bind (·.reply.toInteger.toOption)

namespace Session

theorem verdict_cases (r : Except RemoteFault Int64) :
    (verdict r = .ok () ∧ r.toOption = some 1) ∨
      (verdict r = .error .taskIdConflict ∧ r.toOption = some 0) ∨
      (verdict r = .error .duplicateTask ∧ r.toOption = some (-1)) ∨
      (∃ n, verdict r = .error (.unexpectedReply n) ∧ r.toOption = some n ∧
        n ≠ 1 ∧ n ≠ 0 ∧ n ≠ -1) ∨
      ∃ fault, verdict r = .error (.remote fault) ∧ r.toOption = none := by
  cases r with
  | error fault => simp [verdict, Except.toOption]
  | ok code =>
    simp only [verdict, Script.verdict, Except.toOption]
    by_cases h1 : code = 1
    · simp [h1]
    · by_cases h0 : code = 0
      · simp [h0]
      · by_cases hn : code = -1
        · simp [hn]
        · simp [h1, h0, hn]

/-- **What a caller is told** says which number the script answered with, if it answered with one. -/
theorem verdict_iff (r : Except RemoteFault Int64) :
    (verdict r = .ok () ↔ r.toOption = some 1) ∧
      (verdict r = .error .taskIdConflict ↔ r.toOption = some 0) ∧
      (verdict r = .error .duplicateTask ↔ r.toOption = some (-1)) ∧
      (∀ n, verdict r = .error (.unexpectedReply n) ↔
        r.toOption = some n ∧ n ≠ 1 ∧ n ≠ 0 ∧ n ≠ -1) ∧
      ((∃ fault, verdict r = .error (.remote fault)) ↔ r.toOption = none) := by
  rcases verdict_cases r with ⟨hv, hr⟩ | ⟨hv, hr⟩ | ⟨hv, hr⟩ | ⟨n, hv, hr, h1, h0, hn⟩ | ⟨fault, hv, hr⟩
  · rw [hv, hr]
    simp
  · rw [hv, hr]
    simp
  · rw [hv, hr]
    simp
  · rw [hv, hr]
    simp [h1, h0, hn]
  · rw [hv, hr]
    simp

end Session

/-! ## The courses of a submission -/

/-- A script that is known by a digest is run by it, and sent along only if it is missing. -/
theorem Shelf.run_eq {shelf : Shelf} {script : Script} {digest : String} (i : Invocation)
    (hd : shelf.digest? script = some digest) :
    shelf.run script i = .send (.runLoaded digest i) fun reply =>
      if reply.isNoScript then runText script i [.scriptFlushed script.name]
      else .done ⟨reply.toInteger, []⟩ := by
  unfold Shelf.run
  rw [hd]
  refine congrArg (Dialogue.send (.runLoaded digest i)) (funext fun reply => ?_)
  cases hr : reply.toInteger with
  | ok code => rw [if_neg (by simp [Reply.not_isNoScript_of_toInteger_eq_ok hr])]
  | error fault =>
    dsimp only
    rw [Reply.isNoScript_of_toInteger hr]

/-- What is said when a script is run that is known by a digest, and what comes of it. -/
theorem Shelf.trace_run_iff {shelf : Shelf} {script : Script} {digest : String} {i : Invocation}
    (hd : shelf.digest? script = some digest) {log : List Exchange}
    {outcome : Answer RemoteFault Int64} :
    (shelf.run script i).Trace log outcome ↔
      (∃ reply, reply.isNoScript = false ∧ log = [⟨.runLoaded digest i, reply⟩] ∧
        outcome = ⟨reply.toInteger, []⟩) ∨
      ∃ reply reply', reply.isNoScript = true ∧
        log = [⟨.runLoaded digest i, reply⟩, ⟨.runText script i, reply'⟩] ∧
        outcome = ⟨reply'.toInteger, [.scriptFlushed script.name]⟩ := by
  rw [Shelf.run_eq i hd, Dialogue.trace_send_iff]
  constructor
  · rintro ⟨reply, rest, rfl, hnext⟩
    cases hlost : reply.isNoScript with
    | false =>
      rw [hlost, if_neg Bool.false_ne_true] at hnext
      obtain ⟨rfl, rfl⟩ := Dialogue.trace_done_iff.mp hnext
      exact Or.inl ⟨reply, hlost, rfl, rfl⟩
    | true =>
      rw [if_pos hlost] at hnext
      obtain ⟨reply', rest, rfl, hdone⟩ := Dialogue.trace_send_iff.mp hnext
      obtain ⟨rfl, rfl⟩ := Dialogue.trace_done_iff.mp hdone
      exact Or.inr ⟨reply, reply', hlost, rfl, rfl⟩
  · rintro (⟨reply, hlost, rfl, rfl⟩ | ⟨reply, reply', hlost, rfl, rfl⟩)
    · refine ⟨reply, [], rfl, ?_⟩
      rw [hlost, if_neg Bool.false_ne_true]
      exact .done _
    · refine ⟨reply, _, rfl, ?_⟩
      rw [if_pos hlost]
      exact .send (.done _)

/-- The courses that a submission can take: what is said, and what comes of the script. -/
inductive Course (queue : String) (script : Script) (digest : String) (i : Invocation) :
    List Exchange → Answer RemoteFault Int64 → Prop where
  /-- The queue cannot be registered. -/
  | unregistered {reply : Reply} {fault : RemoteFault} (h : reply.fault? = some fault) :
      Course queue script digest i [⟨.registerQueue queue, reply⟩] ⟨.error fault, []⟩
  /-- The script runs by its digest, or fails otherwise than by not being there. -/
  | ran {reply reply' : Reply} (h : reply.fault? = none) (hheld : reply'.isNoScript = false) :
      Course queue script digest i [⟨.registerQueue queue, reply⟩, ⟨.runLoaded digest i, reply'⟩]
        ⟨reply'.toInteger, []⟩
  /-- The script is not there, and its text is sent. -/
  | resent {reply reply' reply'' : Reply} (h : reply.fault? = none)
      (hlost : reply'.isNoScript = true) :
      Course queue script digest i
        [⟨.registerQueue queue, reply⟩, ⟨.runLoaded digest i, reply'⟩, ⟨.runText script i, reply''⟩]
        ⟨reply''.toInteger, [.scriptFlushed script.name]⟩

theorem Course.scriptCode? {queue : String} {script : Script} {digest : String} {i : Invocation}
    {log : List Exchange} {outcome : Answer RemoteFault Int64}
    (h : Course queue script digest i log outcome) :
    Exchange.scriptCode? log = outcome.result.toOption := by
  cases h <;> rfl

namespace Session

theorem submit_eq_of_held {s : Session} (hheld : s.held = true) (now : Instant) (call : Call) :
    s.submit now call = .send (.registerQueue call.record.queue) fun reply =>
      match reply.fault? with
      | some fault => .done ⟨.error (.remote fault), []⟩
      | none => s.runScript call call.record.encode now := by
  unfold submit
  rw [Record.encodeInto_size]
  dsimp only
  rw [if_pos hheld]
  refine congrArg (Dialogue.send (.registerQueue call.record.queue)) (funext fun reply => ?_)
  unfold Reply.check
  cases reply.fault? <;> rfl

/-- **A submission takes one of three courses**, as the replies decide, and any of them if they do. -/
theorem trace_submit_iff {s : Session} (hheld : s.held = true) {call : Call} {digest : String}
    (hd : s.shelf.digest? (.ofRoute call.route) = some digest) {now : Instant} {log : List Exchange}
    {answer : Answer BrokerError Unit} :
    (s.submit now call).Trace log answer ↔
      ∃ outcome, answer = ⟨verdict outcome.result, outcome.notices⟩ ∧
        Course call.record.queue (.ofRoute call.route) digest
          (call.invocation call.record.encode now) log outcome := by
  rw [submit_eq_of_held hheld, Dialogue.trace_send_iff]
  constructor
  · rintro ⟨reply, rest, rfl, hnext⟩
    cases hr : reply.fault? with
    | some fault =>
      rw [hr] at hnext
      obtain ⟨rfl, rfl⟩ := Dialogue.trace_done_iff.mp hnext
      exact ⟨_, rfl, .unregistered hr⟩
    | none =>
      rw [hr] at hnext
      obtain ⟨outcome, log', rest', rfl, hrun, hdone⟩ := Dialogue.trace_bind_iff.mp hnext
      obtain ⟨rfl, rfl⟩ := Dialogue.trace_done_iff.mp hdone
      refine ⟨outcome, rfl, ?_⟩
      rcases (Shelf.trace_run_iff hd).mp hrun with
        ⟨reply', hlost, rfl, rfl⟩ | ⟨reply', reply'', hlost, rfl, rfl⟩
      · exact .ran hr hlost
      · exact .resent hr hlost
  · rintro ⟨outcome, rfl, hcourse⟩
    cases hcourse with
    | @unregistered reply fault hr =>
      refine ⟨reply, [], rfl, ?_⟩
      rw [hr]
      exact .done _
    | @ran reply reply' hr hheld =>
      refine ⟨reply, _, rfl, ?_⟩
      rw [hr]
      exact Dialogue.trace_bind_iff.mpr ⟨_, _, [], (List.append_nil _).symm,
        (Shelf.trace_run_iff hd).mpr (Or.inl ⟨reply', hheld, rfl, rfl⟩), .done _⟩
    | @resent reply reply' reply'' hr hlost =>
      refine ⟨reply, _, rfl, ?_⟩
      rw [hr]
      exact Dialogue.trace_bind_iff.mpr ⟨_, _, [], (List.append_nil _).symm,
        (Shelf.trace_run_iff hd).mpr (Or.inr ⟨reply', reply'', hlost, rfl, rfl⟩), .done _⟩

end Session

/-- **A submission runs its script at most once.**  Let a session have loaded the scripts in any order, and
let a record be handed over with whatever replies, lost ones among them.  The queue is registered, and
nothing follows if that fails; then the script is run by the text that answered its own loading, and with
the script itself if and only if the reply to that is an error with the code `NOSCRIPT`, with the same keys
and arguments.  The caller is told what the last of these replies says as a number, and a fault if it says
none. -/
theorem submission_runs_script_once {s : Session} {loads : List Exchange} (hs : s.Opened loads)
    (now : Instant) (call : Call) {log : List Exchange} {answer : Answer BrokerError Unit}
    (h : (s.submit now call).Trace log answer) :
    let script := Script.ofRoute call.route
    let i := call.invocation call.record.encode now
    let register := Command.registerQueue call.record.queue
    let byText := Command.runText script i
    ∃ digest,
      ((∃ reply, ⟨.loadScript script, reply⟩ ∈ loads) ∧
        ∀ reply, ⟨.loadScript script, reply⟩ ∈ loads → reply.toText = .ok digest) ∧
      log.map (·.command) <+: [register, .runLoaded digest i, byText] ∧
      (∃ reply rest, log = ⟨register, reply⟩ :: rest ∧ (rest = [] ↔ reply.fault?.isSome)) ∧
      (byText ∈ log.map (·.command) ↔
        ∃ reply, ⟨.runLoaded digest i, reply⟩ ∈ log ∧ reply.isNoScript = true) ∧
      ((Command.loadScript script).words = ["SCRIPT", "LOAD", script.text].map Text.Utf8.encode ∧
        register.words = ["SADD", "asynq:queues", call.record.queue].map Text.Utf8.encode ∧
        (Command.runLoaded digest i).words = ["EVALSHA", digest].map Text.Utf8.encode ++ i.words ∧
        byText.words = ["EVAL", script.text].map Text.Utf8.encode ++ i.words) ∧
      (answer.result = .ok () ↔ Exchange.scriptCode? log = some 1) ∧
      (answer.result = .error .taskIdConflict ↔ Exchange.scriptCode? log = some 0) ∧
      (answer.result = .error .duplicateTask ↔ Exchange.scriptCode? log = some (-1)) ∧
      (∀ n, answer.result = .error (.unexpectedReply n) ↔
        Exchange.scriptCode? log = some n ∧ n ≠ 1 ∧ n ≠ 0 ∧ n ≠ -1) ∧
      ((∃ fault, answer.result = .error (.remote fault)) ↔ Exchange.scriptCode? log = none) := by
  intro script i register byText
  obtain ⟨digest, hdigest, hloads⟩ := hs.exists_digest script
  -- What is left are the three courses, and each says what was sent and what was answered.
  obtain ⟨outcome, rfl, hcourse⟩ := (Session.trace_submit_iff hs.1 hdigest).mp h
  refine ⟨digest, hloads, ?_, ?_, ?_, ⟨rfl, rfl, rfl, rfl⟩, ?_⟩
  · cases hcourse with
    | unregistered hr => exact ⟨[_, _], rfl⟩
    | ran hr hheld => exact ⟨[_], rfl⟩
    | resent hr hlost => exact ⟨[], rfl⟩
  · cases hcourse with
    | unregistered hr => exact ⟨_, [], rfl, by simp [hr]⟩
    | ran hr hheld => exact ⟨_, [_], rfl, by simp [hr]⟩
    | resent hr hlost => exact ⟨_, [_, _], rfl, by simp [hr]⟩
  · cases hcourse with
    | unregistered hr => simp [byText]
    | ran hr hheld => simpa [register, byText, script, i] using hheld
    | resent hr hlost => simpa [register, byText, script, i] using hlost
  · rw [hcourse.scriptCode?]
    exact Session.verdict_iff outcome.result

/-- A store that answers a loading with the name of the script, and then loses its scripts: the text follows
the digest, and the answer to it says that the id is taken. -/
theorem submission_runs_script_once_of_flushed :
    let peer : Dialogue.Peer Unit := fun command u =>
      (match command with
        | .loadScript script => .bulk script.name
        | .runLoaded _ _ => .error "NOSCRIPT No matching script."
        | _ => .int 0, u)
    let call : Call := ⟨{ id := "1", queue := "mail" }, .enqueue⟩
    let i := call.invocation call.record.encode .epoch
    ∃ s : Session, ((Session.connect {}).run peer ()).result = .ok s ∧
      ∃ log answer, (s.submit .epoch call).Trace log answer ∧
        log.map (·.command) =
          [.registerQueue "mail", .runLoaded "enqueue" i, .runText .enqueue i] ∧
        answer.result = .error .taskIdConflict := by
  intro peer call i
  let s : Session := ⟨Script.loadOrder.reverse.map fun script => (script, script.name), true⟩
  have hs : ((Session.connect {}).run peer ()).result = .ok s := by rfl
  obtain ⟨loads, hloads, -⟩ := Dialogue.trace_run peer (Session.connect {}) ()
  rw [hs] at hloads
  have hopened : s.Opened loads := Session.opened_of_connect hloads
  have hlost : (Reply.error "NOSCRIPT No matching script.").isNoScript = true := by decide +kernel
  have htrace : (s.submit .epoch call).Trace
      [⟨.registerQueue "mail", .int 0⟩, ⟨.runLoaded "enqueue" i, .error "NOSCRIPT No matching script."⟩,
        ⟨.runText .enqueue i, .int 0⟩]
      ⟨.error .taskIdConflict, [.scriptFlushed "enqueue"]⟩ :=
    (Session.trace_submit_iff rfl rfl).mpr ⟨⟨.ok 0, _⟩, rfl, .resent rfl hlost⟩
  obtain ⟨-, -, -, -, -, -, -, hconflict, -⟩ := submission_runs_script_once hopened .epoch call htrace
  exact ⟨s, hs, _, _, htrace, rfl, hconflict.mpr (by rfl)⟩

end TaskQueue
