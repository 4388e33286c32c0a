import Mathlib.Data.List.Perm.Basic
import TaskQueue.Proofs.Client.Requests
import TaskQueue.Proofs.Remote.Submission

/-!
# A connection that several callers share

Any number of callers use one session at the same time, and each of them moves by small steps: it gets at
the connection, it sends a command, it is given the reply.  Between any two of these moves the others go on.
A submission (`RedisBroker::submit`) holds on to the connection until it is answered, through all of its
commands; a ping takes a handle (`RedisBroker::connection`) and lets go at once, before it has sent anything.
A close (`RedisBroker::release`) waits for the submissions that hold the connection, and for nothing else.

Principal results: `Line.Orderly.run` — in every run the requests that stand are submissions, and pings that
send one command and no more; `Line.answered_close_iff` — when a close is answered; `Line.Released.run` and
`Line.Released.next_ask` — after that no more commands are sent than pings have a handle and have not sent,
and every request is answered at once.
-/

set_option autoImplicit false

namespace TaskQueue

/-! ## Sessions that gave their connection up -/

namespace Session

theorem submit_eq_of_released {s : Session} (h : s.held = false) (now : Instant) (call : Call) :
    s.submit now call = .done ⟨.error .closed, []⟩ := by
  unfold submit
  rw [Record.encodeInto_size]
  dsimp only
  rw [if_neg (by simp [h])]

theorem release_of_released {s : Session} (h : s.held = false) : s.release = s := by
  cases s
  cases h
  rfl

/-- **A session without a connection is closed for its clients**, and has nothing to say to the store. -/
theorem final_of_released {s : Session} (h : s.held = false) (now : Instant) : (broker now).Final s := by
  refine Broker.final_of_ask fun request => ?_
  cases request with
  | submit call =>
    show (s.submit now call).bind _ = _
    rw [submit_eq_of_released h]
    rfl
  | ping =>
    show s.ping.bind _ = _
    rw [ping_of_released h]
    rfl
  | close =>
    show Dialogue.done (_, s.release) = _
    rw [release_of_released h, h]
    rfl

/-- A ping sends one command, and is answered whatever the reply. -/
theorem ask_ping_of_held {s : Session} (h : s.held = true) (now : Instant) :
    ∃ next, ((broker now).ask .ping).run s = .send .ping next ∧
      ∀ reply, ∃ outcome, next reply = .done outcome := by
  have hping : ((broker now).ask .ping).run s = s.ping.bind fun answer => .done (answer, s) := rfl
  rw [hping, ping, if_pos h]
  exact ⟨_, rfl, fun reply => ⟨_, rfl⟩⟩

end Session

/-! ## Requests that overlap -/

/-- Whether a request holds on to the connection until it is answered. -/
def Request.holds : Request → Bool
  | .submit _ => true
  | .ping | .close => false

/-- How far a request is that got at the connection. -/
inductive Stage where
  /-- It has a command to send. -/
  | ready (command : Command) (next : Reply → Dialogue (Answer BrokerError Unit × Session))
  /-- It has sent a command, and waits for the reply. -/
  | waiting (next : Reply → Dialogue (Answer BrokerError Unit × Session))

/-- Whether a command is still to be sent. -/
def Stage.isReady : Stage → Bool
  | ready _ _ => true
  | waiting _ => false

/-- A request that is not answered yet. -/
structure Standing where
  request : Request
  stage : Stage

/-- A session in use: the session itself and the requests that stand, in the order of their last moves. -/
structure Line where
  session : Session
  standing : List Standing := []

/-- What happens to a session in use. -/
inductive Move where
  /-- Somebody makes a request and gets at the connection, at the time of that. -/
  | ask (now : Instant) (request : Request)
  /-- A request sends its command. -/
  | send (place : Nat)
  /-- A request that waits is given its reply, or told that there is none. -/
  | reply (place : Nat) (reply : Reply)
  /-- A request is given up by whoever made it. -/
  | leave (place : Nat)

/-- What can be seen of a move. -/
inductive Effect where
  /-- A command is sent. -/
  | sent (command : Command)
  /-- A request is answered. -/
  | told (request : Request) (answer : Answer BrokerError Unit)
  /-- Nothing: a request gets at the connection or is given up, a close has to wait, or nobody is there. -/
  | idle

def Effect.isSent : Effect → Bool
  | sent _ => true
  | told _ _ | idle => false

namespace Line

/-- A session that nobody uses yet. -/
def start (s : Session) : Line := ⟨s, []⟩

def join (line : Line) (w : Standing) : Line := { line with standing := line.standing ++ [w] }

def without (line : Line) (place : Nat) : Line := { line with standing := line.standing.eraseIdx place }

/-- The session after a request is answered.  Submissions and pings leave it to those who close it. -/
def settle (line : Line) (request : Request) (session : Session) : Line :=
  match request with
  | .close => { line with session := session }
  | .submit _ | .ping => line

/-- What a request does next: it is answered, or it stands with a command to send. -/
def proceed (line : Line) (request : Request) :
    Dialogue (Answer BrokerError Unit × Session) → Line × Effect
  | .done (answer, session) => (line.settle request session, .told request answer)
  | .send command next => (line.join ⟨request, .ready command next⟩, .idle)

/-- Whether a request can have the connection: a close cannot while another request holds it. -/
def admits (line : Line) : Request → Bool
  | .close => !line.standing.any (·.request.holds)
  | .submit _ | .ping => true

/-- A request gets at the connection, or is told that there is none. -/
def enter (line : Line) (now : Instant) (request : Request) : Line × Effect :=
  line.proceed request (((Session.broker now).ask request).run line.session)

/-- The session in use after a move, and what can be seen of the move. -/
def next (line : Line) : Move → Line × Effect
  | .ask now request => if line.admits request then line.enter now request else (line, .idle)
  | .send place =>
    match line.standing[place]? with
    | some ⟨request, .ready command next⟩ =>
      ((line.without place).join ⟨request, .waiting next⟩, .sent command)
    | some ⟨_, .waiting _⟩ | none => (line, .idle)
  | .reply place reply =>
    match line.standing[place]? with
    | some ⟨request, .waiting next⟩ => (line.without place).proceed request (next reply)
    | some ⟨_, .ready _ _⟩ | none => (line, .idle)
  | .leave place => (line.without place, .idle)

/-- The session in use after a list of moves. -/
def run (line : Line) (moves : List Move) : Line := moves.foldl (fun line move => (line.next move).1) line

/-- What can be seen of a list of moves. -/
def effects (line : Line) : List Move → List Effect
  | [] => []
  | move :: moves => (line.next move).2 :: (line.next move).1.effects moves

/-- How many of the requests that stand have a command to send. -/
def owed (line : Line) : Nat := line.standing.countP (·.stage.isReady)

/-- What a move does to a session in use, and what can be seen of it. -/
inductive Turn (line : Line) : Line → Effect → Prop where
  | idle : Turn line line .idle
  | ask (now : Instant) (request : Request) (h : line.admits request = true) :
      Turn line (line.enter now request).1 (line.enter now request).2
  | send {place : Nat} {request : Request} {command : Command}
      {next : Reply → Dialogue (Answer BrokerError Unit × Session)}
      (h : line.standing[place]? = some ⟨request, .ready command next⟩) :
      Turn line ((line.without place).join ⟨request, .waiting next⟩) (.sent command)
  | reply {place : Nat} {request : Request} {next : Reply → Dialogue (Answer BrokerError Unit × Session)}
      (h : line.standing[place]? = some ⟨request, .waiting next⟩) (reply : Reply) :
      Turn line ((line.without place).proceed request (next reply)).1
        ((line.without place).proceed request (next reply)).2
  | leave (place : Nat) : Turn line (line.without place) .idle

/-- **Every move is one of these.** -/
theorem turn_next (line : Line) (move : Move) : line.Turn (line.next move).1 (line.next move).2 := by
  cases move with
  | ask now request =>
    unfold next
    dsimp only
    split
    · rename_i h
      exact .ask now request h
    · exact .idle
  | send place =>
    unfold next
    dsimp only
    split
    · rename_i h
      exact .send h
    · exact .idle
    · exact .idle
  | reply place reply =>
    unfold next
    dsimp only
    split
    · rename_i h
      exact .reply h reply
    · exact .idle
    · exact .idle
  | leave place => exact .leave place

section

variable {line : Line} {w : Standing} {place : Nat}

theorem run_append (line : Line) (moves moves' : List Move) :
    line.run (moves ++ moves') = (line.run moves).run moves' :=
  List.foldl_append

theorem forall_mem_join {P : Standing → Prop} (h : ∀ v ∈ line.standing, P v) (hw : P w) :
    ∀ v ∈ (line.join w).standing, P v := by
  intro v hv
  rcases List.mem_append.mp hv with hv | hv
  · exact h v hv
  · rw [List.mem_singleton.mp hv]
    exact hw

theorem forall_mem_without {P : Standing → Prop} (h : ∀ v ∈ line.standing, P v) :
    ∀ v ∈ (line.without place).standing, P v :=
  fun v hv => h v (List.mem_of_mem_eraseIdx hv)

theorem owed_join : (line.join w).owed = line.owed + if w.stage.isReady then 1 else 0 := by
  rw [owed, join, List.countP_append, List.countP_singleton, owed]

/-- A request that goes takes with it the command that it has to send. -/
theorem owed_without (h : line.standing[place]? = some w) :
    (line.without place).owed + (if w.stage.isReady then 1 else 0) = line.owed := by
  obtain ⟨hplace, rfl⟩ := List.getElem?_eq_some_iff.mp h
  have hperm := (List.getElem_cons_eraseIdx_perm hplace).countP_eq (·.stage.isReady)
  rwa [List.countP_cons] at hperm

theorem owed_without_le : (line.without place).owed ≤ line.owed :=
  (List.eraseIdx_sublist line.standing place).countP_le

end

end Line

/-! ## What the requests that stand still have to say -/

/-- A ping that got at the connection: it has the one command to send, or has sent it; and whatever the
reply, it is answered. -/
inductive Standing.IsPing : Standing → Prop where
  | ready {next : Reply → Dialogue (Answer BrokerError Unit × Session)}
      (h : ∀ reply, ∃ outcome, next reply = .done outcome) : IsPing ⟨.ping, .ready .ping next⟩
  | waiting {next : Reply → Dialogue (Answer BrokerError Unit × Session)}
      (h : ∀ reply, ∃ outcome, next reply = .done outcome) : IsPing ⟨.ping, .waiting next⟩

theorem Standing.IsPing.request_eq {w : Standing} (h : w.IsPing) : w.request = .ping := by
  cases h <;> rfl

namespace Line

/-- Every request that stands is a submission or a ping. -/
def Orderly (line : Line) : Prop :=
  ∀ w ∈ line.standing, (∃ call, w.request = .submit call) ∨ w.IsPing

theorem orderly_start (s : Session) : (start s).Orderly := fun _ hw => by cases hw

theorem Orderly.proceed_submit {line : Line} (h : line.Orderly) (call : Call)
    (d : Dialogue (Answer BrokerError Unit × Session)) : (line.proceed (.submit call) d).1.Orderly := by
  cases d with
  | done outcome => exact h
  | send command next => exact forall_mem_join h (Or.inl ⟨call, rfl⟩)

theorem Orderly.enter_ping {line : Line} (h : line.Orderly) (now : Instant) :
    (line.enter now .ping).1.Orderly := by
  rw [enter]
  cases hheld : line.session.held with
  | false =>
    rw [(Session.final_of_released hheld now).ask .ping]
    exact h
  | true =>
    obtain ⟨next, hping, hanswered⟩ := Session.ask_ping_of_held hheld now
    rw [hping]
    exact forall_mem_join h (Or.inr (.ready hanswered))

/-- **Every move keeps order among those who stand.** -/
theorem Orderly.turn {line line' : Line} {effect : Effect} (h : line.Orderly)
    (hturn : line.Turn line' effect) : line'.Orderly := by
  cases hturn with
  | idle => exact h
  | ask now request _ =>
    cases request with
    | submit call => exact h.proceed_submit call _
    | ping => exact h.enter_ping now
    | close => exact h
  | @send place request command next hplace =>
    refine forall_mem_join (forall_mem_without h) ?_
    rcases h _ (List.mem_of_getElem? hplace) with hsubmit | hping
    · exact Or.inl hsubmit
    · cases hping with
      | ready hanswered => exact Or.inr (.waiting hanswered)
  | @reply place request next hplace reply =>
    have hrest : (line.without place).Orderly := forall_mem_without h
    rcases h _ (List.mem_of_getElem? hplace) with ⟨call, hcall⟩ | hping
    · rw [show request = .submit call from hcall]
      exact hrest.proceed_submit call _
    · cases hping with
      | waiting hanswered =>
        obtain ⟨outcome, hdone⟩ := hanswered reply
        rw [hdone]
        exact hrest
  | leave place => exact forall_mem_without h

theorem Orderly.run {line : Line} (h : line.Orderly) (moves : List Move) : (line.run moves).Orderly := by
  induction moves generalizing line with
  | nil => exact h
  | cons move moves ih => exact ih (h.turn (line.turn_next move))

/-- A submission that gets at the connection stands with its queue to register. -/
theorem next_submit_of_held {line : Line} (h : line.session.held = true) (now : Instant) (call : Call) :
    line.next (.ask now (.submit call)) =
      (line.join ⟨.submit call, .ready (.registerQueue call.record.queue) fun reply =>
          Dialogue.bind
            (match reply.fault? with
              | some fault => .done ⟨.error (.remote fault), []⟩
              | none => line.session.runScript call call.record.encode now)
            fun answer => .done (answer, line.session)⟩, .idle) := by
  show line.proceed (.submit call) ((line.session.submit now call).bind _) = _
  rw [Session.submit_eq_of_held h]
  rfl

/-! ## A close and what comes after it -/

theorem admits_close_iff {line : Line} :
    line.admits .close = true ↔ ∀ w ∈ line.standing, w.request.holds = false := by
  simp [admits]

/-- **When a close is answered**: as soon as no submission is on its way. -/
theorem answered_close_iff {line : Line} {now : Instant} :
    (∃ answer, (line.next (.ask now .close)).2 = .told .close answer) ↔
      ∀ w ∈ line.standing, w.request.holds = false := by
  rw [← admits_close_iff]
  unfold Line.next
  dsimp only
  cases line.admits .close with
  | true => exact iff_of_true ⟨_, rfl⟩ rfl
  | false =>
    refine iff_of_false ?_ Bool.false_ne_true
    rintro ⟨answer, h⟩
    cases h

theorem next_close {line : Line} {now : Instant} (h : ∀ w ∈ line.standing, w.request.holds = false) :
    line.next (.ask now .close) =
      ({ line with session := line.session.release },
        .told .close ⟨.ok (), if line.session.held then [.remoteClosed] else []⟩) := by
  unfold Line.next
  dsimp only
  rw [if_pos (admits_close_iff.mpr h)]
  rfl

/-- The connection is given up, and only pings stand. -/
structure Released (line : Line) : Prop where
  held : line.session.held = false
  pings : ∀ w ∈ line.standing, w.IsPing

/-- A close that is answered finds nobody but pings. -/
theorem Orderly.pings_of_close {line : Line} (h : line.Orderly)
    (hwait : ∀ w ∈ line.standing, w.request.holds = false) : ∀ w ∈ line.standing, w.IsPing := by
  intro w hw
  rcases h w hw with ⟨call, hcall⟩ | hping
  · -- A submission that stands would have kept the close waiting.
    have hholds := hwait w hw
    rw [hcall] at hholds
    cases hholds
  · exact hping

/-- **A request that comes later is answered at once**, and nothing changes. -/
theorem Released.next_ask {line : Line} (h : line.Released) (now : Instant) (request : Request) :
    line.next (.ask now request) = (line, .told request request.refused) := by
  have hadmits : line.admits request = true := by
    cases request with
    | submit call | ping => rfl
    | close =>
      refine admits_close_iff.mpr fun w hw => ?_
      rw [(h.pings w hw).request_eq]
      rfl
  unfold Line.next
  dsimp only
  rw [if_pos hadmits, enter, (Session.final_of_released h.held now).ask request]
  cases request <;> rfl

/-- From one session in use to a later one, while the last pings leave. -/
structure Fades (line line' : Line) (effects : List Effect) : Prop where
  released : line'.Released
  session : line'.session = line.session
  pings : ∀ command, .sent command ∈ effects → command = .ping
  /-- Every command that is sent was owed, and is not owed any more. -/
  owed : line'.owed + effects.countP Effect.isSent ≤ line.owed

/-- A move by which nothing is sent. -/
theorem Released.fades_quietly {line line' : Line} (h : line'.Released)
    (hsession : line'.session = line.session) (howed : line'.owed ≤ line.owed) {effect : Effect}
    (hquiet : effect.isSent = false) : line.Fades line' [effect] where
  released := h
  session := hsession
  pings command hmem := by
    rw [← List.mem_singleton.mp hmem] at hquiet
    cases hquiet
  owed := by
    rw [List.countP_singleton, hquiet]
    exact howed

theorem Released.without {line : Line} (h : line.Released) (place : Nat) : (line.without place).Released :=
  ⟨h.held, forall_mem_without h.pings⟩

theorem Released.fades_self {line : Line} (h : line.Released) {effect : Effect}
    (hquiet : effect.isSent = false) : line.Fades line [effect] :=
  h.fades_quietly rfl (Nat.le_refl _) hquiet

theorem Released.fades_without {line : Line} (h : line.Released) (place : Nat) {effect : Effect}
    (hquiet : effect.isSent = false) : line.Fades (line.without place) [effect] := by
  refine (h.without place).fades_quietly ?_ owed_without_le hquiet
  rfl

/-- **Every move of a session that is given up is one by which the last pings leave.** -/
theorem Released.turn {line line' : Line} {effect : Effect} (h : line.Released)
    (hturn : line.Turn line' effect) : line.Fades line' [effect] := by
  cases hturn with
  | idle => exact h.fades_self rfl
  | ask now request _ =>
    rw [enter, (Session.final_of_released h.held now).ask request]
    cases request <;> exact h.fades_self rfl
  | @send place request command next hplace =>
    -- The one command of a ping: what is owed by one less is sent.
    cases h.pings _ (List.mem_of_getElem? hplace) with
    | ready hanswered =>
      refine ⟨⟨h.held, forall_mem_join (h.without place).pings (.waiting hanswered)⟩, rfl, ?_, ?_⟩
      · intro sent hmem
        cases List.mem_singleton.mp hmem
        rfl
      · rw [owed_join, ← owed_without hplace]
        exact Nat.le_refl _
  | @reply place request next hplace reply =>
    cases h.pings _ (List.mem_of_getElem? hplace) with
    | waiting hanswered =>
      obtain ⟨⟨answer, session⟩, hdone⟩ := hanswered reply
      rw [hdone]
      exact h.fades_without place rfl
  | leave place => exact h.fades_without place rfl

theorem Fades.trans {line line' line'' : Line} {effects effects' : List Effect}
    (h : line.Fades line' effects) (h' : line'.Fades line'' effects') :
    line.Fades line'' (effects ++ effects') where
  released := h'.released
  session := h'.session.trans h.session
  pings command hmem := by
    rcases List.mem_append.mp hmem with hmem | hmem
    · exact h.pings command hmem
    · exact h'.pings command hmem
  owed := by
    have hfirst := h.owed
    have hthen := h'.owed
    rw [List.countP_append]
    omega

/-- **After a close** nothing but pings is sent, and no more of them than had a handle and had not sent. -/
theorem Released.run {line : Line} (h : line.Released) (moves : List Move) :
    line.Fades (line.run moves) (line.effects moves) := by
  induction moves generalizing line with
  | nil => exact ⟨h, rfl, fun _ hmem => (List.not_mem_nil hmem).elim, Nat.le_refl _⟩
  | cons move moves ih =>
    have hturn := h.turn (line.turn_next move)
    exact hturn.trans (ih hturn.released)

end Line

end TaskQueue
