import TaskQueue.Proofs.Remote.Closing
import TaskQueue.Proofs.Remote.Invocation
import TaskQueue.Proofs.Store.Closing

/-!
# Closing is final

The store in memory is closed by a flag that every request looks at before it looks at what the store holds,
and the connection to a remote store by giving it up.  Neither is ever undone, so whoever comes after a
close, whatever they ask and whatever has happened since, is told the same.

What is not true is that the connection is silent from then on: a ping that has taken a handle is not waited
for, and sends its command when it comes to it (`ping_follows_close`).  Submissions are waited for.

Principal result: `close_is_final` — what follows a close in any run of either broker.
-/

set_option autoImplicit false

namespace TaskQueue

/-- **Closing is final.**  Let a store in memory be closed in any state, and let anything happen then: all
its clients are told that it is closed, and what it held can still be read, except that a cleanup drops the
guards that have expired.  Let a connection be given up while other requests stand: these are pings.  Once the
close is answered, no command is sent any more but one `PING` for each ping that had a handle and had not sent
yet, and every later request is answered at once, whoever makes it.  Submissions at fault are told so in all
these cases, as they were before. -/
theorem close_is_final :
    (∀ (c : Clock) (es es' : List Event),
      let m := (Moment.start c).run es
      let m' := (m.next .close).run es'
      (∀ now, (Store.broker now).Final m'.store) ∧
        m.store.Readable m'.store m'.clock.steady ∧
        ((∀ age, .cleanup age ∉ es') → m'.store = m.store.close)) ∧
    ∀ (s : Session) (moves moves' : List Move) (now : Instant) (answer : Answer BrokerError Unit),
      let line := (Line.start s).run moves
      let closed := line.next (.ask now .close)
      let line' := closed.1.run moves'
      closed.2 = .told .close answer →
        answer.result = .ok () ∧
          (∀ w ∈ line.standing, w.request = .ping) ∧
          (∀ command, .sent command ∈ closed.1.effects moves' → command = .ping) ∧
          (closed.1.effects moves').countP Effect.isSent ≤ line.owed ∧
          line'.session = line.session.release ∧
          (∀ later, (Session.broker later).Final line'.session) ∧
          ∀ later request, line'.next (.ask later request) = (line', .told request request.refused) := by
  constructor
  · intro c es es' m m'
    have h := m.closedWith_run_close es'
    exact ⟨Store.final_of_closed h.closed, h.remains.readable,
      fun hes => Moment.store_run_of_closed hes (m := m.next .close) rfl⟩
  · intro s moves moves' now answer line closed line' hclosed
    have hwait := Line.answered_close_iff.mp ⟨answer, hclosed⟩
    have hnext : closed = _ := Line.next_close hwait
    -- Only pings stand when the close is answered, and from then on they leave.
    have hpings := ((Line.orderly_start s).run moves).pings_of_close hwait
    have hreleased : closed.1.Released := by
      rw [hnext]
      exact ⟨rfl, hpings⟩
    have hfades := hreleased.run moves'
    refine ⟨?_, fun w hw => (hpings w hw).request_eq, hfades.pings, ?_, ?_,
      Session.final_of_released hfades.released.held, hfades.released.next_ask⟩
    · rw [hnext] at hclosed
      cases hclosed
      rfl
    · have howed : closed.1.owed = line.owed := by
        rw [hnext]
        rfl
      rw [← howed]
      exact Nat.le_of_add_left_le hfades.owed
    · rw [hfades.session]
      exact congrArg (·.1.session) hnext

/-- A close that comes while a submission and two pings are on their way waits for the submission alone.  Of
the pings one has sent its command and one has not: the latter sends it, and a submission that comes later
sends nothing. -/
theorem close_is_final_of_overlapping :
    let call : Call := ⟨{ id := "1", queue := "mail" }, .enqueue⟩
    let begun := (Line.start Session.named).run
      [.ask .epoch .ping, .ask .epoch .ping, .send 0, .ask .epoch (.submit call)]
    let line := begun.run [.send 2, .reply 2 (.int 1), .send 2, .reply 2 (.int 1)]
    let closed := line.next (.ask .epoch .close)
    (begun.next (.ask .epoch .close)).2 = .idle ∧ line.standing.length = 2 ∧ line.owed = 1 ∧
      closed.2 = .told .close ⟨.ok (), [.remoteClosed]⟩ ∧
      let effects := closed.1.effects [.ask .epoch (.submit call), .send 0, .reply 0 (.status "PONG"), .send 0]
      effects.countP Effect.isSent ≤ 1 ∧ ∀ command, .sent command ∈ effects → command = .ping := by
  intro call begun line closed
  let pings := (Line.start Session.named).run [.ask .epoch .ping, .ask .epoch .ping, .send 0]
  have hbegun : begun = _ := congrArg Prod.fst (@Line.next_submit_of_held pings rfl .epoch call)
  have hline : line = (Line.start Session.named).run
      ([.ask .epoch .ping, .ask .epoch .ping, .send 0, .ask .epoch (.submit call)] ++
        [.send 2, .reply 2 (.int 1), .send 2, .reply 2 (.int 1)]) :=
    ((Line.start Session.named).run_append _ _).symm
  have howed : line.owed = 1 := by
    simp only [line, hbegun]
    rfl
  have hclosed : closed.2 = .told .close ⟨.ok (), [.remoteClosed]⟩ := by
    simp only [closed, line, hbegun]
    rfl
  refine ⟨?_, ?_, howed, hclosed, ?_⟩
  · rw [hbegun]
    rfl
  · simp only [line, hbegun]
    rfl
  · intro effects
    simp only [closed, hline] at hclosed
    obtain ⟨-, -, hpings, hsent, -⟩ := close_is_final.2 Session.named _ _ .epoch _ hclosed
    rw [← hline, howed] at hsent
    rw [← hline] at hpings
    exact ⟨hsent, hpings⟩

/-- **A command follows a close.**  A ping takes a handle, somebody closes and is told that all is well, another
ping is refused; then the first one sends its command. -/
theorem ping_follows_close :
    let line := (Line.start Session.named).run [.ask .epoch .ping]
    let closed := line.next (.ask .epoch .close)
    closed.2 = .told .close ⟨.ok (), [.remoteClosed]⟩ ∧ closed.1.session.held = false ∧
      closed.1.effects [.ask .epoch .ping, .send 0] = [.told .ping ⟨.error .closed, []⟩, .sent .ping] := by
  exact ⟨rfl, rfl, rfl⟩

end TaskQueue
