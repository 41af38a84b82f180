import FormatBridge.Proofs.Result

set_option autoImplicit false

/-! # What becomes of a request that was accepted

A connection accepts requests until it has ended, but it takes them up only while it runs. When it
leaves the running phase no request waits to be taken up (`Chosen.queue_nil`), so every request that
was accepted until then was taken up, and by the end its waiter was told once. A request that is
accepted while the writer finishes what it has is never taken up, and its waiter is never told. -/

namespace FormatBridge

variable {κ : Type}

/-! ## Leaving the running phase -/

namespace Connection

/-- Whether no request waits to be taken up once none can come any more. -/
def Swept (c : Connection κ) : Prop :=
  c.phase = .running → c.accepting = false → c.queue = []

/-- **Whatever a running connection does but take a request up, it does with an empty queue.** -/
theorem Chosen.queue_nil {c : Connection κ} {m : Move κ} (hm : c.Chosen m)
    (hrun : c.phase = .running) (hswept : c.Swept) (htake : ∀ s rest, m ≠ .take s rest) :
    c.queue = [] := by
  have hsettled (h : c.accept? = none) : c.queue = [] := by
    cases hacc : c.accepting with
    | true => exact (accept?_eq_none_iff.1 h hacc).1
    | false => exact hswept hrun hacc
  cases hm with
  | stop hrun hsealed hquiet => exact hswept hrun hsealed
  | take hrun haccepting hqueue => exact absurd rfl (htake _ _)
  | close hrun haccepting hqueue halone => exact hqueue
  | write hrun hbusy hnone hwriting hstep => exact hsettled hnone
  | read hrun hbusy hnone hidle hstep => exact hsettled hnone
  | drain hdrain hstep =>
    rw [hrun] at hdrain
    contradiction

theorem Finishes.ne_take {c : Connection κ} {m : Move κ} {reader : LineReader}
    (hm : c.Finishes m reader) (s : Submission κ) (rest : List (Submission κ)) :
    m ≠ .take s rest := by
  cases hm <;> simp

theorem Fails.ne_take {c : Connection κ} {m : Move κ} {error : TransportError}
    {reader : LineReader} (hm : c.Fails m error reader) (s : Submission κ)
    (rest : List (Submission κ)) : m ≠ .take s rest := by
  cases hm <;> simp

/-- Whether a request was taken up, or waits for that while the connection runs. -/
def Pursues (c : Connection κ) (h : History κ) (s : Submission κ) : Prop :=
  (∃ r ∈ h.taken, r.request = s) ∨ c.phase = .running ∧ s ∈ c.queue

end Connection

namespace Advance

variable {session : String} {c c' : Connection κ} {h h' : History κ} {m : Move κ}

theorem swept (ha : Advance session c h m c' h') (hswept : c.Swept) : c'.Swept := by
  intro hrun hsealed
  cases ha with
  | take running accepting =>
    rw [accepting] at hsealed
    contradiction
  | close running queue => exact queue
  | finish | fail | shutDown | giveUp => contradiction
  | _ => exact hswept hrun hsealed

/-- A request is not lost in a move: it is taken up, or goes on waiting for that. -/
theorem pursues (ha : Advance session c h m c' h') (hm : c.Chosen m) (hswept : c.Swept)
    {s : Submission κ} (hs : c.Pursues h s) : c'.Pursues h' s := by
  cases ha with
  | @take first rest running accepting queue ids =>
    rcases hs with ⟨r, hr, hsame⟩ | ⟨hrun, hmem⟩
    · exact .inl ⟨r, List.mem_append_left _ hr, hsame⟩
    rw [queue] at hmem
    rcases List.mem_cons.1 hmem with rfl | hmem
    · exact .inl ⟨_, List.mem_append_right _ (List.mem_singleton_self _), rfl⟩
    · exact .inr ⟨hrun, hmem⟩
  | finish running quiet finishes =>
    -- what would still wait here would be lost
    refine hs.imp id ?_
    rintro ⟨-, hmem⟩
    rw [hm.queue_nil running hswept finishes.ne_take] at hmem
    exact absurd hmem List.not_mem_nil
  | fail running fails writing =>
    refine hs.imp id ?_
    rintro ⟨-, hmem⟩
    rw [hm.queue_nil running hswept fails.ne_take] at hmem
    exact absurd hmem List.not_mem_nil
  | shutDown draining | giveUp draining =>
    refine hs.imp id ?_
    rintro ⟨hrun, -⟩
    rw [draining] at hrun
    contradiction
  | _ => exact hs

/-- A connection that runs no more takes nothing up and does not run again. -/
theorem stopped (ha : Advance session c h m c' h') (hstop : c.phase ≠ .running) :
    c'.phase ≠ .running ∧ h'.taken = h.taken := by
  cases ha with
  | flush draining => exact ⟨hstop, rfl⟩
  | shutDown | giveUp => exact ⟨by simp, rfl⟩
  | _ => contradiction

end Advance

/-! ## Whole runs -/

namespace Traffic

variable {session : String} {outlet : Outlet}

theorem swept_meet {t : Traffic κ} (hl : Ledger session t.connection t.history) {script : List (Event κ)}
    (hsourced : Sourced outlet script t) (hswept : t.connection.Swept) (e : Event κ) :
    (t.meet e).connection.Swept := by
  cases e with
  | submit s =>
    simp only [meet]
    split
    · exact hswept
    · rename_i hhandles
      rw [connection_submit]
      split
      · exact hswept
      · -- a handle is left, so the connection has not seen that none is
        intro hrun hsealed
        exact absurd (hsourced.alone (hsourced.closed hsealed)) hhandles
  | clone =>
    simp only [meet]
    split <;> exact hswept
  | drop =>
    simp only [meet]
    split <;> exact hswept
  | peer e => cases e <;> exact hswept
  | turn =>
    simp only [meet, turn]
    split
    · exact hswept
    · rename_i m hm
      exact (Advance.of_next hl hm).swept hswept

theorem pursues_meet {t : Traffic κ} (hl : Ledger session t.connection t.history)
    (hswept : t.connection.Swept) {s : Submission κ} (hs : t.connection.Pursues t.history s)
    (e : Event κ) : (t.meet e).connection.Pursues (t.meet e).history s := by
  cases e with
  | submit s' =>
    simp only [meet]
    split
    · exact hs
    have haside := t.aside_submit s'
    rw [Connection.Pursues, haside.taken, haside.phase, connection_submit]
    refine hs.imp id (And.imp id ?_)
    intro hmem
    split
    · exact hmem
    · exact List.mem_append_left _ hmem
  | clone =>
    simp only [meet]
    split <;> exact hs
  | drop =>
    simp only [meet]
    split <;> exact hs
  | peer e => cases e <;> exact hs
  | turn =>
    simp only [meet, turn]
    split
    · exact hs
    · rename_i m hm
      exact (Advance.of_next hl hm).pursues (Connection.chosen_of_next hm) hswept hs

theorem swept_run {script : List (Event κ)} (hfew : (waiters script).length < Counter.size) :
    (run session outlet script).connection.Swept := by
  induction script using List.reverseRecOn with
  | nil => exact fun _ _ => rfl
  | append_singleton script e ih =>
    rw [waiters_append, List.length_append] at hfew
    have hsourced := (@cause_run κ session outlet script (by omega)).1
    rw [run_append]
    exact swept_meet (ledger_run script (by omega)) hsourced (ih (by omega)) e

/-- A request is pursued from the moment at which a running connection accepts it. -/
theorem pursues_run {front back : List (Event κ)} {s : Submission κ}
    (hfew : (waiters (front ++ .submit s :: back)).length < Counter.size)
    (hhandles : (run session outlet front).handles ≠ 0)
    (hrun : (run session outlet front).connection.phase = .running) :
    let t := run session outlet (front ++ .submit s :: back)
    t.connection.Pursues t.history s := by
  induction back using List.reverseRecOn with
  | nil =>
    have hopen := Connection.isClosed_of_running hrun
    rw [run_append, meet, if_neg hhandles]
    refine .inr ⟨((aside_submit ..).phase).trans hrun, ?_⟩
    rw [connection_submit, hopen]
    exact List.mem_append_right _ (List.mem_singleton_self s)
  | append_singleton back e ih =>
    rw [← List.cons_append, ← List.append_assoc, waiters_append, List.length_append] at hfew
    rw [← List.cons_append, ← List.append_assoc, run_append]
    exact pursues_meet (ledger_run _ (by omega)) (swept_run (by omega)) (ih (by omega)) e

/-- Behind the running phase nothing is taken up any more. -/
theorem taken_run {front back : List (Event κ)}
    (hfew : (waiters (front ++ back)).length < Counter.size)
    (hstop : (run session outlet front).connection.phase ≠ .running) :
    (run session outlet (front ++ back)).connection.phase ≠ .running ∧
      (run session outlet (front ++ back)).history.taken =
        (run session outlet front).history.taken := by
  induction back using List.reverseRecOn with
  | nil => simpa using hstop
  | append_singleton back e ih =>
    rw [← List.append_assoc, waiters_append, List.length_append] at hfew
    obtain ⟨hphase, htaken⟩ := ih (by omega)
    rw [← List.append_assoc, run_append]
    rcases meet_cases (ledger_run (front ++ back) (by omega)) e with haside | ⟨m, -, -, hadvance⟩
    · exact ⟨haside.phase ▸ hphase, haside.taken.trans htaken⟩
    · obtain ⟨hlater, hsame⟩ := hadvance.stopped hphase
      exact ⟨hlater, hsame.trans htaken⟩

/-- The waiters of the requests that were taken up are among those of the script, in their order. -/
theorem taken_waiters {script : List (Event κ)} (hfew : (waiters script).length < Counter.size) :
    ((run session outlet script).history.taken.map (·.request.waiter)).Sublist (waiters script) := by
  have hl := @ledger_run κ session outlet script hfew
  have htaken := (hl.accepted.map (·.waiter)).sublist
  rw [List.map_map] at htaken
  exact htaken.trans (accepted_run script)

end Traffic

/-- Whoever waits for no request that was taken up is told nothing. -/
theorem Ledger.told_nil [DecidableEq κ] {session : String} {c : Connection κ} {h : History κ}
    (hl : Ledger session c h) {waiter : κ} (hnone : waiter ∉ h.taken.map (·.request.waiter)) :
    h.told waiter = [] := by
  rw [History.told, List.map_eq_nil_iff, List.filter_eq_nil_iff]
  intro p hp hsame
  obtain ⟨r, hr, rfl⟩ := List.mem_map.1 (hl.told.mem_iff.1 hp)
  exact hnone (List.mem_map.2 ⟨r, (List.mem_filter.1 hr).1, of_decide_eq_true hsame⟩)

namespace Traffic

variable [DecidableEq κ]

/-- **What becomes of each request.** In a run of a connection to its end in which each request has
    its own waiter and the ids do not run out, a request that is submitted while the connection runs
    is accepted, and its waiter is told once. One that is submitted behind a good end, while the
    writer finishes what it has, is accepted as well, but its waiter is told nothing; one that is
    submitted behind the end is refused, and its waiter is told nothing. -/
theorem told_once_iff_running (session : String) (outlet : Outlet) (front back : List (Event κ))
    (s : Submission κ) (hown : (waiters (front ++ .submit s :: back)).Nodup)
    (hfew : (waiters (front ++ .submit s :: back)).length < Counter.size)
    (hhandles : (run session outlet front).handles ≠ 0) {result : Except TransportError Unit}
    (hended : (run session outlet (front ++ .submit s :: back)).connection.phase = .ended result) :
    let before := (run session outlet front).connection
    let answer := (before.submit s.kind s.payload s.waiter).1
    let told := (run session outlet (front ++ .submit s :: back)).history.told s.waiter
    (before.phase = .running → answer = .ok () ∧ ∃ reply, told = [reply]) ∧
      (before.phase = .draining → answer = .ok () ∧ told = []) ∧
      ∀ early, before.phase = .ended early → answer = .error .stopped ∧ told = [] := by
  intro before answer told
  let t := run session outlet (front ++ .submit s :: back)
  have hl : Ledger session t.connection t.history := ledger_run _ hfew
  have hpast : before.phase ≠ .running → told = [] := by
    intro hstop
    obtain ⟨-, htaken⟩ := taken_run hfew hstop
    refine hl.told_nil ?_
    rw [htaken]
    intro hmem
    have hearlier := (taken_waiters (by
      rw [waiters, List.filterMap_append, List.length_append] at hfew
      exact Nat.lt_of_le_of_lt (Nat.le_add_right ..) hfew)).subset hmem
    rw [waiters, List.filterMap_append] at hown
    exact (List.nodup_append.1 hown).2.2 _ hearlier _ (List.mem_cons_self ..) rfl
  refine ⟨?_, ?_, ?_⟩
  · intro hrun
    refine ⟨by simp [answer, Connection.submit, Connection.isClosed_of_running hrun], ?_⟩
    rcases pursues_run hfew hhandles hrun with ⟨r, hr, rfl⟩ | ⟨hstill, -⟩
    · have htold := hl.told_eq (hown.sublist (taken_waiters hfew)) hr
      have hstop : t.connection.isRunning = false := by simp [Connection.isRunning, t, hended]
      rw [if_neg (by simp [Connection.awaits_of_not_running hstop])] at htold
      exact ⟨_, htold⟩
    · rw [hended] at hstill
      contradiction
  · intro hdrain
    exact ⟨by simp [answer, Connection.submit, Connection.isClosed, hdrain], hpast (by simp [hdrain])⟩
  · intro early hearly
    exact ⟨by simp [answer, Connection.submit, Connection.isClosed, hearly], hpast (by simp [hearly])⟩

theorem told_once_iff_running_input_ended :
    let front : List (Event Nat) := [.submit ⟨"a", .null, 0⟩, .turn]
    let back : List (Event Nat) := [.turn, .turn, .peer .endInput, .turn]
    let s : Submission Nat := ⟨"b", .null, 1⟩
    (waiters (front ++ .submit s :: back)).Nodup ∧
      (waiters (front ++ .submit s :: back)).length < Counter.size ∧
      (run "s" .unlimited front).handles ≠ 0 ∧
      (run "s" .unlimited (front ++ .submit s :: back)).connection.phase =
        .ended (.error (.inputEnded 2)) ∧
      ∃ reply, (run "s" .unlimited (front ++ .submit s :: back)).history.told s.waiter = [reply] := by
  intro front back s
  have hown : (waiters (front ++ .submit s :: back)).Nodup := by decide
  have hfew : (waiters (front ++ .submit s :: back)).length < Counter.size := by decide
  have hhandles : (run "s" .unlimited front).handles ≠ 0 := by decide +kernel
  have hended : (run "s" .unlimited (front ++ .submit s :: back)).connection.phase =
      .ended (.error (.inputEnded 2)) := by decide +kernel
  obtain ⟨hrunning, -⟩ := told_once_iff_running "s" .unlimited front back s hown hfew hhandles hended
  exact ⟨hown, hfew, hhandles, hended, (hrunning (by decide +kernel)).2⟩

/-- A backend that answers a request before it takes it and then closes its output lets a connection
    end well while its writer still waits: what is accepted now is lost. -/
theorem accepted_and_never_told :
    let reply := Message.replyTo (.request "s_0" "a" "s" .null) "r" .null
    let blocked : Outlet := ⟨some 0, false, false⟩
    let front : List (Event Nat) := [.submit ⟨"a", .null, 0⟩, .turn, .peer (.feed reply.line),
      .turn, .peer .endInput, .turn]
    let s : Submission Nat := ⟨"b", .null, 1⟩
    let t := run "s" blocked (front ++ .submit s :: [.peer (.widen none), .turn, .turn])
    ((run "s" blocked front).connection.submit s.kind s.payload s.waiter).1 = .ok () ∧
      t.connection.phase = .ended (.ok ()) ∧ t.history.told s.waiter = [] := by
  decide +kernel

end Traffic

end FormatBridge
