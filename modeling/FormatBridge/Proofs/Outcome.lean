import FormatBridge.Proofs.Course
import FormatBridge.Run

set_option autoImplicit false

/-! # What comes of a run against any backend

A job's host asks once for every file and lets go of everything that could ask again; from then on
it is left to the backend, whatever that does. When the connection has ended, the files whose own
request was answered with formatted code have that code as their text, and every other file has the
text that was read and one failure (`outcome_of_any_backend`). -/

namespace FormatBridge.Job

open Host

/-! ## The opening -/

/-- A job's dispatcher. -/
def dispatcher (j : Job) : Dispatcher := ⟨.handle .connection, j.settings.channel.requestKind, true⟩

/-- A job's host once its dispatcher is bound to the format action. -/
def bound (j : Job) (session : String) (outlet : Outlet) : Host :=
  let name := j.settings.action.fullName
  let action : Action Handler := ⟨j.settings.action.icon, j.settings.action.label, .format 0⟩
  { j.host session outlet with
    handles := [⟨.connection, false⟩]
    dispatchers := [⟨j.dispatcher, true⟩]
    plugins := [⟨⟨0, j.settings.action, 0, some name⟩, true⟩]
    tables := [⟨[(name, action)], [[name]]⟩] }

/-- A job's host when it is left to the backend. -/
def opened (j : Job) (session : String) (outlet : Outlet) : Host :=
  ((j.host session outlet).obeyAll j.opening).2.2.updateConnected

theorem begin_eq (j : Job) (session : String) :
    (j.begin session).2.2 = (j.opened session .unlimited).settle.2.2 := rfl

/-- The requests of a job, one for each file. -/
def requests (j : Job) : List (Submission Waiter) :=
  (j.files.map (·.buffer)).mapIdx fun i b =>
    ⟨j.settings.channel.requestKind, b.request.payload, .buffer i true⟩

variable (j : Job) (session : String) (outlet : Outlet)

theorem obey_invoke :
    ((j.bound session outlet).obey (.invoke j.settings.action.fullName)).2.2 =
      (j.bound session outlet).queueing j.requests := by
  have hget : (j.bound session outlet).table.get? j.settings.action.fullName =
      some ⟨j.settings.action.icon, j.settings.action.label, .format 0⟩ := by
    simp [Host.table, bound, ActionTable.get?]
  have hformat : ((j.bound session outlet).obey (.invoke j.settings.action.fullName)).2.2 =
      ((j.bound session outlet).formatSelection j.dispatcher).2.2 := by
    simp only [obey, invoke, hget]
    rfl
  have hrequests : (j.bound session outlet).selection.filterMap
      ((j.bound session outlet).submission? j.dispatcher) = j.requests := by
    have hall := Course.submissions_eq (j.bound session outlet) j.dispatcher
    have hselection : (j.bound session outlet).selection =
        List.range (j.bound session outlet).buffers.length := rfl
    rw [hselection, hall]
    rfl
  rw [hformat, formatSelection_eq _ rfl rfl, hrequests]

/-- What is left of the host when it has let go of everything. -/
theorem opened_eq : j.opened session outlet =
    { (j.bound session outlet).queueing j.requests with
      plugins := release (j.bound session outlet).plugins 0
      dispatchers := release (j.bound session outlet).dispatchers 0
      tables := (j.bound session outlet).tables ++ [.empty]
      connection := ((j.bound session outlet).queueing j.requests).connection.disconnect } := by
  have hsteps : ((j.host session outlet).obeyAll j.opening).2.2 =
      (((j.bound session outlet).obey (.invoke j.settings.action.fullName)).2.2.obeyAll
        [.dropPlugin 0, .dropDispatcher 0, .dropTable]).2.2 := rfl
  rw [opened, hsteps, obey_invoke]
  rfl

theorem opened_queue : (j.opened session outlet).connection.queue = j.requests := by
  rw [opened_eq]
  rfl

theorem opened_buffers : (j.opened session outlet).buffers = j.files.map (·.buffer) := by
  rw [opened_eq]
  rfl

theorem opened_ready (hfew : j.files.length < Counter.size) :
    Course.Ready session (j.opened session outlet) := by
  refine ⟨⟨outlet, j.requests, ?_⟩, ?_⟩
  · rw [opened_eq]
    rfl
  · rw [opened_queue, requests, List.length_mapIdx, List.length_map]
    exact hfew

theorem opened_asks : Course.AsksForAll (j.opened session outlet) j.dispatcher := by
  refine ⟨rfl, ?_⟩
  rw [Course.submissions_eq, opened_queue, opened_buffers]
  rfl

/-- A run of the program is a course: it begins by letting the connection go on, and goes on so
    after everything that the peer does. -/
theorem course_of_run (hfew : j.files.length < Counter.size) (events : List PeerEvent) :
    ∃ script, events.foldl (fun h e => (h.step e.command false).2.2) (j.begin session).2.2 =
      (Course.run (j.opened session .unlimited) script).host := by
  induction events using List.reverseRecOn with
  | nil =>
    obtain ⟨n, hn⟩ := Course.settle_eq (Course.start (j.opened session .unlimited))
    rw [List.foldl_nil, begin_eq]
    exact ⟨List.replicate n .turn, hn⟩
  | append_singleton events e ih =>
    obtain ⟨script, hscript⟩ := ih
    have hholds := Course.run_holds (j.opened_ready session .unlimited hfew) script
    obtain ⟨n, hn⟩ := Course.step_eq hholds.alone.disconnected e
    refine ⟨script ++ .peer e :: List.replicate n .turn, ?_⟩
    rw [List.foldl_append, List.foldl_cons, List.foldl_nil, hscript, hn, Course.run_append]

/-! ## The outcome -/

/-- What the answers to the requests that were taken up say, in order. -/
def outcomes (h : History Waiter) : List (Except ReplyError String) :=
  h.taken.map fun r => classify ((h.answer? r).map Message.toValue)

/-- The text of a file after an outcome. -/
def textAfter (text : String) : Except ReplyError String → String
  | .ok code => code
  | .error _ => text

theorem text_receive (b : Buffer) (reply : Option Json.Value) :
    (b.receive reply).text = textAfter b.text (classify reply) := by
  unfold Buffer.receive
  cases classify reply <;> rfl

/-- When all outcomes are code, that code is the texts. -/
theorem outcomes_of_texts {texts : List String} {outcomes : List (Except ReplyError String)}
    (hlen : outcomes.length = texts.length) (hall : ∀ outcome ∈ outcomes, outcome.isOk = true) :
    outcomes = (List.zipWith textAfter texts outcomes).map .ok := by
  induction outcomes generalizing texts with
  | nil => simp
  | cons outcome outcomes ih =>
    cases texts with
    | nil => simp at hlen
    | cons text texts =>
      have hrest := ih (Nat.succ.inj hlen) fun o ho => hall o (List.mem_cons_of_mem _ ho)
      have hfirst := hall outcome (List.mem_cons_self ..)
      rw [List.zipWith_cons_cons, List.map_cons, ← hrest]
      cases outcome with
      | ok code => rfl
      | error e => simp [Except.isOk, Except.toBool] at hfirst

theorem succeeded_iff {h : Host} {result : Except TransportError Unit}
    (hended : h.connection.phase = .ended result) :
    succeeded h = true ↔ h.failures = [] ∧ result = .ok () := by
  simp only [succeeded, transport, hended, Bool.and_eq_true, List.isEmpty_iff]
  cases result <;> simp

theorem length_failures {c : Course} (hholds : Course.Holds session (j.opened session outlet) c)
    {answers : List (Option Json.Value)}
    (hlen : answers.length = (j.opened session outlet).buffers.length)
    (hperm : c.history.replies.Perm (Course.told answers)) :
    c.host.failures.length = (answers.map classify).countP (!·.isOk) := by
  have hnone : (j.opened session outlet).failures = [] := by rw [opened_eq]; rfl
  rw [hholds.failures, hnone, List.nil_append, List.countP_map, (hperm.filterMap _).length_eq,
    Course.length_failures_told _ (Nat.le_of_eq hlen)]
  rfl

theorem texts {c : Course} (hholds : Course.Holds session (j.opened session outlet) c)
    {answers : List (Option Json.Value)}
    (hlen : answers.length = (j.opened session outlet).buffers.length)
    (hperm : c.history.replies.Perm (Course.told answers)) :
    c.host.buffers.map (·.text) =
      List.zipWith textAfter (j.files.map (·.text)) (answers.map classify) := by
  rw [hholds.buffers hperm, opened_buffers]
  rw [opened_buffers, List.length_map] at hlen
  refine List.ext_getElem (by simp [hlen]) ?_
  intro i hi hi'
  have hlt : i < answers.length := by simpa [hlen] using hi
  simp [hlt, text_receive, SourceFile.buffer, Buffer.ofText]

/-- **What comes of a run against any backend.** Whatever the peer does and however the connection
    ends, the request of each file was taken up. A file whose own request was answered with code has
    that code as its text; every other file keeps its text and has one failure, and a connection that
    failed leaves at least one such file. So a run succeeds exactly when every file was formatted. -/
theorem outcome_of_any_backend (script : List Beat) (result : Except TransportError Unit)
    (hfew : j.files.length < Counter.size)
    (hended : (Course.run (j.opened session outlet) script).host.connection.phase = .ended result) :
    let c := Course.run (j.opened session outlet) script
    c.history.taken.map (·.request) = j.requests ∧
      c.host.failures.length = (outcomes c.history).countP (!·.isOk) ∧
      c.host.buffers.map (·.text) =
        List.zipWith textAfter (j.files.map (·.text)) (outcomes c.history) ∧
      (∀ e, result = .error e → c.host.failures ≠ []) ∧
      (succeeded c.host = true ↔ ∀ outcome ∈ outcomes c.history, outcome.isOk = true) ∧
      (succeeded c.host = true → outcomes c.history = (c.host.buffers.map (·.text)).map .ok) := by
  intro c
  have hholds := Course.run_holds (j.opened_ready session outlet hfew) script
  obtain ⟨htaken, hlen, hperm, hmissed⟩ :=
    Course.told_of_ended hholds (j.opened_asks session outlet) hended
  generalize hanswers : (c.history.taken.map fun r =>
    (c.history.answer? r).map Message.toValue) = answers at hlen hperm hmissed
  have houtcomes : outcomes c.history = answers.map classify := by
    rw [← hanswers, List.map_map]
    rfl
  have hfailures := j.length_failures session outlet hholds hlen hperm
  have hbuffers := j.texts session outlet hholds hlen hperm
  rw [← houtcomes] at hfailures hbuffers
  have herror : ∀ e, result = .error e → c.host.failures ≠ [] := by
    rintro e he hnil
    rw [hnil, List.length_nil, houtcomes, List.countP_map] at hfailures
    have hnone := List.countP_eq_zero.1 hfailures.symm none (hmissed e he)
    simp [classify, Except.isOk, Except.toBool] at hnone
  have hsucceeded : succeeded c.host = true ↔ ∀ outcome ∈ outcomes c.history, outcome.isOk = true := by
    rw [succeeded_iff hended, ← List.length_eq_zero_iff, hfailures, List.countP_eq_zero]
    constructor
    · rintro ⟨hall, -⟩ outcome hmem
      simpa using hall outcome hmem
    · intro hall
      refine ⟨fun outcome hmem => by simpa using hall outcome hmem, ?_⟩
      cases result with
      | ok u => rfl
      | error e =>
        exfalso
        refine herror e rfl (List.length_eq_zero_iff.1 ?_)
        rw [hfailures, List.countP_eq_zero]
        intro outcome hmem
        simpa using hall outcome hmem
  refine ⟨?_, hfailures, hbuffers, herror, hsucceeded, ?_⟩
  · rw [htaken, opened_queue]
  · intro hok
    rw [hbuffers]
    refine outcomes_of_texts ?_ (hsucceeded.1 hok)
    rw [houtcomes, List.length_map, List.length_map, hlen, opened_buffers, List.length_map]

theorem outcome_of_any_backend_one_file :
    let job : Job := ⟨.default, [⟨"a.go", "x"⟩], false, false⟩
    let reply := Message.replyTo (.request "s_0" "gofmt_request" "s" .null) "r"
      (FormatReply.ok "y").toValue
    let script : List Beat := [.turn, .turn, .turn, .peer (.feed reply.line), .turn, .turn, .turn]
    let c := Course.run (job.opened "s" .unlimited) script
    job.files.length < Counter.size ∧ c.host.connection.phase = .ended (.ok ()) ∧
      succeeded c.host = true ∧ outcomes c.history = (c.host.buffers.map (·.text)).map .ok := by
  intro job reply script
  have hfew : job.files.length < Counter.size := by decide
  have hended : (Course.run (job.opened "s" .unlimited) script).host.connection.phase =
      .ended (.ok ()) := by
    have htest : (match (Course.run (job.opened "s" .unlimited) script).host.connection.phase with
      | .ended (.ok ()) => true
      | _ => false) = true := by decide +kernel
    revert htest
    split
    · rename_i hphase
      exact fun _ => hphase
    · simp
  obtain ⟨-, -, -, -, hiff, hcode⟩ :=
    outcome_of_any_backend job "s" .unlimited script (.ok ()) hfew hended
  have hok := hiff.2 (by decide +kernel)
  exact ⟨hfew, hended, hok, hcode hok⟩

end FormatBridge.Job
