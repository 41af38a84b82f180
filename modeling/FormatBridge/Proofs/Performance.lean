import FormatBridge.Proofs.Outcome
import FormatBridge.Proofs.Saving
import Mathlib.Data.List.Forall2

set_option autoImplicit false

/-! # Files follow their own results

A `Performance` is a run of the whole program on a disk that nobody else touches: the backend may do
anything, any write may be refused, and printing may meet an error. A rehearsal in which no
directory is removed is one (`Rehearsal.is_performance`). Until a job is finished nothing touches
the disk, and then it is changed only by writing back (`Job.finish_written`), of which `Saved` says
what it leaves. What is written is read off the outcomes of the files' own requests
(`Job.outcomes_of_ended`). Together this gives what a run does to the disk, and when it succeeds
(`Performance.files_follow_their_results`). -/

namespace FormatBridge

/-! ## Preparing -/

/-- Whether a file is what was read at a path. -/
def SourceFile.ReadAt (around : Surroundings) (path : String) (f : SourceFile) : Prop :=
  f.path = path ∧ (around.find path).readText = .ok f.text

/-- Whether a job is prepared: the settings are accepted, every file is read, and the backend is
    started. -/
structure Arguments.Prepared (a : Arguments) (around : Surroundings) (job : Job) : Prop where
  accepted : a.settings around = .ok job.settings
  read : List.Forall₂ (SourceFile.ReadAt around) a.files job.files
  started : ∃ command, job.settings.backend.command = some command ∧
    around.launch command job.settings.backend.args = .ok ()
  options : job.write = a.write ∧ job.verbose = a.verbose

theorem SourceFile.open?_eq_ok_iff {around : Surroundings} {path : String} {f : SourceFile} :
    open? around path = .ok f ↔ f.ReadAt around path := by
  obtain ⟨p, text⟩ := f
  unfold open? ReadAt
  cases (around.find path).readText <;> simp [eq_comm]

theorem SourceFile.mapM_open?_eq_ok_iff {around : Surroundings} {paths : List String}
    {files : List SourceFile} : paths.mapM (open? around) = .ok files ↔
      List.Forall₂ (SourceFile.ReadAt around) paths files := by
  induction paths generalizing files with
  | nil => simp [pure, Except.pure, eq_comm]
  | cons path paths ih =>
    have hcons : (path :: paths).mapM (open? around) = .ok files ↔
        ∃ f rest, open? around path = .ok f ∧ paths.mapM (open? around) = .ok rest ∧
          files = f :: rest := by
      rw [List.mapM_cons]
      cases open? around path <;> cases paths.mapM (open? around) <;>
        simp [bind, Except.bind, pure, Except.pure, eq_comm]
    rw [hcons, List.forall₂_cons_left_iff]
    simp only [open?_eq_ok_iff, ih]

theorem Job.prepare_eq_ok_iff {a : Arguments} {around : Surroundings} {job : Job} :
    prepare a around = .ok job ↔ a.Prepared around job := by
  constructor
  · intro h
    simp only [prepare, bind, Except.bind] at h
    split at h
    · contradiction
    · rename_i settings hsettings
      split at h
      · contradiction
      · rename_i files hfiles
        split at h
        · contradiction
        · rename_i command hcommand
          split at h
          · contradiction
          · rename_i hlaunch
            obtain rfl := Except.ok.inj h
            exact
              { accepted := hsettings
                read := SourceFile.mapM_open?_eq_ok_iff.1 hfiles
                started := ⟨command, hcommand, hlaunch⟩
                options := ⟨rfl, rfl⟩ }
  · intro h
    obtain ⟨command, hcommand, hlaunch⟩ := h.started
    obtain ⟨hwrite, hverbose⟩ := h.options
    have hfiles := SourceFile.mapM_open?_eq_ok_iff.2 h.read
    simp only [prepare, bind, Except.bind, h.accepted, hfiles, hcommand, hlaunch]
    rw [← hwrite, ← hverbose]

/-! ## The outcome of the files -/

namespace Job

/-- The files whose own request was answered with code that differs from what was read, in order,
    each with that code. -/
def rewrites (files : List SourceFile) (outcomes : List (Except ReplyError String)) :
    List (SourceFile × String) :=
  (files.zip outcomes).filterMap fun (file, outcome) =>
    match outcome with
    | .ok code => if code = file.text then none else some (file, code)
    | .error _ => none

theorem changed_eq_rewrites (files : List SourceFile) (outcomes : List (Except ReplyError String)) :
    changed (files.zip (List.zipWith textAfter (files.map (·.text)) outcomes)) =
      rewrites files outcomes := by
  induction files generalizing outcomes with
  | nil => rfl
  | cons file files ih =>
    cases outcomes with
    | nil => rfl
    | cons outcome outcomes =>
      have hrest := ih outcomes
      simp only [changed, rewrites] at hrest
      simp only [changed, rewrites, List.map_cons, List.zipWith_cons_cons, List.zip_cons_cons,
        List.filter_cons, List.filterMap_cons, hrest]
      cases outcome with
      | error e => simp [textAfter]
      | ok code => by_cases hsame : code = file.text <;> simp [textAfter, hsame]

/-- What holds of a job's course that has come to its end. -/
theorem outcomes_of_ended (j : Job) {session : String} {outlet : Outlet} {script : List Beat}
    {result : Except TransportError Unit} (hfew : j.files.length < Counter.size)
    (hended : (Course.run (j.opened session outlet) script).host.connection.phase =
      .ended result) :
    let c := Course.run (j.opened session outlet) script
    c.history.taken.map (·.request) = j.requests ∧
      changed (j.results c.host) = rewrites j.files (outcomes c.history) ∧
      (succeeded c.host = true ↔ ∀ outcome ∈ outcomes c.history, outcome.isOk = true) := by
  intro c
  have hholds := Course.run_holds (j.opened_ready session outlet hfew) script
  obtain ⟨htaken, hlen, hperm, hmissed⟩ :=
    Course.told_of_ended hholds (j.opened_asks session outlet) hended
  have houtcomes : outcomes c.history = (c.history.taken.map fun r =>
      (c.history.answer? r).map Message.toValue).map classify := by
    rw [List.map_map]
    rfl
  have htexts := j.texts session outlet hholds hlen hperm
  have hfailures := j.length_failures session outlet hholds hlen hperm
  rw [← houtcomes] at htexts hfailures
  refine ⟨by rw [htaken, opened_queue], by rw [results, htexts, changed_eq_rewrites], ?_⟩
  rw [succeeded_iff hended, ← List.length_eq_zero_iff, hfailures, List.countP_eq_zero]
  simp only [Bool.not_eq_true', Bool.not_eq_false]
  constructor
  · exact fun h => h.1
  · intro hall
    refine ⟨hall, ?_⟩
    cases result with
    | ok _ => rfl
    | error e =>
      -- after an error some request has no answer, which is no code
      have hnone := List.mem_map_of_mem (f := classify) (hmissed e rfl)
      rw [← houtcomes] at hnone
      have hfalse := hall _ hnone
      contradiction

end Job

/-! ## Performances -/

/-- A run of the whole program. -/
structure Performance where
  scene : Scene
  session : String
  /-- How much the backend takes before it reads on. -/
  outlet : Outlet
  /-- What the backend does, and the moves of the connection. -/
  script : List Beat
  /-- What was seen of it, for the notices. -/
  seen : List Happening
  /-- What stands in the way of each write, if anything. -/
  refuses : Nat → Option Obstacle
  /-- What comes of printing, if texts are printed. -/
  printing : Except String Unit

/-- What a run leaves. -/
structure Aftermath where
  report : Report
  disk : Disk
  /-- The places that were written to, in order. -/
  written : List Place

namespace Performance

/-- The course of a job in a performance. -/
def course (p : Performance) (job : Job) : Course :=
  Course.run (job.opened p.session p.outlet) p.script

/-- Formats files; gives nothing if the connection has not ended. -/
def ofArguments (p : Performance) (a : Arguments) : Option Aftermath :=
  match Job.prepare a p.scene.surroundings with
  | .error error => some ⟨error.failed [], p.scene.disk, []⟩
  | .ok job =>
    let h := (p.course job).host
    match h.connection.phase with
    | .ended _ =>
      let (report, disk, written) :=
        (job.finish p.seen h (Rehearsal.tryWrite p.refuses p.scene.here)
          fun _ => pure p.printing).run (p.scene.disk, [])
      some ⟨report, disk, written⟩
    | .running | .draining | .aborted => none

/-- Runs the program with the words of a command line. -/
def ofWords (p : Performance) (words : List String) : Option Aftermath :=
  match Invocation.ofWords words with
  | .format a => p.ofArguments a
  | .help => some ⟨⟨0, helpText, []⟩, p.scene.disk, []⟩
  | .rejected error =>
    some ⟨⟨2, "", [.said ("error: " ++ error.message)]⟩, p.scene.disk, []⟩

end Performance

/-! ## What a job leaves -/

namespace Job

variable (refuses : Nat → Option Obstacle)

/-- Without writing back, the disk stays as it is, and the run depends on printing. -/
theorem finish_unwritten (here : Place) (d : Disk) {j : Job} (hwrite : j.write = false)
    (seen : List Happening) (h : Host) (printing : Except String Unit) :
    let left :=
      (j.finish seen h (Rehearsal.tryWrite refuses here) fun _ => pure printing).run (d, [])
    left.2 = (d, []) ∧ (left.1.exit = 0 ↔ succeeded h = true ∧ printing = .ok ()) := by
  let notices := j.shown (.log .backendSpawned :: seen) ++ j.conclusion h
  cases printing with
  | error error =>
    have hfinish : (j.finish seen h (Rehearsal.tryWrite refuses here) fun _ =>
        pure (.error error)).run (d, []) =
          ((RunError.unprintable error).failed notices, (d, [])) := by
      rw [finish, hwrite]
      rfl
    rw [hfinish]
    simp [RunError.failed]
  | ok _ =>
    have hfinish : (j.finish seen h (Rehearsal.tryWrite refuses here) fun _ =>
        pure (.ok ())).run (d, []) =
          (⟨if succeeded h then 0 else 1, printed (j.results h), notices⟩, (d, [])) := by
      rw [finish, hwrite]
      rfl
    rw [hfinish]
    cases succeeded h <;> simp

/-- With writing back, the texts that have changed are written up to the first write that is
    refused. -/
theorem finish_written {here : Place} {d : Disk} {j : Job} (hwrite : j.write = true)
    (seen : List Happening) (h : Host) (hfiles : ∀ f ∈ j.files, d.LeadsToFile here f.path)
    (print : String → StateM (Disk × List Place) (Except String Unit)) :
    let left := (j.finish seen h (Rehearsal.tryWrite refuses here) print).run (d, [])
    ∃ done, Saved here refuses (changed (j.results h)) done d left.2.1 left.2.2 ∧
      (left.1.exit = 0 ↔ succeeded h = true ∧ done = changed (j.results h)) := by
  have hresults : ∀ r ∈ j.results h, d.LeadsToFile here r.1.path := fun r hr =>
    hfiles r.1 (List.of_mem_zip hr).1
  obtain ⟨done, after, written, paths, error, hrun, hsaved, herror⟩ :=
    save_saved refuses hresults []
  simp only [List.length_nil, Nat.zero_add, List.nil_append] at hrun hsaved
  let notices := j.shown (.log .backendSpawned :: seen) ++ j.conclusion h ++
    j.shown (paths.map fun path => .log (.fileFormatted path))
  have hfinish : (j.finish seen h (Rehearsal.tryWrite refuses here) print).run (d, []) =
      (error.elim ⟨if succeeded h then 0 else 1, "", notices⟩ (·.failed notices),
        (after, written)) := by
    rw [finish, hwrite, if_pos rfl, StateT.run_bind, hrun]
    cases error <;> rfl
  rw [hfinish]
  refine ⟨done, hsaved, ?_⟩
  rw [← herror]
  cases error with
  | none => cases succeeded h <;> simp
  | some e => simp [RunError.failed]

end Job

/-! ## The whole program -/

theorem Saved.done_eq_iff {here : Place} {refuses : Nat → Option Obstacle}
    {changed done : List (SourceFile × String)} {before after : Disk} {written : List Place}
    (h : Saved here refuses changed done before after written) :
    done = changed ↔ ∀ k < changed.length, refuses k = none := by
  constructor
  · rintro rfl
    exact h.allowed
  · intro hall
    by_contra hne
    have hshort : done.length < changed.length :=
      Nat.lt_of_le_of_ne h.first.length_le fun hlen => hne (h.first.eq_of_length hlen)
    have hrefused := h.stopped hne
    rw [hall _ hshort] at hrefused
    contradiction

namespace Performance

variable {p : Performance} {a : Arguments} {after : Aftermath}

/-- A run without a job leaves the disk as it is, and does not succeed. -/
theorem unprepared (hends : p.ofArguments a = some after)
    (hnone : ∀ job, ¬ a.Prepared p.scene.surroundings job) :
    after.disk = p.scene.disk ∧ after.written = [] ∧ after.report.exit ≠ 0 := by
  unfold ofArguments at hends
  split at hends
  · rename_i error _
    obtain rfl := Option.some.inj hends
    exact ⟨rfl, rfl, by simp [RunError.failed]⟩
  · rename_i job hjob
    exact absurd (Job.prepare_eq_ok_iff.1 hjob) (hnone job)

/-- What a run with a job leaves. -/
theorem prepared (hends : p.ofArguments a = some after) {job : Job}
    (hjob : a.Prepared p.scene.surroundings job) :
    ∃ result, (p.course job).host.connection.phase = .ended result ∧
      (job.finish p.seen (p.course job).host (Rehearsal.tryWrite p.refuses p.scene.here)
        fun _ => pure p.printing).run (p.scene.disk, []) =
          (after.report, (after.disk, after.written)) := by
  simp only [ofArguments, Job.prepare_eq_ok_iff.2 hjob] at hends
  split at hends
  · rename_i result hphase
    obtain rfl := Option.some.inj hends
    exact ⟨result, hphase, rfl⟩
  all_goals contradiction

/-- The files of a job were found on the disk. -/
theorem leadsToFile {paths : List String} {files : List SourceFile}
    (hread : List.Forall₂ (SourceFile.ReadAt p.scene.surroundings) paths files) :
    ∀ f ∈ files, p.scene.disk.LeadsToFile p.scene.here f.path := by
  induction hread with
  | nil => simp
  | cons hfirst _ ih =>
    obtain ⟨hpath, htext⟩ := hfirst
    exact List.forall_mem_cons.2 ⟨hpath ▸ Disk.leadsToFile_of_readText htext, ih⟩

/-- What a run with a job does to the disk, and what exit status it has. -/
theorem followed (hends : p.ofArguments a = some after) {job : Job}
    (hjob : a.Prepared p.scene.surroundings job) (hfew : a.files.length < Counter.size) :
    let outcomes := Job.outcomes (p.course job).history
    let changed := Job.rewrites job.files outcomes
    (p.course job).history.taken.map (·.request) = job.requests ∧
      (a.write = false → after.disk = p.scene.disk ∧ after.written = []) ∧
      (a.write = true → ∃ done,
        Saved p.scene.here p.refuses changed done p.scene.disk after.disk after.written) ∧
      (after.report.exit = 0 ↔ (∀ outcome ∈ outcomes, outcome.isOk = true) ∧
        (a.write = true → ∀ k < changed.length, p.refuses k = none) ∧
        (a.write = false → p.printing = .ok ())) := by
  intro outcomes changed
  obtain ⟨result, hended, hfinish⟩ := prepared hends hjob
  rw [hjob.read.length_eq] at hfew
  obtain ⟨htaken, hchanged, hsucceeded⟩ := job.outcomes_of_ended hfew hended
  have hoption := hjob.options.1
  refine ⟨htaken, ?_⟩
  cases hwrite : a.write with
  | false =>
    obtain ⟨hleft, hexit⟩ := Job.finish_unwritten p.refuses p.scene.here p.scene.disk
      (hoption.trans hwrite) p.seen (p.course job).host p.printing
    rw [hfinish] at hleft hexit
    obtain ⟨hdisk, hwritten⟩ := Prod.mk.inj hleft
    exact ⟨fun _ => ⟨hdisk, hwritten⟩, nofun, by simp [hexit, hsucceeded, outcomes, course]⟩
  | true =>
    obtain ⟨done, hsaved, hexit⟩ := Job.finish_written p.refuses (hoption.trans hwrite) p.seen
      (p.course job).host (leadsToFile hjob.read) fun _ => pure p.printing
    have hchanged : Job.changed (job.results (p.course job).host) = changed := hchanged
    rw [hfinish, hchanged] at hsaved hexit
    refine ⟨nofun, fun _ => ⟨done, hsaved⟩, ?_⟩
    rw [hexit, hsaved.done_eq_iff]
    simp [hsucceeded, outcomes, course]

/-- **Files on the disk are only replaced by their own results.** Whatever the backend does,
    whichever writes are refused and whatever comes of printing, a run that ends leaves the disk as
    it is unless texts are written back and a job was prepared. Then each file's own request was
    taken up, and of the files whose request was answered with code that differs from what was read,
    that code is written in the order of the files up to the first write that is refused; every
    place has in the end what was written there last, or what was there before. Unless only help was
    asked for, the run succeeds exactly if a job was prepared, every file's own request was answered
    with code, and no such write was refused or, without writing back, printing met no error. -/
theorem files_follow_their_results (p : Performance) (words : List String) (after : Aftermath)
    (hfew : ∀ a, Invocation.ofWords words = .format a → a.files.length < Counter.size)
    (hends : p.ofWords words = some after) :
    ((∀ a job, Invocation.ofWords words = .format a →
        a.Prepared p.scene.surroundings job → a.write = false) →
      after.disk = p.scene.disk ∧ after.written = []) ∧
    (∀ a job, Invocation.ofWords words = .format a → a.Prepared p.scene.surroundings job →
      (p.course job).history.taken.map (·.request) = job.requests ∧
      (a.write = true → ∃ done, Saved p.scene.here p.refuses
        (Job.rewrites job.files (Job.outcomes (p.course job).history)) done
        p.scene.disk after.disk after.written)) ∧
    (Invocation.ofWords words ≠ .help → (after.report.exit = 0 ↔
      ∃ a job, Invocation.ofWords words = .format a ∧ a.Prepared p.scene.surroundings job ∧
        (∀ outcome ∈ Job.outcomes (p.course job).history, outcome.isOk = true) ∧
        (a.write = true → ∀ k < (Job.rewrites job.files
          (Job.outcomes (p.course job).history)).length, p.refuses k = none) ∧
        (a.write = false → p.printing = .ok ()))) := by
  cases hwords : Invocation.ofWords words with
  | format a =>
    have hends : p.ofArguments a = some after := by simpa [ofWords, hwords] using hends
    have hfew := hfew a hwords
    refine ⟨?_, ?_, fun _ => ⟨?_, ?_⟩⟩
    · intro hkept
      by_cases hjob : ∃ job, a.Prepared p.scene.surroundings job
      · obtain ⟨job, hjob⟩ := hjob
        exact (followed hends hjob hfew).2.1 (hkept a job rfl hjob)
      · obtain ⟨hdisk, hwritten, -⟩ := unprepared hends (not_exists.1 hjob)
        exact ⟨hdisk, hwritten⟩
    · rintro _ job ⟨rfl⟩ hjob
      obtain ⟨htaken, -, hsaved, -⟩ := followed hends hjob hfew
      exact ⟨htaken, hsaved⟩
    · intro hexit
      by_cases hjob : ∃ job, a.Prepared p.scene.surroundings job
      · obtain ⟨job, hjob⟩ := hjob
        exact ⟨a, job, rfl, hjob, (followed hends hjob hfew).2.2.2.1 hexit⟩
      · exact absurd hexit (unprepared hends (not_exists.1 hjob)).2.2
    · rintro ⟨_, job, ⟨rfl⟩, hjob, hok⟩
      exact (followed hends hjob hfew).2.2.2.2 hok
  | help =>
    simp only [ofWords, hwords, Option.some.injEq] at hends
    obtain rfl := hends
    exact ⟨fun _ => ⟨rfl, rfl⟩, nofun, fun hother => absurd rfl hother⟩
  | rejected error =>
    simp only [ofWords, hwords, Option.some.injEq] at hends
    obtain rfl := hends
    exact ⟨fun _ => ⟨rfl, rfl⟩, nofun, fun _ => ⟨nofun, nofun⟩⟩

theorem files_follow_their_results_named_twice :
    let reply (id : String) (r : FormatReply) : Bytes :=
      (Message.replyTo (.request id "gofmt_request" "s" .null) "r" r.toValue).line
    let file (text : String) : Node := .file (Utf8.encode text) false
    let disk := ((Disk.empty.put ["a"] (file "0")).put ["b"] (file "9")).put ["f"] (.file [] true)
    let replies := reply "s_2" (.ok "2") ++ reply "s_1" (.failure "e" "t") ++
      reply "s_0" (.ok "1") ++ reply "s_3" (.ok "3")
    let p : Performance :=
      { scene := ⟨disk, [], [], "c"⟩
        session := "s"
        outlet := .unlimited
        script := List.replicate 7 .turn ++ .peer (.feed replies) :: List.replicate 9 .turn
        seen := []
        refuses := fun k => if k = 2 then some .denied else none
        printing := .error "Broken pipe (os error 32)" }
    let words := ["-w", "-b", "./f", "a", "b", "a", "b"]
    let a : Arguments := ⟨["a", "b", "a", "b"], none, some "./f", [], true, false⟩
    (∀ a, Invocation.ofWords words = .format a → a.files.length < Counter.size) ∧
      ∃ after, p.ofWords words = some after ∧ after.written = [["a"], ["a"]] ∧
        after.disk.node ["a"] = some (file "2") ∧ after.disk.node ["b"] = some (file "9") ∧
        ∃ job done, a.Prepared p.scene.surroundings job ∧ Saved p.scene.here p.refuses
          (Job.rewrites job.files (Job.outcomes (p.course job).history)) done
          p.scene.disk after.disk after.written := by
  intro reply file disk replies p words a
  have hwords : Invocation.ofWords words = .format a := by decide
  have hfew : ∀ a, Invocation.ofWords words = .format a → a.files.length < Counter.size := by
    intro a' ha'
    obtain rfl := Invocation.format.inj (hwords.symm.trans ha')
    decide
  have hends : (p.ofWords words).map (fun x => (x.written, x.disk.node ["a"], x.disk.node ["b"])) =
      some ([["a"], ["a"]], some (file "2"), some (file "9")) := by decide +kernel
  obtain ⟨after, hafter, hseen⟩ := Option.map_eq_some_iff.1 hends
  simp only [Prod.mk.injEq] at hseen
  have hready : (Job.prepare a p.scene.surroundings).toOption.isSome = true := by decide +kernel
  cases hjob : Job.prepare a p.scene.surroundings with
  | error e =>
    rw [hjob] at hready
    contradiction
  | ok job =>
    have hprepared := Job.prepare_eq_ok_iff.1 hjob
    obtain ⟨-, hfollows, -⟩ := files_follow_their_results p words after hfew hafter
    obtain ⟨-, hsaved⟩ := hfollows a job hwords hprepared
    obtain ⟨done, hdone⟩ := hsaved rfl
    exact ⟨hfew, after, hafter, hseen.1, hseen.2.1, hseen.2.2, job, done, hprepared, hdone⟩

end Performance

/-! ## Rehearsals -/

namespace Stage

theorem readLines_eq (s : Stage) (n : Nat) :
    (n.repeat readLine s).host = s.host ∧ (n.repeat readLine s).disk = s.disk := by
  have hone (s : Stage) : s.readLine.host = s.host ∧ s.readLine.disk = s.disk := by
    unfold readLine
    split <;> exact ⟨rfl, rfl⟩
  induction n with
  | zero => exact ⟨rfl, rfl⟩
  | succ n ih => exact ⟨(hone _).1.trans ih.1, (hone _).2.trans ih.2⟩

/-- A scripted backend that removes no directory does what a peer can do, and leaves the disk as it
    is. -/
theorem act_eq (here : Place) {script : List Cue} (hkeeps : ∀ path, .removeDirectory path ∉ script)
    (s : Stage) : ∃ events : List PeerEvent,
      (s.act here script).host =
        events.foldl (fun h e => (h.step e.command false).2.2) s.host ∧
      (s.act here script).disk = s.disk := by
  induction script generalizing s with
  | nil => exact ⟨[.endInput], rfl, rfl⟩
  | cons cue script ih =>
    have hrest := ih fun path hmem => hkeeps path (List.mem_cons_of_mem _ hmem)
    cases cue with
    | exit => exact ⟨[.endInput], rfl, rfl⟩
    | removeDirectory path => exact absurd (List.mem_cons_self ..) (hkeeps path)
    | read n =>
      obtain ⟨events, hhost, hdisk⟩ := hrest (n.repeat readLine s)
      obtain ⟨hsame, hkept⟩ := s.readLines_eq n
      exact ⟨events, hhost.trans (by rw [hsame]), hdisk.trans hkept⟩
    | write bytes =>
      let fed := s.follow (s.host.step (.feed (Cue.fill s.taken bytes)) false)
      obtain ⟨events, hhost, hdisk⟩ := hrest fed
      exact ⟨.feed (Cue.fill s.taken bytes) :: events, hhost, hdisk⟩

end Stage

namespace Rehearsal

theorem tryWrite_always (here : Place) : tryWrite (fun _ => none) here = write here := by
  funext path bytes
  rfl

/-- What a stage leaves once the backend has come to its end. -/
def ofStage (job : Job) (here : Place) (s : Stage) : Rehearsal :=
  let left := (job.finish s.seen s.host (write here) print).run (s.disk, [])
  ⟨left.1, left.2.1, left.2.2, some (job.settings.backend.args, s.taken)⟩

/-- A rehearsal in which no directory is removed is a performance: if that comes to its end, both
    leave the same. -/
theorem is_performance {a : Arguments} (scene : Scene) (session : String) {script : List Cue}
    (hkeeps : ∀ path, .removeDirectory path ∉ script) (hfew : a.files.length < Counter.size) :
    ∃ p : Performance, p.scene = scene ∧ p.session = session ∧
      ∀ after, p.ofArguments a = some after →
        let r := ofArguments a scene session script
        after.report = r.report ∧ after.disk = r.disk ∧ after.written = r.written := by
  cases hjob : Job.prepare a scene.surroundings with
  | error error =>
    refine ⟨⟨scene, session, .unlimited, [], [], fun _ => none, .ok ()⟩, rfl, rfl, ?_⟩
    intro after hends
    simp only [Performance.ofArguments, hjob, Option.some.injEq] at hends
    obtain rfl := hends
    simp only [ofArguments, hjob, and_self]
  | ok job =>
    have hprepared := Job.prepare_eq_ok_iff.1 hjob
    let opened : Stage := ⟨scene.disk, job.host session .unlimited, [], [], []⟩
    obtain ⟨events, hhost, hdisk⟩ :=
      Stage.act_eq scene.here hkeeps (opened.follow (job.begin session))
    obtain ⟨beats, hbeats⟩ :=
      job.course_of_run session (hprepared.read.length_eq ▸ hfew) events
    have hcourse := hhost.trans hbeats
    have hrehearsal : ofArguments a scene session script = ofStage job scene.here
        ((opened.follow (job.begin session)).act scene.here script) := by
      simp only [ofArguments, hjob]
      rfl
    generalize (opened.follow (job.begin session)).act scene.here script = s
      at hdisk hcourse hrehearsal
    refine ⟨⟨scene, session, .unlimited, beats, s.seen, fun _ => none, .ok ()⟩, rfl, rfl, ?_⟩
    intro after hends
    obtain ⟨-, -, hfinish⟩ := Performance.prepared hends hprepared
    have hleft : (job.finish s.seen s.host (write scene.here) print).run (s.disk, []) =
        (after.report, (after.disk, after.written)) := by
      rw [hcourse, hdisk, ← tryWrite_always]
      exact hfinish
    simp only [hrehearsal, ofStage, hleft, and_self]

end Rehearsal

end FormatBridge
