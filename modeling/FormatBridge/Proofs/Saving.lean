import FormatBridge.Rehearsal

set_option autoImplicit false

/-! # Writing back

Texts are written back one after the other, to files that were read before. To write to a file
changes its bytes and nothing else, so all paths lead where they led (`Disk.resolve_of_sameTree`),
and a file that two paths lead to has in the end what was written last. Any write may be refused;
it then changes nothing, and it is the last one that is tried. So what is written is a first part of
what has changed, and that determines every place on the disk (`Job.save_saved`). -/

namespace FormatBridge

/-! ## Disks that differ in the bytes of files -/

/-- What lies at a place, with other bytes in it if it is a file. -/
def Node.withBytes (bytes : Bytes) : Node → Node
  | .directory => .directory
  | .file _ program => .file bytes program

namespace Disk

/-- Whether two disks differ at most in the bytes of their files. -/
def SameTree (d e : Disk) : Prop :=
  ∀ place bytes,
    (d.node place).map (Node.withBytes bytes) = (e.node place).map (Node.withBytes bytes)

theorem walk_of_sameTree {d e : Disk} (h : d.SameTree e) (here : Place) (names : List String) :
    d.walk here names = e.walk here names := by
  induction names generalizing here with
  | nil => rfl
  | cons name rest ih =>
    have hnode := h here []
    rw [walk, walk]
    cases hd : d.node here with
    | none =>
      rw [hd, Option.map_none, eq_comm, Option.map_eq_none_iff] at hnode
      rw [hnode]
    | some x =>
      rw [hd, Option.map_some, eq_comm, Option.map_eq_some_iff] at hnode
      obtain ⟨y, hy, hsame⟩ := hnode
      rw [hy]
      cases x <;> cases y <;> simp_all [Node.withBytes]

theorem resolve_of_sameTree {d e : Disk} (h : d.SameTree e) (here : Place) (path : String) :
    d.resolve here path = e.resolve here path := by
  rw [resolve, resolve, walk_of_sameTree h]

/-- Whether a path leads to a file. -/
def LeadsToFile (d : Disk) (here : Place) (path : String) : Prop :=
  ∃ place bytes program, d.resolve here path = .ok place ∧ d.node place = some (.file bytes program)

/-- A disk once other bytes were put into the file at a place. -/
def fill (d : Disk) (place : Place) (bytes : Bytes) : Disk :=
  ⟨fun other => if other = place then (d.node other).map (Node.withBytes bytes) else d.node other⟩

theorem sameTree_fill (d : Disk) (place : Place) (bytes : Bytes) :
    (d.fill place bytes).SameTree d := by
  intro other new
  have htwice (x : Node) : (x.withBytes bytes).withBytes new = x.withBytes new := by cases x <;> rfl
  by_cases hother : other = place
  · simp [fill, hother, Function.comp_def, htwice]
  · simp [fill, hother]

theorem leadsToFile_fill {d : Disk} {here : Place} {path : String} (h : d.LeadsToFile here path)
    (place : Place) (bytes : Bytes) : (d.fill place bytes).LeadsToFile here path := by
  obtain ⟨own, old, program, hresolve, hnode⟩ := h
  have hresolve' := (resolve_of_sameTree (d.sameTree_fill place bytes) here path).trans hresolve
  by_cases hown : own = place
  · exact ⟨own, bytes, program, hresolve', by simp [fill, hown ▸ hnode, hown, Node.withBytes]⟩
  · exact ⟨own, old, program, hresolve', by simp [fill, hown, hnode]⟩

/-- To write to a file is to put other bytes into it. -/
theorem write_file {d : Disk} {here place : Place} {path : String} {old : Bytes} {program : Bool}
    (hresolve : d.resolve here path = .ok place) (hnode : d.node place = some (.file old program))
    (bytes : Bytes) : d.write here path bytes = .ok (d.fill place bytes) := by
  have hput : d.put place (.file bytes program) = d.fill place bytes := by
    ext1
    funext other
    by_cases hother : other = place
    · simp [put, fill, hother, hnode, Node.withBytes]
    · simp [put, fill, hother]
  simp only [write, hresolve, bind, Except.bind, hnode, hput]

theorem find_eq_ok_iff {d : Disk} {here : Place} {path : String} {bytes : Bytes} :
    d.find here path = .ok bytes ↔
      ∃ place program, d.resolve here path = .ok place ∧
        d.node place = some (.file bytes program) := by
  cases hresolve : d.resolve here path with
  | error obstacle => simp [find, hresolve, bind, Except.bind]
  | ok place =>
    cases hnode : d.node place with
    | none => simp [find, hresolve, hnode, bind, Except.bind]
    | some node =>
      cases node with
      | directory => simp [find, hresolve, hnode, bind, Except.bind]
      | file old program => cases program <;> simp [find, hresolve, hnode, bind, Except.bind]

/-- Reading a text takes a path that leads to a file. -/
theorem leadsToFile_of_readText {d : Disk} {here : Place} {path text : String}
    (h : (d.find here path).readText = .ok text) : d.LeadsToFile here path := by
  cases hfind : d.find here path with
  | error obstacle => simp [hfind, Found.readText] at h
  | ok bytes =>
    obtain ⟨place, program, hresolve, hnode⟩ := find_eq_ok_iff.1 hfind
    exact ⟨place, bytes, program, hresolve, hnode⟩

/-- The last of some texts whose file is at a place. -/
def lastText (d : Disk) (here place : Place) (texts : List (SourceFile × String)) :
    Option String :=
  (texts.filter fun r => (d.resolve here r.1.path).toOption = some place).getLast?.map (·.2)

theorem lastText_of_sameTree {d e : Disk} (h : d.SameTree e) (here place : Place)
    (texts : List (SourceFile × String)) :
    d.lastText here place texts = e.lastText here place texts := by
  simp only [lastText, resolve_of_sameTree h]

theorem lastText_cons (d : Disk) (here place : Place) (r : SourceFile × String)
    (texts : List (SourceFile × String)) : d.lastText here place (r :: texts) =
      (d.lastText here place texts).or
        (if (d.resolve here r.1.path).toOption = some place then some r.2 else none) := by
  unfold lastText
  by_cases hplace : (d.resolve here r.1.path).toOption = some place
  · rw [List.filter_cons_of_pos (by simpa using hplace), List.getLast?_cons, if_pos hplace]
    cases (texts.filter fun r => (d.resolve here r.1.path).toOption = some place).getLast? <;> rfl
  · rw [List.filter_cons_of_neg (by simpa using hplace), if_neg hplace, Option.or_none]

end Disk

/-! ## One write after the other -/

/-- Whether writing back `changed` texts, of which the first `done` could be written, leads from one
    disk to another. What stands in the way of each write, if anything, is given. -/
structure Saved (here : Place) (refuses : Nat → Option Obstacle)
    (changed done : List (SourceFile × String)) (before after : Disk) (written : List Place) :
    Prop where
  first : done <+: changed
  allowed : ∀ k < done.length, refuses k = none
  stopped : done ≠ changed → (refuses done.length).isSome = true
  places : done.map (fun r => before.resolve here r.1.path) = written.map .ok
  /-- Every place has the last text that was written there, and otherwise what was there before. -/
  nodes : ∀ place, after.node place =
    match before.lastText here place done with
    | some text => (before.node place).map (Node.withBytes (Utf8.encode text))
    | none => before.node place

namespace Saved

variable {here : Place} {refuses : Nat → Option Obstacle}
  {changed done : List (SourceFile × String)} {before after : Disk} {written : List Place}

theorem nil : Saved here refuses [] [] before before [] where
  first := List.prefix_rfl
  allowed := by simp
  stopped := by simp
  places := rfl
  nodes := fun _ => rfl

/-- The next write is refused. -/
theorem refused (hrefused : (refuses 0).isSome = true) :
    Saved here refuses changed [] before before [] where
  first := List.nil_prefix
  allowed := by simp
  stopped := fun _ => hrefused
  places := rfl
  nodes := fun _ => rfl

/-- A file is written, and then others. -/
theorem cons {r : SourceFile × String} {place : Place} (hallowed : refuses 0 = none)
    (hresolve : before.resolve here r.1.path = .ok place)
    (hrest : Saved here (fun k => refuses (k + 1)) changed done
      (before.fill place (Utf8.encode r.2)) after written) :
    Saved here refuses (r :: changed) (r :: done) before after (place :: written) where
  first := List.prefix_cons_inj r |>.2 hrest.first
  allowed := by
    intro k hk
    cases k with
    | zero => exact hallowed
    | succ k => exact hrest.allowed k (Nat.lt_of_succ_lt_succ hk)
  stopped := fun hne => hrest.stopped fun heq => hne (heq ▸ rfl)
  places := by
    have hplaces := hrest.places
    simp only [Disk.resolve_of_sameTree (before.sameTree_fill place _)] at hplaces
    rw [List.map_cons, List.map_cons, hresolve, hplaces]
  nodes := by
    intro other
    have hsame := before.sameTree_fill place (Utf8.encode r.2)
    rw [hrest.nodes, Disk.lastText_of_sameTree hsame, Disk.lastText_cons, hresolve]
    cases before.lastText here other done with
    | some text => exact hsame other _
    | none =>
      by_cases hother : other = place
      · simp [Disk.fill, hother, Except.toOption]
      · simp [Disk.fill, hother, Ne.symm hother, Except.toOption]

end Saved

/-! ## Writes that may be refused -/

namespace Rehearsal

/-- Writes to the file at a path, unless something stands in the way of the write of this number. -/
def tryWrite (refuses : Nat → Option Obstacle) (here : Place) (path : String) (bytes : Bytes) :
    StateM (Disk × List Place) (Except Obstacle Unit) := do
  let (_, written) ← get
  match refuses written.length with
  | some obstacle => return .error obstacle
  | none => write here path bytes

variable {refuses : Nat → Option Obstacle} {here : Place} {d : Disk} {written : List Place}

theorem tryWrite_refused {obstacle : Obstacle} (hrefused : refuses written.length = some obstacle)
    (path : String) (bytes : Bytes) :
    (tryWrite refuses here path bytes).run (d, written) = (.error obstacle, (d, written)) := by
  simp [tryWrite, hrefused]
  rfl

theorem tryWrite_file {place : Place} {path : String} {old : Bytes} {program : Bool}
    (hallowed : refuses written.length = none) (hresolve : d.resolve here path = .ok place)
    (hnode : d.node place = some (.file old program)) (bytes : Bytes) :
    (tryWrite refuses here path bytes).run (d, written) =
      (.ok (), (d.fill place bytes, written ++ [place])) := by
  simp [tryWrite, hallowed, write, hresolve, Disk.write_file hresolve hnode]
  rfl

end Rehearsal

namespace Job

/-- The texts that differ from what was read. -/
def changed (results : List (SourceFile × String)) : List (SourceFile × String) :=
  results.filter fun r => r.2 ≠ r.1.text

section

variable {refuses : Nat → Option Obstacle} {here : Place} {file : SourceFile} {text : String}
  {rest : List (SourceFile × String)} {d : Disk} {before : List Place}

theorem changed_same (hsame : text = file.text) : changed ((file, text) :: rest) = changed rest :=
  List.filter_cons_of_neg (by simp [hsame])

theorem changed_other (hother : text ≠ file.text) :
    changed ((file, text) :: rest) = (file, text) :: changed rest :=
  List.filter_cons_of_pos (by simp [hother])

theorem save_refused (here : Place) (rest : List (SourceFile × String)) (d : Disk)
    (hother : text ≠ file.text) {obstacle : Obstacle}
    (hrefused : refuses before.length = some obstacle) :
    (save (Rehearsal.tryWrite refuses here) ((file, text) :: rest)).run (d, before) =
      (([], some (.unwritable file.path obstacle)), (d, before)) := by
  rw [save, if_neg hother, StateT.run_bind, Rehearsal.tryWrite_refused hrefused]
  rfl

/-- A text that is written back is followed by the rest. -/
theorem save_next (hother : text ≠ file.text) (hallowed : refuses before.length = none)
    {place : Place} {old : Bytes} {program : Bool} (hresolve : d.resolve here file.path = .ok place)
    (hnode : d.node place = some (.file old program)) {paths : List String}
    {error : Option RunError} {left : Disk × List Place}
    (hrest : (save (Rehearsal.tryWrite refuses here) rest).run
      (d.fill place (Utf8.encode text), before ++ [place]) = ((paths, error), left)) :
    (save (Rehearsal.tryWrite refuses here) ((file, text) :: rest)).run (d, before) =
      ((file.path :: paths, error), left) := by
  rw [save, if_neg hother, StateT.run_bind, Rehearsal.tryWrite_file hallowed hresolve hnode]
  have hmore : (save (Rehearsal.tryWrite refuses here) rest >>= fun more =>
      pure (file.path :: more.1, more.2)).run (d.fill place (Utf8.encode text), before ++ [place]) =
        ((file.path :: paths, error), left) := by
    rw [StateT.run_bind, hrest]
    rfl
  exact hmore

end

/-- **What writing back does.** The texts that have changed are written in order up to the first
    write that is refused; there is an error exactly if one is. -/
theorem save_saved (refuses : Nat → Option Obstacle) {here : Place}
    {results : List (SourceFile × String)} {d : Disk}
    (hfiles : ∀ r ∈ results, d.LeadsToFile here r.1.path) (before : List Place) :
    ∃ done after written paths error,
      (save (Rehearsal.tryWrite refuses here) results).run (d, before) =
        ((paths, error), (after, before ++ written)) ∧
      Saved here (fun k => refuses (before.length + k)) (changed results) done d after written ∧
      (error = none ↔ done = changed results) := by
  induction results generalizing d before with
  | nil => exact ⟨[], d, [], [], none, by rw [List.append_nil]; rfl, .nil, by simp [changed]⟩
  | cons r rest ih =>
    obtain ⟨file, text⟩ := r
    by_cases hsame : text = file.text
    · rw [save, if_pos hsame, changed_same hsame]
      exact ih (fun r hr => hfiles r (List.mem_cons_of_mem _ hr)) before
    rw [changed_other hsame]
    cases hrefused : refuses before.length with
    | some obstacle =>
      have hrun := save_refused here rest d hsame hrefused
      exact ⟨[], d, [], [], _, by rw [hrun, List.append_nil],
        .refused (by simp [hrefused]), by simp⟩
    | none =>
      obtain ⟨place, old, program, hresolve, hnode⟩ := hfiles _ (List.mem_cons_self ..)
      have hrest : ∀ r ∈ rest, (d.fill place (Utf8.encode text)).LeadsToFile here r.1.path :=
        fun r hr => Disk.leadsToFile_fill (hfiles r (List.mem_cons_of_mem _ hr)) place _
      obtain ⟨done, after, written, paths, error, hrun, hsaved, herror⟩ :=
        ih hrest (before ++ [place])
      rw [List.append_assoc] at hrun
      have hnext : (fun k => refuses ((before ++ [place]).length + k)) =
          fun k => refuses (before.length + (k + 1)) := by
        funext k
        rw [List.length_append, List.length_singleton, Nat.add_assoc, Nat.add_comm 1]
      exact ⟨_, after, _, _, error, save_next hsame hrefused hresolve hnode hrun,
        .cons hrefused hresolve (hnext ▸ hsaved), by simp [herror]⟩

end Job

end FormatBridge
