import FormatBridge.Proofs.Registration
import FormatBridge.Proofs.Stepwise

set_option autoImplicit false

/-! # Lines that mean nothing to a connection

A connection that is not running reads nothing, and a running one that waits has read all that has
arrived, up to the start of the line that it is in. So a step that reads the bytes `a ++ b`, where a
line starts behind `a`, is a step that reads `a` and then one that reads `b` (`settle_feed`), and a
line that is put in between is read by the connection that waits there. If it has no use for the line,
it logs that and is as before; from then on both runs do the same (`Alike`). -/

namespace FormatBridge

open Message (lineFeed)

variable {κ : Type}

/-! ## Where lines start -/

namespace LineReader

/-- Whether a line starts behind these bytes. -/
def StartsLine (s : Bytes) : Prop := ∀ b ∈ s.getLast?, b = lineFeed

theorem startsLine_behind {s t : Bytes} (h : StartsLine (s ++ lineFeed :: t)) : StartsLine t := by
  intro b hb
  refine h b ?_
  rw [List.getLast?_append, List.getLast?_cons]
  simp [Option.mem_def.1 hb]

/-- A reader that keeps nothing reads a whole line in one step. -/
theorem step_whole_line {line : Bytes} (hline : lineFeed ∉ line) :
    (empty.feed (line ++ [lineFeed])).step = some ((judge line).reading, .empty) :=
  step_line rfl hline

/-- Bytes inside a line behind which a line starts are none. -/
theorem eq_nil_of_startsLine {s : Bytes} (h : StartsLine s) (hinside : lineFeed ∉ s) : s = [] := by
  by_contra hne
  have hlast := h _ (List.getLast?_eq_getLast_of_ne_nil hne)
  exact hinside (hlast ▸ List.getLast_mem hne)

/-- Whether the stream is open and a line starts behind all that has arrived. -/
structure Whole (r : LineReader) : Prop where
  unended : r.inbound.ended = false
  unfailed : r.inbound.failures = []
  inside : lineFeed ∉ r.line
  starts : StartsLine (r.line ++ r.inbound.bytes)

namespace Whole

variable {r s : LineReader} {x : Reading}

/-- Such a reader finishes a line in every step. -/
theorem step (hr : r.Whole) (hstep : r.step = some (x, s)) :
    s.Whole ∧ ∀ bytes, (r.feed bytes).step = some (x, s.feed bytes) := by
  by_cases hmem : lineFeed ∈ r.inbound.bytes
  · obtain ⟨front, rest, hbytes, hfront⟩ := List.eq_append_cons_of_mem hmem
    rw [step_line hbytes hfront] at hstep
    obtain ⟨rfl, rfl⟩ := Prod.mk.inj (Option.some.inj hstep)
    refine ⟨⟨hr.unended, hr.unfailed, List.not_mem_nil, ?_⟩, ?_⟩
    · have hstarts := hr.starts
      rw [hbytes, ← List.append_assoc] at hstarts
      exact startsLine_behind hstarts
    · intro bytes
      exact step_line (by simp [feed, Inbound.feed, hbytes]) hfront
  · have hnil := eq_nil_of_startsLine hr.starts (by simp [hr.inside, hmem])
    have hnone : r.step = none :=
      step_eq_none_iff.2 ⟨(List.append_eq_nil_iff.1 hnil).2, hr.unfailed, hr.unended⟩
    rw [hnone] at hstep
    contradiction

/-- Such a reader has nothing left when it waits. -/
theorem eq_empty (hr : r.Whole) (hwaits : r.step = none) : r = .empty := by
  obtain ⟨hbytes, hfailures, hended⟩ := step_eq_none_iff.1 hwaits
  have hstarts := hr.starts
  rw [hbytes, List.append_nil] at hstarts
  obtain ⟨line, bytes, failures, ended⟩ := r
  obtain rfl : line = [] := eq_nil_of_startsLine hstarts hr.inside
  simp_all [empty, Inbound.empty]

end Whole

/-- A reader of an open stream has read the lines that have arrived up to the one that it is in. -/
theorem Progress.whole {all : Bytes} {r : LineReader} {answers : List Reading}
    (h : Progress all r answers) (hended : r.inbound.ended = false)
    (hfailures : r.inbound.failures = []) (hall : StartsLine all) : r.Whole := by
  cases h with
  | inside done hdone hline hsplit hanswers =>
    refine ⟨hended, hfailures, hline, ?_⟩
    intro b hb
    refine hall b ?_
    rw [hsplit, List.getLast?_append]
    simp [Option.mem_def.1 hb]
  | behind done last ends hdone hlast hsplit hline hbytes hfail hend hanswers hseen =>
    rw [hended] at hend
    contradiction

end LineReader

open LineReader (StartsLine)

namespace Traffic

/-! ## What has arrived -/

/-- The bytes that arrive in a run. -/
def arrived (script : List (Event κ)) : Bytes :=
  script.flatMap fun
    | .peer (.feed bytes) => bytes
    | _ => []

/-- Whether a running connection has read the lines that have arrived up to the one that it is in. -/
def Follows (all : Bytes) (t : Traffic κ) : Prop :=
  t.connection.phase = .running → ∃ answers, LineReader.Progress all t.connection.reader answers

theorem follows_turn {all : Bytes} {t : Traffic κ} (ht : t.Follows all) : t.turn.Follows all := by
  intro hrun
  obtain ⟨answers, hprogress⟩ := ht (running_of_turn hrun)
  rcases t.reader_turn with hsame | ⟨x, hstep⟩
  · exact ⟨answers, hsame ▸ hprogress⟩
  · exact ⟨_, hprogress.step hstep⟩

theorem follows_settle {all : Bytes} {t : Traffic κ} (ht : t.Follows all) :
    t.settle.Follows all := by
  fun_induction settle t with
  | case1 t h => exact ht
  | case2 t m h ih => exact ih (follows_turn ht)

theorem follows_meet {all : Bytes} {t : Traffic κ} (ht : t.Follows all)
    (hwaits : t.connection.next? = none) (e : Event κ) :
    (t.meet e).Follows (all ++ arrived [e]) := by
  intro hrun
  by_cases hturn : e = .turn
  · subst hturn
    have hnothing : all ++ arrived [(.turn : Event κ)] = all := List.append_nil all
    have hmeet : t.meet .turn = t := turn_of_waits hwaits
    rw [hmeet] at hrun ⊢
    rw [hnothing]
    exact ht hrun
  rw [(t.aside_meet hturn).phase] at hrun
  obtain ⟨answers, hprogress⟩ := ht hrun
  refine ⟨answers, ?_⟩
  by_cases hpeer : ∃ p, e = .peer p
  · obtain ⟨p, rfl⟩ := hpeer
    obtain ⟨-, -, hopen⟩ := LineReader.step_eq_none_iff.1 (step_of_waits hwaits hrun)
    cases p with
    | feed bytes =>
      have hall : all ++ arrived [(.peer (.feed bytes) : Event κ)] = all ++ bytes := by simp [arrived]
      rw [hall]
      exact hprogress.arrive hopen bytes
    | endInput => exact (List.append_nil all).symm ▸ hprogress.of_bytes hopen rfl
    | failInput error => exact (List.append_nil all).symm ▸ hprogress.of_bytes hopen rfl
    | _ => exact (List.append_nil all).symm ▸ hprogress
  · have hnothing : all ++ arrived [e] = all := by
      cases e <;> simp_all [arrived]
    rw [reader_meet t (fun p h => hpeer ⟨p, h⟩) hturn, hnothing]
    exact hprogress

theorem arrived_append (script more : List (Event κ)) :
    arrived (script ++ more) = arrived script ++ arrived more := List.flatMap_append

/-- **A running connection follows its stream.** -/
theorem follows_play (session : String) (outlet : Outlet) (script : List (Event κ)) :
    (play session outlet script).Follows (arrived script) := by
  induction script using List.reverseRecOn with
  | nil => exact fun _ => ⟨[], .start⟩
  | append_singleton script e ih =>
    rw [play_append, arrived_append]
    exact follows_settle (follows_meet ih (next?_play session outlet script) e)

/-! ## Reading in two steps -/

/-- A move does not depend on what arrives behind the line that it may read. -/
theorem turn_feed {t : Traffic κ} {m : Move κ} (hm : t.connection.next? = some m)
    (hwhole : t.connection.reader.Whole) (bytes : Bytes) : t.turn.connection.reader.Whole ∧
      (t.meet (.peer (.feed bytes))).turn = t.turn.meet (.peer (.feed bytes)) := by
  have hfed : t.meet (.peer (.feed bytes)) = t.withReader (t.connection.reader.feed bytes) := rfl
  rw [hfed]
  cases hidle : t.connection.idle.next? with
  | some own =>
    have hreader := reader_turn_of_some hidle
    rw [turn_of_some hidle, ← hreader]
    exact ⟨hreader ▸ hwhole, rfl⟩
  | none =>
    rw [Connection.next?_of_none hidle] at hm
    split at hm
    · rename_i hrun
      obtain ⟨⟨x, r⟩, hstep, rfl⟩ := Option.map_eq_some_iff.1 hm
      obtain ⟨hrest, hfeed⟩ := hwhole.step hstep
      have hrun := Connection.isRunning_iff.1 hrun
      have hturn : t.turn = (t.read x).withReader r := turn_of_read hidle hrun hstep
      rw [turn_of_read hidle hrun (hfeed bytes), hturn]
      exact ⟨hrest, rfl⟩
    · contradiction

/-- **Where a line starts, a step may be cut in two.** -/
theorem settle_feed {t : Traffic κ} (hwhole : t.connection.reader.Whole) (bytes : Bytes) :
    (t.meet (.peer (.feed bytes))).settle = (t.settle.meet (.peer (.feed bytes))).settle := by
  fun_induction settle t with
  | case1 t h => rfl
  | case2 t m h ih =>
    obtain ⟨hrest, hturn⟩ := turn_feed h hwhole bytes
    rw [← ih hrest, ← hturn, settle_turn]

theorem feed_append (t : Traffic κ) (a b : Bytes) : t.meet (.peer (.feed (a ++ b))) =
    (t.meet (.peer (.feed a))).meet (.peer (.feed b)) := by
  simp [meet, Connection.meet, Connection.feed, LineReader.feed, Inbound.feed]

/-- A connection that does not run makes nothing of what arrives. -/
theorem step_of_stopped {t : Traffic κ} (hwaits : t.connection.next? = none)
    (hstop : t.connection.phase ≠ .running) (bytes : Bytes) :
    t.step (.peer (.feed bytes)) = t.meet (.peer (.feed bytes)) := by
  have hidle : (t.meet (.peer (.feed bytes))).connection.idle.next? = none :=
    Connection.idle_of_waits (c := t.connection) hwaits
  refine settle_of_waits ?_
  rwa [Connection.next?_of_stopped (c := (t.meet (.peer (.feed bytes))).connection) hstop]

/-- In a whole run as well, a step may be cut in two where a line starts. -/
theorem play_feed_append {session : String} {outlet : Outlet} {pre : List (Event κ)} {a : Bytes}
    (hstarts : StartsLine (arrived pre ++ a)) (b : Bytes) :
    play session outlet (pre ++ [.peer (.feed (a ++ b))]) =
      (play session outlet (pre ++ [.peer (.feed a)])).step (.peer (.feed b)) := by
  have hwaits := next?_play session outlet pre
  have hfollows := follows_play session outlet pre
  rw [play_append, play_append]
  generalize play session outlet pre = t at hwaits hfollows
  simp only [List.foldl_cons, List.foldl_nil]
  by_cases hrun : t.connection.phase = .running
  · obtain ⟨answers, hprogress⟩ := hfollows hrun
    obtain ⟨-, hfailures, hended⟩ := LineReader.step_eq_none_iff.1 (step_of_waits hwaits hrun)
    have hwhole : (t.meet (.peer (.feed a))).connection.reader.Whole :=
      (hprogress.arrive hended a).whole hended hfailures hstarts
    rw [step, feed_append]
    exact settle_feed hwhole b
  · have hfirst := step_of_stopped hwaits hrun a
    have hstill : (t.meet (.peer (.feed a))).connection.next? = none := hfirst ▸ next?_settle _
    rw [step_of_stopped hwaits hrun, hfirst, step_of_stopped hstill hrun, feed_append]

end Traffic

/-! ## Lines of no use -/

/-- Whether a connection has no use for a line: the line is blank or cannot be decoded, or it is a
    message that names no request in flight. -/
def Connection.ignores (c : Connection κ) (line : Bytes) : Bool :=
  match LineReader.judge line with
  | .blank | .undecodable => true
  | .message m =>
    match m.answers? with
    | none => true
    | some id => (c.inFlight.lookup id).isNone

/-- To read such a line is to log something at most. -/
theorem Connection.make_ignored {c : Connection κ} {line : Bytes} (h : c.ignores line = true) :
    ∃ events : List LogEvent,
      c.make (.read (LineReader.judge line).reading .empty) = (events.map .log, c.idle) := by
  unfold ignores at h
  cases hline : LineReader.judge line with
  | blank => exact ⟨[], rfl⟩
  | undecodable => exact ⟨[.messageUndecodable], rfl⟩
  | message m =>
    rw [hline] at h
    cases hm : m.answers? with
    | none =>
      refine ⟨[.messageIgnored], ?_⟩
      simp [LineReader.Line.reading, make, afterRead, route, hm, withReader]
    | some id =>
      have hnone : c.inFlight.lookup id = none := by simpa [hm] using h
      refine ⟨[.replyUnmatched id], ?_⟩
      simp [LineReader.Line.reading, make, afterRead, route, hm, hnone, withReader]

/-- Whether an effect is a log event. -/
def Effect.isLog : Effect κ → Bool
  | .log _ => true
  | .wrote _ | .shutDown | .reply .. | .dropped _ => false

/-- What has been done apart from logging, in order: what was written, and who was told what. -/
def History.outward (h : History κ) : List (Effect κ) := h.effects.filter (!·.isLog)

@[simp]
theorem History.outward_did (h : History κ) (effects : List (Effect κ)) :
    (h.did effects).outward = h.outward ++ effects.filter (!·.isLog) :=
  List.filter_append ..

theorem History.outward_after (h : History κ) (c : Connection κ) (m : Move κ) :
    (h.after c m).outward = h.outward ++ (c.make m).1.filter (!·.isLog) := by
  rw [outward, effects_after, List.filter_append, outward]

/-! ## Two runs that do the same -/

/-- Whether two runs have done the same apart from logging and will do the same: their connections
    may differ only in their readers, and only once they do not run any more. -/
structure Alike (t t' : Traffic κ) : Prop where
  handles : t'.handles = t.handles
  connection : t'.connection = t.connection.withReader t'.connection.reader
  reader : t.connection.phase = .running → t'.connection.reader = t.connection.reader
  outward : t'.history.outward = t.history.outward

namespace Alike

variable {t t' : Traffic κ}

theorem same (h : Alike t t') (hrun : t.connection.phase = .running) :
    t'.connection = t.connection := by
  rw [h.connection, h.reader hrun, Connection.withReader_self]

/-- Both make the same moves. -/
theorem next? (h : Alike t t') : t'.connection.next? = t.connection.next? := by
  by_cases hrun : t.connection.phase = .running
  · rw [h.same hrun]
  · have hidle : t'.connection.idle = t.connection.idle := by
      rw [h.connection]
      rfl
    have hrun' : t'.connection.phase ≠ .running := by
      rw [h.connection]
      exact hrun
    rw [Connection.next?_of_stopped hrun', hidle, Connection.next?_of_stopped hrun]

theorem turn (h : Alike t t') : Alike t.turn t'.turn := by
  cases hm : t.connection.next? with
  | none => rwa [Traffic.turn_of_waits hm, Traffic.turn_of_waits (h.next?.trans hm)]
  | some m =>
    rw [Traffic.turn_eq hm, Traffic.turn_eq (h.next?.trans hm)]
    by_cases hrun : t.connection.phase = .running
    · rw [h.same hrun]
      refine ⟨h.handles, rfl, fun _ => rfl, ?_⟩
      rw [History.outward_after, History.outward_after, h.outward]
    · have hidle : t.connection.idle.next? = some m :=
        (Connection.next?_of_stopped hrun).symm.trans hm
      have hmade := Connection.make_withReader hidle t'.connection.reader
      rw [← h.connection] at hmade
      refine ⟨h.handles, ?_, ?_, ?_⟩
      · simp only [hmade, Connection.reader_withReader]
      · intro hlater
        have hlater : t.turn.connection.phase = .running := by rwa [Traffic.turn_eq hm]
        exact absurd (Traffic.running_of_turn hlater) hrun
      · rw [History.outward_after, History.outward_after, h.outward, hmade]

theorem settle (h : Alike t t') : Alike t.settle t'.settle := by
  fun_induction Traffic.settle t generalizing t' with
  | case1 t hm => rwa [Traffic.settle_of_waits (h.next?.trans hm)]
  | case2 t m hm ih =>
    rw [← Traffic.settle_turn t']
    exact ih h.turn

theorem meet (h : Alike t t') (e : Event κ) : Alike (t.meet e) (t'.meet e) := by
  obtain ⟨c, handles, history⟩ := t
  obtain ⟨c', handles', history'⟩ := t'
  obtain ⟨hhandles, hconnection, hreader, houtward⟩ := h
  dsimp only at hhandles hconnection hreader houtward
  generalize c'.reader = r at hconnection hreader
  subst hhandles hconnection
  cases e with
  | turn => exact turn ⟨rfl, rfl, hreader, houtward⟩
  | peer e =>
    cases e with
    | feed bytes => exact ⟨rfl, rfl, fun hrun => congrArg (·.feed bytes) (hreader hrun), houtward⟩
    | endInput => exact ⟨rfl, rfl, fun hrun => congrArg (·.finish) (hreader hrun), houtward⟩
    | failInput error => exact ⟨rfl, rfl, fun hrun => congrArg (·.fail error) (hreader hrun), houtward⟩
    | _ => exact ⟨rfl, rfl, hreader, houtward⟩
  | submit s =>
    have hclosed : (c.withReader r).isClosed = c.isClosed := rfl
    simp only [Traffic.meet, Traffic.submit, Connection.submit, hclosed]
    split
    · exact ⟨rfl, rfl, hreader, houtward⟩
    · cases c.isClosed with
      | true => exact ⟨rfl, rfl, hreader, by simp [houtward]⟩
      | false => exact ⟨rfl, rfl, hreader, by simpa [History.outward, History.did] using houtward⟩
  | clone =>
    simp only [Traffic.meet]
    split <;> exact ⟨rfl, rfl, hreader, houtward⟩
  | drop =>
    simp only [Traffic.meet]
    split <;> exact ⟨rfl, rfl, hreader, houtward⟩

theorem foldl (h : Alike t t') (script : List (Event κ)) :
    Alike (script.foldl Traffic.step t) (script.foldl Traffic.step t') := by
  induction script generalizing t t' with
  | nil => exact h
  | cons e script ih => exact ih (h.meet e).settle

end Alike

namespace Traffic

/-- A line of no use leaves a run as it is. -/
theorem alike_step {t : Traffic κ} (hwaits : t.connection.next? = none) {line : Bytes}
    (hline : lineFeed ∉ line) (hignored : t.connection.ignores line = true)
    (hempty : t.connection.phase = .running → t.connection.reader = .empty) :
    Alike t (t.step (.peer (.feed (line ++ [lineFeed])))) := by
  by_cases hrun : t.connection.phase = .running
  · have hfed : t.meet (.peer (.feed (line ++ [lineFeed]))) =
        t.withReader (LineReader.empty.feed (line ++ [lineFeed])) := by
      rw [← hempty hrun]
      rfl
    have hback : t.connection.idle = t.connection := by
      rw [Connection.idle, ← hempty hrun, Connection.withReader_self]
    obtain ⟨events, hmade⟩ := Connection.make_ignored hignored
    rw [hback] at hmade
    have hconnection : (t.read (LineReader.judge line).reading).connection = t.connection :=
      congrArg Prod.snd hmade
    -- the line is read in one move, behind which the connection is as it was before
    have hstep : t.step (.peer (.feed (line ++ [lineFeed]))) =
        t.read (LineReader.judge line).reading := by
      have hturn := turn_of_read (Connection.idle_of_waits hwaits) hrun
        (LineReader.step_whole_line hline)
      rw [step, ← settle_turn, hfed, hturn, idle_read]
      exact settle_of_waits (hconnection ▸ hwaits)
    rw [hstep]
    refine ⟨rfl, ?_, fun _ => by rw [hconnection], ?_⟩
    · rw [hconnection, Connection.withReader_self]
    · rw [read, History.outward_after, hmade]
      simp [Effect.isLog]
  · rw [step_of_stopped hwaits hrun]
    exact ⟨rfl, rfl, fun h => absurd h hrun, rfl⟩

variable {session : String} {outlet : Outlet}

/-- Where a line starts, a running connection that waits keeps nothing. -/
theorem reader_play {script : List (Event κ)} (hstarts : StartsLine (arrived script))
    (hrun : (play session outlet script).connection.phase = .running) :
    (play session outlet script).connection.reader = .empty := by
  have hnone := step_of_waits (next?_play session outlet script) hrun
  obtain ⟨answers, hprogress⟩ := follows_play session outlet script hrun
  obtain ⟨-, hfailures, hended⟩ := LineReader.step_eq_none_iff.1 hnone
  exact (hprogress.whole hended hfailures hstarts).eq_empty hnone

theorem play_cons (pre post : List (Event κ)) (e : Event κ) :
    play session outlet (pre ++ e :: post) = post.foldl step (play session outlet (pre ++ [e])) := by
  rw [← play_append, List.append_assoc, List.singleton_append]

/-- **Junk lines do not interfere.** Let a line be put into what arrives in a step, in a place where
    a line starts: behind `pre` and the bytes `a`. If the connection that has read all that lies in
    front has no use for the line, nothing is different now or later but what is logged. -/
theorem junk_lines_do_not_interfere {pre : List (Event κ)} {a line : Bytes}
    (hstarts : StartsLine (arrived pre ++ a)) (hline : lineFeed ∉ line)
    (hignored : (play session outlet (pre ++ [.peer (.feed a)])).connection.ignores line = true)
    (b : Bytes) (post : List (Event κ)) :
    let t := play session outlet (pre ++ .peer (.feed (a ++ b)) :: post)
    let t' := play session outlet (pre ++ .peer (.feed (a ++ (line ++ [lineFeed]) ++ b)) :: post)
    t'.history.outward = t.history.outward ∧ t'.connection.inFlight = t.connection.inFlight ∧
      t'.connection.phase = t.connection.phase ∧ t'.handles = t.handles := by
  let u := play session outlet (pre ++ [.peer (.feed a)])
  have harrived : arrived (pre ++ [.peer (.feed a)]) = arrived pre ++ a := by simp [arrived]
  have hwith : StartsLine (arrived pre ++ (a ++ (line ++ [lineFeed]))) := by
    simp [StartsLine, ← List.append_assoc]
  have hignoring : Alike u (u.step (.peer (.feed (line ++ [lineFeed])))) :=
    alike_step (next?_play _ _ _) hline hignored (reader_play (harrived ▸ hstarts))
  have halike : Alike (play session outlet (pre ++ [.peer (.feed (a ++ b))]))
      (play session outlet (pre ++ [.peer (.feed (a ++ (line ++ [lineFeed]) ++ b))])) := by
    rw [play_feed_append hstarts b, play_feed_append hwith b, play_feed_append hstarts]
    exact (hignoring.meet (.peer (.feed b))).settle
  intro t t'
  have hall : Alike t t' := by
    have hpost := halike.foldl post
    rwa [← play_cons, ← play_cons] at hpost
  refine ⟨hall.outward, ?_, ?_, hall.handles⟩
  · rw [hall.connection]
    rfl
  · rw [hall.connection]
    rfl

theorem junk_lines_do_not_interfere_early_reply :
    let line := (Message.replyTo (.request "s_0" "a" "s" .null) "r" .null).print
    let post : List (Event Nat) := [.submit ⟨"a", .null, 0⟩, .peer .endInput]
    StartsLine (arrived ([] : List (Event Nat)) ++ []) ∧ lineFeed ∉ line ∧
      (play "s" .unlimited ([.peer (.feed [])] : List (Event Nat))).connection.ignores line = true ∧
      (play "s" .unlimited (.peer (.feed (line ++ [lineFeed])) :: post)).history.outward =
        (play "s" .unlimited (.peer (.feed []) :: post)).history.outward := by
  intro line post
  have hstarts : StartsLine (arrived ([] : List (Event Nat)) ++ []) := by
    simp [StartsLine, arrived]
  have hline : lineFeed ∉ line := by decide +kernel
  have hwaits : play "s" .unlimited ([.peer (.feed [])] : List (Event Nat)) =
      (start "s" .unlimited).meet (.peer (.feed [])) := settle_of_waits rfl
  have hignored : (play "s" .unlimited
      ([.peer (.feed [])] : List (Event Nat))).connection.ignores line = true := by
    rw [hwaits]
    decide +kernel
  have hsame := (junk_lines_do_not_interfere hstarts hline hignored [] post).1
  rw [List.append_nil] at hsame
  exact ⟨hstarts, hline, hignored, hsame⟩

end Traffic

end FormatBridge
