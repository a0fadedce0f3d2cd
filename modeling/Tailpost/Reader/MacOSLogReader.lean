import Mathlib.Data.List.TakeWhile
import Tailpost.Text.Scanner
import Tailpost.Text.Utf8
import Tailpost.Transition.Core

/-!
# The reader of the macOS log

`readLogs` scans the output of the `log` command and sends every line that is not blank to
a buffered channel, from which a consumer receives.  It blocks while the channel is full.
When the scanner stops at a line that is too long, it sends the text of the error instead,
if the channel has room for it, and ends; that line and all later ones are lost.
-/

namespace Tailpost.Reader

open Tailpost.Text
open Tailpost.Text.Scanner
open Tailpost.Transition
open Tailpost.Utf8

/-- The default of `bufio.Scanner`. -/
def maxScanTokenSize : Nat :=
  65536

/-- The capacity of the `Lines` channel of a macOS log reader. -/
def macOSLinesCapacity : Nat :=
  1000

/-- The line that is sent when the scanner gives up. -/
def errorMsg : Bytes :=
  bytes "Error reading macOS logs: bufio.Scanner: token too long"

/-- The line has something else than white space. -/
def isVisible (line : Bytes) : Bool :=
  trimSpace line != []

/-- Where `readLogs` is. -/
inductive ReadLogsPc
  /-- Before `scanner.Scan()`. -/
  | scan
  /-- At the `select` that sends a line. -/
  | send (line : Bytes)
  /-- Behind the loop, with an error of the scanner. -/
  | report
  | done
  deriving DecidableEq

/-- A reader that is not stopped. -/
structure MacOSLogReader where
  /-- The output that the scanner has not passed yet. -/
  unread : Bytes
  pc : ReadLogsPc
  /-- The contents of the `Lines` channel. -/
  lines : List Bytes
  /-- Everything that was put on the channel. -/
  sent : List Bytes

namespace MacOSLogReader

/-- The steps of the reader and of its consumer. -/
inductive Action
  /-- `readLogs` takes its next step. -/
  | readLogs
  /-- The consumer receives a line. -/
  | receive
  deriving DecidableEq

/-- The reader before it scans the output of the command. -/
def start (output : Bytes) : MacOSLogReader :=
  ⟨output, .scan, [], []⟩

/-- The channel takes a line without blocking. -/
def hasRoom (reader : MacOSLogReader) : Bool :=
  reader.lines.length < macOSLinesCapacity

/-- A line is sent on `lines`. -/
def put (reader : MacOSLogReader) (line : Bytes) (pc : ReadLogsPc) : MacOSLogReader :=
  { reader with pc, lines := reader.lines ++ [line], sent := reader.sent ++ [line] }

/-- The next step of `readLogs`. -/
def readLogs (reader : MacOSLogReader) : Option MacOSLogReader :=
  match reader.pc with
  | .scan =>
      match scan maxScanTokenSize reader.unread with
      | .token line rest =>
          if isVisible line then some { reader with unread := rest, pc := .send line }
          else some { reader with unread := rest }
      | .tooLong => some { reader with pc := .report }
      | .done => some { reader with pc := .done }
  | .send line => if reader.hasRoom then some (reader.put line .scan) else none
  | .report =>
      if reader.hasRoom then some (reader.put errorMsg .done)
      else some { reader with pc := .done }
  | .done => none

/-- One step of the reader or its consumer. -/
def step (reader : MacOSLogReader) : Action → Option MacOSLogReader
  | .readLogs => reader.readLogs
  | .receive =>
      match reader.lines with
      | [] => none
      | _ :: rest => some { reader with lines := rest }

/-! ## Steps -/

/-- What a step does. -/
inductive Moves (reader : MacOSLogReader) : MacOSLogReader → Prop
  | line {segment rest : Bytes} : reader.pc = .scan →
      segments isNewline reader.unread = segment :: segments isNewline rest →
      segment.length < maxScanTokenSize → rest.length < reader.unread.length →
      isVisible (dropCR segment) = true →
      Moves reader { reader with unread := rest, pc := .send (dropCR segment) }
  | blank {segment rest : Bytes} : reader.pc = .scan →
      segments isNewline reader.unread = segment :: segments isNewline rest →
      segment.length < maxScanTokenSize → rest.length < reader.unread.length →
      isVisible (dropCR segment) = false → Moves reader { reader with unread := rest }
  | tooLong {segment : Bytes} {others : List Bytes} : reader.pc = .scan →
      segments isNewline reader.unread = segment :: others →
      maxScanTokenSize ≤ segment.length → Moves reader { reader with pc := .report }
  | ended : reader.pc = .scan → segments isNewline reader.unread = [] →
      Moves reader { reader with pc := .done }
  | send {line : Bytes} : reader.pc = .send line → reader.hasRoom = true →
      Moves reader (reader.put line .scan)
  | report : reader.pc = .report → reader.hasRoom = true →
      Moves reader (reader.put errorMsg .done)
  | drop : reader.pc = .report → reader.hasRoom = false →
      Moves reader { reader with pc := .done }
  | receive {line : Bytes} {rest : List Bytes} : reader.lines = line :: rest →
      Moves reader { reader with lines := rest }

theorem moves_of_step {reader after : MacOSLogReader} {action : Action}
    (taken : reader.step action = some after) : Moves reader after := by
  cases action with
  | receive =>
      simp only [step] at taken
      split at taken
      next => contradiction
      next line rest held =>
        cases taken
        exact .receive held
  | readLogs =>
      simp only [step, readLogs] at taken
      split at taken
      next position =>
        have finds := finds_scan maxScanTokenSize reader.unread
        generalize scan maxScanTokenSize reader.unread = found at finds taken
        cases finds with
        | token all short shorter =>
            dsimp only at taken
            split at taken
            next visible =>
              cases taken
              exact .line position all short shorter visible
            next blank =>
              cases taken
              exact .blank position all short shorter (Bool.eq_false_iff.mpr blank)
        | tooLong all long =>
            cases taken
            exact .tooLong position all long
        | done all =>
            cases taken
            exact .ended position all
      next line position =>
        split at taken
        next room =>
          cases taken
          exact .send position room
        next => contradiction
      next position =>
        split at taken
        next room =>
          cases taken
          exact .report position room
        next full =>
          cases taken
          exact .drop position (Bool.eq_false_iff.mpr full)
      next => contradiction

/-! ## What is sent -/

/-- The scanner passes the line. -/
def isShort (line : Bytes) : Bool :=
  line.length < maxScanTokenSize

/-- The lines that are sent for some lines of the output. -/
def forwarded (lines : List Bytes) : List Bytes :=
  (lines.map dropCR).filter isVisible

/-- The lines in front of the first one that is too long. -/
def early (output : Bytes) : List Bytes :=
  (segments isNewline output).takeWhile isShort

/-- The first line that is too long, and those behind it. -/
def late (output : Bytes) : List Bytes :=
  (segments isNewline output).dropWhile isShort

section Lines

variable {output segment rest : Bytes} {others : List Bytes}

theorem isShort_iff : isShort segment = true ↔ segment.length < maxScanTokenSize :=
  decide_eq_true_iff

theorem early_of_short (all : segments isNewline output = segment :: segments isNewline rest)
    (short : segment.length < maxScanTokenSize) : early output = segment :: early rest := by
  rw [early, all, List.takeWhile_cons_of_pos (isShort_iff.mpr short)]
  rfl

theorem late_of_short (all : segments isNewline output = segment :: segments isNewline rest)
    (short : segment.length < maxScanTokenSize) : late output = late rest := by
  rw [late, all, List.dropWhile_cons_of_pos (isShort_iff.mpr short)]
  rfl

theorem early_of_long (all : segments isNewline output = segment :: others)
    (long : maxScanTokenSize ≤ segment.length) : early output = [] := by
  rw [early, all, List.takeWhile_cons_of_neg]
  exact fun short => Nat.not_lt.mpr long (isShort_iff.mp short)

theorem late_of_long (all : segments isNewline output = segment :: others)
    (long : maxScanTokenSize ≤ segment.length) : late output ≠ [] := by
  rw [late, all, List.dropWhile_cons_of_neg]
  · exact List.cons_ne_nil _ _
  · exact fun short => Nat.not_lt.mpr long (isShort_iff.mp short)

theorem forwarded_cons_of_visible (visible : isVisible (dropCR segment) = true) :
    forwarded (segment :: others) = dropCR segment :: forwarded others := by
  rw [forwarded, List.map_cons, List.filter_cons_of_pos visible]
  rfl

theorem forwarded_cons_of_blank (blank : isVisible (dropCR segment) = false) :
    forwarded (segment :: others) = forwarded others := by
  rw [forwarded, List.map_cons, List.filter_cons_of_neg (Bool.eq_false_iff.mp blank)]
  rfl

theorem forwarded_segments (output : Bytes) :
    forwarded (segments isNewline output) =
      forwarded (early output) ++ forwarded (late output) := by
  calc forwarded (segments isNewline output)
      = forwarded (early output ++ late output) := by
        rw [early, late, List.takeWhile_append_dropWhile]
    _ = forwarded (early output) ++ forwarded (late output) := by
        simp only [forwarded, List.map_append, List.filter_append]

end Lines

/-! ## The invariant -/

/-- How far the sending has come. -/
def Progress (output : Bytes) (reader : MacOSLogReader) : Prop :=
  match reader.pc with
  | .scan => reader.sent ++ forwarded (early reader.unread) = forwarded (early output) ∧
      late reader.unread = late output
  | .send line => reader.sent ++ line :: forwarded (early reader.unread) =
      forwarded (early output) ∧ late reader.unread = late output
  | .report => reader.sent = forwarded (early output) ∧ late output ≠ []
  | .done => late output = [] ∧ reader.sent = forwarded (early output) ∨
      late output ≠ [] ∧ (reader.sent = forwarded (early output) ++ [errorMsg] ∨
        reader.sent = forwarded (early output) ∧ macOSLinesCapacity ≤ reader.sent.length)

/-- What holds of a reader that has started on an output. -/
structure Sound (output : Bytes) (reader : MacOSLogReader) : Prop where
  progress : Progress output reader
  held : reader.lines.length ≤ reader.sent.length

theorem sound_start (output : Bytes) : Sound output (start output) where
  progress := ⟨rfl, rfl⟩
  held := Nat.le_refl 0

theorem Sound.moves {output : Bytes} {reader after : MacOSLogReader}
    (sound : Sound output reader) (moves : Moves reader after) : Sound output after := by
  obtain ⟨progress, held⟩ := sound
  unfold Progress at progress
  cases moves with
  | line position all short _ visible =>
      rw [position, early_of_short all short, late_of_short all short,
        forwarded_cons_of_visible visible] at progress
      exact ⟨progress, held⟩
  | blank position all short _ blank =>
      rw [position, early_of_short all short, late_of_short all short,
        forwarded_cons_of_blank blank] at progress
      refine ⟨?_, held⟩
      simp only [Progress, position]
      exact progress
  | tooLong position all long =>
      rw [position, early_of_long all long] at progress
      obtain ⟨sent, same⟩ := progress
      exact ⟨⟨(List.append_nil _).symm.trans sent, same ▸ late_of_long all long⟩, held⟩
  | ended position all =>
      rw [position, early, late, all] at progress
      obtain ⟨sent, same⟩ := progress
      exact ⟨.inl ⟨same.symm, (List.append_nil _).symm.trans sent⟩, held⟩
  | send position room =>
      rw [position] at progress
      obtain ⟨sent, same⟩ := progress
      exact ⟨⟨(List.append_assoc _ _ _).trans sent, same⟩, by simpa [put] using held⟩
  | report position room =>
      rw [position] at progress
      obtain ⟨sent, long⟩ := progress
      exact ⟨.inr ⟨long, .inl (congrArg (· ++ [errorMsg]) sent)⟩, by simpa [put] using held⟩
  | drop position full =>
      rw [position] at progress
      obtain ⟨sent, long⟩ := progress
      have many : macOSLinesCapacity ≤ reader.lines.length := by
        simpa [hasRoom] using full
      exact ⟨.inr ⟨long, .inr ⟨sent, many.trans held⟩⟩, held⟩
  | receive taken =>
      rw [taken, List.length_cons] at held
      exact ⟨progress, (Nat.le_succ _).trans held⟩

theorem sound_of_run {output : Bytes} {schedule : List Action} {reader : MacOSLogReader}
    (ran : run step (start output) schedule = some reader) : Sound output reader :=
  invariant_of_run_of_forall (fun _ _ _ sound taken => sound.moves (moves_of_step taken))
    (sound_start output) ran

/-! ## Termination -/

/-- No step is possible. -/
def Finished (reader : MacOSLogReader) : Prop :=
  ∀ action, reader.step action = none

/-- A reader that is not done can go on, or the consumer can make room for it. -/
theorem Finished.done {reader : MacOSLogReader} (finished : Finished reader) :
    reader.pc = .done := by
  have reading := finished .readLogs
  cases position : reader.pc with
  | done => rfl
  | scan =>
      simp only [step, readLogs, position] at reading
      split at reading
      next => split at reading <;> contradiction
      next => contradiction
      next => contradiction
  | report =>
      simp only [step, readLogs, position] at reading
      split at reading <;> contradiction
  | send line =>
      simp only [step, readLogs, position] at reading
      split at reading
      next => contradiction
      next full =>
        have receiving := finished .receive
        simp only [step] at receiving
        split at receiving
        next empty => exact absurd (by simp [hasRoom, empty, macOSLinesCapacity]) full
        next => contradiction

/-- How many steps are left at most.  A byte of the output accounts for scanning it, for
sending a line and for receiving it. -/
def weight (reader : MacOSLogReader) : Nat :=
  3 * reader.unread.length + reader.lines.length +
    match reader.pc with
    | .scan => 3
    | .send _ => 5
    | .report => 2
    | .done => 0

theorem weight_of_moves {reader after : MacOSLogReader} (moves : Moves reader after) :
    after.weight < reader.weight := by
  cases moves with
  | line position _ _ shorter _ =>
      simp only [weight, position]
      omega
  | blank position _ _ shorter _ =>
      simp only [weight, position]
      omega
  | tooLong position _ _ | ended position _ | drop position _ =>
      simp only [weight, position]
      omega
  | send position _ | report position _ =>
      simp only [weight, put, position, List.length_append, List.length_singleton]
      omega
  | receive taken =>
      simp only [weight, taken, List.length_cons]
      omega

/-! ## Runs to the end -/

/-- Some schedule leads from one state to the other. -/
abbrev Leads (reader after : MacOSLogReader) : Prop :=
  Reaches step (fun _ => True) reader after

/-- The consumer empties the channel. -/
theorem leads_drained (reader : MacOSLogReader) : Leads reader { reader with lines := [] } := by
  induction held : reader.lines generalizing reader with
  | nil =>
      rw [← held]
      exact .refl _ _ _
  | cons line rest inductionHypothesis =>
      have received : reader.step .receive = some { reader with lines := rest } := by
        simp only [step, held]
      exact .head trivial received (inductionHypothesis { reader with lines := rest } rfl)

theorem finished_of_done {reader : MacOSLogReader} (position : reader.pc = .done)
    (empty : reader.lines = []) : Finished reader
  | .readLogs => by simp only [step, readLogs, position]
  | .receive => by simp only [step, empty]

/-- Some lines are sent, and the consumer only receives when the channel is full. -/
structure Passes (reader after : MacOSLogReader) (lines : List Bytes) : Prop where
  leads : Leads reader after
  scanning : after.pc = .scan
  sent : after.sent = reader.sent ++ lines
  length : after.lines.length = min (reader.lines.length + lines.length) macOSLinesCapacity

namespace Passes

variable {reader middle after : MacOSLogReader} {lines others : List Bytes}

theorem refl (scanning : reader.pc = .scan)
    (bounded : reader.lines.length ≤ macOSLinesCapacity) : Passes reader reader [] where
  leads := .refl _ _ _
  scanning := scanning
  sent := (List.append_nil _).symm
  length := (Nat.min_eq_left bounded).symm

/-- A step that sends nothing, followed by others. -/
theorem head {action : Action} (taken : reader.step action = some middle)
    (sent : middle.sent = reader.sent) (length : middle.lines = reader.lines)
    (rest : Passes middle after lines) : Passes reader after lines where
  leads := .head trivial taken rest.leads
  scanning := rest.scanning
  sent := sent ▸ rest.sent
  length := length ▸ rest.length

theorem trans (first : Passes reader middle lines) (second : Passes middle after others) :
    Passes reader after (lines ++ others) where
  leads := first.leads.trans second.leads
  scanning := second.scanning
  sent := by rw [second.sent, first.sent, List.append_assoc]
  length := by
    rw [second.length, first.length, List.length_append]
    omega

theorem bounded (passes : Passes reader after lines) :
    after.lines.length ≤ macOSLinesCapacity :=
  passes.length ▸ Nat.min_le_right _ _

end Passes

/-- A line is sent, after the consumer has made room for it if there is none. -/
theorem passes_send {reader : MacOSLogReader} {line : Bytes} (position : reader.pc = .send line)
    (bounded : reader.lines.length ≤ macOSLinesCapacity) :
    ∃ after, Passes reader after [line] ∧ after.unread = reader.unread := by
  have sends (sender : MacOSLogReader) (sending : sender.pc = .send line)
      (room : sender.lines.length < macOSLinesCapacity) :
      sender.step .readLogs = some (sender.put line .scan) := by
    simp only [step, readLogs, sending, hasRoom, decide_eq_true room, if_true]
  by_cases room : reader.lines.length < macOSLinesCapacity
  · refine ⟨reader.put line .scan, ⟨.single trivial (sends reader position room), rfl, rfl, ?_⟩,
      rfl⟩
    simp only [put, List.length_append, List.length_singleton]
    omega
  · have full : reader.lines.length = macOSLinesCapacity := by omega
    cases held : reader.lines with
    | nil =>
        rw [held] at full
        contradiction
    | cons first rest =>
        rw [held, List.length_cons] at full
        have received : reader.step .receive = some { reader with lines := rest } := by
          simp only [step, held]
        have sent := sends { reader with lines := rest } position (by simp only; omega)
        refine ⟨_, ⟨.head trivial received (.single trivial sent), rfl, rfl, ?_⟩, rfl⟩
        simp only [put, held, List.length_append, List.length_cons, List.length_nil]
        omega

/-- The loop passes the lines in front of the first one that is too long. -/
theorem passes_early (reader : MacOSLogReader) (position : reader.pc = .scan)
    (bounded : reader.lines.length ≤ macOSLinesCapacity) :
    ∃ after, Passes reader after (forwarded (early reader.unread)) ∧
      early after.unread = [] ∧ late after.unread = late reader.unread := by
  have stays (none : early reader.unread = []) :
      ∃ after, Passes reader after (forwarded (early reader.unread)) ∧
        early after.unread = [] ∧ late after.unread = late reader.unread := by
    refine ⟨reader, ?_, none, rfl⟩
    rw [none]
    exact .refl position bounded
  have finds := finds_scan maxScanTokenSize reader.unread
  generalize found : scan maxScanTokenSize reader.unread = result at finds
  cases finds with
  | tooLong all long => exact stays (early_of_long all long)
  | done all =>
      apply stays
      rw [early, all]
      rfl
  | @token segment rest all short shorter =>
      rw [early_of_short all short, late_of_short all short]
      cases visible : isVisible (dropCR segment) with
      | true =>
          have taken : reader.step .readLogs =
              some { reader with unread := rest, pc := .send (dropCR segment) } := by
            simp only [step, readLogs, position, found, visible, if_true]
          obtain ⟨middle, first, unread⟩ :=
            @passes_send { reader with unread := rest, pc := .send (dropCR segment) } _ rfl bounded
          obtain ⟨after, second, ended⟩ := passes_early middle first.scanning first.bounded
          rw [unread] at second ended
          rw [forwarded_cons_of_visible visible]
          exact ⟨after, .head taken rfl rfl (first.trans second), ended⟩
      | false =>
          have taken : reader.step .readLogs = some { reader with unread := rest } := by
            simp only [step, readLogs, position, found, visible]
            rfl
          obtain ⟨after, later, ended⟩ :=
            passes_early { reader with unread := rest } position bounded
          rw [forwarded_cons_of_blank visible]
          exact ⟨after, .head taken rfl rfl later, ended⟩
termination_by reader.unread.length

/-- A line that is too long is reported when all lines before it are sent and as many of
them as possible are still in the channel. -/
theorem leads_report {output : Bytes} (long : late output ≠ []) :
    ∃ stopped, Leads (start output) stopped ∧ stopped.pc = .report ∧
      stopped.sent = forwarded (early output) ∧
      stopped.lines.length = min (forwarded (early output)).length macOSLinesCapacity := by
  obtain ⟨after, passes, none, same⟩ := passes_early (start output) rfl (Nat.zero_le _)
  have stops : after.step .readLogs = some { after with pc := .report } := by
    have finds := finds_scan maxScanTokenSize after.unread
    generalize found : scan maxScanTokenSize after.unread = result at finds
    cases finds with
    | token all short _ =>
        rw [early_of_short all short] at none
        contradiction
    | tooLong all _ => simp only [step, readLogs, passes.scanning, found]
    | done all =>
        have ended : late output = [] := by
          rw [← show late after.unread = late output from same, late, all]
          rfl
        exact absurd ended long
  refine ⟨_, passes.leads.trans (.single trivial stops), rfl, passes.sent,
    passes.length.trans ?_⟩
  rw [start, List.length_nil, Nat.zero_add]

/-- A reader that reports with an empty channel sends the text of the error. -/
theorem leads_reported {stopped : MacOSLogReader} (position : stopped.pc = .report) :
    ∃ final, Leads stopped final ∧ Finished final ∧ final.sent = stopped.sent ++ [errorMsg] := by
  have reported : step { stopped with lines := [] } .readLogs =
      some (put { stopped with lines := [] } errorMsg .done) := by
    simp only [step, readLogs, position]
    rfl
  exact ⟨_, (leads_drained stopped).trans (.head trivial reported (leads_drained _)),
    finished_of_done rfl rfl, rfl⟩

/-- A reader that reports with a full channel sends nothing more. -/
theorem leads_dropped {stopped : MacOSLogReader} (position : stopped.pc = .report)
    (full : stopped.lines.length = macOSLinesCapacity) :
    ∃ final, Leads stopped final ∧ Finished final ∧ final.sent = stopped.sent := by
  have dropped : stopped.step .readLogs = some { stopped with pc := .done } := by
    simp only [step, readLogs, position, hasRoom, full]
    rfl
  exact ⟨_, .head trivial dropped (leads_drained _), finished_of_done rfl rfl, rfl⟩

/-- While the consumer keeps receiving, the reader comes to an end, and then it has sent
the lines of the output that are not blank. -/
structure Forwards (output : Bytes) : Prop where
  ends : ∀ schedule reader, run step (start output) schedule = some reader →
    schedule.length ≤ 3 * output.length + 3
  sends : ∀ schedule reader, run step (start output) schedule = some reader → Finished reader →
    reader.pc = .done ∧ reader.sent = forwarded (segments isNewline output)

theorem length_le_of_run {output : Bytes} {schedule : List Action} {reader : MacOSLogReader}
    (ran : run step (start output) schedule = some reader) :
    schedule.length ≤ 3 * output.length + 3 := by
  have bound := length_add_le_of_run (fun _ _ _ taken => weight_of_moves (moves_of_step taken)) ran
  exact (Nat.le_add_right _ _).trans bound

/-- Every line of the output is forwarded exactly if none of them is too long for the
scanner, or all that is lost with such a line is one line that has the same text as the
error, and there is room for that one in any case. -/
theorem forwards_iff (output : Bytes) :
    Forwards output ↔
      (∀ line ∈ segments isNewline output, line.length < maxScanTokenSize) ∨
        forwarded (late output) = [errorMsg] ∧
          (forwarded (early output)).length < macOSLinesCapacity := by
  have allShort : (∀ line ∈ segments isNewline output, line.length < maxScanTokenSize) ↔
      late output = [] := by
    simp only [late, List.dropWhile_eq_nil_iff, isShort_iff]
  rw [allShort]
  constructor
  · rintro ⟨_, sends⟩
    by_cases long : late output = []
    · exact .inl long
    · right
      obtain ⟨stopped, ⟨front, _, ranFront⟩, position, sent, length⟩ := leads_report long
      have forwards : ∀ final, Leads stopped final → Finished final →
          final.sent = forwarded (early output) ++ forwarded (late output) := by
        rintro final ⟨back, _, ranBack⟩ finished
        rw [← forwarded_segments]
        exact (sends _ final (run_trans ranFront ranBack) finished).2
      -- The consumer may be quick enough for the error, so the lost lines must be the error.
      obtain ⟨reported, leads, finished, sentReported⟩ := leads_reported position
      have same := forwards reported leads finished
      rw [sentReported, sent] at same
      have lost : forwarded (late output) = [errorMsg] := (List.append_cancel_left same).symm
      refine ⟨lost, ?_⟩
      by_contra many
      -- It may also be so slow that the error is dropped.
      have full : stopped.lines.length = macOSLinesCapacity := by omega
      obtain ⟨dropped, leads, finished, sentDropped⟩ := leads_dropped position full
      have missing := forwards dropped leads finished
      rw [sentDropped, sent, lost] at missing
      simp at missing
  · intro condition
    refine ⟨fun _ _ => length_le_of_run, fun schedule reader ran finished => ?_⟩
    have position := finished.done
    have progress := (sound_of_run ran).progress
    simp only [Progress, position] at progress
    refine ⟨position, ?_⟩
    rw [forwarded_segments]
    rcases progress with ⟨short, sent⟩ | ⟨long, outcome⟩
    · rw [short, sent]
      exact (List.append_nil _).symm
    · obtain ⟨lost, few⟩ := condition.resolve_left long
      rcases outcome with sent | ⟨sent, many⟩
      · rw [sent, lost]
      · rw [sent] at many
        omega

/-- An output that begins with a line that is too long can end with the error alone. -/
theorem leads_error {line rest : Bytes} (inside : ∀ byte ∈ line, isNewline byte = false)
    (long : maxScanTokenSize ≤ line.length) :
    segments isNewline (line ++ newline :: rest) = line :: segments isNewline rest ∧
      ∃ final, Leads (start (line ++ newline :: rest)) final ∧ Finished final ∧
        final.sent = [errorMsg] := by
  have cut : cutLine isNewline (line ++ newline :: rest) = some (line ++ [newline], rest) :=
    cutLine_eq_some_iff.mpr ⟨by simp, line, newline, rfl, rfl, inside⟩
  have all := segments_of_cutLine cut
  rw [List.dropLast_concat] at all
  obtain ⟨stopped, first, position, sent, _⟩ := leads_report (late_of_long all long)
  obtain ⟨final, second, finished, reported⟩ := leads_reported position
  refine ⟨all, final, first.trans second, finished, ?_⟩
  rw [reported, sent, early_of_long all long]
  rfl

/-- A line of `65536` bytes is too long; the line `b` behind it is never sent. -/
theorem line_behind_long_line_lost :
    ¬ Forwards (List.replicate 65536 97 ++ newline :: [98, newline]) ∧
      [98] ∈ forwarded (segments isNewline
        (List.replicate 65536 97 ++ newline :: [98, newline])) ∧
      ∃ schedule reader,
        run step (start (List.replicate 65536 97 ++ newline :: [98, newline])) schedule =
            some reader ∧
          Finished reader ∧ reader.sent = [errorMsg] := by
  have inside : ∀ byte ∈ List.replicate 65536 (97 : UInt8), isNewline byte = false := by
    intro byte member
    rw [List.eq_of_mem_replicate member]
    rfl
  have long : maxScanTokenSize ≤ (List.replicate 65536 (97 : UInt8)).length :=
    Nat.le_of_eq List.length_replicate.symm
  obtain ⟨all, final, ⟨schedule, _, ran⟩, finished, sent⟩ :=
    @leads_error _ [98, newline] inside long
  have visible : [98] ∈ forwarded (segments isNewline
      (List.replicate 65536 97 ++ newline :: [98, newline])) := by
    have alone : [98] ∈ forwarded (segments isNewline [98, newline]) := by decide
    rw [all]
    rw [forwarded, List.mem_filter] at alone ⊢
    exact ⟨List.mem_cons_of_mem _ alone.1, alone.2⟩
  refine ⟨fun forwards => ?_, visible, schedule, final, ran, finished, sent⟩
  rw [← (forwards.sends schedule final ran finished).2, sent, List.mem_singleton] at visible
  exact absurd visible (by decide)

end MacOSLogReader

end Tailpost.Reader
