import Scratchpad.Output

/-! What captures deliver. A capture owns what is written while it is the innermost open one; its
sink gets the lines of exactly that text, however it was cut into writes and whatever was captured
in between.
-/

namespace Scratchpad

-----------------------------------------------------------------------------------------
-- Lines of a text
-----------------------------------------------------------------------------------------

namespace Lines

/-- How a text reads as lines. A line ends at a newline, which a carriage return may precede; the
rest after the last newline is no line yet.
-/
inductive Reads : List Char → List (List Char) → List Char → Prop
  | rest {rest} (unbroken : '\n' ∉ rest) : Reads rest [] rest
  | newline {line text lines rest} (unbroken : '\n' ∉ line)
    (plain : line.getLast? ≠ some '\r') (later : Reads text lines rest)
    : Reads (line ++ '\n' :: text) (line :: lines) rest
  | returned {line text lines rest} (unbroken : '\n' ∉ line) (later : Reads text lines rest)
    : Reads (line ++ '\r' :: '\n' :: text) (line :: lines) rest

/-- A text without a newline is all rest.
Witness: by induction on the text, no character of which ends a line.
-/
theorem split_of_notMem {text : List Char} (unbroken : '\n' ∉ text)
    : split text = ([], text) := by
  induction text with
  | nil => rfl
  | cons c text ih =>
      obtain ⟨other, unbroken⟩ := not_or.mp (mt List.mem_cons.mpr unbroken)
      simp [split, ih unbroken, Ne.symm other]

/-- The first newline ends the first line, by induction on what stands before it.
Witness: each character before the newline is put in front of the first line.
-/
theorem split_line {line : List Char} (unbroken : '\n' ∉ line) (text : List Char)
    : split (line ++ '\n' :: text) = (line :: (split text).1, (split text).2) := by
  induction line with
  | nil => simp [split]
  | cons c line ih =>
      obtain ⟨other, unbroken⟩ := not_or.mp (mt List.mem_cons.mpr unbroken)
      rw [List.cons_append, split, ih unbroken]
      simp [Ne.symm other]

/-- More text leaves the complete lines alone and continues the rest, by induction on the text
before it.
-/
theorem split_append (text more : List Char)
    : split (text ++ more)
      = ((split text).1 ++ (split ((split text).2 ++ more)).1,
          (split ((split text).2 ++ more)).2) := by
  induction text with
  | nil => rfl
  | cons c text ih =>
      rw [List.cons_append, split, ih, split]
      rcases split text with ⟨_ | ⟨line, lines⟩, last⟩
      · by_cases ends : c = '\n'
        · simp [ends]
        · simp [ends, split]
      · by_cases ends : c = '\n'
        · simp [ends]
        · simp [ends]

/-- A line that does not end in a return is left as it is. -/
theorem trimReturn_of_ne {line : List Char} (plain : line.getLast? ≠ some '\r')
    : trimReturn line = line :=
  if_neg plain

/-- A return at the end of a line is dropped. -/
theorem trimReturn_concat (line : List Char) : trimReturn (line ++ ['\r']) = line := by
  simp [trimReturn]

/-- Splitting reads every text, by induction on its length.
Witness: the text up to its first newline is a line, with or without a return, and the rest is
shorter; a text without a newline is all rest.
-/
theorem reads_split (text : List Char)
    : Reads text ((split text).1.map trimReturn) (split text).2 := by
  induction size : text.length using Nat.strongRecOn generalizing text with
  | _ size ih =>
    by_cases broken : '\n' ∈ text
    · obtain ⟨line, later, rfl, unbroken⟩ := List.eq_append_cons_of_mem broken
      have reads := ih later.length (by simp at size; omega) later rfl
      rw [split_line unbroken, List.map_cons]
      by_cases plain : line.getLast? = some '\r'
      · obtain ⟨start, rfl⟩ := List.getLast?_eq_some_iff.mp plain
        rw [trimReturn_concat, List.append_assoc]
        exact .returned (fun member => unbroken (by simp [member])) reads
      · rw [trimReturn_of_ne plain]
        exact .newline unbroken plain reads
    · rw [split_of_notMem broken]
      exact .rest broken

/-- Splitting finds any way to read a text, by induction on the lines.
Witness: each line of a reading is the first line of the split, and the split of the rest is the
reading of the rest.
-/
theorem Reads.eq_split {text rest : List Char} {lines : List (List Char)}
    (reads : Reads text lines rest)
    : lines = (split text).1.map trimReturn ∧ rest = (split text).2 := by
  induction reads with
  | rest unbroken => simp [split_of_notMem unbroken]
  | newline unbroken plain _ ih =>
      obtain ⟨rfl, rfl⟩ := ih
      simp [split_line unbroken, trimReturn_of_ne plain]
  | @returned line text lines rest unbroken _ ih =>
      obtain ⟨rfl, rfl⟩ := ih
      have whole : '\n' ∉ line ++ ['\r'] := by simp [unbroken]
      have ended := split_line whole text
      rw [List.append_assoc, List.singleton_append] at ended
      simp [ended, trimReturn_concat]

/-- A text reads in one way only. -/
theorem Reads.unique {text rest rest' : List Char} {lines lines' : List (List Char)}
    (reads : Reads text lines rest) (reads' : Reads text lines' rest')
    : lines = lines' ∧ rest = rest' := by
  obtain ⟨rfl, rfl⟩ := reads.eq_split
  obtain ⟨rfl, rfl⟩ := reads'.eq_split
  exact ⟨rfl, rfl⟩

end Lines

-----------------------------------------------------------------------------------------
-- What happens to captures
-----------------------------------------------------------------------------------------

/-- One thing that happens to captures. -/
inductive CaptureStep where
  | begin
  | finish
  | write (stream : Stream) (text : String)

def Captures.step (captures : Captures) : CaptureStep → Captures
  | .begin => captures.openCapture
  | .finish => captures.closeCapture
  | .write stream text => captures.write stream text

/-- A record of what happened, without any lines: how many captures began, which of them are open,
the innermost first, and what was written while which one was the innermost. Captures are numbered
in the order in which they begin.
-/
structure CaptureLog where
  begun : Nat := 0
  opened : List Nat := []
  written : List (Nat × Stream × String) := []

namespace CaptureLog

def note (log : CaptureLog) : CaptureStep → CaptureLog
  | .begin => { log with begun := log.begun + 1, opened := log.begun :: log.opened }
  | .finish => { log with opened := log.opened.tail }
  | .write stream text =>
    match log.opened with
    | [] => log
    | owner :: _ => { log with written := log.written ++ [(owner, stream, text)] }

/-- All that was written to a stream while a capture was the innermost. -/
def text (log : CaptureLog) (capture : Nat) (stream : Stream) : List Char :=
  log.written.flatMap fun entry =>
    if entry.1 = capture ∧ entry.2.1 = stream then entry.2.2.toList else []

/-- The lines that a capture owes its sink, the rest only when the capture has ended. -/
def due (log : CaptureLog) (capture : Nat) (stream : Stream) : List (List Char) :=
  let (lines, rest) := Lines.split (log.text capture stream)
  lines.map Lines.trimReturn ++ if capture ∈ log.opened ∨ rest = [] then [] else [rest]

/-- A write counts for the innermost capture and for its stream. -/
theorem text_write {log : CaptureLog} {owner : Nat} {outer : List Nat}
    (opened : log.opened = owner :: outer) (stream : Stream) (more : String) (capture : Nat)
    (target : Stream)
    : (log.note (.write stream more)).text capture target
      = log.text capture target
        ++ if owner = capture ∧ stream = target then more.toList else [] := by
  simp [note, opened, text]

end CaptureLog

-----------------------------------------------------------------------------------------
-- Deliveries
-----------------------------------------------------------------------------------------

/-- Setting the rest of one stream is seen on that stream alone. -/
theorem LineBuffers.pending_setPending (buffers : LineBuffers) (stream target : Stream)
    (text : List Char)
    : (buffers.setPending stream text).pending target
      = if stream = target then text else buffers.pending target := by
  cases stream <;> cases target <;> rfl

/-- Flushing gives at most one line for each stream, the unfinished one. -/
theorem LineBuffers.filter_flush (buffers : LineBuffers) (stream : Stream)
    : (buffers.flush.filter (·.stream == stream)).map (·.text)
      = (if buffers.pending stream = [] then [] else [buffers.pending stream]).map
          String.ofList := by
  obtain ⟨out, err⟩ := buffers
  cases stream <;> cases out <;> cases err <;> simp [flush, pending]

/-- The lines that a write completes are all on its stream.
Witness: those lines carry the stream of the write, so a filter keeps all of them or none.
-/
theorem LineBuffers.filter_push (buffers : LineBuffers) (stream target : Stream) (text : String)
    : ((buffers.push stream text).1.filter (·.stream == target)).map (·.text)
      = if stream = target then
          ((Lines.split (buffers.pending stream ++ text.toList)).1.map Lines.trimReturn).map
            String.ofList
        else [] := by
  by_cases same : stream = target
  · subst same
    rw [List.filter_eq_self.mpr (by simp [push])]
    simp [push]
  · rw [List.filter_eq_nil_iff.mpr (by simp [push, same])]
    simp [same]

namespace Captures

/-- A delivery reaches its own sink at the end, and no other.
Witness: one sink is changed by appending, and filtering an appended list is filtering its parts.
-/
theorem lines_deliver {captures : Captures} {sink : Nat} (known : sink < captures.sinks.size)
    (delivered : List OutputLine) (capture : Nat) (stream : Stream)
    : (captures.deliver sink delivered).lines capture stream
      = captures.lines capture stream
        ++ if sink = capture then (delivered.filter (·.stream == stream)).map (·.text)
          else [] := by
  by_cases same : sink = capture
  · subst same
    simp only [lines, deliver, Array.getD_eq_getD_getElem?, Array.getElem?_modify, if_true,
      Array.getElem?_eq_getElem known, Option.map_some, Option.getD_some, List.filter_append,
      List.map_append]
  · simp [lines, deliver, Array.getD_eq_getD_getElem?, Array.getElem?_modify, same]

/-- The captures are as the record of what happened says. -/
structure Mirrors (captures : Captures) (log : CaptureLog) : Prop where
  begun : captures.sinks.size = log.begun
  opened : captures.opened.map (·.sink) = log.opened
  known : ∀ capture ∈ log.opened, capture < log.begun
  distinct : log.opened.Nodup
  /-- Nothing has been written for captures that are yet to begin. -/
  fresh : ∀ capture ≥ log.begun, ∀ stream, log.text capture stream = []
  pending
    : ∀ capture ∈ captures.opened, ∀ stream,
        capture.buffers.pending stream = (Lines.split (log.text capture.sink stream)).2
  delivered
    : ∀ capture stream,
        captures.lines capture stream = (log.due capture stream).map String.ofList

namespace Mirrors

variable {captures : Captures} {log : CaptureLog}

/-- A new capture has nothing to deliver.
Witness: its number is one that no capture had, so nothing was written to it yet.
-/
theorem begin (mirrors : captures.Mirrors log)
    : (captures.step .begin).Mirrors (log.note .begin) where
  begun := by simp [step, openCapture, CaptureLog.note, mirrors.begun]
  opened := by simp [step, openCapture, CaptureLog.note, mirrors.begun, mirrors.opened]
  known := fun capture member => by
    rcases List.mem_cons.mp member with rfl | member
    · exact Nat.lt_succ_self _
    · exact Nat.lt_succ_of_lt (mirrors.known capture member)
  distinct := by
    refine List.nodup_cons.mpr ⟨fun member => ?_, mirrors.distinct⟩
    exact Nat.lt_irrefl _ (mirrors.known _ member)
  fresh := fun capture later => mirrors.fresh capture (Nat.le_of_succ_le later)
  pending := fun capture member stream => by
    rcases List.mem_cons.mp member with rfl | member
    · have unwritten : log.text captures.sinks.size stream = [] :=
        mirrors.fresh _ (Nat.le_of_eq mirrors.begun.symm) stream
      show _ = (Lines.split (log.text captures.sinks.size stream)).2
      rw [unwritten]
      cases stream <;> rfl
    · exact mirrors.pending capture member stream
  delivered := fun capture stream => by
    have same : (captures.step .begin).lines capture stream = captures.lines capture stream := by
      simp only [lines, step, openCapture, Array.getD_eq_getD_getElem?, Array.getElem?_push]
      split
      · next last => simp [last]
      · rfl
    rw [same, mirrors.delivered]
    by_cases last : capture = log.begun
    · have unwritten : log.text capture stream = [] :=
        mirrors.fresh capture (Nat.le_of_eq last.symm) stream
      have still : (log.note .begin).text capture stream = [] := unwritten
      simp [CaptureLog.due, unwritten, still, Lines.split]
    · have still : (log.note .begin).text capture stream = log.text capture stream := rfl
      have held : capture ∈ (log.note .begin).opened ↔ capture ∈ log.opened := by
        simp [CaptureLog.note, last]
      simp only [CaptureLog.due, still, held]

/-- Without an open capture the record has none. -/
theorem opened_nil (mirrors : captures.Mirrors log) (inner : captures.opened = [])
    : log.opened = [] := by
  rw [← mirrors.opened, inner, List.map_nil]

/-- The innermost capture is the innermost of the record; it has a sink, and no other open capture
has the same.
-/
theorem innermost (mirrors : captures.Mirrors log) {capture : Capture} {outer : List Capture}
    (inner : captures.opened = capture :: outer)
    : log.opened = capture.sink :: outer.map (·.sink)
      ∧ capture.sink < captures.sinks.size
      ∧ capture.sink ∉ outer.map (·.sink) := by
  have opened : log.opened = capture.sink :: outer.map (·.sink) := by
    rw [← mirrors.opened, inner, List.map_cons]
  refine ⟨opened, ?_, (List.nodup_cons.mp (opened ▸ mirrors.distinct)).1⟩
  rw [mirrors.begun]
  exact mirrors.known _ (by simp [opened])

/-- An ended capture has delivered its rest as well.
Witness: the innermost capture writes out what is left on each stream and is no longer open; the
captures around it are not touched.
-/
theorem finish (mirrors : captures.Mirrors log)
    : (captures.step .finish).Mirrors (log.note .finish) := by
  cases inner : captures.opened with
  | nil =>
      have none : log.opened = [] := mirrors.opened_nil inner
      have same : captures.step .finish = captures := by simp [step, closeCapture, inner]
      have noted : log.note .finish = log := by
        obtain ⟨begun, opened, written⟩ := log
        obtain rfl : opened = [] := none
        rfl
      rwa [same, noted]
  | cons capture outer =>
      obtain ⟨opened, known, gone⟩ := mirrors.innermost inner
      have noted : (log.note .finish).opened = outer.map (·.sink) := by
        simp [CaptureLog.note, opened]
      have closed
          : captures.step .finish
            = { captures.deliver capture.sink capture.buffers.flush with opened := outer } := by
        simp [step, closeCapture, inner]
      refine {
        begun := by
          rw [closed]
          exact (Array.size_modify ..).trans mirrors.begun
        opened := by rw [closed, noted]
        known := fun other member => mirrors.known other (List.mem_of_mem_tail member)
        distinct := mirrors.distinct.sublist (List.tail_sublist _)
        fresh := mirrors.fresh
        pending := fun other member stream => ?_
        delivered := fun other stream => ?_
      }
      · rw [closed] at member
        exact mirrors.pending other (by simp [inner, member]) stream
      · have text : (log.note .finish).text other stream = log.text other stream := rfl
        have lines
            : (captures.step .finish).lines other stream
              = (captures.deliver capture.sink capture.buffers.flush).lines other stream := by
          rw [closed]
          rfl
        rw [lines, lines_deliver known, LineBuffers.filter_flush,
          mirrors.pending capture (by simp [inner]), mirrors.delivered]
        by_cases own : capture.sink = other
        · subst own
          simp [CaptureLog.due, text, noted, opened, gone]
        · simp [CaptureLog.due, text, noted, opened, own, Ne.symm own]

/-- A write completes lines of the innermost capture and continues its rest.
Witness: what was read of the stream so far and what is written split together as the whole text
does, for the innermost capture; no other capture and no other stream is touched.
-/
theorem write (mirrors : captures.Mirrors log) (stream : Stream) (text : String)
    : (captures.step (.write stream text)).Mirrors (log.note (.write stream text)) := by
  cases inner : captures.opened with
  | nil =>
      have none : log.opened = [] := mirrors.opened_nil inner
      have same : captures.step (.write stream text) = captures := by
        simp [step, Captures.write, inner]
      have noted : log.note (.write stream text) = log := by simp [CaptureLog.note, none]
      rwa [same, noted]
  | cons capture outer =>
      obtain ⟨opened, known, below⟩ := mirrors.innermost inner
      have noted : (log.note (.write stream text)).opened = log.opened := by
        simp [CaptureLog.note, opened]
      have begun : (log.note (.write stream text)).begun = log.begun := by
        simp [CaptureLog.note, opened]
      have written := CaptureLog.text_write opened stream text
      have pending := mirrors.pending capture (by simp [inner])
      let pushed := capture.buffers.push stream text
      have stepped
          : captures.step (.write stream text)
            = {
                captures.deliver capture.sink pushed.1 with
                opened := { capture with buffers := pushed.2 } :: outer
              } := by
        simp [step, Captures.write, inner, pushed]
      refine {
        begun := by simpa [stepped, deliver, begun] using mirrors.begun
        opened := by simp [stepped, noted, opened]
        known := by simpa only [noted, begun] using mirrors.known
        distinct := by simpa only [noted] using mirrors.distinct
        fresh := fun other later target => ?_
        pending := fun other member target => ?_
        delivered := fun other target => ?_
      }
      · rw [begun] at later
        rw [written, mirrors.fresh other later, List.nil_append, if_neg]
        rintro ⟨rfl, _⟩
        rw [mirrors.begun] at known
        omega
      · rw [stepped] at member
        rcases List.mem_cons.mp member with rfl | member
        · show (capture.buffers.setPending _ _).pending target = _
          rw [LineBuffers.pending_setPending, written, pending stream]
          by_cases same : stream = target
          · simp [same, Lines.split_append (log.text capture.sink target)]
          · simp [same, pending target]
        · have other : capture.sink ≠ other.sink := fun same =>
            below (same ▸ List.mem_map_of_mem member)
          rw [written, mirrors.pending _ (by simp [inner, member])]
          simp [other]
      · have lines
            : (captures.step (.write stream text)).lines other target
              = (captures.deliver capture.sink pushed.1).lines other target := by
          rw [stepped]
          rfl
        rw [lines, lines_deliver known, LineBuffers.filter_push, mirrors.delivered,
          pending stream]
        simp only [CaptureLog.due, noted, written]
        by_cases own : capture.sink = other
        · subst own
          by_cases same : stream = target
          · simp [same, opened, Lines.split_append (log.text capture.sink target)]
          · simp [same]
        · simp [own]

end Mirrors

/-- Before anything happens there is nothing to record. -/
theorem mirrors_empty : ({} : Captures).Mirrors {} where
  begun := rfl
  opened := rfl
  known := by simp
  distinct := .nil
  fresh := fun _ _ _ => rfl
  pending := by simp
  delivered := fun _ _ => by simp [lines, CaptureLog.due, CaptureLog.text, Lines.split]

/-- The record stays right whatever happens, by induction on what does.
Witness: each kind of step keeps the record right by itself.
-/
theorem mirrors_foldl {captures : Captures} {log : CaptureLog} (mirrors : captures.Mirrors log)
    (steps : List CaptureStep)
    : (steps.foldl step captures).Mirrors (steps.foldl CaptureLog.note log) := by
  induction steps generalizing captures log with
  | nil => exact mirrors
  | cons first rest ih =>
      cases first with
      | begin => exact ih mirrors.begin
      | finish => exact ih mirrors.finish
      | write stream text => exact ih (mirrors.write stream text)

/-- Each sink has got the lines of what was written while its capture was the innermost, and the
rest once the capture has ended.
-/
theorem exists_reads (steps : List CaptureStep) (capture : Nat) (stream : Stream)
    : ∃ lines rest,
        Lines.Reads ((steps.foldl CaptureLog.note {}).text capture stream) lines rest
        ∧ (steps.foldl step {}).lines capture stream
          = (lines
              ++ if capture ∈ (steps.foldl CaptureLog.note {}).opened ∨ rest = [] then []
                else [rest]).map
              String.ofList :=
  ⟨_, _, Lines.reads_split _, (mirrors_foldl mirrors_empty steps).delivered capture stream⟩

/-- Whatever happens, each sink has got exactly the lines of what was written while its capture was
the innermost, and the rest once the capture has ended. Nothing else matters: not how the text was
cut, not the other stream, not the captures in between.
-/
theorem captured_lines (steps : List CaptureStep)
    : let captures : Captures := steps.foldl step {}
      let log : CaptureLog := steps.foldl CaptureLog.note {}
      (∀ capture stream, ∃ lines rest,
        Lines.Reads (log.text capture stream) lines rest
        ∧ captures.lines capture stream
          = (lines ++ if capture ∈ log.opened ∨ rest = [] then [] else [rest]).map String.ofList)
      ∧ (captures.isActive = true ↔ log.opened ≠ [])
      ∧ ∀ (others : List CaptureStep) (capture twin : Nat) (stream target : Stream),
        (others.foldl CaptureLog.note {}).text twin target = log.text capture stream
        → (twin ∈ (others.foldl CaptureLog.note {}).opened ↔ capture ∈ log.opened)
        → (others.foldl step {}).lines twin target = captures.lines capture stream := by
  intro captures log
  refine ⟨exists_reads steps, ?_, fun others capture twin stream target text held => ?_⟩
  · rw [← (mirrors_foldl mirrors_empty steps).opened, isActive]
    cases captures.opened with
    | nil => simp
    | cons capture outer => simp
  · obtain ⟨lines, rest, reads, delivered⟩ := exists_reads steps capture stream
    obtain ⟨lines', rest', reads', delivered'⟩ := exists_reads others twin target
    obtain ⟨rfl, rfl⟩ := Lines.Reads.unique reads (text ▸ reads')
    rw [delivered, delivered']
    simp only [held, log]

/-- A line that is cut inside its end, with a capture in between. -/
def interruptedLine : List CaptureStep :=
  [
    .begin, .write .out "a\r", .begin, .write .out "x", .write .err "y\n", .finish,
    .write .out "\nb", .finish
  ]

/-- The outer capture gets what it would get from a single write. -/
theorem interruptedLine_lines
    : ((interruptedLine.foldl CaptureLog.note {}).text 0 .out = "a\r\nb".toList
        ∧ 0 ∉ (interruptedLine.foldl CaptureLog.note {}).opened)
      ∧ (interruptedLine.foldl step {}).lines 0 .out = ["a", "b"] := by
  refine ⟨by decide, ?_⟩
  obtain ⟨_, _, alike⟩ := captured_lines [.begin, .write .out "a\r\nb", .finish]
  exact (alike interruptedLine 0 0 .out .out (by decide) (by decide)).trans (by decide)

end Captures

end Scratchpad
