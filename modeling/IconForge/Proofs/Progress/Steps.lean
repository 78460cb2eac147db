import IconForge.Proofs.Generation.Events
import IconForge.Proofs.Progress.Colours

/-!
# Steps of a run on a console

A console counts the icons that are done since a run has begun, and it counts them whether or not it
says anything of them. So what it says when much is to be said and what it says when little is to be
said are told apart event by event, and which icon of how many is done does not depend on it.

## Main statements

- `Console.after_eq`: what a console has counted after some events.
- `Console.steps_of_going`: the steps while no run begins.
- `Generation.showsSteps_run`: the steps of a run.
- `console_presents_one_run`: colours, much or little to be said, and steps.
-/

namespace IconForge

namespace Progress

/-! ## Kinds of events -/

namespace Event

/-- An icon is done, well or not. -/
def isDone (e : Event) : Bool := e.isSucceeded || e.isFailed

/-- What is said only if much is to be said. -/
def isDetail : Event → Bool
  | processing .. | succeeded .. | skipped .. => true
  | _ => false

/-- The number of icons of a run that begins. -/
def total? : Event → Option Nat
  | started total => some total
  | _ => none

end Event

/-- The events since a run has last begun. -/
def sinceStart (events : List Event) : List Event :=
  (events.reverse.takeWhile fun e => !e.isStarted).reverse

/-- The icons that are done since. -/
def doneSince (events : List Event) : Nat := (sinceStart events).countP Event.isDone

/-- The number of icons of the run that has last begun, or none if none has. -/
def lastTotal (events : List Event) : Nat := (events.reverse.findSome? Event.total?).getD 0

/-- All of a run that begins once is since then, and it is over the icons that it begins with. -/
theorem counts_of_going (n : Nat) {later : List Event} (going : ∀ e ∈ later, e.isStarted = false) :
    doneSince (.started n :: later) = later.countP Event.isDone ∧
      lastTotal (.started n :: later) = n := by
  have back : ∀ e ∈ later.reverse, (!e.isStarted) = true := by simpa using going
  have noTotal : later.reverse.findSome? Event.total? = none := by
    refine List.findSome?_eq_none_iff.mpr fun e mem => ?_
    have := going e (List.mem_reverse.mp mem)
    cases e <;> simp_all [Event.isStarted, Event.total?]
  constructor
  · rw [doneSince, sinceStart, List.reverse_cons, List.takeWhile_append_of_pos back]
    simp [Event.isStarted]
  · rw [lastTotal, List.reverse_cons, List.findSome?_append, noTotal]
    rfl

/-- Which icon of how many. -/
def stepText (k n : Nat) : String := "[" ++ toString k ++ "/" ++ toString n ++ "]"

namespace Console

/-! ## Counting -/

/-- A console after some events. -/
def after (c : Console) (events : List Event) : Console := events.foldl next c

theorem after_concat (c : Console) (before : List Event) (e : Event) :
    c.after (before ++ [e]) = (c.after before).next e := List.foldl_concat ..

/-- What has been counted, by the events since the last run has begun. -/
theorem after_eq (colors verbose : Bool) (events : List Event) :
    after { colors, verbose } events =
      { colors, verbose, current := doneSince events, total := lastTotal events } := by
  induction events using List.reverseRecOn with
  | nil => rfl
  | append_singleton events e ih =>
    rw [after_concat, ih]
    cases e with
    | started total =>
      simp [next, doneSince, sinceStart, lastTotal, List.findSome?_cons, Event.isStarted,
        Event.total?]
    | _ =>
      simp [next, doneSince, sinceStart, lastTotal, List.findSome?_cons, Event.isStarted,
        Event.total?, Event.isDone, Event.isSucceeded, Event.isFailed, Nat.add_comm]

/-- The text for events in a row is that for each of them, after those before it. -/
theorem reportAll_concat (c : Console) (before : List Event) (e : Event) :
    c.reportAll (before ++ [e]) = c.reportAll before ++ ((c.after before).report e).2 := by
  induction before generalizing c with
  | nil => simp [reportAll, after]
  | cons first before ih =>
    rw [List.cons_append, reportAll, reportAll, ih, String.append_assoc]
    rfl

/-! ## Much or little to be said -/

/-- Little to be said is much to be said without the details: what is counted is the same. -/
theorem text_of_quiet (colors : Bool) (before : List Event) (e : Event) :
    ((after { colors, verbose := false } before).report e).2 =
      if e.isDetail then "" else ((after { colors, verbose := true } before).report e).2 := by
  rw [after_eq, after_eq]
  cases e <;> rfl

/-! ## Steps -/

/-- The steps of the icons that are done in some events, whether they are shown or not. -/
def steps (c : Console) : List Event → List String
  | [] => []
  | e :: events => (if e.isDone then [(c.next e).step] else []) ++ steps (c.next e) events

/-- The step of an icon that is done, and where it is shown. -/
theorem step_of_isDone (colors verbose : Bool) (before : List Event) {e : Event}
    (done : e.isDone) :
    let c := (after { colors, verbose } before).next e
    c.step = stepText (doneSince before + 1) (lastTotal before) ∧
      (verbose = true ∨ e.isFailed = true →
        ∃ rest, c.text e = c.tag ++ " " ++ c.step ++ " " ++ rest) := by
  intro c
  have counted : c = ⟨colors, verbose, doneSince before + 1, lastTotal before⟩ := by
    rw [show c = _ from congrArg (next · e) (after_eq colors verbose before)]
    cases e with
    | succeeded | failed => rfl
    | _ => simp [Event.isDone, Event.isSucceeded, Event.isFailed] at done
  refine ⟨by rw [counted]; rfl, fun shown => ?_⟩
  cases e with
  | succeeded file identifier ms =>
    have verbose : c.verbose = true := by simpa [counted, Event.isFailed] using shown
    refine ⟨c.paint .green "ok" ++ (" " ++ (file ++ (" -> " ++ (identifier ++ (" (" ++
      (Text.durationText ms ++ ")\n")))))), ?_⟩
    rw [text, if_pos verbose]
    simp only [String.append_assoc]
  | failed file error =>
    refine ⟨c.paint .red "FAILED" ++ (" " ++ (file ++ ("\n" ++ ("        " ++
      (c.paint .red error ++ "\n"))))), ?_⟩
    rw [text]
    simp only [String.append_assoc]
  | _ => simp [Event.isDone, Event.isSucceeded, Event.isFailed] at done

/-- While no run begins, the steps go up one by one. -/
theorem steps_of_going (c : Console) {events : List Event}
    (going : ∀ e ∈ events, e.isStarted = false) :
    c.steps events =
      (List.range (events.countP Event.isDone)).map
        fun i => stepText (c.current + i + 1) c.total := by
  induction events generalizing c with
  | nil => rfl
  | cons e events ih =>
    obtain ⟨here, later⟩ := List.forall_mem_cons.mp going
    rw [steps, ih _ later, List.countP_cons]
    cases e with
    | started => simp [Event.isStarted] at here
    | succeeded | failed =>
      -- this step is the first of the range, and the ones after it are counted from it
      simp [next, step, stepText, Event.isDone, Event.isSucceeded, Event.isFailed,
        List.range_succ_eq_map, Nat.add_assoc, Nat.add_comm 1]
    | _ => simp [next, Event.isDone, Event.isSucceeded, Event.isFailed]

end Console

end Progress

open Markup Progress

/-! ## Steps of a run -/

/-- The icons that are done in a batch. -/
theorem Batch.countP_isDone_tail (b : Batch) (took : Nat → Nat) :
    (b.events took).tail.countP Event.isDone = b.results.length := by
  rw [← b.processed_add_failed 0, ← b.countP_isSucceeded took, ← b.countP_isFailed took]
  have each (events : List Event) : events.countP Event.isDone =
      events.countP Event.isSucceeded + events.countP Event.isFailed := by
    induction events with
    | nil => rfl
    | cons e events ih =>
      rw [List.countP_cons, List.countP_cons, List.countP_cons, ih]
      cases e <;> simp [Event.isDone, Event.isSucceeded, Event.isFailed] <;> omega
  rw [each, events, List.tail_cons]
  rfl

/-- Some events begin a run over so many icons, of which so many are then done, and the steps are
those of the icons that are done. -/
structure ShowsSteps (icons done : Nat) (events : List Event) : Prop where
  begun : lastTotal events = icons
  counted : doneSince events = done
  steps : ∀ colors verbose : Bool, Console.steps { colors, verbose } events =
    (List.range done).map fun i => stepText (i + 1) icons

/-- A run that begins once shows the steps of the icons that are done in it. -/
theorem showsSteps_of_going (n : Nat) (later : List Event)
    (going : ∀ e ∈ later, e.isStarted = false) :
    ShowsSteps n (later.countP Event.isDone) (.started n :: later) where
  begun := (counts_of_going n going).2
  counted := (counts_of_going n going).1
  steps := by
    intro colors verbose
    rw [Console.steps, Console.steps_of_going _ going]
    simp [Event.isDone, Event.isSucceeded, Event.isFailed, Console.next]

namespace Generation

variable {σ : Type} [FileStore σ] {g : Generation} {input output : Path} {clock : Clock} {store : σ}

/-- The icons that a run finds: none, if it cannot list its directory. -/
def icons (g : Generation) (input : Path) (store : σ) : List Source :=
  match g.select input (FileStore.pathExists store input) (FileStore.listFiles store input) with
  | .error _ => []
  | .ok d => d.sources

theorem icons_of_batch_error {e : GenerationError} (h : g.batch input store = .error e) :
    g.icons input store = [] := by
  rw [batch] at h
  unfold icons
  cases selected : g.select input (FileStore.pathExists store input)
      (FileStore.listFiles store input) with
  | error e => rfl
  | ok d => simp [selected, Except.map] at h

theorem icons_of_batch {b : Batch} (h : g.batch input store = .ok b) :
    ∃ d, b = g.batchOf store d ∧ g.icons input store = d.sources := by
  rw [batch] at h
  unfold icons
  cases selected : g.select input (FileStore.pathExists store input)
      (FileStore.listFiles store input) with
  | error e => simp [selected, Except.map] at h
  | ok d =>
    rw [selected] at h
    exact ⟨d, (Except.ok.inj h).symm, rfl⟩

/-- A run with a batch shows the steps of the icons that have a result in it. -/
theorem showsSteps_of_batch {b : Batch} (batched : g.batch input store = .ok b) :
    ShowsSteps b.total b.results.length (g.run input output clock store).events := by
  have going := b.not_isStarted_of_mem_tail (iconTime clock)
  cases broken : b.crash with
  | some found =>
    obtain ⟨source, crash⟩ := found
    rw [run_of_crash batched broken, ← b.countP_isDone_tail (iconTime clock)]
    exact showsSteps_of_going b.total _ going
  | none =>
    obtain ⟨persisted, after, run, -⟩ := exists_close output clock batched broken
    obtain ⟨final, events, isFinal, -⟩ := g.close_events output clock b persisted after
    have last : final.isStarted = false ∧ final.isDone = false := by
      cases final <;> simp_all [Event.isFinal, Event.isStarted, Event.isDone, Event.isSucceeded,
        Event.isFailed]
    have shows := showsSteps_of_going b.total ((b.events (iconTime clock)).tail ++ [final])
      (List.forall_mem_append.mpr ⟨going, List.forall_mem_singleton.mpr last.1⟩)
    rw [List.countP_append, b.countP_isDone_tail, List.countP_singleton, last.2] at shows
    rw [run, events]
    exact shows

/-- A run shows the steps of the icons that it finds, from the first one on; of all of them, unless
it breaks off at the one after those that are done. -/
theorem showsSteps_run (g : Generation) (input output : Path) (clock : Clock) (store : σ) :
    let r := g.run input output clock store
    let icons := g.icons input store
    ∃ done ≤ icons.length, ShowsSteps icons.length done r.events ∧
      (done < icons.length ↔ ∃ crash, r.result = .error (.crash crash)) ∧
      (done < icons.length → ∃ source text, icons[done]? = some source ∧
        FileStore.readText store source.path = .ok text ∧
        [byteOrderMark, byteOrderMark] <+: text.toList) := by
  intro r icons
  rcases g.run_cases input output clock store with
    ⟨e, failed, run⟩ | ⟨b, batched, ⟨source, crash, broken, run⟩ | ⟨whole, -⟩⟩
  · have eq : r = .stopped e [] store := run
    have none : icons = [] := icons_of_batch_error failed
    rw [eq, none]
    exact ⟨0, Nat.le_refl 0, ⟨rfl, rfl, fun _ _ => rfl⟩, by simp [Run.stopped], by simp⟩
  · have shows : ShowsSteps b.total b.results.length r.events := showsSteps_of_batch batched
    obtain ⟨d, rfl, found⟩ := icons_of_batch batched
    obtain ⟨crashes, before, later, sources, -, first⟩ := sources_batchOf_of_crash broken
    have many : (g.batchOf store d).results.length = before.length := by
      rw [← first, List.length_map]
    rw [total_batchOf, ← found, many] at shows
    have parts : icons = before ++ source :: later := found.trans sources
    have fewer : before.length < icons.length := by simp [parts]
    have result : r.result = .error (.crash crash) := by rw [show r = _ from run]
    obtain ⟨text, isRead, marks⟩ := crashes.marks
    refine ⟨before.length, fewer.le, shows, iff_of_true fewer ⟨crash, result⟩, fun _ => ?_⟩
    exact ⟨source, text, by simp [parts], isRead, marks⟩
  · have shows : ShowsSteps b.total b.results.length r.events := showsSteps_of_batch batched
    have goesOn (crash : Crash) : r.result ≠ .error (.crash crash) := by
      intro breaks
      obtain ⟨b', source, batched', broken⟩ := result_eq_crash_iff.mp breaks
      obtain rfl := Except.ok.inj (batched.symm.trans batched')
      simp [whole] at broken
    obtain ⟨d, rfl, found⟩ := icons_of_batch batched
    have many : (g.batchOf store d).results.length = d.sources.length := by
      rw [← sources_batchOf whole, List.length_map]
    rw [total_batchOf, many, ← found] at shows
    exact ⟨icons.length, Nat.le_refl _, shows, by simpa using goesOn, by simp⟩

end Generation

/-- Colours, and whether much or little is to be said, only concern how a run is shown. What a console
writes in colours is, without the colour sequences, what it writes without colours, if the texts in
the events hold no escape character. What it writes for an event if little is to be said is what it
writes if much is to be said, or nothing if the event is a detail. The step of an icon that is done
counts the icons done since a run has last begun, shown or not, and so the steps of a run go from
the first icon to the last one that it has found; these are as many as it begins with, and as many
as are done in the end. Only a run that breaks off shows fewer steps, and that is because the text
of the icon after those that are done begins with two byte order marks. -/
theorem console_presents_one_run {σ : Type} [FileStore σ] (g : Generation) (input output : Path)
    (clock : Clock) (store : σ) :
    (∀ (c : Console) (events : List Event), (∀ e ∈ events, e.IsPlain) →
      String.ofList (withoutColours (Console.reportAll { c with colors := true } events).toList) =
        Console.reportAll { c with colors := false } events) ∧
    (∀ (colors : Bool) (before : List Event) (e : Event),
      let quiet : Console := { colors, verbose := false }
      let verbose : Console := { colors, verbose := true }
      ∃ said, verbose.reportAll (before ++ [e]) = verbose.reportAll before ++ said ∧
        quiet.reportAll (before ++ [e]) =
          quiet.reportAll before ++ if e.isDetail then "" else said) ∧
    (∀ (colors verbose : Bool) (before : List Event) (e : Event), e.isDone = true →
      let c := (Console.after { colors, verbose } before).next e
      c.step = stepText (doneSince before + 1) (lastTotal before) ∧
        (verbose = true ∨ e.isFailed = true →
          ∃ rest, Console.reportAll { colors, verbose } (before ++ [e]) =
            Console.reportAll { colors, verbose } before ++
              (c.tag ++ " " ++ c.step ++ " " ++ rest))) ∧
    let r := g.run input output clock store
    let icons := g.icons input store
    ∃ done ≤ icons.length, ShowsSteps icons.length done r.events ∧
      (done < icons.length ↔ ∃ crash, r.result = .error (.crash crash)) ∧
      (done < icons.length → ∃ source text, icons[done]? = some source ∧
        FileStore.readText store source.path = .ok text ∧
        [byteOrderMark, byteOrderMark] <+: text.toList) := by
  refine ⟨fun c events plain => (Console.shows_reportAll plain c).eq, ?details, ?step,
    g.showsSteps_run input output clock store⟩
  case details =>
    intro colors before e quiet verbose
    refine ⟨((verbose.after before).report e).2, verbose.reportAll_concat before e, ?_⟩
    rw [quiet.reportAll_concat, Console.text_of_quiet]
  case step =>
    intro colors verbose before e done c
    obtain ⟨counted, shown⟩ := Console.step_of_isDone colors verbose before done
    refine ⟨counted, fun seen => ?_⟩
    obtain ⟨rest, text⟩ := shown seen
    exact ⟨rest, by rw [Console.reportAll_concat, ← text]; rfl⟩

/-- A console with colours of which little is to be said, some events, and a run over two icons of
which the second one fails. -/
theorem console_presents_run_with_failure :
    let events : List Event := [.started 2, .processing "a.svg", .succeeded "a.svg" "A" 0,
      .processing "b.svg", .failed "b.svg" "not an icon"]
    let store : MemoryStore := {
      files := [([.name "in", .name "a.svg"], "<svg/>"), ([.name "in", .name "b.svg"], "<html/>")]
      directories := [[.name "in"]] }
    (∀ e ∈ events, e.IsPlain) ∧
      String.ofList (withoutColours (Console.reportAll { colors := true } events).toList) =
        "[generate] Generating 2 icons...\n[generate] [2/2] FAILED b.svg\n        not an icon\n" ∧
      (Console.after { colors := true } events).step = "[2/2]" ∧
      ∀ clock : Clock,
        Console.steps { colors := true } (({} : Generation).run ⟨"in"⟩ ⟨"out"⟩ clock store).events =
          ["[1/2]", "[2/2]"] := by
  intro events store
  have plain : ∀ e ∈ events, e.IsPlain := by
    simp only [events, Event.IsPlain, Event.fields, List.forall_mem_cons]
    simp +decide [Progress.IsPlain]
  obtain ⟨colours, -, step, -⟩ :=
    console_presents_one_run ({} : Generation) ⟨"in"⟩ ⟨"out"⟩ (fun _ => 0) store
  refine ⟨plain, (colours {} events plain).trans (by decide +kernel), ?_, ?_⟩
  · exact (step true false events.dropLast (.failed "b.svg" "not an icon") rfl).1.trans
      (by decide +kernel)
  · intro clock
    obtain ⟨-, -, -, done, most, shows, -, breaks⟩ :=
      console_presents_one_run ({} : Generation) ⟨"in"⟩ ⟨"out"⟩ clock store
    have icons : ({} : Generation).icons ⟨"in"⟩ store =
        [⟨"a.svg", ⟨"in/a.svg"⟩⟩, ⟨"b.svg", ⟨"in/b.svg"⟩⟩] := by cbv
    rw [icons] at most shows breaks
    -- neither text begins with a mark
    have unmarked : ∀ source ∈ [⟨"a.svg", ⟨"in/a.svg"⟩⟩, (⟨"b.svg", ⟨"in/b.svg"⟩⟩ : Source)],
        ((FileStore.readText store source.path).toOption.all fun text =>
          !([byteOrderMark, byteOrderMark].isPrefixOf text.toList)) = true := by
      decide +kernel
    have all : done = 2 := by
      by_contra fewer
      obtain ⟨source, text, here, isRead, marks⟩ :=
        breaks (Nat.lt_of_le_of_ne most fewer)
      have single := unmarked source (List.mem_of_getElem? here)
      rw [isRead] at single
      rw [← List.isPrefixOf_iff_prefix] at marks
      simp [Except.toOption, marks] at single
    rw [shows.steps, all]
    decide +kernel

end IconForge
