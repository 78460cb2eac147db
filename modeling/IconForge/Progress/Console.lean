import IconForge.Progress.Event
import IconForge.Text.Duration

/-!
# Watching a run on a console

The lines that a person watching a run sees. A console counts the icons that are done, also those it
does not show: without `verbose` it says nothing of icons that are worked on, succeed or are
skipped. Colours change nothing but the colour.
-/

namespace IconForge.Progress

open IconForge.Text

structure Console where
  colors : Bool := false
  verbose : Bool := false
  /-- Icons done in this run. -/
  current : Nat := 0
  /-- Icons to work on in this run. -/
  total : Nat := 0
  deriving DecidableEq, Repr

namespace Console

/-- The ways in which text stands out. -/
inductive Style where
  | green | yellow | red | cyan | bold
  deriving DecidableEq, Repr

/-- The sequence that switches a style on. -/
def Style.code : Style → String
  | green => "\x1b[32m"
  | yellow => "\x1b[33m"
  | red => "\x1b[31m"
  | cyan => "\x1b[36m"
  | bold => "\x1b[1m"

/-- A text in a style, if the console has colours. -/
def paint (c : Console) (style : Style) (s : String) : String :=
  if c.colors then style.code ++ s ++ "\x1b[0m" else s

/-- What a line about the run begins with. -/
def tag (c : Console) : String := c.paint .cyan "[generate]"

/-- Which icon of how many is done. -/
def step (c : Console) : String := "[" ++ toString c.current ++ "/" ++ toString c.total ++ "]"

def next (c : Console) : Event → Console
  | .started total => { c with current := 0, total := total }
  | .succeeded .. | .failed .. => { c with current := c.current + 1 }
  | _ => c

/-- The last line about a run, for these counts. -/
def summary (c : Console) (processed failed skipped : Nat) (duration : String) : String :=
  if failed = 0 then
    c.paint .green "[done]" ++ " " ++ c.paint .bold (toString processed) ++
      (if processed = 1 then " icon" else " icons") ++ " generated, " ++ toString skipped ++
      " skipped in " ++ duration
  else
    c.paint .yellow "[done]" ++ " " ++ toString processed ++ " generated, " ++ toString skipped ++
      " skipped, " ++ toString failed ++ (if failed = 1 then " failure" else " failures") ++
      " in " ++ duration

/-- The text that is written for an event, by a console that has taken note of it. -/
def text (c : Console) : Event → String
  | .started total =>
    c.tag ++ " Generating " ++ toString total ++ " icon" ++ (if total = 1 then "" else "s") ++ "...\n"
  | .processing file => if c.verbose then c.tag ++ " Processing " ++ file ++ "...\n" else ""
  | .succeeded file identifier ms =>
    if c.verbose then
      c.tag ++ " " ++ c.step ++ " " ++ c.paint .green "ok" ++ " " ++ file ++ " -> " ++ identifier ++
        " (" ++ durationText ms ++ ")\n"
    else ""
  | .failed file error =>
    c.tag ++ " " ++ c.step ++ " " ++ c.paint .red "FAILED" ++ " " ++ file ++ "\n" ++
      "        " ++ c.paint .red error ++ "\n"
  | .skipped file reason =>
    if c.verbose then
      c.tag ++ " " ++ c.paint .yellow "skipped" ++ " " ++ file ++ " (" ++ reason ++ ")\n"
    else ""
  | .aborted message => c.paint .red "[error]" ++ " " ++ message ++ "\n"
  | .finished processed failed skipped output ms =>
    "\n" ++ c.summary processed failed skipped (durationText ms) ++
      (match output with
        | some path => " -> " ++ path
        | none => "") ++ "\n"

/-- The state after an event and the text written for it. -/
def report (c : Console) (e : Event) : Console × String := (c.next e, (c.next e).text e)

/-- The text written for some events in a row. -/
def reportAll (c : Console) : List Event → String
  | [] => ""
  | e :: events => (c.report e).2 ++ reportAll (c.report e).1 events

/-- The state of a console spelled out. -/
def describe (c : Console) : String :=
  "ConsoleProgress \x7b use_colors: " ++ toString c.colors ++ ", verbose: " ++ toString c.verbose ++
    ", current: " ++ toString c.current ++ ", total: " ++ toString c.total ++ " \x7d"

end Console

end IconForge.Progress
