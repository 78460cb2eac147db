import IconForge.Settings.Loading

/-!
# Interactions carried out on a disk

Each request is answered by one operation of the disk. What a program does with the answers is said
here in one piece: a store that is asked through the system is the disk as a store; the settings
file that counts is the first one that is there; and a new one is made in two steps, of which either
can be refused.

## Main statements

- `Interaction.carryOut_onSystem`: what asking a store through the system comes to.
- `Settings.carryOut_locate`, `Settings.carryOut_create`: finding and making a settings file.
-/

namespace IconForge

namespace Interaction

variable {α β : Type} (clock : Clock) (s : DiskSession)

/-- Carries an interaction out. -/
def carryOut (p : Interaction α) : α × DiskSession := p.perform (SystemRequest.answer clock) s

theorem carryOut_pure (a : α) : carryOut clock s (pure a) = (a, s) := rfl

theorem carryOut_bind (p : Interaction α) (f : α → Interaction β) :
    carryOut clock s (p >>= f) =
      carryOut clock (carryOut clock s p).2 (f (carryOut clock s p).1) :=
  Program.perform_bind ..

theorem carryOut_isThere (path : Path) :
    carryOut clock s (isThere path) = (s.disk.isThere path, s) := rfl

theorem carryOut_readText (path : Path) :
    carryOut clock s (readText path) = (s.disk.readText path, s) := rfl

theorem carryOut_makeDirectories (dir : Path) :
    carryOut clock s (makeDirectories dir) =
      ((s.disk.makeDirectories dir).1, { s with disk := (s.disk.makeDirectories dir).2 }) := rfl

theorem carryOut_replaceFile (path : Path) (text : String) :
    carryOut clock s (replaceFile path text) = s.change (s.disk.replaceFile path text) :=
  Program.perform_request ..

theorem carryOut_overwriteFile (path : Path) (text : String) :
    carryOut clock s (overwriteFile path text) =
      s.change (s.disk.overwriteFile path text.toUTF8) :=
  Program.perform_request ..

theorem carryOut_now :
    carryOut clock s now = (clock s.readings, { s with readings := s.readings + 1 }) := rfl

theorem carryOut_say (text : String) :
    carryOut clock s (say text) = ((), { s with stderr := s.stderr ++ text }) := rfl

/-- What is asked of a store, asked of the system, is answered by the disk. -/
theorem carryOut_onSystem (q : FileRequest) :
    carryOut clock s q.onSystem =
      (((FileStore.answer q).run s.disk).1,
        { s with disk := ((FileStore.answer q).run s.disk).2 }) := by
  cases q with
  | writeText path content =>
    simp only [FileRequest.onSystem, carryOut_bind, carryOut_replaceFile, carryOut_pure,
      FileStore.answer, StateT.run, FileStore.writeText]
    cases s.disk.replaceFile path content <;> rfl
  | _ => rfl

/-- The first of some places at which something is there. -/
theorem carryOut_findM? (places : List Path) :
    carryOut clock s (places.findM? isThere) = (places.find? s.disk.isThere, s) := by
  induction places with
  | nil => rfl
  | cons path rest ih =>
    rw [List.findM?, carryOut_bind, carryOut_isThere, List.find?_cons]
    cases s.disk.isThere path with
    | true => rfl
    | false => exact ih

end Interaction

namespace Settings

open Interaction

variable (clock : Clock) (s : DiskSession)

theorem carryOut_locate (env : Environment) :
    carryOut clock s (locate env) = ((places env).find? s.disk.isThere, s) :=
  carryOut_findM? clock s (places env)

/-- The settings file that counts where a program runs. -/
def locate? (d : Disk) (env : Environment) : Option Path := ((locate env).onDisk (fun _ => 0) d).1

theorem locate?_eq (d : Disk) (env : Environment) :
    locate? d env = (places env).find? d.isThere :=
  congrArg Prod.fst (carryOut_locate _ { disk := d } env)

/-- What making a settings file comes to, and the disk that it leaves. -/
def created (d : Disk) (dir : Path) (force : Bool) : Except SettingsError Path × Disk :=
  let path := fileIn dir
  if d.isThere path && !force then (.error (.alreadyExists path), d)
  else
    match d.makeDirectories dir with
    | (.error failure, d) => (.error (.unreadable failure), d)
    | (.ok (), d) =>
      match d.overwriteFile path starter.toUTF8 with
      | .error failure => (.error (.unreadable failure), d)
      | .ok d => (.ok path, d)

theorem carryOut_create (dir : Path) (force : Bool) :
    carryOut clock s (create dir force) =
      ((created s.disk dir force).1, { s with disk := (created s.disk dir force).2 }) := by
  dsimp only [create, created]
  rw [carryOut_bind, carryOut_isThere]
  cases s.disk.isThere (fileIn dir) && !force with
  | true => rfl
  | false =>
    simp only [Bool.false_eq_true, if_false, carryOut_bind, carryOut_makeDirectories]
    rcases s.disk.makeDirectories dir with ⟨failure | -, made⟩
    · rfl
    · simp only [carryOut_bind, carryOut_overwriteFile]
      cases made.overwriteFile (fileIn dir) starter.toUTF8 <;> rfl

end Settings

end IconForge
