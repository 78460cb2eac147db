import IconForge.Store.Basic

/-!
# Injected faults

A store that fails on chosen operations at chosen paths and is otherwise the store inside it.
-/

namespace IconForge

/-- The operations of a store that can fail. -/
inductive StoreOperation where
  | listFiles | readText | makeDirectories | writeText
  deriving DecidableEq, Repr

/-- A failure to be met by one operation at one path. -/
structure StoreFault where
  operation : StoreOperation
  path : Path
  failure : Failure
  deriving DecidableEq, Repr

/-- A store with faults; of several for one operation and path the first counts. -/
structure FaultyStore (σ : Type) where
  faults : List StoreFault
  store : σ

namespace FaultyStore

variable {σ : Type} [FileStore σ]

/-- The error that an operation at a path is to meet. -/
def error? (s : FaultyStore σ) (operation : StoreOperation) (path : Path) : Option FileError :=
  (s.faults.find? fun fault => fault.operation = operation ∧ fault.path.Same path).map
    fun fault => .ofFailure path fault.failure

instance : FileStore (FaultyStore σ) where
  pathExists s path := FileStore.pathExists s.store path
  listFiles s dir :=
    match s.error? .listFiles dir with
    | some e => .error e
    | none => FileStore.listFiles s.store dir
  readText s path :=
    match s.error? .readText path with
    | some e => .error e
    | none => FileStore.readText s.store path
  makeDirectories s dir :=
    match s.error? .makeDirectories dir with
    | some e => (.error e, s)
    | none =>
      let (result, store) := FileStore.makeDirectories s.store dir
      (result, { s with store := store })
  writeText s path content :=
    match s.error? .writeText path with
    | some e => (.error e, s)
    | none =>
      let (result, store) := FileStore.writeText s.store path content
      (result, { s with store := store })

end FaultyStore

end IconForge
