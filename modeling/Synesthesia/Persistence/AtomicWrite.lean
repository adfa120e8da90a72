import Synesthesia.Foundation.Runs

namespace Synesthesia
namespace Persistence

open Foundation

/-!
# Replacing a file

`write_text_atomically` of `persistence/graph_io.py`, one operation of the file
system at a time.  Every operation but the removal of a file may fail, and the
process may stop between any two; a rename happens whole.  What is left to
remove at the end is what two local variables say, and these are assigned only
when a temporary file has been written and synchronized.
-/

namespace AtomicWrite

/-! ## The files of the directory -/

section Files

variable {Content : Type*}

/-- The files of a directory with their contents. -/
abbrev Files (Content : Type*) := String → Option Content

def put (name : String) (content : Content) (files : Files Content) : Files Content :=
  Function.update files name (some content)

def unlink (name : String) (files : Files Content) : Files Content :=
  Function.update files name none

/-- `os.replace`: the name now stands for the other file. -/
def move (source target : String) (files : Files Content) : Files Content :=
  Function.update (Function.update files target (files source)) source none

def unlinkIfSet (path : Option String) (files : Files Content) : Files Content :=
  match path with
  | some name => unlink name files
  | none => files

end Files

/-- `_backup_path`. -/
def backupPath (destination : String) : String := destination ++ ".bak"

/-- The names that `tempfile` chooses among. -/
def temporaryName (destination random : String) : String :=
  "." ++ destination ++ "." ++ random ++ ".tmp"

def backupTemporaryName (destination random : String) : String :=
  "." ++ destination ++ ".backup." ++ random ++ ".tmp"

/-! ## The operations -/

/-- The operation that comes next. -/
inductive Stage where
  | createTemporary
  | writeTemporary
  | flushTemporary
  | syncTemporary
  | closeTemporary
  | checkDestination
  | openDestination
  | createBackup
  | copyBackup
  | flushBackup
  | syncBackup
  | closeBackup
  | replaceBackup
  | syncBackupDirectory
  | replaceDestination
  | syncDestinationDirectory
  | unlinkTemporary
  | unlinkBackup
  | finished
deriving DecidableEq

/-- What the call was given, and the directory it found. -/
structure Call (Content : Type*) where
  before : Files Content
  destination : String
  content : Content
  retainBackup : Bool

/-- The directory and the local variables; `failure` is the operation that
raised the exception in flight. -/
structure State (Content : Type*) where
  files : Files Content
  stage : Stage
  failure : Option Stage
  temporary : Option String
  backupTemporary : Option String
  temporaryPath : Option String
  backupTemporaryPath : Option String
  source : Option Content

inductive Action (Content : Type*) where
  | succeeds
  /-- A new file appears, under a name that was free. -/
  | creates (random : String)
  /-- Some of the data reaches the temporary file. -/
  | writes (part : Content)
  | fails

section Steps

variable {Content : Type*} [Inhabited Content]

def start (call : Call Content) : State Content :=
  ⟨call.before, .createTemporary, none, none, none, none, none, none⟩

/-- The exception leaves the `try` block. -/
def raise (state : State Content) : State Content :=
  { state with stage := .unlinkTemporary, failure := some state.stage }

/-- `NamedTemporaryFile`: an empty file under a free name. -/
def create (name : String) (state : State Content) : Option (Files Content) :=
  if (state.files name).isSome then none else some (put name default state.files)

/-- Data reaches a temporary file. -/
def write (handle : Option String) (data : Content) (files : Files Content) : Files Content :=
  match handle with
  | some name => put name data files
  | none => files

/-- `os.replace` of a temporary file. -/
def replace (path : Option String) (target : String) (files : Files Content) : Files Content :=
  match path with
  | some name => move name target files
  | none => files

/-- The operation of a stage is carried out. -/
def succeed (call : Call Content) (state : State Content) : Option (State Content) :=
  match state.stage with
  | .createTemporary => none
  | .writeTemporary => some { state with stage := .flushTemporary }
  | .flushTemporary =>
      some { state with
        files := write state.temporary call.content state.files
        stage := .syncTemporary }
  | .syncTemporary =>
      some { state with temporaryPath := state.temporary, stage := .closeTemporary }
  | .closeTemporary => some { state with stage := .checkDestination }
  | .checkDestination =>
      if call.retainBackup && (state.files call.destination).isSome then
        some { state with stage := .openDestination }
      else some { state with stage := .replaceDestination }
  | .openDestination =>
      some { state with source := state.files call.destination, stage := .createBackup }
  | .createBackup => none
  | .copyBackup => some { state with stage := .flushBackup }
  | .flushBackup =>
      match state.source with
      | some data =>
          some { state with
            files := write state.backupTemporary data state.files
            stage := .syncBackup }
      | none => none
  | .syncBackup =>
      some { state with backupTemporaryPath := state.backupTemporary, stage := .closeBackup }
  | .closeBackup => some { state with stage := .replaceBackup }
  | .replaceBackup =>
      some { state with
        files := replace state.backupTemporaryPath (backupPath call.destination) state.files
        stage := .syncBackupDirectory }
  | .syncBackupDirectory =>
      some { state with backupTemporaryPath := none, stage := .replaceDestination }
  | .replaceDestination =>
      some { state with
        files := replace state.temporaryPath call.destination state.files
        stage := .syncDestinationDirectory }
  | .syncDestinationDirectory =>
      some { state with temporaryPath := none, stage := .unlinkTemporary }
  | .unlinkTemporary =>
      some { state with
        files := unlinkIfSet state.temporaryPath state.files
        stage := .unlinkBackup }
  | .unlinkBackup =>
      some { state with
        files := unlinkIfSet state.backupTemporaryPath state.files
        stage := .finished }
  | .finished => none

def step (call : Call Content) (state : State Content) :
    Action Content → Option (State Content)
  | .succeeds => succeed call state
  | .creates random =>
      match state.stage with
      | .createTemporary =>
          let name := temporaryName call.destination random
          (create name state).map (fun files =>
            { state with files := files, temporary := some name, stage := .writeTemporary })
      | .createBackup =>
          let name := backupTemporaryName call.destination random
          (create name state).map (fun files =>
            { state with files := files, backupTemporary := some name, stage := .copyBackup })
      | _ => none
  | .writes part =>
      if state.stage ∈ [.writeTemporary, .flushTemporary] then
        some { state with files := write state.temporary part state.files }
      else if state.stage ∈ [.copyBackup, .flushBackup] then
        some { state with files := write state.backupTemporary part state.files }
      else none
  | .fails =>
      if state.stage ∈ [.unlinkTemporary, .unlinkBackup, .finished] then none
      else some (raise state)

end Steps

/-! ## Names and files -/

section Names

theorem length_backupPath (destination : String) :
    (backupPath destination).length = destination.length + 4 := by
  rw [backupPath, String.length_append]
  rfl

theorem length_temporaryName (destination random : String) :
    (temporaryName destination random).length = destination.length + random.length + 6 := by
  simp only [temporaryName, String.length_append]
  have one : ".".length = 1 := rfl
  have four : ".tmp".length = 4 := rfl
  omega

theorem length_backupTemporaryName (destination random : String) :
    (backupTemporaryName destination random).length =
      destination.length + random.length + 13 := by
  simp only [backupTemporaryName, String.length_append]
  have one : ".".length = 1 := rfl
  have eight : ".backup.".length = 8 := rfl
  have four : ".tmp".length = 4 := rfl
  omega

theorem backupPath_ne (destination : String) : backupPath destination ≠ destination := by
  intro same
  have lengths := congrArg String.length same
  rw [length_backupPath] at lengths
  omega

/-- A name that is longer than the two of the call is neither. -/
theorem ne_of_longer {name destination : String} (longer : destination.length + 4 < name.length) :
    name ≠ destination ∧ name ≠ backupPath destination := by
  constructor
  · rintro rfl
    omega
  · rintro rfl
    rw [length_backupPath] at longer
    omega

end Names

section Moves

variable {Content : Type*} {files : Files Content} {name other : String}

@[simp] theorem put_self (content : Content) : put name content files name = some content :=
  Function.update_self ..

theorem put_of_ne (different : other ≠ name) (content : Content) :
    put name content files other = files other :=
  Function.update_of_ne different _ _

@[simp] theorem unlink_self : unlink name files name = none := Function.update_self ..

theorem unlink_of_ne (different : other ≠ name) : unlink name files other = files other :=
  Function.update_of_ne different _ _

theorem put_put (first second : Content) :
    put name second (put name first files) = put name second files :=
  Function.update_idem ..

/-- Renaming a file that was not there before leaves only its content behind. -/
theorem move_put (free : files name = none) (different : name ≠ other) (content : Content) :
    move name other (put name content files) = put other content files := by
  funext third
  rw [move, put, put, Function.update_self]
  by_cases source : third = name
  · subst source
    rw [Function.update_self, Function.update_of_ne different, free]
  · rw [Function.update_of_ne source]
    by_cases target : third = other
    · subst target
      rw [Function.update_self, Function.update_self]
    · rw [Function.update_of_ne target, Function.update_of_ne target, Function.update_of_ne source]

theorem put_comm {first second : Content} (different : name ≠ other) :
    put name first (put other second files) = put other second (put name first files) :=
  Function.update_comm different.symm _ _ _

end Moves

/-! ## What is reached -/

section Reached

variable {Content : Type*} (call : Call Content)

/-- A temporary file of the call. -/
structure IsFresh (name : String) : Prop where
  free : call.before name = none
  notDestination : name ≠ call.destination
  notBackup : name ≠ backupPath call.destination

/-- The stages in which a temporary file exists that no variable names yet. -/
def isUnrecorded (stage : Stage) : Bool :=
  stage ∈ [.writeTemporary, .flushTemporary, .syncTemporary, .copyBackup, .flushBackup,
    .syncBackup]

/-- The directory once the backup is in its place, or before. -/
def IsBase (base : Files Content) : Prop :=
  base = call.before ∨
    ∃ old, call.before call.destination = some old ∧
      base = put (backupPath call.destination) old call.before

/-- A backup that is to be retained is the previous file. -/
def HasBackup (files : Files Content) : Prop :=
  call.retainBackup = true → ∀ old, call.before call.destination = some old →
    files (backupPath call.destination) = some old

/-- The temporary files that the call created. -/
def State.created (state : State Content) : List String :=
  state.temporary.toList ++ state.backupTemporary.toList

/-- What holds of the directory at every moment. -/
structure Safe (files : Files Content) (created : List String) : Prop where
  destination : files call.destination = call.before call.destination ∨
    files call.destination = some call.content
  backup : files (backupPath call.destination) = call.before (backupPath call.destination) ∨
    (files (backupPath call.destination) = call.before call.destination ∧
      (call.before call.destination).isSome = true)
  others : ∀ name, name ∉ created → name ≠ call.destination →
    name ≠ backupPath call.destination → files name = call.before name

/-- The clean-up after a failure, or none. -/
structure Cleaning (state : State Content) : Prop where
  safe : Safe call state.files state.created
  stage : state.stage ∈ [.unlinkTemporary, .unlinkBackup, .finished]
  fresh : ∀ name ∈ state.created, IsFresh call name
  path : ∀ name ∈ state.temporaryPath, name ∈ state.created
  backupTemporaryPath : ∀ name ∈ state.backupTemporaryPath, name ∈ state.created
  unchanged : ∀ failed ∈ state.failure, failed ≠ .syncDestinationDirectory →
    state.files call.destination = call.before call.destination
  written : state.failure = none →
    state.files call.destination = some call.content ∧ HasBackup call state.files
  left : (∃ name ∈ state.created, (state.files name).isSome = true ∧
      (state.stage = .unlinkTemporary → state.temporaryPath ≠ some name) ∧
      (state.stage ≠ .finished → state.backupTemporaryPath ≠ some name)) ↔
    ∃ failed ∈ state.failure, isUnrecorded failed = true

/-- The states of a call, as far as it has come. -/
inductive Reached : State Content → Prop
  | starting : Reached (start call)
  | writing {name : String} {part : Content} {stage : Stage} (fresh : IsFresh call name)
      (listed : stage ∈ [.writeTemporary, .flushTemporary]) :
      Reached ⟨put name part call.before, stage, none, some name, none, none, none, none⟩
  | written {name : String} (fresh : IsFresh call name) :
      Reached ⟨put name call.content call.before, .syncTemporary, none, some name, none, none,
        none, none⟩
  | recorded {name : String} {stage : Stage} (fresh : IsFresh call name)
      (listed : stage ∈ [.closeTemporary, .checkDestination, .openDestination])
      (found : stage = .openDestination → (call.before call.destination).isSome = true) :
      Reached ⟨put name call.content call.before, stage, none, some name, none, some name,
        none, none⟩
  | opened {name : String} {old : Content} (fresh : IsFresh call name)
      (found : call.before call.destination = some old) :
      Reached ⟨put name call.content call.before, .createBackup, none, some name, none, some name,
        none, some old⟩
  | copying {name other : String} {old part : Content} {stage : Stage} (fresh : IsFresh call name)
      (otherFresh : IsFresh call other) (different : other ≠ name)
      (found : call.before call.destination = some old)
      (listed : stage ∈ [.copyBackup, .flushBackup]) :
      Reached ⟨put other part (put name call.content call.before), stage, none, some name,
        some other, some name, none, some old⟩
  | copied {name other : String} {old : Content} (fresh : IsFresh call name)
      (otherFresh : IsFresh call other) (different : other ≠ name)
      (found : call.before call.destination = some old) :
      Reached ⟨put other old (put name call.content call.before), .syncBackup, none, some name,
        some other, some name, none, some old⟩
  | backupRecorded {name other : String} {old : Content} {stage : Stage}
      (fresh : IsFresh call name) (otherFresh : IsFresh call other) (different : other ≠ name)
      (found : call.before call.destination = some old)
      (listed : stage ∈ [.closeBackup, .replaceBackup]) :
      Reached ⟨put other old (put name call.content call.before), stage, none, some name,
        some other, some name, some other, some old⟩
  | kept {name other : String} {old : Content} (fresh : IsFresh call name)
      (otherFresh : IsFresh call other) (different : other ≠ name)
      (found : call.before call.destination = some old) :
      Reached ⟨put name call.content (put (backupPath call.destination) old call.before),
        .syncBackupDirectory, none, some name, some other, some name, some other, some old⟩
  | replacing {name : String} {other : Option String} {source : Option Content}
      {base : Files Content} (fresh : IsFresh call name)
      (otherFresh : ∀ handle ∈ other, IsFresh call handle ∧ handle ≠ name)
      (isBase : IsBase call base) (hasBackup : HasBackup call base) :
      Reached ⟨put name call.content base, .replaceDestination, none, some name, other,
        some name, none, source⟩
  | replaced {name : String} {other : Option String} {source : Option Content}
      {base : Files Content} (fresh : IsFresh call name)
      (otherFresh : ∀ handle ∈ other, IsFresh call handle ∧ handle ≠ name)
      (isBase : IsBase call base) (hasBackup : HasBackup call base) :
      Reached ⟨put call.destination call.content base, .syncDestinationDirectory, none, some name,
        other, some name, none, source⟩
  | cleaning {state : State Content} (cleans : Cleaning call state) : Reached state

end Reached

section Laws

variable {Content : Type*} {call : Call Content} {files base : Files Content}
  {created : List String} {name : String}

theorem IsBase.destination (isBase : IsBase call base) :
    base call.destination = call.before call.destination := by
  rcases isBase with rfl | ⟨old, _, rfl⟩
  · rfl
  · exact put_of_ne (backupPath_ne call.destination).symm old

theorem IsBase.of_ne (isBase : IsBase call base) (different : name ≠ backupPath call.destination) :
    base name = call.before name := by
  rcases isBase with rfl | ⟨old, _, rfl⟩
  · rfl
  · exact put_of_ne different old

theorem IsBase.safe (isBase : IsBase call base) (created : List String) :
    Safe call base created where
  destination := Or.inl isBase.destination
  backup := by
    rcases isBase with rfl | ⟨old, found, rfl⟩
    · exact Or.inl rfl
    · right
      rw [put_self, found]
      exact ⟨rfl, rfl⟩
  others := fun _ _ _ different => isBase.of_ne different

theorem safe_before (created : List String) : Safe call call.before created :=
  IsBase.safe (Or.inl rfl) created

/-- What happens to a temporary file is of no consequence. -/
theorem Safe.update (safe : Safe call files created) (fresh : IsFresh call name)
    (listed : name ∈ created) (content : Option Content) :
    Safe call (Function.update files name content) created where
  destination := by
    rw [Function.update_of_ne fresh.notDestination.symm]
    exact safe.destination
  backup := by
    rw [Function.update_of_ne fresh.notBackup.symm]
    exact safe.backup
  others := by
    intro other unlisted notDestination notBackup
    rw [Function.update_of_ne (fun same => unlisted (by rw [same]; exact listed))]
    exact safe.others other unlisted notDestination notBackup

theorem Safe.replaceDestination (safe : Safe call files created) :
    Safe call (put call.destination call.content files) created where
  destination := Or.inr (put_self call.content)
  backup := by
    rw [put_of_ne (backupPath_ne call.destination)]
    exact safe.backup
  others := by
    intro other unlisted notDestination notBackup
    rw [put_of_ne notDestination]
    exact safe.others other unlisted notDestination notBackup

variable {state : State Content}

/-- Whatever was reached is safe. -/
theorem Reached.safe (reached : Reached call state) :
    Safe call state.files state.created := by
  cases reached with
  | starting => exact safe_before _
  | writing fresh _ => exact (safe_before _).update fresh List.mem_cons_self _
  | written fresh => exact (safe_before _).update fresh List.mem_cons_self _
  | recorded fresh _ _ => exact (safe_before _).update fresh List.mem_cons_self _
  | opened fresh _ => exact (safe_before _).update fresh List.mem_cons_self _
  | copying fresh otherFresh _ _ _ =>
      exact ((safe_before _).update fresh List.mem_cons_self _).update otherFresh
        (List.mem_cons_of_mem _ List.mem_cons_self) _
  | copied fresh otherFresh _ _ =>
      exact ((safe_before _).update fresh List.mem_cons_self _).update otherFresh
        (List.mem_cons_of_mem _ List.mem_cons_self) _
  | backupRecorded fresh otherFresh _ _ _ =>
      exact ((safe_before _).update fresh List.mem_cons_self _).update otherFresh
        (List.mem_cons_of_mem _ List.mem_cons_self) _
  | kept fresh _ _ found =>
      have isBase : IsBase call (put (backupPath call.destination) _ call.before) :=
        Or.inr ⟨_, found, rfl⟩
      exact (isBase.safe _).update fresh List.mem_cons_self _
  | replacing fresh _ isBase _ => exact (isBase.safe _).update fresh List.mem_cons_self _
  | replaced _ _ isBase _ => exact (isBase.safe _).replaceDestination
  | cleaning cleans => exact cleans.safe

/-- A file of the call that no variable names. -/
def Exposed (state : State Content) : Prop :=
  ∃ name ∈ state.created, (state.files name).isSome = true ∧
    state.temporaryPath ≠ some name ∧ state.backupTemporaryPath ≠ some name

/-- What a failure has to clean up. -/
structure Pending (call : Call Content) (state : State Content) : Prop where
  fresh : ∀ name ∈ state.created, IsFresh call name
  path : ∀ name ∈ state.temporaryPath, name ∈ state.created
  backupTemporaryPath : ∀ name ∈ state.backupTemporaryPath, name ∈ state.created
  unchanged : state.stage ≠ .syncDestinationDirectory →
    state.files call.destination = call.before call.destination
  exposed : Exposed state ↔ isUnrecorded state.stage = true

theorem Reached.raise (reached : Reached call state)
    (pending : Pending call state) : Reached call (raise state) := by
  refine .cleaning ⟨reached.safe, List.mem_cons_self, pending.fresh, pending.path,
    pending.backupTemporaryPath, ?_, fun impossible => (by cases impossible), ?_⟩
  · intro failed same
    cases same
    exact pending.unchanged
  · have left : (∃ name ∈ state.created, (state.files name).isSome = true ∧
        (Stage.unlinkTemporary = .unlinkTemporary → state.temporaryPath ≠ some name) ∧
        (Stage.unlinkTemporary ≠ .finished → state.backupTemporaryPath ≠ some name)) ↔
        Exposed state := by
      constructor
      · rintro ⟨name, listed, there, path, backupPath⟩
        exact ⟨name, listed, there, path rfl, backupPath (by decide)⟩
      · rintro ⟨name, listed, there, path, backupPath⟩
        exact ⟨name, listed, there, fun _ => path, fun _ => backupPath⟩
    refine left.trans (pending.exposed.trans ?_)
    constructor
    · exact fun unrecorded => ⟨_, rfl, unrecorded⟩
    · rintro ⟨failed, same, unrecorded⟩
      cases same
      exact unrecorded

variable {source : Option Content}

/-- With one temporary file, on top of the directory as it was. -/
theorem pending_one {name : String} {content : Content} {stage : Stage} {path : Option String}
    (fresh : IsFresh call name)
    (recorded : path = none ∧ isUnrecorded stage = true ∨
      path = some name ∧ isUnrecorded stage = false) :
    Pending call ⟨put name content call.before, stage, none, some name, none, path, none,
      source⟩ where
  fresh := by
    intro other listed
    rw [List.mem_singleton.mp listed]
    exact fresh
  path := by
    intro other same
    rcases recorded with ⟨unset, _⟩ | ⟨isSet, _⟩
    · cases unset.symm.trans same
    · cases isSet.symm.trans same
      exact List.mem_cons_self
  backupTemporaryPath := fun other impossible => by cases impossible
  unchanged := fun _ => put_of_ne fresh.notDestination.symm content
  exposed := by
    rcases recorded with ⟨unset, unrecorded⟩ | ⟨isSet, recorded⟩
    · refine iff_of_true ⟨name, List.mem_cons_self, ?_, ?_, fun impossible => by cases impossible⟩
        unrecorded
      · change (put name content call.before name).isSome = true
        rw [put_self]
        rfl
      · rw [unset]
        exact fun impossible => by cases impossible
    · apply iff_of_false
      · rintro ⟨other, listed, _, unnamed, _⟩
        rw [List.mem_singleton.mp listed] at unnamed
        exact unnamed isSet
      · rw [recorded]
        exact Bool.false_ne_true

/-- With both temporary files. -/
theorem pending_two {name other : String} {content data : Content} {stage : Stage}
    {path : Option String} (fresh : IsFresh call name)
    (otherFresh : IsFresh call other) (recorded : path = none ∧ isUnrecorded stage = true ∨
      path = some other ∧ isUnrecorded stage = false) (different : other ≠ name) :
    Pending call ⟨put other data (put name content call.before), stage, none, some name,
      some other, some name, path, source⟩ where
  fresh := by
    intro handle listed
    rcases List.mem_cons.mp listed with same | listed
    · rw [same]
      exact fresh
    · rw [List.mem_singleton.mp listed]
      exact otherFresh
  path := by
    intro handle same
    cases same
    exact List.mem_cons_self
  backupTemporaryPath := by
    intro handle same
    rcases recorded with ⟨unset, _⟩ | ⟨isSet, _⟩
    · cases unset.symm.trans same
    · cases isSet.symm.trans same
      exact List.mem_cons_of_mem _ List.mem_cons_self
  unchanged := fun _ => by
    change put other data (put name content call.before) call.destination = _
    rw [put_of_ne otherFresh.notDestination.symm, put_of_ne fresh.notDestination.symm]
  exposed := by
    rcases recorded with ⟨unset, unrecorded⟩ | ⟨isSet, recorded⟩
    · refine iff_of_true ⟨other, List.mem_cons_of_mem _ List.mem_cons_self, ?_, ?_, ?_⟩ unrecorded
      · change (put other data (put name content call.before) other).isSome = true
        rw [put_self]
        rfl
      · exact fun same => different (Option.some.inj same).symm
      · rw [unset]
        exact fun impossible => by cases impossible
    · apply iff_of_false
      · rintro ⟨handle, listed, _, unnamed, backupUnnamed⟩
        rcases List.mem_cons.mp listed with same | listed
        · rw [same] at unnamed
          exact unnamed rfl
        · rw [List.mem_singleton.mp listed] at backupUnnamed
          exact backupUnnamed isSet
      · rw [recorded]
        exact Bool.false_ne_true

/-- The second temporary file is gone once the backup is in its place. -/
theorem absent_of_placed {other : Option String} (isBase : IsBase call base)
    (otherFresh : ∀ handle ∈ other, IsFresh call handle ∧ handle ≠ name) {target handle : String}
    (places : target = name ∨ target = call.destination) (listed : handle ∈ other) :
    put target call.content base handle = none := by
  have fresh := otherFresh handle listed
  have different : handle ≠ target := by
    rcases places with rfl | rfl
    · exact fresh.2
    · exact fresh.1.notDestination
  rw [put_of_ne different, isBase.of_ne fresh.1.notBackup, fresh.1.free]

/-- With the backup, if there is one, in its place. -/
theorem pending_placed {name target : String} {other backupTemporary : Option String}
    {stage : Stage} (fresh : IsFresh call name)
    (otherFresh : ∀ handle ∈ other, IsFresh call handle ∧ handle ≠ name)
    (named : ∀ handle ∈ backupTemporary, handle ∈ other) (isBase : IsBase call base)
    (places : (target = name ∧ stage ≠ .syncDestinationDirectory) ∨
      (target = call.destination ∧ stage = .syncDestinationDirectory))
    (recorded : isUnrecorded stage = false) :
    Pending call ⟨put target call.content base, stage, none, some name, other, some name,
      backupTemporary, source⟩ where
  fresh := by
    intro handle listed
    rcases List.mem_cons.mp listed with same | listed
    · rw [same]
      exact fresh
    · exact (otherFresh handle (Option.mem_toList.mp listed)).1
  path := by
    intro handle same
    cases same
    exact List.mem_cons_self
  backupTemporaryPath := fun handle same =>
    List.mem_cons_of_mem _ (Option.mem_toList.mpr (named handle same))
  unchanged := by
    intro before
    rcases places with ⟨rfl, _⟩ | ⟨_, late⟩
    · exact (put_of_ne fresh.notDestination.symm call.content).trans isBase.destination
    · exact absurd late before
  exposed := by
    apply iff_of_false
    · rintro ⟨handle, listed, there, unnamed, _⟩
      rcases List.mem_cons.mp listed with same | listed
      · rw [same] at unnamed
        exact unnamed rfl
      · have absent := absent_of_placed isBase otherFresh
          (places.imp (fun both => both.1) (fun both => both.1)) (Option.mem_toList.mp listed)
        change (put target call.content base handle).isSome = true at there
        rw [absent] at there
        cases there
    · rw [recorded]
      exact Bool.false_ne_true

/-- Before the clean-up, a failure leaves pending work and nothing else. -/
theorem Reached.pending (reached : Reached call state)
    (running : state.stage ∉ [.unlinkTemporary, .unlinkBackup, .finished]) :
    Pending call state := by
  cases reached with
  | starting =>
      have none : (start call).created = [] := rfl
      refine ⟨?_, ?_, ?_, fun _ => rfl, iff_of_false ?_ Bool.false_ne_true⟩
      · rw [none]
        exact fun _ impossible => absurd impossible List.not_mem_nil
      · exact fun _ impossible => by cases impossible
      · exact fun _ impossible => by cases impossible
      · rw [Exposed, none]
        rintro ⟨name, impossible, _⟩
        cases impossible
  | writing fresh listed =>
      apply pending_one fresh (Or.inl ⟨rfl, _⟩)
      have unrecorded : ∀ stage ∈ [Stage.writeTemporary, .flushTemporary],
          isUnrecorded stage = true := by decide
      exact unrecorded _ listed
  | written fresh => exact pending_one fresh (Or.inl ⟨rfl, rfl⟩)
  | recorded fresh listed _ =>
      apply pending_one fresh (Or.inr ⟨rfl, _⟩)
      have recorded : ∀ stage ∈ [Stage.closeTemporary, .checkDestination, .openDestination],
          isUnrecorded stage = false := by decide
      exact recorded _ listed
  | opened fresh _ => exact pending_one fresh (Or.inr ⟨rfl, rfl⟩)
  | copying fresh otherFresh different _ listed =>
      apply pending_two fresh otherFresh (Or.inl ⟨rfl, _⟩) different
      have unrecorded : ∀ stage ∈ [Stage.copyBackup, .flushBackup],
          isUnrecorded stage = true := by decide
      exact unrecorded _ listed
  | copied fresh otherFresh different _ =>
      exact pending_two fresh otherFresh (Or.inl ⟨rfl, rfl⟩) different
  | backupRecorded fresh otherFresh different _ listed =>
      apply pending_two fresh otherFresh (Or.inr ⟨rfl, _⟩) different
      have recorded : ∀ stage ∈ [Stage.closeBackup, .replaceBackup],
          isUnrecorded stage = false := by decide
      exact recorded _ listed
  | @kept name other old fresh otherFresh different found =>
      refine pending_placed fresh ?_ ?_ (Or.inr ⟨_, found, rfl⟩) (Or.inl ⟨rfl, by decide⟩) rfl
      · intro handle same
        cases same
        exact ⟨otherFresh, different⟩
      · exact fun handle same => same
  | replacing fresh otherFresh isBase _ =>
      exact pending_placed fresh otherFresh (fun _ impossible => by cases impossible) isBase
        (Or.inl ⟨rfl, by decide⟩) rfl
  | replaced fresh otherFresh isBase _ =>
      exact pending_placed fresh otherFresh (fun _ impossible => by cases impossible) isBase
        (Or.inr ⟨rfl, rfl⟩) rfl
  | cleaning cleans => exact absurd cleans.stage running

theorem isFresh_temporaryName {random : String}
    (free : call.before (temporaryName call.destination random) = none) :
    IsFresh call (temporaryName call.destination random) := by
  have apart := ne_of_longer (show call.destination.length + 4 <
    (temporaryName call.destination random).length by rw [length_temporaryName]; omega)
  exact ⟨free, apart.1, apart.2⟩

theorem isFresh_backupTemporaryName {random : String}
    (free : call.before (backupTemporaryName call.destination random) = none) :
    IsFresh call (backupTemporaryName call.destination random) := by
  have apart := ne_of_longer (show call.destination.length + 4 <
    (backupTemporaryName call.destination random).length by
      rw [length_backupTemporaryName]; omega)
  exact ⟨free, apart.1, apart.2⟩

end Laws

/-! ## Steps -/

section Preservation

variable {Content : Type*} {call : Call Content} {state next : State Content}

variable {files : Files Content}

variable {path : Option String}

theorem mem_created_unlink {name : String} :
    (unlinkIfSet path files name).isSome = true ↔
      (files name).isSome = true ∧ path ≠ some name := by
  cases path with
  | none => exact (and_iff_left (fun impossible => by cases impossible)).symm
  | some other =>
      rw [unlinkIfSet]
      by_cases same : name = other
      · subst same
        rw [unlink_self]
        constructor
        · intro impossible
          cases impossible
        · exact fun both => absurd rfl both.2
      · rw [unlink_of_ne same]
        exact (and_iff_left (fun equal => same (Option.some.inj equal).symm)).symm

variable {created : List String}

theorem Safe.unlinkIfSet
    (safe : Safe call files created) (fresh : ∀ name ∈ created, IsFresh call name)
    (named : ∀ name ∈ path, name ∈ created) :
    Safe call (unlinkIfSet path files) created := by
  cases path with
  | none => exact safe
  | some name => exact safe.update (fresh name (named name rfl)) (named name rfl) none

theorem unlinkIfSet_destination (fresh : ∀ name ∈ created, IsFresh call name)
    (named : ∀ name ∈ path, name ∈ created) :
    unlinkIfSet path files call.destination = files call.destination := by
  cases path with
  | none => rfl
  | some name => exact unlink_of_ne (fresh name (named name rfl)).notDestination.symm

/-- Removing a temporary file undoes no write. -/
theorem written_unlinkIfSet
    (written : files call.destination = some call.content ∧ HasBackup call files)
    (fresh : ∀ name ∈ created, IsFresh call name) (named : ∀ name ∈ path, name ∈ created) :
    unlinkIfSet path files call.destination = some call.content ∧
      HasBackup call (unlinkIfSet path files) := by
  refine ⟨(unlinkIfSet_destination fresh named).trans written.1, ?_⟩
  intro retains old found
  cases path with
  | none => exact written.2 retains old found
  | some name =>
      exact (unlink_of_ne (fresh name (named name rfl)).notBackup.symm).trans
        (written.2 retains old found)

/-- The clean-up goes on. -/
theorem Cleaning.succeeds (cleans : Cleaning call state)
    (taken : succeed call state = some next) : Cleaning call next := by
  have stages := cleans.stage
  simp only [List.mem_cons, List.not_mem_nil, or_false] at stages
  rw [succeed] at taken
  rcases stages with stage | stage | stage
  · rw [stage] at taken
    cases taken
    refine ⟨cleans.safe.unlinkIfSet cleans.fresh cleans.path,
      List.mem_cons_of_mem _ List.mem_cons_self, cleans.fresh, cleans.path,
      cleans.backupTemporaryPath, ?_, ?_, ?_⟩
    · intro failed same early
      exact (unlinkIfSet_destination cleans.fresh cleans.path).trans
        (cleans.unchanged failed same early)
    · exact fun returned => written_unlinkIfSet (cleans.written returned) cleans.fresh cleans.path
    · rw [← cleans.left, stage]
      apply exists_congr
      intro name
      apply and_congr_right
      intro listed
      dsimp only
      rw [mem_created_unlink]
      constructor
      · rintro ⟨⟨there, unnamed⟩, _, backupUnnamed⟩
        exact ⟨there, fun _ => unnamed, fun _ => backupUnnamed (by decide)⟩
      · rintro ⟨there, unnamed, backupUnnamed⟩
        exact ⟨⟨there, unnamed rfl⟩, fun impossible => (by cases impossible),
          fun _ => backupUnnamed (by decide)⟩
  · rw [stage] at taken
    cases taken
    refine ⟨cleans.safe.unlinkIfSet cleans.fresh cleans.backupTemporaryPath,
      List.mem_cons_of_mem _ (List.mem_cons_of_mem _ List.mem_cons_self), cleans.fresh, cleans.path,
      cleans.backupTemporaryPath, ?_, ?_, ?_⟩
    · intro failed same early
      exact (unlinkIfSet_destination cleans.fresh cleans.backupTemporaryPath).trans
        (cleans.unchanged failed same early)
    · exact fun returned =>
        written_unlinkIfSet (cleans.written returned) cleans.fresh cleans.backupTemporaryPath
    · rw [← cleans.left, stage]
      apply exists_congr
      intro name
      apply and_congr_right
      intro listed
      dsimp only
      rw [mem_created_unlink]
      constructor
      · rintro ⟨⟨there, backupUnnamed⟩, _, _⟩
        exact ⟨there, fun impossible => (by cases impossible), fun _ => backupUnnamed⟩
      · rintro ⟨there, _, backupUnnamed⟩
        exact ⟨⟨there, backupUnnamed (by decide)⟩, fun impossible => (by cases impossible),
          fun impossible => absurd rfl impossible⟩
  · rw [stage] at taken
    cases taken

/-- An operation is carried out. -/
theorem Reached.succeeds (reached : Reached call state)
    (taken : succeed call state = some next) : Reached call next := by
  cases reached with
  | starting => cases taken
  | @writing name part stage fresh listed =>
      rcases List.mem_cons.mp listed with rfl | listed
      · cases taken
        exact .writing fresh (List.mem_cons_of_mem _ List.mem_cons_self)
      · rw [List.mem_singleton.mp listed] at taken
        cases taken
        rw [write, put_put]
        exact .written fresh
  | written fresh =>
      cases taken
      exact .recorded fresh List.mem_cons_self (fun impossible => by cases impossible)
  | @recorded name stage fresh listed found =>
      simp only [List.mem_cons, List.not_mem_nil, or_false] at listed
      rcases listed with rfl | rfl | rfl
      · cases taken
        exact .recorded fresh (List.mem_cons_of_mem _ List.mem_cons_self)
          (fun impossible => by cases impossible)
      · rw [succeed] at taken
        have unwritten : put name call.content call.before call.destination =
            call.before call.destination := put_of_ne fresh.notDestination.symm call.content
        by_cases kept : (call.retainBackup &&
            (put name call.content call.before call.destination).isSome) = true
        · rw [if_pos kept] at taken
          cases taken
          refine .recorded fresh (by decide) (fun _ => ?_)
          rw [unwritten] at kept
          exact (Bool.and_eq_true_iff.mp kept).2
        · rw [if_neg kept] at taken
          cases taken
          refine .replacing fresh (fun _ impossible => by cases impossible) (Or.inl rfl) ?_
          intro retains old there
          rw [unwritten, retains, there] at kept
          exact absurd rfl kept
      · cases taken
        rcases Option.isSome_iff_exists.mp (found rfl) with ⟨old, there⟩
        change Reached call ⟨_, _, _, _, _, _, _,
          put name call.content call.before call.destination⟩
        rw [put_of_ne fresh.notDestination.symm, there]
        exact .opened fresh there
  | opened fresh found => cases taken
  | @copying name other old part stage fresh otherFresh different found listed =>
      rcases List.mem_cons.mp listed with rfl | listed
      · cases taken
        exact .copying fresh otherFresh different found
          (List.mem_cons_of_mem _ List.mem_cons_self)
      · rw [List.mem_singleton.mp listed] at taken
        cases taken
        rw [write, put_put]
        exact .copied fresh otherFresh different found
  | copied fresh otherFresh different found =>
      cases taken
      exact .backupRecorded fresh otherFresh different found List.mem_cons_self
  | @backupRecorded name other old stage fresh otherFresh different found listed =>
      rcases List.mem_cons.mp listed with rfl | listed
      · cases taken
        exact .backupRecorded fresh otherFresh different found
          (List.mem_cons_of_mem _ List.mem_cons_self)
      · rw [List.mem_singleton.mp listed] at taken
        cases taken
        have free : put name call.content call.before other = none :=
          (put_of_ne different _).trans otherFresh.free
        rw [replace, move_put free otherFresh.notBackup, put_comm fresh.notBackup.symm]
        exact .kept fresh otherFresh different found
  | kept fresh otherFresh different found =>
      cases taken
      refine .replacing fresh ?_ (Or.inr ⟨_, found, rfl⟩) ?_
      · intro handle same
        cases same
        exact ⟨otherFresh, different⟩
      · intro _ old there
        rw [put_self, ← there, found]
  | @replacing name other source base fresh otherFresh isBase hasBackup =>
      cases taken
      have free : base name = none := (isBase.of_ne fresh.notBackup).trans fresh.free
      rw [replace, move_put free fresh.notDestination]
      exact .replaced fresh otherFresh isBase hasBackup
  | @replaced name other source base fresh otherFresh isBase hasBackup =>
      cases taken
      have reached : Reached call ⟨put call.destination call.content base,
          .syncDestinationDirectory, none, some name, other, some name, none, source⟩ :=
        .replaced fresh otherFresh isBase hasBackup
      have pending := reached.pending (by simp)
      refine .cleaning ⟨reached.safe, List.mem_cons_self, pending.fresh,
        fun _ impossible => (by cases impossible), fun _ impossible => (by cases impossible),
        fun _ impossible => (by cases impossible), fun _ => ⟨put_self call.content, ?_⟩,
        iff_of_false ?_ ?_⟩
      · intro retains old found
        exact (put_of_ne (backupPath_ne call.destination) _).trans (hasBackup retains old found)
      · rintro ⟨handle, listed, there, _⟩
        change (put call.destination call.content base handle).isSome = true at there
        rcases List.mem_cons.mp listed with same | listed
        · rw [same, put_of_ne fresh.notDestination, isBase.of_ne fresh.notBackup,
            fresh.free] at there
          cases there
        · rw [absent_of_placed isBase otherFresh (Or.inr rfl) (Option.mem_toList.mp listed)]
            at there
          cases there
      · rintro ⟨failed, impossible, _⟩
        cases impossible
  | cleaning cleans => exact .cleaning (cleans.succeeds taken)

variable [Inhabited Content]

theorem create_eq_some {name : String} :
    create name state = some files ↔
      state.files name = none ∧ files = put name default state.files := by
  rw [create]
  cases found : state.files name with
  | none =>
      constructor
      · intro same
        exact ⟨rfl, (Option.some.inj same).symm⟩
      · exact fun same => congrArg some same.2.symm
  | some content =>
      constructor
      · intro impossible
        cases impossible
      · intro impossible
        cases impossible.1

theorem stage_of_creates {random : String}
    (taken : step call state (.creates random) = some next) :
    state.stage = .createTemporary ∨ state.stage = .createBackup := by
  rw [step] at taken
  split at taken
  · rename_i stage
    exact Or.inl stage
  · rename_i stage
    exact Or.inr stage
  · cases taken

/-- A file appears. -/
theorem Reached.creates {random : String} (reached : Reached call state)
    (taken : step call state (.creates random) = some next) : Reached call next := by
  have stage := stage_of_creates taken
  cases reached with
  | starting =>
      rcases Option.map_eq_some_iff.mp taken with ⟨files, created, same⟩
      rcases create_eq_some.mp created with ⟨free, put⟩
      rw [← same, put]
      exact .writing (isFresh_temporaryName free) List.mem_cons_self
  | @opened name old fresh found =>
      rcases Option.map_eq_some_iff.mp taken with ⟨files, created, same⟩
      rcases create_eq_some.mp created with ⟨free, placed⟩
      have different : backupTemporaryName call.destination random ≠ name := by
        intro equal
        rw [equal] at free
        cases (put_self call.content).symm.trans free
      rw [← same, placed]
      exact .copying fresh (isFresh_backupTemporaryName ((put_of_ne different _).symm.trans free))
        different found List.mem_cons_self
  | writing fresh listed =>
      rcases stage with rfl | rfl
      · exact absurd listed (by decide)
      · exact absurd listed (by decide)
  | recorded fresh listed _ =>
      rcases stage with rfl | rfl
      · exact absurd listed (by decide)
      · exact absurd listed (by decide)
  | copying fresh otherFresh different found listed =>
      rcases stage with rfl | rfl
      · exact absurd listed (by decide)
      · exact absurd listed (by decide)
  | backupRecorded fresh otherFresh different found listed =>
      rcases stage with rfl | rfl
      · exact absurd listed (by decide)
      · exact absurd listed (by decide)
  | cleaning cleans =>
      have listed := cleans.stage
      rcases stage with stage | stage
      · rw [stage] at listed
        exact absurd listed (by decide)
      · rw [stage] at listed
        exact absurd listed (by decide)
  | _ => cases taken

/-- Data are written. -/
theorem Reached.writes {part : Content} (reached : Reached call state)
    (taken : step call state (.writes part) = some next) : Reached call next := by
  rw [step] at taken
  split_ifs at taken with writing copying
  · cases taken
    cases reached with
    | writing fresh listed =>
        rw [write, put_put]
        exact .writing fresh listed
    | recorded fresh listed _ =>
        have apart : ∀ stage ∈ [Stage.closeTemporary, .checkDestination, .openDestination],
            stage ∉ [Stage.writeTemporary, .flushTemporary] := by decide
        exact absurd writing (apart _ listed)
    | copying fresh otherFresh different found listed =>
        have apart : ∀ stage ∈ [Stage.copyBackup, .flushBackup],
            stage ∉ [Stage.writeTemporary, .flushTemporary] := by decide
        exact absurd writing (apart _ listed)
    | backupRecorded fresh otherFresh different found listed =>
        have apart : ∀ stage ∈ [Stage.closeBackup, .replaceBackup],
            stage ∉ [Stage.writeTemporary, .flushTemporary] := by decide
        exact absurd writing (apart _ listed)
    | cleaning cleans =>
        have apart : ∀ stage ∈ [Stage.unlinkTemporary, .unlinkBackup, .finished],
            stage ∉ [Stage.writeTemporary, .flushTemporary] := by decide
        exact absurd writing (apart _ cleans.stage)
    | _ => simp [start] at writing
  · cases taken
    cases reached with
    | copying fresh otherFresh different found listed =>
        rw [write, put_put]
        exact .copying fresh otherFresh different found listed
    | writing fresh listed => exact absurd listed writing
    | recorded fresh listed _ =>
        have apart : ∀ stage ∈ [Stage.closeTemporary, .checkDestination, .openDestination],
            stage ∉ [Stage.copyBackup, .flushBackup] := by decide
        exact absurd copying (apart _ listed)
    | backupRecorded fresh otherFresh different found listed =>
        have apart : ∀ stage ∈ [Stage.closeBackup, .replaceBackup],
            stage ∉ [Stage.copyBackup, .flushBackup] := by decide
        exact absurd copying (apart _ listed)
    | cleaning cleans =>
        have apart : ∀ stage ∈ [Stage.unlinkTemporary, .unlinkBackup, .finished],
            stage ∉ [Stage.copyBackup, .flushBackup] := by decide
        exact absurd copying (apart _ cleans.stage)
    | _ => simp [start] at copying

/-- An operation fails. -/
theorem Reached.fails (reached : Reached call state)
    (taken : step call state .fails = some next) : Reached call next := by
  rw [step] at taken
  split_ifs at taken with running
  cases taken
  exact reached.raise (reached.pending running)

/-- Whatever comes next, the call is as far as it has come. -/
theorem Reached.step {action : Action Content} (reached : Reached call state)
    (taken : step call state action = some next) : Reached call next := by
  cases action with
  | succeeds => exact reached.succeeds taken
  | creates random => exact reached.creates taken
  | writes part => exact reached.writes taken
  | fails => exact reached.fails taken

end Preservation

/-! ## The law -/

section Law

variable {Content : Type*} {call : Call Content} {final : State Content}
  {actions : List (Action Content)}

/-- The call ended with an exception of an operation. -/
def State.Raised (state : State Content) (failed : Stage) : Prop :=
  state.stage = .finished ∧ state.failure = some failed

theorem Reached.cleaning_of_finished {state : State Content} (reached : Reached call state)
    (finished : state.stage = .finished) : Cleaning call state := by
  cases reached with
  | cleaning cleans => exact cleans
  | writing fresh listed =>
      cases finished
      exact absurd listed (by decide)
  | recorded fresh listed _ =>
      cases finished
      exact absurd listed (by decide)
  | copying fresh otherFresh different found listed =>
      cases finished
      exact absurd listed (by decide)
  | backupRecorded fresh otherFresh different found listed =>
      cases finished
      exact absurd listed (by decide)
  | _ => cases finished

/-- What is left after the clean-up is what no variable named. -/
theorem Cleaning.left_iff {state : State Content} (cleans : Cleaning call state) {failed : Stage}
    (raised : state.Raised failed) :
    (∀ name ∈ state.created, state.files name = none) ↔ isUnrecorded failed = false := by
  have left : (∃ name ∈ state.created, (state.files name).isSome = true) ↔
      isUnrecorded failed = true := by
    constructor
    · rintro ⟨name, listed, there⟩
      rcases cleans.left.mp ⟨name, listed, there,
        fun impossible => (by cases raised.1.symm.trans impossible),
        fun running => absurd raised.1 running⟩ with ⟨other, same, unrecorded⟩
      cases raised.2.symm.trans same
      exact unrecorded
    · intro unrecorded
      rcases cleans.left.mpr ⟨failed, raised.2, unrecorded⟩ with ⟨name, listed, there, _⟩
      exact ⟨name, listed, there⟩
  rw [← Bool.not_eq_true, ← left]
  constructor
  · rintro gone ⟨name, listed, there⟩
    rw [gone name listed] at there
    cases there
  · intro unleft name listed
    cases found : state.files name with
    | none => rfl
    | some content => exact absurd ⟨name, listed, by rw [found]; rfl⟩ unleft

variable [Inhabited Content]

theorem reached_of_run (ran : run (step call) (start call) actions = some final) :
    Reached call final := by
  have preserved : ∀ (state : State Content) (action : Action Content) (next : State Content),
      Reached call state → True → step call state action = some next → Reached call next :=
    fun state action next reached _ taken => reached.step taken
  exact run_invariant preserved .starting (meets_of_forall (fun _ _ => trivial) _ _) ran

/-- Wherever a call stops, the destination and the backup are whole; a failure
before the last rename changes nothing at the destination; and a call that raised
left no temporary file exactly when what failed was not the writing of one. -/
theorem write_text_atomically_iff (ran : run (step call) (start call) actions = some final) :
    Safe call final.files final.created ∧
      (final.stage = .finished → final.failure = none →
        final.files call.destination = some call.content ∧ HasBackup call final.files) ∧
      ∀ failed, final.Raised failed →
        (failed ≠ .syncDestinationDirectory →
          final.files call.destination = call.before call.destination) ∧
        ((∀ name ∈ final.created, final.files name = none) ↔ isUnrecorded failed = false) := by
  have reached := reached_of_run ran
  refine ⟨reached.safe, ?_, ?_⟩
  · exact fun finished returned => (reached.cleaning_of_finished finished).written returned
  · intro failed raised
    have cleans := reached.cleaning_of_finished raised.1
    exact ⟨cleans.unchanged failed raised.2, cleans.left_iff raised⟩

end Law

/-! ## A full disk -/

def oldGraph : Call String where
  before := fun name => if name = "graph.json" then some "old" else none
  destination := "graph.json"
  content := "new"
  retainBackup := true

/-- The disk is full when half of the text is written. -/
def fullDisk : List (Action String) :=
  [.creates "x", .writes "ne", .fails, .succeeds, .succeeds]

/-- The second file cannot be written either. -/
def fullDiskForBackup : List (Action String) :=
  [.creates "x", .succeeds, .succeeds, .succeeds, .succeeds, .succeeds, .succeeds, .fails,
    .succeeds, .succeeds]

theorem write_text_atomically_iff_fullDiskForBackup :
    ∃ final, run (step oldGraph) (start oldGraph) fullDiskForBackup = some final ∧
      final.Raised .createBackup ∧ Safe oldGraph final.files final.created ∧
      final.files "graph.json" = some "old" ∧ ∀ name ∈ final.created, final.files name = none := by
  have ran : ∃ final, run (step oldGraph) (start oldGraph) fullDiskForBackup = some final ∧
      final.Raised .createBackup := ⟨_, rfl, rfl, rfl⟩
  rcases ran with ⟨final, ran, raised⟩
  have law := write_text_atomically_iff ran
  exact ⟨final, ran, raised, law.1, (law.2.2 _ raised).1 (by decide),
    (law.2.2 _ raised).2.mpr rfl⟩

/-- The half-written file stays. -/
theorem temporary_stays :
    ¬ ∀ (call : Call String) (actions : List (Action String)) (final : State String)
      (failed : Stage), run (step call) (start call) actions = some final →
        final.Raised failed → ∀ name ∈ final.created, final.files name = none := by
  intro always
  have ran : ∃ final, run (step oldGraph) (start oldGraph) fullDisk = some final ∧
      final.Raised .writeTemporary ∧ final.created = [".graph.json.x.tmp"] ∧
        final.files ".graph.json.x.tmp" = some "ne" := ⟨_, rfl, ⟨rfl, rfl⟩, rfl, rfl⟩
  rcases ran with ⟨final, ran, raised, created, there⟩
  have gone := always oldGraph fullDisk final _ ran raised ".graph.json.x.tmp"
    (by rw [created]; exact List.mem_cons_self)
  cases there.symm.trans gone

end AtomicWrite

end Persistence
end Synesthesia
