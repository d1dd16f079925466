import Mathlib.Data.List.Basic

/-!
# The resource loader: every handle it opens, it closes — unless the process dies

`WebCore::ResourceLoader` reads a bundled resource through the embedder's
`ultralight::FileSystem`. `openFile` checks that a file system is set and that the file
`resources/<filePath>` exists, opens it for reading, and logs one error for each way this
fails. `readFileToString` asks for the size, sizes a `Vector<char>` buffer to it, reads the
whole file into the buffer and returns it as a string; every failure after the open jumps to
`FAIL_LOAD`, which closes the handle. Sizing the buffer is `CRASH()` when the size, cast to
`size_t`, does not fit the vector's `unsigned` capacity: a negative size or one of 2^32 or
more kills the process with the handle still open.

The file system is the embedder's code. A `FileSystem σ` answers each method the loader calls
as a function of the file system's own state `σ`, which the call may change; a theorem
quantified over it is about every file system. A run's trace records each call with its
answer, each error logged, and the crash.

Each function has one inversion lemma that says every way it can end (`openFile_cases`,
`readFileToString_some`). From them, over every file system, state and path:

- HANDLES (`readFileToString_closes_what_it_opens`): every call after the open is made on the
  handle it opened; a read that returns closes exactly the valid handles it opened, each once,
  and the close is the last thing it does; a read that crashes closes nothing.
- RESULT (`readFileToString_empty_or_complete`): a read returns the empty string, or it went
  the one complete path — the file exists, opens, reports a non-zero size, and reads that
  many bytes — or it crashed at the buffer right after the size.
- ERRORS (`readFileToString_logs`, `openFile_logs`): at most one error, naming the path,
  logged exactly when the file system is set and the open failed; nothing is ever opened for
  writing.
-/

namespace WebCore.ResourceLoader

/-- `ultralight::String16`: the characters, as the model keeps them. -/
abbrev String16 := String

/-- `ultralight::FileHandle`. -/
abbrev FileHandle := Int

/-- `ultralight::invalidFileHandle`. -/
def invalidFileHandle : FileHandle := -1

/-- `ultralight::FileSystem`: the methods the loader calls, over the file system's own state.
`getFileSize` answers its return value and the size it writes to its out-parameter;
`readFromFile` answers the count it returns and the bytes it leaves in the buffer. -/
structure FileSystem (σ : Type) where
  fileExists : String16 → σ → Bool × σ
  openFile : String16 → Bool → σ → FileHandle × σ
  getFileSize : FileHandle → σ → (Bool × Int) × σ
  readFromFile : FileHandle → Int → σ → (Int × List Char) × σ
  closeFile : FileHandle → σ → σ

/-- What the loader does that can be observed: each file-system call with its answer, and each
error it logs. -/
inductive Event where
  | fileExists (path : String16) (answer : Bool)
  | openFile (path : String16) (openForWriting : Bool) (handle : FileHandle)
  | getFileSize (handle : FileHandle) (answer : Bool) (fileSize : Int)
  | readFromFile (handle : FileHandle) (length : Int) (count : Int)
  | closeFile (handle : FileHandle)
  | logError (message : String16)
  /-- `CRASH()`: the process dies. -/
  | crash
  deriving DecidableEq, Repr

/-- The outcome of a run: the result, the file system's state, and the trace. -/
structure Outcome (σ α : Type) where
  result : α
  state : σ
  events : List Event

/-- A computation of the loader over the file system's state. -/
def Loader (σ α : Type) : Type := σ → Outcome σ α

variable {σ α β : Type}

namespace Loader

protected def pure (a : α) : Loader σ α := fun s => ⟨a, s, []⟩

protected def bind (m : Loader σ α) (k : α → Loader σ β) : Loader σ β := fun s =>
  let o := m s
  let p := k o.result o.state
  ⟨p.result, p.state, o.events ++ p.events⟩

instance : Monad (Loader σ) where
  pure := Loader.pure
  bind := Loader.bind

@[simp] theorem pure_apply (a : α) (s : σ) : (pure a : Loader σ α) s = ⟨a, s, []⟩ := rfl

@[simp] theorem bind_apply (m : Loader σ α) (k : α → Loader σ β) (s : σ) :
    (m >>= k) s = ⟨(k (m s).result (m s).state).result, (k (m s).result (m s).state).state,
      (m s).events ++ (k (m s).result (m s).state).events⟩ := rfl

@[simp] theorem map_apply (f : α → β) (m : Loader σ α) (s : σ) :
    (f <$> m) s = ⟨f (m s).result, (m s).state, (m s).events⟩ := by
  show Outcome.mk _ _ (_ ++ []) = _
  rw [List.append_nil]
  rfl

end Loader

/-- A call to the file system, recorded with its answer. -/
def call (method : σ → β × σ) (event : β → Event) : Loader σ β := fun s =>
  ⟨(method s).1, (method s).2, [event (method s).1]⟩

/-- `UL_LOG_ERROR(err_msg)`. -/
def logError (message : String16) : Loader σ Unit := fun s => ⟨(), s, [.logError message]⟩

@[simp] theorem call_apply (method : σ → β × σ) (event : β → Event) (s : σ) :
    call method event s = ⟨(method s).1, (method s).2, [event (method s).1]⟩ := rfl

@[simp] theorem logError_apply (message : String16) (s : σ) :
    (logError message : Loader σ Unit) s = ⟨(), s, [.logError message]⟩ := rfl

/-- `CRASH()`: the process dies; nothing after it runs, and the call never returns. -/
def crash : Loader σ (Option α) := fun s => ⟨none, s, [.crash]⟩

@[simp] theorem crash_apply (s : σ) : (crash : Loader σ (Option α)) s = ⟨none, s, [.crash]⟩ :=
  rfl

/-- The error `openFile` logs: `"Could not load resource: " + filePath16 + reason`. -/
def errorMessage (filePath16 : String16) (reason : String) : String16 :=
  "Could not load resource: " ++ filePath16 ++ reason

/-- `ResourceLoader::openFile`: the file `resources/<filePath>` opened for reading, or
`invalidFileHandle` with one error logged. `fileSystem` is what
`Platform::instance().file_system()` returns; null is `none`. -/
def openFile (fileSystem : Option (FileSystem σ)) (filePath : String) : Loader σ FileHandle :=
  let filePath16 := "resources/" ++ filePath
  match fileSystem with
  | none => do
    logError (errorMessage filePath16
      ", no FileSystem instance set, make sure that you\x27ve called ultralight::Platform::instance().set_file_system().")
    pure invalidFileHandle
  | some fs => do
    let found ← call (fs.fileExists filePath16) (.fileExists filePath16)
    if !found then
      logError (errorMessage filePath16 ", FileSystem::FileExists() returned false.")
      pure invalidFileHandle
    else
      let handle ← call (fs.openFile filePath16 false) (.openFile filePath16 false)
      if handle = invalidFileHandle then
        logError (errorMessage filePath16
          ", FileSystem::OpenFile() returned an invalid file handle.")
        pure invalidFileHandle
      else pure handle

/-- `static_cast<size_t>(fileSize)`: the size modulo 2^64. -/
def sizeCast (fileSize : Int) : Nat := (fileSize % 18446744073709551616).toNat

/-- Whether `buffer.resize(fileSize)` is `CRASH()`: a `Vector<char>` holds at most
`0xFFFFFFFF` elements, and the size is cast to `size_t` first. -/
def resizeCrashes (fileSize : Int) : Bool := 4294967295 < sizeCast fileSize

/-- For a size `GetFileSize` can write, an `int64_t`, the buffer crashes exactly on a
negative size and on one of 2^32 or more. -/
theorem resizeCrashes_iff {fileSize : Int} (hlow : -9223372036854775808 ≤ fileSize)
    (hhigh : fileSize < 9223372036854775808) :
    resizeCrashes fileSize = true ↔ fileSize < 0 ∨ 4294967296 ≤ fileSize := by
  simp only [resizeCrashes, sizeCast, decide_eq_true_eq]
  omega

/-- `FAIL_LOAD:` — `if (fs && handle != invalidFileHandle) fs->CloseFile(handle);
return String();` Only reached with a file system set. -/
def failLoad (fs : FileSystem σ) (handle : FileHandle) : Loader σ String := do
  if handle ≠ invalidFileHandle then
    call (fun s => ((), fs.closeFile handle s)) fun _ => .closeFile handle
  pure ""

/-- `ResourceLoader::readFileToString`: the whole file `resources/<filePath>` as a string, or
the empty string; `none` when the process died sizing the buffer. The string is built from
the buffer's first `sizeCast fileSize` characters. -/
def readFileToString (fileSystem : Option (FileSystem σ)) (filePath : String) :
    Loader σ (Option String) :=
  match fileSystem with
  | none => pure (some "")
  | some fs => do
    let handle ← openFile (some fs) filePath
    if handle = invalidFileHandle then pure (some "")
    else
      let size ← call (fs.getFileSize handle) fun r => .getFileSize handle r.1 r.2
      let fileSize := size.2
      if !size.1 || fileSize = 0 then some <$> failLoad fs handle
      else if resizeCrashes fileSize then crash
      else
        let read ← call (fs.readFromFile handle fileSize) fun r => .readFromFile handle fileSize r.1
        if read.1 ≠ fileSize then some <$> failLoad fs handle
        else do
          call (fun s => ((), fs.closeFile handle s)) fun _ => .closeFile handle
          pure (some (String.mk (read.2.take (sizeCast fileSize))))

/-! ## What a trace shows -/

/-- The valid handle an event reports opened. -/
def Event.opened? : Event → Option FileHandle
  | .openFile _ _ handle => if handle = invalidFileHandle then none else some handle
  | _ => none

/-- The handle an event closes. -/
def Event.closed? : Event → Option FileHandle
  | .closeFile handle => some handle
  | _ => none

/-- The handle a call after the open is made on. -/
def Event.uses? : Event → Option FileHandle
  | .getFileSize handle _ _ | .readFromFile handle _ _ | .closeFile handle => some handle
  | _ => none

/-- The message an event logs. -/
def Event.logged? : Event → Option String16
  | .logError message => some message
  | _ => none

/-- Whether an event opens a file for writing. -/
def Event.opensForWriting : Event → Bool
  | .openFile _ openForWriting _ => openForWriting
  | _ => false

/-! ## Every way a call ends -/

/-- `openFile` with a file system set: the file is missing, or the open failed, each with one
error logged; or the open gave a valid handle. -/
theorem openFile_cases (fs : FileSystem σ) (filePath : String) (s : σ) :
    ((openFile (some fs) filePath s).result = invalidFileHandle ∧
      ((openFile (some fs) filePath s).events =
          [.fileExists ("resources/" ++ filePath) false,
            .logError (errorMessage ("resources/" ++ filePath)
              ", FileSystem::FileExists() returned false.")] ∨
        (openFile (some fs) filePath s).events =
          [.fileExists ("resources/" ++ filePath) true,
            .openFile ("resources/" ++ filePath) false invalidFileHandle,
            .logError (errorMessage ("resources/" ++ filePath)
              ", FileSystem::OpenFile() returned an invalid file handle.")])) ∨
    ((openFile (some fs) filePath s).result ≠ invalidFileHandle ∧
      (openFile (some fs) filePath s).events =
        [.fileExists ("resources/" ++ filePath) true,
          .openFile ("resources/" ++ filePath) false (openFile (some fs) filePath s).result]) := by
  simp only [openFile, Loader.bind_apply, call_apply]
  cases hfound : (fs.fileExists ("resources/" ++ filePath) s).1
  · simp
  · by_cases hopen : (fs.openFile ("resources/" ++ filePath) false
        (fs.fileExists ("resources/" ++ filePath) s).2).1 = invalidFileHandle
    · simp [hopen]
    · simp [hopen]

/-- How a read goes on once the file is open, with the file system's answers. -/
inductive Rest where
  /-- `GetFileSize` failed or reported an empty file. -/
  | sizeFailed (found : Bool) (fileSize : Int)
  /-- Sizing the buffer crashed. -/
  | crashed (fileSize : Int)
  /-- `ReadFromFile` returned another count than the size. -/
  | readFailed (fileSize count : Int)
  /-- The whole file was read into `buffer`. -/
  | loaded (fileSize : Int) (buffer : List Char)

/-- The guard each way of going on passed or failed. -/
def Rest.Valid : Rest → Prop
  | .sizeFailed found fileSize => found = false ∨ fileSize = 0
  | .crashed fileSize => fileSize ≠ 0 ∧ resizeCrashes fileSize = true
  | .readFailed fileSize count =>
    fileSize ≠ 0 ∧ resizeCrashes fileSize = false ∧ count ≠ fileSize
  | .loaded fileSize _ => fileSize ≠ 0 ∧ resizeCrashes fileSize = false

/-- The calls a read makes once the file is open. -/
def Rest.events (handle : FileHandle) : Rest → List Event
  | .sizeFailed found fileSize => [.getFileSize handle found fileSize, .closeFile handle]
  | .crashed fileSize => [.getFileSize handle true fileSize, .crash]
  | .readFailed fileSize count =>
    [.getFileSize handle true fileSize, .readFromFile handle fileSize count, .closeFile handle]
  | .loaded fileSize _ =>
    [.getFileSize handle true fileSize, .readFromFile handle fileSize fileSize, .closeFile handle]

/-- What a read returns. -/
def Rest.result : Rest → Option String
  | .loaded fileSize buffer => some (String.mk (buffer.take (sizeCast fileSize)))
  | .crashed _ => none
  | .sizeFailed _ _ | .readFailed _ _ => some ""

/-- `readFileToString` with a file system set: a failed open returns the empty string and adds
nothing; after a valid open, the read goes on in one of the four ways `Rest` lists. -/
theorem readFileToString_some (fs : FileSystem σ) (filePath : String) (s : σ) :
    ((openFile (some fs) filePath s).result = invalidFileHandle ∧
      (readFileToString (some fs) filePath s).result = some "" ∧
      (readFileToString (some fs) filePath s).events = (openFile (some fs) filePath s).events) ∨
    ((openFile (some fs) filePath s).result ≠ invalidFileHandle ∧
      ∃ rest : Rest, rest.Valid ∧ (readFileToString (some fs) filePath s).result = rest.result ∧
        (readFileToString (some fs) filePath s).events = (openFile (some fs) filePath s).events ++
          rest.events (openFile (some fs) filePath s).result) := by
  by_cases hopen : (openFile (some fs) filePath s).result = invalidFileHandle
  · left
    simp only [hopen, readFileToString, Loader.bind_apply, ↓reduceIte, Loader.pure_apply,
      List.append_nil, and_self]
  · right
    refine ⟨hopen, ?_⟩
    simp only [readFileToString, Loader.bind_apply, hopen, if_false, call_apply]
    generalize (openFile (some fs) filePath s).result = handle at hopen ⊢
    generalize (openFile (some fs) filePath s).state = s₁
    obtain ⟨⟨found, fileSize⟩, s₂⟩ := fs.getFileSize handle s₁
    by_cases hsize : (!found || decide (fileSize = 0)) = true
    · refine ⟨.sizeFailed found fileSize, ?_, ?_⟩
      · simpa [Rest.Valid, Bool.or_eq_true, or_comm] using hsize
      · simp only [hsize, ↓reduceIte, failLoad, ne_eq, hopen, not_false_eq_true, Loader.map_apply,
          Loader.bind_apply, call_apply, Loader.pure_apply, List.singleton_append, Rest.result,
          Rest.events, and_self]
    · obtain ⟨rfl, hnz⟩ : found = true ∧ fileSize ≠ 0 := by simpa using hsize
      cases hcrash : resizeCrashes fileSize
      · rcases hread : fs.readFromFile handle fileSize s₂ with ⟨⟨count, buffer⟩, s₃⟩
        by_cases hcount : count = fileSize
        · exact ⟨.loaded fileSize buffer, ⟨hnz, hcrash⟩, by
            simp only [Bool.not_true, hnz, decide_False, Bool.or_self, Bool.false_eq_true,
              ↓reduceIte, ne_eq, ite_not, Loader.bind_apply, call_apply, hread, hcount,
              Loader.pure_apply, List.singleton_append, Rest.result, Rest.events, and_self]⟩
        · exact ⟨.readFailed fileSize count, ⟨hnz, hcrash, hcount⟩, by
            simp only [Bool.not_true, hnz, decide_False, Bool.or_self, Bool.false_eq_true,
              ↓reduceIte, ne_eq, failLoad, hopen, not_false_eq_true, ite_not, Loader.bind_apply,
              call_apply, hread, hcount, Loader.map_apply, Loader.pure_apply, List.singleton_append,
              Rest.result, Rest.events, and_self]⟩
      · exact ⟨.crashed fileSize, ⟨hnz, hcrash⟩, by
          simp only [Bool.not_true, hnz, decide_False, Bool.or_self, Bool.false_eq_true,
            ↓reduceIte, crash_apply, Rest.result, List.singleton_append, Rest.events, and_self]⟩

/-! ## Handles, result and errors -/

/-- HANDLES. For every file system, state and path: every call after the open is made on a
valid handle the read opened; a read that returns closes exactly the valid handles it opened,
in order and each once, and closing is the last thing it does; a read that crashes closes
nothing, and the crash is the last thing that happens. -/
theorem readFileToString_closes_what_it_opens (fileSystem : Option (FileSystem σ))
    (filePath : String) (s : σ) :
    (∀ handle ∈ (readFileToString fileSystem filePath s).events.filterMap Event.uses?,
        handle ∈ (readFileToString fileSystem filePath s).events.filterMap Event.opened?) ∧
      ((readFileToString fileSystem filePath s).result.isSome →
        (readFileToString fileSystem filePath s).events.filterMap Event.closed? =
          (readFileToString fileSystem filePath s).events.filterMap Event.opened? ∧
        ∀ handle ∈ (readFileToString fileSystem filePath s).events.filterMap Event.opened?,
          (readFileToString fileSystem filePath s).events.getLast? = some (.closeFile handle)) ∧
      ((readFileToString fileSystem filePath s).result = none →
        (readFileToString fileSystem filePath s).events.filterMap Event.closed? = [] ∧
          (readFileToString fileSystem filePath s).events.getLast? = some .crash) := by
  cases fileSystem with
  | none => simp [readFileToString]
  | some fs =>
    rcases readFileToString_some fs filePath s with
      ⟨hinv, hres, hevs⟩ | ⟨hvalid, rest, -, hres, hevs⟩
    · rw [hevs, hres]
      rcases openFile_cases fs filePath s with ⟨-, hopen | hopen⟩ | ⟨hv, -⟩
      · simp [hopen, Event.closed?, Event.opened?, Event.uses?]
      · simp [hopen, Event.closed?, Event.opened?, Event.uses?]
      · exact absurd hinv hv
    · rcases openFile_cases fs filePath s with ⟨hinv, -⟩ | ⟨-, hopen⟩
      · exact absurd hinv hvalid
      · rw [hevs, hopen, hres]
        cases rest <;>
          simp [Rest.events, Rest.result, Event.closed?, Event.opened?, Event.uses?, hvalid]

/-- RESULT. For every file system, state and path: a read returns the empty string, or it
opened the file to a valid handle and `GetFileSize` reported a non-zero size, after which
either sizing the buffer crashed, or it read exactly that many bytes and closed the handle. -/
theorem readFileToString_empty_or_complete (fileSystem : Option (FileSystem σ))
    (filePath : String) (s : σ) :
    (readFileToString fileSystem filePath s).result = some "" ∨
      ∃ handle fileSize, handle ≠ invalidFileHandle ∧ fileSize ≠ 0 ∧
        ((resizeCrashes fileSize = true ∧ (readFileToString fileSystem filePath s).result = none ∧
          (readFileToString fileSystem filePath s).events =
            [.fileExists ("resources/" ++ filePath) true,
              .openFile ("resources/" ++ filePath) false handle,
              .getFileSize handle true fileSize, .crash]) ∨
        (resizeCrashes fileSize = false ∧
          (readFileToString fileSystem filePath s).events =
            [.fileExists ("resources/" ++ filePath) true,
              .openFile ("resources/" ++ filePath) false handle,
              .getFileSize handle true fileSize, .readFromFile handle fileSize fileSize,
              .closeFile handle])) := by
  cases fileSystem with
  | none => exact .inl rfl
  | some fs =>
    rcases readFileToString_some fs filePath s with
      ⟨-, hres, -⟩ | ⟨hvalid, rest, hrest, hres, hevs⟩
    · exact .inl hres
    · rcases openFile_cases fs filePath s with ⟨hinv, -⟩ | ⟨-, hopen⟩
      · exact absurd hinv hvalid
      · cases rest with
        | sizeFailed | readFailed => exact .inl hres
        | crashed fileSize =>
          exact .inr ⟨_, fileSize, hvalid, hrest.1, .inl ⟨hrest.2, hres, by rw [hevs, hopen]; rfl⟩⟩
        | loaded fileSize buffer =>
          exact .inr ⟨_, fileSize, hvalid, hrest.1, .inr ⟨hrest.2, by rw [hevs, hopen]; rfl⟩⟩

/-- ERRORS OF A READ. For every file system, state and path: a read logs no error, or exactly
one — that `resources/<filePath>` does not exist, or that it would not open — and it logs one
exactly when a file system is set and no valid handle was opened. The missing-file-system error
is never logged: the read checks for the file system itself first. -/
theorem readFileToString_logs (fileSystem : Option (FileSystem σ)) (filePath : String)
    (s : σ) :
    ((readFileToString fileSystem filePath s).events.filterMap Event.logged? = [] ∨
      (readFileToString fileSystem filePath s).events.filterMap Event.logged? =
        [errorMessage ("resources/" ++ filePath) ", FileSystem::FileExists() returned false."] ∨
      (readFileToString fileSystem filePath s).events.filterMap Event.logged? =
        [errorMessage ("resources/" ++ filePath)
          ", FileSystem::OpenFile() returned an invalid file handle."]) ∧
    ((readFileToString fileSystem filePath s).events.filterMap Event.logged? ≠ [] ↔
      fileSystem.isSome ∧
        (readFileToString fileSystem filePath s).events.filterMap Event.opened? = []) := by
  cases fileSystem with
  | none => simp [readFileToString]
  | some fs =>
    rcases readFileToString_some fs filePath s with
      ⟨hinv, -, hevs⟩ | ⟨hvalid, rest, -, -, hevs⟩
    · rw [hevs]
      rcases openFile_cases fs filePath s with ⟨-, hopen | hopen⟩ | ⟨hv, -⟩
      · simp [hopen, Event.logged?, Event.opened?]
      · simp [hopen, Event.logged?, Event.opened?]
      · exact absurd hinv hv
    · rcases openFile_cases fs filePath s with ⟨hinv, -⟩ | ⟨-, hopen⟩
      · exact absurd hinv hvalid
      · rw [hevs, hopen]
        cases rest <;> simp [Rest.events, Event.logged?, Event.opened?, hvalid]

/-- ERRORS OF AN OPEN. For every file system or none, state and path: when `openFile` returns
`invalidFileHandle` it has logged exactly one error, naming `resources/<filePath>`; when it
returns a valid handle it has logged none, and the handle is the one the file system's open
gave; and it never opens a file for writing. -/
theorem openFile_logs (fileSystem : Option (FileSystem σ)) (filePath : String) (s : σ) :
    ((openFile fileSystem filePath s).result = invalidFileHandle →
      ∃ reason, (openFile fileSystem filePath s).events.filterMap Event.logged? =
        [errorMessage ("resources/" ++ filePath) reason]) ∧
    ((openFile fileSystem filePath s).result ≠ invalidFileHandle →
      (openFile fileSystem filePath s).events.filterMap Event.logged? = [] ∧
        .openFile ("resources/" ++ filePath) false (openFile fileSystem filePath s).result ∈
          (openFile fileSystem filePath s).events) ∧
    ∀ e ∈ (openFile fileSystem filePath s).events, e.opensForWriting = false := by
  cases fileSystem with
  | none => exact ⟨fun _ => ⟨_, rfl⟩, fun h => absurd rfl h, fun e he => by
      obtain rfl := List.mem_singleton.mp he; rfl⟩
  | some fs =>
    have hread : ∀ e ∈ (openFile (some fs) filePath s).events, e.opensForWriting = false := by
      rcases openFile_cases fs filePath s with ⟨-, hopen | hopen⟩ | ⟨-, hopen⟩ <;>
        simp only [hopen, List.forall_mem_cons, List.not_mem_nil, false_implies, implies_true,
          Event.opensForWriting, and_self]
    rcases openFile_cases fs filePath s with ⟨hinv, hopen | hopen⟩ | ⟨hvalid, hopen⟩
    · exact ⟨fun _ => ⟨_, by rw [hopen]; rfl⟩, fun h => absurd hinv h, hread⟩
    · exact ⟨fun _ => ⟨_, by rw [hopen]; rfl⟩, fun h => absurd hinv h, hread⟩
    · refine ⟨fun h => absurd h hvalid, fun _ => ⟨by rw [hopen]; rfl, ?_⟩, hread⟩
      rw [hopen]
      exact List.mem_cons_of_mem _ (List.mem_singleton_self _)

end WebCore.ResourceLoader
