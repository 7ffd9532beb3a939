import Mathlib.Data.List.Chain
import WebDispatch.Proofs.Dispatch.UploadRelease
import WebDispatch.Proofs.Upload.ReceivedParts

/-!
# The course of a guard

Until the guard of an upload ends, it may be asked to clean up, its request may be cleaned up, and
the parts on the request may be released, in any order and any number of times.  Whatever comes
first deletes the temporary files, and nothing that follows does anything more to them:
`UploadGuard.course_of_calls`.
-/

namespace WebDispatch

/-! ## Calls -/

/-- A call that is made while a guard is there. -/
inductive GuardCall where
  /-- The guard is asked to clean up. -/
  | cleanup
  /-- The request of the guard is cleaned up. -/
  | cleanupRequest
  /-- The parts on the request are released. -/
  | release
  deriving DecidableEq

/-- What there is after a call, and what the release answered that was made for it, if one was. -/
structure GuardMoment where
  /-- The guard. -/
  guard : UploadGuard
  /-- The storage. -/
  storage : Storage
  /-- Whether the release says that it deleted the temporary files. -/
  answer : Option Bool

/-- What a release of the parts on a request answers, if there are any. -/
def Request.releaseAnswer? (request : Request) (storage : Storage) : Option Bool :=
  request.upload?.map fun parts => (parts.release storage).1

namespace UploadGuard

/-- What the release answers that a guard makes to clean up. -/
def cleanupAnswer? (guard : UploadGuard) (storage : Storage) : Option Bool :=
  if guard.state = .parsed then guard.request.releaseAnswer? storage else none

/-- Make a call. -/
def call (guard : UploadGuard) (storage : Storage) : GuardCall → GuardMoment
  | .cleanup =>
      let (after, left) := guard.cleanup storage
      { guard := after, storage := left, answer := guard.cleanupAnswer? storage }
  | .cleanupRequest =>
      { guard
        storage := guard.request.releaseUpload storage
        answer := guard.request.releaseAnswer? storage }
  | .release =>
      match guard.request.upload? with
      | some parts =>
          let (answer, left) := parts.release storage
          { guard, storage := left, answer := some answer }
      | none => { guard, storage, answer := none }

/-- The end of a guard. -/
def last (guard : UploadGuard) (storage : Storage) : GuardMoment where
  guard := (guard.cleanup storage).1
  storage := guard.close storage
  answer := guard.cleanupAnswer? storage

/-- The moments after each of some calls, and after the end of the guard behind them. -/
def course (guard : UploadGuard) (storage : Storage) : List GuardCall → List GuardMoment
  | [] => [guard.last storage]
  | call :: rest =>
      guard.call storage call ::
        (guard.call storage call).guard.course (guard.call storage call).storage rest

/-- Cleaning up the request of a guard is releasing the parts on it. -/
theorem call_cleanupRequest (guard : UploadGuard) (storage : Storage) :
    guard.call storage .cleanupRequest = guard.call storage .release := by
  simp only [call, Request.releaseUpload, Request.releaseAnswer?]
  cases guard.request.upload? <;> rfl

end UploadGuard

/-- From one state to the next, a guard stays in its state or goes from parsed to cleaned up. -/
inductive UploadState.Moves : UploadState → UploadState → Prop where
  | stays (state : UploadState) : Moves state state
  | cleansUp : Moves .parsed .cleanedUp

theorem UploadState.Moves.parsed_or_cleanedUp {before after : UploadState}
    (moves : before.Moves after) (parsed : before = .parsed ∨ before = .cleanedUp) :
    after = .parsed ∨ after = .cleanedUp := by
  cases moves with
  | stays => exact parsed
  | cleansUp => exact .inr rfl

namespace UploadGuard

theorem moves_cleanup (guard : UploadGuard) (storage : Storage) :
    guard.state.Moves (guard.cleanup storage).1.state := by
  unfold cleanup
  split
  · next parsed =>
      rw [parsed]
      exact .cleansUp
  · exact .stays _

theorem moves_call (guard : UploadGuard) (storage : Storage) (call : GuardCall) :
    guard.state.Moves (guard.call storage call).guard.state := by
  cases call with
  | cleanup => exact guard.moves_cleanup storage
  | cleanupRequest => exact .stays _
  | release =>
      simp only [UploadGuard.call]
      split <;> exact .stays _

/-- In a course, each state follows from the one before. -/
theorem isChain_course (guard : UploadGuard) (storage : Storage) (calls : List GuardCall) :
    (guard.state :: (guard.course storage calls).map (·.guard.state)).IsChain
      UploadState.Moves := by
  induction calls generalizing guard storage with
  | nil =>
      simp only [course, last, List.map_cons, List.map_nil, List.isChain_cons_cons,
        List.isChain_singleton, and_true]
      exact guard.moves_cleanup storage
  | cons call rest ih =>
      simp only [course, List.map_cons, List.isChain_cons_cons]
      exact ⟨guard.moves_call storage call, ih _ _⟩

end UploadGuard

/-! ## Releases -/

namespace Storage

theorem read?_delete_of_not_mem {storage : Storage} {files : List Nat} {number : Nat}
    (other : number ∉ files) : (storage.delete files).read? number = storage.read? number := by
  simp only [read?, delete]
  induction storage.files with
  | nil => rfl
  | cons entry rest ih =>
      obtain ⟨first, content⟩ := entry
      by_cases same : number = first
      · subst same
        rw [List.filter_cons_of_pos (by simpa using other), List.lookup_cons_self,
          List.lookup_cons_self]
      · have apart : (number == first) = false := by simpa using same
        rw [List.lookup_cons, apart, ← ih, List.filter_cons]
        split
        · rw [List.lookup_cons, apart]
        · rfl

end Storage

namespace Parts

variable {parts : Parts} {storage : Storage}

theorem release_of_unreleased (unreleased : parts.isReleased storage = false) :
    parts.release storage = (true, { storage.delete parts.storedFiles with
      released := parts.number :: storage.released }) := by
  simp only [release, unreleased, Bool.false_eq_true, if_false]
  rfl

theorem release_again (parts : Parts) (storage : Storage) :
    parts.release (parts.release storage).2 = (false, (parts.release storage).2) :=
  if_pos (parts.isReleased_release storage)

/-- What is left of parts in a storage after the first release: no temporary file of theirs.  What
was in memory is there, and so are the files of others. -/
structure GoneFrom (parts : Parts) (start storage : Storage) : Prop where
  released : parts.isReleased storage = true
  storedCount_eq : parts.storedCount storage = 0
  not_onDisk : ∀ file ∈ parts.allFiles, file.onDisk storage = false
  read_stored : ∀ file ∈ parts.allFiles, file.inMemory = false →
    file.read storage = .error (.upload (.storage (.released file.name)))
  read_memory : ∀ file ∈ parts.allFiles, file.inMemory = true →
    file.read storage = file.read start
  read_other : ∀ number, number ∉ parts.storedFiles → storage.read? number = start.read? number

theorem read?_release_of_mem (unreleased : parts.isReleased storage = false) {number : Nat}
    (listed : number ∈ parts.storedFiles) : (parts.release storage).2.read? number = none :=
  (settled_of_unreleased unreleased).lacks_release.read?_eq listed

theorem goneFrom_release (unreleased : parts.isReleased storage = false) :
    parts.GoneFrom storage (parts.release storage).2 where
  released := parts.isReleased_release storage
  storedCount_eq := storedCount_eq_zero (settled_of_unreleased unreleased).lacks_release
  not_onDisk file listed := by
    cases content_eq : file.storedFile? with
    | none => simp [UploadedFile.onDisk, content_eq]
    | some number =>
        have stored : number ∈ parts.storedFiles :=
          List.mem_filterMap.mpr ⟨file, listed, content_eq⟩
        simp [UploadedFile.onDisk, content_eq, read?_release_of_mem unreleased stored]
  read_stored file listed not_memory := by
    cases content_eq : file.content with
    | memory bytes => simp [UploadedFile.inMemory, content_eq] at not_memory
    | stored number =>
        have stored : number ∈ parts.storedFiles :=
          List.mem_filterMap.mpr ⟨file, listed, by rw [UploadedFile.storedFile?, content_eq]⟩
        simp only [UploadedFile.read, content_eq, read?_release_of_mem unreleased stored]
  read_memory file _ in_memory := by
    cases content_eq : file.content with
    | memory bytes => simp only [UploadedFile.read, content_eq]
    | stored number => simp [UploadedFile.inMemory, content_eq] at in_memory
  read_other number other := by
    rw [release_of_unreleased unreleased]
    exact Storage.read?_delete_of_not_mem other

end Parts

namespace Storage

/-- How often a file that was there is gone at the next storage of a list. -/
def deletions (number : Nat) : List Storage → Nat
  | [] => 0
  | [_] => 0
  | before :: after :: rest =>
      (if (before.read? number).isSome ∧ (after.read? number).isNone then 1 else 0) +
        deletions number (after :: rest)

theorem deletions_eq_zero {number : Nat} {storage : Storage} {storages : List Storage}
    (same : ∀ later ∈ storages, later = storage) : deletions number storages = 0 := by
  fun_induction deletions number storages with
  | case1 => rfl
  | case2 => rfl
  | case3 before after rest ih =>
      obtain rfl : before = storage := same before (by simp)
      obtain rfl : after = before := same after (by simp)
      rw [ih fun later listed => same later (List.mem_cons_of_mem _ listed), if_neg]
      rintro ⟨found, missing⟩
      rw [Option.isNone_iff_eq_none] at missing
      simp [missing] at found

end Storage

/-- A moment at which the parts of a guard were released, and all else is as it was. -/
structure GuardMoment.LetsGo (guard : UploadGuard) (parts : Parts) (start : Storage)
    (moment : GuardMoment) : Prop where
  request_eq : moment.guard.request = guard.request
  state_eq : moment.guard.state = .parsed ∨ moment.guard.state = .cleanedUp
  storage_eq : moment.storage = (parts.release start).2

namespace UploadGuard

variable {guard : UploadGuard} {parts : Parts} {start storage : Storage} {moment : GuardMoment}

theorem cleanup_of_parsed (parsed : guard.state = .parsed) (storage : Storage) :
    guard.cleanup storage =
      ({ guard with state := .cleanedUp }, guard.request.releaseUpload storage) := by
  simp only [cleanup, parsed]

theorem cleanup_of_not_parsed (not_parsed : guard.state ≠ .parsed) (storage : Storage) :
    guard.cleanup storage = (guard, storage) := by
  unfold cleanup
  split
  · contradiction
  · rfl

theorem call_release (published : guard.request.upload? = some parts) (storage : Storage) :
    guard.call storage .release =
      ⟨guard, (parts.release storage).2, some (parts.release storage).1⟩ := by
  simp only [call, published]

/-- As long as the state of a guard is that it was parsed, cleaning up releases the parts too. -/
theorem call_cleanup_of_parsed (parsed : guard.state = .parsed)
    (published : guard.request.upload? = some parts) (storage : Storage) :
    guard.call storage .cleanup =
      ⟨{ guard with state := .cleanedUp }, (parts.release storage).2,
        some (parts.release storage).1⟩ := by
  simp only [call, cleanup_of_parsed parsed, cleanupAnswer?, parsed, if_true,
    Request.releaseUpload, Request.releaseAnswer?, published, Option.map_some]

theorem call_cleanup_of_not_parsed (not_parsed : guard.state ≠ .parsed) (storage : Storage) :
    guard.call storage .cleanup = ⟨guard, storage, none⟩ := by
  simp only [call, cleanup_of_not_parsed not_parsed, cleanupAnswer?, not_parsed, if_false]

/-- The first call releases the parts, whichever it is. -/
theorem Holds.call (holds : guard.Holds parts start) (call : GuardCall) :
    (guard.call start call).answer = some true ∧
      (guard.call start call).LetsGo guard parts start := by
  have answer_eq : (parts.release start).1 = true := by
    rw [Parts.release_of_unreleased holds.unreleased]
  cases call with
  | cleanup =>
      rw [call_cleanup_of_parsed holds.parsed holds.published, answer_eq]
      exact ⟨rfl, rfl, .inr rfl, rfl⟩
  | cleanupRequest =>
      rw [call_cleanupRequest, call_release holds.published, answer_eq]
      exact ⟨rfl, rfl, .inl holds.parsed, rfl⟩
  | release =>
      rw [call_release holds.published, answer_eq]
      exact ⟨rfl, rfl, .inl holds.parsed, rfl⟩

/-- Later calls release nothing more. -/
theorem Holds.call_again (holds : guard.Holds parts start)
    (lets_go : moment.LetsGo guard parts start) (call : GuardCall) :
    (moment.guard.call moment.storage call).answer ≠ some true ∧
      (moment.guard.call moment.storage call).LetsGo guard parts start := by
  obtain ⟨request_eq, state_eq, storage_eq⟩ := lets_go
  have published : moment.guard.request.upload? = some parts := by
    rw [request_eq, holds.published]
  have released_again : parts.release moment.storage = (false, (parts.release start).2) := by
    rw [storage_eq, Parts.release_again]
  have released : (moment.guard.call moment.storage .release).answer ≠ some true ∧
      (moment.guard.call moment.storage .release).LetsGo guard parts start := by
    rw [call_release published, released_again]
    exact ⟨by simp, request_eq, state_eq, rfl⟩
  cases call with
  | cleanup =>
      by_cases parsed : moment.guard.state = .parsed
      · rw [call_cleanup_of_parsed parsed published, released_again]
        exact ⟨by simp, request_eq, .inr rfl, rfl⟩
      · rw [call_cleanup_of_not_parsed parsed]
        exact ⟨by simp, request_eq, state_eq, storage_eq⟩
  | cleanupRequest =>
      rw [call_cleanupRequest]
      exact released
  | release => exact released

/-- The end of a guard is a last request to clean up. -/
theorem last_eq (guard : UploadGuard) (storage : Storage) :
    guard.last storage = guard.call storage .cleanup := rfl

/-- After the release, no moment of a course is one of another release. -/
theorem Holds.course_again (holds : guard.Holds parts start)
    (lets_go : moment.LetsGo guard parts start) (calls : List GuardCall) :
    ∀ later ∈ moment.guard.course moment.storage calls,
      later.answer ≠ some true ∧ later.LetsGo guard parts start := by
  induction calls generalizing moment with
  | nil =>
      have cleaned := holds.call_again lets_go .cleanup
      intro later listed
      rw [course, List.mem_singleton, last_eq] at listed
      rw [listed]
      exact cleaned
  | cons call rest ih =>
      have called := holds.call_again lets_go call
      intro later listed
      rcases List.mem_cons.mp listed with rfl | listed
      · exact called
      · exact ih called.2 later listed

/-- A course begins with the release of the parts. -/
theorem Holds.course (holds : guard.Holds parts start) (calls : List GuardCall) :
    ∃ first rest, guard.course start calls = first :: rest ∧ first.answer = some true ∧
      first.LetsGo guard parts start ∧
      ∀ later ∈ rest, later.answer ≠ some true ∧ later.LetsGo guard parts start := by
  cases calls with
  | nil =>
      obtain ⟨answer_eq, lets_go⟩ := holds.call .cleanup
      refine ⟨_, [], ?_, answer_eq, lets_go, by simp⟩
      rw [UploadGuard.course, last_eq]
  | cons call rest =>
      obtain ⟨answer_eq, lets_go⟩ := holds.call call
      exact ⟨_, _, rfl, answer_eq, lets_go, holds.course_again lets_go rest⟩

/-- The last state of a course that begins with parsed parts is that they were cleaned up. -/
theorem getLast?_course (calls : List GuardCall)
    (parsed : guard.state = .parsed ∨ guard.state = .cleanedUp) :
    ((guard.course storage calls).getLast?.map (·.guard.state)) = some .cleanedUp := by
  induction calls generalizing guard storage with
  | nil =>
      rcases parsed with parsed | cleaned_up
      · simp [course, last, cleanup_of_parsed parsed]
      · simp [course, last, cleanup_of_not_parsed, cleaned_up]
  | cons call rest ih =>
      have still := (guard.moves_call storage call).parsed_or_cleanedUp parsed
      rw [course, List.getLast?_cons, Option.map_some, ← ih still]
      have rest_ne : ∀ (other : UploadGuard) left, other.course left rest ≠ [] := by
        intro other left
        cases rest <;> simp [course]
      rw [List.getLast?_eq_some_getLast (rest_ne _ _)]
      rfl

theorem call_of_not_parsed (not_parsed : guard.state ≠ .parsed) (storage : Storage)
    (call : GuardCall) :
    (guard.call storage call).guard = guard ∧
      (guard.request.releaseAnswer? storage ≠ some true ∨ call = .cleanup →
        (guard.call storage call).storage = storage) := by
  have released : (guard.call storage .release).guard = guard ∧
      (guard.request.releaseAnswer? storage ≠ some true →
        (guard.call storage .release).storage = storage) := by
    cases published : guard.request.upload? with
    | none => simp [UploadGuard.call, published]
    | some parts =>
        rw [call_release published]
        refine ⟨rfl, fun unanswered => ?_⟩
        by_cases done : parts.isReleased storage = true
        · simp [Parts.release, done]
        · simp [Request.releaseAnswer?, published, Parts.release, done] at unanswered
  cases call with
  | cleanup =>
      rw [call_cleanup_of_not_parsed not_parsed]
      exact ⟨rfl, fun _ => rfl⟩
  | cleanupRequest =>
      rw [call_cleanupRequest]
      exact ⟨released.1, by simpa using released.2⟩
  | release => exact ⟨released.1, by simpa using released.2⟩

/-- A guard of a request that is not multipart, or that was not asked, changes with no call.  Nor
does the storage, unless calls release parts that were on the request from elsewhere. -/
theorem course_of_not_parsed (not_parsed : guard.state ≠ .parsed) (calls : List GuardCall) :
    ∀ moment ∈ guard.course start calls, moment.guard = guard ∧
      (guard.request.releaseAnswer? start ≠ some true ∨ (∀ call ∈ calls, call = .cleanup) →
        moment.storage = start) := by
  induction calls generalizing start with
  | nil =>
      intro moment listed
      obtain rfl := List.mem_singleton.mp listed
      simp [last, close, cleanup_of_not_parsed not_parsed]
  | cons call rest ih =>
      obtain ⟨guard_eq, storage_eq⟩ := call_of_not_parsed not_parsed start call
      intro moment listed
      rcases List.mem_cons.mp listed with rfl | listed
      · exact ⟨guard_eq, fun unreleased => storage_eq (unreleased.imp_right fun cleanups =>
          cleanups call List.mem_cons_self)⟩
      · rw [guard_eq] at listed
        obtain ⟨later_eq, later_storage_eq⟩ := ih moment listed
        refine ⟨later_eq, fun unreleased => ?_⟩
        have still := storage_eq (unreleased.imp_right fun cleanups =>
          cleanups call List.mem_cons_self)
        rw [still] at later_storage_eq
        exact later_storage_eq (unreleased.imp_right fun cleanups other other_listed =>
          cleanups other (List.mem_cons_of_mem _ other_listed))

/-- Whatever is called until a guard ends, and however often, its state goes from parsed to cleaned
up and changes in no other way.  Over received parts there is exactly one release that says that it
deleted their files, each of which is deleted exactly once: at that moment and from it on they are
gone, and the request, its parts and what they hold in memory are as before.  The calls on a guard
without parts change nothing about its request. -/
theorem course_of_calls (guard : UploadGuard) (start : Storage) (calls : List GuardCall) :
    (guard.state :: (guard.course start calls).map (·.guard.state)).IsChain UploadState.Moves ∧
      (∀ parts, guard.Holds parts start →
        (guard.course start calls).countP (·.answer == some true) = 1 ∧
          (∀ number ∈ parts.storedFiles,
            Storage.deletions number (start :: (guard.course start calls).map (·.storage)) = 1) ∧
          (guard.course start calls).getLast?.map (·.guard.state) = some .cleanedUp ∧
          ∃ first rest, guard.course start calls = first :: rest ∧ first.answer = some true ∧
            ∀ moment ∈ first :: rest, moment.guard.request = guard.request ∧
              moment.guard.request.upload? = some parts ∧
              parts.GoneFrom start moment.storage) ∧
      ((guard.state = .unchecked ∨ guard.state = .notMultipart) →
        ∀ moment ∈ guard.course start calls, moment.guard = guard ∧
          (guard.request.releaseAnswer? start ≠ some true ∨ (∀ call ∈ calls, call = .cleanup) →
            moment.storage = start)) := by
  refine ⟨guard.isChain_course start calls, ?_, ?_⟩
  · intro parts holds
    obtain ⟨first, rest, course_eq, answer_eq, first_lets_go, again⟩ := holds.course calls
    have lets_go : ∀ moment ∈ first :: rest, moment.LetsGo guard parts start := by
      intro moment listed
      rcases List.mem_cons.mp listed with rfl | later
      · exact first_lets_go
      · exact (again moment later).2
    refine ⟨?_, ?_, getLast?_course calls (.inl holds.parsed), first, rest, course_eq, answer_eq,
      ?_⟩
    · have none_later : rest.countP (·.answer == some true) = 0 :=
        List.countP_eq_zero.mpr fun later listed => by simpa using (again later listed).1
      rw [course_eq, List.countP_cons_of_pos (by simp [answer_eq]), none_later]
    · intro number listed
      have missing : (first.storage.read? number).isNone := by
        rw [first_lets_go.storage_eq, Parts.read?_release_of_mem holds.unreleased listed]
        rfl
      have none_later : Storage.deletions number (first.storage :: rest.map (·.storage)) = 0 := by
        apply Storage.deletions_eq_zero
        intro left left_listed
        rcases List.mem_cons.mp left_listed with rfl | later
        · exact first_lets_go.storage_eq
        · obtain ⟨moment, moment_listed, rfl⟩ := List.mem_map.mp later
          exact (again moment moment_listed).2.storage_eq
      rw [course_eq, List.map_cons, Storage.deletions,
        if_pos ⟨holds.present number listed, missing⟩, none_later]
    · intro moment listed
      obtain ⟨request_eq, -, storage_eq⟩ := lets_go moment listed
      rw [request_eq, storage_eq]
      exact ⟨rfl, holds.published, Parts.goneFrom_release holds.unreleased⟩
  · intro without_parts
    apply course_of_not_parsed _ calls
    rcases without_parts with unchecked | not_multipart <;> simp [*]

/-- The file of the form is stored, and of two calls and the end it is the first that deletes it. -/
theorem course_of_calls_note :
    ∃ guard parts storage, resolve (some { threshold := 0 }) noteRequest {} = (.ok guard, storage) ∧
      guard.Holds parts storage ∧ parts.storedFiles = [0] ∧
      (guard.course storage [.release, .cleanup]).countP (·.answer == some true) = 1 ∧
      Storage.deletions 0
        (storage :: (guard.course storage [.release, .cleanup]).map (·.storage)) = 1 := by
  have stored : (resolve (some { threshold := 0 }) noteRequest {}).1.toOption.any
      (fun guard => guard.state = .parsed ∧
        guard.request.upload?.any fun parts => parts.storedFiles = [0]) = true := by
    decide +kernel
  rcases resolved : resolve (some { threshold := 0 }) noteRequest {} with ⟨failure | guard, storage⟩
  · simp [resolved, Except.toOption] at stored
  · rw [resolved] at stored
    obtain ⟨parsed, found⟩ := of_decide_eq_true stored
    obtain ⟨parts, published, stored_eq⟩ := (Option.any_eq_true _ _).mp found
    have holds : guard.Holds parts storage := holds_resolve resolved parsed published (by simp)
    have files_eq : parts.storedFiles = [0] := of_decide_eq_true stored_eq
    obtain ⟨-, released, -⟩ := course_of_calls guard storage [.release, .cleanup]
    obtain ⟨once, deleted, -⟩ := released parts holds
    exact ⟨guard, parts, storage, rfl, holds, files_eq, once, deleted 0 (by simp [files_eq])⟩

end UploadGuard
end WebDispatch
