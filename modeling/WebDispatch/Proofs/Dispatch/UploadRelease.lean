import WebDispatch.Proofs.Dispatch.Stages
import WebDispatch.Proofs.Upload.StoredFiles

/-!
# The release of uploads

Parts that are on the request when its dispatch ends are released then, at whatever stage it ended.
Parts that a hook took off the request are not: their temporary files go with the last share of
them.  So a file of an upload outlives the dispatch only if something keeps a share of the parts
that were taken off: `Dispatcher.dispatch_releases_upload`.
-/

namespace WebDispatch

variable {σ : Type}

/-! ## Releasing and letting go -/

namespace Parts

variable {parts : Parts} {storage : Storage}

/-- Parts that count as released have no temporary file.  Releasing them is the only way to make
them count as released. -/
def Settled (parts : Parts) (storage : Storage) : Prop :=
  parts.isReleased storage = true → storage.Lacks parts.storedFiles

theorem settled_of_unreleased (unreleased : parts.isReleased storage = false) :
    parts.Settled storage := by
  simp [Settled, unreleased]

theorem isReleased_release (parts : Parts) (storage : Storage) :
    parts.isReleased (parts.release storage).2 = true := by
  unfold release
  split
  · next released => exact released
  · simp [isReleased]

theorem Settled.lacks_release (settled : parts.Settled storage) :
    (parts.release storage).2.Lacks parts.storedFiles := by
  unfold release
  split
  · next released => exact settled released
  · exact storage.lacks_delete parts.storedFiles

/-- Parts of which no file is there count none. -/
theorem storedCount_eq_zero (lacks : storage.Lacks parts.storedFiles) :
    parts.storedCount storage = 0 := by
  rw [storedCount, List.countP_eq_zero]
  intro file listed on_disk
  obtain ⟨number, stored, found⟩ := (Option.any_eq_true _ _).mp on_disk
  have named : number ∈ parts.storedFiles := List.mem_filterMap.mpr ⟨file, listed, stored⟩
  rw [lacks.read?_eq named] at found
  contradiction

theorem isKept_letGo (parts other : Parts) (storage : Storage) :
    parts.isKept (other.letGo storage) = parts.isKept storage := by
  unfold letGo
  split <;> rfl

theorem isReleased_letGo (parts other : Parts) (storage : Storage) :
    parts.isReleased (other.letGo storage) = parts.isReleased storage := by
  unfold letGo
  split <;> rfl

/-- The last share of parts takes their files with it. -/
theorem lacks_letGo (unkept : parts.isKept storage = false) :
    (parts.letGo storage).Lacks parts.storedFiles := by
  simp only [letGo, unkept, Bool.false_eq_true, if_false]
  exact storage.lacks_delete parts.storedFiles

end Parts

theorem Storage.Lacks.letGo {storage : Storage} {files : List Nat} (lacks : storage.Lacks files)
    (parts : Parts) : (parts.letGo storage).Lacks files := by
  unfold Parts.letGo
  split
  · exact lacks
  · exact fun entry left => lacks entry (Storage.mem_files_delete.mp left).1

namespace UploadGuard

theorem close_of_published (guard : UploadGuard) {parts : Parts} (parsed : guard.state = .parsed)
    (published : guard.request.upload? = some parts) (storage : Storage) :
    guard.close storage = (parts.release storage).2 := by
  simp only [close, cleanup, parsed, Request.releaseUpload, published]

/-- A form with a text and a file. -/
def noteRequest : Request where
  method := .post
  path := "/notes"
  headers := Dict.ofList [("content-type", "multipart/form-data; boundary=B")]
  body := some ("--B\r\nContent-Disposition: form-data; name=\"title\"\r\n\r\nA\r\n" ++
    "--B\r\nContent-Disposition: form-data; name=\"note\"; filename=\"n.txt\"\r\n\r\nabc\r\n" ++
    "--B--\r\n").toUTF8.toList

end UploadGuard

/-! ## The end of a dispatch -/

/-- How a dispatch ends for parts that were received for it from one storage to a later one.  The
mappings, the handler and the hooks left the storage `handled`. -/
structure Parts.EndsWith (parts : Parts) (before received handled : Storage) (ended : Visit σ) :
    Prop where
  /-- The files that were made are those of the parts. -/
  makes : before.Makes received parts.storedFiles
  /-- Parts of which no share is kept leave no file. -/
  noneLeft_of_unkept : parts.isKept ended.world.storage = false →
    ended.world.storage.NoneLeft before received
  /-- Parts that are still on the request are released. -/
  isReleased : ended.request.upload? = some parts → parts.isReleased ended.world.storage = true
  /-- Parts that are still on the request leave no file, also if a share of them is kept. -/
  noneLeft_of_published : ended.request.upload? = some parts → parts.Settled handled →
    parts.storedCount ended.world.storage = 0 ∧ ended.world.storage.NoneLeft before received

namespace Dispatcher

/-- How the mappings, the handler and the hooks leave a request and what outlives it. -/
def handled (dispatcher : Dispatcher σ) (visit : Visit σ) (guard : UploadGuard)
    (received : Storage) : Visit σ :=
  (dispatcher.dispatchResolved (guarded visit guard received)).2

/-- At the end of a dispatch the guard is closed, and the share goes that its request came with. -/
theorem dispatch_of_parsed {dispatcher : Dispatcher σ} {visit : Visit σ} {guard : UploadGuard}
    {received : Storage} (guard_eq : dispatcher.guardFor visit = (.ok guard, received)) :
    (dispatcher.dispatch visit).2.request = (dispatcher.handled visit guard received).request ∧
      (dispatcher.dispatch visit).2.world.storage =
        guard.request.letGoUpload
          (({ guard with request := (dispatcher.handled visit guard received).request }).close
            (dispatcher.handled visit guard received).world.storage) := by
  unfold guardFor at guard_eq
  simp only [dispatch, guard_eq]
  exact ⟨rfl, rfl⟩

theorem endsWith_dispatch {dispatcher : Dispatcher σ} {visit : Visit σ} {guard : UploadGuard}
    {received : Storage} {parts : Parts}
    (guard_eq : dispatcher.guardFor visit = (.ok guard, received)) (parsed : guard.state = .parsed)
    (published : guard.request.upload? = some parts)
    (makes : visit.world.storage.Makes received parts.storedFiles) :
    parts.EndsWith visit.world.storage received
      (dispatcher.handled visit guard received).world.storage (dispatcher.dispatch visit).2 := by
  obtain ⟨request_eq, storage_eq⟩ := dispatch_of_parsed guard_eq
  generalize dispatcher.handled visit guard received = handled at request_eq storage_eq ⊢
  have letGo_eq : ∀ storage, guard.request.letGoUpload storage = parts.letGo storage := by
    intro storage
    simp only [Request.letGoUpload, published]
  have close_eq (still_published : handled.request.upload? = some parts) :
      ({ guard with request := handled.request } : UploadGuard).close handled.world.storage =
        (parts.release handled.world.storage).2 :=
    UploadGuard.close_of_published { guard with request := handled.request } parsed
      still_published _
  rw [letGo_eq] at storage_eq
  refine ⟨makes, ?_, ?_, ?_⟩
  · intro unkept
    rw [storage_eq, Parts.isKept_letGo] at unkept
    rw [storage_eq]
    exact makes.noneLeft_of_lacks (Parts.lacks_letGo unkept)
  · intro still_published
    rw [request_eq] at still_published
    rw [storage_eq, Parts.isReleased_letGo, close_eq still_published]
    exact parts.isReleased_release _
  · intro still_published settled
    rw [request_eq] at still_published
    have lacks : (dispatcher.dispatch visit).2.world.storage.Lacks parts.storedFiles := by
      rw [storage_eq, close_eq still_published]
      exact settled.lacks_release.letGo parts
    exact ⟨Parts.storedCount_eq_zero lacks, makes.noneLeft_of_lacks lacks⟩

/-- However a dispatch ends, a temporary file that was made for its upload is left only if something
keeps a share of the parts and they were taken off the request; parts that are still on it are
released.  Nothing is left of an upload that could not be received, and receiving leaves earlier
files alone. -/
theorem dispatch_releases_upload (dispatcher : Dispatcher σ) (visit : Visit σ) :
    (∀ failure received, dispatcher.guardFor visit = (.error failure, received) →
        (dispatcher.dispatch visit).2.world.storage.NoneLeft visit.world.storage received) ∧
      (∀ guard received, dispatcher.guardFor visit = (.ok guard, received) →
        guard.state ≠ .parsed → received = visit.world.storage) ∧
      (∀ guard received, dispatcher.guardFor visit = (.ok guard, received) →
        guard.state = .parsed → ∃ parts, guard.request.upload? = some parts ∧
          parts.EndsWith visit.world.storage received
            (dispatcher.handled visit guard received).world.storage
            (dispatcher.dispatch visit).2) ∧
      ∀ entry, entry.1 < visit.world.storage.nextFile →
        (entry ∈ (dispatcher.guardFor visit).2.files ↔ entry ∈ visit.world.storage.files) := by
  rcases UploadGuard.makes_resolve dispatcher.upload
    (visit.request.exposeResolver dispatcher.localeResolver) visit.world.storage with
    ⟨guard, after, parts, resolve_eq, parsed, published, makes⟩ |
    ⟨guard, resolve_eq, not_parsed⟩ | ⟨failure, after, resolve_eq, none_left, kept⟩
  · have guard_eq : dispatcher.guardFor visit = (.ok guard, after) := resolve_eq
    rw [guard_eq]
    refine ⟨by simp, ?_, ?_, makes.kept⟩
    · rintro _ _ ⟨⟩ not_parsed
      exact absurd parsed not_parsed
    · rintro _ _ ⟨⟩ -
      exact ⟨parts, published, endsWith_dispatch guard_eq parsed published makes⟩
  · have guard_eq : dispatcher.guardFor visit = (.ok guard, visit.world.storage) := resolve_eq
    rw [guard_eq]
    refine ⟨by simp, ?_, ?_, fun _ _ => Iff.rfl⟩
    · rintro _ _ ⟨⟩ -
      rfl
    · rintro _ _ ⟨⟩ parsed
      exact absurd parsed not_parsed
  · have guard_eq : dispatcher.guardFor visit = (.error failure, after) := resolve_eq
    have dispatch_eq : (dispatcher.dispatch visit).2.world.storage = after := by
      simp only [dispatch, resolve_eq]
    rw [guard_eq, dispatch_eq]
    refine ⟨?_, by simp, by simp, kept⟩
    rintro _ _ ⟨⟩
    exact none_left

/-- A visit with a form of a text and a file. -/
def noteVisit : Visit Unit where
  request := UploadGuard.noteRequest
  world := { app := () }

/-- A dispatcher that stores the files of uploads, and whose handler keeps a share of the parts and
then changes the request. -/
def keeping (change : Request → Request) : Dispatcher Unit where
  registry := ⟨[⟨none, {
    name := "all"
    find := fun visit => (.ok (some {
      handler := ⟨0, .writer {
        name := "keep"
        handle := fun x => (.ok (), { x with
          request := change x.request
          world := { x.world with
            storage := ((x.request.upload?.map Parts.keep).getD id) x.world.storage } }) }⟩ }),
      visit) }⟩]⟩
  upload := some { threshold := 0 }

theorem handled_keeping (change : Request → Request) (visit : Visit Unit) (guard : UploadGuard)
    (received : Storage) :
    (keeping change).handled visit guard received =
      { request := change guard.request
        world := { visit.world with
          storage := ((guard.request.upload?.map Parts.keep).getD id) received } } := by
  have undated (chain : HandlerChain Unit) (request : Request) :
      lastModified? chain Adapter.writers request = none := by
    simp [lastModified?, Adapter.writers]
  have resolved (visit : Visit Unit) : (keeping change).dispatchResolved visit =
      answer _ Adapter.writers visit := rfl
  rw [handled, resolved, answer, undated]
  rfl

/-- Parts that a handler keeps and leaves on the request are released, and their file is deleted. -/
theorem dispatch_releases_upload_note :
    ∃ guard parts received, (keeping id).guardFor noteVisit = (.ok guard, received) ∧
      guard.request.upload? = some parts ∧ parts.storedFiles = [0] ∧
      parts.isKept ((keeping id).dispatch noteVisit).2.world.storage = true ∧
      parts.isReleased ((keeping id).dispatch noteVisit).2.world.storage = true ∧
      parts.storedCount ((keeping id).dispatch noteVisit).2.world.storage = 0 := by
  have stored : ((keeping id).guardFor noteVisit).1.toOption.any (fun guard =>
      guard.state = .parsed ∧ guard.request.upload?.any fun parts =>
        parts.storedFiles = [0] ∧ parts.number = 0) = true ∧
      ((keeping id).guardFor noteVisit).2.released = [] := by
    decide +kernel
  have kept : ((keeping id).dispatch noteVisit).2.world.storage.kept = [0] := by decide +kernel
  obtain ⟨-, -, ends, -⟩ := (keeping id).dispatch_releases_upload noteVisit
  rcases guard_eq : (keeping id).guardFor noteVisit with ⟨failure | guard, received⟩ <;>
    rw [guard_eq] at stored
  · simp [Except.toOption] at stored
  · obtain ⟨held, unreleased⟩ : _ ∧ received.released = [] := stored
    obtain ⟨parsed, found⟩ := of_decide_eq_true held
    obtain ⟨parts, published, ends_with⟩ := ends guard received guard_eq parsed
    rw [published, Option.any_some, decide_eq_true_eq] at found
    obtain ⟨files_eq, number_eq⟩ := found
    have still_published : ((keeping id).dispatch noteVisit).2.request.upload? = some parts := by
      rw [(dispatch_of_parsed guard_eq).1, handled_keeping]
      exact published
    have settled : parts.Settled ((keeping id).handled noteVisit guard received).world.storage := by
      apply Parts.settled_of_unreleased
      rw [handled_keeping, published]
      change parts.isReleased received = false
      simp [Parts.isReleased, unreleased]
    refine ⟨guard, parts, received, rfl, published, files_eq, ?_,
      ends_with.isReleased still_published,
      (ends_with.noneLeft_of_published still_published settled).1⟩
    simp [Parts.isKept, kept, number_eq]

/-- A handler that keeps the parts and takes them off the request leaves their file. -/
theorem not_forall_dispatch_noneLeft :
    ¬ ∀ (dispatcher : Dispatcher Unit) (visit : Visit Unit),
      (dispatcher.dispatch visit).2.world.storage.NoneLeft visit.world.storage
        (dispatcher.guardFor visit).2 := by
  intro none_left
  let dispatcher := keeping fun _ => { method := .get, path := "/" }
  have left : ((dispatcher.dispatch noteVisit).2.world.storage.files.any fun entry =>
      entry.1 < (dispatcher.guardFor noteVisit).2.nextFile) = true := by
    decide +kernel
  obtain ⟨entry, there, made⟩ := List.any_eq_true.mp left
  exact none_left dispatcher noteVisit entry there ⟨Nat.zero_le _, of_decide_eq_true made⟩

end Dispatcher
end WebDispatch
