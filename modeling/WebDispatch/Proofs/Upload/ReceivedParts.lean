import WebDispatch.Proofs.Upload.StoredFiles

/-!
# Guards of received uploads

What is stored while an upload is received stays stored: when the guard of its request is made, the
temporary files of the parts are all there, and the parts are not among those that were released.
-/

namespace WebDispatch

namespace Storage

/-- The files of the first storage are in the second one, and so are those that were made between
them. -/
structure ExtendedBy (before after : Storage) : Prop where
  grows : before.nextFile ≤ after.nextFile
  kept : ∀ number, (before.read? number).isSome → (after.read? number).isSome
  made : ∀ number, before.nextFile ≤ number → number < after.nextFile →
    (after.read? number).isSome
  nextUpload_eq : after.nextUpload = before.nextUpload
  released_eq : after.released = before.released

theorem isSome_read? (storage : Storage) (number : Nat) :
    (storage.read? number).isSome ↔ ∃ entry ∈ storage.files, entry.1 = number := by
  constructor
  · intro found
    obtain ⟨content, read_eq⟩ := Option.isSome_iff_exists.mp found
    obtain ⟨front, back, files_eq, -⟩ := List.lookup_eq_some_iff.mp read_eq
    exact ⟨(number, content), by simp [files_eq], rfl⟩
  · rintro ⟨entry, listed, rfl⟩
    rw [Option.isSome_iff_ne_none]
    intro missing
    rw [read?, List.lookup_eq_none_iff] at missing
    simpa using missing entry listed

theorem ExtendedBy.refl (storage : Storage) : storage.ExtendedBy storage where
  grows := Nat.le_refl _
  kept _ found := found
  made _ from_start before_end := absurd before_end (Nat.not_lt.mpr from_start)
  nextUpload_eq := rfl
  released_eq := rfl

theorem ExtendedBy.trans {first middle last : Storage} (one : first.ExtendedBy middle)
    (two : middle.ExtendedBy last) : first.ExtendedBy last where
  grows := Nat.le_trans one.grows two.grows
  kept number found := two.kept number (one.kept number found)
  made number from_start before_end := by
    by_cases early : number < middle.nextFile
    · exact two.kept number (one.made number from_start early)
    · exact two.made number (Nat.not_lt.mp early) before_end
  nextUpload_eq := two.nextUpload_eq.trans one.nextUpload_eq
  released_eq := two.released_eq.trans one.released_eq

theorem extendedBy_create {storage after : Storage} {content : List UInt8} {file : Nat}
    (create_eq : storage.create content = (.ok file, after)) : storage.ExtendedBy after := by
  unfold create at create_eq
  split at create_eq
  · simp only [Prod.mk.injEq, Except.ok.injEq] at create_eq
    obtain ⟨rfl, rfl⟩ := create_eq
    refine ⟨Nat.le_succ _, ?_, ?_, rfl, rfl⟩
    · intro number found
      obtain ⟨entry, listed, same⟩ := (isSome_read? _ _).mp found
      exact (isSome_read? _ _).mpr ⟨entry, List.mem_append_left _ listed, same⟩
    · intro number from_start before_end
      refine (isSome_read? _ _).mpr ⟨_, List.mem_append_right _ (List.mem_singleton.mpr rfl), ?_⟩
      exact Nat.le_antisymm from_start (Nat.lt_succ_iff.mp before_end)
  · simp at create_eq

theorem extendedBy_append (storage : Storage) (file : Nat) (content : List UInt8) :
    storage.ExtendedBy (storage.append file content) := by
  refine ⟨Nat.le_refl _, ?_, fun _ from_start before_end =>
    absurd before_end (Nat.not_lt.mpr from_start), rfl, rfl⟩
  intro number found
  obtain ⟨entry, listed, rfl⟩ := (isSome_read? _ _).mp found
  refine (isSome_read? _ _).mpr ⟨_, List.mem_map_of_mem listed, ?_⟩
  split
  · next same => exact same.symm
  · rfl

end Storage

theorem UploadedFile.extendedBy_receive (threshold : Nat) (pieces : List (List UInt8))
    (content : FileContent) (storage : Storage) :
    storage.ExtendedBy (receive threshold pieces content storage).2 := by
  fun_induction receive threshold pieces content storage with
  | case1 content => exact .refl _
  | case2 piece rest bytes storage large file after create_eq ih =>
      exact (Storage.extendedBy_create create_eq).trans ih
  | case3 piece rest bytes storage large fault after create_eq =>
      unfold Storage.create at create_eq
      split at create_eq
      · simp at create_eq
      · cases create_eq
        exact .refl storage
  | case4 piece rest bytes storage small ih => exact ih
  | case5 piece rest file storage ih => exact (storage.extendedBy_append file piece).trans ih

theorem UploadConfig.extendedBy_receiveParts (config : UploadConfig) (parts : List FormPart)
    (received : ReceivedParts) (storage : Storage) :
    storage.ExtendedBy (config.receiveParts parts received storage).2 := by
  induction parts generalizing received storage with
  | nil => exact .refl storage
  | cons part rest ih =>
      unfold receiveParts
      cases part.head.filename with
      | none => exact ih _ storage
      | some filename =>
          have received_file :=
            UploadedFile.extendedBy_receive config.threshold part.pieces (.memory []) storage
          simp only [UploadedFile.store]
          rcases receive_eq : UploadedFile.receive config.threshold part.pieces (.memory [])
            storage with ⟨fault | content, after⟩ <;> rw [receive_eq] at received_file
          · exact received_file
          · exact received_file.trans (ih _ after)

/-- The temporary files of parts that were parsed are there, and the parts are new. -/
theorem UploadConfig.held_of_parse {config : UploadConfig} {contentType : String}
    {body : List UInt8} {storage after : Storage} {parts : Parts}
    (parse_eq : config.parse contentType body storage = (.ok parts, after)) :
    (∀ number ∈ parts.storedFiles, (after.read? number).isSome) ∧
      parts.number = storage.nextUpload ∧ after.released = storage.released := by
  obtain ⟨_, _, same, makes⟩ | ⟨_, _, same, -⟩ := config.makes_parse contentType body storage
  · obtain ⟨rfl, rfl⟩ : parts = _ ∧ after = _ := by simpa [parse_eq] using same
    unfold parse at parse_eq
    rcases boundary_eq : FormData.boundary contentType with fault | boundary <;>
      simp only [boundary_eq] at parse_eq
    · simp at parse_eq
    by_cases large : config.maxUpload < body.length <;>
      simp only [large, if_true, if_false] at parse_eq
    · simp at parse_eq
    have extended :=
      config.extendedBy_receiveParts (FormData.parts boundary config.maxPart body).1 {} storage
    split at parse_eq
    · simp at parse_eq
    · simp at parse_eq
    · next received left receive_eq malformed_eq =>
        rw [receive_eq] at extended
        cases parse_eq
        refine ⟨?_, extended.nextUpload_eq, extended.released_eq⟩
        intro number listed
        obtain ⟨from_start, before_end⟩ := (makes.mem_iff number).mp listed
        exact extended.made number from_start before_end
  · simp [parse_eq] at same

namespace UploadGuard

/-- A guard of parts that were received and not released yet. -/
structure Holds (guard : UploadGuard) (parts : Parts) (storage : Storage) : Prop where
  parsed : guard.state = .parsed
  published : guard.request.upload? = some parts
  unreleased : parts.isReleased storage = false
  present : ∀ number ∈ parts.storedFiles, (storage.read? number).isSome

/-- Parsing an upload leads to such a guard if the numbers of released uploads are used up. -/
theorem holds_resolve {config : Option UploadConfig} {request : Request} {storage after : Storage}
    {guard : UploadGuard} {parts : Parts}
    (resolved : resolve config request storage = (.ok guard, after))
    (parsed : guard.state = .parsed) (published : guard.request.upload? = some parts)
    (used : ∀ number ∈ storage.released, number < storage.nextUpload) :
    guard.Holds parts after := by
  unfold resolve at resolved
  cases config with
  | none =>
      cases resolved
      contradiction
  | some config =>
      cases multipart : config.isMultipart request with
      | false =>
          simp only [multipart, Bool.false_eq_true, if_false] at resolved
          cases resolved
          contradiction
      | true =>
          simp only [multipart, if_true, UploadConfig.resolve] at resolved
          rcases parse_eq : config.parse (request.contentType?.getD "") (request.body.getD [])
            storage with ⟨fault | received, left⟩ <;> simp only [parse_eq] at resolved
          · simp at resolved
          · cases resolved
            obtain rfl : received = parts := by
              rwa [Request.upload?_publish, Option.some.injEq] at published
            obtain ⟨present, number_eq, released_eq⟩ := UploadConfig.held_of_parse parse_eq
            refine ⟨parsed, published, ?_, present⟩
            rw [Parts.isReleased, released_eq, number_eq]
            simpa using fun listed => Nat.lt_irrefl _ (used _ listed)

end UploadGuard
end WebDispatch
