import WebDispatch.Upload.Guard

/-!
# The temporary files of an upload

Storage numbers the files that it makes, so those that are made while an upload is received are
those from one number up to another.  They are exactly the files that the received parts name, which
is why nothing is left once those are not there any more.
-/

namespace WebDispatch

namespace Storage

/-- From one storage to a later one, the files with the given numbers were made, and those that were
there before stayed. -/
structure Makes (before after : Storage) (files : List Nat) : Prop where
  grows : before.nextFile ≤ after.nextFile
  mem_iff : ∀ number, number ∈ files ↔ before.nextFile ≤ number ∧ number < after.nextFile
  kept : ∀ entry, entry.1 < before.nextFile → (entry ∈ after.files ↔ entry ∈ before.files)

/-- None of the files is there of those that were made from one storage to a later one. -/
def NoneLeft (storage before after : Storage) : Prop :=
  ∀ entry ∈ storage.files, ¬ (before.nextFile ≤ entry.1 ∧ entry.1 < after.nextFile)

/-- None of the files with the given numbers is there. -/
def Lacks (storage : Storage) (files : List Nat) : Prop :=
  ∀ entry ∈ storage.files, entry.1 ∉ files

theorem mem_files_delete {storage : Storage} {files : List Nat} {entry : Nat × List UInt8} :
    entry ∈ (storage.delete files).files ↔ entry ∈ storage.files ∧ entry.1 ∉ files := by
  simp [delete]

theorem lacks_delete (storage : Storage) (files : List Nat) : (storage.delete files).Lacks files :=
  fun _ left => (mem_files_delete.mp left).2

theorem Lacks.read?_eq {storage : Storage} {files : List Nat} (lacks : storage.Lacks files)
    {file : Nat} (listed : file ∈ files) : storage.read? file = none := by
  rw [read?, List.lookup_eq_none_iff]
  intro entry there
  rw [bne_iff_ne]
  rintro rfl
  exact lacks entry there listed

namespace Makes

theorem refl (storage : Storage) : storage.Makes storage [] where
  grows := Nat.le_refl _
  mem_iff number := by simp
  kept _ _ := Iff.rfl

theorem trans {first middle last : Storage} {files more : List Nat}
    (one : first.Makes middle files) (two : middle.Makes last more) :
    first.Makes last (files ++ more) where
  grows := Nat.le_trans one.grows two.grows
  mem_iff number := by
    have grows := one.grows
    have grows_more := two.grows
    rw [List.mem_append, one.mem_iff, two.mem_iff]
    omega
  kept entry earlier :=
    (two.kept entry (Nat.lt_of_lt_of_le earlier one.grows)).trans (one.kept entry earlier)

/-- None of the files is left that were made if those with their numbers are not there. -/
theorem noneLeft_of_lacks {before after storage : Storage} {files : List Nat}
    (makes : before.Makes after files) (lacks : storage.Lacks files) :
    storage.NoneLeft before after :=
  fun entry there made => lacks entry there ((makes.mem_iff entry.1).mpr made)

/-- Deleting the files that were made leaves those that were there before. -/
theorem kept_delete {before after : Storage} {files : List Nat} (makes : before.Makes after files)
    (entry : Nat × List UInt8) (earlier : entry.1 < before.nextFile) :
    entry ∈ (after.delete files).files ↔ entry ∈ before.files := by
  have not_made : entry.1 ∉ files := fun made =>
    Nat.not_le.mpr earlier ((makes.mem_iff entry.1).mp made).1
  rw [mem_files_delete, and_iff_left not_made, makes.kept entry earlier]

end Makes

theorem append_append (storage : Storage) (file : Nat) (content more : List UInt8) :
    (storage.append file content).append file more = storage.append file (content ++ more) := by
  simp only [append, List.map_map]
  congr 2
  funext entry
  by_cases same : entry.1 = file <;> simp [same]

theorem append_nil (storage : Storage) (file : Nat) : storage.append file [] = storage := by
  have entries_eq : (fun entry : Nat × List UInt8 =>
      if entry.1 = file then (file, entry.2 ++ []) else entry) = id := by
    funext entry
    by_cases same : entry.1 = file
    · simp [← same]
    · simp [same]
  rw [append, entries_eq, List.map_id]

end Storage

/-! ## Receiving one file -/

namespace UploadedFile

/-- A content that is in a temporary file stays there, and all pieces are appended to the file. -/
theorem receive_stored (threshold : Nat) (pieces : List (List UInt8)) (file : Nat)
    (storage : Storage) :
    receive threshold pieces (.stored file) storage =
      (.ok (.stored file), storage.append file pieces.flatten) := by
  induction pieces generalizing storage with
  | nil => rw [receive, List.flatten_nil, Storage.append_nil]
  | cons piece rest ih => rw [receive, ih, Storage.append_append, List.flatten_cons]

theorem makes_create_append {storage : Storage} (available : storage.available = true)
    (content more : List UInt8) :
    ∃ after, storage.create content = (.ok storage.nextFile, after) ∧
      storage.Makes (after.append storage.nextFile more) [storage.nextFile] := by
  refine ⟨_, by simp only [Storage.create, available, if_true]; rfl, ?_⟩
  refine ⟨Nat.le_succ _, ?_, ?_⟩
  · intro number
    simp only [List.mem_singleton, Storage.append]
    omega
  · intro entry earlier
    have other : entry.1 ≠ storage.nextFile := Nat.ne_of_lt earlier
    simp only [Storage.append, List.map_append, List.map_cons, List.map_nil, if_true,
      List.mem_append, List.mem_map, List.mem_singleton]
    constructor
    · rintro (⟨plain, listed, rfl⟩ | rfl)
      · by_cases same : plain.1 = storage.nextFile
        · simp [same] at other
        · simpa [same] using listed
      · exact absurd rfl other
    · intro listed
      exact .inl ⟨entry, listed, by simp [other]⟩

/-- A content that is in memory stays there, moves to a temporary file that is made for it, or is
lost without a file. -/
theorem receive_memory (threshold : Nat) (pieces : List (List UInt8)) (bytes : List UInt8)
    (storage : Storage) :
    (∃ held, receive threshold pieces (.memory bytes) storage = (.ok (.memory held), storage)) ∨
      (∃ after, receive threshold pieces (.memory bytes) storage =
          (.ok (.stored storage.nextFile), after) ∧ storage.Makes after [storage.nextFile]) ∨
      ∃ fault, receive threshold pieces (.memory bytes) storage = (.error fault, storage) := by
  induction pieces generalizing bytes with
  | nil => exact .inl ⟨bytes, rfl⟩
  | cons piece rest ih =>
      rw [receive]
      by_cases large : threshold < (bytes ++ piece).length
      · rw [if_pos large]
        cases available : storage.available with
        | true =>
            obtain ⟨created, create_eq, makes⟩ :=
              makes_create_append available (bytes ++ piece) rest.flatten
            refine .inr (.inl ⟨_, ?_, makes⟩)
            rw [create_eq]
            exact receive_stored threshold rest storage.nextFile created
        | false =>
            refine .inr (.inr ⟨.unavailable, ?_⟩)
            simp [Storage.create, available]
      · rw [if_neg large]
        exact ih (bytes ++ piece)

/-- Storing a file makes the temporary file that the result names, if it names one, and none if it
fails. -/
theorem makes_store (threshold : Nat) (name : String) (filename contentType : Option String)
    (pieces : List (List UInt8)) (storage : Storage) :
    (∃ file after, store threshold name filename contentType pieces storage = (.ok file, after) ∧
        storage.Makes after file.storedFile?.toList) ∨
      ∃ fault, store threshold name filename contentType pieces storage =
        (.error fault, storage) := by
  unfold store
  rcases receive_memory threshold pieces [] storage with
    ⟨held, received⟩ | ⟨after, received, makes⟩ | ⟨fault, received⟩ <;> rw [received]
  · exact .inl ⟨_, _, rfl, .refl storage⟩
  · exact .inl ⟨_, _, rfl, makes⟩
  · exact .inr ⟨fault, rfl⟩

end UploadedFile

/-! ## Receiving parts -/

theorem Dict.mem_flatMap_put {α : Type} (key : String) (value member : α)
    (entries : List (String × List α)) :
    member ∈ (Dict.put key ((entries.lookup key).getD [] ++ [value]) entries).flatMap Prod.snd ↔
      member ∈ entries.flatMap Prod.snd ∨ member = value := by
  induction entries with
  | nil => simp [Dict.put]
  | cons entry rest ih =>
      obtain ⟨first, values⟩ := entry
      by_cases same : first = key
      · subst same
        simp only [Dict.put, List.lookup_cons_self, Option.getD_some, if_true, List.flatMap_cons,
          List.mem_append, List.mem_singleton]
        exact or_right_comm
      · have other : (key == first) = false := by simpa using Ne.symm same
        simp only [Dict.put, List.lookup_cons, other, same, if_false, List.flatMap_cons,
          List.mem_append, ih]
        exact or_assoc.symm

namespace ReceivedParts

theorem mem_storedFiles_push (received : ReceivedParts) (name : String) (file : UploadedFile)
    (number : Nat) :
    number ∈ { received with files := received.files.push name file }.storedFiles ↔
      number ∈ received.storedFiles ∨ number ∈ file.storedFile?.toList := by
  simp only [storedFiles, allFiles, Dict.push, Dict.insert, Dict.get?, List.mem_filterMap,
    Dict.mem_flatMap_put, Option.mem_toList]
  constructor
  · rintro ⟨member, listed | rfl, stored⟩
    · exact .inl ⟨member, listed, stored⟩
    · exact .inr stored
  · rintro (⟨member, listed, stored⟩ | stored)
    · exact ⟨member, .inl listed, stored⟩
    · exact ⟨file, .inr rfl, stored⟩

end ReceivedParts

namespace UploadConfig

/-- While parts are received, the files that are made are those that the received parts come to
name, also if a part cannot be stored. -/
theorem makes_receiveParts (config : UploadConfig) (parts : List FormPart)
    (received : ReceivedParts) (storage : Storage) :
    ∃ made, storage.Makes (config.receiveParts parts received storage).2 made ∧
      ∀ number, number ∈ (config.receiveParts parts received storage).1.2.storedFiles ↔
        number ∈ received.storedFiles ∨ number ∈ made := by
  induction parts generalizing received storage with
  | nil => exact ⟨[], .refl storage, by simp [receiveParts]⟩
  | cons part rest ih =>
      unfold receiveParts
      cases part.head.filename with
      | none =>
          exact ih { received with fields := received.fields.push part.name part.text } storage
      | some filename =>
          rcases UploadedFile.makes_store config.threshold part.name (some filename)
            (part.head.mediaType.map MediaType.text) part.pieces storage with
            ⟨file, after, store_eq, makes⟩ | ⟨fault, store_eq⟩ <;> simp only [store_eq]
          · obtain ⟨made, rest_makes, mem_iff⟩ :=
              ih { received with files := received.files.push part.name file } after
            refine ⟨_, makes.trans rest_makes, ?_⟩
            intro number
            rw [mem_iff, received.mem_storedFiles_push, List.mem_append, or_assoc]
          · exact ⟨[], .refl storage, by simp⟩

/-- Parsing a body makes the files that its parts name, and leaves none after a fault. -/
theorem makes_parse (config : UploadConfig) (contentType : String) (body : List UInt8)
    (storage : Storage) :
    (∃ parts after, config.parse contentType body storage = (.ok parts, after) ∧
        storage.Makes after parts.storedFiles) ∨
      ∃ fault after, config.parse contentType body storage = (.error fault, after) ∧
        after.NoneLeft storage after ∧
        ∀ entry, entry.1 < storage.nextFile → (entry ∈ after.files ↔ entry ∈ storage.files) := by
  have untouched : storage.NoneLeft storage storage :=
    fun _ _ made => Nat.not_lt.mpr made.1 made.2
  unfold parse
  rcases FormData.boundary contentType with fault | boundary
  · exact .inr ⟨_, _, rfl, untouched, fun _ _ => Iff.rfl⟩
  by_cases large : config.maxUpload < body.length
  · simp only [large, if_true]
    exact .inr ⟨_, _, rfl, untouched, fun _ _ => Iff.rfl⟩
  simp only [large, if_false]
  rcases FormData.parts boundary config.maxPart body with ⟨parts, malformed⟩
  obtain ⟨made, makes, mem_iff⟩ := config.makes_receiveParts parts {} storage
  have makes_received : storage.Makes (config.receiveParts parts {} storage).2
      (config.receiveParts parts {} storage).1.2.storedFiles := by
    refine ⟨makes.grows, ?_, makes.kept⟩
    intro number
    rw [mem_iff, ← makes.mem_iff]
    simp [ReceivedParts.storedFiles, ReceivedParts.allFiles, Dict.empty]
  rcases receive_eq : config.receiveParts parts {} storage with ⟨⟨stopped, received⟩, after⟩
  rw [receive_eq] at makes_received
  have deleted := And.intro
    (makes_received.noneLeft_of_lacks (after.lacks_delete received.storedFiles))
    makes_received.kept_delete
  cases stopped with
  | some fault => exact .inr ⟨_, _, rfl, deleted⟩
  | none =>
      cases malformed with
      | some fault => exact .inr ⟨_, _, rfl, deleted⟩
      | none => exact .inl ⟨_, _, rfl, makes_received.grows, makes_received.mem_iff,
          makes_received.kept⟩

end UploadConfig

/-! ## Guards -/

theorem Request.upload?_publish (request : Request) (parts : Parts) :
    (request.setAttribute Context.uploadKey (.upload parts)).upload? = some parts := by
  simp [upload?, setAttribute, Context.set, Context.get?, Attribute.upload?]

namespace UploadGuard

/-- The request of a guard publishes parts that name the files that were made for it, or it has no
upload and no file was made.  Where there is no guard, nothing is left of the files. -/
theorem makes_resolve (config : Option UploadConfig) (request : Request) (storage : Storage) :
    (∃ guard after parts, resolve config request storage = (.ok guard, after) ∧
        guard.state = .parsed ∧ guard.request.upload? = some parts ∧
        storage.Makes after parts.storedFiles) ∨
      (∃ guard, resolve config request storage = (.ok guard, storage) ∧ guard.state ≠ .parsed) ∨
      ∃ failure after, resolve config request storage = (.error failure, after) ∧
        after.NoneLeft storage after ∧
        ∀ entry, entry.1 < storage.nextFile → (entry ∈ after.files ↔ entry ∈ storage.files) := by
  unfold resolve
  cases config with
  | none => exact .inr (.inl ⟨_, rfl, by simp⟩)
  | some config =>
      cases multipart : config.isMultipart request with
      | false =>
          simp only [multipart, Bool.false_eq_true, if_false]
          exact .inr (.inl ⟨_, rfl, by simp⟩)
      | true =>
          simp only [multipart, if_true, UploadConfig.resolve]
          rcases config.makes_parse (request.contentType?.getD "") (request.body.getD []) storage
            with ⟨parts, after, parse_eq, makes⟩ | ⟨fault, after, parse_eq, none_left⟩ <;>
            simp only [parse_eq]
          · exact .inl ⟨_, _, parts, rfl, rfl, Request.upload?_publish _ parts, makes⟩
          · exact .inr (.inr ⟨_, _, rfl, none_left⟩)

end UploadGuard
end WebDispatch
