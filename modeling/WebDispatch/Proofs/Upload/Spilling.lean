import WebDispatch.Proofs.Upload.StoredFiles

/-!
# Files that outgrow the memory

While a file is received its bytes are in memory as long as they are few enough, and from the piece
on that makes them too many all of them are in one temporary file.  The invariant is that what is in
memory is within the threshold, so where the bytes end up depends on all of them together and not on
how they were cut into pieces.
-/

namespace WebDispatch

namespace Storage

/-- Files can be made, and the numbers of those that exist are used up. -/
structure Working (storage : Storage) : Prop where
  available : storage.available = true
  number_lt : ∀ entry ∈ storage.files, entry.1 < storage.nextFile

/-- What can be read in one storage can be read in the other. -/
def KeptIn (before after : Storage) : Prop :=
  ∀ number bytes, before.read? number = some bytes → after.read? number = some bytes

/-- A storage with one more file, which gets the next number. -/
def withFile (storage : Storage) (content : List UInt8) : Storage :=
  { storage with
    files := storage.files ++ [(storage.nextFile, content)]
    nextFile := storage.nextFile + 1 }

/-- Those files that exist stay as they are. -/
theorem keptIn_withFile (storage : Storage) (content : List UInt8) :
    storage.KeptIn (storage.withFile content) := by
  intro number bytes found
  rw [read?] at found ⊢
  rw [withFile, List.lookup_append, found, Option.some_or]

namespace Working

variable {storage : Storage}

theorem create_eq (working : storage.Working) (content : List UInt8) :
    storage.create content = (.ok storage.nextFile, storage.withFile content) :=
  if_pos working.available

theorem withFile (working : storage.Working) (content : List UInt8) :
    (storage.withFile content).Working := by
  refine ⟨working.available, ?_⟩
  intro entry listed
  rcases List.mem_append.mp listed with listed | listed
  · exact Nat.lt_succ_of_lt (working.number_lt entry listed)
  · rw [List.mem_singleton.mp listed]
    exact Nat.lt_succ_self _

theorem read?_withFile (working : storage.Working) (content : List UInt8) :
    (storage.withFile content).read? storage.nextFile = some content := by
  have unused : storage.files.lookup storage.nextFile = none := by
    rw [List.lookup_eq_none_iff]
    intro entry listed
    have used := working.number_lt entry listed
    simp only [bne_iff_ne, ne_eq]
    omega
  rw [read?, Storage.withFile, List.lookup_append, unused, Option.none_or, List.lookup_cons_self]

/-- What is appended to the new file leaves the files before it as they are. -/
theorem append_withFile (working : storage.Working) (content more : List UInt8) :
    (storage.withFile content).append storage.nextFile more =
      storage.withFile (content ++ more) := by
  have earlier : (storage.files.map fun entry =>
      if entry.1 = storage.nextFile then (storage.nextFile, entry.2 ++ more) else entry) =
        storage.files :=
    (List.map_congr_left fun entry listed =>
      if_neg (Nat.ne_of_lt (working.number_lt entry listed))).trans (List.map_id' _)
  simp [Storage.withFile, append, earlier]

end Working
end Storage

namespace UploadedFile

/-- Where the bytes of a file belong, and the storage with them. -/
def placed (threshold : Nat) (bytes : List UInt8) (storage : Storage) : FileContent × Storage :=
  if bytes.length ≤ threshold then (.memory bytes, storage)
  else (.stored storage.nextFile, storage.withFile bytes)

theorem working_placed {storage : Storage} (working : storage.Working) (threshold : Nat)
    (bytes : List UInt8) : (placed threshold bytes storage).2.Working := by
  unfold placed
  split
  · exact working
  · exact working.withFile bytes

theorem keptIn_placed (threshold : Nat) (bytes : List UInt8) (storage : Storage) :
    storage.KeptIn (placed threshold bytes storage).2 := by
  unfold placed
  split
  · exact fun _ _ found => found
  · exact storage.keptIn_withFile bytes

/-- What is received behind bytes in memory is placed together with them. -/
theorem receive_eq_placed {threshold : Nat} {storage : Storage} (working : storage.Working)
    (pieces : List (List UInt8)) {bytes : List UInt8} (within : bytes.length ≤ threshold) :
    receive threshold pieces (.memory bytes) storage =
      (placed threshold (bytes ++ pieces.flatten) storage).map .ok id := by
  induction pieces generalizing bytes with
  | nil => simp [receive, placed, within]
  | cons piece rest ih =>
      rw [receive, List.flatten_cons, ← List.append_assoc]
      by_cases large : threshold < (bytes ++ piece).length
      · have all_large : ¬ (bytes ++ piece ++ rest.flatten).length ≤ threshold := by
          rw [List.length_append]
          omega
        -- The file begins with all that was in memory, and the other pieces go behind it.
        rw [if_pos large, working.create_eq, placed, if_neg all_large]
        simp only [receive_stored, working.append_withFile, Prod.map_apply, id_eq]
      · rw [if_neg large]
        exact ih (Nat.not_lt.mp large)

theorem receivedSize_stored (pieces : List (List UInt8)) (number : Nat) :
    receivedSize pieces (.stored number) = pieces.flatten.length := by
  rw [receivedSize, List.length_flatten, List.sum_eq_foldl, List.foldl_map]

theorem receivedSize_placed (threshold : Nat) (pieces : List (List UInt8)) (storage : Storage) :
    receivedSize pieces (placed threshold pieces.flatten storage).1 = pieces.flatten.length := by
  unfold placed
  split
  · rfl
  · exact receivedSize_stored pieces storage.nextFile

/-- All bytes of a file are placed, however they were cut into pieces. -/
theorem store_eq_placed (threshold : Nat) (name : String) (filename contentType : Option String)
    (pieces : List (List UInt8)) {storage : Storage} (working : storage.Working) :
    store threshold name filename contentType pieces storage =
      (.ok {
        name, filename, contentType
        size := pieces.flatten.length
        content := (placed threshold pieces.flatten storage).1 },
        (placed threshold pieces.flatten storage).2) := by
  have received : receive threshold pieces (.memory []) storage = _ :=
    receive_eq_placed working pieces (Nat.zero_le threshold)
  rw [List.nil_append] at received
  simp only [store, received, Prod.map, id_eq, receivedSize_placed]

/-- A file was received whole: it has the size of the bytes and they are read back, and where they
are is in one temporary file that was made for them if they are more than the threshold, and in
memory otherwise.  Nothing else changed from one storage to the other. -/
structure ReceivedWhole (threshold : Nat) (bytes : List UInt8) (before after : Storage)
    (file : UploadedFile) : Prop where
  size_eq : file.size = bytes.length
  read_eq : file.read after = .ok bytes
  inMemory_iff : file.inMemory = true ↔ bytes.length ≤ threshold
  kept : bytes.length ≤ threshold → after = before
  spilled : threshold < bytes.length → file.storedFile? = some before.nextFile ∧
    after = { before with
      files := before.files ++ [(before.nextFile, bytes)]
      nextFile := before.nextFile + 1 }

theorem receivedWhole_placed {threshold : Nat} {bytes : List UInt8} {storage : Storage}
    (working : storage.Working) {file : UploadedFile} (size_eq : file.size = bytes.length)
    (content_eq : file.content = (placed threshold bytes storage).1) :
    file.ReceivedWhole threshold bytes storage (placed threshold bytes storage).2 := by
  by_cases small : bytes.length ≤ threshold
  · rw [placed, if_pos small] at content_eq ⊢
    refine ⟨size_eq, ?_, ?_, fun _ => rfl, fun large => absurd small (Nat.not_le.mpr large)⟩
    · simp only [read, content_eq]
    · simp only [inMemory, content_eq, small]
  · rw [placed, if_neg small] at content_eq ⊢
    refine ⟨size_eq, ?_, ?_, fun within => absurd within small, fun _ => ⟨?_, rfl⟩⟩
    · simp only [read, content_eq, working.read?_withFile]
    · simp only [inMemory, content_eq, small, Bool.false_eq_true]
    · simp only [storedFile?, content_eq]

/-- A file that comes in pieces is received whole, and it depends on the pieces only through what
they are together. -/
theorem store_of_pieces (threshold : Nat) (name : String) (filename contentType : Option String)
    (pieces : List (List UInt8)) {storage : Storage} (working : storage.Working) :
    ∃ file after, store threshold name filename contentType pieces storage = (.ok file, after) ∧
      file.name = name ∧ file.filename = filename ∧ file.contentType = contentType ∧
      file.ReceivedWhole threshold pieces.flatten storage after ∧
      ∀ others : List (List UInt8), others.flatten = pieces.flatten →
        store threshold name filename contentType others storage = (.ok file, after) := by
  refine ⟨_, _, store_eq_placed threshold name filename contentType pieces working, rfl, rfl, rfl,
    receivedWhole_placed working rfl rfl, ?_⟩
  intro others same
  rw [store_eq_placed threshold name filename contentType others working, same]

/-- Two bytes may be in memory and the third one comes after an empty piece, so a second file is
made for all three. -/
theorem store_of_pieces_spilled :
    ∃ file after, store 2 "doc" (some "a.txt") none [[0x61, 0x62], [], [0x63]]
        { files := [(0, [0x78])], nextFile := 1 } = (.ok file, after) ∧
      file.size = 3 ∧ file.read after = .ok [0x61, 0x62, 0x63] ∧ ¬ file.inMemory = true ∧
      after.files = [(0, [0x78]), (1, [0x61, 0x62, 0x63])] := by
  have working : Storage.Working { files := [(0, [0x78])], nextFile := 1 } := ⟨rfl, by simp⟩
  obtain ⟨file, after, stored, -, -, -, whole, -⟩ :=
    store_of_pieces 2 "doc" (some "a.txt") none [[0x61, 0x62], [], [0x63]] working
  refine ⟨file, after, stored, whole.size_eq, whole.read_eq, ?_, ?_⟩
  · rw [whole.inMemory_iff]
    decide
  · rw [(whole.spilled (by decide)).2]
    rfl

end UploadedFile
end WebDispatch
