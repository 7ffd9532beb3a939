import WebDispatch.Proofs.Upload.Delivery

/-!
# The content types of uploads

Whether a request is an upload is decided by how its content type begins, without the blanks in
front of it and in any case; whether its body is read is decided by all of the content type.  So a
request with a well-formed multipart body may count as an upload and still be refused for its
content type: `UploadConfig.resolve_claimed` says which ones are read, and what the others are told.
-/

namespace WebDispatch

/-! ## Characters -/

theorem isAsciiGraphic_of_isTokenChar {c : Char} (token : isTokenChar c = true) :
    Text.isAsciiGraphic c = true := by
  have marks : ∀ c ∈ "!#$%&'*+-.^_`|~".toList, Text.isAsciiGraphic c = true :=
    List.all_eq_true.mp (by decide +kernel)
  simp only [isTokenChar, Bool.or_eq_true, List.contains_iff_mem] at token
  rcases token with alphanum | mark
  · have range := Text.isAlphanum_iff_toNat.mp alphanum
    simp only [Text.isAsciiGraphic, Bool.and_eq_true, decide_eq_true_eq]
    omega
  · exact marks c mark

theorem isTokenChar_of_toLower {c : Char} (token : isTokenChar c.toLower = true) :
    isTokenChar c = true := by
  rcases Text.toLower_cases c with same | ⟨upper, -⟩
  · rwa [same] at token
  · have alphanum : c.isAlphanum = true := Text.isAlphanum_iff_toNat.mpr (.inl (.inl upper))
    simp [isTokenChar, alphanum]

/-! ## Media types -/

namespace MediaType

/-- A content type with a blank in front of it. -/
def StartsBlank (contentType : String) : Prop :=
  ∃ c ∈ contentType.toList.head?, Text.isBlank c = true

/-- The media type that a content type states behind the blanks in front of it. -/
def stated? (contentType : String) : Option MediaType :=
  parse? (String.ofList (Text.trimStart Text.isBlank contentType.toList))

/-- A blank is no part of a type. -/
theorem parse?_of_startsBlank {contentType : String} (blank : StartsBlank contentType) :
    parse? contentType = none := by
  obtain ⟨c, first, c_blank⟩ := blank
  obtain ⟨rest, text_eq⟩ : ∃ rest, contentType.toList = c :: rest :=
    ⟨_, List.eq_cons_of_mem_head? first⟩
  have not_token : ¬ isTokenChar c = true := by
    intro token
    simp [Text.isBlank_of_isAsciiGraphic (isAsciiGraphic_of_isTokenChar token)] at c_blank
  rw [parse?, text_eq, List.dropWhile_cons_of_neg not_token]
  split
  · next slash =>
      rw [(List.cons.inj slash).1] at c_blank
      exact absurd c_blank (by decide)
  · rfl

theorem trimStart_of_not_startsBlank {contentType : String} (flush : ¬ StartsBlank contentType) :
    Text.trimStart Text.isBlank contentType.toList = contentType.toList := by
  cases text_eq : contentType.toList with
  | nil => rfl
  | cons c rest =>
      have not_blank : ¬ Text.isBlank c = true := fun blank =>
        flush ⟨c, by simp [text_eq], blank⟩
      rw [Text.trimStart, List.dropWhile_cons_of_neg not_blank]

theorem stated?_of_not_startsBlank {contentType : String} (flush : ¬ StartsBlank contentType) :
    stated? contentType = parse? contentType := by
  rw [stated?, trimStart_of_not_startsBlank flush, String.ofList_toList]

/-- What is read is a type and a subtype in lower case, and parameters. -/
theorem parse?_cases {text : String} {mediaType : MediaType}
    (parsed : parse? text = some mediaType) :
    mediaType.main = String.ofList ((text.toList.takeWhile isTokenChar).map Char.toLower) ∧
      (∃ rest, text.toList.dropWhile isTokenChar = '/' :: rest ∧ mediaType.sub =
        String.ofList ((parse?.subtypeOf (rest.takeWhile isTokenChar)).map Char.toLower)) ∧
      (mediaType.parameters = [] ∨
        ∃ fuel rest, parameters? fuel rest = some mediaType.parameters) := by
  simp only [parse?] at parsed
  split at parsed
  · next rest slash =>
      split at parsed
      · contradiction
      · split at parsed
        · cases parsed
          exact ⟨rfl, ⟨rest, slash, rfl⟩, .inl rfl⟩
        · split at parsed
          · contradiction
          · obtain ⟨parameters, parameters_eq, rfl⟩ := Option.map_eq_some_iff.mp parsed
            exact ⟨rfl, ⟨rest, slash, rfl⟩, .inr ⟨_, _, parameters_eq⟩⟩
        · contradiction
  · contradiction

/-- A text that begins with a type and a slash, in any case, states that type. -/
theorem main_of_prefix {text : List Char} {mediaType : MediaType}
    (parsed : parse? (String.ofList text) = some mediaType)
    (begins : "multipart/".toList <+: text.map Char.toLower) : mediaType.main = "multipart" := by
  obtain ⟨rest, lowered_eq⟩ := begins
  have literal_eq : "multipart/".toList = "multipart".toList ++ ['/'] := by decide +kernel
  rw [literal_eq, List.append_assoc, List.append_eq_map_iff] at lowered_eq
  obtain ⟨main, behind, rfl, main_eq, behind_eq⟩ := lowered_eq
  obtain ⟨slash, back, rfl, slash_eq, -⟩ := List.map_eq_cons_iff.mp behind_eq
  have main_token : ∀ c ∈ main, isTokenChar c = true := by
    intro c listed
    have token : ∀ c ∈ "multipart".toList, isTokenChar c = true :=
      List.all_eq_true.mp (by decide +kernel)
    exact isTokenChar_of_toLower (token _ (main_eq ▸ List.mem_map_of_mem listed))
  have slash_stops : isTokenChar slash = false := by
    rcases Text.toLower_cases slash with same | ⟨upper, lowered⟩
    · rw [← same, slash_eq]
      decide
    · rw [slash_eq] at lowered
      have : '/'.toNat = 47 := rfl
      omega
  obtain ⟨taken, -⟩ := FormData.takeWhile_append_cons main_token slash_stops back
  rw [(parse?_cases parsed).1, String.toList_ofList, taken, main_eq, String.ofList_toList]

/-! ### Values of parameters

A value that is read holds no control character of ASCII, so that a boundary ends no line. -/

theorem printable_of_quotedValue? {s value rest : List Char}
    (read : quotedValue? s = some (value, rest)) : ∀ c ∈ value, 31 < c.toNat := by
  unfold quotedValue? at read
  split at read
  · contradiction
  · split at read
    · contradiction
    · split at read
      · next all_quoted =>
          cases read
          intro c listed
          have c_quoted := List.all_eq_true.mp all_quoted c listed
          simp only [isQuotedChar, Bool.and_eq_true, decide_eq_true_eq] at c_quoted
          exact c_quoted.1
      · contradiction

theorem printable_of_plainValue? {s value rest : List Char}
    (read : plainValue? s = some (value, rest)) : ∀ c ∈ value, 31 < c.toNat := by
  have value_eq : value = s.takeWhile isTokenChar := by
    simp only [plainValue?] at read
    split at read
    · cases read
      rfl
    · split at read
      · contradiction
      · cases read
        rfl
    · contradiction
  intro c listed
  have token := List.mem_takeWhile_imp (value_eq ▸ listed)
  have graphic := isAsciiGraphic_of_isTokenChar token
  simp only [Text.isAsciiGraphic, Bool.and_eq_true, decide_eq_true_eq] at graphic
  omega

theorem printable_of_value? {s value rest : List Char} (read : value? s = some (value, rest)) :
    ∀ c ∈ value, 31 < c.toNat := by
  unfold value? at read
  split at read
  · obtain ⟨⟨inside, behind⟩, inside_eq, read⟩ := Option.bind_eq_some_iff.mp read
    obtain ⟨after, -, pair_eq⟩ := Option.bind_eq_some_iff.mp read
    cases pair_eq
    exact printable_of_quotedValue? inside_eq
  · exact printable_of_plainValue? read

theorem printable_of_parameter? {s rest : List Char} {parameter : MediaTypeParameter}
    (read : parameter? s = some (parameter, rest)) : ∀ c ∈ parameter.value.toList, 31 < c.toNat := by
  simp only [parameter?] at read
  split at read
  · split at read
    · contradiction
    · obtain ⟨⟨value, behind⟩, value_eq, pair_eq⟩ := Option.bind_eq_some_iff.mp read
      cases pair_eq
      rw [String.toList_ofList]
      exact printable_of_value? value_eq
  · contradiction

theorem printable_of_parameters? {fuel : Nat} {s : List Char}
    {parameters : List MediaTypeParameter} (read : parameters? fuel s = some parameters) :
    ∀ parameter ∈ parameters, ∀ c ∈ parameter.value.toList, 31 < c.toNat := by
  induction fuel generalizing s parameters with
  | zero => contradiction
  | succ fuel ih =>
      unfold parameters? at read
      split at read
      · cases read
        simp
      · obtain ⟨⟨first, behind⟩, first_eq, read⟩ := Option.bind_eq_some_iff.mp read
        obtain ⟨others, others_eq, list_eq⟩ := Option.bind_eq_some_iff.mp read
        cases list_eq
        have first_printable := printable_of_parameter? first_eq
        exact List.forall_mem_cons.mpr ⟨first_printable, ih others_eq⟩

theorem printable_of_parameter {text : String} {mediaType : MediaType}
    (parsed : parse? text = some mediaType) {name value : String}
    (carried : mediaType.parameter name = some value) : ∀ c ∈ value.toList, 31 < c.toNat := by
  obtain ⟨parameter, found, rfl⟩ := Option.map_eq_some_iff.mp carried
  have listed := List.mem_of_find?_eq_some found
  rcases (parse?_cases parsed).2.2 with none_read | ⟨fuel, rest, read⟩
  · simp [none_read] at listed
  · exact printable_of_parameters? read parameter listed

end MediaType

/-! ## Claimed requests -/

namespace FormData

theorem boundary_of_parse?_eq_none {contentType : String}
    (unread : MediaType.parse? contentType = none) :
    boundary contentType = .error .mediaTypeSyntax := by
  simp only [boundary, unread]

theorem boundary_of_form {contentType : String} {mediaType : MediaType}
    (parsed : MediaType.parse? contentType = some mediaType) (main : mediaType.main = "multipart")
    (form : mediaType.sub = "form-data") {boundary : String}
    (carried : mediaType.parameter "boundary" = some boundary) :
    FormData.boundary contentType = .ok boundary := by
  simp [FormData.boundary, parsed, main, form, carried]

theorem boundary_of_other {contentType : String} {mediaType : MediaType}
    (parsed : MediaType.parse? contentType = some mediaType) (other : mediaType.sub ≠ "form-data") :
    FormData.boundary contentType = .error .otherMediaType := by
  simp [FormData.boundary, parsed, other]

end FormData

namespace UploadConfig

variable {config : UploadConfig} {request : Request} {contentType : String}

/-- Strict or not, the content type of a request that counts as multipart begins with that type. -/
theorem prefix_of_isMultipart (content_type : request.contentType? = some contentType)
    (claimed : config.isMultipart request = true) :
    "multipart/".toList <+:
      (Text.trimStart Text.isBlank contentType.toList).map Char.toLower := by
  simp only [isMultipart, content_type, List.isPrefixOf_iff_prefix] at claimed
  refine List.IsPrefix.trans ?_ claimed
  cases config.strict
  · exact List.prefix_refl _
  · exact List.isPrefixOf_iff_prefix.mp (by decide +kernel)

/-- Without a boundary, nothing is read or stored. -/
theorem resolve_of_boundary_eq_error (content_type : request.contentType? = some contentType)
    (claimed : config.isMultipart request = true) {fault : FormFault}
    (unbounded : FormData.boundary contentType = .error fault) (storage : Storage) :
    config.resolve request storage = (.error fault.toFailure, storage) := by
  simp [resolve, claimed, content_type, parse, unbounded, FormFault.toFailure]

/-- A request that counts as multipart by its content type.  With a blank in front of it, or if it
states no media type, the request is refused for its content type, and so it is if the media type is
not that of form data.  All others are resolved to what the parts of their bodies deliver, if they
have a boundary and a well-formed body for it within the limits. -/
theorem resolve_claimed (content_type : request.contentType? = some contentType)
    (claimed : config.isMultipart request = true) (storage : Storage) :
    (MediaType.StartsBlank contentType ∨ MediaType.stated? contentType = none →
      config.resolve request storage =
        (.error (.upload (.malformed "failed to decode Content-Type")), storage)) ∧
      ∀ mediaType, ¬ MediaType.StartsBlank contentType →
        MediaType.stated? contentType = some mediaType →
        (mediaType.sub ≠ "form-data" →
          config.resolve request storage =
            (.error (.upload (.malformed "Content-Type is not multipart/form-data")), storage)) ∧
        ∀ (boundary : String) (body : MultipartBody), mediaType.sub = "form-data" →
          mediaType.parameter "boundary" = some boundary → body.WellFormed boundary →
          request.body = some (body.write boundary) →
          (body.write boundary).length ≤ config.maxUpload →
          (∀ part ∈ body.parts, ∀ most ∈ config.maxPart, part.content.length ≤ most) →
          storage.Working →
          ∃ resolved after, config.resolve request storage =
              (.ok ({ request with
                body := none
                context := request.context.set Context.uploadKey (.upload resolved) }, resolved),
              after) ∧
            Delivered (body.parts.map fun part => part.toFormPart.delivers)
              resolved.toReceivedParts after := by
  constructor
  · intro unreadable
    have unread : MediaType.parse? contentType = none := by
      by_cases blank : MediaType.StartsBlank contentType
      · exact MediaType.parse?_of_startsBlank blank
      · rw [← MediaType.stated?_of_not_startsBlank blank]
        exact unreadable.resolve_left blank
    exact resolve_of_boundary_eq_error content_type claimed
      (FormData.boundary_of_parse?_eq_none unread) storage
  · intro mediaType flush stated
    have main := MediaType.main_of_prefix stated (prefix_of_isMultipart content_type claimed)
    rw [MediaType.stated?_of_not_startsBlank flush] at stated
    constructor
    · intro other
      exact resolve_of_boundary_eq_error content_type claimed
        (FormData.boundary_of_other stated other) storage
    · intro boundary body form carried wellFormed written upload_fits part_fits working
      have unbroken := MultipartBody.unbroken_of_printable
        (MediaType.printable_of_parameter stated carried)
      have boundary_eq := FormData.boundary_of_form stated main form carried
      have parts_eq := MultipartBody.parts_write unbroken wellFormed part_fits
      obtain ⟨resolved, after, resolve_eq, delivered⟩ := config.resolve_of_parts claimed
        content_type boundary_eq written upload_fits parts_eq working
      rw [List.map_map] at delivered
      exact ⟨resolved, after, resolve_eq, delivered⟩

/-- A request with a content type and a multipart body. -/
def multipartRequest (contentType boundary : String) (body : MultipartBody) : Request where
  method := .post
  path := "/upload"
  headers := Dict.ofList [("content-type", contentType)]
  body := some (body.write boundary)

/-- A body with lines around its parts, and blanks behind a delimiter and around a value. -/
def surrounded : MultipartBody where
  preamble := Text.encode "for readers\r\n"
  parts := [
    { padding := [0x20, 0x09]
      headers := [⟨Text.encode "content-disposition", Text.encode "form-data; name=\"a\" "⟩]
      content := Text.encode "x\r\n--" }]
  epilogue := Text.encode "--\r\nno part"

/-- A body with one text. -/
def plainBody : MultipartBody where
  parts := [
    { headers := [⟨Text.encode "Content-Disposition", Text.encode " form-data; name=\"a\""⟩]
      content := [0x78] }]

/-- A content type with a quoted boundary. -/
def quotedType : String := "Multipart/Form-Data; boundary=\"a b\""

/-- The media type that it states. -/
def quotedMediaType : MediaType where
  main := "multipart"
  sub := "form-data"
  text := "multipart/form-data; boundary=\"a b\""
  parameters := [⟨"boundary", "a b", " boundary=\"a b\"".toList⟩]

/-- The boundary may be quoted, and the case of the type does not count. -/
theorem resolve_claimed_surrounded :
    ∃ taken resolved after,
      (UploadConfig.mk 1024 none 0 none true).resolve
          (multipartRequest quotedType "a b" surrounded) {} = (.ok (taken, resolved), after) ∧
      resolved.valuesOf "a" = ["x\r\n--"] := by
  have content_type : (multipartRequest quotedType "a b" surrounded).contentType? =
      some quotedType := by
    decide +kernel
  have claimed : (UploadConfig.mk 1024 none 0 none true).isMultipart
      (multipartRequest quotedType "a b" surrounded) = true := by
    decide +kernel
  have flush : ¬ MediaType.StartsBlank quotedType := by
    rintro ⟨c, first, blank⟩
    obtain rfl : 'M' = c := by simpa [quotedType] using first
    exact absurd blank (by decide)
  have stated : MediaType.stated? quotedType = some quotedMediaType := by decide +kernel
  have carried : quotedMediaType.parameter "boundary" = some "a b" := by decide +kernel
  have wellFormed : surrounded.WellFormed "a b" := by decide +kernel
  obtain ⟨-, readable⟩ := resolve_claimed content_type claimed {}
  obtain ⟨-, resolves⟩ := readable quotedMediaType flush stated
  obtain ⟨resolved, after, resolve_eq, delivered⟩ := resolves "a b" surrounded rfl carried
    wellFormed rfl (by decide +kernel) (by simp) ⟨rfl, by simp⟩
  exact ⟨_, resolved, after, resolve_eq, (delivered.fields "a").trans (by decide +kernel)⟩

/-- The media type of mixed parts. -/
def mixedMediaType : MediaType where
  main := "multipart"
  sub := "mixed"
  text := "multipart/mixed; boundary=b"
  parameters := [⟨"boundary", "b", " boundary=b".toList⟩]

/-- That a request counts as multipart does not make sure that it is not refused for its content
type. -/
theorem not_forall_claimed_resolve :
    ¬ ∀ (config : UploadConfig) (request : Request) (contentType : String) (mediaType : MediaType)
      (boundary : String) (body : MultipartBody) (storage : Storage),
      request.contentType? = some contentType → config.isMultipart request = true →
      MediaType.stated? contentType = some mediaType →
      mediaType.parameter "boundary" = some boundary → body.WellFormed boundary →
      request.body = some (body.write boundary) →
      (body.write boundary).length ≤ config.maxUpload →
      (∀ part ∈ body.parts, ∀ most ∈ config.maxPart, part.content.length ≤ most) →
      storage.Working →
      ∃ taken resolved after, config.resolve request storage = (.ok (taken, resolved), after) := by
  intro holds
  have content_type : (multipartRequest mixedMediaType.text "b" plainBody).contentType? =
      some mixedMediaType.text := by
    decide +kernel
  have claimed : ({} : UploadConfig).isMultipart
      (multipartRequest mixedMediaType.text "b" plainBody) = true := by
    decide +kernel
  have stated : MediaType.stated? mixedMediaType.text = some mixedMediaType := by decide +kernel
  have parsed : MediaType.parse? mixedMediaType.text = some mixedMediaType := by decide +kernel
  have carried : mixedMediaType.parameter "boundary" = some "b" := by decide +kernel
  have wellFormed : plainBody.WellFormed "b" := by decide +kernel
  obtain ⟨taken, resolved, after, resolve_eq⟩ := holds {} _ mixedMediaType.text mixedMediaType "b"
    plainBody {} content_type claimed stated carried wellFormed rfl (by decide +kernel) (by simp)
    ⟨rfl, by simp⟩
  have other := FormData.boundary_of_other parsed (by decide)
  rw [resolve_of_boundary_eq_error content_type claimed other] at resolve_eq
  simp at resolve_eq

end UploadConfig
end WebDispatch
