import WebDispatch.Proofs.Pattern.SegmentReading

/-!
# The variables of a path

The captures of a pattern of characters and variables spell the path: each character stands for
itself, and each variable holds a piece without slashes: `PathPattern.captures_of_elements`.  If the
variables take whole segments of the pattern, the path has as many segments, and each variable holds
the segment of the path at its place: `PathPattern.captures_of_segments`.
-/

namespace WebDispatch

namespace PathPattern

open Pattern

/-! ### Compiling elements -/

/-- No element ends in a backslash that escapes what stands behind it. -/
theorem not_escapesNext_write {elements : List Element}
    (wellFormed : ∀ e ∈ elements, e.WellFormed) :
    ¬ EscapesNext (elements.flatMap Element.write) := by
  induction elements using List.reverseRecOn with
  | nil => decide
  | append_singleton front element ih =>
      have front_even := ih fun e listed => wellFormed e (List.mem_append_left _ listed)
      have last := wellFormed element (by simp)
      rw [List.flatMap_append, List.flatMap_singleton]
      cases element with
      | literal c escaped =>
          by_cases backslash : c = '\\'
          · subst backslash
            cases escaped with
            | false => exact absurd (show '\\' ∈ Element.special by decide) last
            | true =>
                simp [EscapesNext, Element.write, Nat.add_assoc] at front_even ⊢
                omega
          · cases escaped <;> simp [EscapesNext, Element.write, backslash]
      | named name => simp [EscapesNext, Element.write]

/-- The pattern that elements are the written form of searches by their instructions. -/
theorem program_of_compile {p : String} {elements : List Element}
    (wellFormed : ∀ e ∈ elements, e.WellFormed)
    (written : stripAnchors p.toList = elements.flatMap Element.write) {pattern : PathPattern}
    (compiled : compile p = .ok pattern) :
    pattern.program = (anchoredCode elements).toArray ∧
      (elements.filterMap Element.name?).Nodup := by
  have plain := not_escapesNext_write wellFormed
  rw [← written] at plain
  obtain ⟨-, e, parsed, rfl⟩ := (compile_eq_ok plain pattern).mp compiled
  obtain ⟨whole, denotes, -, -, rfl⟩ := parse_eq_ok.mp parsed
  rw [String.toList_ofList, written] at denotes
  obtain ⟨code_eq, distinct⟩ := code_of_denotes wellFormed denotes
  exact ⟨congrArg List.toArray code_eq, distinct⟩

end PathPattern

namespace Pattern

/-- Elements match a text one after the other, and variables take pieces of it. -/
inductive Spells : List Element → List Char → List (String × List Char) → Prop
  | nil : Spells [] [] []
  | literal {c : Char} {escaped : Bool} {elements : List Element} {text : List Char}
      {taken : List (String × List Char)} (rest : Spells elements text taken) :
      Spells (.literal c escaped :: elements) (c :: text) taken
  | named {name piece : List Char} {elements : List Element} {text : List Char}
      {taken : List (String × List Char)} (some : piece ≠ []) (inside : '/' ∉ piece)
      (rest : Spells elements text taken) :
      Spells (.named name :: elements) (piece ++ text) ((String.ofList name, piece) :: taken)

theorem Spells.names_eq {elements : List Element} {text : List Char}
    {taken : List (String × List Char)} (spells : Spells elements text taken) :
    taken.map Prod.fst = elements.filterMap Element.name? := by
  induction spells with
  | nil => rfl
  | literal _ ih => exact ih
  | named _ _ _ ih => simp [Element.name?, ih]

/-- The piece of a text between two positions. -/
def between (text : List Char) (span : Nat × Nat) : List Char :=
  (text.drop span.1).take (span.2 - span.1)

/-- Elements match a text behind a position, and the groups of their variables hold what these
take. -/
structure Follows (text : List Char) (elements : List Element) (before after : Marks)
    (piece : List Char) (spans : List (String × (Nat × Nat))) : Prop where
  spells : Spells elements piece (spans.map fun (name, span) => (name, between text span))
  stands : piece <+: text.drop before.position
  position_eq : after.position = before.position + piece.length
  held_eq : after.held = before.held.insertAll spans

theorem follows_nil (text : List Char) (marks : Marks) : Follows text [] marks marks [] [] :=
  ⟨.nil, List.nil_prefix, rfl, rfl⟩

theorem Spells.append {front back : List Element} {one two : List Char}
    {taken more : List (String × List Char)} (first : Spells front one taken)
    (second : Spells back two more) : Spells (front ++ back) (one ++ two) (taken ++ more) := by
  induction first with
  | nil => exact second
  | literal _ ih => exact .literal ih
  | @named name piece elements text taken some inside _ ih =>
      rw [List.append_assoc]
      exact .named some inside ih

theorem Follows.append {text : List Char} {front back : List Element} {before middle after : Marks}
    {one two : List Char} {spans more : List (String × (Nat × Nat))}
    (first : Follows text front before middle one spans)
    (second : Follows text back middle after two more) :
    Follows text (front ++ back) before after (one ++ two) (spans ++ more) where
  spells := by
    rw [List.map_append]
    exact first.spells.append second.spells
  stands := prefix_drop_append first.stands (first.position_eq ▸ second.stands)
  position_eq := by
    rw [second.position_eq, first.position_eq, List.length_append, Nat.add_assoc]
  held_eq := by rw [second.held_eq, first.held_eq, Dict.insertAll_append]

theorem guides_element (text : List Char) (element : Element) :
    Guides text.toArray element.code fun before after =>
      ∃ piece spans, Follows text [element] before after piece spans := by
  cases element with
  | literal c escaped =>
      refine (guides_take text (.single c)).mono fun before after => ?_
      rintro ⟨d, inside, stands, rfl⟩
      obtain rfl : d = c := Expression.contains_single.mp inside
      exact ⟨[d], [], .literal .nil, stands, rfl, rfl⟩
  | named name =>
      refine (guides_group (guides_onceOrMore_take text Element.notSlash true)
        (String.ofList name)).mono fun before after => ?_
      rintro ⟨inner, ⟨piece, some, inside, stands, rfl⟩, rfl⟩
      have taken : between text (before.position, before.position + piece.length) = piece := by
        rw [between, Nat.add_sub_cancel_left]
        exact (List.prefix_iff_eq_take.mp stands).symm
      have no_slash : '/' ∉ piece := fun slash => absurd (inside '/' slash) (by decide)
      refine ⟨piece, [(String.ofList name, (before.position, before.position + piece.length))],
        ?_, stands, rfl, ?_⟩
      · rw [List.map_singleton]
        dsimp only
        rw [taken]
        simpa using Spells.named some no_slash .nil
      · simp [Marks.close, Marks.open_, Dict.insertAll]

/-- The program of elements is followed only as the elements match the text. -/
theorem guides_elements (text : List Char) (elements : List Element) :
    Guides text.toArray (elements.flatMap Element.code) fun before after =>
      ∃ piece spans, Follows text elements before after piece spans := by
  induction elements with
  | nil => exact Guides.nil.mono fun before _ same => same ▸ ⟨[], [], follows_nil text before⟩
  | cons element rest ih =>
      refine ((guides_element text element).append ih).mono fun before after => ?_
      rintro ⟨middle, ⟨one, spans, first⟩, two, more, second⟩
      exact ⟨one ++ two, spans ++ more, first.append second⟩

end Pattern

namespace PathPattern

open Pattern

/-- A pattern of elements captures what its variables take of a path that the elements match as a
whole. -/
theorem captures_of_elements {p : String} {elements : List Element}
    (wellFormed : ∀ e ∈ elements, e.WellFormed)
    (written : stripAnchors p.toList = elements.flatMap Element.write) {pattern : PathPattern}
    (compiled : compile p = .ok pattern) {path : String} {captured : Dict String}
    (matched : pattern.captures path = some captured) :
    ∃ taken, Spells elements path.toList taken ∧ (taken.map Prod.fst).Nodup ∧
      captured.entries = taken.map fun (name, piece) => (name, String.ofList piece) := by
  obtain ⟨program_eq, distinct⟩ := program_of_compile wellFormed written compiled
  have found : Program.captures (anchoredCode elements).toArray path = some captured :=
    program_eq ▸ matched
  have guides := ((guides_look .textStart).append
    (guides_elements path.toList elements)).append (guides_look .textEnd)
  obtain ⟨start, last, related, captured_eq⟩ := Program.captures_of_guides guides found
  obtain ⟨middle, ⟨_, ⟨rfl, at_start⟩, piece, spans, follows⟩, rfl, at_end⟩ := related
  obtain rfl : start = 0 := by simpa [Look.holds] using at_start
  have whole : piece = path.toList := by
    have ends : last.position = path.toList.length := by simpa [Look.holds] using at_end
    have length_eq : last.position = 0 + piece.length := follows.position_eq
    exact follows.stands.eq_of_length (by rw [List.drop_zero]; omega)
  have spells := follows.spells
  rw [whole] at spells
  have names_distinct := spells.names_eq.symm ▸ distinct
  have spans_distinct : (spans.map Prod.fst).Nodup := by
    simpa [Function.comp_def] using names_distinct
  refine ⟨_, spells, names_distinct, ?_⟩
  have held_eq : last.held.entries = spans := by
    rw [follows.held_eq]
    exact Dict.entries_ofList spans_distinct
  rw [captured_eq, held_eq, Dict.entries_ofList (by simpa [Function.comp_def] using spans_distinct),
    List.map_map]
  rfl

end PathPattern

namespace Pattern

/-! ### Segments -/

/-- A segment of a pattern. -/
inductive Segment where
  /-- Characters that stand for themselves, each with or without a backslash. -/
  | literal (chars : List (Char × Bool))
  /-- A variable that takes the whole segment. -/
  | named (name : List Char)
  deriving DecidableEq

namespace Segment

/-- The elements of a segment. -/
def elements : Segment → List Element
  | literal chars => chars.map fun (c, escaped) => .literal c escaped
  | named name => [.named name]

/-- Whether a segment can be written, and is one. -/
def WellFormed : Segment → Prop
  | literal chars => ∀ c ∈ chars, (Element.literal c.1 c.2).WellFormed ∧ c.1 ≠ '/'
  | named name => (Element.named name).WellFormed

instance : DecidablePred WellFormed
  | literal chars => inferInstanceAs (Decidable (∀ c ∈ chars, _ ∧ _))
  | named name => inferInstanceAs (Decidable (Element.named name).WellFormed)

/-- The written form of a segment. -/
def write (segment : Segment) : List Char := segment.elements.flatMap Element.write

/-- The name of a variable. -/
def name? : Segment → Option String
  | literal _ => none
  | named name => some (String.ofList name)

/-- Whether a segment of a pattern matches one of a path. -/
def Fits : Segment → List Char → Prop
  | literal chars, piece => piece = chars.map Prod.fst
  | named _, piece => piece ≠ [] ∧ '/' ∉ piece

theorem WellFormed.elements {segment : Segment} (wellFormed : segment.WellFormed) :
    ∀ e ∈ segment.elements, e.WellFormed := by
  intro element listed
  cases segment with
  | literal chars =>
      obtain ⟨c, inside, rfl⟩ := List.mem_map.mp listed
      exact (wellFormed c inside).1
  | named name =>
      obtain rfl := List.mem_singleton.mp listed
      exact wellFormed

theorem Fits.no_slash {segment : Segment} (wellFormed : segment.WellFormed) {piece : List Char}
    (fits : segment.Fits piece) : '/' ∉ piece := by
  cases segment with
  | literal chars =>
      obtain rfl : piece = chars.map Prod.fst := fits
      rintro slash
      obtain ⟨c, inside, is_slash⟩ := List.mem_map.mp slash
      exact (wellFormed c inside).2 is_slash
  | named name => exact fits.2

/-- The written form of segments, with slashes between them. -/
def writeAll (segments : List Segment) : List Char :=
  ['/'].intercalate (segments.map write)

/-- The elements of segments, with slashes between them. -/
def elementsOfAll (segments : List Segment) : List Element :=
  [Element.literal '/' false].intercalate (segments.map elements)

theorem elementsOfAll_cons_cons (first second : Segment) (rest : List Segment) :
    elementsOfAll (first :: second :: rest) =
      first.elements ++ .literal '/' false :: elementsOfAll (second :: rest) := by
  simp [elementsOfAll, List.intercalate_cons_cons]

theorem write_elementsOfAll (segments : List Segment) :
    (elementsOfAll segments).flatMap Element.write = writeAll segments := by
  match segments with
  | [] => rfl
  | [segment] => simp [elementsOfAll, writeAll, write]
  | first :: second :: rest =>
      rw [elementsOfAll_cons_cons, List.flatMap_append, List.flatMap_cons,
        write_elementsOfAll (second :: rest)]
      simp [writeAll, write, Element.write, List.intercalate_cons_cons]

theorem wellFormed_elementsOfAll {segments : List Segment}
    (wellFormed : ∀ segment ∈ segments, segment.WellFormed) :
    ∀ e ∈ elementsOfAll segments, e.WellFormed := by
  match segments with
  | [] => exact fun _ => nofun
  | [segment] => simpa [elementsOfAll] using (wellFormed segment (by simp)).elements
  | first :: second :: rest =>
      obtain ⟨first_wellFormed, others⟩ := List.forall_mem_cons.mp wellFormed
      rw [elementsOfAll_cons_cons]
      intro element listed
      rcases List.mem_append.mp listed with early | late
      · exact first_wellFormed.elements element early
      · rcases List.mem_cons.mp late with rfl | later
        · exact show '/' ∉ Element.special by decide
        · exact wellFormed_elementsOfAll others element later

end Segment

/-- What a segment of a path and a segment of a pattern give to the variables. -/
def takenBy (segments : List Segment) (pieces : List (List Char)) : List (String × List Char) :=
  (segments.zip pieces).filterMap fun (segment, piece) => segment.name?.map (·, piece)

/-- A text that begins with a segment. -/
theorem Spells.of_segment {segment : Segment} {rest : List Element} {text : List Char}
    {taken : List (String × List Char)} (spells : Spells (segment.elements ++ rest) text taken) :
    ∃ piece others more, segment.Fits piece ∧ Spells rest others more ∧ text = piece ++ others ∧
      taken = (segment.name?.map (·, piece)).toList ++ more := by
  cases segment with
  | literal chars =>
      induction chars generalizing text with
      | nil => exact ⟨[], text, taken, rfl, spells, rfl, rfl⟩
      | cons c chars ih =>
          cases spells with
          | literal spells =>
              obtain ⟨_, others, _, rfl, spells, rfl, rfl⟩ := ih spells
              exact ⟨_, others, _, rfl, spells, rfl, rfl⟩
  | named name =>
      cases spells with
      | named some inside spells => exact ⟨_, _, _, ⟨some, inside⟩, spells, rfl, rfl⟩

/-- Segments match a text segment by segment. -/
theorem Spells.of_segments {segments : List Segment} (some : segments ≠ []) {text : List Char}
    {taken : List (String × List Char)}
    (spells : Spells (Segment.elementsOfAll segments) text taken) :
    ∃ pieces, List.Forall₂ Segment.Fits segments pieces ∧ text = ['/'].intercalate pieces ∧
      taken = takenBy segments pieces := by
  match segments with
  | [segment] =>
      have alone : Spells (segment.elements ++ []) text taken := by
        simpa [Segment.elementsOfAll] using spells
      obtain ⟨piece, others, more, fits, nothing, rfl, rfl⟩ := alone.of_segment
      cases nothing
      refine ⟨[piece], .cons fits .nil, by simp, ?_⟩
      cases name_eq : segment.name? <;> simp [takenBy, name_eq]
  | first :: second :: rest =>
      rw [Segment.elementsOfAll_cons_cons] at spells
      obtain ⟨piece, others, more, fits, behind, rfl, rfl⟩ := spells.of_segment
      cases behind with
      | literal spells =>
          obtain ⟨pieces, all_fit, rfl, rfl⟩ := Spells.of_segments (List.cons_ne_nil _ _) spells
          refine ⟨piece :: pieces, .cons fits all_fit, ?_, ?_⟩
          · cases all_fit with
            | cons => simp [List.intercalate_cons_cons]
          · cases name_eq : first.name? <;> simp [takenBy, name_eq]

end Pattern

namespace PathPattern

open Pattern

/-- A pattern of segments matches a path segment by segment, and captures what its variables
take. -/
theorem captures_of_segments {p : String} {segments : List Segment}
    (wellFormed : ∀ segment ∈ segments, segment.WellFormed)
    (written : stripAnchors p.toList = Segment.writeAll segments) {pattern : PathPattern}
    (compiled : compile p = .ok pattern) {path : String} {captured : Dict String}
    (matched : pattern.captures path = some captured) :
    ∃ pieces, List.Forall₂ Segment.Fits segments pieces ∧ path.toList.splitOn '/' = pieces ∧
      captured.keys.Nodup ∧
      captured.entries = (takenBy segments pieces).map fun (name, piece) =>
        (name, String.ofList piece) := by
  have some : segments ≠ [] := by
    rintro rfl
    have plain : ¬ EscapesNext (stripAnchors p.toList) := by
      rw [written]
      decide
    exact ((compile_eq_ok plain pattern).mp compiled).1 written
  have elements_written := written.trans (Segment.write_elementsOfAll segments).symm
  obtain ⟨taken, spells, distinct, entries_eq⟩ := captures_of_elements
    (Segment.wellFormed_elementsOfAll wellFormed) elements_written compiled matched
  obtain ⟨pieces, fit, text_eq, rfl⟩ := spells.of_segments some
  refine ⟨pieces, fit, ?_, ?_, entries_eq⟩
  · rw [text_eq]
    refine List.splitOn_intercalate _ (fun piece listed => ?_) ?_
    · obtain ⟨index, inside, rfl⟩ := List.getElem_of_mem listed
      have segment_inside : index < segments.length := fit.length_eq ▸ inside
      exact (fit.get segment_inside inside).no_slash
        (wellFormed _ (List.getElem_mem segment_inside))
    · rintro rfl
      exact some (List.forall₂_nil_right_iff.mp fit)
  · rw [Dict.keys, entries_eq]
    simpa [Function.comp_def] using distinct

end PathPattern
end WebDispatch
