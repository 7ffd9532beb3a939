import WebDispatch.Proofs.Pattern.ReadAhead

/-!
# Reading classes with more behind them

A class ends with its own bracket, so the closing behind a text does not end a class that the text
leaves open, and a class is read as it is without the closing: `persists_charClass`.
-/

namespace WebDispatch
namespace Pattern

variable {commented : Prop} (flags : Flags)

/-- The reading ends in front of the closing or inside it. -/
def Closing {α : Type} (_ : α) (rest : List Char) : Prop := rest <:+ closing

theorem suffix_closing_of_inside {rest last : List Char} (inside : rest <:+ ['$'])
    (suffix : last <:+ rest) : last <:+ closing :=
  suffix.trans (inside.trans (List.suffix_cons ')' ['$']))

theorem persists_classItem (c : Char) :
    Persists (Stalls flags) fun s => classItem flags (c :: s) := by
  by_cases backslash : c = '\\'
  · subst backslash
    exact persists_escape flags
  · simp only [classItem]
    exact .pure (Escape.literal c false)

/-- The characters that two texts start with: the same, or the closing parenthesis instead of
none. -/
def SameHead (one two : Option Char) : Prop := one = two ∨ one = none ∧ two = some ')'

theorem Extends.sameHead {s t : List Char} (extends_ : Extends commented s t) :
    SameHead s.head? t.head? := by
  cases extends_ with
  | nil => exact .inl rfl
  | closing => exact .inr ⟨rfl, rfl⟩
  | cons c rest => exact .inl rfl

theorem SameHead.eq_some {one two : Option Char} (same : SameHead one two) {c : Char}
    (other : c ≠ ')') : two = some c ↔ one = some c := by
  obtain same | ⟨nothing, parenthesis⟩ := same
  · rw [same]
  · simp [nothing, parenthesis, Ne.symm other]

theorem SameHead.bne {one two : Option Char} (same : SameHead one two) {c : Char}
    (other : c ≠ ')') : (two != some c) = (one != some c) := by
  rw [Bool.eq_iff_iff, bne_iff_ne, bne_iff_ne, Ne, Ne, same.eq_some other]

theorem sameHead_peek {s t : List Char} (extends_ : Extends commented s t) :
    SameHead (flags.peek s) (flags.peek t) := by
  unfold Flags.peek
  split
  · have dropped : Extends commented (s.dropWhile Text.isBlank) (t.dropWhile Text.isBlank) :=
      extends_.dropWhile (by decide)
    generalize s.dropWhile Text.isBlank = u, t.dropWhile Text.isBlank = v at dropped
    cases dropped with
    | nil => exact .inl rfl
    | closing => exact .inr ⟨rfl, rfl⟩
    | @cons c u v rest plain =>
        by_cases hash : c = '#'
        · subst hash
          exact (rest.dropWhile (by decide)).sameHead
        · simp only [List.cons.injEq, hash, false_and, imp_self, implies_true]
          exact (rest.cons c plain).sameHead
  · exact extends_.sameHead

theorem persists_range (first last : Char × Bool) :
    Persists Closing fun rest => do return (← flags.classRange first last, rest) := by
  cases flags.classRange first last with
  | error e => exact .error e
  | ok chars => exact .pure chars

/-- An item of a class that starts no range. -/
def singleItem (first : Escape) (s : List Char) : Except String (CharSet × List Char) :=
  match first with
  | .literal c byte => do return (← flags.classRange (c, byte) (c, byte), s)
  | .set chars => .ok (chars, s)
  | .look _ => .error "invalid escape sequence found in character class"

theorem persists_singleItem (first : Escape) : Persists Closing (singleItem flags first) := by
  cases first with
  | literal c byte => exact persists_range flags _ _
  | set chars => exact .pure chars
  | look test => exact .error _

/-- A range between two items. -/
def rangeBetween (first last : Escape) (s : List Char) : Except String (CharSet × List Char) :=
  match first, last with
  | .literal a byteA, .literal b byteB => do
      if a ≤ b then return (← flags.classRange (a, byteA) (b, byteB), s)
      else .error "invalid character class range"
  | _, _ => .error "invalid range boundary"

theorem persists_rangeBetween (first last : Escape) :
    Persists Closing (rangeBetween flags first last) := by
  unfold rangeBetween
  split
  · split
    · exact persists_range flags _ _
    · exact .error _
  · exact .error _

/-- What follows the first item of a range, or an item that starts no range. -/
def rangeBehind (first : Escape) (s : List Char) : Except String (CharSet × List Char) :=
  match s with
  | [] => .error "unclosed character class"
  | c :: rest =>
      if !(c == '-' && flags.peek rest != some ']' && flags.peek rest != some '-') then
        singleItem flags first (c :: rest)
      else if (flags.skip rest).isEmpty then .error "unclosed character class"
      else
        classItem flags (flags.skip rest) >>= fun (last, rest) => rangeBetween flags first last rest

theorem persists_rangeBehind (first : Escape) : Persists Closing (rangeBehind flags first) := by
  intro commented s t extends_
  unfold rangeBehind
  cases extends_ with
  | nil => exact .error _ _
  | closing =>
      refine .of_error _ fun set last read => ?_
      exact (persists_singleItem flags first).suffix read
  | @cons c s t rest plain =>
      have peeked := sameHead_peek flags rest
      dsimp only
      rw [peeked.bne (show ']' ≠ ')' by decide), peeked.bne (show '-' ≠ ')' by decide)]
      split
      · exact persists_singleItem flags first (rest.cons c plain)
      · refine Agrees.mono ?_ ((flags.skip_suffix s).trans (List.suffix_cons c s))
        have skipped := rest.skip flags
        generalize flags.skip s = u, flags.skip t = v at skipped
        cases skipped with
        | nil => exact .error _ _
        | closing =>
            refine .of_error _ fun set last read => ?_
            exact suffix_closing_of_inside List.suffix_rfl
              ((persists_rangeBetween flags first (.literal ')' false)).suffix read)
        | @cons d u v others =>
            refine ((persists_classItem flags d others).mono (List.suffix_cons d u)).bind
              (persists_rangeBetween flags first) ?_
            rintro last rest (inside | ⟨test, text, rfl, -, -⟩) set final read suffix
            · exact suffix_closing_of_inside inside suffix
            · cases first <;> cases read

theorem classRange_eq (s : List Char) :
    classRange flags s =
      classItem flags s >>= fun (first, rest) => rangeBehind flags first (flags.skip rest) := by
  refine congrArg (classItem flags s >>= ·) (funext fun found => ?_)
  obtain ⟨first, rest⟩ := found
  dsimp only
  cases flags.skip rest with
  | nil => rfl
  | cons c rest =>
      simp only [rangeBehind]
      congr 1

theorem persists_classRange (c : Char) :
    Persists Closing fun s => classRange flags (c :: s) := by
  intro commented s t extends_
  dsimp only
  rw [classRange_eq, classRange_eq]
  refine (persists_classItem flags c extends_).bind ?_ ?_
  · intro first _ rest more extends_
    exact (persists_rangeBehind flags first (extends_.skip flags)).mono (flags.skip_suffix rest)
  · rintro first rest (inside | ⟨test, text, rfl, rfl, -⟩) set last read suffix
    · exact suffix_closing_of_inside inside suffix
    · have brace := flags.skip_cons (c := '\x7b') (by decide) (by decide) text
      simp [brace, rangeBehind, singleItem] at read

/-- What stands for itself at the start of a class: hyphens, and without them a closing bracket. -/
def startItems (negated : Bool) (s : List Char) :
    Except String ((Bool × List (Part CharSet)) × List Char) :=
  let hyphens := classStart.leading flags s.length s
  let items := List.replicate hyphens.1 (⟨.single '-', 0⟩ : Part CharSet)
  match hyphens.2 with
  | [] => .error "unclosed character class"
  | ']' :: rest =>
      if items.isEmpty then
        let rest := flags.skip rest
        if rest.isEmpty then .error "unclosed character class"
        else return ((negated, [⟨.single ']', 0⟩]), rest)
      else return ((negated, items), ']' :: rest)
  | rest => return ((negated, items), rest)

theorem persists_startItems (negated : Bool) : Persists Closing (startItems flags negated) := by
  intro commented s t extends_
  have hyphens := (gathers_leading flags).sameTaken extends_ (Nat.le_refl _) (Nat.le_refl _)
  unfold startItems
  generalize classStart.leading flags _ s = x, classStart.leading flags _ t = y at hyphens
  obtain ⟨taken, left, suffix⟩ := hyphens
  obtain ⟨count, u⟩ := x
  obtain ⟨_, v⟩ := y
  cases taken
  refine Agrees.mono ?_ suffix
  dsimp only
  cases left with
  | nil => exact .error _ _
  | closing => exact .only _ List.suffix_rfl
  | @cons c u v rest plain =>
      by_cases bracket : c = ']'
      · subst bracket
        split
        · contradiction
        · next here =>
            cases here
            split
            · have skipped := rest.skip flags
              refine Agrees.mono ?_ ((flags.skip_suffix u).trans (List.suffix_cons ']' u))
              generalize flags.skip u = u, flags.skip v = v at skipped
              cases skipped with
              | nil => exact .error _ _
              | closing => exact .only _ List.suffix_rfl
              | cons c others plain => exact .ok _ (others.cons c plain) List.suffix_rfl
            · exact .ok _ (rest.cons ']' plain) List.suffix_rfl
        · next other => exact (other u rfl).elim
      · simp only [List.cons.injEq, bracket, false_and, imp_self, implies_true]
        exact .ok _ (rest.cons c plain) List.suffix_rfl

theorem persists_classStart : Persists Closing (classStart flags) := by
  intro commented s t extends_
  refine Agrees.mono ?_ (flags.skip_suffix s)
  have skipped := extends_.skip flags
  unfold classStart
  dsimp only
  generalize flags.skip s = u, flags.skip t = v at skipped
  cases skipped with
  | nil swallowed => exact persists_startItems flags false (.nil swallowed)
  | closing => exact persists_startItems flags false .closing
  | @cons c u v rest plain =>
      by_cases caret : c = '^'
      · subst caret
        exact (persists_startItems flags true (rest.skip flags)).mono
          ((flags.skip_suffix u).trans (List.suffix_cons '^' u))
      · simp only [List.cons.injEq, caret, false_and, imp_self, implies_true]
        exact persists_startItems flags false (rest.cons c plain)

/-- What is found in two texts, the second one with more behind it. -/
inductive SameFound (commented : Prop) {α : Type} (s : List Char) :
    Option (α × List Char) → Option (α × List Char) → Prop
  | none : SameFound commented s none none
  | some (a : α) {rest more : List Char} (extends_ : Extends commented rest more)
      (suffix : rest <:+ s) : SameFound commented s (some (a, rest)) (some (a, more))

theorem SameFound.mono {α : Type} {s t : List Char} {x y : Option (α × List Char)}
    (found : SameFound commented s x y) (suffix : s <:+ t) : SameFound commented t x y := by
  cases found with
  | none => exact .none
  | some a extends_ inside => exact .some a extends_ (inside.trans suffix)

/-- A separator that does not stand in the closing is found in the same place. -/
theorem Extends.sameFound_cutAt? {separator : Char} (outside : separator ∉ Pattern.closing)
    {s t : List Char} (extends_ : Extends commented s t) :
    SameFound commented s (Text.cutAt? separator s) (Text.cutAt? separator t) := by
  induction extends_ with
  | nil => exact .none
  | closing =>
      simp only [Pattern.closing, List.mem_cons, not_or] at outside
      simp only [Pattern.closing, Text.cutAt?, Ne.symm outside.1, Ne.symm outside.2.1, if_false]
      exact .none
  | @cons c s t rest plain ih =>
      simp only [Text.cutAt?]
      split
      · exact .some [] rest (List.suffix_cons c s)
      · generalize Text.cutAt? separator s = x, Text.cutAt? separator t = y at ih
        cases ih with
        | none => exact .none
        | some front others suffix =>
            exact .some (c :: front) others (suffix.trans (List.suffix_cons c s))

/-- The name of a class of ASCII characters, in front of what is left. -/
def classNamed (negated : Bool) (s : List Char) : Option (CharSet × Bool × List Char) :=
  match Text.cutAt? ':' s with
  | some (name, ']' :: rest) => (CharSet.ascii? (String.ofList name)).map (·, negated, rest)
  | _ => none

/-- What is left, behind the rest of what was found. -/
abbrev leftLast (found : CharSet × Bool × List Char) : (CharSet × Bool) × List Char :=
  ((found.1, found.2.1), found.2.2)

theorem classNamed_of_bracket {negated : Bool} {s name rest : List Char}
    (cut : Text.cutAt? ':' s = some (name, ']' :: rest)) :
    classNamed negated s = (CharSet.ascii? (String.ofList name)).map (·, negated, rest) := by
  rw [classNamed, cut]
  rfl

theorem classNamed_of_other {negated : Bool} {s name rest : List Char}
    (cut : Text.cutAt? ':' s = some (name, rest)) (other : rest.head? ≠ some ']') :
    classNamed negated s = none := by
  rw [classNamed, cut]
  split
  · next here =>
      cases here
      exact (other rfl).elim
  · rfl

theorem sameFound_classNamed (negated : Bool) {s t : List Char} (extends_ : Extends commented s t) :
    SameFound commented s ((classNamed negated s).map leftLast)
      ((classNamed negated t).map leftLast) := by
  have found := extends_.sameFound_cutAt? (show ':' ∉ closing by decide)
  generalize cut : Text.cutAt? ':' s = x, cut_more : Text.cutAt? ':' t = y at found
  cases found with
  | none =>
      rw [classNamed, classNamed, cut, cut_more]
      exact .none
  | @some name u v left suffix =>
      by_cases bracket : u.head? = some ']'
      · cases left with
        | nil => cases bracket
        | closing => cases bracket
        | @cons c u v rest plain =>
            obtain rfl := Option.some.inj bracket
            rw [classNamed_of_bracket cut, classNamed_of_bracket cut_more]
            cases CharSet.ascii? (String.ofList name) with
            | none => exact .none
            | some set => exact .some (set, negated) rest ((List.suffix_cons ']' u).trans suffix)
      · have bracket_more : v.head? ≠ some ']' := by
          cases left with
          | nil => exact bracket
          | closing => decide
          | cons c rest => exact bracket
        rw [classNamed_of_other cut bracket, classNamed_of_other cut_more bracket_more]
        exact .none

/-- A class of ASCII characters starts with a colon, and a circumflex may follow. -/
theorem asciiClass?_cons (c : Char) (s : List Char) :
    asciiClass? (c :: s) =
      if c = ':' then
        if s.head? = some '^' then classNamed true s.tail else classNamed false s
      else none := by
  by_cases colon : c = ':'
  · subst colon
    cases s with
    | nil => rfl
    | cons d s =>
        by_cases caret : d = '^'
        · subst caret
          rfl
        · simp only [asciiClass?, List.cons.injEq, caret, false_and, imp_self, implies_true]
          rw [if_pos trivial, if_neg (by simpa using caret)]
          rfl
  · simp [asciiClass?, colon]

theorem sameFound_asciiClass? {s t : List Char} (extends_ : Extends commented s t) :
    SameFound commented s ((asciiClass? s).map leftLast) ((asciiClass? t).map leftLast) := by
  cases extends_ with
  | nil => exact .none
  | closing => exact .none
  | @cons c s t rest plain =>
      rw [asciiClass?_cons, asciiClass?_cons]
      by_cases colon : c = ':'
      · rw [if_pos colon, if_pos colon]
        refine SameFound.mono ?_ (List.suffix_cons c s)
        cases rest with
        | nil swallowed => exact sameFound_classNamed false (.nil swallowed)
        | closing => exact sameFound_classNamed false .closing
        | @cons d s t rest plain =>
            by_cases caret : d = '^'
            · simp only [caret, List.head?_cons, List.tail_cons, if_true]
              exact (sameFound_classNamed true rest).mono (List.suffix_cons '^' s)
            · simp only [caret, List.head?_cons, Option.some.injEq, if_false]
              exact sameFound_classNamed false (rest.cons d plain)
      · rw [if_neg colon, if_neg colon]
        exact .none

/-- The set operation that a character stands for when it is written twice. -/
def operationOf? : Char → Option SetOperation
  | '&' => some .intersection
  | '-' => some .difference
  | '~' => some .symmetricDifference
  | _ => none

/-- The set operation that a character and the next one stand for. -/
def setOperation? (c : Char) (s : List Char) : Option (SetOperation × List Char) :=
  if s.head? = some c then (operationOf? c).map (·, s.tail) else none

theorem sameFound_setOperation? (c : Char) {s t : List Char} (extends_ : Extends commented s t) :
    SameFound commented s (setOperation? c s) (setOperation? c t) := by
  unfold setOperation?
  cases extends_ with
  | nil => exact .none
  | closing =>
      by_cases here : c = ')'
      · subst here
        exact .none
      · rw [if_neg (by simp), if_neg (by simpa [closing] using Ne.symm here)]
        exact .none
  | @cons d s t rest plain =>
      by_cases twice : d = c
      · simp only [twice, List.head?_cons, List.tail_cons, if_true]
        cases operationOf? c with
        | none => exact .none
        | some kind => exact .some kind rest (List.suffix_cons c s)
      · simp only [twice, List.head?_cons, Option.some.injEq, if_false]
        exact .none

/-! ### Steps of reading a class -/

/-- What an opening bracket in a class starts. -/
def classOpened (fuel : Nat) (frames : List ClassFrame) (items : List (Part CharSet))
    (s : List Char) : Except String (Part CharSet × List Char) :=
  match if frames.isEmpty then none else asciiClass? s with
  | some (set, negated, rest) => do
      let set ← flags.foldAndNegate negated set
      classLoop flags fuel frames (⟨set, 0⟩ :: items) rest
  | none => do
      let ((negated, inner), rest) ← classStart flags s
      classLoop flags fuel (.bracket items negated :: frames) inner rest

/-- What a closing bracket in a class ends. -/
def classClosed (fuel : Nat) (frames : List ClassFrame) (items : List (Part CharSet))
    (s : List Char) : Except String (Part CharSet × List Char) :=
  let (set, frames) := closeOperation flags (unionOf items) frames
  match frames with
  | .bracket outer negated :: frames => do
      let closed : Part CharSet :=
        ⟨← flags.foldAndNegate negated set.value, depthOver [set.depth]⟩
      match frames with
      | [] => return (closed, s)
      | frames => classLoop flags fuel frames (closed :: outer) s
  | _ => .error "unclosed character class"

/-- What another character in a class starts. -/
def classContinued (fuel : Nat) (frames : List ClassFrame) (items : List (Part CharSet)) (c : Char)
    (s : List Char) : Except String (Part CharSet × List Char) :=
  match setOperation? c s with
  | some (kind, rest) =>
      let (left, frames) := closeOperation flags (unionOf items) frames
      classLoop flags fuel (.operation kind left :: frames) [] rest
  | none =>
      classRange flags (c :: s) >>= fun (set, rest) =>
        classLoop flags fuel frames (⟨set, 0⟩ :: items) rest

theorem classLoop_succ (fuel : Nat) (frames : List ClassFrame) (items : List (Part CharSet))
    (s : List Char) :
    classLoop flags (fuel + 1) frames items s =
      match flags.skip s with
      | [] => .error "unclosed character class"
      | c :: rest =>
          if c = '[' then classOpened flags fuel frames items rest
          else if c = ']' then classClosed flags fuel frames items rest
          else classContinued flags fuel frames items c rest := by
  rw [classLoop]
  generalize flags.skip s = u
  split
  case h_7 noEnd noOpening noClosing noAnd noMinus noTilde =>
    cases u with
    | nil => exact (noEnd rfl).elim
    | cons c rest =>
        have opening : c ≠ '[' := fun here => noOpening rest (here ▸ rfl)
        have closing : c ≠ ']' := fun here => noClosing rest (here ▸ rfl)
        have operation : setOperation? c rest = none := by
          unfold setOperation?
          split
          · next twice =>
              obtain ⟨rest, rfl⟩ := List.head?_eq_some_iff.1 twice
              unfold operationOf?
              split
              · exact (noAnd rest rfl).elim
              · exact (noMinus rest rfl).elim
              · exact (noTilde rest rfl).elim
              · rfl
          · rfl
        simp only [opening, closing, classContinued, operation, if_false]
  all_goals rfl

/-- The reading does not succeed. -/
def Never {α : Type} (_ : α) (_ : List Char) : Prop := False

theorem classLoop_nil (fuel : Nat) (frames : List ClassFrame) (items : List (Part CharSet)) :
    classLoop flags fuel frames items [] = .error "unclosed character class" := by
  cases fuel with
  | zero => rfl
  | succ fuel => rw [classLoop_succ, flags.skip_nil]

theorem classLoop_dollar (fuel : Nat) (frames : List ClassFrame) (items : List (Part CharSet)) :
    classLoop flags fuel frames items ['$'] = .error "unclosed character class" := by
  cases fuel with
  | zero => rfl
  | succ fuel =>
      have step : classLoop flags (fuel + 1) frames items ['$'] =
          classRange flags ['$'] >>= fun (set, rest) =>
            classLoop flags fuel frames (⟨set, 0⟩ :: items) rest := by
        rw [classLoop_succ, flags.skip_dollar]
        rfl
      have range : classRange flags ['$'] = .error "unclosed character class" := by
        simp [classRange, classItem, flags.skip_nil, Bind.bind, Except.bind]
      rw [step, range]
      rfl

theorem classLoop_closing (fuel : Nat) (frames : List ClassFrame) (items : List (Part CharSet)) :
    ∃ e, classLoop flags fuel frames items closing = .error e := by
  cases fuel with
  | zero => exact ⟨_, rfl⟩
  | succ fuel =>
      have step : classLoop flags (fuel + 1) frames items closing =
          classRange flags closing >>= fun (set, rest) =>
            classLoop flags fuel frames (⟨set, 0⟩ :: items) rest := by
        rw [classLoop_succ, flags.skip_closing]
        rfl
      have range : classRange flags closing =
          do return (← flags.classRange (')', false) (')', false), ['$']) := by
        simp [classRange, classItem, closing, flags.skip_dollar, Bind.bind, Except.bind]
      rw [step, range]
      cases flags.classRange (')', false) (')', false) with
      | error e => exact ⟨e, rfl⟩
      | ok set => exact ⟨_, classLoop_dollar flags fuel frames (⟨set, 0⟩ :: items)⟩

/-- The closing does not end a class. -/
theorem classLoop_ne_ok {fuel : Nat} {frames : List ClassFrame} {items : List (Part CharSet)}
    {s : List Char} (suffix : s <:+ closing) (result : Part CharSet × List Char) :
    classLoop flags fuel frames items s ≠ .ok result := by
  obtain rfl | rfl | rfl : s = closing ∨ s = ['$'] ∨ s = [] := by
    simpa [closing, List.suffix_cons_iff] using suffix
  · obtain ⟨e, read⟩ := classLoop_closing flags fuel frames items
    simp [read]
  · simp [classLoop_dollar]
  · simp [classLoop_nil]

section Agreement

variable {fuel more : Nat} {u v : List Char}
  (next : ∀ (frames : List ClassFrame) (items : List (Part CharSet)) {s t : List Char},
    Extends commented s t → s <:+ u →
      Agrees commented Never s (classLoop flags fuel frames items s)
        (classLoop flags more frames items t))
  (frames : List ClassFrame) (items : List (Part CharSet)) (rest : Extends commented u v)
include next rest

theorem agrees_classOpened :
    Agrees commented Never u (classOpened flags fuel frames items u)
      (classOpened flags more frames items v) := by
  have found : SameFound commented u
      ((if frames.isEmpty then none else asciiClass? u).map leftLast)
      ((if frames.isEmpty then none else asciiClass? v).map leftLast) := by
    split
    · exact .none
    · exact sameFound_asciiClass? rest
  unfold classOpened
  generalize (if frames.isEmpty then none else asciiClass? u) = x,
    (if frames.isEmpty then none else asciiClass? v) = y at found
  cases x with
  | none =>
      cases y with
      | some _ => cases found
      | none =>
          refine (persists_classStart flags rest).bind₂ ?_ ?_
          · exact fun start _ _ => next (.bracket items start.1 :: frames) start.2
          · exact fun start rest suffix set last read => classLoop_ne_ok flags suffix _ read
  | some x =>
      cases y with
      | none => cases found
      | some y =>
          obtain ⟨set, negated, u⟩ := x
          obtain ⟨_, _, v⟩ := y
          cases found with
          | some _ others suffix =>
              dsimp only
              cases flags.foldAndNegate negated set with
              | error e => exact .error e e
              | ok set => exact (next frames _ others suffix).mono suffix

theorem agrees_classClosed :
    Agrees commented Never u (classClosed flags fuel frames items u)
      (classClosed flags more frames items v) := by
  unfold classClosed
  generalize closeOperation flags (unionOf items) frames = closed
  obtain ⟨set, frames⟩ := closed
  dsimp only
  split
  · next outer negated frames =>
      cases flags.foldAndNegate negated set.value with
      | error e => exact .error e e
      | ok value =>
          cases frames with
          | nil => exact .ok _ rest List.suffix_rfl
          | cons frame frames => exact next (frame :: frames) _ rest List.suffix_rfl
  · exact .error _ _

theorem agrees_classContinued (c : Char) :
    Agrees commented Never u (classContinued flags fuel frames items c u)
      (classContinued flags more frames items c v) := by
  have found := sameFound_setOperation? c rest
  unfold classContinued
  generalize setOperation? c u = x, setOperation? c v = y at found
  cases found with
  | none =>
      refine (persists_classRange flags c rest).bind₂ ?_ ?_
      · exact fun set _ _ => next frames (⟨set, 0⟩ :: items)
      · exact fun set rest suffix b last read => classLoop_ne_ok flags suffix _ read
  | some kind others suffix => exact (next _ _ others suffix).mono suffix

end Agreement

theorem agrees_classLoop {fuel more : Nat} (frames : List ClassFrame) (items : List (Part CharSet))
    {s t : List Char} (extends_ : Extends commented s t) (enough : s.length < fuel)
    (enough_more : s.length + 2 < more) :
    Agrees commented Never s (classLoop flags fuel frames items s)
      (classLoop flags more frames items t) := by
  induction fuel generalizing more frames items s t with
  | zero => omega
  | succ fuel ih =>
      obtain ⟨more, rfl⟩ := Nat.exists_eq_add_of_lt (Nat.zero_lt_of_lt enough_more)
      rw [Nat.zero_add, classLoop_succ, classLoop_succ]
      have short := flags.length_skip_le s
      refine Agrees.mono ?_ (flags.skip_suffix s)
      have skipped := extends_.skip flags
      generalize flags.skip s = u, skip_t : flags.skip t = v at skipped short
      cases skipped with
      | nil => exact .error _ _
      | closing =>
          refine .of_error _ fun set last read => ?_
          have read_closing :
              classLoop flags (more + 1) frames items closing = .ok (set, last) := by
            rw [classLoop_succ, flags.skip_closing]
            exact read
          exact classLoop_ne_ok flags List.suffix_rfl _ read_closing
      | @cons c u v rest =>
          simp only [List.length_cons] at short
          refine Agrees.mono ?_ (List.suffix_cons c u)
          have next (frames : List ClassFrame) (items : List (Part CharSet)) {s t : List Char}
              (extends_ : Extends commented s t) (suffix : s <:+ u) :
              Agrees commented Never s (classLoop flags fuel frames items s)
                (classLoop flags more frames items t) := by
            have := suffix.length_le
            exact ih frames items extends_ (by omega) (by omega)
          dsimp only
          split
          · exact agrees_classOpened flags next frames items rest
          · split
            · exact agrees_classClosed flags next frames items rest
            · exact agrees_classContinued flags next frames items rest c

/-- The start of a class, and the class behind it. -/
theorem charClass_opened (s : List Char) :
    charClass flags ('[' :: s) =
      classStart flags s >>= fun ((negated, items), rest) =>
        classLoop flags (s.length + 1) [.bracket [] negated] items rest := by
  rw [charClass, List.length_cons, classLoop_succ, flags.skip_cons (by decide) (by decide)]
  rfl

theorem persists_charClass : Persists Never fun s => charClass flags ('[' :: s) := by
  intro commented s t extends_
  have whole (marks : '#' ∈ s → commented) : Agrees commented Never s (charClass flags ('[' :: s))
      (charClass flags ('[' :: (s ++ closing))) := by
    rw [charClass_opened, charClass_opened, List.length_append]
    refine (persists_classStart flags (.append_closing marks)).bind₂ ?_ ?_
    · intro start rest more extends_ suffix
      have shorter := suffix.length_le
      have two : closing.length = 2 := rfl
      exact agrees_classLoop flags _ _ extends_ (by omega) (by omega)
    · exact fun start rest suffix set last read => classLoop_ne_ok flags suffix _ read
  obtain ⟨swallowed, rfl⟩ | ⟨marks, rfl⟩ := extends_.eq_or
  · exact (whole fun _ => swallowed).self swallowed
  · exact whole marks

end Pattern
end WebDispatch
