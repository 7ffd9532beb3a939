import WebDispatch.Pattern.Reader

/-!
# Reading with more behind a text

The anchored form of a pattern has a parenthesis and a dollar sign behind the pattern, the
`closing`.  The readers of the parts of patterns make of a text what they make of it with the closing
behind it: both take the same part, or both fail, or the text ends before the part does and only the
reading that goes on into the closing finds something.  `Persists` states this for a reader, with
what may be found in the last case, and `Agrees.bind` puts readers together.
-/

namespace WebDispatch
namespace Pattern

/-- What the anchored form of a pattern has behind it. -/
def closing : List Char := [')', '$']

/-- A text goes on with the closing behind what another text has.  If `commented`, the closing may
be missing, and number signs may stand in the text. -/
inductive Extends (commented : Prop) : List Char → List Char → Prop
  | nil (swallowed : commented) : Extends commented [] []
  | closing : Extends commented [] closing
  | cons (c : Char) {s t : List Char} (rest : Extends commented s t) (plain : c = '#' → commented) :
      Extends commented (c :: s) (c :: t)

variable {commented : Prop}

/-! ### Skipping -/

@[simp] theorem skipBlanks_nil : skipBlanks [] = [] := by
  rw [skipBlanks.eq_def]

theorem skipBlanks_cons (c : Char) (rest : List Char) :
    skipBlanks (c :: rest) =
      if Text.isBlank c then skipBlanks rest
      else if c = '#' then skipBlanks (skipComment rest)
      else c :: rest := by
  rw [skipBlanks.eq_def]

@[simp] theorem skipBlanks_closing : skipBlanks closing = closing := by
  rw [closing, skipBlanks_cons]
  decide

theorem Flags.skip_nil (flags : Flags) : flags.skip [] = [] := by
  simp [skip]

/-- A character that is neither blank nor starts a comment is not skipped. -/
theorem Flags.skip_cons (flags : Flags) {c : Char} (seen : Text.isBlank c = false) (plain : c ≠ '#')
    (s : List Char) : flags.skip (c :: s) = c :: s := by
  have blanks : skipBlanks (c :: s) = c :: s := by
    rw [skipBlanks_cons, seen, if_neg plain]
    rfl
  simp [skip, blanks]

theorem skipBlanks_skipBlanks (s : List Char) : skipBlanks (skipBlanks s) = skipBlanks s := by
  fun_induction skipBlanks s with
  | case1 => exact skipBlanks_nil
  | case2 c rest blank ih => exact ih
  | case3 rest blank ih => exact ih
  | case4 c rest blank other => rw [skipBlanks_cons, if_neg blank, if_neg other]

theorem Flags.skip_skip (flags : Flags) (s : List Char) :
    flags.skip (flags.skip s) = flags.skip s := by
  cases verbose : flags.verbose <;> simp [skip, verbose, skipBlanks_skipBlanks]

theorem Flags.skip_closing (flags : Flags) : flags.skip closing = closing :=
  flags.skip_cons (by decide) (by decide) ['$']

theorem Flags.skip_dollar (flags : Flags) : flags.skip ['$'] = ['$'] :=
  flags.skip_cons (by decide) (by decide) []

theorem skipComment_suffix (s : List Char) : skipComment s <:+ s := by
  induction s with
  | nil => exact List.suffix_rfl
  | cons c rest ih =>
      unfold skipComment
      split
      · exact List.suffix_cons c rest
      · exact ih.trans (List.suffix_cons c rest)

theorem skipBlanks_suffix (s : List Char) : skipBlanks s <:+ s := by
  fun_induction skipBlanks s with
  | case1 => exact List.suffix_rfl
  | case2 c rest blank ih => exact ih.trans (List.suffix_cons c rest)
  | case3 rest blank ih =>
      exact (ih.trans (skipComment_suffix rest)).trans (List.suffix_cons _ rest)
  | case4 c rest blank other => exact List.suffix_rfl

theorem Flags.skip_suffix (flags : Flags) (s : List Char) : flags.skip s <:+ s := by
  unfold skip
  split
  · exact skipBlanks_suffix s
  · exact List.suffix_rfl

namespace Extends

variable {s t : List Char}

theorem refl (swallowed : commented) : ∀ s : List Char, Extends commented s s
  | [] => .nil swallowed
  | c :: s => .cons c (refl swallowed s) fun _ => swallowed

theorem append_closing : ∀ {s : List Char}, ('#' ∈ s → commented) →
    Extends commented s (s ++ Pattern.closing)
  | [], _ => .closing
  | c :: _, marks =>
      .cons c (append_closing fun inside => marks (List.mem_cons_of_mem c inside))
        fun here => marks (here ▸ List.mem_cons_self)

theorem eq_or (extends_ : Extends commented s t) :
    commented ∧ t = s ∨ ('#' ∈ s → commented) ∧ t = s ++ Pattern.closing := by
  induction extends_ with
  | nil swallowed => exact .inl ⟨swallowed, rfl⟩
  | closing => exact .inr ⟨fun inside => (List.not_mem_nil inside).elim, rfl⟩
  | cons c rest plain ih =>
      obtain ⟨swallowed, rfl⟩ | ⟨marks, rfl⟩ := ih
      · exact .inl ⟨swallowed, rfl⟩
      · refine .inr ⟨fun inside => ?_, rfl⟩
        obtain here | inside := List.mem_cons.1 inside
        · exact plain here.symm
        · exact marks inside

/-- What drops characters from the front, up to one that it keeps. -/
theorem dropWhile {drop : Char → Bool} (extends_ : Extends commented s t)
    (kept : drop ')' = false) : Extends commented (s.dropWhile drop) (t.dropWhile drop) := by
  induction extends_ with
  | nil swallowed => exact .nil swallowed
  | closing => simpa [Pattern.closing, kept] using Extends.closing
  | cons c rest plain ih =>
      rw [List.dropWhile_cons, List.dropWhile_cons]
      split
      · exact ih
      · exact .cons c rest plain

theorem skipComment (extends_ : Extends commented s t) (swallowed : commented) :
    Extends commented (skipComment s) (skipComment t) := by
  induction extends_ with
  | nil => exact .nil swallowed
  | closing => exact .nil swallowed
  | cons c rest plain ih =>
      unfold Pattern.skipComment
      split
      · exact rest
      · exact ih

/-- A comment that is open at the end goes on over the closing. -/
theorem skipBlanks (extends_ : Extends commented s t) :
    Extends commented (skipBlanks s) (skipBlanks t) := by
  induction s using Pattern.skipBlanks.induct generalizing t with
  | case1 =>
      cases extends_ with
      | nil swallowed => exact refl swallowed _
      | closing =>
          rw [skipBlanks_nil, skipBlanks_closing]
          exact Extends.closing
  | case2 c s blank ih =>
      cases extends_ with
      | cons _ rest => simpa [skipBlanks_cons, blank] using ih rest
  | case3 s blank ih =>
      cases extends_ with
      | cons _ rest plain => simpa [skipBlanks_cons, blank] using ih (rest.skipComment (plain rfl))
  | case4 c s blank other =>
      cases extends_ with
      | cons _ rest plain => simpa [skipBlanks_cons, blank, other] using rest.cons c plain

theorem skip (flags : Flags) (extends_ : Extends commented s t) :
    Extends commented (flags.skip s) (flags.skip t) := by
  unfold Flags.skip
  split
  · exact extends_.skipBlanks
  · exact extends_

end Extends

/-! ### Readers that agree -/

/-- What two readings of a text make of it, the second one with more behind it.  Where the first one
fails, `only` says what the second one may find. -/
inductive Agrees (commented : Prop) {α : Type} (only : α → List Char → Prop) (s : List Char) :
    Except String (α × List Char) → Except String (α × List Char) → Prop
  /-- Both read the same part. -/
  | ok (a : α) {rest more : List Char} (extends_ : Extends commented rest more)
      (suffix : rest <:+ s) : Agrees commented only s (.ok (a, rest)) (.ok (a, more))
  /-- Both fail. -/
  | error (e f : String) : Agrees commented only s (.error e) (.error f)
  /-- Only the second one finds something. -/
  | only (e : String) {a : α} {rest : List Char} (found : only a rest) :
      Agrees commented only s (.error e) (.ok (a, rest))

/-- The reading ends inside the closing. -/
def Inside {α : Type} (_ : α) (rest : List Char) : Prop := rest <:+ ['$']

namespace Agrees

variable {α β : Type} {only : α → List Char → Prop} {also : β → List Char → Prop}
  {s t : List Char} {x y : Except String (α × List Char)}

theorem mono (agrees : Agrees commented only s x y) (suffix : s <:+ t) :
    Agrees commented only t x y := by
  cases agrees with
  | ok a extends_ inside => exact .ok a extends_ (inside.trans suffix)
  | error e f => exact .error e f
  | only e found => exact .only e found

theorem weaken {other : α → List Char → Prop} (agrees : Agrees commented only s x y)
    (implies : ∀ a rest, only a rest → other a rest) : Agrees commented other s x y := by
  cases agrees with
  | ok a extends_ inside => exact .ok a extends_ inside
  | error e f => exact .error e f
  | only e found => exact .only e (implies _ _ found)

theorem of_error (e : String) (found : ∀ a rest, y = .ok (a, rest) → only a rest) :
    Agrees commented only s (.error e) y := by
  cases y with
  | error f => exact .error e f
  | ok result => exact .only e (found _ _ rfl)

/-- A reading that agrees with another one agrees with itself. -/
theorem self (agrees : Agrees commented only s x y) (swallowed : commented) :
    Agrees commented only s x x := by
  cases agrees with
  | ok a _ inside => exact .ok a (.refl swallowed _) inside
  | error e _ => exact .error e e
  | only e _ => exact .error e e

/-- What a reading takes is in front of what is left. -/
theorem suffix {a : α} {rest : List Char} (agrees : Agrees commented only s x y)
    (read : x = .ok (a, rest)) : rest <:+ s := by
  subst read
  cases agrees with
  | ok _ _ inside => exact inside

end Agrees

/-- A reader makes of a text what it makes of it with more behind it. -/
def Persists {α : Type} (only : α → List Char → Prop)
    (reader : List Char → Except String (α × List Char)) : Prop :=
  ∀ ⦃commented s t⦄, Extends commented s t → Agrees commented only s (reader s) (reader t)

namespace Persists

variable {α β : Type} {only : α → List Char → Prop} {also : β → List Char → Prop}

theorem pure (a : α) : Persists only fun s => .ok (a, s) :=
  fun _ _ _ extends_ => .ok a extends_ List.suffix_rfl

theorem error (e : String) : Persists only fun _ => .error e :=
  fun _ _ _ _ => .error e e

/-- What a reader takes is in front of what it leaves. -/
theorem suffix {reader : List Char → Except String (α × List Char)}
    (persists : Persists only reader) {s : List Char} {a : α} {rest : List Char}
    (read : reader s = .ok (a, rest)) : rest <:+ s :=
  (persists (.refl trivial s)).suffix read

end Persists

namespace Agrees

variable {α β : Type} {only : α → List Char → Prop} {also : β → List Char → Prop}
  {s : List Char} {x y : Except String (α × List Char)}
  {f : α × List Char → Except String (β × List Char)}

/-- What is read next agrees if it does after both readings.  Behind what only the second one
finds, it must find nothing else than it may. -/
theorem bind₂ {g : α × List Char → Except String (β × List Char)}
    (agrees : Agrees commented only s x y)
    (next : ∀ a {rest more}, Extends commented rest more → rest <:+ s →
      Agrees commented also rest (f (a, rest)) (g (a, more)))
    (found : ∀ a rest, only a rest → ∀ b last, g (a, rest) = .ok (b, last) → also b last) :
    Agrees commented also s (x >>= f) (y >>= g) := by
  cases agrees with
  | ok a extends_ inside => exact (next a extends_ inside).mono inside
  | error e f => exact .error e f
  | only e here => exact of_error e (found _ _ here)

theorem bind (agrees : Agrees commented only s x y)
    (next : ∀ a, Persists also fun rest => f (a, rest))
    (found : ∀ a rest, only a rest → ∀ b last, f (a, rest) = .ok (b, last) → last <:+ rest →
      also b last) :
    Agrees commented also s (x >>= f) (y >>= f) :=
  agrees.bind₂ (fun a _ _ extends_ _ => next a extends_)
    fun a rest here b last read => found a rest here b last read ((next a).suffix read)

/-- Readings that end inside the closing do so one after the other. -/
theorem bind_inside (agrees : Agrees commented Inside s x y)
    (next : ∀ a, Persists Inside fun rest => f (a, rest)) :
    Agrees commented Inside s (x >>= f) (y >>= f) :=
  agrees.bind next fun _ _ here _ _ _ inside => inside.trans here

end Agrees

/-! ### Escapes -/

theorem persists_hexDigits (flags : Flags) (count value : Nat) :
    Persists Inside (hexDigits flags count value) := by
  intro commented s t extends_
  induction count generalizing value s t with
  | zero => exact .ok value extends_ List.suffix_rfl
  | succ count ih =>
      cases extends_ with
      | nil => exact .error _ _
      | closing => exact .error _ _
      | @cons c s t rest plain =>
          simp only [hexDigits]
          split
          · exact .error _ _
          · next digit _ =>
              exact (ih (value * 16 + digit) (rest.skip flags)).mono
                ((flags.skip_suffix s).trans (List.suffix_cons c s))

theorem Flags.length_skip_le (flags : Flags) (s : List Char) :
    (flags.skip s).length ≤ s.length :=
  (flags.skip_suffix s).length_le

theorem agrees_hexBraced (flags : Flags) {fuel more : Nat} {value : Option Nat} {s t : List Char}
    (extends_ : Extends commented s t) (enough : s.length < fuel) (enough_more : t.length < more) :
    Agrees commented Inside s (hexBraced flags fuel value s) (hexBraced flags more value t) := by
  induction fuel generalizing more value s t with
  | zero => omega
  | succ fuel ih =>
      obtain ⟨more, rfl⟩ : ∃ n, more = n + 1 := ⟨more - 1, by omega⟩
      cases extends_ with
      | nil => exact .error _ _
      | closing => exact .error _ _
      | @cons c s t rest plain =>
          have after := (flags.skip_suffix s).trans (List.suffix_cons c s)
          have short := flags.length_skip_le s
          have short_more := flags.length_skip_le t
          simp only [List.length_cons] at enough enough_more
          by_cases brace : c = '\x7d'
          · subst brace
            cases value with
            | none => exact .error _ _
            | some value => exact .ok value (rest.skip flags) after
          · simp only [hexBraced]
            split
            · exact .error _ _
            · exact (ih (rest.skip flags) (by omega) (by omega)).mono after

theorem persists_hexEscape (flags : Flags) (kind : Char) :
    Persists Inside (hexEscape flags kind) := by
  have literal (byte : Bool) (code : Nat) :
      Persists Inside fun rest => do return (Escape.literal (← charOf code) byte, rest) := by
    cases charOf code with
    | error e => exact .error e
    | ok c => exact .pure (Escape.literal c byte)
  intro commented s t extends_
  refine Agrees.mono ?_ (flags.skip_suffix s)
  unfold hexEscape
  have skipped := extends_.skip flags
  generalize flags.skip s = s, flags.skip t = t at skipped
  cases skipped with
  | nil => exact .error _ _
  | closing =>
      by_cases two : kind = 'x'
      · subst two
        exact .error _ _
      · by_cases four : kind = 'u'
        · subst four
          exact .error _ _
        · simp only [two, four, if_false]
          exact .error _ _
  | @cons c s t rest plain =>
      by_cases brace : c = '\x7b'
      · subst brace
        refine ((agrees_hexBraced flags (rest.skip flags) (Nat.lt_succ_self _)
          (Nat.lt_succ_self _)).mono ?_).bind_inside ?_
        · exact (flags.skip_suffix s).trans (List.suffix_cons _ s)
        · exact literal false
      · simp only [List.cons.injEq, brace, false_and, imp_self, implies_true]
        refine (persists_hexDigits flags _ 0 (rest.cons c plain)).bind_inside ?_
        exact literal (kind == 'x')

theorem bracedName_closing (flags : Flags) (fuel : Nat) :
    bracedName flags fuel closing = .error "incomplete escape sequence" := by
  obtain _ | _ | _ | fuel := fuel <;>
    simp [bracedName, closing, flags.skip_dollar, flags.skip_nil, Bind.bind, Except.bind]

theorem agrees_bracedName (flags : Flags) {fuel more : Nat} {s t : List Char}
    (extends_ : Extends commented s t) (enough : s.length < fuel) (enough_more : t.length < more) :
    Agrees commented Inside s (bracedName flags fuel s) (bracedName flags more t) := by
  induction fuel generalizing more s t with
  | zero => omega
  | succ fuel ih =>
      cases extends_ with
      | nil =>
        obtain ⟨more, rfl⟩ : ∃ n, more = n + 1 := ⟨more - 1, by omega⟩
        exact .error _ _
      | closing =>
          rw [bracedName_closing]
          exact .error _ _
      | @cons c s t rest plain =>
          obtain ⟨more, rfl⟩ : ∃ n, more = n + 1 := ⟨more - 1, by omega⟩
          have after := (flags.skip_suffix s).trans (List.suffix_cons c s)
          have short := flags.length_skip_le s
          have short_more := flags.length_skip_le t
          simp only [List.length_cons] at enough enough_more
          by_cases brace : c = '\x7d'
          · subst brace
            exact .ok [] rest (List.suffix_cons _ s)
          · simp only [bracedName]
            refine ((ih (rest.skip flags) (by omega) (by omega)).bind_inside ?_).mono after
            exact fun name => .pure (c :: name)

/-- What a property that was looked up stands for, in front of what is left. -/
def propertySet (flags : Flags) (negated : Bool) (found : Option (CharSet × Bool)) (s : List Char) :
    Except String (Escape × List Char) :=
  if !flags.unicode then .error "Unicode not allowed here" else
  match found with
  | none => .error "Unicode property not found"
  | some (chars, inverse) => do
      return (.set (← flags.foldAndNegate (negated != inverse) chars), s)

theorem persists_propertySet (flags : Flags) (negated : Bool) (found : Option (CharSet × Bool)) :
    Persists Inside (propertySet flags negated found) := by
  unfold propertySet
  split
  · exact .error _
  · cases found with
    | none => exact .error _
    | some found =>
        dsimp only
        cases flags.foldAndNegate (negated != found.2) found.1 with
        | error e => exact .error e
        | ok chars => exact .pure (Escape.set chars)

theorem persists_propertyEscape (flags : Flags) (negated : Bool) :
    Persists Inside (propertyEscape flags negated) := by
  intro commented s t extends_
  refine Agrees.mono ?_ (flags.skip_suffix s)
  unfold propertyEscape
  -- Which properties there are does not matter.
  generalize property? = property, namedProperty? = named
  have skipped := extends_.skip flags
  generalize flags.skip s = s, flags.skip t = t at skipped
  cases skipped with
  | nil => exact .error _ _
  | closing =>
      refine .of_error _ fun escape last read => ?_
      have inside := (persists_propertySet flags negated
        ((property (String.singleton ')')).map (·, false))).suffix read
      exact inside.trans (flags.skip_suffix _)
  | @cons c s t rest plain =>
      have after := (flags.skip_suffix s).trans (List.suffix_cons c s)
      by_cases brace : c = '\x7b'
      · subst brace
        refine ((agrees_bracedName flags (rest.skip flags) (Nat.lt_succ_self _)
          (Nat.lt_succ_self _)).bind_inside ?_).mono after
        exact fun name => persists_propertySet flags negated (named name)
      · by_cases backslash : c = '\\'
        · subst backslash
          exact .error _ _
        · simp only
          exact (persists_propertySet flags negated _ (rest.skip flags)).mono after

/-! ### Readers that cannot fail -/

/-- What two readers that cannot fail make of a text, the second one with more behind it. -/
structure SameTaken (commented : Prop) {α : Type} (s : List Char) (x y : α × List Char) : Prop where
  /-- What is taken is the same. -/
  taken : x.1 = y.1
  /-- What is left goes on. -/
  extends_ : Extends commented x.2 y.2
  /-- What is taken is in front of what is left. -/
  suffix : x.2 <:+ s

/-- A reader gathers characters from the front, skipping what does not count behind each, and stops
at the closing. -/
structure Gathers {α : Type} (flags : Flags) (reader : Nat → List Char → α × List Char)
    (start : α) (takes : Char → Bool) (add : Char → α → α) : Prop where
  zero : ∀ s, reader 0 s = (start, s)
  nil : ∀ fuel, reader fuel [] = (start, [])
  cons : ∀ fuel c s, reader (fuel + 1) (c :: s) =
    if takes c then
      (add c (reader fuel (flags.skip s)).1, (reader fuel (flags.skip s)).2)
    else (start, c :: s)
  stops : takes ')' = false

namespace Gathers

variable {α : Type} {flags : Flags} {reader : Nat → List Char → α × List Char} {start : α}
  {takes : Char → Bool} {add : Char → α → α}

theorem closing (gathers : Gathers flags reader start takes add) (fuel : Nat) :
    reader fuel Pattern.closing = (start, Pattern.closing) := by
  cases fuel with
  | zero => exact gathers.zero _
  | succ fuel => simp [Pattern.closing, gathers.cons, gathers.stops]

theorem sameTaken (gathers : Gathers flags reader start takes add) {fuel more : Nat}
    {s t : List Char} (extends_ : Extends commented s t) (enough : s.length ≤ fuel)
    (enough_more : t.length ≤ more) : SameTaken commented s (reader fuel s) (reader more t) := by
  induction length_eq : s.length using Nat.strongRecOn generalizing fuel more s t with
  | _ length ih =>
      subst length_eq
      cases extends_ with
      | nil swallowed =>
          rw [gathers.nil, gathers.nil]
          exact ⟨rfl, .nil swallowed, List.suffix_rfl⟩
      | closing =>
          rw [gathers.nil, gathers.closing]
          exact ⟨rfl, .closing, List.suffix_rfl⟩
      | @cons c s t rest plain =>
          obtain ⟨fuel, rfl⟩ := Nat.exists_eq_add_of_le' (Nat.le_trans (Nat.le_add_left 1 _) enough)
          obtain ⟨more, rfl⟩ :=
            Nat.exists_eq_add_of_le' (Nat.le_trans (Nat.le_add_left 1 _) enough_more)
          have short := flags.length_skip_le s
          have short_more := flags.length_skip_le t
          simp only [List.length_cons, Nat.add_le_add_iff_right] at enough enough_more
          have next := ih _ (Nat.lt_succ_of_le short) (rest.skip flags)
            (Nat.le_trans short enough) (Nat.le_trans short_more enough_more) rfl
          have after := (flags.skip_suffix s).trans (List.suffix_cons c s)
          rw [gathers.cons, gathers.cons]
          split
          · exact ⟨congrArg (add c) next.taken, next.extends_, next.suffix.trans after⟩
          · exact ⟨rfl, rest.cons c plain, List.suffix_rfl⟩

end Gathers

theorem gathers_testName (flags : Flags) :
    Gathers flags (testName flags) [] isTestNameChar List.cons where
  zero _ := rfl
  nil fuel := by cases fuel <;> rfl
  cons _ _ _ := rfl
  stops := by decide

theorem gathers_countDigits (flags : Flags) :
    Gathers flags (countDigits flags) [] Char.isDigit fun c => List.cons (c.toNat - 48) where
  zero _ := rfl
  nil fuel := by cases fuel <;> rfl
  cons _ _ _ := rfl
  stops := by decide

theorem gathers_countBlanks (flags : Flags) :
    Gathers flags (fun fuel s => ((), countBlanks flags fuel s)) () Text.isBlank
      fun _ => id where
  zero _ := rfl
  nil fuel := by cases fuel <;> rfl
  cons fuel c s := by
    simp only [countBlanks]
    split <;> rfl
  stops := by decide

theorem gathers_leading (flags : Flags) :
    Gathers flags (classStart.leading flags) 0 (· == '-') fun _ => (· + 1) where
  zero _ := rfl
  nil fuel := by cases fuel <;> rfl
  cons fuel c s := by
    by_cases hyphen : c = '-'
    · subst hyphen
      rfl
    · simp [classStart.leading, hyphen]
  stops := by decide

/-! ### Escapes -/

/-- The reading ends inside the closing, or it found a word test in front of a brace that only the
closing follows. -/
def Stalls (flags : Flags) (found : Escape) (rest : List Char) : Prop :=
  Inside found rest ∨
    ∃ test text, found = .look test ∧ rest = '\x7b' :: text ∧ flags.skip text = closing

/-- What follows the name of a word test. -/
def testBehindName (flags : Flags) (name s : List Char) : Except String (Escape × List Char) :=
  match s with
  | '\x7d' :: rest =>
      match String.ofList name with
      | "start" => .ok (.look (.wordStart !flags.unicode), rest)
      | "end" => .ok (.look (.wordEnd !flags.unicode), rest)
      | "start-half" => .ok (.look (.wordStartHalf !flags.unicode), rest)
      | "end-half" => .ok (.look (.wordEndHalf !flags.unicode), rest)
      | _ => .error "unrecognized special word boundary assertion"
  | _ =>
      .error ("special word boundary assertion is either unclosed or contains " ++
        "an invalid character")

theorem persists_testBehindName (flags : Flags) (name : List Char) :
    Persists (Stalls flags) (testBehindName flags name) := by
  intro commented s t extends_
  cases extends_ with
  | nil => exact .error _ _
  | closing => exact .error _ _
  | @cons c s t rest plain =>
      by_cases brace : c = '\x7d'
      · subst brace
        refine Agrees.mono ?_ (List.suffix_cons _ s)
        simp only [testBehindName]
        split
        case h_5 => exact .error _ _
        all_goals exact .ok _ rest List.suffix_rfl
      · simp only [testBehindName, List.cons.injEq, brace, false_and, imp_self, implies_true]
        exact .error _ _

theorem boundaryEscape_brace (flags : Flags) (s : List Char) :
    boundaryEscape flags ('\x7b' :: s) =
      if (flags.skip s).isEmpty then
        .error "found either the beginning of a special word boundary or a bounded repetition"
      else if !(flags.skip s).head?.any isTestNameChar then
        .ok (.look (.boundary !flags.unicode), '\x7b' :: s)
      else
        testBehindName flags (testName flags (flags.skip s).length (flags.skip s)).1
          (testName flags (flags.skip s).length (flags.skip s)).2 :=
  rfl

theorem persists_boundaryEscape (flags : Flags) :
    Persists (Stalls flags) (boundaryEscape flags) := by
  intro commented s t extends_
  cases extends_ with
  | nil swallowed => exact .ok _ (.nil swallowed) List.suffix_rfl
  | closing => exact .ok _ .closing List.suffix_rfl
  | @cons c s t rest plain =>
      by_cases brace : c = '\x7b'
      · subst brace
        have after := (flags.skip_suffix s).trans (List.suffix_cons '\x7b' s)
        have skipped := rest.skip flags
        rw [boundaryEscape_brace, boundaryEscape_brace]
        generalize flags.skip s = u, skip_t : flags.skip t = v at skipped after
        cases skipped with
        | nil => exact .error _ _
        | closing => exact .only _ (.inr ⟨_, t, rfl, rfl, skip_t⟩)
        | @cons d u v others plain_next =>
            have name := (gathers_testName flags).sameTaken (others.cons d plain_next)
              (Nat.le_refl _) (Nat.le_refl _)
            rw [← name.taken]
            by_cases inName : isTestNameChar d = true
            · simp only [List.isEmpty_cons, List.head?_cons, Option.any_some, inName, Bool.not_true,
                Bool.false_eq_true, if_false]
              exact (persists_testBehindName flags _ name.extends_).mono (name.suffix.trans after)
            · simp only [List.isEmpty_cons, List.head?_cons, Option.any_some, inName, Bool.not_false,
                Bool.false_eq_true, if_false, if_true]
              exact .ok _ (rest.cons '\x7b' plain) List.suffix_rfl
      · unfold boundaryEscape
        simp only [List.cons.injEq, brace, false_and, imp_self, implies_true]
        exact .ok _ (rest.cons c plain) List.suffix_rfl

theorem persists_escape (flags : Flags) : Persists (Stalls flags) (escape flags) := by
  intro commented s t extends_
  cases extends_ with
  | nil => exact .error _ _
  | closing => exact .only _ (.inl List.suffix_rfl)
  | @cons c s t rest plain =>
      refine Agrees.mono ?_ (List.suffix_cons c s)
      have stalls {x y} (agrees : Agrees commented Inside s x y) :
          Agrees commented (Stalls flags) s x y :=
        agrees.weaken fun _ _ => .inl
      have letter (c : Char) : Persists (Stalls flags) fun rest =>
          do return (Escape.set (← letterClass flags c), rest) := by
        cases letterClass flags c with
        | error e => exact .error e
        | ok chars => exact .pure (Escape.set chars)
      unfold escape
      dsimp only
      split
      case h_1 | h_2 | h_3 => exact stalls (persists_hexEscape flags _ rest)
      case h_4 | h_5 => exact stalls (persists_propertyEscape flags _ rest)
      case h_6 | h_7 | h_8 | h_9 | h_10 | h_11 => exact letter _ rest
      case h_20 => exact persists_boundaryEscape flags rest
      case h_24 =>
        split
        · exact Persists.pure _ rest
        · exact .error _ _
      all_goals exact Persists.pure _ rest

end Pattern
end WebDispatch
