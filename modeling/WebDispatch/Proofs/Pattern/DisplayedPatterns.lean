import WebDispatch.Proofs.Pattern.WholePath

/-!
# Displayed patterns

A pattern is displayed in its anchored form.  Whether a backslash at the end of a pattern escapes
what is put behind it is decided by the pattern as it was written, since taking anchors off does not
change that.  If none does, the anchored form stands for the pattern: it is displayed as it is, and
the same is read from it.  Otherwise the dollar sign behind the pattern becomes part of it, and the
form with another dollar sign is the one that stays as it is: `PathPattern.anchored_again`.
-/

namespace WebDispatch
namespace PathPattern

/-! ### Backslashes at the end -/

theorem not_escapesNext_concat {c : Char} (other : c ≠ '\\') (front : List Char) :
    ¬ EscapesNext (front ++ [c]) := by
  simp [EscapesNext, other]

theorem escapesNext_cons {c : Char} (other : c ≠ '\\') (rest : List Char) :
    EscapesNext (c :: rest) ↔ EscapesNext rest := by
  have stops : [c].takeWhile (· == '\\') = [] := List.takeWhile_cons_of_neg (by simpa using other)
  rw [EscapesNext, EscapesNext, List.reverse_cons, List.takeWhile_append, stops, List.append_nil]
  split
  · next whole => rw [whole]
  · rfl

/-- A dollar sign is taken off only where no backslash is left that escapes it. -/
theorem escapesNext_stripEnd (pattern : List Char) :
    EscapesNext (stripEnd pattern) ↔ EscapesNext pattern := by
  unfold stripEnd
  split
  · next back reverse_eq =>
      have pattern_eq : pattern = back.reverse ++ ['$'] := by
        rw [← List.reverse_cons, ← reverse_eq, List.reverse_reverse]
      have plain : ¬ EscapesNext pattern := pattern_eq ▸ not_escapesNext_concat (by decide) _
      split
      · next even =>
          have plain_back : ¬ EscapesNext back.reverse := by
            rw [EscapesNext, List.reverse_reverse, even]
            decide
          exact iff_of_false plain_back plain
      · rfl
  · rfl

theorem escapesNext_stripAnchors (pattern : List Char) :
    EscapesNext (stripAnchors pattern) ↔ EscapesNext pattern := by
  unfold stripAnchors
  split
  · next rest => rw [escapesNext_stripEnd, escapesNext_cons (by decide)]
  · exact escapesNext_stripEnd pattern

/-! ### The anchored form once more -/

theorem anchored_eq_ok_iff {p s : String} :
    anchored p = .ok s ↔
      stripAnchors p.toList ≠ [] ∧ s.toList = '^' :: stripAnchors p.toList ++ ['$'] := by
  unfold anchored
  cases stripAnchors p.toList with
  | nil => simp
  | cons c inner => simp [← String.toList_inj, eq_comm (b := s.toList)]

/-- The dollar sign behind an escaping backslash is not taken off again. -/
theorem stripAnchors_anchored_of_escapesNext {inner : List Char} (escapes : EscapesNext inner) :
    stripAnchors ('^' :: inner ++ ['$']) = inner ++ ['$'] := by
  have odd : (inner.reverse.takeWhile (· == '\\')).length % 2 = 1 := escapes
  simp [stripAnchors, stripEnd, odd]

/-- What is compiled is the anchored form. -/
theorem compile_congr {p q : String} (same : anchored p = anchored q) : compile p = compile q := by
  rw [compile, compile, same]

theorem anchored_of_not_escapesNext {p s : String} (shown : anchored p = .ok s)
    (plain : ¬ EscapesNext p.toList) :
    anchored s = .ok s ∧ stripAnchors s.toList = stripAnchors p.toList := by
  obtain ⟨filled, s_eq⟩ := anchored_eq_ok_iff.mp shown
  have stripped : stripAnchors s.toList = stripAnchors p.toList := by
    rw [s_eq]
    exact stripAnchors_anchored (mt (escapesNext_stripAnchors p.toList).mp plain)
  exact ⟨anchored_eq_ok_iff.mpr (stripped.symm ▸ ⟨filled, s_eq⟩), stripped⟩

/-- The anchored form of a pattern is its own anchored form, has the same between its anchors and is
compiled to the same, unless the pattern ends in a backslash that escapes what is put behind it.
Then a dollar sign is added to what is between the anchors, and the anchored form of the anchored
form is its own anchored form. -/
theorem anchored_again {p s : String} (shown : anchored p = .ok s) :
    (¬ EscapesNext p.toList →
      anchored s = .ok s ∧ stripAnchors s.toList = stripAnchors p.toList ∧
        compile s = compile p) ∧
    (EscapesNext p.toList →
      anchored s = .ok (s ++ "$") ∧ stripAnchors s.toList = stripAnchors p.toList ++ ['$'] ∧
        anchored (s ++ "$") = .ok (s ++ "$")) := by
  constructor
  · intro plain
    obtain ⟨again, stripped⟩ := anchored_of_not_escapesNext shown plain
    exact ⟨again, stripped, compile_congr (again.trans shown.symm)⟩
  · intro escapes
    obtain ⟨-, s_eq⟩ := anchored_eq_ok_iff.mp shown
    have stripped : stripAnchors s.toList = stripAnchors p.toList ++ ['$'] := by
      rw [s_eq]
      exact stripAnchors_anchored_of_escapesNext ((escapesNext_stripAnchors p.toList).mpr escapes)
    have longer : anchored s = .ok (s ++ "$") := by
      rw [anchored_eq_ok_iff, stripped, String.toList_append, s_eq]
      simp
    have plain : ¬ EscapesNext s.toList := s_eq ▸ not_escapesNext_concat (by decide) _
    exact ⟨longer, stripped, (anchored_of_not_escapesNext longer plain).1⟩

/-- A dollar sign that is escaped at the end of a pattern stays as it is.  A backslash there gets
one that it escapes. -/
theorem anchored_again_price :
    (anchored "^/price\\$" = .ok "^/price\\$$" ∧ ¬ EscapesNext "^/price\\$".toList ∧
      anchored "^/price\\$$" = .ok "^/price\\$$" ∧
      stripAnchors "^/price\\$$".toList = stripAnchors "^/price\\$".toList ∧
      compile "^/price\\$$" = compile "^/price\\$") ∧
    anchored "/price\\" = .ok "^/price\\$" ∧ EscapesNext "/price\\".toList ∧
      anchored "^/price\\$" = .ok ("^/price\\$" ++ "$") ∧
      stripAnchors "^/price\\$".toList = stripAnchors "/price\\".toList ++ ['$'] ∧
      anchored ("^/price\\$" ++ "$") = .ok ("^/price\\$" ++ "$") := by
  have shown : anchored "^/price\\$" = .ok "^/price\\$$" := anchored_eq_ok_iff.mpr (by decide)
  have plain : ¬ EscapesNext "^/price\\$".toList := by decide
  have shown_escaping : anchored "/price\\" = .ok "^/price\\$" :=
    anchored_eq_ok_iff.mpr (by decide)
  have escapes : EscapesNext "/price\\".toList := by decide
  exact ⟨⟨shown, plain, (anchored_again shown).1 plain⟩,
    shown_escaping, escapes, (anchored_again shown_escaping).2 escapes⟩

/-- A backslash at the end escapes the anchor that is put behind it. -/
theorem not_forall_anchored_again :
    ¬ ∀ p s, anchored p = .ok s →
      anchored s = .ok s ∧ stripAnchors s.toList = stripAnchors p.toList := by
  intro again
  have shown : anchored "/a\\" = .ok "^/a\\$" := anchored_eq_ok_iff.mpr (by decide)
  have changed : stripAnchors "^/a\\$".toList ≠ stripAnchors "/a\\".toList := by decide
  exact changed (again _ _ shown).2

end PathPattern
end WebDispatch
