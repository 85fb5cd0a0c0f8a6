import OptionGrammar.Grammar.Load

/-
  The text that grammar lines are made of.

  Reading a grammar trims blanks, cuts lines at `//`, closes a
  value pattern at the first `>` after which the line may end, and
  splits a text at line feeds.  The lemmas here say what each of
  these does to a text built from pieces, in both directions: how
  a trimmed or uncut text passes through unchanged, and what the
  pieces of a text that was trimmed, cut or closed look like.

  Main declarations:
    * `Text.Trimmed`, `Text.trimBlankList_of_trimmed`, `Text.trimBlankList_split`
    * `Uncommented`, `cutComment_append_cons`, `uncommented_trimBlankList_cutComment`
    * `StartsHelp`, `ClosesAtEnd`, `closePattern_eq_some`, `closePattern_append`
    * `newline_not_mem_grammarLines`, `splitNewlines_join`, `grammarLines_join`
-/

------------------------------------------------------------
-- Trimming Blanks
------------------------------------------------------------

namespace OptionGrammar.Text

/- A text with no blank at either end. -/
def Trimmed (cs : List Char) : Prop :=
  (∀ c ∈ cs.head?, isBlank c = false) ∧ (∀ c ∈ cs.getLast?, isBlank c = false)

theorem dropWhile_blank_of_head
    {cs : List Char}
    (h : ∀ c ∈ cs.head?, isBlank c = false) :
    cs.dropWhile isBlank = cs := by
  cases cs with
  | nil => rfl
  | cons c rest =>
      have hc : isBlank c = false := h c rfl
      rw [List.dropWhile_cons_of_neg (by simp [hc])]

theorem trimBlankList_of_trimmed
    {cs : List Char}
    (h : Trimmed cs) :
    trimBlankList cs = cs := by
  unfold trimBlankList
  have hLast : ∀ c ∈ cs.reverse.head?, isBlank c = false := by
    rw [List.head?_reverse]
    exact h.2
  rw [dropWhile_blank_of_head h.1, dropWhile_blank_of_head hLast,
    List.reverse_reverse]

/- The blank characters taken from the front of a text are blank. -/
theorem blank_of_mem_takeWhile
    {cs : List Char}
    {c : Char}
    (h : c ∈ cs.takeWhile isBlank) :
    isBlank c = true :=
  List.all_eq_true.mp List.all_takeWhile c h

/-
  A trimmed text sits between two runs of blanks in the text it
  was trimmed from.
-/
theorem trimBlankList_split
    (cs : List Char) :
    ∃ front back,
      (∀ c ∈ front, isBlank c = true) ∧ (∀ c ∈ back, isBlank c = true) ∧
        cs = front ++ trimBlankList cs ++ back := by
  unfold trimBlankList
  generalize hRest : cs.dropWhile isBlank = rest
  refine ⟨cs.takeWhile isBlank, (rest.reverse.takeWhile isBlank).reverse,
    fun c hc => blank_of_mem_takeWhile hc,
    fun c hc => blank_of_mem_takeWhile (List.mem_reverse.mp hc), ?_⟩
  -- the back run is what trimming took from the end of `rest`
  have hSplit :
      rest = (rest.reverse.dropWhile isBlank).reverse ++
        (rest.reverse.takeWhile isBlank).reverse := by
    calc rest = rest.reverse.reverse := (List.reverse_reverse rest).symm
      _ = (rest.reverse.takeWhile isBlank ++
            rest.reverse.dropWhile isBlank).reverse := by
          rw [List.takeWhile_append_dropWhile]
      _ = _ := List.reverse_append
  calc cs = cs.takeWhile isBlank ++ cs.dropWhile isBlank :=
        List.takeWhile_append_dropWhile.symm
    _ = _ := by rw [hRest, List.append_assoc, ← hSplit]

/- Trimming keeps a text that has a non-blank character from vanishing. -/
theorem trimBlankList_ne_nil
    {cs : List Char}
    {c : Char}
    (hc : c ∈ cs)
    (hSolid : isBlank c = false) :
    trimBlankList cs ≠ [] := by
  intro hNil
  obtain ⟨front, back, hFront, hBack, hSplit⟩ := trimBlankList_split cs
  rw [hNil, List.append_nil] at hSplit
  rw [hSplit] at hc
  rcases List.mem_append.mp hc with hIn | hIn
  · simp [hFront c hIn] at hSolid
  · simp [hBack c hIn] at hSolid

theorem blank_head_dropWhile
    (cs : List Char) :
    ∀ c ∈ (cs.dropWhile isBlank).head?, isBlank c = false := by
  intro c hc
  have hNot := List.head?_dropWhile_not isBlank cs
  rw [Option.mem_def.mp hc] at hNot
  exact hNot

/- What trimming leaves has no blank at either end. -/
theorem trimmed_trimBlankList
    (cs : List Char) :
    Trimmed (trimBlankList cs) := by
  unfold trimBlankList Trimmed
  generalize hRest : cs.dropWhile isBlank = rest
  rw [List.head?_reverse, List.getLast?_reverse]
  refine ⟨?_, blank_head_dropWhile rest.reverse⟩
  -- the last kept character is the first one of `rest`
  intro c hc
  have hWhole :
      rest.reverse.getLast? = some c := by
    rw [← List.takeWhile_append_dropWhile (p := isBlank) (l := rest.reverse),
      List.getLast?_append, Option.mem_def.mp hc]
    rfl
  rw [List.getLast?_reverse, ← hRest] at hWhole
  exact blank_head_dropWhile cs c hWhole

/- Text that ends in a non-blank keeps doing so with anything non-blank-ended after it. -/
theorem last_not_blank_append
    {a b : List Char}
    (ha : ∀ c ∈ a.getLast?, isBlank c = false)
    (hb : ∀ c ∈ b.getLast?, isBlank c = false) :
    ∀ c ∈ (a ++ b).getLast?, isBlank c = false := by
  intro c hc
  rw [List.getLast?_append] at hc
  cases hLast : b.getLast? with
  | none =>
      rw [hLast] at hc
      exact ha c hc
  | some x =>
      rw [hLast] at hc
      exact hb c (hLast ▸ hc)

theorem last_not_blank_cons
    {l : List Char}
    (a : Char)
    (hl : l ≠ [])
    (h : ∀ c ∈ l.getLast?, isBlank c = false) :
    ∀ c ∈ (a :: l).getLast?, isBlank c = false := by
  cases l with
  | nil => exact absurd rfl hl
  | cons b l =>
      rw [List.getLast?_cons_cons]
      exact h

theorem trimBlankList_blank_cons
    {c : Char}
    (cs : List Char)
    (h : isBlank c = true) :
    trimBlankList (c :: cs) = trimBlankList cs := by
  unfold trimBlankList
  rw [List.dropWhile_cons_of_pos h]

end OptionGrammar.Text

------------------------------------------------------------
-- Comment Marks
------------------------------------------------------------

namespace OptionGrammar

/- A text that stays on one line and holds no `//`. -/
def Uncommented (cs : List Char) : Prop :=
  '\n' ∉ cs ∧ cutComment cs = cs

theorem cutComment_cons_of_ne
    {c : Char}
    (cs : List Char)
    (hc : c ≠ '/') :
    cutComment (c :: cs) = c :: cutComment cs :=
  cutComment.eq_2 c cs fun _ hSlash _ => hc hSlash

/-
  A text that no cut shortens keeps its tail uncut, and does not
  start with `//`.
-/
theorem cutComment_of_cons
    {x : Char}
    {cs : List Char}
    (h : cutComment (x :: cs) = x :: cs) :
    cutComment cs = cs ∧ ¬(x = '/' ∧ cs.head? = some '/') := by
  by_cases hMark : x = '/' ∧ cs.head? = some '/'
  · obtain ⟨rfl, hHead⟩ := hMark
    cases cs with
    | nil => simp at hHead
    | cons y rest =>
        simp only [List.head?_cons, Option.some.injEq] at hHead
        subst hHead
        rw [cutComment.eq_1] at h
        exact absurd h (List.cons_ne_nil _ _).symm
  · have hStep : cutComment (x :: cs) = x :: cutComment cs := by
      apply cutComment.eq_2
      intro tail hx hcs
      exact hMark ⟨hx, by simp [hcs]⟩
    rw [hStep] at h
    exact ⟨List.cons.inj h |>.2, hMark⟩

/-
  An uncut text followed by a character other than `/` is never
  cut: a `//` would have to start inside it.
-/
theorem cutComment_append_cons
    {a : List Char}
    {c : Char}
    (b : List Char)
    (ha : cutComment a = a)
    (hc : c ≠ '/') :
    cutComment (a ++ c :: b) = a ++ c :: cutComment b := by
  induction a with
  | nil => exact cutComment_cons_of_ne b hc
  | cons x a ih =>
      obtain ⟨hTail, hNoMark⟩ := cutComment_of_cons ha
      have hStep :
          cutComment (x :: (a ++ c :: b)) = x :: cutComment (a ++ c :: b) := by
        apply cutComment.eq_2
        intro tail hx hEq
        cases a with
        | nil =>
            simp only [List.nil_append, List.cons.injEq] at hEq
            exact hc hEq.1
        | cons y rest =>
            simp only [List.cons_append, List.cons.injEq] at hEq
            exact hNoMark ⟨hx, by simp [hEq.1]⟩
      rw [List.cons_append, hStep, ih hTail, List.cons_append]

theorem cutComment_of_append_right
    {a b : List Char}
    (h : cutComment (a ++ b) = a ++ b) :
    cutComment b = b := by
  induction a with
  | nil => exact h
  | cons x a ih => exact ih (cutComment_of_cons h).1

theorem cutComment_of_append_left
    {a b : List Char}
    (h : cutComment (a ++ b) = a ++ b) :
    cutComment a = a := by
  induction a with
  | nil => rfl
  | cons x a ih =>
      obtain ⟨hTail, hNoMark⟩ := cutComment_of_cons h
      have hStep : cutComment (x :: a) = x :: cutComment a := by
        apply cutComment.eq_2
        intro tail hx ha
        exact hNoMark ⟨hx, by simp [ha]⟩
      rw [hStep, ih hTail]

theorem Uncommented.left
    {a b : List Char}
    (h : Uncommented (a ++ b)) :
    Uncommented a :=
  ⟨fun hn => h.1 (List.mem_append_left b hn), cutComment_of_append_left h.2⟩

theorem Uncommented.right
    {a b : List Char}
    (h : Uncommented (a ++ b)) :
    Uncommented b :=
  ⟨fun hn => h.1 (List.mem_append_right a hn), cutComment_of_append_right h.2⟩

theorem uncommented_cons
    {c : Char}
    {cs : List Char}
    (hSlash : c ≠ '/')
    (hFeed : c ≠ '\n')
    (h : Uncommented cs) :
    Uncommented (c :: cs) := by
  refine ⟨?_, by rw [cutComment_cons_of_ne cs hSlash, h.2]⟩
  intro hn
  rcases List.mem_cons.mp hn with hc | hn
  · exact hFeed hc.symm
  · exact h.1 hn

theorem Uncommented.of_part
    {a b : List Char}
    (hab : a <:+: b)
    (h : Uncommented b) :
    Uncommented a := by
  obtain ⟨front, back, rfl⟩ := hab
  exact h.left.right

/- Two uncut texts stay uncut side by side unless the second starts a mark. -/
theorem Uncommented.append
    {a b : List Char}
    (ha : Uncommented a)
    (hb : Uncommented b)
    (hHead : b.head? ≠ some '/') :
    Uncommented (a ++ b) := by
  refine ⟨fun hn => (List.mem_append.mp hn).elim ha.1 hb.1, ?_⟩
  cases b with
  | nil => simpa using ha.2
  | cons c b =>
      have hc : c ≠ '/' := fun hc => hHead (by rw [hc]; rfl)
      rw [cutComment_append_cons b ha.2 hc, (cutComment_of_cons hb.2).1]

/- What the cut keeps is a front part of the text. -/
theorem cutComment_prefix
    (cs : List Char) :
    ∃ rest, cs = cutComment cs ++ rest := by
  induction cs using cutComment.induct with
  | case1 tail => exact ⟨'/' :: '/' :: tail, rfl⟩
  | case2 c cs hNoMark ih =>
      obtain ⟨rest, hRest⟩ := ih
      refine ⟨rest, ?_⟩
      rw [cutComment.eq_2 c cs hNoMark, List.cons_append, ← hRest]
  | case3 => exact ⟨[], rfl⟩

theorem cutComment_cutComment
    (cs : List Char) :
    cutComment (cutComment cs) = cutComment cs := by
  induction cs using cutComment.induct with
  | case1 tail => rw [cutComment.eq_1, cutComment.eq_3]
  | case2 c cs hNoMark ih =>
      rw [cutComment.eq_2 c cs hNoMark]
      apply (cutComment.eq_2 c (cutComment cs) ?_).trans
      · rw [ih]
      · -- the cut tail starts as the tail does, so no mark starts at `c`
        intro tail hc hCut
        obtain ⟨rest, hRest⟩ := cutComment_prefix cs
        rw [hCut, List.cons_append] at hRest
        exact hNoMark _ hc hRest
  | case3 => rfl

/- A line cut at its comment and trimmed holds no `//`. -/
theorem uncommented_trimBlankList_cutComment
    {cs : List Char}
    (h : '\n' ∉ cs) :
    Uncommented (Text.trimBlankList (cutComment cs)) := by
  obtain ⟨rest, hRest⟩ := cutComment_prefix cs
  have hCut : Uncommented (cutComment cs) :=
    ⟨fun hn => h (hRest ▸ List.mem_append_left rest hn), cutComment_cutComment cs⟩
  obtain ⟨front, back, -, -, hSplit⟩ := Text.trimBlankList_split (cutComment cs)
  exact hCut.of_part ⟨front, back, hSplit.symm⟩

end OptionGrammar

------------------------------------------------------------
-- Closing a Value Pattern
------------------------------------------------------------

namespace OptionGrammar

open Text

/- The text starts, after blanks, with the bar that opens help. -/
def StartsHelp (v : List Char) : Prop :=
  (v.dropWhile isBlank).head? = some '|'

/-
  A pattern text that a `>` closes only at its end: no `>` inside
  it, after at least one character, is followed by the start of
  help.  So whatever may end the line after the final `>`, no
  earlier `>` closes the pattern.
-/
def ClosesAtEnd (d : List Char) : Prop :=
  ∀ u v, d = u ++ '>' :: v → u ≠ [] → ¬StartsHelp v

theorem StartsHelp.append
    {v : List Char}
    (h : StartsHelp v)
    (w : List Char) :
    StartsHelp (v ++ w) := by
  unfold StartsHelp at h ⊢
  have hFilled : (v.dropWhile isBlank).isEmpty = false := by
    cases hDrop : v.dropWhile isBlank with
    | nil => simp [hDrop] at h
    | cons c cs => rfl
  rw [List.dropWhile_append, hFilled, if_neg Bool.false_ne_true,
    List.head?_append, h]
  rfl

/-
  Text followed by a `>` may end a declaration exactly when it
  starts help: the `>` is not blank, so only a bar before it lets
  the line end.
-/
theorem endsDeclaration_append_close_iff
    (v r : List Char) :
    endsDeclaration (v ++ '>' :: r) = true ↔ StartsHelp v := by
  have hClose : ('>' :: r).dropWhile isBlank = '>' :: r :=
    List.dropWhile_cons_of_neg (by decide)
  unfold endsDeclaration StartsHelp
  rw [List.dropWhile_append]
  cases hDrop : v.dropWhile isBlank with
  | nil => simp [hClose]
  | cons c cs =>
      by_cases hBar : c = '|'
      · subst hBar
        simp
      · simp [hBar]

theorem closesAtEnd_cons
    {c : Char}
    {d : List Char}
    (h : ClosesAtEnd (c :: d)) :
    ClosesAtEnd d := by
  intro u v hSplit hu
  exact h (c :: u) v (by rw [hSplit, List.cons_append]) (List.cons_ne_nil _ _)

/- A part of a text that closes at its end closes at its end too. -/
theorem ClosesAtEnd.middle
    {front d back : List Char}
    (h : ClosesAtEnd (front ++ d ++ back)) :
    ClosesAtEnd d := by
  intro u v hSplit hu hHelp
  have hWhole : front ++ d ++ back = (front ++ u) ++ '>' :: (v ++ back) := by
    rw [hSplit]
    simp
  exact h (front ++ u) (v ++ back) hWhole (by simp [hu]) (hHelp.append back)

theorem closePattern_close
    (acc : List Char)
    (c : Char)
    {rest : List Char}
    (h : endsDeclaration rest = true) :
    closePattern acc (c :: '>' :: rest) = some (acc ++ [c], rest) := by
  rw [closePattern.eq_2, if_pos h]

/-
  A `>` after which the line may not end does not close the
  pattern: the character before it joins the pattern text.
-/
theorem closePattern_skip
    (acc : List Char)
    (c : Char)
    {cs : List Char}
    (h : ∀ rest, cs = '>' :: rest → endsDeclaration rest = false) :
    closePattern acc (c :: cs) = closePattern (acc ++ [c]) cs := by
  by_cases hClose : ∃ rest, cs = '>' :: rest
  · obtain ⟨rest, rfl⟩ := hClose
    rw [closePattern.eq_2, h rest rfl]
    rfl
  · exact closePattern.eq_3 acc c cs fun rest hcs => hClose ⟨rest, hcs⟩

/-
  A pattern text that closes at its end is read whole from the
  text it is followed by, up to its closing `>`.
-/
theorem closePattern_append
    (acc : List Char)
    {d r : List Char}
    (hd : d ≠ [])
    (hCloses : ClosesAtEnd d)
    (hEnds : endsDeclaration r = true) :
    closePattern acc (d ++ '>' :: r) = some (acc ++ d, r) := by
  induction d generalizing acc with
  | nil => exact absurd rfl hd
  | cons c d ih =>
      cases d with
      | nil => exact closePattern_close acc c hEnds
      | cons e d =>
          -- a `>` inside the text is not followed by help
          have hSkip : ∀ rest, (e :: d) ++ '>' :: r = '>' :: rest →
              endsDeclaration rest = false := by
            intro rest hSplit
            simp only [List.cons_append, List.cons.injEq] at hSplit
            obtain ⟨rfl, rfl⟩ := hSplit
            have hNoHelp := hCloses [c] d rfl (List.cons_ne_nil _ _)
            rw [← endsDeclaration_append_close_iff d r] at hNoHelp
            simpa using hNoHelp
          rw [List.cons_append, closePattern_skip acc c hSkip,
            ih (acc ++ [c]) (List.cons_ne_nil _ _) (closesAtEnd_cons hCloses)]
          simp

/-
  A text closes at its end after one more character when it does
  and its own first `>`, if it starts with one, opens no help.
-/
theorem closesAtEnd_cons_of
    {c : Char}
    {d : List Char}
    (hCloses : ClosesAtEnd d)
    (hFirst : ∀ v, d = '>' :: v → ¬StartsHelp v) :
    ClosesAtEnd (c :: d) := by
  intro u v hSplit hu
  cases u with
  | nil => exact absurd rfl hu
  | cons x u =>
      simp only [List.cons_append, List.cons.injEq] at hSplit
      cases u with
      | nil => exact hFirst v hSplit.2
      | cons y u => exact hCloses (y :: u) v hSplit.2 (List.cons_ne_nil _ _)

/-
  What `closePattern` reads: a non-empty text that closes at its
  end, followed by `>` and a rest that may end the line.
-/
theorem closePattern_eq_some
    {acc cs t r : List Char}
    (h : closePattern acc cs = some (t, r)) :
    ∃ d, t = acc ++ d ∧ d ≠ [] ∧ cs = d ++ '>' :: r ∧
      endsDeclaration r = true ∧ ClosesAtEnd d := by
  induction acc, cs using closePattern.induct with
  | case1 acc => simp [closePattern.eq_1] at h
  | case2 acc c rest hEnds =>
      rw [closePattern_close acc c hEnds, Option.some.injEq, Prod.mk.injEq] at h
      obtain ⟨rfl, rfl⟩ := h
      refine ⟨[c], rfl, List.cons_ne_nil _ _, rfl, hEnds, ?_⟩
      -- one character holds no inner `>`
      intro u v hSplit hu
      cases u with
      | nil => exact absurd rfl hu
      | cons x u => simp at hSplit
  | case3 acc c text rest hNotEnds ih =>
      rw [closePattern.eq_2, if_neg hNotEnds] at h
      obtain ⟨d, rfl, -, hRest, hEnds, hCloses⟩ := ih h
      refine ⟨c :: d, by simp [text], List.cons_ne_nil _ _, by rw [hRest]; rfl, hEnds, ?_⟩
      -- the `>` skipped right after `c` was not followed by help
      refine closesAtEnd_cons_of hCloses fun v hd hHelp => hNotEnds ?_
      rw [hd, List.cons_append, List.cons.injEq] at hRest
      rw [hRest.2]
      exact (endsDeclaration_append_close_iff v r).mpr hHelp
  | case4 acc c cs text hNotClose ih =>
      rw [closePattern.eq_3 acc c cs hNotClose] at h
      obtain ⟨d, rfl, -, hRest, hEnds, hCloses⟩ := ih h
      refine ⟨c :: d, by simp [text], List.cons_ne_nil _ _, by rw [hRest]; rfl, hEnds, ?_⟩
      refine closesAtEnd_cons_of hCloses fun v hd _ => ?_
      rw [hd, List.cons_append] at hRest
      exact hNotClose _ hRest

end OptionGrammar

------------------------------------------------------------
-- Lines
------------------------------------------------------------

namespace OptionGrammar

theorem splitNewlines_append_newline
    {l : List Char}
    (rest : List Char)
    (hl : '\n' ∉ l) :
    splitNewlines (l ++ '\n' :: rest) = l :: splitNewlines rest := by
  induction l with
  | nil => simp [splitNewlines]
  | cons c l ih =>
      have hc : c ≠ '\n' := fun hc => hl (hc ▸ List.mem_cons_self)
      have hTail : '\n' ∉ l := fun hn => hl (List.mem_cons_of_mem c hn)
      rw [List.cons_append, splitNewlines, if_neg hc, ih hTail]

theorem not_mem_of_mem_splitNewlines
    {cs l : List Char}
    (h : l ∈ splitNewlines cs) :
    '\n' ∉ l := by
  induction cs generalizing l with
  | nil =>
      simp only [splitNewlines, List.mem_singleton] at h
      simp [h]
  | cons c cs ih =>
      unfold splitNewlines at h
      split at h
      · rcases List.mem_cons.mp h with rfl | hMem
        · simp
        · exact ih hMem
      · -- the first piece grows by `c`, which is no line feed
        rename_i hc
        split at h
        · rename_i first pieces hSplit
          rcases List.mem_cons.mp h with rfl | hMem
          · have hFirst := ih (l := first) (by rw [hSplit]; exact List.mem_cons_self)
            simp [Ne.symm hc, hFirst]
          · exact ih (by rw [hSplit]; exact List.mem_cons_of_mem _ hMem)
        · simp only [List.mem_singleton] at h
          simp [h, Ne.symm hc]

/- No line of a grammar holds a line feed. -/
theorem newline_not_mem_grammarLines
    {text l : String}
    (h : l ∈ grammarLines text) :
    '\n' ∉ l.toList := by
  unfold grammarLines at h
  have hPiece : ∀ x, x ∈ (splitNewlines text.toList).reverse → '\n' ∉ x :=
    fun x hx => not_mem_of_mem_splitNewlines (List.mem_reverse.mp hx)
  split at h
  · simp at h
  · rename_i last ended hSplit
    have hEnded : ∀ x ∈ ended, '\n' ∉ x := fun x hx =>
      hPiece x (by rw [hSplit]; exact List.mem_cons_of_mem _ hx)
    have hDrop : ∀ x ∈ ended, '\n' ∉ dropReturn x := by
      intro x hx hn
      unfold dropReturn at hn
      split at hn
      · exact hEnded x hx ((List.dropLast_sublist x).subset hn)
      · exact hEnded x hx hn
    dsimp only at h
    split at h <;> simp only [List.mem_append, List.mem_map, List.mem_reverse,
      List.mem_singleton] at h
    · obtain ⟨x, hx, rfl⟩ := h
      simpa using hDrop x hx
    · rcases h with ⟨x, hx, rfl⟩ | rfl
      · simpa using hDrop x hx
      · simpa using hPiece last (by rw [hSplit]; exact List.mem_cons_self)

/-
  A text made of lines, each ended by a line feed, splits at its
  line feeds into those lines and the empty rest after the last
  one, when no line holds a line feed.
-/
theorem splitNewlines_join
    {ls : List String}
    (h : ∀ l ∈ ls, '\n' ∉ l.toList) :
    splitNewlines (String.join (ls.map (· ++ "\n"))).toList = ls.map String.toList ++ [[]] := by
  induction ls with
  | nil => rfl
  | cons l ls ih =>
      have hNewline : "\n".toList = ['\n'] := rfl
      rw [List.map_cons, String.join_cons, String.toList_append,
        String.toList_append, hNewline, List.append_assoc,
        List.singleton_append, splitNewlines_append_newline _ (h l List.mem_cons_self),
        ih fun x hx => h x (List.mem_cons_of_mem l hx)]
      rfl

/-
  A text made of lines, each ended by a line feed, is read back as
  those lines, when none holds a line feed or ends in a carriage
  return.
-/
theorem grammarLines_join
    {ls : List String}
    (h : ∀ l ∈ ls, '\n' ∉ l.toList ∧ l.toList.getLast? ≠ some '\r') :
    grammarLines (String.join (ls.map (· ++ "\n"))) = ls := by
  have hSplit := splitNewlines_join fun l hl => (h l hl).1
  have hKeep : ∀ l ∈ ls, String.ofList (dropReturn l.toList) = l := by
    intro l hl
    unfold dropReturn
    split
    · exact absurd ‹_› (h l hl).2
    · exact String.ofList_toList
  unfold grammarLines
  rw [hSplit, List.reverse_append]
  simp only [List.reverse_cons, List.reverse_nil, List.nil_append,
    List.cons_append, List.isEmpty_nil, if_true, List.reverse_reverse,
    List.map_map]
  exact (List.map_congr_left fun l hl => hKeep l hl).trans (List.map_id ls)
end OptionGrammar
